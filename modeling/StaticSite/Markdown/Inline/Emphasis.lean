import StaticSite.Markdown.Event
import StaticSite.Text.Punctuation
import StaticSite.Text.WhiteSpace

/-!
# Emphasis

Runs of asterisks, underscores and tildes mark parts of a text. A run may open a part, close one, or
both, as the characters beside it say (`canOpen`, `canClose`). `settle` goes through the nodes of a
text from the left: a run that may close takes the nearest open run that fits, and again, until its
marks are used up. Of the marks two and two make strong emphasis and a last single one makes plain
emphasis, from the inside out.
-/

namespace StaticSite.Markdown

/-! ## Runs -/

/-- Whether a run may open a part, from the characters before and behind it; `none` stands for the
start of a line and for the end of the text. -/
def canOpen (mark : Char) (count : Nat) (before behind : Option Char) : Bool :=
  match behind with
  | none => false
  | some next =>
    if isWhiteSpace next then false
    else
      match before with
      | none => true
      | some last =>
        (mark = '*' && !isPunctuation next) || (mark = '~' && 1 < count) ||
          (mark = '~' && last = '~' && !isPunctuation next) || isWhiteSpace last ||
          isPunctuation last

/-- Whether a run may close a part, from the characters before and behind it. -/
def canClose (mark : Char) (count : Nat) (before behind : Option Char) : Bool :=
  match before with
  | none => false
  | some last =>
    if isWhiteSpace last then false
    else
      match behind with
      | none => true
      | some next =>
        ((mark = '*' || (mark = '~' && 1 < count)) && !isPunctuation last) ||
          (mark = '~' && last = '~') || isWhiteSpace next || isPunctuation next

/-- A node of a text whose emphasis is not settled. -/
inductive Node
  /-- Plain text, the last character first. -/
  | text (reversed : Text)
  /-- Events that are settled. -/
  | events (es : List Event)
  /-- A run of marks. -/
  | run (mark : Char) (count : Nat) (opens closes : Bool)
  deriving Repr, Inhabited

/-- The marks of a run as text. -/
def literalRun (mark : Char) (count : Nat) : List Event :=
  if count = 0 then [] else [.text (List.replicate count mark)]

/-! ## Matching runs -/

/-- A run that may open a part, with the events behind it. -/
structure Opener where
  mark : Char
  /-- The number of marks that are left. -/
  count : Nat
  /-- The number of marks that the run had. -/
  length : Nat
  /-- Whether the run may close a part, too. -/
  both : Bool
  /-- The events behind the run, up to the next opener, the last one first. -/
  behind : List Event
  deriving Repr, Inhabited

/-- A text whose emphasis is being settled. -/
structure Settling where
  /-- The events before the first opener, the last one first. -/
  settled : List Event := []
  /-- The openers, the innermost first. -/
  openers : List Opener := []
  /-- The number of outermost openers that no run of tildes may close any more: a run of tildes has
  looked at them in vain. -/
  closedToTildes : Nat := 0

/-- Whether a run of a given length closes an opener. Tildes close runs of the same length. Runs
that may both open and close do not fit when their lengths add up to a multiple of three, unless
both are multiples of three. -/
def Opener.fits (o : Opener) (mark : Char) (length : Nat) (both : Bool) : Bool :=
  o.mark = mark && (mark != '~' || o.length = length) &&
    ((!both && !o.both) || (length + o.length) % 3 != 0 || length % 3 == 0)

/-- The events of an emphasised part, from the inside out; all lists have the last event first. -/
def emphasise (mark : Char) : (count : Nat) → List Event → List Event
  | 0, inner => inner
  | 1, inner =>
    let element : Element := if mark = '~' then .strikethrough else .emphasis
    .finish element :: inner ++ [.start element]
  | count + 2, inner =>
    let element : Element := if mark = '~' then .strikethrough else .strong
    emphasise mark count (.finish element :: inner ++ [.start element])

namespace Settling

/-- Adds events, the last one first. -/
def add (s : Settling) (reversed : List Event) : Settling :=
  match s.openers with
  | [] => { s with settled := reversed ++ s.settled }
  | o :: outer => { s with openers := { o with behind := reversed ++ o.behind } :: outer }

/-- The events of openers that close nothing and of what is behind them, the last one first. -/
def flattenOpeners (openers : List Opener) : List Event :=
  openers.flatMap fun o => o.behind ++ literalRun o.mark o.count

/-- The position of the opener that a run closes. -/
def match? (s : Settling) (mark : Char) (length : Nat) (both : Bool) : Option Nat :=
  let available :=
    if mark = '~' then s.openers.take (s.openers.length - s.closedToTildes) else s.openers
  available.findIdx? fun o => o.fits mark length both

/-- Closes the opener at a position with some marks of a run of which `count` are left; answers
with the number of marks that are used. -/
def closeAt (s : Settling) (position count : Nat) (both : Bool) : Nat × Settling :=
  match s.openers.drop position with
  | [] => (count, s)
  | o :: outer =>
    let used := min count o.count
    let inner := flattenOpeners (s.openers.take position) ++ o.behind
    let part := emphasise o.mark used inner
    let closedToTildes := min s.closedToTildes outer.length
    let s := { s with openers := outer, closedToTildes }
    if used < o.count then
      (used, { s with openers := { o with count := o.count - used, both, behind := part } :: outer })
    else (used, s.add part)

/-- Closes openers with a run of which `count` marks are left, in at most `fuel` steps; each uses up
a mark at least. Answers with the number of marks that are left over. -/
def closeRun (mark : Char) (length : Nat) (both : Bool) :
    (fuel count : Nat) → Settling → Nat × Settling
  | 0, count, s => (count, s)
  | fuel + 1, count, s =>
    if count = 0 then (0, s)
    else
      match s.match? mark length both with
      | none => (count, if mark = '~' then { s with closedToTildes := s.openers.length } else s)
      | some position =>
        let (used, s) := s.closeAt position count both
        closeRun mark length both fuel (count - used) s

/-- Takes in a node. -/
def step (s : Settling) : Node → Settling
  | .text reversed => s.add [.text reversed.reverse]
  | .events es => s.add es.reverse
  | .run mark count opens closes =>
    let both := opens && closes
    let (left, s) := if closes then closeRun mark count both (count + 1) count s else (count, s)
    if left = 0 then s
    else if opens then
      { s with openers := ⟨mark, left, count, both, []⟩ :: s.openers }
    else s.add (literalRun mark left)

/-- The events of the text, with the openers that are left as text. -/
def events (s : Settling) : List Event :=
  (flattenOpeners s.openers ++ s.settled).reverse

end Settling

/-- The events of the nodes of a text. -/
def settle (nodes : List Node) : List Event :=
  (nodes.foldl Settling.step {}).events

end StaticSite.Markdown
