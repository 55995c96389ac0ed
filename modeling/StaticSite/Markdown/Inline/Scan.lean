import StaticSite.Markdown.Inline.Autolink
import StaticSite.Markdown.Inline.Code
import StaticSite.Markdown.Inline.Emphasis
import StaticSite.Markdown.LinkTarget
import StaticSite.Markdown.Tag
import StaticSite.Text.CaseFold

/-!
# Lines of text

The text of a paragraph, a heading or a table cell is read from the left: escapes, references, code,
HTML, addresses, links, footnotes and line breaks become events at once, and runs of emphasis marks
become nodes that are settled later, for each link on its own.

An opening bracket is kept on a stack with the nodes before it. A closing one takes the innermost of
them: if a target or a defined label is found, the nodes in between become the text of a link or an
image, else both brackets are plain text. A link holds no other link, so a finished link puts the
outer brackets out of use that would make one.
-/

namespace StaticSite.Markdown

/-- What the labels of a document stand for. -/
structure Definitions where
  /-- The targets of labels in folded form. -/
  targets : List (Text × LinkTarget)
  /-- The labels of footnotes in folded form. -/
  notes : List Text

namespace Definitions

/-- The target of a label; case does not matter, and of two definitions the first one counts. -/
def target? (d : Definitions) (label : Text) : Option LinkTarget :=
  let key := label.fold
  (d.targets.find? fun entry => entry.1 = key).map Prod.snd

/-- Whether a footnote has the label. -/
def hasNote (d : Definitions) (label : Text) : Bool :=
  d.notes.contains label.fold

end Definitions

/-- An opening bracket. -/
structure Bracket where
  /-- Whether an exclamation mark before it asks for an image. -/
  isImage : Bool
  /-- Whether it may still begin a link. -/
  isUsable : Bool
  /-- The nodes before it, up to the bracket around it, the last one first. -/
  before : List Node
  /-- The text behind it. -/
  behind : Text

/-- The bracket as plain text, the last character first. -/
def Bracket.reversedText (b : Bracket) : Text :=
  if b.isImage then ['[', '!'] else ['[']

/-- A text that is being read. -/
structure Scanner where
  /-- The nodes behind the innermost open bracket, the last one first. -/
  nodes : List Node := []
  /-- The open brackets, the innermost first. -/
  brackets : List Bracket := []

namespace Scanner

/-- Adds plain text, given with the last character first. -/
def addReversed (s : Scanner) (t : Text) : Scanner :=
  match s.nodes with
  | .text reversed :: nodes => { s with nodes := .text (t ++ reversed) :: nodes }
  | nodes => { s with nodes := .text t :: nodes }

/-- Adds plain text. -/
def addText (s : Scanner) (t : Text) : Scanner :=
  s.addReversed t.reverse

/-- Adds events. -/
def addEvents (s : Scanner) (es : List Event) : Scanner :=
  { s with nodes := .events es :: s.nodes }

/-- Opens a bracket in front of a text. -/
def openBracket (s : Scanner) (isImage : Bool) (behind : Text) : Scanner :=
  ⟨[], ⟨isImage, true, s.nodes, behind⟩ :: s.brackets⟩

/-- Gives up the innermost bracket, which becomes plain text. -/
def dropBracket (s : Scanner) : Scanner :=
  match s.brackets with
  | [] => s
  | b :: outer => ⟨s.nodes ++ .text b.reversedText :: b.before, outer⟩

/-- The nodes with all brackets as plain text, the last one first. -/
def flatten (nodes : List Node) : List Bracket → List Node
  | [] => nodes
  | b :: outer => flatten (nodes ++ .text b.reversedText :: b.before) outer

/-- Puts the brackets out of use that would make a link. -/
def retire (brackets : List Bracket) : List Bracket :=
  brackets.map fun b => if b.isImage then b else { b with isUsable := false }

/-- Makes a link or an image of the nodes behind the innermost bracket. -/
def link (s : Scanner) (target : LinkTarget) : Scanner :=
  match s.brackets with
  | [] => s
  | b :: outer =>
    let element : Element :=
      if b.isImage then .image target.address target.title
      else .link target.address target.title
    let es := .start element :: settle s.nodes.reverse ++ [.finish element]
    ⟨.events es :: b.before, if b.isImage then outer else retire outer⟩

/-- Puts a reference to a footnote in the place of the innermost bracket. The other open brackets
become plain text. -/
def footnote (s : Scanner) (label : Text) : Scanner :=
  match s.brackets with
  | [] => s
  | b :: outer =>
    let before := if b.isImage then .text ['!'] :: b.before else b.before
    ⟨.events [.footnoteReference label] :: flatten before outer, []⟩

end Scanner

/-- What a pair of brackets stands for, with the text behind it. -/
inductive Resolution
  | link (target : LinkTarget) (rest : Text)
  | footnote (label : Text) (rest : Text)

/-- The label of a footnote between brackets, of which nothing is left over. -/
def bracketNote? : Text → Option Text
  | '^' :: t =>
    match noteLabel? (t ++ [']']) with
    | some (label, []) => some label
    | _ => none
  | _ => none

/-- What a text between brackets stands for by itself. -/
def resolveShortcut? (d : Definitions) (raw rest behind : Text) : Option Resolution :=
  match bracketNote? raw with
  | some label => if d.hasNote label then some (.footnote label rest) else none
  | none =>
    match label? true (raw ++ [']']) with
    | some (label, []) => (d.target? label).map fun target => .link target behind
    | _ => none

/-- What a text between brackets stands for: by a target in parentheses behind it, by a label in
brackets behind it, or by itself, where empty brackets may follow. -/
def resolveBrackets? (d : Definitions) (raw rest : Text) : Option Resolution :=
  match inlineTarget? rest with
  | some (target, behind) => some (.link target behind)
  | none =>
    match rest with
    | '[' :: ']' :: behind => resolveShortcut? d raw rest behind
    | '[' :: t =>
      let isNote :=
        match t with
        | '^' :: note => note.head? != some ']' && (noteLabel? note).isSome
        | _ => false
      if isNote then resolveShortcut? d raw rest rest
      else
        match label? true t with
        | some (label, behind) => (d.target? label).map fun target => .link target behind
        | none => resolveShortcut? d raw rest rest
    | _ => resolveShortcut? d raw rest rest

namespace Scanner

/-- Reads a closing bracket, with the text behind it. -/
def closeBracket (d : Definitions) (s : Scanner) (rest : Text) : Scanner × Text :=
  match s.brackets with
  | [] => (s.addText [']'], rest)
  | b :: _ =>
    let raw := b.behind.take (b.behind.length - rest.length - 1)
    match if b.isUsable then resolveBrackets? d raw rest else none with
    | none => (s.dropBracket.addText [']'], rest)
    | some (.link target behind) => (s.link target, behind)
    | some (.footnote label behind) => (s.footnote label, behind)

/-- Reads what an angle bracket opens, with the text behind it. -/
def readAngle (s : Scanner) (t : Text) : Scanner × Text :=
  match uri? t with
  | some (address, rest) =>
    let element : Element := .link address []
    (s.addEvents [.start element, .text address, .finish element], rest)
  | none =>
    match mailbox? t with
    | some (address, rest) =>
      let element : Element := .link ("mailto:".toList ++ address) []
      (s.addEvents [.start element, .text address, .finish element], rest)
    | none =>
      match if t.head? = some '\\' then none else dropInlineHtml? t with
      | some rest => (s.addEvents [.inlineHtml ('<' :: t.take (t.length - rest.length))], rest)
      | none => (s.addText ['<'], t)

/-- Reads code behind a run of backticks. -/
def readCode (s : Scanner) (count : Nat) (t : Text) : Scanner × Text :=
  match code? count t with
  | some (code, rest) => (s.addEvents [.code code], rest)
  | none => (s.addText (List.replicate count codeMark), t)

/-- Reads a run of emphasis marks, with the character before it and the text behind it. -/
def readRun (s : Scanner) (mark : Char) (count : Nat) (before : Option Char) (t : Text) : Scanner :=
  let opens := canOpen mark count before t.head?
  let closes := canClose mark count before t.head?
  if (opens || closes) && !(mark = '~' && 2 < count) then
    { s with nodes := .run mark count opens closes :: s.nodes }
  else s.addText (List.replicate count mark)

/-- Reads blanks and what follows: a line break, or more text. A line break matters when two blanks
or more stand before it. -/
def readBlanks (s : Scanner) (t : Text) : Scanner × Text × Option Char :=
  let blanks := t.takeWhile isBlankChar
  match t.drop blanks.length with
  | '\n' :: rest =>
    let e : Event := if 2 ≤ blanks.length then .hardBreak else .softBreak
    (s.addEvents [e], rest.dropWhile isSpaceOrTab, none)
  | rest => (s.addText blanks, rest, blanks.getLast?)

/-- Reads what begins at the first character of a text; `before` is the character before it on its
line. Answers with the text behind what was read and the character before that. -/
def step (d : Definitions) (s : Scanner) (before : Option Char) (c : Char) (t : Text) :
    Scanner × Text × Option Char :=
  if c = '\n' || isBlankChar c then s.readBlanks (c :: t)
  else if c = '\\' then
    match t with
    | [] => (s.addText [c], t, some c)
    | '\n' :: rest => (s.addEvents [.hardBreak], rest.dropWhile isSpaceOrTab, none)
    | e :: rest =>
      if e = codeMark then
        let run := rest.takeWhile fun x => x == codeMark
        let (s, rest) := (s.addText [e]).readCode run.length (rest.drop run.length)
        (s, rest, some e)
      else if isAsciiPunctuation e then (s.addText [e], rest, some e)
      else (s.addText [c], t, some c)
  else if c = codeMark then
    let run := (c :: t).takeWhile fun x => x == codeMark
    let (s, rest) := s.readCode run.length ((c :: t).drop run.length)
    (s, rest, some c)
  else if c = '<' then
    let (s', rest) := s.readAngle t
    (s', rest, some (if rest.length = t.length then '<' else '>'))
  else if c = '&' then
    match reference? t with
    | some (chars, rest) => (s.addText chars, rest, some ';')
    | none => (s.addText [c], t, some c)
  else if c = '*' || c = '_' || c = '~' then
    let count := ((c :: t).takeWhile fun x => x == c).length
    let rest := (c :: t).drop count
    (s.readRun c count before rest, rest, some c)
  else if c = '!' && t.head? = some '[' then (s.openBracket true (t.drop 1), t.drop 1, some '[')
  else if c = '[' then (s.openBracket false t, t, some '[')
  else if c = ']' then
    let (s', rest) := s.closeBracket d t
    let last := (t.take (t.length - rest.length)).getLast?
    (s', rest, some (last.getD ']'))
  else (s.addText [c], t, some c)

/-- Reads a text in at most `fuel` steps; each uses up a character at least. -/
def run (d : Definitions) : (fuel : Nat) → Scanner → Option Char → Text → Scanner
  | 0, s, _, _ => s
  | _, s, _, [] => s
  | fuel + 1, s, before, c :: t =>
    let (s, rest, before) := step d s before c t
    run d fuel s before rest

end Scanner

/-- The events of a text. -/
def inlineEvents (d : Definitions) (t : Text) : List Event :=
  let s := Scanner.run d t.length {} none t
  settle (Scanner.flatten s.nodes s.brackets).reverse

end StaticSite.Markdown
