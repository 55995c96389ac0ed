import StaticSite.Placeholder.Basic

/-!
# Scanning

`scan` lists every placeholder of a text with the byte offset at which it begins. A placeholder is
found wherever a text begins with one, also inside the body of another one: in `@{a @{b}}` both
`@{a @{b}` and `@{b}` are found.

A `Scanner` finds them one after the other. It goes from sigil to sigil and reads on behind an
opening brace, also behind that of a placeholder it has found.
-/

namespace StaticSite

/-- A placeholder and the byte offset at which it begins. -/
structure Occurrence where
  /-- The placeholder. -/
  placeholder : Placeholder
  /-- The number of bytes before it. -/
  start : Nat
  deriving DecidableEq, Repr, Inhabited

namespace Occurrence

/-- The byte offset behind the placeholder. -/
def stop (o : Occurrence) : Nat :=
  o.start + Text.utf8Size o.placeholder.raw

end Occurrence

/-- A text that is being scanned. -/
structure Scanner where
  /-- The byte offset that reading has come to. -/
  position : Nat
  /-- The text from there on. -/
  rest : Text
  deriving DecidableEq, Repr, Inhabited

namespace Scanner

/-- A text before it is scanned. -/
def ofText (t : Text) : Scanner where
  position := 0
  rest := t

/-- The first placeholder of a text that begins at byte offset `position`, and the scanner behind
its opening brace. -/
def nextFrom (position : Nat) : Text → Option (Occurrence × Scanner)
  | [] => none
  | c :: t =>
    match Sigil.ofChar? c with
    | none => nextFrom (position + c.utf8Size) t
    | some sigil =>
      match t with
      | [] => none
      | b :: rest =>
        if b = '{' then
          match closeBrace? rest with
          | some (body, _) => some (⟨⟨sigil, body⟩, position⟩, ⟨position + 2, rest⟩)
          -- an opening without an end on its line may be followed by a placeholder
          | none => nextFrom (position + 2) rest
        else nextFrom (position + 1) (b :: rest)

/-- The next placeholder, and the scanner that goes on behind its opening brace. -/
def next? (s : Scanner) : Option (Occurrence × Scanner) :=
  nextFrom s.position s.rest

/-- The placeholders that are still to be found, at most as many as `limit` has characters. -/
def collect : (limit : Text) → Scanner → List Occurrence
  | [], _ => []
  | _ :: limit, s =>
    match s.next? with
    | none => []
    | some (o, s) => o :: collect limit s

end Scanner

/-- The placeholders of a text, in order of their beginnings. There are no more of them than
characters. -/
def scan (t : Text) : List Occurrence :=
  Scanner.collect t (Scanner.ofText t)

/-- The written form of the first placeholder of a text. -/
def firstPlaceholder? (t : Text) : Option Text :=
  (Scanner.ofText t).next?.map fun found => found.1.placeholder.raw

end StaticSite
