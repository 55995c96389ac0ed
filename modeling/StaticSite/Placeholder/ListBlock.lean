import StaticSite.Build.Error
import StaticSite.Placeholder.Scan

/-!
# List blocks in a text

A list block reaches from the first list start of a text to the first list end of the text. Both
are looked for on their own, so a text with a start may have no end for it, or an end that comes too
early.
-/

namespace StaticSite

/-- The first list block of a text, with the text around it. -/
structure ListBlock where
  /-- The text before the list start. -/
  before : Text
  /-- The group and the count of the list start. -/
  start : Placeholder.ListStart
  /-- The text between the list start and the list end. -/
  body : Text
  /-- The text behind the list end. -/
  after : Text
  deriving DecidableEq, Repr, Inhabited

namespace ListBlock

/-- The first list start of a text with its group and count. -/
def firstStart? (t : Text) : Option (Occurrence × Placeholder.ListStart) :=
  (scan t).findSome? fun o => o.placeholder.listStart?.map fun s => (o, s)

/-- The first list end of a text. -/
def firstEnd? (t : Text) : Option Occurrence :=
  (scan t).find? fun o => o.placeholder.isListEnd

/-- The number of list starts in a text. -/
def countStarts (t : Text) : Nat :=
  (scan t).countP fun o => o.placeholder.listStart?.isSome

/-- The first list block of a text; `none` for a text without a list start. -/
def find (t : Text) : Except BuildError (Option ListBlock) :=
  match firstStart? t with
  | none => .ok none
  | some (opening, start) =>
    match firstEnd? t with
    | none => .error (.missingListEnd start.group)
    | some closing =>
      if closing.start < opening.stop then .error (.listEndBeforeStart start.group)
      else
        .ok (some {
          before := Text.takeBytes opening.start t
          start := start
          body := Text.takeBytes (closing.start - opening.stop) (Text.dropBytes opening.stop t)
          after := Text.dropBytes closing.stop t })

end ListBlock

end StaticSite
