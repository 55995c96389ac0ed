import StaticSite.Placeholder.Scan

/-!
# Substitution

`substitute` fills a text in one pass. Each placeholder that the resolver has a value for is
replaced by that value, and all else is kept. Values are not scanned again, and a placeholder that
begins inside a replaced one is gone with it.

The pass works on the placeholders that `scan` lists: `replacements` picks those that are replaced,
and `splice` puts their values into the text. It is written for resolvers that may go by where a
placeholder occurs (`substituteOccurrences`); `substitute` takes one that does not.
-/

namespace StaticSite

/-- What a placeholder stands for; `none` leaves it as it is. -/
abbrev Resolver := Placeholder → Option Text

/-- What a placeholder stands for where it occurs. -/
abbrev OccurrenceResolver := Occurrence → Option Text

/-- Reads a placeholder alike wherever it occurs. -/
def Resolver.anywhere (resolve : Resolver) : OccurrenceResolver := fun o =>
  resolve o.placeholder

/-- The placeholders that are replaced, with their values. One that begins before `cursor` lies in a
replaced one and is passed over. -/
def replacements (resolve : OccurrenceResolver) (cursor : Nat) :
    List Occurrence → List (Occurrence × Text)
  | [] => []
  | o :: os =>
    if o.start < cursor then replacements resolve cursor os
    else
      match resolve o with
      | some value => (o, value) :: replacements resolve o.stop os
      | none => replacements resolve cursor os

/-- The placeholders that the resolver is asked for, in order: all those that do not begin in a
replaced one. -/
def asked (resolve : OccurrenceResolver) (cursor : Nat) : List Occurrence → List Occurrence
  | [] => []
  | o :: os =>
    if o.start < cursor then asked resolve cursor os
    else
      match resolve o with
      | some _ => o :: asked resolve o.stop os
      | none => o :: asked resolve cursor os

/-- Puts values in the place of placeholders of a text that begins at byte offset `cursor`. -/
def splice (cursor : Nat) (t : Text) : List (Occurrence × Text) → Text
  | [] => t
  | (o, value) :: rest =>
    Text.takeBytes (o.start - cursor) t ++ value ++
      splice o.stop (Text.dropBytes (o.stop - cursor) t) rest

/-- The text with each placeholder replaced that has a value where it occurs. -/
def substituteOccurrences (resolve : OccurrenceResolver) (t : Text) : Text :=
  splice 0 t (replacements resolve 0 (scan t))

/-- The text with each placeholder replaced that the resolver has a value for. -/
def substitute (resolve : Resolver) (t : Text) : Text :=
  substituteOccurrences resolve.anywhere t

/-- Whether the resolver has a value for any placeholder of a text. -/
def replacesAny (resolve : Resolver) (t : Text) : Bool :=
  !(replacements resolve.anywhere 0 (scan t)).isEmpty

/-- The placeholders of a text that the resolver is asked for. -/
def placeholdersAsked (resolve : Resolver) (t : Text) : List Placeholder :=
  (asked resolve.anywhere 0 (scan t)).map Occurrence.placeholder

end StaticSite
