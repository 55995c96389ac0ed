import StaticSite.Build.Log
import StaticSite.Text.WhiteSpace

/-!
# Log filters

Which entries of the log are shown. A filter has rules; a rule sets the greatest level that is shown
for the targets that begin with its name. Of the rules for a target the one with the longest name
decides, and a rule without a name is for every target.

A filter is written as rules between commas: a level alone (`warn`), a name alone (`stencil`, which
shows all), or a name with a level (`stencil=debug`). A part that is no rule does not count. A text
behind a slash narrows the filter to the entries whose words hold it; with two slashes the whole
does not count.
-/

namespace StaticSite.Command

/-- The levels that are shown: those up to a given one, or none. -/
inductive LogLimit
  | off
  /-- The level and all graver ones are shown. -/
  | upTo (level : LogLevel)
  deriving DecidableEq, Repr, Inhabited

namespace LogLimit

/-- The limit that shows everything. -/
def all : LogLimit := .upTo .trace

/-- Whether a limit lets a level pass. -/
def allows : LogLimit → LogLevel → Bool
  | off, _ => false
  | upTo greatest, level => level.rank ≤ greatest.rank

/-- The limit of a name, in capitals or small letters. -/
def ofName? (t : Text) : Option LogLimit :=
  match String.ofList (Text.toLowerAscii t) with
  | "off" => some off
  | "error" => some (upTo .error)
  | "warn" => some (upTo .warn)
  | "info" => some (upTo .info)
  | "debug" => some (upTo .debug)
  | "trace" => some (upTo .trace)
  | _ => none

end LogLimit

/-- A rule of a filter. -/
structure LogRule where
  /-- What the targets of the rule begin with; `none` is every target. -/
  name : Option Text
  limit : LogLimit
  deriving DecidableEq, Repr, Inhabited

namespace LogRule

/-- The rule that a text is. -/
def ofText? (t : Text) : Option LogRule :=
  match Text.splitOnChar '=' t with
  | [word] =>
    match LogLimit.ofName? word with
    | some limit => some ⟨none, limit⟩
    | none => some ⟨some word, .all⟩
  | [name, level] =>
    let level := Text.trim level
    if level.isEmpty then some ⟨some name, .all⟩
    else (LogLimit.ofName? level).map fun limit => ⟨some name, limit⟩
  | _ => none

/-- Whether a rule is for a target. -/
def isFor (r : LogRule) (target : Text) : Bool :=
  match r.name with
  | none => true
  | some name => name.isPrefixOf target

/-- The length of the name of a rule. -/
def length (r : LogRule) : Nat :=
  (r.name.getD []).length

end LogRule

/-- Which entries of the log are shown. -/
structure LogFilter where
  /-- The rules, no two with the same name. -/
  rules : List LogRule
  /-- What the words of an entry have to hold. -/
  part : Text := []
  deriving DecidableEq, Repr, Inhabited

namespace LogFilter

/-- The rules with one more, in place of the one with the same name. -/
def insertRule (r : LogRule) : List LogRule → List LogRule
  | [] => [r]
  | s :: rules => if s.name = r.name then r :: rules else s :: insertRule r rules

/-- The filter whose only rule is for every target. -/
def ofLimit (limit : LogLimit) : LogFilter where
  rules := [⟨none, limit⟩]

/-- The rules that a text has between its commas. -/
def rulesOf (t : Text) : List LogRule :=
  let parts := (Text.splitOnChar ',' t).map Text.trim
  (parts.filter fun part => !part.isEmpty).filterMap LogRule.ofText?

/-- The filter with what a text says added. -/
def extend (f : LogFilter) (t : Text) : LogFilter :=
  let add (rules : Text) : List LogRule :=
    (rulesOf rules).foldl (fun all r => insertRule r all) f.rules
  match Text.splitOnChar '/' t with
  | [rules] => { f with rules := add rules }
  | [rules, part] => ⟨add rules, part⟩
  | _ => f

/-- The rule that decides for a target: the one with the longest name, the last of several. -/
def deciding? (target : Text) : List LogRule → Option LogRule
  | [] => none
  | r :: rules =>
    match deciding? target rules with
    | some later => if r.isFor target && later.length < r.length then some r else some later
    | none => if r.isFor target then some r else none

/-- Whether an entry is shown, by its target, its level and its words. -/
def allows (f : LogFilter) (target : Text) (level : LogLevel) (message : Text) : Bool :=
  match deciding? target f.rules with
  | some r => r.limit.allows level && Text.contains f.part message
  | none => false

end LogFilter

end StaticSite.Command
