import StaticSite.Build.Outcome
import StaticSite.Page.Basic
import StaticSite.Spec.Line

/-!
# Global variables

The file of the global variables holds an entry for each variable. An entry with the key `prod`
gives another value to the variable before it, which counts in a build for production only.
-/

namespace StaticSite.Spec

/-- The key of a value for production. -/
def productionKey : Text :=
  ['p', 'r', 'o', 'd']

/-- The global variables read so far. -/
structure GlobalsState where
  globals : Bindings := ∅
  /-- The last variable that an entry defined. -/
  current : Option Text := none

namespace GlobalsState

/-- Reads one line. -/
def readLine (production : Bool) (number : Nat) (line : Line) (s : GlobalsState) :
    Outcome GlobalsState :=
  match line with
  | none => .fail (.malformedLine number none)
  | some text =>
    if text.isEmpty then .ok s
    else
      match entry number text with
      | .error e => .fail e
      | .ok (name, value) =>
        if name ≠ productionKey then .ok ⟨s.globals.insert name value, some name⟩
        else if !production then .ok s
        else
          match s.current with
          | none => ⟨[.ignoringProductionValue number], .ok s⟩
          | some current =>
            ⟨[.usingProductionValue current],
              .ok { s with globals := s.globals.insert current value }⟩

/-- Reads lines, the first of which has a given number. -/
def readLines (production : Bool) (number : Nat) : List Line → GlobalsState → Outcome GlobalsState
  | [], s => .ok s
  | line :: lines, s =>
    (readLine production number line s).andThen (readLines production (number + 1) lines)

end GlobalsState

/-- The global variables of a file. -/
def parseGlobals (production : Bool) (lines : List Line) : Outcome Bindings :=
  (GlobalsState.readLines production 1 lines {}).andThen fun s => .ok s.globals

end StaticSite.Spec
