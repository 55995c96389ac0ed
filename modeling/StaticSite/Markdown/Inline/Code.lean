import StaticSite.Text.Basic

/-!
# Code in lines of text

A run of backticks begins a piece of code, which ends at the next run of the same length. Nothing in
between has a meaning of its own.
-/

namespace StaticSite.Markdown

/-- The mark around a piece of code. -/
def codeMark : Char := '\x60'

/-- The text up to the next run of exactly `count` backticks, and the text behind it. The number of
backticks directly before the text is `run`; the text begins behind another character. -/
def codeUntil? (count : Nat) : (run : Nat) → Text → Option (Text × Text)
  | run, [] => if run = count then some ([], []) else none
  | run, c :: t =>
    if c = codeMark then (codeUntil? count (run + 1) t).map fun (code, rest) => (c :: code, rest)
    else if run = count then some ([], c :: t)
    else (codeUntil? count 0 t).map fun (code, rest) => (c :: code, rest)

/-- The text of a piece of code: line ends become spaces, and if it begins and ends with a space and
holds anything else, it loses one at each side. -/
def codeContent (raw : Text) : Text :=
  let t := raw.map fun c => if c = '\n' then ' ' else c
  if t.head? = some ' ' && t.getLast? = some ' ' && t.any (fun c => c != ' ') then
    (t.drop 1).dropLast
  else t

/-- Reads a piece of code behind an opening run of `count` backticks; answers with the code and the
text behind the closing run. -/
def code? (count : Nat) (t : Text) : Option (Text × Text) :=
  if count = 0 then none
  else
    (codeUntil? count 0 t).map fun (raw, rest) =>
      (codeContent (raw.take (raw.length - count)), rest)

end StaticSite.Markdown
