import StaticSite.Text.Basic

/-!
# Quoted strings of TOML

The four kinds of strings: in double quotes with escapes or in single quotes without, each on one
line or, between three quotes, on several. A reader takes the text behind the opening quotes and
gives the string with the text behind the closing ones.

The readers go through the text one character at a time; what they remember about the characters
before is their state.
-/

namespace StaticSite.Toml

/-- Whether a character may stand unescaped in a string or in a comment of one line. -/
def isPlain (c : Char) : Bool :=
  c == '\t' || (0x20 ≤ c.toNat && c.toNat != 0x7F)

/-- The value of a hexadecimal digit. -/
def hexValue? (c : Char) : Option Nat :=
  if c.isDigit then some (c.toNat - '0'.toNat)
  else if 'a' ≤ c ∧ c ≤ 'f' then some (c.toNat - 'a'.toNat + 10)
  else if 'A' ≤ c ∧ c ≤ 'F' then some (c.toNat - 'A'.toNat + 10)
  else none

/-- The character with a code, if the code is one of a character. -/
def charOfCode? (n : Nat) : Option Char :=
  if n < 0xD800 ∨ (0xDFFF < n ∧ n < 0x110000) then some (Char.ofNat n) else none

/-- The character that an escape of one letter stands for. -/
def simpleEscape? (c : Char) : Option Char :=
  if c = 'b' then some '\x08'
  else if c = 't' then some '\t'
  else if c = 'n' then some '\n'
  else if c = 'f' then some '\x0c'
  else if c = 'r' then some '\r'
  else if c = 'e' then some '\x1b'
  else if c = '"' then some '"'
  else if c = '\\' then some '\\'
  else none

/-- The number of hexadecimal digits that follow an escape letter. -/
def codeLength? (c : Char) : Option Nat :=
  if c = 'x' then some 2
  else if c = 'u' then some 4
  else if c = 'U' then some 8
  else none

/-- Puts a character before a string that was read. -/
def before (c : Char) (r : Option (Text × Text)) : Option (Text × Text) :=
  r.map fun found => (c :: found.1, found.2)

/-- Puts some quotes before a string that was read. -/
def quotesBefore (quote : Char) (n : Nat) (r : Option (Text × Text)) : Option (Text × Text) :=
  r.map fun found => (List.replicate n quote ++ found.1, found.2)

/-- What the characters before mean for the next one in a string with escapes. -/
inductive EscapeState
  /-- Nothing. -/
  | plain
  /-- A backslash was read. -/
  | escape
  /-- A character code lacks some digits. -/
  | code (missing value : Nat)
  deriving DecidableEq, Repr

/-- Reads a digit of a character code: the finished character, or the state with one digit more. -/
def codeDigit? (missing value : Nat) (c : Char) : Option (Char ⊕ EscapeState) :=
  match hexValue? c with
  | none => none
  | some d =>
    let value := 16 * value + d
    if missing ≤ 1 then (charOfCode? value).map .inl else some (.inr (.code (missing - 1) value))

/-- Reads a string in double quotes. -/
def basic : EscapeState → Text → Option (Text × Text)
  | _, [] => none
  | .plain, c :: t =>
    if c = '"' then some ([], t)
    else if c = '\\' then basic .escape t
    else if isPlain c then before c (basic .plain t)
    else none
  | .escape, c :: t =>
    match simpleEscape? c with
    | some d => before d (basic .plain t)
    | none =>
      match codeLength? c with
      | some n => basic (.code n 0) t
      | none => none
  | .code missing value, c :: t =>
    match codeDigit? missing value c with
    | none => none
    | some (.inl d) => before d (basic .plain t)
    | some (.inr s) => basic s t

/-- Reads a string in single quotes. -/
def literal : Text → Option (Text × Text)
  | [] => none
  | c :: t =>
    if c = '\'' then some ([], t)
    else if isPlain c then before c (literal t)
    else none

/-- What the characters before mean for the next one in a string of several lines. -/
inductive LinesState
  /-- So many quotes were read in a row. -/
  | quotes (n : Nat)
  /-- A backslash was read. -/
  | escape
  /-- A character code lacks some digits. -/
  | code (missing value : Nat)
  /-- A backslash and blanks were read; the line has to end. -/
  | lineEnd
  /-- A backslash that takes away the line break and the blanks behind it. -/
  | blanks
  /-- A carriage return was read; a line feed has to follow. The two are kept, or they belong to the
  blanks that a backslash takes away. -/
  | carriageReturn (kept : Bool)
  deriving DecidableEq, Repr

/-- Reads a string of several lines between three quotes. Up to two quotes may stand right before
the closing ones. -/
def lines (quote : Char) (escapes : Bool) : LinesState → Text → Option (Text × Text)
  | .quotes n, [] => if 3 ≤ n then some (List.replicate (n - 3) quote, []) else none
  | _, [] => none
  | .quotes n, c :: t =>
    if c = quote then
      if 4 ≤ n then some (List.replicate 2 quote, t) else lines quote escapes (.quotes (n + 1)) t
    else if 3 ≤ n then some (List.replicate (n - 3) quote, c :: t)
    else
      quotesBefore quote n <|
        if escapes && c = '\\' then lines quote escapes .escape t
        else if c = '\r' then lines quote escapes (.carriageReturn true) t
        else if c = '\n' || isPlain c then before c (lines quote escapes (.quotes 0) t)
        else none
  | .escape, c :: t =>
    match simpleEscape? c with
    | some d => before d (lines quote escapes (.quotes 0) t)
    | none =>
      match codeLength? c with
      | some n => lines quote escapes (.code n 0) t
      | none =>
        if c = '\n' then lines quote escapes .blanks t
        else if c = ' ' || c = '\t' then lines quote escapes .lineEnd t
        else if c = '\r' then lines quote escapes (.carriageReturn false) t
        else none
  | .code missing value, c :: t =>
    match codeDigit? missing value c with
    | none => none
    | some (.inl d) => before d (lines quote escapes (.quotes 0) t)
    | some (.inr (.code missing value)) => lines quote escapes (.code missing value) t
    | some (.inr _) => none
  | .lineEnd, c :: t =>
    if c = '\n' then lines quote escapes .blanks t
    else if c = ' ' || c = '\t' then lines quote escapes .lineEnd t
    else if c = '\r' then lines quote escapes (.carriageReturn false) t
    else none
  | .blanks, c :: t =>
    if c = '\n' || c = ' ' || c = '\t' then lines quote escapes .blanks t
    else if c = '\r' then lines quote escapes (.carriageReturn false) t
    else if c = quote then lines quote escapes (.quotes 1) t
    else if c = '\\' then lines quote escapes .escape t
    else if isPlain c then before c (lines quote escapes (.quotes 0) t)
    else none
  | .carriageReturn kept, c :: t =>
    if c = '\n' then
      if kept then before '\r' (before '\n' (lines quote escapes (.quotes 0) t))
      else lines quote escapes .blanks t
    else none

/-- Drops a line break at the very beginning. -/
def dropLineBreak : Text → Text
  | '\n' :: t => t
  | '\r' :: '\n' :: t => t
  | t => t

/-- Reads a string that begins with a quote. -/
def quoted? : Text → Option (Text × Text)
  | '"' :: '"' :: '"' :: t => lines '"' true (.quotes 0) (dropLineBreak t)
  | '\'' :: '\'' :: '\'' :: t => lines '\'' false (.quotes 0) (dropLineBreak t)
  | '"' :: t => basic .plain t
  | '\'' :: t => literal t
  | _ => none

/-- Reads a string of one line that begins with a quote. -/
def quotedKey? : Text → Option (Text × Text)
  | '"' :: t => basic .plain t
  | '\'' :: t => literal t
  | _ => none

end StaticSite.Toml
