import StaticSite.Text.Basic

/-!
# Escapes of HTML

The forms that characters take in the body of an HTML document, in a quoted attribute, in an address
and in coloured code.
-/

namespace StaticSite.Markdown

/-- A text in the body of a document: ampersands and angle brackets are written as references. -/
def escapeBody (t : Text) : Text :=
  t.flatMap fun c =>
    if c = '&' then "&amp;".toList
    else if c = '<' then "&lt;".toList
    else if c = '>' then "&gt;".toList
    else [c]

/-- A text in a quoted attribute: quotes are written as references too. -/
def escapeAttribute (t : Text) : Text :=
  t.flatMap fun c =>
    if c = '&' then "&amp;".toList
    else if c = '<' then "&lt;".toList
    else if c = '>' then "&gt;".toList
    else if c = '"' then "&quot;".toList
    else if c = '\'' then "&#x27;".toList
    else [c]

/-- A text in coloured code: quotes are written as references too, the single one in decimals. -/
def escapeCode (t : Text) : Text :=
  t.flatMap fun c =>
    if c = '&' then "&amp;".toList
    else if c = '<' then "&lt;".toList
    else if c = '>' then "&gt;".toList
    else if c = '"' then "&quot;".toList
    else if c = '\'' then "&#39;".toList
    else [c]

/-- Whether a character stands for itself in an address. -/
def isAddressChar (c : Char) : Bool :=
  c.isAlphanum || "!#$%()*+,-./:;=?@_~".toList.contains c

/-- The bytes of a character, each written in hexadecimal digits behind a percent sign. -/
def percentEncode (c : Char) : Text :=
  (String.ofList [c]).toUTF8.data.toList.flatMap fun b =>
    let digit (n : Nat) : Char := (Nat.digitChar n).toUpper
    ['%', digit (b.toNat / 16), digit (b.toNat % 16)]

/-- An address in a quoted attribute. -/
def escapeAddress (t : Text) : Text :=
  t.flatMap fun c =>
    if isAddressChar c then [c]
    else if c = '&' then "&amp;".toList
    else if c = '\'' then "&#x27;".toList
    else percentEncode c

end StaticSite.Markdown
