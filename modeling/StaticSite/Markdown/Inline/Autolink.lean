import StaticSite.Text.Basic

/-!
# Addresses in angle brackets

An address of the web or of a mailbox in angle brackets is a link to itself. Each reader here starts
behind the opening bracket and answers with the address and the text behind the closing one.
-/

namespace StaticSite.Markdown

/-- Whether a scheme may go on with a character. -/
def isSchemeChar (c : Char) : Bool :=
  c.isAlphanum || c = '.' || c = '-' || c = '+'

/-- Whether an address behind its scheme may hold a character. -/
def isUriChar (c : Char) : Bool :=
  32 < c.toNat && c != '<' && c != '>'

/-- Reads an address with a scheme of 2 to 32 characters. -/
def uri? (t : Text) : Option (Text × Text) :=
  let scheme := t.takeWhile isSchemeChar
  let isScheme :=
    2 ≤ scheme.length && scheme.length ≤ 32 &&
      match scheme with
      | c :: _ => c.isAlpha
      | [] => false
  match t.drop scheme.length with
  | ':' :: behind =>
    let path := behind.takeWhile isUriChar
    match behind.drop path.length with
    | '>' :: rest => if isScheme then some (scheme ++ ':' :: path, rest) else none
    | _ => none
  | _ => none

/-- Whether the name of a mailbox may hold a character. -/
def isMailboxChar (c : Char) : Bool :=
  c.isAlphanum || ".!#$%&'*+/=?^_\x60\x7b|\x7d~-".toList.contains c

/-- Whether a text is a part of the name of a host. -/
def isHostPart (t : Text) : Bool :=
  !t.isEmpty && t.length ≤ 63 && t.all (fun c => c.isAlphanum || c = '-') &&
    t.head? != some '-' && t.getLast? != some '-'

/-- Reads the address of a mailbox. -/
def mailbox? (t : Text) : Option (Text × Text) :=
  let name := t.takeWhile isMailboxChar
  match t.drop name.length with
  | '@' :: behind =>
    let host := behind.takeWhile fun c => c.isAlphanum || c = '-' || c = '.'
    match behind.drop host.length with
    | '>' :: rest =>
      if !name.isEmpty && (Text.splitOnChar '.' host).all isHostPart then
        some (name ++ '@' :: host, rest)
      else none
    | _ => none
  | _ => none

end StaticSite.Markdown
