import StaticSite.Text.Basic

/-!
# White space

The characters with the Unicode property `White_Space`, and trimming. The property is wider than
the blanks of ASCII (it has the no-break space and the line separator) and narrower than "looks
empty" (the zero-width space and the byte order mark are not in it).
-/

namespace StaticSite

/-- The characters with the Unicode property `White_Space`. -/
def isWhiteSpace (c : Char) : Bool :=
  let n := c.toNat
  (9 ≤ n && n ≤ 13) || n == 32 || n == 0x85 || n == 0xA0 || n == 0x1680 ||
    (0x2000 ≤ n && n ≤ 0x200A) || n == 0x2028 || n == 0x2029 || n == 0x202F || n == 0x205F ||
    n == 0x3000

namespace Text

/-- The text without the white space at its beginning. -/
def trimStart (t : Text) : Text :=
  t.dropWhile isWhiteSpace

/-- The text without the white space at its end. -/
def trimEnd (t : Text) : Text :=
  (t.reverse.dropWhile isWhiteSpace).reverse

/-- The text without the white space on its two sides. -/
def trim (t : Text) : Text :=
  trimEnd (trimStart t)

end Text

end StaticSite
