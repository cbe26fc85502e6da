/-!
# White space

The characters with the Unicode property `White_Space`: they are what trimming
takes off and what may stand around the key of a placeholder.  The zero-width
space and the byte order mark do not have the property.
-/

namespace Compliance.Text

/-- The property `White_Space`. -/
def isBlank (c : Char) : Bool :=
  let code := c.toNat
  (0x9 ≤ code && code ≤ 0xd) || code == 0x20 || code == 0x85 || code == 0xa0 || code == 0x1680 ||
    (0x2000 ≤ code && code ≤ 0x200a) || code == 0x2028 || code == 0x2029 || code == 0x202f ||
    code == 0x205f || code == 0x3000

/-! ## Trimming -/

/-- The text from its first character that is not blank. -/
def trimStart (text : List Char) : List Char := text.dropWhile isBlank

/-- The text up to its last character that is not blank. -/
def trimEnd (text : List Char) : List Char := (text.reverse.dropWhile isBlank).reverse

/-- The text without the white space around it. -/
def trim (text : List Char) : List Char := trimEnd (trimStart text)

end Compliance.Text
