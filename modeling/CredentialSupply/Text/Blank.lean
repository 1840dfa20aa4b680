import CredentialSupply.Text.Ranges

set_option autoImplicit false

/-!
# White space

The characters with the Unicode property White_Space, and text that has no other.
-/

namespace CredentialSupply.Text

/-- The runs of white space. -/
def blankRanges : Ranges where
  runs :=
    [(0x09, 0x0D), (0x20, 0x20), (0x85, 0x85), (0xA0, 0xA0), (0x1680, 0x1680), (0x2000, 0x200A),
     (0x2028, 0x2029), (0x202F, 0x202F), (0x205F, 0x205F), (0x3000, 0x3000)]
  ascending := by decide +kernel

/-- Whether `c` is white space. -/
def isBlank (c : Char) : Bool := blankRanges.covers c

/-- Whether `text` holds nothing but white space. -/
def isBlankText (text : String) : Bool := text.toList.all isBlank

/-- The characters after leading white space. -/
def trimLeft (cs : List Char) : List Char := cs.dropWhile isBlank

end CredentialSupply.Text
