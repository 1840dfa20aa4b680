import CredentialSupply.Text.Combining
import CredentialSupply.Text.Composite

set_option autoImplicit false

/-!
# Canonical form of text

A letter with marks can be written in several ways. `canonical` chooses one: letters are taken
apart, marks are put in the order of their classes, and then letters take up the marks with
which they form one character. This is normalization form C for text without characters that
have another canonical form but are no composites.
-/

namespace CredentialSupply.Text

/-! ## Order of marks -/

/-- Puts `c` in front of marks of its own and higher classes, behind marks of lower ones. -/
def insertMark (c : Char) : List Char → List Char
  | [] => [c]
  | d :: rest =>
      if 0 < combiningClass d && combiningClass d < combiningClass c then d :: insertMark c rest
      else c :: d :: rest

/-- The text with the marks of each letter in the order of their classes. -/
def ordered (cs : List Char) : List Char := cs.foldr insertMark []

/-! ## Putting together -/

/-- Puts text together after a letter. `marks` are those behind it that it did not take up, the
last one first: across them the letter reaches only a mark of a higher class. -/
def composeFrom (letter : Char) (marks : List Char) : List Char → List Char
  | [] => letter :: marks.reverse
  | c :: rest =>
      let reached := marks.head?.all fun mark => combiningClass mark < combiningClass c
      match if reached then compose? letter c else none with
      | some whole => composeFrom whole marks rest
      | none =>
          if combiningClass c = 0 then letter :: marks.reverse ++ composeFrom c [] rest
          else composeFrom letter (c :: marks) rest

/-- The text with letters and marks put together. -/
def composed : List Char → List Char
  | [] => []
  | c :: rest => composeFrom c [] rest

/-- The text in canonical form. Text below the first mark is in that form already. -/
def canonical (cs : List Char) : List Char :=
  if cs.all (·.toNat < 0x300) then cs else composed (ordered (cs.flatMap decompose))

end CredentialSupply.Text
