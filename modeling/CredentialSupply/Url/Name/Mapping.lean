import CredentialSupply.Text.Canonical
import CredentialSupply.Text.Digits
import CredentialSupply.Url.Name.Expansion
import CredentialSupply.Url.Name.Refused

set_option autoImplicit false

/-!
# Plain form of names

Names that look alike are written alike: each character is replaced by its plain form, ignored
or refused, and what is left is put into canonical form. `plain?` does so for a text.
-/

namespace CredentialSupply.Url.Name

/-- The characters that replace `c` in a name; none if a name must not hold it. -/
def plainForm? (c : Char) : Option (List Char) :=
  if c.toNat < 0x80 then some [Text.asciiLower c]
  else if refusedRanges.covers c then none
  else if ignoredRanges.covers c then some []
  else
    match replacement? c.toNat, expansion? c.toNat with
    | some image, _ => some [Char.ofNat image]
    | none, some images => some (images.map Char.ofNat)
    | none, none => some [c]

/-- The plain form of a text; none if a name must not hold one of its characters. -/
def plain? (cs : List Char) : Option (List Char) :=
  (cs.mapM plainForm?).map fun images => Text.canonical images.flatten

end CredentialSupply.Url.Name
