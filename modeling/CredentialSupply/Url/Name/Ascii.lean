import CredentialSupply.Text.Split
import CredentialSupply.Url.Name.Label
import CredentialSupply.Url.Percent

set_option autoImplicit false

/-!
# Names in ASCII

`ascii?` gives the form of a name in which it is looked up: the name in plain form, with each
label outside ASCII in punycode.
-/

namespace CredentialSupply.Url.Name

/-- Characters that a name must not hold in ASCII. -/
def isForbidden (c : Char) : Bool := Percent.isControl c || " #%/:<>?@[\\]^|".toList.contains c

/-- The form of a name in ASCII, with the meanings of its labels in order. If one of them runs
from right to left, all of them have to keep their order. -/
def ascii? (cs : List Char) : Option (List Char) := do
  let plain ← plain? cs
  let labels ← (Text.splitBy (· == '.') plain).mapM meaning?
  let joined := ['.'].intercalate (labels.map asciiLabel)
  if labels.all isSound && (!labels.any (·.any runsLeft) || labels.all isDirected) &&
      !joined.any isForbidden then
    some joined
  else none

end CredentialSupply.Url.Name
