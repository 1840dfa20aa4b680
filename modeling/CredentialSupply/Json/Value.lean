set_option autoImplicit false

/-!
# JSON documents

A document as it was written: numbers keep their form, members of an object keep their order
and their repetitions, and a string is none when its escapes do not form Unicode text.
-/

namespace CredentialSupply

/-- A number as written: sign, whole part, digits after the point, and exponent. -/
structure Numeral where
  negative : Bool
  whole : Nat
  fraction : Option (List Char)
  exponent : Option Int
  deriving DecidableEq

/-- A JSON document. -/
inductive Json where
  | null
  | bool (b : Bool)
  | number (n : Numeral)
  | string (text : Option String)
  | array (items : List Json)
  | object (members : List (Option String × Json))

namespace Numeral

/-- The numeral for a natural number. -/
def ofNat (n : Nat) : Numeral := ⟨false, n, none, none⟩

/-- The natural number that the numeral writes without sign, point and exponent. -/
def nat? (n : Numeral) : Option Nat :=
  if n.negative || n.fraction.isSome || n.exponent.isSome then none else some n.whole

theorem nat?_ofNat (n : Nat) : (ofNat n).nat? = some n := rfl

end Numeral

namespace Json

/-- A string without escapes that could fail. -/
def text (s : String) : Json := .string (some s)

/-- A natural number. -/
def nat (n : Nat) : Json := .number (Numeral.ofNat n)

/-- An object with the given members. -/
def record (members : List (String × Json)) : Json :=
  .object (members.map fun (name, value) => (some name, value))

end Json

end CredentialSupply
