set_option autoImplicit false

/-!
# Sets of characters as runs

A property of characters is given by the runs of code points that have it, in ascending order.
Code points without a character that lie between two runs may count with them.
-/

namespace CredentialSupply.Text

/-- Whether runs, by the first and the last code point of each, ascend without touching each
other. -/
def areAscending : List (Nat × Nat) → Bool
  | (first, last) :: (next, nextLast) :: rest =>
      first ≤ last && last + 1 < next && areAscending ((next, nextLast) :: rest)
  | [(first, last)] => first ≤ last
  | [] => true

/-- Runs of code points in ascending order. -/
structure Ranges where
  runs : List (Nat × Nat)
  ascending : areAscending runs = true

/-- Whether the code point of `c` lies in one of the runs. -/
def Ranges.covers (ranges : Ranges) (c : Char) : Bool :=
  ranges.runs.any fun (first, last) => first ≤ c.toNat && c.toNat ≤ last

end CredentialSupply.Text
