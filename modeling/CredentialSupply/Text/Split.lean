set_option autoImplicit false

/-!
# Parts of a text

`splitBy` cuts a text at separators and loses nothing else: there is one part more than there
are separators, and between them the parts hold every other character in order.
-/

namespace CredentialSupply.Text

/-- The parts of a text between separators. -/
def splitBy (separator : Char → Bool) : List Char → List (List Char)
  | [] => [[]]
  | c :: rest =>
      match splitBy separator rest with
      | [] => [[c]]
      | part :: parts => if separator c then [] :: part :: parts else (c :: part) :: parts

end CredentialSupply.Text
