import CredentialSupply.Text.Digits
import CredentialSupply.Text.Hidden

set_option autoImplicit false

/-!
# Quoted text

Text between double quotes in which every character is visible: a quote and a backslash
follow a backslash, the common controls have a letter, and a hidden character is written by
its number. `option` and `record` write optional values and records around quoted parts.
-/

namespace CredentialSupply.Text

/-- A character as it stands in quoted text. -/
def escaped (c : Char) : List Char :=
  if c = '"' then ['\\', '"']
  else if c = '\\' then ['\\', '\\']
  else if c = '\n' then ['\\', 'n']
  else if c = '\r' then ['\\', 'r']
  else if c = '\t' then ['\\', 't']
  else if c = '\x00' then ['\\', '0']
  else if isHidden c then
    ['\\', 'u', '\x7b'] ++ (hexadecimal c.toNat).toList ++ ['\x7d']
  else [c]

/-- `text` between double quotes. -/
def quoted (text : String) : String :=
  String.ofList ('"' :: text.toList.flatMap escaped ++ ['"'])

/-- An optional value: `None`, or `Some` with the value in parentheses. -/
def option : Option String → String
  | none => "None"
  | some shown => "Some(" ++ shown ++ ")"

/-- The word for a truth value. -/
def truth : Bool → String
  | true => "true"
  | false => "false"

/-- Fields as `name: value`, separated by commas. -/
def fields (entries : List (String × String)) : String :=
  ", ".intercalate (entries.map fun (name, shown) => name ++ ": " ++ shown)

/-- A record with all its fields shown. -/
def record (name : String) (entries : List (String × String)) : String :=
  name ++ " \x7b " ++ fields entries ++ " \x7d"

/-- A record with further fields that are not shown. -/
def partialRecord (name : String) (entries : List (String × String)) : String :=
  if entries.isEmpty then name ++ " \x7b .. \x7d"
  else name ++ " \x7b " ++ fields entries ++ ", .. \x7d"

end CredentialSupply.Text
