import CredentialSupply.Json.Token
import CredentialSupply.Text.Utf8

set_option autoImplicit false

/-!
# Reading JSON

The reader takes one token after the other. Its state holds the arrays and objects that are
open, innermost first, and what may come next; nesting costs no recursion. `Json.read` and
`Json.readBytes` answer none for anything that is not exactly one document.
-/

namespace CredentialSupply.Json

/-- An array or object whose end has not been read, with its contents in reverse order. An
object holds the name of the member that is being read. -/
inductive Opened where
  | array (items : List Json)
  | object (members : List (Option String × Json)) (name : Option String)

/-- What may come next: a value, a value or the end of an array, the name of a member or the
end of an object, the name of a member, a colon, a separator or an end, or nothing. -/
inductive Expecting where
  | value
  | firstItem
  | firstName
  | name
  | colon
  | separator
  | nothing (result : Json)

/-- State of the reader. -/
structure Reading where
  opened : List Opened
  expecting : Expecting

namespace Reading

/-- Nothing read yet. -/
def start : Reading := ⟨[], .value⟩

/-- The state after a whole value. -/
def complete (v : Json) : List Opened → Reading
  | [] => ⟨[], .nothing v⟩
  | .array items :: rest => ⟨.array (v :: items) :: rest, .separator⟩
  | .object members name :: rest => ⟨.object ((name, v) :: members) none :: rest, .separator⟩

/-- The state after the token that starts a value, if it does. -/
def begin (opened : List Opened) : Token → Option Reading
  | .null => some (complete .null opened)
  | .bool b => some (complete (.bool b) opened)
  | .number n => some (complete (.number n) opened)
  | .string text => some (complete (.string text) opened)
  | .openArray => some ⟨.array [] :: opened, .firstItem⟩
  | .openObject => some ⟨.object [] none :: opened, .firstName⟩
  | _ => none

/-- The state after the end of the innermost array or object, if the token is that end. -/
def close : List Opened → Token → Option Reading
  | .array items :: rest, .closeArray => some (complete (.array items.reverse) rest)
  | .object members _ :: rest, .closeObject => some (complete (.object members.reverse) rest)
  | _, _ => none

/-- The state after the name of a member. -/
def named : List Opened → Token → Option Reading
  | .object members _ :: rest, .string name => some ⟨.object members name :: rest, .colon⟩
  | _, _ => none

/-- The state after one more token. -/
def take (r : Reading) (token : Token) : Option Reading :=
  match r.expecting with
  | .value => begin r.opened token
  | .firstItem => (begin r.opened token).or (close r.opened token)
  | .firstName => (named r.opened token).or (close r.opened token)
  | .name => named r.opened token
  | .colon => match token with
    | .colon => some ⟨r.opened, .value⟩
    | _ => none
  | .separator => match token, r.opened with
    | .comma, .array _ :: _ => some ⟨r.opened, .value⟩
    | .comma, .object _ _ :: _ => some ⟨r.opened, .name⟩
    | _, _ => close r.opened token
  | .nothing _ => none

end Reading

/-- The document that a list of characters writes, some of which may be ill-formed. -/
def readPieces (cs : List (Option Char)) : Option Json := do
  let tokens ← tokens cs
  let final ← tokens.foldlM Reading.take Reading.start
  match final.expecting with
  | .nothing v => some v
  | _ => none

/-- The document that a text writes. -/
def read (text : String) : Option Json := readPieces (text.toList.map some)

/-- The document that bytes write. Only the strings that are read have to be text. -/
def readBytes (bytes : List UInt8) : Option Json := readPieces (Utf8.pieces 0 bytes)

end CredentialSupply.Json
