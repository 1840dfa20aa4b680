import CredentialSupply.Json.Value
import CredentialSupply.Text.Digits

set_option autoImplicit false

/-!
# Tokens of JSON

`tokens` splits a document into brackets, separators, words, numbers and strings; none if some
part is no token. A string is read as a list of units: characters, and the numbers given by
`\u` escapes, which `unitsText` joins into text.

A document that comes as bytes need not be Unicode text all through (`Utf8.pieces`). A part of it
that is ill-formed is no token and no escape, but may stand in a string, which then is no text.
-/

namespace CredentialSupply.Json

/-- The smallest parts of a document. -/
inductive Token where
  | openArray
  | closeArray
  | openObject
  | closeObject
  | comma
  | colon
  | null
  | bool (b : Bool)
  | number (n : Numeral)
  | string (text : Option String)

/-- Blanks between tokens. -/
def isSpace (c : Char) : Bool := c == ' ' || c == '\t' || c == '\n' || c == '\r'

/-! ## Strings -/

/-- The character for a letter after a backslash. -/
def shortEscape? (c : Char) : Option Nat :=
  if c = '"' || c = '\\' || c = '/' then some c.toNat
  else if c = 'b' then some 0x08
  else if c = 'f' then some 0x0C
  else if c = 'n' then some 0x0A
  else if c = 'r' then some 0x0D
  else if c = 't' then some 0x09
  else none

/-- The units up to the closing quote, and what follows it. An ill-formed part is no unit. -/
def stringUnits : List (Option Char) → Option (List (Option Nat) × List (Option Char))
  | some '"' :: rest => some ([], rest)
  | some '\\' :: some 'u' :: a :: b :: c :: d :: rest =>
      match a.bind Text.hexValue?, b.bind Text.hexValue?, c.bind Text.hexValue?,
        d.bind Text.hexValue? with
      | some a, some b, some c, some d =>
          (stringUnits rest).map fun (units, tail) =>
            (some (((a * 16 + b) * 16 + c) * 16 + d) :: units, tail)
      | _, _, _, _ => none
  | some '\\' :: some c :: rest =>
      match shortEscape? c with
      | some unit => (stringUnits rest).map fun (units, tail) => (some unit :: units, tail)
      | none => none
  | some c :: rest =>
      if c.toNat < 0x20 || c = '\\' then none
      else (stringUnits rest).map fun (units, tail) => (some c.toNat :: units, tail)
  | none :: rest => (stringUnits rest).map fun (units, tail) => (none :: units, tail)
  | [] => none

/-- Whether a unit is the first half of a pair. -/
def isLead (unit : Nat) : Bool := 0xD800 ≤ unit && unit < 0xDC00

/-- Whether a unit is the second half of a pair. -/
def isTrail (unit : Nat) : Bool := 0xDC00 ≤ unit && unit < 0xE000

/-- The characters of a list of units, with pairs joined; none if a half stands alone, or where
there is no unit. -/
def unitsText : List (Option Nat) → Option (List Char)
  | [] => some []
  | none :: _ => none
  | [some unit] => if isLead unit || isTrail unit then none else some [Char.ofNat unit]
  | some unit :: next :: rest =>
      if isLead unit then
        match next.filter isTrail with
        | some trail =>
            (unitsText rest).map
              (Char.ofNat (0x10000 + (unit - 0xD800) * 0x400 + (trail - 0xDC00)) :: ·)
        | none => none
      else if isTrail unit then none
      else (unitsText (next :: rest)).map (Char.ofNat unit :: ·)

/-! ## Numbers -/

/-- A run of at least one digit, and what follows. -/
def digits? (cs : List (Option Char)) : Option (List Char × List (Option Char)) :=
  let run := (cs.takeWhile (·.any Text.isDigit)).filterMap id
  if run.isEmpty then none else some (run, cs.drop run.length)

/-- The digits after a point, if there is one, and what follows. -/
def fraction? (cs : List (Option Char)) : Option (Option (List Char) × List (Option Char)) :=
  match cs with
  | some '.' :: rest => (digits? rest).map fun (run, tail) => (some run, tail)
  | _ => some (none, cs)

/-- The exponent, if there is one, and what follows. -/
def exponent? (cs : List (Option Char)) : Option (Option Int × List (Option Char)) :=
  let value (negative : Bool) (rest : List (Option Char)) :
      Option (Option Int × List (Option Char)) :=
    (digits? rest).map fun (run, tail) =>
      let n : Int := Text.ofDigits run
      (some (if negative then -n else n), tail)
  match cs with
  | some e :: rest =>
      if e = 'e' || e = 'E' then
        match rest with
        | some '+' :: tail => value false tail
        | some '-' :: tail => value true tail
        | _ => value false rest
      else some (none, cs)
  | _ => some (none, cs)

/-- An unsigned number: a zero or a run of digits that does not start with one, fraction and
exponent. -/
def numeral? (negative : Bool) (cs : List (Option Char)) :
    Option (Numeral × List (Option Char)) := do
  let (run, rest) ← digits? cs
  let whole := if run.head? = some '0' then ['0'] else run
  let rest := (run.drop whole.length).map some ++ rest
  let (fraction, rest) ← fraction? rest
  let (exponent, rest) ← exponent? rest
  return (⟨negative, Text.ofDigits whole, fraction, exponent⟩, rest)

/-! ## Tokens -/

/-- The token at the start of a document that does not start with a blank, and what follows. -/
def token? : List (Option Char) → Option (Token × List (Option Char))
  | some '[' :: rest => some (.openArray, rest)
  | some ']' :: rest => some (.closeArray, rest)
  | some '\x7b' :: rest => some (.openObject, rest)
  | some '\x7d' :: rest => some (.closeObject, rest)
  | some ',' :: rest => some (.comma, rest)
  | some ':' :: rest => some (.colon, rest)
  | some 'n' :: some 'u' :: some 'l' :: some 'l' :: rest => some (.null, rest)
  | some 't' :: some 'r' :: some 'u' :: some 'e' :: rest => some (.bool true, rest)
  | some 'f' :: some 'a' :: some 'l' :: some 's' :: some 'e' :: rest => some (.bool false, rest)
  | some '"' :: rest =>
      (stringUnits rest).map fun (units, tail) =>
        (.string ((unitsText units).map String.ofList), tail)
  | some '-' :: rest => (numeral? true rest).map fun (n, tail) => (.number n, tail)
  | cs => (numeral? false cs).map fun (n, tail) => (.number n, tail)

/-- The tokens of a document, for a number of steps that its length bounds. -/
def tokensWithin : Nat → List (Option Char) → Option (List Token)
  | _, [] => some []
  | 0, _ :: _ => none
  | steps + 1, c :: rest =>
      if c.any isSpace then tokensWithin steps rest
      else do
        let (token, tail) ← token? (c :: rest)
        let others ← tokensWithin steps tail
        return token :: others

/-- The tokens of a document. Every token and every blank takes a character, so there are no more
steps than characters. -/
def tokens (cs : List (Option Char)) : Option (List Token) := tokensWithin cs.length cs

end CredentialSupply.Json
