import CredentialSupply.Url.Name.Ascii

set_option autoImplicit false

/-!
# Hosts of addresses

A host is a name, an IPv4 address or an IPv6 address. `Host.ofSpecial` reads the host of a
web address: a name is written in the form in which it is looked up, and one that ends in a
number has to be an IPv4 address. `Host.ofOther` reads the host of any other scheme.
-/

namespace CredentialSupply.Url

/-- What is wrong with the text of an address. -/
inductive Flaw where
  | emptyHost
  | internationalName
  | port
  | ipv4
  | ipv6
  | hostCharacter
  | relative
  deriving DecidableEq

/-- The flaw in words. -/
def Flaw.message : Flaw → String
  | .emptyHost => "empty host"
  | .internationalName => "invalid international domain name"
  | .port => "invalid port number"
  | .ipv4 => "invalid IPv4 address"
  | .ipv6 => "invalid IPv6 address"
  | .hostCharacter => "invalid domain character"
  | .relative => "relative URL without a base"

/-- A host: a name as written, a 32-bit number, or eight 16-bit numbers. -/
inductive Host where
  | name (text : String)
  | ipv4 (address : Nat)
  | ipv6 (pieces : List Nat)
  deriving DecidableEq

/-! ## IPv4 -/

/-- The number written in base ten, in base eight after a zero, or in base sixteen after
`0x`; the outer option is none when the text is not a number, the inner one when it needs
more than 32 bits. -/
def ipv4Number? (cs : List Char) : Option (Option Nat) :=
  let value (base : Nat) (digits : List Char) : Option (Option Nat) :=
    match digits.mapM Text.hexValue? with
    | none => none
    | some values =>
        if values.all (· < base) then
          let n := values.foldl (fun acc d => acc * base + d) 0
          some (if n < Nat.pow 2 32 then some n else none)
        else none
  match cs with
  | [] => none
  | ['0'] => some (some 0)
  | '0' :: 'x' :: digits => value 16 digits
  | '0' :: 'X' :: digits => value 16 digits
  | '0' :: digits => value 8 digits
  | digits => value 10 digits

/-- The labels of a name, without the empty one after a final dot. -/
def labels (cs : List Char) : List (List Char) :=
  let parts := Text.splitBy (· == '.') cs
  if parts.getLast? = some [] && parts.length ≠ 1 then parts.dropLast else parts

/-- Whether the last label of a name is a number. -/
def endsInNumber (cs : List Char) : Bool :=
  match (labels cs).getLast? with
  | none => false
  | some last => (!last.isEmpty && last.all Text.isDigit) || (ipv4Number? last).isSome

/-- The IPv4 address written by up to four numbers, the last of which fills the rest. -/
def ipv4? (cs : List Char) : Option Nat := do
  let parts := labels cs
  if parts.length > 4 then none
  else
    let numbers ← parts.mapM fun part => (ipv4Number? part).join
    let last ← numbers.getLast?
    let lead := numbers.dropLast
    if lead.any (· > 255) || last ≥ Nat.pow 256 (4 - lead.length) then none
    else some (lead.foldl (fun acc n => acc * 256 + n) 0 * Nat.pow 256 (4 - lead.length) + last)

/-! ## IPv6 -/

/-- A group of up to four hexadecimal digits. -/
def ipv6Group? (cs : List Char) : Option Nat :=
  if cs.isEmpty || cs.length > 4 then none
  else (cs.mapM Text.hexValue?).map fun values => values.foldl (fun acc d => acc * 16 + d) 0

/-- A decimal number up to 255 without a leading zero. -/
def byteNumber? (cs : List Char) : Option Nat :=
  let n := Text.ofDigits cs
  if !cs.isEmpty && cs.all Text.isDigit && n ≤ 255 && (cs.length = 1 || cs.head? ≠ some '0') then
    some n
  else none

/-- The pieces written by groups separated by colons; the last group may be an IPv4 address,
which gives two pieces. -/
def ipv6Groups? : List (List Char) → Option (List Nat)
  | [] => some []
  | [last] =>
      if last.contains '.' then
        match (Text.splitBy (· == '.') last).mapM byteNumber? with
        | some [a, b, c, d] => some [a * 256 + b, c * 256 + d]
        | _ => none
      else (ipv6Group? last).map fun piece => [piece]
  | group :: rest => do
      let piece ← ipv6Group? group
      let pieces ← ipv6Groups? rest
      return piece :: pieces

/-- The pieces of a list of groups written between colons. -/
def ipv6Side? (cs : List Char) : Option (List Nat) :=
  if cs.isEmpty then some [] else ipv6Groups? (Text.splitBy (· == ':') cs)

/-- The text before the first pair of colons, and what follows it. -/
def splitDoubleColon : List Char → Option (List Char × List Char)
  | ':' :: ':' :: rest => some ([], rest)
  | c :: rest => (splitDoubleColon rest).map fun (lead, tail) => (c :: lead, tail)
  | [] => none

/-- The eight pieces of an IPv6 address; a pair of colons stands for at least one zero. -/
def ipv6? (cs : List Char) : Option (List Nat) :=
  match splitDoubleColon cs with
  | some (lead, tail) => do
      if lead.contains '.' then none
      else
        let left ← ipv6Side? lead
        let right ← ipv6Side? tail
        if left.length + right.length ≤ 7 then
          some (left ++ List.replicate (8 - left.length - right.length) 0 ++ right)
        else none
  | none => do
      let pieces ← ipv6Side? cs
      if pieces.length = 8 then some pieces else none

/-- Start and length of the longest run of zeros, the first one among equals. -/
def longestZeros (pieces : List Nat) : Nat × Nat :=
  let runs := (List.range pieces.length).map fun i =>
    (i, ((pieces.drop i).takeWhile (· == 0)).length)
  runs.foldl (fun best run => if run.2 > best.2 then run else best) (0, 0)

/-- The address with its longest run of two or more zeros left out. -/
def ipv6Text (pieces : List Nat) : String :=
  let groups (ps : List Nat) := ":".intercalate (ps.map Text.hexadecimal)
  let (start, count) := longestZeros pieces
  if count < 2 then groups pieces
  else groups (pieces.take start) ++ "::" ++ groups (pieces.drop (start + count))

/-! ## Hosts -/

/-- Characters that the host of a scheme without special rules must not hold. -/
def forbiddenInHost (c : Char) : Bool :=
  c == '\x00' || "\t\n\r #/:<>?@[\\]^|".toList.contains c

/-- The text between square brackets, for a text that starts with one. -/
def bracketed? : List Char → Option (Option (List Char))
  | '[' :: rest => if rest.getLast? = some ']' then some (some rest.dropLast) else some none
  | _ => none

/-- The host of a scheme with special rules. -/
def Host.ofSpecial (cs : List Char) : Except Flaw Host :=
  match bracketed? cs with
  | some inside =>
      match inside.bind ipv6? with
      | some pieces => .ok (.ipv6 pieces)
      | none => .error .ipv6
  | none =>
      match Utf8.decode? (Percent.decode (cs.flatMap Utf8.encodeChar)) with
      | none => .error .internationalName
      | some decoded =>
          match Name.ascii? decoded.toList with
          | none => .error .internationalName
          | some [] => .error .emptyHost
          | some plain =>
              if endsInNumber plain then
                match ipv4? plain with
                | some address => .ok (.ipv4 address)
                | none => .error .ipv4
              else .ok (.name (String.ofList plain))

/-- The host of any other scheme. -/
def Host.ofOther (cs : List Char) : Except Flaw Host :=
  match bracketed? cs with
  | some inside =>
      match inside.bind ipv6? with
      | some pieces => .ok (.ipv6 pieces)
      | none => .error .ipv6
  | none =>
      if cs.any forbiddenInHost then .error .hostCharacter
      else .ok (.name (Percent.encode Percent.isControl cs))

/-- The host as it stands in an address. -/
def Host.text : Host → String
  | .name text => text
  | .ipv4 address =>
      ".".intercalate ([address / 0x1000000, address / 0x10000 % 256, address / 256 % 256,
        address % 256].map Text.decimal)
  | .ipv6 pieces => "[" ++ ipv6Text pieces ++ "]"

/-- Whether the host is the empty name. -/
def Host.isEmpty : Host → Bool
  | .name text => text.isEmpty
  | _ => false

end CredentialSupply.Url
