set_option autoImplicit false

/-!
# UTF-8

Encoding of characters as bytes, strict decoding, and decoding that puts U+FFFD for each
ill-formed part. `decodeOne` reads one character and says how many bytes of an ill-formed
sequence form its longest well-formed start.
-/

namespace CredentialSupply.Utf8

/-- The bytes of one character. -/
def encodeChar (c : Char) : List UInt8 :=
  let n := c.toNat
  if n < 0x80 then [n.toUInt8]
  else if n < 0x800 then [(0xC0 + n / 0x40).toUInt8, (0x80 + n % 0x40).toUInt8]
  else if n < 0x10000 then
    [(0xE0 + n / 0x1000).toUInt8, (0x80 + n / 0x40 % 0x40).toUInt8, (0x80 + n % 0x40).toUInt8]
  else
    [(0xF0 + n / 0x40000).toUInt8, (0x80 + n / 0x1000 % 0x40).toUInt8,
      (0x80 + n / 0x40 % 0x40).toUInt8, (0x80 + n % 0x40).toUInt8]

/-- The bytes of a text. -/
def encode (text : String) : List UInt8 := text.toList.flatMap encodeChar

/-- Outcome of reading one character: the character with the number of further bytes it
takes, or the number of further bytes to skip with the ill-formed start. -/
inductive Piece where
  | char (c : Char) (more : Nat)
  | broken (more : Nat)

/-- Whether `b` continues a sequence and lies between `low` and `high`. -/
def continues (b : UInt8) (low high : Nat) : Bool := low ≤ b.toNat && b.toNat ≤ high

/-- The six low bits of a continuation byte. -/
def payload (b : UInt8) : Nat := b.toNat % 0x40

/-- The character whose first byte is `b`, followed by the bytes `rest`. -/
def decodeOne (b : UInt8) (rest : List UInt8) : Piece :=
  let n := b.toNat
  if n < 0x80 then .char (Char.ofNat n) 0
  else if n < 0xC2 || 0xF4 < n then .broken 0
  else if n < 0xE0 then
    match rest with
    | c :: _ =>
        if continues c 0x80 0xBF then .char (Char.ofNat (n % 0x20 * 0x40 + payload c)) 1
        else .broken 0
    | [] => .broken 0
  else if n < 0xF0 then
    let low := if n = 0xE0 then 0xA0 else 0x80
    let high := if n = 0xED then 0x9F else 0xBF
    match rest with
    | c :: d :: _ =>
        if continues c low high then
          if continues d 0x80 0xBF then
            .char (Char.ofNat ((n % 0x10 * 0x40 + payload c) * 0x40 + payload d)) 2
          else .broken 1
        else .broken 0
    | [c] => if continues c low high then .broken 1 else .broken 0
    | [] => .broken 0
  else
    let low := if n = 0xF0 then 0x90 else 0x80
    let high := if n = 0xF4 then 0x8F else 0xBF
    match rest with
    | c :: tail =>
        if continues c low high then
          match tail with
          | d :: tail =>
              if continues d 0x80 0xBF then
                match tail with
                | e :: _ =>
                    if continues e 0x80 0xBF then
                      .char (Char.ofNat
                        (((n % 8 * 0x40 + payload c) * 0x40 + payload d) * 0x40 + payload e)) 3
                    else .broken 2
                | [] => .broken 2
              else .broken 1
          | [] => .broken 1
        else .broken 0
    | [] => .broken 0

/-- The characters written by `bytes`, none where a part is ill-formed. The first argument
counts bytes that belong to the character read last. -/
def pieces : Nat → List UInt8 → List (Option Char)
  | _, [] => []
  | skip + 1, _ :: rest => pieces skip rest
  | 0, b :: rest =>
      match decodeOne b rest with
      | .char c more => some c :: pieces more rest
      | .broken more => none :: pieces more rest

/-- The text written by `bytes`; none if a part is ill-formed. -/
def decode? (bytes : List UInt8) : Option String :=
  ((pieces 0 bytes).mapM id).map String.ofList

/-- The text written by `bytes`, with U+FFFD for each ill-formed part. -/
def decodeLossy (bytes : List UInt8) : String :=
  String.ofList ((pieces 0 bytes).map (·.getD '\uFFFD'))

end CredentialSupply.Utf8
