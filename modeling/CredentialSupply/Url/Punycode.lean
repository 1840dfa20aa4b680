import CredentialSupply.Text.Digits

set_option autoImplicit false

/-!
# Punycode

The form of a label outside ASCII: its ASCII characters, a hyphen if there are any, and the
others as differences of code points in a variable-length notation of base 36 whose digit
thresholds follow an adaptive bias. `encode` writes it and `decode?` reads it.
-/

namespace CredentialSupply.Url.Punycode

/-- The digit with value `d`, for `d < 36`: letters, then figures. -/
def digit (d : Nat) : Char := if d < 26 then Char.ofNat (0x61 + d) else Char.ofNat (0x30 + (d - 26))

/-- The value of a digit. -/
def digitValue? (c : Char) : Option Nat :=
  let n := c.toNat
  if 0x61 ≤ n && n ≤ 0x7A then some (n - 0x61)
  else if 0x41 ≤ n && n ≤ 0x5A then some (n - 0x41)
  else if 0x30 ≤ n && n ≤ 0x39 then some (n - 0x30 + 26)
  else none

/-- Threshold of the digit at position `k`. -/
def threshold (k bias : Nat) : Nat :=
  if k ≤ bias then 1 else if bias + 26 ≤ k then 26 else k - bias

theorem threshold_pos (k bias : Nat) : 0 < threshold k bias := by
  unfold threshold
  split
  · decide
  · split <;> omega

/-- Divides by 35 while the difference is above 455, counting 36 for each time. -/
def shrink (delta k : Nat) : Nat × Nat :=
  if 455 < delta then shrink (delta / 35) (k + 36) else (delta, k)
termination_by delta
decreasing_by exact Nat.div_lt_self (by omega) (by decide)

/-- The bias after a difference, with `count` characters written in all. -/
def adapt (delta count : Nat) (first : Bool) : Nat :=
  let halved := if first then delta / 700 else delta / 2
  let (rest, k) := shrink (halved + halved / count) 0
  k + 36 * rest / (rest + 38)

/-- The digits of a difference. -/
def digits (bias k q : Nat) : List Char :=
  if q < threshold k bias then [digit q]
  else
    digit (threshold k bias + (q - threshold k bias) % (36 - threshold k bias)) ::
      digits bias (k + 36) ((q - threshold k bias) / (36 - threshold k bias))
termination_by q
decreasing_by
  have hpos := threshold_pos k bias
  have hdiv := Nat.div_le_self (q - threshold k bias) (36 - threshold k bias)
  omega

/-- Progress of the encoder: what is written, the difference, the bias, and how many
characters the reader will know by then. -/
structure Writing where
  out : List Char
  delta : Nat
  bias : Nat
  known : Nat

/-- Meets one character of the label while the code point `code` is being placed. -/
def Writing.meet (basic code : Nat) (w : Writing) (c : Char) : Writing :=
  if c.toNat < code then { w with delta := w.delta + 1 }
  else if c.toNat = code then
    { out := w.out ++ digits w.bias 36 w.delta
      delta := 0
      bias := adapt w.delta (w.known + 1) (w.known == basic)
      known := w.known + 1 }
  else w

/-- Places the code points of the list, in ascending order, above `from`. -/
def place (label : List Char) (basic : Nat) : List Nat → Nat → Writing → Writing
  | [], _, w => w
  | code :: codes, reached, w =>
      let started := { w with delta := w.delta + (code - reached) * (w.known + 1) }
      let met := label.foldl (Writing.meet basic code) started
      place label basic codes (code + 1) { met with delta := met.delta + 1 }

/-- `n` put into an ascending list without repetition. -/
def insertCode (n : Nat) : List Nat → List Nat
  | [] => [n]
  | m :: rest =>
      if n < m then n :: m :: rest else if n = m then m :: rest else m :: insertCode n rest

/-- The form of a label. -/
def encode (label : List Char) : List Char :=
  let basic := label.filter (·.toNat < 0x80)
  let codes := (label.filter (0x80 ≤ ·.toNat)).foldl (fun acc c => insertCode c.toNat acc) []
  let lead := if basic.isEmpty then [] else basic ++ ['-']
  lead ++ (place label basic.length codes 0x80 ⟨[], 0, 72, basic.length⟩).out

/-- Reads one difference: its value added to `sum`, and what follows. -/
def readDifference (bias : Nat) : List Char → Nat → Nat → Nat → Option (Nat × List Char)
  | [], _, _, _ => none
  | c :: rest, k, weight, sum =>
      match digitValue? c with
      | none => none
      | some d =>
          if d < threshold k bias then some (sum + d * weight, rest)
          else
            readDifference bias rest (k + 36) (weight * (36 - threshold k bias)) (sum + d * weight)

theorem readDifference_length {bias : Nat} {cs : List Char} {k weight sum value : Nat}
    {rest : List Char} (h : readDifference bias cs k weight sum = some (value, rest)) :
    rest.length < cs.length := by
  induction cs generalizing k weight sum with
  | nil => cases h
  | cons c tail ih =>
    rw [readDifference] at h
    split at h
    · cases h
    · split at h
      · cases h
        exact Nat.lt_succ_self _
      · exact Nat.lt_succ_of_lt (ih h)

/-- Inserts the characters written by the differences into `known`. -/
def readAll (cs : List Char) (known : List Char) (code index bias : Nat) : Option (List Char) :=
  if cs.isEmpty then some known
  else
    match h : readDifference bias cs 36 1 index with
    | none => none
    | some (sum, rest) =>
        let count := known.length + 1
        let reached := code + sum / count
        let position := sum % count
        if reached < 0x110000 && !(0xD800 ≤ reached && reached < 0xE000) then
          have := readDifference_length h
          readAll rest (known.take position ++ Char.ofNat reached :: known.drop position) reached
            (position + 1) (adapt (sum - index) count (index == 0))
        else none
termination_by cs.length

/-- The label with the given form. What precedes the last hyphen is ASCII, and if a hyphen is
there, so is something in front of it. -/
def decode? (cs : List Char) : Option (List Char) :=
  let tail := (cs.reverse.takeWhile (· != '-')).reverse
  let lead := cs.take (cs.length - tail.length - 1)
  if cs.contains '-' then
    if !lead.isEmpty && lead.all (·.toNat < 0x80) then readAll tail lead 0x80 0 72 else none
  else readAll cs [] 0x80 0 72

end CredentialSupply.Url.Punycode
