import CredentialSupply.Text.Form

set_option autoImplicit false

/-!
# What is written can be read back

Decoding undoes the encoding of a text as UTF-8 (`Utf8.decode?_encode`), and in the body of a form
no two texts look the same (`Form.encodeText_injective`). So a server can tell by what it is sent
what it was sent.
-/

namespace CredentialSupply

/-! ## UTF-8 -/

namespace Utf8

theorem toNat_toUInt8 {n : Nat} (h : n < 0x100) : n.toUInt8.toNat = n := by
  simp [Nat.toUInt8]
  omega

theorem ofNat_eq (c : Char) {n : Nat} (h : n = c.toNat) : Char.ofNat n = c := by
  rw [h, Char.ofNat_toNat]

/-- The bytes of a character are read as that character, whatever follows. -/
theorem decodeOne_encodeChar (c : Char) (rest : List UInt8) :
    ∃ b bs, encodeChar c = b :: bs ∧ decodeOne b (bs ++ rest) = .char c bs.length := by
  have hvalid : c.toNat < 0xD800 ∨ 0xDFFF < c.toNat ∧ c.toNat < 0x110000 := c.valid
  simp only [encodeChar]
  by_cases h₁ : c.toNat < 0x80
  · rw [if_pos h₁]
    refine ⟨_, _, rfl, ?_⟩
    have hb := toNat_toUInt8 (n := c.toNat) (by omega)
    simp only [decodeOne, hb, if_pos h₁, List.length_nil, Char.ofNat_toNat]
  rw [if_neg h₁]
  by_cases h₂ : c.toNat < 0x800
  · rw [if_pos h₂]
    refine ⟨_, _, rfl, ?_⟩
    have hb := toNat_toUInt8 (n := 0xC0 + c.toNat / 0x40) (by omega)
    have hc := toNat_toUInt8 (n := 0x80 + c.toNat % 0x40) (by omega)
    simp only [decodeOne, hb, List.cons_append, List.nil_append, continues, payload, hc]
    rw [if_neg (by omega), if_neg (by simp; omega), if_pos (by omega), if_pos (by simp; omega),
      ofNat_eq c (by omega)]
    rfl
  rw [if_neg h₂]
  by_cases h₃ : c.toNat < 0x10000
  · rw [if_pos h₃]
    refine ⟨_, _, rfl, ?_⟩
    have hb := toNat_toUInt8 (n := 0xE0 + c.toNat / 0x1000) (by omega)
    have hc := toNat_toUInt8 (n := 0x80 + c.toNat / 0x40 % 0x40) (by omega)
    have hd := toNat_toUInt8 (n := 0x80 + c.toNat % 0x40) (by omega)
    simp only [decodeOne, hb, List.cons_append, List.nil_append, continues, payload, hc, hd]
    -- the second byte keeps out of the gap that no character fills
    rw [if_neg (by omega), if_neg (by simp; omega), if_neg (by omega), if_pos (by omega),
      if_pos (by simp; split <;> split <;> omega), if_pos (by simp; omega), ofNat_eq c (by omega)]
    rfl
  · rw [if_neg h₃]
    refine ⟨_, _, rfl, ?_⟩
    have hb := toNat_toUInt8 (n := 0xF0 + c.toNat / 0x40000) (by omega)
    have hc := toNat_toUInt8 (n := 0x80 + c.toNat / 0x1000 % 0x40) (by omega)
    have hd := toNat_toUInt8 (n := 0x80 + c.toNat / 0x40 % 0x40) (by omega)
    have he := toNat_toUInt8 (n := 0x80 + c.toNat % 0x40) (by omega)
    simp only [decodeOne, hb, List.cons_append, List.nil_append, continues, payload, hc, hd, he]
    rw [if_neg (by omega), if_neg (by simp; omega), if_neg (by omega), if_neg (by omega),
      if_pos (by simp; split <;> split <;> omega), if_pos (by simp; omega),
      if_pos (by simp; omega), ofNat_eq c (by omega)]
    rfl

theorem pieces_skip (bs rest : List UInt8) : pieces bs.length (bs ++ rest) = pieces 0 rest := by
  induction bs with
  | nil => rfl
  | cons b bs ih => exact ih

theorem pieces_encode (cs : List Char) : pieces 0 (cs.flatMap encodeChar) = cs.map some := by
  induction cs with
  | nil => rfl
  | cons c cs ih =>
      obtain ⟨b, bs, hbytes, hone⟩ := decodeOne_encodeChar c (cs.flatMap encodeChar)
      rw [List.flatMap_cons, hbytes, List.cons_append, pieces, hone]
      simp only
      rw [pieces_skip, ih, List.map_cons]

/-- The bytes of a text are read as that text. -/
theorem decode?_encode (text : String) : decode? (encode text) = some text := by
  have hall : ∀ cs : List Char, (cs.map some).mapM id = some cs := by
    intro cs
    induction cs with
    | nil => rfl
    | cons c cs ih => simp [List.mapM_cons, ih]
  rw [decode?, encode, pieces_encode, hall]
  exact congrArg some (String.ofList_toList)

example : decode? (encode "aé€😀") = some "aé€😀" := by decide +kernel

theorem encode_injective {s t : String} (h : encode s = encode t) : s = t := by
  have hs := decode?_encode s
  rw [h, decode?_encode t] at hs
  exact (Option.some.inj hs).symm

end Utf8

/-! ## Forms -/

namespace Form

/-- The byte that is written so in a form. -/
def byteOf : List Char → UInt8
  | [c] => if c = '+' then 0x20 else c.toNat.toUInt8
  | [_, high, low] =>
      ((Text.hexValue? high).getD 0 * 16 + (Text.hexValue? low).getD 0).toUInt8
  | _ => 0

/-- How many letters are written for a byte, by the first of them. -/
def lengthFrom (c : Char) : Nat := if c = '%' then 3 else 1

theorem facts_encodeByte (b : UInt8) : byteOf (encodeByte b) = b ∧
    (encodeByte b).head?.map lengthFrom = some (encodeByte b).length := by
  have hall : ∀ n : Fin 256, byteOf (encodeByte (UInt8.ofFin n)) = UInt8.ofFin n ∧
      (encodeByte (UInt8.ofFin n)).head?.map lengthFrom =
        some (encodeByte (UInt8.ofFin n)).length := by
    decide +kernel
  exact hall b.toFin

theorem encodeByte_cons (b : UInt8) :
    ∃ c cs, encodeByte b = c :: cs ∧ (encodeByte b).length = lengthFrom c := by
  have hlength := (facts_encodeByte b).2
  cases h : encodeByte b with
  | nil => simp [h] at hlength
  | cons c cs =>
      rw [h] at hlength
      exact ⟨c, cs, rfl, (Option.some.inj hlength).symm⟩

/-- Bytes written in a row can be told apart. -/
theorem flatMap_encodeByte_injective {xs ys : List UInt8}
    (h : xs.flatMap encodeByte = ys.flatMap encodeByte) : xs = ys := by
  induction xs generalizing ys with
  | nil =>
      cases ys with
      | nil => rfl
      | cons y ys =>
          obtain ⟨c, cs, hy, -⟩ := encodeByte_cons y
          simp [hy] at h
  | cons x xs ih =>
      obtain ⟨c, cs, hx, hsize⟩ := encodeByte_cons x
      cases ys with
      | nil => simp [hx] at h
      | cons y ys =>
          obtain ⟨d, ds, hy, hsize'⟩ := encodeByte_cons y
          rw [List.flatMap_cons, List.flatMap_cons] at h
          have hfirst : c = d := by
            rw [hx, hy] at h
            exact (List.cons.inj h).1
          obtain ⟨hword, hrest⟩ := List.append_inj h (by rw [hsize, hsize', hfirst])
          have hbyte : x = y := by
            rw [← (facts_encodeByte x).1, hword, (facts_encodeByte y).1]
          rw [hbyte, ih hrest]

/-- No two texts look the same in a form. -/
theorem encodeText_injective {s t : String} (h : encodeText s = encodeText t) : s = t :=
  Utf8.encode_injective (flatMap_encodeByte_injective (String.ofList_injective h))

/-- The second of two named values can be told from the body of a form. -/
theorem encode_snd_injective {m n s t t' : String}
    (h : encode [(m, s), (n, t)] = encode [(m, s), (n, t')]) : t = t' := by
  have hbody : encodeText m ++ "=" ++ encodeText s ++ "&" ++ (encodeText n ++ "=" ++ encodeText t) =
      encodeText m ++ "=" ++ encodeText s ++ "&" ++ (encodeText n ++ "=" ++ encodeText t') := h
  rw [String.append_right_inj, String.append_right_inj] at hbody
  exact encodeText_injective hbody

end Form

end CredentialSupply
