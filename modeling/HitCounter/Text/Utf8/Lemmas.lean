import HitCounter.Text.Utf8

/-!
# Reading what was written in UTF-8

- **Characters** (`foldl_step_encodeChar`): the bytes of a character take the decoder from one
  place where a character starts to the next, and it finds that character.
- **Texts** (`pieces_encode`): the pieces of an encoded text are its characters. Hence
  `decode?_encode` and `decodeLossy_encode`: both readers give the text back.
-/

namespace HitCounter.Text

/-! ## Bytes given by number -/

theorem toNat_byte {n : Nat} (h : n < 256) : (UInt8.ofNat n).toNat = n :=
  UInt8.toNat_ofNat_of_lt' h

/-- The first byte of a character of one byte. -/
theorem lead_one {n : Nat} (h : n < 0x80) : lead (UInt8.ofNat n) = .whole (Char.ofNat n) := by
  unfold lead
  rw [toNat_byte (by omega), if_pos h]

/-- The first byte of a character of two bytes. -/
theorem lead_two {n : Nat} (h : 2 ≤ n) (h' : n < 0x20) :
    lead (UInt8.ofNat (n + 192)) = .opens ⟨n, 1, 0x80, 0xBF⟩ := by
  unfold lead
  rw [toNat_byte (by omega)]
  grind

/-- The first byte of a character of three bytes. -/
theorem lead_three {n : Nat} (h : n < 0x10) :
    lead (UInt8.ofNat (n + 224)) =
      .opens ⟨n, 2, if n = 0 then 0xA0 else 0x80, if n = 0xD then 0x9F else 0xBF⟩ := by
  unfold lead
  rw [toNat_byte (by omega)]
  grind

/-- The first byte of a character of four bytes. -/
theorem lead_four {n : Nat} (h : n < 5) :
    lead (UInt8.ofNat (n + 240)) =
      .opens ⟨n, 3, if n = 0 then 0x90 else 0x80, if n = 4 then 0x8F else 0xBF⟩ := by
  unfold lead
  rw [toNat_byte (by omega)]
  grind

/-! ## The decoder on one byte -/

variable {found : List (Option Char)} {o : Opened} {n : Nat}

theorem step_whole {b : UInt8} {c : Char} (h : lead b = .whole c) :
    Decoder.step ⟨found, none⟩ b = ⟨some c :: found, none⟩ := by
  simp [Decoder.step, Decoder.start, h]

theorem step_opens {b : UInt8} (h : lead b = .opens o) :
    Decoder.step ⟨found, none⟩ b = ⟨found, some o⟩ := by
  simp [Decoder.step, Decoder.start, h]

/-- A byte in bounds, when more than one is missing. -/
theorem step_continues (h : o.low ≤ n) (h' : n ≤ o.high) (hn : n < 256) (hm : 1 < o.missing) :
    Decoder.step ⟨found, some o⟩ (UInt8.ofNat n) =
      ⟨found, some ⟨o.bits * 64 + (n - 0x80), o.missing - 1, 0x80, 0xBF⟩⟩ := by
  simp [Decoder.step, toNat_byte hn, h, h', show ¬ o.missing ≤ 1 by omega]

/-- A byte in bounds, when it is the last one. -/
theorem step_completes (h : o.low ≤ n) (h' : n ≤ o.high) (hn : n < 256) (hm : o.missing ≤ 1) :
    Decoder.step ⟨found, some o⟩ (UInt8.ofNat n) =
      ⟨some (Char.ofNat (o.bits * 64 + (n - 0x80))) :: found, none⟩ := by
  simp [Decoder.step, toNat_byte hn, h, h', hm]

/-! ## Characters and texts -/

/-- The bytes of a character are read as that character. -/
theorem foldl_step_encodeChar (found : List (Option Char)) (c : Char) :
    (String.utf8EncodeChar c).foldl Decoder.step ⟨found, none⟩ = ⟨some c :: found, none⟩ := by
  have hv : c.val.toNat < 0xD800 ∨ 0xDFFF < c.val.toNat ∧ c.val.toNat < 0x110000 := c.valid
  have hc : Char.ofNat c.val.toNat = c := Char.ofNat_toNat c
  generalize hn : c.val.toNat = n at hv hc
  unfold String.utf8EncodeChar
  simp only [hn]
  split
  · simp only [List.foldl_cons, List.foldl_nil]
    rw [step_whole (lead_one (by omega)), hc]
  split
  · simp only [List.foldl_cons, List.foldl_nil]
    rw [step_opens (lead_two (by omega) (by omega)),
      step_completes (by simp) (by simp; omega) (by omega) (by simp)]
    simp only [show n / 64 % 32 * 64 + (n % 64 + 128 - 0x80) = n by omega, hc]
  split
  · simp only [List.foldl_cons, List.foldl_nil]
    rw [step_opens (lead_three (by omega)),
      step_continues (by simp; split <;> omega) (by simp; split <;> omega) (by omega) (by simp),
      step_completes (by simp) (by simp; omega) (by omega) (by simp)]
    simp only [show (n / 4096 % 16 * 64 + (n / 64 % 64 + 128 - 0x80)) * 64 +
      (n % 64 + 128 - 0x80) = n by omega, hc]
  · simp only [List.foldl_cons, List.foldl_nil]
    rw [step_opens (lead_four (by omega)),
      step_continues (by simp; split <;> omega) (by simp; split <;> omega) (by omega) (by simp),
      step_continues (by simp) (by simp; omega) (by omega) (by simp),
      step_completes (by simp) (by simp; omega) (by omega) (by simp)]
    simp only [show ((n / 262144 % 8 * 64 + (n / 4096 % 64 + 128 - 0x80)) * 64 +
      (n / 64 % 64 + 128 - 0x80)) * 64 + (n % 64 + 128 - 0x80) = n by omega, hc]

theorem encode_cons (c : Char) (s : List Char) :
    encode (c :: s) = String.utf8EncodeChar c ++ encode s := List.flatMap_cons

theorem encode_append (s t : List Char) : encode (s ++ t) = encode s ++ encode t :=
  List.flatMap_append

theorem foldl_step_encode (s : List Char) (found : List (Option Char)) :
    (encode s).foldl Decoder.step ⟨found, none⟩ = ⟨(s.map some).reverse ++ found, none⟩ := by
  induction s generalizing found with
  | nil => rfl
  | cons c s ih =>
    rw [encode_cons, List.foldl_append, foldl_step_encodeChar, ih]
    simp

/-- The pieces of an encoded text are its characters. -/
theorem pieces_encode (s : List Char) : pieces (encode s) = s.map some := by
  unfold pieces
  rw [show ({} : Decoder) = ⟨[], none⟩ from rfl, foldl_step_encode]
  simp [Decoder.finish]

/-- An encoded text reads back. -/
theorem decode?_encode (s : List Char) : decode? (encode s) = some s := by
  simp [decode?, pieces_encode, List.filterMap_map]

/-- An encoded text reads back without a replacement. -/
theorem decodeLossy_encode (s : List Char) : decodeLossy (encode s) = s := by
  rw [decodeLossy, pieces_encode, List.map_map]
  exact List.map_id s

end HitCounter.Text
