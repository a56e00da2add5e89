import HitCounter.Http.Form
import HitCounter.Proofs.Text.Split
import HitCounter.Text.Utf8.Lemmas
import Mathlib.Data.List.Forall2

/-!
# Reading what was written as a form

- **Bytes** (`Http.FormBytes`): a byte is written as it is or by number, and a space also as a plus
  sign. Whatever the choice, the bytes are read as they were (`Http.percentDecode_formBytes`).
- **Pairs** (`Http.formPairs_written`): so are the pairs of a query that was written with `=` and
  `&` between them.
-/

namespace HitCounter.Http

open Text (Bytes encode)

/-! ## Bytes -/

/-- The ways to write a byte. -/
inductive FormByte : UInt8 → Bytes → Prop where
  /-- As it is, unless that would be read as something else. -/
  | plain {b : UInt8} (percent : b ≠ 0x25) (ampersand : b ≠ 0x26) (plus : b ≠ 0x2B) :
    FormByte b [b]
  /-- A space as a plus sign. -/
  | plus : FormByte 0x20 [0x2B]
  /-- By number, with hexadecimal digits in either case. -/
  | number {high low : UInt8} {h l : Nat} (upper : Text.hexDigit? high = some h)
    (lower : Text.hexDigit? low = some l) : FormByte (UInt8.ofNat (h * 16 + l)) [0x25, high, low]

/-- The ways to write bytes, each in its own way. -/
inductive FormBytes : Bytes → Bytes → Prop where
  | nil : FormBytes [] []
  | cons {b : UInt8} {bs written more : Bytes} (first : FormByte b written)
    (others : FormBytes bs more) : FormBytes (b :: bs) (written ++ more)

variable {b : UInt8} {bs written rest done : Bytes}

/-- Bytes of which none would be read as something else may be written as they are. -/
theorem formBytes_self (percent : 0x25 ∉ bs) (ampersand : 0x26 ∉ bs) (plus : 0x2B ∉ bs) :
    FormBytes bs bs := by
  induction bs with
  | nil => exact .nil
  | cons b bs ih =>
    rw [List.mem_cons, not_or] at percent ampersand plus
    exact .cons (.plain (Ne.symm percent.1) (Ne.symm ampersand.1) (Ne.symm plus.1))
      (ih percent.2 ampersand.2 plus.2)

theorem hexDigit_ne {d x : UInt8} {n : Nat} (h : Text.hexDigit? d = some n)
    (hx : Text.hexDigit? x = none) : d ≠ x := by
  rintro rfl
  rw [h] at hx
  cases hx

/-- A byte stands for itself unless it starts an escape. -/
theorem percentDecodeFrom_cons (h : b ≠ 0x25) :
    percentDecodeFrom done (b :: rest) = percentDecodeFrom (b :: done) rest := by
  rw [percentDecodeFrom.eq_def]
  split
  · contradiction
  · rename_i heq
    cases heq
    split
    · contradiction
    · rfl

theorem percentDecodeFrom_number {high low : UInt8} {h l : Nat}
    (hh : Text.hexDigit? high = some h) (hl : Text.hexDigit? low = some l) :
    percentDecodeFrom done (0x25 :: high :: low :: rest) =
      percentDecodeFrom (UInt8.ofNat (h * 16 + l) :: done) rest := by
  rw [percentDecodeFrom.eq_def]
  simp only [hh, hl]

theorem plusToSpace_of_ne (h : b ≠ 0x2B) : plusToSpace b = b := if_neg h

/-- However a byte is written, it is read as that byte. -/
theorem FormByte.percentDecodeFrom (h : FormByte b written) :
    percentDecodeFrom done (written.map plusToSpace ++ rest) =
      percentDecodeFrom (b :: done) rest := by
  cases h with
  | plain percent _ plus =>
    rw [List.map_singleton, plusToSpace_of_ne plus]
    exact percentDecodeFrom_cons percent
  | plus => exact percentDecodeFrom_cons (by decide)
  | number upper lower =>
    rw [List.map_cons, List.map_cons, List.map_singleton, plusToSpace_of_ne (by decide),
      plusToSpace_of_ne (hexDigit_ne upper (by decide)),
      plusToSpace_of_ne (hexDigit_ne lower (by decide))]
    exact percentDecodeFrom_number upper lower

/-- **Written bytes** are read as they were. -/
theorem percentDecode_formBytes (h : FormBytes bs written) :
    percentDecode (written.map plusToSpace) = bs := by
  suffices ∀ done, percentDecodeFrom done (written.map plusToSpace) = done.reverse ++ bs from
    this []
  induction h with
  | nil =>
    intro done
    rw [List.map_nil, percentDecodeFrom, List.append_nil]
  | cons first _ ih =>
    intro done
    rw [List.map_append, first.percentDecodeFrom, ih, List.reverse_cons, List.append_assoc]
    rfl

/-- No ampersand is ever written. -/
theorem FormByte.ampersand_notMem (h : FormByte b written) : 0x26 ∉ written := by
  cases h with
  | plain _ ampersand _ => simpa using ampersand.symm
  | plus => decide
  | number upper lower =>
    have hhigh := hexDigit_ne upper (x := 0x26) (by decide)
    have hlow := hexDigit_ne lower (x := 0x26) (by decide)
    simp [hhigh.symm, hlow.symm]

theorem FormBytes.ampersand_notMem (h : FormBytes bs written) : 0x26 ∉ written := by
  induction h with
  | nil => exact List.not_mem_nil
  | cons first _ ih =>
    rw [List.mem_append]
    exact not_or.mpr ⟨first.ampersand_notMem, ih⟩

/-- An equals sign is only ever written for one. -/
theorem FormByte.equals_notMem (h : FormByte b written) (hb : b ≠ 0x3D) : 0x3D ∉ written := by
  cases h with
  | plain => simpa using hb.symm
  | plus => decide
  | number upper lower =>
    have hhigh := hexDigit_ne upper (x := 0x3D) (by decide)
    have hlow := hexDigit_ne lower (x := 0x3D) (by decide)
    simp [hhigh.symm, hlow.symm]

theorem FormBytes.equals_notMem (h : FormBytes bs written) (hbs : 0x3D ∉ bs) : 0x3D ∉ written := by
  induction h with
  | nil => exact List.not_mem_nil
  | cons first _ ih =>
    rw [List.mem_cons, not_or] at hbs
    rw [List.mem_append]
    exact not_or.mpr ⟨first.equals_notMem (Ne.symm hbs.1), ih hbs.2⟩

/-! ## Pairs -/

/-- The ways to write a pair of a key and a value. -/
inductive FormPair : List Char × List Char → Bytes → Prop where
  | mk {key value : List Char} {k v : Bytes} (key_written : FormBytes (encode key) k)
    (value_written : FormBytes (encode value) v) : FormPair (key, value) (k ++ 0x3D :: v)

variable {pair : List Char × List Char}

theorem formText_written {s : List Char} (h : FormBytes (encode s) written) :
    formText written = s := by
  rw [formText, percentDecode_formBytes h, Text.decodeLossy_encode]

/-- A written pair whose key has no equals sign is read as it was. -/
theorem FormPair.formPair (h : FormPair pair written) (hkey : 0x3D ∉ encode pair.1) :
    formPair written = pair := by
  obtain ⟨key_written, value_written⟩ := h
  rename_i key value k v
  have hfree : ∀ c ∈ k, (c == 0x3D) = false := fun c hc =>
    beq_false_of_ne fun heq => key_written.equals_notMem hkey (heq ▸ hc)
  unfold Http.formPair
  rw [Text.splitFirst?_append_cons hfree rfl]
  simp only [formText_written key_written, formText_written value_written]

theorem FormPair.ampersand_notMem (h : FormPair pair written) : 0x26 ∉ written := by
  obtain ⟨key_written, value_written⟩ := h
  simp only [List.mem_append, List.mem_cons, not_or]
  exact ⟨key_written.ampersand_notMem, by decide, value_written.ampersand_notMem⟩

theorem FormPair.ne_nil (h : FormPair pair written) : written ≠ [] := by
  obtain ⟨-, -⟩ := h
  simp

/-- **Written pairs** are read as they were. -/
theorem formPairs_written {pairs : List (List Char × List Char)} {parts : List Bytes}
    (h : List.Forall₂ FormPair pairs parts) (hkeys : ∀ pair ∈ pairs, 0x3D ∉ encode pair.1) :
    formPairs (List.intercalate [0x26] parts) = pairs := by
  have hread : parts.map formPair = pairs := by
    induction h with
    | nil => rfl
    | cons hpair _ ih =>
      rw [List.forall_mem_cons] at hkeys
      rw [List.map_cons, hpair.formPair hkeys.1, ih hkeys.2]
  have hparts : ∀ part ∈ parts, part ≠ [] ∧ ∀ c ∈ part, (c == 0x26) = false := by
    clear hread hkeys
    induction h with
    | nil => exact fun _ hpart => absurd hpart List.not_mem_nil
    | cons hpair _ ih =>
      refine List.forall_mem_cons.mpr ⟨⟨hpair.ne_nil, fun c hc => beq_false_of_ne ?_⟩, ih⟩
      rintro rfl
      exact hpair.ampersand_notMem hc
  have hcut : (Text.split (· == 0x26) (List.intercalate [0x26] parts)).filter (!·.isEmpty) =
      parts := by
    by_cases hnil : parts = []
    · rw [hnil]
      rfl
    · rw [Text.split_intercalate hnil (by decide) fun part hpart => (hparts part hpart).2]
      refine List.filter_eq_self.mpr fun part hpart => ?_
      simpa using (hparts part hpart).1
  rw [formPairs, hcut, hread]

end HitCounter.Http
