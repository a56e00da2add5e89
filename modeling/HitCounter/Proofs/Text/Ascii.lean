import HitCounter.Http.Header
import HitCounter.Text.Lowercase
import HitCounter.Text.Utf8.Lemmas

/-!
# Texts in ASCII

A text in ASCII has one byte for each character (`Text.encode_ascii`), which is read back as that
character (`Http.asciiText_encode`, `Http.decodeLossy_visible`), and its lower case is that of ASCII
(`Text.lowercase_ascii`). What is no letter stands for itself in either case
(`Text.toLower_eq_iff`). The bytes of a header are visible exactly if its characters are
(`Text.IsVisible`, `Http.isVisible_iff`).
-/

namespace HitCounter

namespace Text

variable {s : List Char}

theorem encodeChar_ascii {c : Char} (h : c.toNat < 0x80) :
    String.utf8EncodeChar c = [UInt8.ofNat c.toNat] := by
  unfold String.utf8EncodeChar
  exact if_pos (Nat.le_of_lt_succ h)

/-- A text in ASCII has one byte for each character. -/
theorem encode_ascii (h : ∀ c ∈ s, c.toNat < 0x80) :
    encode s = s.map fun c => UInt8.ofNat c.toNat := by
  induction s with
  | nil => rfl
  | cons c s ih =>
    rw [encode_cons, encodeChar_ascii (h c List.mem_cons_self),
      ih fun d hd => h d (List.mem_cons_of_mem c hd), List.singleton_append, List.map_cons]

/-- A byte has the number of its character. -/
theorem toNat_ofByte (b : UInt8) : (Char.ofNat b.toNat).toNat = b.toNat := by
  have hvalid : b.toNat.isValidChar := .inl (Nat.lt_trans b.toNat_lt (by decide))
  rw [Char.ofNat, dif_pos hvalid]
  rfl

/-- Bytes of ASCII are those of the text with their characters. -/
theorem encode_ofBytes {bs : Bytes} (h : ∀ b ∈ bs, b.toNat < 0x80) :
    encode (bs.map fun b => Char.ofNat b.toNat) = bs := by
  rw [encode_ascii (List.forall_mem_map.mpr fun b hb => by rw [toNat_ofByte]; exact h b hb),
    List.map_map]
  refine (List.map_congr_left fun b _ => ?_).trans (List.map_id bs)
  rw [Function.comp, toNat_ofByte, UInt8.ofNat_toNat, id]

/-- The lower case of a text in ASCII, wherever the text stands: no sigma is in it. -/
theorem lowercaseAfter_ascii (before done : List Char) (h : ∀ c ∈ s, c.toNat < 0x80) :
    lowercaseAfter before done s = done.reverse ++ lower s := by
  induction s generalizing before done with
  | nil => exact (List.append_nil _).symm
  | cons c s ih =>
    have hc := h c List.mem_cons_self
    have hsigma : c ≠ 'Σ' := fun heq => by
      rw [heq] at hc
      exact absurd hc (by decide)
    rw [lowercaseAfter, if_neg hsigma, lowerChar, if_pos hc,
      ih _ _ fun d hd => h d (List.mem_cons_of_mem c hd)]
    simp [lower]

theorem lowercase_ascii (h : ∀ c ∈ s, c.toNat < 0x80) : lowercase s = lower s :=
  lowercaseAfter_ascii [] [] h

/-- A character in lower case is the character itself, unless it is a capital of ASCII. -/
theorem toLower_cases (c : Char) :
    c.toLower = c ∨ 0x41 ≤ c.toNat ∧ c.toNat ≤ 0x5A ∧ c.toLower.toNat = c.toNat + 0x20 := by
  unfold Char.toLower
  split
  · rename_i h
    have hleast : 0x41 ≤ c.val.toNat := h.1
    have hmost : c.val.toNat ≤ 0x5A := h.2
    refine .inr ⟨hleast, hmost, ?_⟩
    change (c.val + ('a'.val - 'A'.val)).toNat = c.val.toNat + 0x20
    rw [UInt32.toNat_add, show ('a'.val - 'A'.val).toNat = 0x20 from rfl]
    omega
  · exact .inl rfl

/-- What is no letter of ASCII is in lower case as it stands, and nothing else becomes it. -/
theorem toLower_eq_iff {c d : Char}
    (hd : d.toNat < 0x41 ∨ 0x5A < d.toNat ∧ d.toNat < 0x61 ∨ 0x7A < d.toNat) :
    c.toLower = d ↔ c = d := by
  obtain hsame | ⟨hleast, hmost, hlower⟩ := toLower_cases c
  · rw [hsame]
  · refine iff_of_false (fun heq => ?_) (fun heq => ?_)
    · rw [heq] at hlower
      omega
    · rw [heq] at hleast hmost
      omega

/-- What relates a character to itself, and each capital of ASCII to its small letter, relates every
character to its lower case. -/
theorem toLower_related (P : Char → Char → Prop) (own : ∀ c, P c c)
    (capital : ∀ n < 26, P (Char.ofNat (0x41 + n)) (Char.ofNat (0x61 + n))) (c : Char) :
    P c c.toLower := by
  obtain hsame | ⟨hleast, hmost, hlower⟩ := toLower_cases c
  · rw [hsame]
    exact own c
  · have hc := capital (c.toNat - 0x41) (by omega)
    rwa [show 0x41 + (c.toNat - 0x41) = c.toNat by omega,
      show 0x61 + (c.toNat - 0x41) = c.toLower.toNat by omega, Char.ofNat_toNat,
      Char.ofNat_toNat] at hc

theorem toLower_toLower (c : Char) : c.toLower.toLower = c.toLower :=
  (toLower_related (fun c d => c.toLower = d.toLower) (fun _ => rfl) (by decide) c).symm

theorem lower_lower (s : List Char) : lower (lower s) = lower s := by
  rw [lower, lower, List.map_map]
  exact List.map_congr_left fun c _ => toLower_toLower c

theorem lower_eq_nil_iff : lower s = [] ↔ s = [] := List.map_eq_nil_iff

theorem toUpper_toLower (c : Char) : c.toLower.toUpper = c.toUpper :=
  (toLower_related (fun c d => c.toUpper = d.toUpper) (fun _ => rfl) (by decide) c).symm

theorem isAlpha_toLower (c : Char) : c.toLower.isAlpha = c.isAlpha :=
  (toLower_related (fun c d => c.isAlpha = d.isAlpha) (fun _ => rfl) (by decide) c).symm

theorem isDigit_toLower (c : Char) : c.toLower.isDigit = c.isDigit :=
  (toLower_related (fun c d => c.isDigit = d.isDigit) (fun _ => rfl) (by decide) c).symm

theorem isDigit_iff {c : Char} : c.isDigit = true ↔ 0x30 ≤ c.toNat ∧ c.toNat ≤ 0x39 := by
  simp [Char.isDigit, UInt32.le_iff_toNat_le]

theorem toUpper_of_isDigit {c : Char} (h : c.isDigit = true) : c.toUpper = c := by
  have hdigits : ∀ n < 0x3A, 0x30 ≤ n → (Char.ofNat n).toUpper = Char.ofNat n := by decide
  obtain ⟨hleast, hmost⟩ := isDigit_iff.mp h
  have hc := hdigits c.toNat (by omega) hleast
  rwa [Char.ofNat_toNat] at hc

theorem isUpper_iff {c : Char} : c.isUpper = true ↔ 0x41 ≤ c.toNat ∧ c.toNat ≤ 0x5A := by
  change decide (0x41 ≤ c.val ∧ c.val ≤ 0x5A) = true ↔ _
  simp [UInt32.le_iff_toNat_le]

theorem isLower_iff {c : Char} : c.isLower = true ↔ 0x61 ≤ c.toNat ∧ c.toNat ≤ 0x7A := by
  change (decide (0x61 ≤ c.val) && decide (c.val ≤ 0x7A)) = true ↔ _
  simp [UInt32.le_iff_toNat_le]

/-- Letters and digits of ASCII stand between the digit zero and the last small letter. -/
theorem isAlphanum_bounds {c : Char} (h : c.isAlphanum = true) :
    0x30 ≤ c.toNat ∧ c.toNat ≤ 0x7A := by
  change (c.isUpper || c.isLower || c.isDigit) = true at h
  rw [Bool.or_eq_true, Bool.or_eq_true, isUpper_iff, isLower_iff, isDigit_iff] at h
  omega

/-- No capital is left in lower case. -/
theorem isUpper_toLower (c : Char) : c.toLower.isUpper = false := by
  have hcapitals : ∀ n < 26, (Char.ofNat (0x41 + n)).toLower ≠ Char.ofNat (0x41 + n) := by decide
  rw [← Bool.not_eq_true, isUpper_iff]
  rintro ⟨hleast, hmost⟩
  obtain hsame | ⟨hleast', -, hlower⟩ := toLower_cases c
  · rw [hsame] at hleast hmost
    have hc := hcapitals (c.toNat - 0x41) (by omega)
    rw [show 0x41 + (c.toNat - 0x41) = c.toNat by omega, Char.ofNat_toNat] at hc
    exact hc hsame
  · omega

/-- Printing characters print in lower case, and no others do. -/
theorem toLower_printable {c : Char} :
    0x20 ≤ c.toLower.toNat ∧ c.toLower.toNat ≤ 0x7E ↔ 0x20 ≤ c.toNat ∧ c.toNat ≤ 0x7E := by
  obtain hsame | ⟨hleast, hmost, hlower⟩ := toLower_cases c
  · rw [hsame]
  · omega

/-- A character that is visible in a header: a tab, or one that prints in ASCII. -/
def IsVisible (c : Char) : Prop := c = '\t' ∨ 0x20 ≤ c.toNat ∧ c.toNat ≤ 0x7E

instance : DecidablePred IsVisible := fun _ => inferInstanceAs (Decidable (_ ∨ _))

theorem IsVisible.ascii {c : Char} (h : IsVisible c) : c.toNat < 0x80 := by
  obtain rfl | ⟨-, hmost⟩ := h
  · decide
  · exact Nat.lt_of_le_of_lt hmost (by decide)

theorem isVisible_toLower {c : Char} : IsVisible c.toLower ↔ IsVisible c := by
  rw [IsVisible, IsVisible, toLower_printable, toLower_eq_iff (by decide)]

end Text

/-- The bytes of a text in ASCII are read as its characters. -/
theorem Http.asciiText_encode {s : List Char} (h : ∀ c ∈ s, c.toNat < 0x80) :
    Http.asciiText (Text.encode s) = String.ofList s := by
  rw [Http.asciiText, Text.encode_ascii h, List.map_map]
  refine congrArg String.ofList ((List.map_congr_left fun c hc => ?_).trans (List.map_id s))
  have hlt := h c hc
  simp only [Function.comp, id_eq]
  rw [Text.toNat_byte (by omega), Char.ofNat_toNat]

/-- A visible byte is that of a visible character. -/
theorem Http.isVisible_iff {b : UInt8} :
    Http.isVisible b = true ↔ Text.IsVisible (Char.ofNat b.toNat) := by
  have htab : Char.ofNat b.toNat = '\t' ↔ b = 0x09 := by
    rw [← Char.toNat_inj, Text.toNat_ofByte, ← UInt8.toNat_inj]
    rfl
  simp only [Http.isVisible, Text.IsVisible, htab, Text.toNat_ofByte, Bool.or_eq_true, beq_iff_eq,
    Bool.and_eq_true, decide_eq_true_eq, UInt8.le_iff_toNat_le]
  rfl

/-- Visible bytes are the same text whether other bytes would be replaced or not. -/
theorem Http.decodeLossy_visible {bs : Text.Bytes} (h : bs.all Http.isVisible = true) :
    String.ofList (Text.decodeLossy bs) = Http.asciiText bs := by
  have hascii : ∀ b ∈ bs, b.toNat < 0x80 := fun b hb => by
    rw [← Text.toNat_ofByte]
    exact (Http.isVisible_iff.mp (List.all_eq_true.mp h b hb)).ascii
  rw [Http.asciiText, ← Text.decodeLossy_encode (bs.map fun b => Char.ofNat b.toNat),
    Text.encode_ofBytes hascii]

/-- The bytes of a visible text are visible. -/
theorem Http.isVisible_encode {s : List Char} (h : ∀ c ∈ s, Text.IsVisible c) :
    (Text.encode s).all Http.isVisible = true := by
  rw [Text.encode_ascii fun c hc => (h c hc).ascii, List.all_map, List.all_eq_true]
  intro c hc
  have hascii := (h c hc).ascii
  rw [Function.comp, Http.isVisible_iff, Text.toNat_byte (by omega), Char.ofNat_toNat]
  exact h c hc

/-- Visible bytes are read as a visible text. -/
theorem Http.isVisible_asciiText {bs : Text.Bytes} (h : bs.all Http.isVisible = true) :
    ∀ c ∈ (Http.asciiText bs).toList, Text.IsVisible c := by
  rw [Http.asciiText, String.toList_ofList, List.forall_mem_map]
  exact fun b hb => Http.isVisible_iff.mp (List.all_eq_true.mp h b hb)

end HitCounter
