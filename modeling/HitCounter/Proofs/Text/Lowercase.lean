import HitCounter.Proofs.Text.Ascii

/-!
# Lower case is settled

- **The table** (`Text.CaseRun.clears`, `Text.caseRuns_clear`): no lower-case form in the table has
  a lower-case form of its own there. Of two runs it is enough to look at their ends unless they
  overlap, which is how the table is checked.
- **Characters** (`Text.IsSettled`, `Text.isSettled_of_mem_lowerChar`): so the lower case of a
  character consists of characters that are in lower case already.
- **Texts** (`Text.lowercase_of_lower`): a text in lower case is that of every text that differs
  from it in the case of ASCII letters only.
-/

namespace HitCounter.Text

/-! ## The table -/

namespace CaseRun

variable {r s : CaseRun} {n : Nat} {c d : Char}

/-- The run has a lower-case form for the character with this number. -/
def holds (r : CaseRun) (n : Nat) : Bool :=
  Nat.ble r.first n && Nat.ble n r.last && Nat.beq ((n - r.first) % r.step) 0

/-- The number of that form. -/
def form (r : CaseRun) (n : Nat) : Nat := ((n : Int) + r.shift).toNat

/-- The forms of the run are characters. -/
def isPlaced (r : CaseRun) : Bool :=
  decide (0 ≤ (r.first : Int) + r.shift) &&
    (Nat.blt (r.form r.last) 0xD800 ||
      Nat.blt 0xDFFF (r.form r.first) && Nat.blt (r.form r.last) 0x110000)

/-- No form of the first run is in the second. -/
def clears (r s : CaseRun) : Bool :=
  Nat.blt (r.form r.last) s.first || Nat.blt s.last (r.form r.first) ||
    (List.range (r.last - r.first + 1)).all fun k =>
      !r.holds (r.first + k) || !s.holds (r.form (r.first + k))

theorem holds_iff : r.holds n = true ↔ r.first ≤ n ∧ n ≤ r.last ∧ (n - r.first) % r.step = 0 := by
  simp only [holds, Bool.and_eq_true, Nat.ble_eq, Nat.beq_eq, and_assoc]

theorem lower?_eq_some_iff :
    r.lower? c = some d ↔ r.holds c.toNat = true ∧ d = Char.ofNat (r.form c.toNat) := by
  by_cases h : r.holds c.toNat = true
  · have hform : r.lower? c = some (Char.ofNat (r.form c.toNat)) := if_pos (holds_iff.mp h)
    rw [hform, Option.some.injEq, eq_comm, and_iff_right h]
  · have hnone : r.lower? c = none := if_neg (mt holds_iff.mpr h)
    simp [hnone, h]

theorem lower?_eq_none_iff : r.lower? c = none ↔ r.holds c.toNat = false := by
  rw [← Bool.not_eq_true, Option.eq_none_iff_forall_ne_some]
  simp [lower?_eq_some_iff]

/-- A form has the number that it should have. -/
theorem toNat_form (hplaced : r.isPlaced = true) (hn : r.holds n = true) :
    (Char.ofNat (r.form n)).toNat = r.form n := by
  obtain ⟨hfirst, hlast, -⟩ := holds_iff.mp hn
  simp only [isPlaced, Bool.and_eq_true, Bool.or_eq_true, decide_eq_true_eq, Nat.blt_eq,
    form] at hplaced
  have hvalid : (r.form n).isValidChar := by
    unfold form Nat.isValidChar
    omega
  rw [Char.ofNat, dif_pos hvalid]
  rfl

/-- What holds between the ends of the forms holds of all of them. -/
theorem clears_holds (hplaced : r.isPlaced = true) (hclears : r.clears s = true)
    (hn : r.holds n = true) : s.holds (r.form n) = false := by
  obtain ⟨hfirst, hlast, -⟩ := holds_iff.mp hn
  have hstart : 0 ≤ (r.first : Int) + r.shift := by
    simp only [isPlaced, Bool.and_eq_true, decide_eq_true_eq] at hplaced
    exact hplaced.1
  have hends : r.form r.first ≤ r.form n ∧ r.form n ≤ r.form r.last := by
    unfold form
    omega
  rw [← Bool.not_eq_true, holds_iff]
  rintro ⟨hleast, hmost, hstep⟩
  simp only [clears, Bool.or_eq_true, Nat.blt_eq, List.all_eq_true, List.mem_range,
    Bool.not_eq_eq_eq_not, Bool.not_true] at hclears
  obtain (hbelow | habove) | hnone := hclears
  · omega
  · omega
  · -- The runs overlap, so that every place of the first was looked at.
    have hplace := hnone (n - r.first) (by omega)
    rw [Nat.add_sub_cancel' hfirst, hn] at hplace
    have hhits : s.holds (r.form n) = true := holds_iff.mpr ⟨hleast, hmost, hstep⟩
    simp [hhits] at hplace

end CaseRun

/-- The letter outside the table whose lower case is two characters. -/
def dottedCapital : CaseRun := ⟨0x130, 0x130, 1, 0⟩

/-- **The table** is free of chains: a lower-case form has no lower-case form of its own. -/
theorem caseRuns_clear : caseRuns.all (fun r =>
    r.isPlaced && (dottedCapital :: caseRuns).all r.clears) = true := by
  decide +kernel

/-! ## Characters -/

/-- The character is its own lower case. -/
def IsSettled (c : Char) : Prop := lowerChar c = [c]

instance : DecidablePred IsSettled := fun _ => inferInstanceAs (Decidable (_ = _))

variable {c d : Char} {s g before done : List Char}

theorem IsSettled.toLower_eq (h : IsSettled c) : c.toLower = c := by
  by_cases hascii : c.toNat < 0x80
  · rw [IsSettled, lowerChar, if_pos hascii] at h
    exact List.singleton_inj.mp h
  · refine (toLower_cases c).resolve_right fun hcapital => ?_
    omega

theorem IsSettled.ne_sigma (h : IsSettled c) : c ≠ 'Σ' := by
  rintro rfl
  exact absurd h (by decide +kernel)

/-- A character outside the table is its own lower case. -/
theorem isSettled_of_lower? (hdotted : dottedCapital.lower? c = none)
    (htable : ∀ r ∈ caseRuns, r.lower? c = none) : IsSettled c := by
  have hcapital : (⟨0x41, 0x5A, 1, 32⟩ : CaseRun).lower? c = none :=
    htable _ (List.mem_cons_self)
  have hfind : caseRuns.findSome? (·.lower? c) = none := List.findSome?_eq_none_iff.mpr htable
  unfold IsSettled lowerChar
  split
  · rw [CaseRun.lower?_eq_none_iff, ← Bool.not_eq_true, CaseRun.holds_iff] at hcapital
    rw [(toLower_cases c).resolve_right fun h => hcapital ⟨h.1, h.2.1, Nat.mod_one _⟩]
  · rw [if_neg, hfind]
    · rfl
    · rintro rfl
      exact absurd hdotted (by decide)

/-- **The lower case of a character** is in lower case. -/
theorem isSettled_of_mem_lowerChar (hd : d ∈ lowerChar c) : IsSettled d := by
  by_cases hascii : c.toNat < 0x80
  · rw [lowerChar, if_pos hascii, List.mem_singleton] at hd
    subst hd
    have hlower : c.toLower.toNat < 0x80 := by
      obtain hsame | h := toLower_cases c
      · rwa [hsame]
      · omega
    rw [IsSettled, lowerChar, if_pos hlower, toLower_toLower]
  by_cases hdotted : c = 'İ'
  · subst hdotted
    have hforms : lowerChar 'İ' = ['i', '\u0307'] := rfl
    have hsettled : IsSettled 'i' ∧ IsSettled '\u0307' := by decide +kernel
    simp only [hforms, List.mem_cons, List.not_mem_nil, or_false] at hd
    rcases hd with rfl | rfl
    · exact hsettled.1
    · exact hsettled.2
  rw [lowerChar, if_neg hascii, if_neg hdotted, List.mem_singleton] at hd
  cases hfind : caseRuns.findSome? (·.lower? c) with
  | none =>
    rw [hfind, Option.getD_none] at hd
    rw [IsSettled, hd, lowerChar, if_neg hascii, if_neg hdotted, hfind, Option.getD_none]
  | some e =>
    -- The form comes from a run, whose forms are in no run.
    obtain ⟨r, hr, hform⟩ := List.exists_of_findSome?_eq_some hfind
    obtain ⟨hholds, rfl⟩ := CaseRun.lower?_eq_some_iff.mp hform
    rw [hfind, Option.getD_some] at hd
    subst hd
    have hrun := List.all_eq_true.mp caseRuns_clear r hr
    rw [Bool.and_eq_true, List.all_eq_true] at hrun
    have hnone {t : CaseRun} (ht : t ∈ dottedCapital :: caseRuns) :
        t.lower? (Char.ofNat (r.form c.toNat)) = none := by
      rw [CaseRun.lower?_eq_none_iff, CaseRun.toNat_form hrun.1 hholds]
      exact CaseRun.clears_holds hrun.1 (hrun.2 t ht) hholds
    exact isSettled_of_lower? (hnone List.mem_cons_self)
      fun t ht => hnone (List.mem_cons_of_mem _ ht)

/-! ## Texts -/

theorem forall_mem_lowercaseAfter (hdone : ∀ d ∈ done, IsSettled d) :
    ∀ d ∈ lowercaseAfter before done s, IsSettled d := by
  induction s generalizing before done with
  | nil => exact fun d hd => hdone d (List.mem_reverse.mp hd)
  | cons c s ih =>
    refine ih (List.forall_mem_append.mpr ⟨fun d hd => ?_, hdone⟩)
    rw [List.mem_reverse] at hd
    split at hd
    · have hsigma : IsSettled 'ς' ∧ IsSettled 'σ' := by decide +kernel
      split at hd
      · exact List.mem_singleton.mp hd ▸ hsigma.1
      · exact List.mem_singleton.mp hd ▸ hsigma.2
    · exact isSettled_of_mem_lowerChar hd

/-- A text in lower case consists of characters in lower case. -/
theorem isSettled_of_mem_lowercase (hd : d ∈ lowercase s) : IsSettled d :=
  forall_mem_lowercaseAfter (List.forall_mem_nil _) d hd

/-- Where every character has one form wherever it stands, the text is taken character by
character. -/
theorem lowercaseAfter_of_lower (hs : ∀ c ∈ s, IsSettled c) (hg : lower g = s) :
    lowercaseAfter before done g = done.reverse ++ s := by
  induction g generalizing s before done with
  | nil =>
    subst hg
    exact (List.append_nil _).symm
  | cons c g ih =>
    obtain rfl : c.toLower :: lower g = s := hg
    obtain ⟨hc, hs⟩ := List.forall_mem_cons.mp hs
    have hform : lowerChar c = [c.toLower] := by
      by_cases hascii : c.toNat < 0x80
      · rw [lowerChar, if_pos hascii]
      · have hsame : c.toLower = c := (toLower_cases c).resolve_right fun h => by omega
        rwa [hsame] at hc ⊢
    have hsigma : c ≠ 'Σ' := by
      rintro rfl
      exact hc.ne_sigma (by decide)
    rw [lowercaseAfter, if_neg hsigma, hform, ih hs rfl]
    simp

/-- **The case of ASCII letters** does not matter for what is in lower case already. -/
theorem lowercase_of_lower (h : lower g = lower (lowercase s)) : lowercase g = lowercase s := by
  have hsettled : lower (lowercase s) = lowercase s := by
    refine (List.map_congr_left fun c hc => ?_).trans (List.map_id _)
    exact (isSettled_of_mem_lowercase hc).toLower_eq
  exact lowercaseAfter_of_lower (fun c hc => isSettled_of_mem_lowercase hc) (h.trans hsettled)

end HitCounter.Text
