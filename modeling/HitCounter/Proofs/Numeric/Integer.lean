import HitCounter.Proofs.Numeric.Digits

/-!
# Reading written integers

- **Digits** (`toDigits_induction`): the digits of a number are those of a smaller one and one more,
  so what holds of them is proved digit by digit.
- **Runs of digits** (`readDigits_eq_ok_iff`): a run of digits is read exactly if it spells a number
  in bounds, however many zeros stand in front.
- **Bounded numbers** (`NaturalText`, `readNat_eq_ok_iff`): so is a run of digits after a plus sign.
- **Integers** (`readInt64_toString`): an integer of 64 bits is read from its text as it was.
-/

namespace HitCounter.Numeric

/-- A fact about a number and its digits holds if it holds of single digits, and of a number with
one more digit whenever it holds of the number. -/
theorem toDigits_induction {P : Nat → List Char → Prop} (single : ∀ d < 10, P d [d.digitChar])
    (more : ∀ n s, 0 < n → P n s → ∀ d < 10, P (n * 10 + d) (s ++ [d.digitChar])) (n : Nat) :
    P n (Nat.toDigits 10 n) := by
  induction n using Nat.strongRecOn with
  | _ n ih =>
    rcases Nat.lt_or_ge n 10 with hlt | hge
    · rw [Nat.toDigits_of_lt_base hlt]
      exact single n hlt
    · rw [Nat.toDigits_of_base_le (by decide) hge]
      have hn := more (n / 10) _ (by omega) (ih (n / 10) (by omega)) (n % 10) (by omega)
      rwa [show n / 10 * 10 + n % 10 = n by omega] at hn

/-! ## Runs of digits -/

/-- More digits make no smaller number. -/
theorem le_foldl_digitValue (s : List Char) (start : Nat) :
    start ≤ s.foldl (fun n c => n * 10 + digitValue c) start := by
  induction s generalizing start with
  | nil => exact Nat.le_refl start
  | cons c s ih =>
    have hfirst : start ≤ start * 10 + digitValue c := by omega
    exact Nat.le_trans hfirst (ih _)

/-- Characters are appended to a number in bounds exactly if they are digits and the number that
they make is in bounds too. -/
theorem foldlM_appendDigit_eq_ok_iff {limit start n : Nat} {beyond : IntegerFault} {s : List Char}
    (hstart : start ≤ limit) :
    s.foldlM (appendDigit limit beyond) start = .ok n ↔
      (∀ c ∈ s, c.isDigit = true) ∧ s.foldl (fun n c => n * 10 + digitValue c) start = n ∧
        n ≤ limit := by
  induction s generalizing start with
  | nil =>
    simp only [List.foldlM_nil, List.foldl_nil, pure, Except.pure, Except.ok.injEq,
      List.not_mem_nil, false_implies, implies_true, true_and]
    exact ⟨fun h => ⟨h, h ▸ hstart⟩, And.left⟩
  | cons c s ih =>
    rw [List.foldlM_cons, List.foldl_cons, List.forall_mem_cons]
    by_cases hdigit : c.isDigit = true
    case neg => simp [appendDigit, hdigit, bind, Except.bind]
    by_cases hle : start * 10 + digitValue c ≤ limit
    · have happend : appendDigit limit beyond start c = .ok (start * 10 + digitValue c) := by
        simp only [appendDigit, hdigit, hle, ↓reduceIte]
      simp only [happend, bind, Except.bind, ih hle, hdigit, true_and]
    · -- The number is out of bounds already, and no digit brings it back.
      have happend : appendDigit limit beyond start c = .error beyond := by
        simp only [appendDigit, hdigit, hle, ↓reduceIte]
      have hgrows := le_foldl_digitValue s (start * 10 + digitValue c)
      simp only [happend, bind, Except.bind, reduceCtorEq, false_iff]
      rintro ⟨-, rfl, hbound⟩
      omega

/-- **A run of digits** is read exactly if it spells a number in bounds. -/
theorem readDigits_eq_ok_iff {limit n : Nat} {beyond : IntegerFault} {s : List Char} :
    readDigits limit beyond s = .ok n ↔ Spells 10 n s ∧ n ≤ limit := by
  unfold readDigits
  by_cases hne : s = []
  · subst hne
    have hnot : ¬ Spells 10 n [] := fun h => h.ne_nil rfl
    simp [hnot]
  · rw [if_neg (by simpa using hne), foldlM_appendDigit_eq_ok_iff (Nat.zero_le limit)]
    constructor
    · rintro ⟨hdigits, rfl, hle⟩
      exact ⟨spells_ofDigits hne hdigits, hle⟩
    · rintro ⟨hspells, hle⟩
      exact ⟨hspells.isDigit, hspells.ofDigits_eq, hle⟩

/-- The digits of a number in bounds are read as that number. -/
theorem readDigits_toDigits {limit : Nat} {beyond : IntegerFault} {n : Nat} (h : n ≤ limit) :
    readDigits limit beyond (Nat.toDigits 10 n) = .ok n :=
  readDigits_eq_ok_iff.mpr ⟨⟨0, rfl⟩, h⟩

/-! ## Bounded numbers -/

/-- The texts of a number: its digits after any zeros, and after a plus sign if there is one. -/
inductive NaturalText (n : Nat) : List Char → Prop where
  | plain {digits : List Char} (spelled : Spells 10 n digits) : NaturalText n digits
  | plus {digits : List Char} (spelled : Spells 10 n digits) : NaturalText n ('+' :: digits)

/-- **Bounded numbers** are read exactly from their texts. -/
theorem readNat_eq_ok_iff {limit n : Nat} {s : List Char} :
    readNat limit s = .ok n ↔ NaturalText n s ∧ n ≤ limit := by
  constructor
  · intro h
    unfold readNat at h
    split at h
    · cases h
    · obtain ⟨hspells, hle⟩ := readDigits_eq_ok_iff.mp h
      exact ⟨.plus hspells, hle⟩
    · obtain ⟨hspells, hle⟩ := readDigits_eq_ok_iff.mp h
      exact ⟨.plain hspells, hle⟩
  · rintro ⟨hplain | hplus, hle⟩
    · rw [readNat]
      · exact readDigits_eq_ok_iff.mpr ⟨hplain, hle⟩
      · exact hplain.ne_nil
      · rintro digits rfl
        exact absurd (hplain.isDigit '+' List.mem_cons_self) (by decide)
    · rw [readNat]
      exact readDigits_eq_ok_iff.mpr ⟨hplus, hle⟩

/-! ## Integers -/

/-- A minus sign stands before the digits of a negative integer. -/
theorem toList_toString (n : Int) :
    (toString n).toList =
      if n < 0 then '-' :: Nat.toDigits 10 n.natAbs else Nat.toDigits 10 n.natAbs := by
  rw [Int.toString_eq_repr, Int.repr_eq_if]
  split
  · rename_i hn
    rw [if_neg (by omega), Nat.toList_repr, show n.toNat = n.natAbs by omega]
  · rename_i hn
    rw [if_pos (by omega), String.toList_append, Nat.toList_repr,
      show (-n).toNat = n.natAbs by omega]
    rfl

/-- The text of a number starts with a digit. -/
theorem toDigits_eq_cons (n : Nat) :
    ∃ c s, Nat.toDigits 10 n = c :: s ∧ c ≠ '-' ∧ c ≠ '+' := by
  obtain ⟨c, s, heq⟩ := List.exists_cons_of_ne_nil (Nat.toDigits_ne_nil (n := n) (b := 10))
  have hdigit : c.isDigit = true :=
    Nat.isDigit_of_mem_toDigits (by decide) (by decide) (heq ▸ List.mem_cons_self)
  refine ⟨c, s, heq, ?_, ?_⟩
  · rintro rfl
    exact absurd hdigit (by decide)
  · rintro rfl
    exact absurd hdigit (by decide)

/-- **Written integers** are read as they were. -/
theorem readInt64_toString {n : Int} (least : -0x8000000000000000 ≤ n)
    (most : n < 0x8000000000000000) : readInt64 (toString n).toList = .ok n := by
  rw [toList_toString]
  split
  · rename_i hn
    rw [readInt64, readDigits_toDigits (by omega)]
    exact congrArg Except.ok (show -(n.natAbs : Int) = n by omega)
  · rename_i hn
    obtain ⟨c, s, heq, hminus, hplus⟩ := toDigits_eq_cons n.natAbs
    have hread : readInt64 (c :: s) =
        (readDigits 0x7FFFFFFFFFFFFFFF .tooLarge (c :: s)).map Int.ofNat := by
      rw [readInt64]
      · exact fun h => nomatch h
      · exact fun _ h => hminus (List.cons.inj h).1
      · exact fun _ h => hplus (List.cons.inj h).1
    rw [heq, hread, ← heq, readDigits_toDigits (by omega)]
    exact congrArg Except.ok (Int.natAbs_of_nonneg (by omega))

end HitCounter.Numeric
