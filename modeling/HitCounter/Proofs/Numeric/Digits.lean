import HitCounter.Numeric.Integer
import Mathlib.Data.List.Induction

/-!
# Digits

A text spells a number in a base when it holds the digits of the number after any zeros
(`Spells`). Every text of digits spells one number (`spells_map_digitChar`), the one that is read
from it (`Spells.foldl_eq`); for decimal digits that is `ofDigits` (`spells_ofDigits`,
`Spells.ofDigits_eq`).
-/

namespace HitCounter.Numeric

/-- The text holds the digits of the number, after any zeros. -/
def Spells (base n : Nat) (s : List Char) : Prop :=
  ∃ zeros, s = List.replicate zeros '0' ++ Nat.toDigits base n

variable {base n : Nat} {s : List Char}

/-- The digits of a number with one more digit. -/
theorem toDigits_mul_add (hbase : 1 < base) (hn : 0 < n) {d : Nat} (hd : d < base) :
    Nat.toDigits base (n * base + d) = Nat.toDigits base n ++ [d.digitChar] := by
  have hle : base ≤ n * base + d :=
    Nat.le_trans (Nat.le_mul_of_pos_left base hn) (Nat.le_add_right _ d)
  rw [Nat.toDigits_of_base_le hbase hle, Nat.mul_comm, Nat.mul_add_div (by omega),
    Nat.div_eq_of_lt hd, Nat.add_zero, Nat.mul_add_mod, Nat.mod_eq_of_lt hd]

/-- **Digits** spell a number. -/
theorem spells_map_digitChar (hbase : 1 < base) (digits : List Nat) (hlt : ∀ d ∈ digits, d < base)
    (hne : digits ≠ []) :
    Spells base (digits.foldl (fun n d => n * base + d) 0) (digits.map Nat.digitChar) := by
  induction digits using List.reverseRecOn with
  | nil => exact absurd rfl hne
  | append_singleton digits d ih =>
    have hd : d < base := hlt d (by simp)
    rw [List.foldl_append, List.map_append]
    by_cases hfirst : digits = []
    · subst hfirst
      refine ⟨0, ?_⟩
      rw [List.foldl_nil, List.foldl_cons, List.foldl_nil, Nat.zero_mul, Nat.zero_add,
        Nat.toDigits_of_lt_base hd]
      rfl
    · obtain ⟨zeros, hzeros⟩ := ih (fun d hd => hlt d (by simp [hd])) hfirst
      rw [hzeros, List.foldl_cons, List.foldl_nil]
      obtain hzero | hpos := Nat.eq_zero_or_pos (digits.foldl (fun n d => n * base + d) 0)
      · -- What stands before the digit is zeros alone.
        refine ⟨zeros + 1, ?_⟩
        rw [hzero, Nat.zero_mul, Nat.zero_add, Nat.toDigits_of_lt_base hd,
          Nat.toDigits_of_lt_base (by omega : 0 < base), List.replicate_succ']
        rfl
      · refine ⟨zeros, ?_⟩
        rw [toDigits_mul_add hbase hpos hd, List.append_assoc]
        rfl

/-- The number is read digit by digit, by whatever gives the value of a digit. -/
theorem Spells.foldl_eq {value : Char → Nat} (hbase : 1 < base)
    (hvalue : ∀ d < base, value d.digitChar = d) (h : Spells base n s) :
    s.foldl (fun n c => n * base + value c) 0 = n := by
  have hdigits (n : Nat) : (Nat.toDigits base n).foldl (fun n c => n * base + value c) 0 = n := by
    induction n using Nat.strongRecOn with
    | _ n ih =>
      rcases Nat.lt_or_ge n base with hlt | hge
      · rw [Nat.toDigits_of_lt_base hlt, List.foldl_cons, List.foldl_nil, hvalue n hlt,
          Nat.zero_mul, Nat.zero_add]
      · rw [Nat.toDigits_of_base_le hbase hge, List.foldl_append,
          ih (n / base) (Nat.div_lt_self (by omega) hbase), List.foldl_cons, List.foldl_nil,
          hvalue _ (Nat.mod_lt n (by omega)), Nat.mul_comm, Nat.div_add_mod]
  obtain ⟨zeros, rfl⟩ := h
  induction zeros with
  | zero => exact hdigits n
  | succ zeros ih =>
    have hzero : value '0' = 0 := hvalue 0 (by omega)
    rw [List.replicate_succ, List.cons_append, List.foldl_cons, hzero, Nat.zero_mul]
    exact ih

theorem Spells.ne_nil (h : Spells base n s) : s ≠ [] := by
  obtain ⟨zeros, rfl⟩ := h
  simp

/-- What holds of every digit holds of all characters. -/
theorem Spells.forall_mem {P : Char → Prop} (hbase : 1 < base) (hdigit : ∀ d < base, P d.digitChar)
    (h : Spells base n s) : ∀ c ∈ s, P c := by
  have hdigits (n : Nat) : ∀ c ∈ Nat.toDigits base n, P c := by
    induction n using Nat.strongRecOn with
    | _ n ih =>
      rcases Nat.lt_or_ge n base with hlt | hge
      · rw [Nat.toDigits_of_lt_base hlt, List.forall_mem_singleton]
        exact hdigit n hlt
      · rw [Nat.toDigits_of_base_le hbase hge, List.forall_mem_append, List.forall_mem_singleton]
        exact ⟨ih (n / base) (Nat.div_lt_self (by omega) hbase), hdigit _ (Nat.mod_lt n (by omega))⟩
  obtain ⟨zeros, rfl⟩ := h
  rw [List.forall_mem_append]
  refine ⟨fun c hc => ?_, hdigits n⟩
  rw [List.eq_of_mem_replicate hc]
  exact hdigit 0 (by omega)

/-! ## Decimal digits -/

theorem digitValue_digitChar : ∀ d < 10, digitValue d.digitChar = d := by decide

/-- A decimal digit is below ten, and is the digit of its value. -/
theorem digitChar_digitValue {c : Char} (h : c.isDigit = true) :
    digitValue c < 10 ∧ (digitValue c).digitChar = c := by
  have hchar : ∀ d < 10, Char.ofNat (d + 0x30) = d.digitChar := by decide
  have hbounds : 0x30 ≤ c.toNat ∧ c.toNat ≤ 0x39 := by
    simpa [Char.isDigit, UInt32.le_iff_toNat_le] using h
  have hvalue : digitValue c = c.toNat - 0x30 := rfl
  have hlt : digitValue c < 10 := by omega
  refine ⟨hlt, ?_⟩
  rw [← hchar _ hlt, show digitValue c + 0x30 = c.toNat by omega, Char.ofNat_toNat]

theorem Spells.ofDigits_eq (h : Spells 10 n s) : ofDigits s = n :=
  h.foldl_eq (by decide) digitValue_digitChar

theorem Spells.isDigit (h : Spells 10 n s) : ∀ c ∈ s, c.isDigit = true :=
  h.forall_mem (by decide) (by decide)

/-- A text of digits spells what is read from it. -/
theorem spells_ofDigits (hne : s ≠ []) (h : ∀ c ∈ s, c.isDigit = true) :
    Spells 10 (ofDigits s) s := by
  have hchars : (s.map digitValue).map Nat.digitChar = s := by
    rw [List.map_map]
    exact (List.map_congr_left fun c hc => (digitChar_digitValue (h c hc)).2).trans (List.map_id s)
  have hspells := spells_map_digitChar (by decide : 1 < 10) (s.map digitValue)
    (List.forall_mem_map.mpr fun c hc => (digitChar_digitValue (h c hc)).1) (by simpa using hne)
  rwa [hchars, List.foldl_map] at hspells

end HitCounter.Numeric
