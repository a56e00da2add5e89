import HitCounter.Config.Basic
import HitCounter.Proofs.Numeric.Integer
import HitCounter.Proofs.Text.Trim
import HitCounter.Text.Utf8.Lemmas

/-!
# What an environment configures

- **Values** (`NumericVariable.Gives`): what one numeric variable gives, apart from all others.
- **Configurations** (`Config.ofEnvironment_eq_ok_iff`): an environment is accepted exactly if every
  numeric variable gives a number, and the configuration holds these numbers.
- **Range** (`NumericVariable.Gives.lt`): the numbers stay below the power of two that their
  variable allows.
-/

namespace HitCounter

/-! ## One variable -/

namespace NumericVariable

/-- A numeric variable gives a number: its default `d` if it is not set, and otherwise the number
in its value, apart from white space. -/
inductive GivesOr (env : Environment) (v : NumericVariable) (d : Nat) : Nat → Prop where
  | unset (missing : env.get? v.name = none) : GivesOr env v d d
  | number {value : String} {n : Nat} (given : env.get? v.name = some value)
    (reads : Numeric.readNat (Nat.pow 2 v.bits - 1) (Text.trim value.toList) = .ok n) :
    GivesOr env v d n

/-- A numeric variable gives a number or has the usual one. -/
abbrev Gives (env : Environment) (v : NumericVariable) : Nat → Prop := GivesOr env v (v.get {})

variable {env : Environment} {v w : NumericVariable} {d n : Nat}

/-- A variable gives only numbers that fit. -/
theorem Gives.lt (h : Gives env v n) : n < Nat.pow 2 v.bits := by
  cases h with
  | unset => cases v <;> decide
  | number given reads =>
    have hle := (Numeric.readNat_eq_ok_iff.mp reads).2
    have hpos : 0 < Nat.pow 2 v.bits := Nat.two_pow_pos _
    exact Nat.lt_of_le_pred hpos hle

@[simp] theorem get_set_self (c : Config) (n : Nat) (v : NumericVariable) :
    v.get (v.set c n) = n := by
  cases v <;> rfl

theorem get_set_of_ne (c : Config) (n : Nat) (h : w ≠ v) : w.get (v.set c n) = w.get c := by
  cases v <;> cases w <;> first | rfl | exact absurd rfl h

theorem mem_all (v : NumericVariable) : v ∈ all := by
  cases v <;> decide

end NumericVariable

namespace Config

/-- The texts of a configuration. -/
def texts (c : Config) : String × String × Option String := (c.databaseUrl, c.host, c.cityDatabase)

/-- A configuration consists of its texts and its numbers. -/
theorem eq_of_get_eq {c c' : Config} (htexts : c.texts = c'.texts)
    (h : ∀ v : NumericVariable, v.get c = v.get c') : c = c' := by
  have hnumbers := And.intro (h .maxConnections) <| And.intro (h .port) <|
    And.intro (h .bufferSize) <| And.intro (h .flushInterval) <|
    And.intro (h .persistInterval) <| And.intro (h .cacheEntries) (h .cacheLifetime)
  cases c
  cases c'
  simp_all [texts, NumericVariable.get]

@[simp] theorem texts_set (c : Config) (n : Nat) (v : NumericVariable) :
    (v.set c n).texts = c.texts := by
  cases v <;> rfl

theorem get_readTexts (env : Environment) (c : Config) (v : NumericVariable) :
    v.get (readTexts env c) = v.get c := by
  cases v <;> rfl

variable {env : Environment} {c c' : Config}

/-- A variable is read exactly if it gives a number, which takes its place in the configuration. -/
theorem readNumber_eq_ok_iff {v : NumericVariable} :
    readNumber env c v = .ok c' ↔ ∃ n, v.GivesOr env (v.get c) n ∧ c' = v.set c n := by
  have hkeep : v.set c (v.get c) = c := by cases v <;> rfl
  unfold readNumber
  constructor
  · intro h
    split at h
    · rename_i missing
      cases h
      exact ⟨_, .unset missing, hkeep.symm⟩
    · rename_i value given
      split at h
      · rename_i n reads
        cases h
        exact ⟨n, .number given reads, rfl⟩
      · cases h
  · rintro ⟨n, hgives, rfl⟩
    cases hgives with
    | unset missing => rw [missing, hkeep]
    | number given reads => simp only [given, reads]

/-! ## All variables -/

/-- Some variables, each of them once, are read exactly if each of them gives a number. -/
theorem foldlM_readNumber_eq_ok_iff {vs : List NumericVariable} (nodup : vs.Nodup) :
    vs.foldlM (readNumber env) c = .ok c' ↔
      c'.texts = c.texts ∧ (∀ v ∈ vs, v.GivesOr env (v.get c) (v.get c')) ∧
        ∀ v ∉ vs, v.get c' = v.get c := by
  induction vs generalizing c with
  | nil =>
    simp only [List.foldlM_nil, pure, Except.pure, Except.ok.injEq, List.not_mem_nil,
      false_implies, implies_true, true_and, not_false_eq_true, true_implies]
    constructor
    · rintro rfl
      exact ⟨rfl, fun _ => rfl⟩
    · rintro ⟨htexts, hsame⟩
      exact eq_of_get_eq htexts.symm fun v => (hsame v).symm
  | cons v vs ih =>
    obtain ⟨hv, nodup⟩ := List.nodup_cons.mp nodup
    have hne {w : NumericVariable} (hw : w ∈ vs) : w ≠ v := fun heq => hv (heq ▸ hw)
    rw [List.foldlM_cons]
    constructor
    · intro h
      cases hread : readNumber env c v with
      | error e => simp [hread, bind, Except.bind] at h
      | ok c₁ =>
        rw [hread] at h
        obtain ⟨n, hgives, rfl⟩ := readNumber_eq_ok_iff.mp hread
        obtain ⟨htexts, hall, hrest⟩ := (ih nodup).mp h
        refine ⟨htexts.trans (texts_set ..), List.forall_mem_cons.mpr ⟨?_, fun w hw => ?_⟩,
          fun w hw => ?_⟩
        · rw [hrest v hv, NumericVariable.get_set_self]
          exact hgives
        · rw [← NumericVariable.get_set_of_ne c n (hne hw)]
          exact hall w hw
        · rw [hrest w (List.not_mem_of_not_mem_cons hw),
            NumericVariable.get_set_of_ne c n (List.ne_of_not_mem_cons hw)]
    · rintro ⟨htexts, hall, hrest⟩
      obtain ⟨hfirst, hall⟩ := List.forall_mem_cons.mp hall
      have hread : readNumber env c v = .ok (v.set c (v.get c')) :=
        readNumber_eq_ok_iff.mpr ⟨_, hfirst, rfl⟩
      rw [hread]
      refine (ih nodup).mpr ⟨htexts.trans (texts_set ..).symm, fun w hw => ?_, fun w hw => ?_⟩
      · rw [NumericVariable.get_set_of_ne _ _ (hne hw)]
        exact hall w hw
      · by_cases hwv : w = v
        · rw [hwv, NumericVariable.get_set_self]
        · rw [NumericVariable.get_set_of_ne _ _ hwv]
          exact hrest w (List.not_mem_cons_of_ne_of_not_mem hwv hw)

/-- **Configurations.** An environment is accepted exactly if each numeric variable gives a number,
and the configuration holds these numbers. -/
theorem ofEnvironment_eq_ok_iff :
    ofEnvironment env = .ok c ↔
      c.texts = (readTexts env {}).texts ∧ ∀ v : NumericVariable, v.Gives env (v.get c) := by
  unfold ofEnvironment
  rw [foldlM_readNumber_eq_ok_iff (by decide)]
  simp only [get_readTexts, NumericVariable.mem_all, true_implies, not_true_eq_false,
    false_implies, implies_true, and_true]

end Config

/-! ## Written numbers -/

/-- The environment that sets every numeric variable to a number. -/
def Environment.ofNumbers (f : NumericVariable → Nat) : Environment :=
  NumericVariable.all.map fun v => (v.name, Text.encode (Nat.toDigits 10 (f v)))

theorem Environment.get?_ofNumbers (f : NumericVariable → Nat) (v : NumericVariable) :
    (ofNumbers f).get? v.name = some (String.ofList (Nat.toDigits 10 (f v))) := by
  have hlookup : (ofNumbers f).reverse.lookup v.name =
      some (Text.encode (Nat.toDigits 10 (f v))) := by
    cases v <;> simp [ofNumbers, NumericVariable.all, NumericVariable.name, List.lookup_cons]
  rw [get?, hlookup, Option.bind_some, Text.decode?_encode]
  rfl

/-- A run of digits has no white space around it. -/
theorem Text.trim_toDigits (n : Nat) : Text.trim (Nat.toDigits 10 n) = Nat.toDigits 10 n := by
  have htight : Text.Tight (Nat.toDigits 10 n) := Text.tight_of_forall fun c hc => by
    have hdigit : c.isDigit = true := Nat.isDigit_of_mem_toDigits (by decide) (by decide) hc
    exact Text.isBlank_of_isAlphanum (by simp [Char.isAlphanum, hdigit])
  simpa using Text.trim_padded Text.isPadding_nil htight Text.isPadding_nil

end HitCounter
