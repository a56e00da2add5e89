import HitCounter.Proofs.Numeric.Value
import HitCounter.Proofs.Text.Split
import HitCounter.Visitor.Language
import Mathlib.Data.List.Perm.Basic
import Mathlib.Data.List.ReduceOption
import Mathlib.Tactic.NormNum

/-!
# The header for accepted languages

- **Weights** (`Visitor.isWeight_iff`): the weights that a parameter may give are the numbers from
  zero to one.
- **Entries** (`Visitor.Says`, `Visitor.Malformed`): what a well-formed entry says, and which
  entries spoil the header. An entry is read as one or the other
  (`Visitor.languageEntry?_eq_some_iff`, `Visitor.languageEntry?_eq_none_iff`).
- **Order** (`Visitor.Ranked`): the heaviest tag first, and tags of one weight as they came.
- **Headers** (`Visitor.acceptedLanguages?_meets`): one malformed entry spoils the header, and of
  any other header all that its entries say is kept, in that order.
-/

namespace HitCounter.Visitor

open Numeric (Single)

/-! ## Weights -/

/-- The text is a floating point number which, rounded to 32 bits, lies between zero and one. -/
def DenotesWeight (text : List Char) (w : Single) : Prop :=
  Numeric.readBinary .single text = .ok w ∧ w.isFinite ∧ 0 ≤ w.value ∧ w.value ≤ 1

theorem fullWeight_value : fullWeight.value = 1 := by
  have hcode : fullWeight.code = 0x3F800000 := by decide
  have hparts : Numeric.Format.single.parts 0x3F800000 = (0x800000, -23) := by decide
  simp only [Numeric.Binary.value, Numeric.Format.value, hcode, hparts]
  norm_num [fullWeight, Numeric.Binary.ofCode]

/-- **Weights** are the numbers from zero to one. -/
theorem isWeight_iff {w : Single} :
    isWeight w = true ↔ w.isFinite ∧ 0 ≤ w.value ∧ w.value ≤ 1 := by
  have hfull : fullWeight.code < Numeric.Format.single.infinite := by decide
  rw [← fullWeight_value, Numeric.Binary.value_nonneg_iff]
  simp only [isWeight, Bool.or_eq_true, beq_iff_eq, Bool.and_eq_true, Bool.not_eq_true',
    decide_eq_true_eq, Numeric.Binary.isFinite]
  constructor
  · rintro (hzero | ⟨hsign, hle⟩)
    · have hvalue := Numeric.Binary.value_eq_zero_iff.mpr hzero
      refine ⟨by omega, .inl hzero, ?_⟩
      rw [hvalue, fullWeight_value]
      exact zero_le_one
    · exact ⟨by omega, .inr hsign, (Numeric.Binary.value_le_value_iff hsign rfl).mpr hle⟩
  · rintro ⟨-, hzero | hsign, hle⟩
    · exact .inl hzero
    · exact .inr ⟨hsign, (Numeric.Binary.value_le_value_iff hsign rfl).mp hle⟩

/-! ## Entries -/

/-- A parameter gives a weight if its name is the letter `q`, in either case. -/
inductive GivesWeight (parameter : List Char) : List Char → Prop where
  | mk {q : Char} {text : List Char} (name : q = 'q' ∨ q = 'Q')
    (trimmed : Text.trim parameter = q :: '=' :: text) : GivesWeight parameter (Text.trim text)

/-- A parameter that gives no weight that counts. -/
def Spoils (parameter : List Char) : Prop :=
  ∃ text, GivesWeight parameter text ∧ ∀ w, ¬ DenotesWeight text w

/-- The weight of an entry is what the last parameter that gives one says, and one if none does. -/
inductive LastWeight : List (List Char) → Single → Prop where
  | full {parameters : List (List Char)}
    (silent : ∀ p ∈ parameters, ∀ text, ¬ GivesWeight p text) : LastWeight parameters fullWeight
  | last {before after : List (List Char)} {parameter text : List Char} {w : Single}
    (gives : GivesWeight parameter text) (denotes : DenotesWeight text w)
    (silent : ∀ p ∈ after, ∀ text, ¬ GivesWeight p text) :
    LastWeight (before ++ parameter :: after) w

/-- The entry names something, no parameter spoils it, and this is its weight. -/
inductive Weighs (entry : List Char) : List Char → Single → Prop where
  | mk {first : List Char} {parameters : List (List Char)} {w : Single}
    (cut : Text.CutAt (· == ';') entry (first :: parameters)) (named : Text.trim first ≠ [])
    (sound : ∀ p ∈ parameters, ¬ Spoils p) (weight : LastWeight parameters w) :
    Weighs entry (Text.trim first) w

/-- What a well-formed entry says: nothing if it has no name or no weight, and otherwise its tag. -/
inductive Says (entry : List Char) : Option LanguageTag → Prop where
  | nameless {first : List Char} {parameters : List (List Char)}
    (cut : Text.CutAt (· == ';') entry (first :: parameters)) (blank : Text.trim first = []) :
    Says entry none
  | weightless {name : List Char} {w : Single} (weighs : Weighs entry name w) (zero : w.value = 0) :
    Says entry none
  | tag {name : List Char} {w : Single} (weighs : Weighs entry name w) (heavy : w.value ≠ 0) :
    Says entry (some ⟨String.ofList name, w⟩)

/-- An entry that names something and has a parameter that spoils it. -/
def Malformed (entry : List Char) : Prop :=
  ∃ first parameters, Text.CutAt (· == ';') entry (first :: parameters) ∧ Text.trim first ≠ [] ∧
    ∃ p ∈ parameters, Spoils p

variable {parameter text : List Char} {parameters : List (List Char)} {w : Single}

theorem weightText?_eq_some_iff {s : List Char} :
    weightText? s = some text ↔ s = 'q' :: '=' :: text ∨ s = 'Q' :: '=' :: text := by
  unfold weightText?
  split <;> simp_all

/-- A parameter that gives no weight changes none. -/
theorem addParameter_silent (h : ∀ text, ¬ GivesWeight parameter text) (w : Single) :
    addParameter w parameter = some w := by
  unfold addParameter
  cases htext : weightText? (Text.trim parameter) with
  | none => rfl
  | some text =>
    refine absurd ?_ (h (Text.trim text))
    rcases weightText?_eq_some_iff.mp htext with hq | hq
    · exact .mk (.inl rfl) hq
    · exact .mk (.inr rfl) hq

/-- A parameter that gives a weight replaces the one before, or is malformed. -/
theorem addParameter_gives (h : GivesWeight parameter text) (before : Single) :
    (∃ w, DenotesWeight text w ∧ addParameter before parameter = some w) ∨
      (∀ w, ¬ DenotesWeight text w) ∧ addParameter before parameter = none := by
  obtain ⟨name, trimmed⟩ := h
  rename_i q rest
  have htext : weightText? (Text.trim parameter) = some rest := by
    rw [weightText?_eq_some_iff, trimmed]
    rcases name with rfl | rfl
    · exact .inl rfl
    · exact .inr rfl
  unfold addParameter
  simp only [htext]
  cases hread : Numeric.readBinary .single (Text.trim rest) with
  | error e => exact .inr ⟨fun w hw => by simp [DenotesWeight, hread] at hw, rfl⟩
  | ok w =>
    by_cases hw : isWeight w = true
    · exact .inl ⟨w, ⟨hread, isWeight_iff.mp hw⟩, if_pos hw⟩
    · refine .inr ⟨fun w' hw' => hw ?_, if_neg hw⟩
      obtain ⟨hread', hbounds⟩ := hw'
      rw [hread, Except.ok.injEq] at hread'
      exact isWeight_iff.mpr (hread' ▸ hbounds)

theorem addParameter_denotes (h : GivesWeight parameter text) (denotes : DenotesWeight text w)
    (before : Single) : addParameter before parameter = some w := by
  obtain ⟨w', hw', heq⟩ | ⟨hnone, -⟩ := addParameter_gives h before
  · rw [heq, ← Except.ok.inj (hw'.1.symm.trans denotes.1)]
  · exact absurd denotes (hnone w)

theorem addParameter_eq_none_iff (before : Single) :
    addParameter before parameter = none ↔ Spoils parameter := by
  constructor
  · intro hnone
    by_contra hsound
    by_cases hsilent : ∀ text, ¬ GivesWeight parameter text
    · rw [addParameter_silent hsilent] at hnone
      cases hnone
    · obtain ⟨text, hgives⟩ := not_forall_not.mp hsilent
      obtain ⟨w, -, heq⟩ | ⟨hmute, -⟩ := addParameter_gives hgives before
      · rw [heq] at hnone
        cases hnone
      · exact hsound ⟨text, hgives, hmute⟩
  · rintro ⟨text, hgives, hmute⟩
    obtain ⟨w, hw, -⟩ | ⟨-, hnone⟩ := addParameter_gives hgives before
    · exact absurd hw (hmute w)
    · exact hnone

/-- One parameter that spoils an entry is enough. -/
theorem foldlM_addParameter_eq_none_iff (before : Single) :
    parameters.foldlM addParameter before = none ↔ ∃ p ∈ parameters, Spoils p := by
  induction parameters generalizing before with
  | nil => simp
  | cons p parameters ih =>
    rw [List.foldlM_cons, List.exists_mem_cons_iff, ← addParameter_eq_none_iff before]
    cases haddition : addParameter before p with
    | none => simp
    | some w => simpa using ih w

theorem foldlM_addParameter_silent (h : ∀ p ∈ parameters, ∀ text, ¬ GivesWeight p text)
    (before : Single) : parameters.foldlM addParameter before = some before := by
  induction parameters with
  | nil => rfl
  | cons p parameters ih =>
    obtain ⟨hp, hmore⟩ := List.forall_mem_cons.mp h
    rw [List.foldlM_cons, addParameter_silent hp]
    exact ih hmore

/-- The last weight is the one that is read. -/
theorem LastWeight.foldlM (h : LastWeight parameters w) (sound : ∀ p ∈ parameters, ¬ Spoils p) :
    parameters.foldlM addParameter fullWeight = some w := by
  cases h with
  | full silent => exact foldlM_addParameter_silent silent _
  | @last before after parameter text w gives denotes silent =>
    have hbefore : before.foldlM addParameter fullWeight ≠ none := fun hnone => by
      obtain ⟨p, hp, hspoils⟩ := (foldlM_addParameter_eq_none_iff _).mp hnone
      exact sound p (List.mem_append_left _ hp) hspoils
    obtain ⟨w', hw'⟩ := Option.ne_none_iff_exists'.mp hbefore
    rw [List.foldlM_append, hw', Option.bind_eq_bind, Option.bind_some, List.foldlM_cons,
      addParameter_denotes gives denotes]
    exact foldlM_addParameter_silent silent w

/-- An entry that nothing spoils has a weight. -/
theorem exists_lastWeight (sound : ∀ p ∈ parameters, ¬ Spoils p) :
    ∃ w, LastWeight parameters w := by
  induction parameters with
  | nil => exact ⟨_, .full fun _ hp => absurd hp List.not_mem_nil⟩
  | cons p parameters ih =>
    obtain ⟨hp, hmore⟩ := List.forall_mem_cons.mp sound
    obtain ⟨w, hw⟩ := ih hmore
    cases hw with
    | last gives denotes silent => exact ⟨_, @LastWeight.last (p :: _) _ _ _ _ gives denotes silent⟩
    | full silent =>
      by_cases hsilent : ∀ text, ¬ GivesWeight p text
      · exact ⟨_, .full (List.forall_mem_cons.mpr ⟨hsilent, silent⟩)⟩
      · obtain ⟨text, hgives⟩ := not_forall_not.mp hsilent
        obtain ⟨w, hw, -⟩ | ⟨hmute, -⟩ := addParameter_gives hgives fullWeight
        · exact ⟨w, @LastWeight.last [] _ _ _ _ hgives hw silent⟩
        · exact absurd ⟨text, hgives, hmute⟩ hp

variable {entry : List Char}

theorem Malformed.languageEntry? (h : Malformed entry) : languageEntry? entry = none := by
  obtain ⟨first, parameters, hcut, hnamed, hspoils⟩ := h
  have hweight := (foldlM_addParameter_eq_none_iff fullWeight).mpr hspoils
  unfold Visitor.languageEntry?
  simp only [hcut.split_eq, List.isEmpty_iff, hnamed, ↓reduceIte, hweight, Option.map_none]

theorem Weighs.languageEntry? {name : List Char} (h : Weighs entry name w) :
    languageEntry? entry = some (if w.code = 0 then none else some ⟨String.ofList name, w⟩) := by
  obtain ⟨hcut, hnamed, sound, weight⟩ := h
  unfold Visitor.languageEntry?
  simp only [hcut.split_eq, List.isEmpty_iff, hnamed, ↓reduceIte, weight.foldlM sound,
    Option.map_some]

theorem Says.languageEntry? {said : Option LanguageTag} (h : Says entry said) :
    languageEntry? entry = some said := by
  cases h with
  | nameless cut blank =>
    unfold Visitor.languageEntry?
    simp only [cut.split_eq, List.isEmpty_iff, blank, ↓reduceIte]
  | weightless weighs zero =>
    rw [weighs.languageEntry?, if_pos (Numeric.Binary.value_eq_zero_iff.mp zero)]
  | tag weighs heavy =>
    rw [weighs.languageEntry?, if_neg (mt Numeric.Binary.value_eq_zero_iff.mpr heavy)]

/-- An entry either spoils the header or says something, if only that nothing is to be kept. -/
theorem malformed_or_exists (entry : List Char) : Malformed entry ∨ ∃ said, Says entry said := by
  obtain ⟨first, parameters, hcut⟩ := Text.exists_cutAt (· == ';') entry
  by_cases hblank : Text.trim first = []
  · exact .inr ⟨none, .nameless hcut hblank⟩
  by_cases hspoils : ∃ p ∈ parameters, Spoils p
  · exact .inl ⟨first, parameters, hcut, hblank, hspoils⟩
  have sound : ∀ p ∈ parameters, ¬ Spoils p := fun p hp hspoil => hspoils ⟨p, hp, hspoil⟩
  obtain ⟨w, hw⟩ := exists_lastWeight sound
  have weighs : Weighs entry (Text.trim first) w := .mk hcut hblank sound hw
  by_cases hzero : w.value = 0
  · exact .inr ⟨none, .weightless weighs hzero⟩
  · exact .inr ⟨_, .tag weighs hzero⟩

theorem languageEntry?_eq_none_iff : languageEntry? entry = none ↔ Malformed entry := by
  refine ⟨fun hnone => ?_, Malformed.languageEntry?⟩
  obtain hmalformed | ⟨said, hsaid⟩ := malformed_or_exists entry
  · exact hmalformed
  · rw [hsaid.languageEntry?] at hnone
    cases hnone

/-- An entry is read as what it says. -/
theorem languageEntry?_eq_some_iff {said : Option LanguageTag} :
    languageEntry? entry = some said ↔ Says entry said := by
  refine ⟨fun hsome => ?_, Says.languageEntry?⟩
  obtain hmalformed | ⟨said', hsaid⟩ := malformed_or_exists entry
  · rw [hmalformed.languageEntry?] at hsome
    cases hsome
  · rw [hsaid.languageEntry?, Option.some.injEq] at hsome
    exact hsome ▸ hsaid

theorem LastWeight.bounds (h : LastWeight parameters w) : 0 ≤ w.value ∧ w.value ≤ 1 := by
  cases h with
  | full => rw [fullWeight_value]; exact ⟨zero_le_one, le_rfl⟩
  | last _ denotes => exact denotes.2.2

/-- The weight of a tag that is kept has no minus sign, and lies above zero and at most at one. -/
theorem Says.weight {t : LanguageTag} (h : Says entry (some t)) :
    t.weight.negative = false ∧ 0 < t.weight.value ∧ t.weight.value ≤ 1 := by
  cases h with
  | tag weighs heavy =>
    obtain ⟨_, _, _, weight⟩ := weighs
    obtain ⟨hnonneg, hle⟩ := weight.bounds
    refine ⟨?_, lt_of_le_of_ne hnonneg heavy.symm, hle⟩
    exact (Numeric.Binary.value_nonneg_iff.mp hnonneg).resolve_left
      (mt Numeric.Binary.value_eq_zero_iff.mpr heavy)

/-! ## Order -/

section Order

variable {α κ : Type} [LinearOrder κ]

/-- The list in descending order of a key, in which elements with one key stand as they came. -/
structure Ranked (key : α → κ) (xs ys : List α) : Prop where
  perm : ys.Perm xs
  descending : ys.Pairwise fun a b => key b ≤ key a
  stable : ∀ x ∈ xs, ys.filter (key · = key x) = xs.filter (key · = key x)

/-- The element has the greatest key, and stands before all others with that key. -/
def Leads (key : α → κ) (xs : List α) (x : α) : Prop :=
  ∃ before after, xs = before ++ x :: after ∧ (∀ y ∈ before, key y < key x) ∧
    ∀ y ∈ after, key y ≤ key x

variable {key : α → κ} {xs ys : List α} {x y : α}

theorem ranked_mergeSort (key : α → κ) (xs : List α) :
    Ranked key xs (xs.mergeSort fun a b => key b ≤ key a) := by
  have trans (a b c : α) (hab : decide (key b ≤ key a) = true)
      (hbc : decide (key c ≤ key b) = true) : decide (key c ≤ key a) = true := by
    rw [decide_eq_true_eq] at *
    exact hbc.trans hab
  have total (a b : α) : (decide (key b ≤ key a) || decide (key a ≤ key b)) = true := by
    simpa using le_total (key b) (key a)
  have hperm := xs.mergeSort_perm fun a b => key b ≤ key a
  refine ⟨hperm, ?_, fun x _ => ?_⟩
  · simpa using List.pairwise_mergeSort trans total xs
  · -- Elements with one key are in order already, so that sorting leaves them as they stand.
    have hequal : (xs.filter (key · = key x)).Pairwise
        fun a b => decide (key b ≤ key a) = true := by
      refine List.pairwise_of_forall_mem_list fun a ha b hb => ?_
      simp only [List.mem_filter, decide_eq_true_eq] at ha hb
      simp [ha.2, hb.2]
    have hsublist :=
      (List.sublist_mergeSort trans total hequal List.filter_sublist).filter (key · = key x)
    rw [List.filter_filter, List.filter_congr fun a _ => Bool.and_self _] at hsublist
    exact (hsublist.eq_of_length_le (hperm.filter _).length_eq.le).symm

/-- Keys that order the elements alike rank them alike. -/
theorem Ranked.of_alike {κ' : Type} [LinearOrder κ'] {key' : α → κ'} (h : Ranked key xs ys)
    (alike : ∀ x ∈ xs, ∀ y ∈ xs, key' x ≤ key' y ↔ key x ≤ key y) : Ranked key' xs ys := by
  have hequal : ∀ x ∈ xs, ∀ y ∈ xs, (key' x = key' y ↔ key x = key y) := fun x hx y hy => by
    rw [le_antisymm_iff, le_antisymm_iff, alike x hx y hy, alike y hy x hx]
  refine ⟨h.perm, ?_, fun x hx => ?_⟩
  · refine h.descending.imp_of_mem fun {a b} ha hb hle => ?_
    exact (alike b (h.perm.mem_iff.mp hb) a (h.perm.mem_iff.mp ha)).mpr hle
  · have hfilter (zs : List α) (hzs : ∀ z ∈ zs, z ∈ xs) :
        zs.filter (key' · = key' x) = zs.filter (key · = key x) :=
      List.filter_congr fun z hz => decide_eq_decide.mpr (hequal z (hzs z hz) x hx)
    rw [hfilter ys fun y hy => h.perm.mem_iff.mp hy, hfilter xs fun _ hz => hz]
    exact h.stable x hx

/-- The leader is the first of the elements with its key. -/
theorem Leads.head?_filter (h : Leads key xs x) :
    (xs.filter (key · = key x)).head? = some x := by
  obtain ⟨before, after, rfl, hbefore, -⟩ := h
  have hnone : before.filter (key · = key x) = [] :=
    List.filter_eq_nil_iff.mpr fun y hy => by simpa using (hbefore y hy).ne
  simp [List.filter_append, hnone]

theorem Leads.key_le (h : Leads key xs x) (hy : y ∈ xs) : key y ≤ key x := by
  obtain ⟨before, after, rfl, hbefore, hafter⟩ := h
  rw [List.mem_append, List.mem_cons] at hy
  obtain hy | rfl | hy := hy
  · exact (hbefore y hy).le
  · exact le_rfl
  · exact hafter y hy

theorem Leads.mem (h : Leads key xs x) : x ∈ xs := by
  obtain ⟨before, after, rfl, -, -⟩ := h
  simp

theorem Leads.unique (hx : Leads key xs x) (hy : Leads key xs y) : x = y := by
  have hkey : key x = key y := le_antisymm (hy.key_le hx.mem) (hx.key_le hy.mem)
  have hfirst := hx.head?_filter
  rw [hkey, hy.head?_filter] at hfirst
  exact (Option.some.inj hfirst).symm

/-- **The first element** of a ranked list is the one that leads. -/
theorem Ranked.head?_eq_some_iff (h : Ranked key xs ys) : ys.head? = some x ↔ Leads key xs x := by
  have hleads {x : α} (hx : ys.head? = some x) : Leads key xs x := by
    obtain ⟨rest, rfl⟩ : ∃ rest, ys = x :: rest := List.head?_eq_some_iff.mp hx
    have hmem : x ∈ xs := h.perm.mem_iff.mp List.mem_cons_self
    have hle : ∀ y ∈ xs, key y ≤ key x := fun y hy => by
      obtain rfl | hy := List.mem_cons.mp (h.perm.mem_iff.mpr hy)
      · exact le_rfl
      · exact List.rel_of_pairwise_cons h.descending hy
    have hstable := (h.stable x hmem).symm
    rw [List.filter_cons_of_pos (by simp), List.filter_eq_cons_iff] at hstable
    obtain ⟨before, after, rfl, hbefore, -, -⟩ := hstable
    refine ⟨before, after, rfl, fun y hy => ?_, fun y hy => hle y (by simp [hy])⟩
    exact lt_of_le_of_ne (hle y (by simp [hy])) (by simpa using hbefore y hy)
  refine ⟨hleads, fun hx => ?_⟩
  cases hfirst : ys.head? with
  | none =>
    rw [List.head?_eq_none_iff] at hfirst
    have hmem := h.perm.mem_iff.mpr hx.mem
    rw [hfirst] at hmem
    exact absurd hmem List.not_mem_nil
  | some y => exact congrArg some ((hleads hfirst).unique hx)

end Order

/-! ## Headers -/

theorem mapM_languageEntry?_eq_none_iff {entries : List (List Char)} :
    entries.mapM languageEntry? = none ↔ ∃ entry ∈ entries, Malformed entry := by
  induction entries with
  | nil => simp
  | cons entry entries ih =>
    rw [List.mapM_cons, List.exists_mem_cons_iff, ← languageEntry?_eq_none_iff, ← ih]
    cases languageEntry? entry with
    | none => simp
    | some said => cases entries.mapM languageEntry? <;> simp

/-- A header is read entry by entry. -/
theorem mapM_languageEntry?_eq_some_iff {entries : List (List Char)}
    {said : List (Option LanguageTag)} :
    entries.mapM languageEntry? = some said ↔ List.Forall₂ Says entries said := by
  induction entries generalizing said with
  | nil => cases said <;> simp
  | cons entry entries ih =>
    rw [List.mapM_cons]
    constructor
    · intro h
      obtain ⟨one, hone, h⟩ := Option.bind_eq_some_iff.mp h
      obtain ⟨more, hmore, h⟩ := Option.bind_eq_some_iff.mp h
      cases h
      exact .cons (languageEntry?_eq_some_iff.mp hone) (ih.mp hmore)
    · rintro (_ | ⟨hone, hmore⟩)
      rw [hone.languageEntry?, ih.mpr hmore]
      rfl

variable {value : String} {entries : List (List Char)} {said : List (Option LanguageTag)}

theorem acceptedLanguages?_eq_none_iff (cut : Text.CutAt (· == ',') value.toList entries) :
    acceptedLanguages? value = none ↔ ∃ entry ∈ entries, Malformed entry := by
  rw [acceptedLanguages?, cut.split_eq, Option.map_eq_none_iff, mapM_languageEntry?_eq_none_iff]

theorem weight_of_mem (hentries : List.Forall₂ Says entries said) {t : LanguageTag}
    (ht : t ∈ said.reduceOption) :
    t.weight.negative = false ∧ 0 < t.weight.value ∧ t.weight.value ≤ 1 := by
  rw [List.reduceOption_mem_iff] at ht
  induction hentries with
  | nil => cases ht
  | cons hfirst _ ih =>
    obtain rfl | ht := List.mem_cons.mp ht
    · exact hfirst.weight
    · exact ih ht

/-- What the entries of a header say is ranked by weight. -/
theorem acceptedLanguages?_of_entries (cut : Text.CutAt (· == ',') value.toList entries)
    (hentries : List.Forall₂ Says entries said) :
    ∃ tags, acceptedLanguages? value = some tags ∧
      Ranked (·.weight.value) said.reduceOption tags := by
  refine ⟨_, ?_, (ranked_mergeSort (·.weight.code) said.reduceOption).of_alike fun x hx y hy => ?_⟩
  · rw [acceptedLanguages?, cut.split_eq, mapM_languageEntry?_eq_some_iff.mpr hentries]
    rfl
  · exact Numeric.Binary.value_le_value_iff (weight_of_mem hentries hx).1
      (weight_of_mem hentries hy).1

/-- Tags that a header is read as come from its entries. -/
theorem exists_entries_of_eq_some {tags : List LanguageTag}
    (cut : Text.CutAt (· == ',') value.toList entries)
    (htags : acceptedLanguages? value = some tags) :
    ∃ said, List.Forall₂ Says entries said ∧ Ranked (·.weight.value) said.reduceOption tags := by
  obtain ⟨said, hsaid⟩ : ∃ said, entries.mapM languageEntry? = some said := by
    rw [acceptedLanguages?, cut.split_eq] at htags
    obtain ⟨said, hsaid, -⟩ := Option.map_eq_some_iff.mp htags
    exact ⟨said, hsaid⟩
  have hentries := mapM_languageEntry?_eq_some_iff.mp hsaid
  obtain ⟨tags', htags', hranked⟩ := acceptedLanguages?_of_entries cut hentries
  obtain rfl : tags' = tags := Option.some.inj (htags'.symm.trans htags)
  exact ⟨said, hentries, hranked⟩

/-- **The header for accepted languages.** It is spoilt exactly if one of its entries is malformed.
Otherwise the tags are all those that its entries say, the heaviest first and tags of one weight as
they came, with weights above zero and at most at one. -/
theorem acceptedLanguages?_meets (value : String) :
    ∃ entries, Text.CutAt (· == ',') value.toList entries ∧
      (acceptedLanguages? value = none ↔ ∃ entry ∈ entries, Malformed entry) ∧
      ∀ tags, acceptedLanguages? value = some tags →
        (∃ said, List.Forall₂ Says entries said ∧
          Ranked (·.weight.value) said.reduceOption tags) ∧
        ∀ t ∈ tags, 0 < t.weight.value ∧ t.weight.value ≤ 1 := by
  obtain ⟨_, _, hcut⟩ := Text.exists_cutAt (· == ',') value.toList
  refine ⟨_, hcut, acceptedLanguages?_eq_none_iff hcut, fun tags htags => ?_⟩
  obtain ⟨said, hentries, hranked⟩ := exists_entries_of_eq_some hcut htags
  exact ⟨⟨said, hentries, hranked⟩,
    fun t ht => (weight_of_mem hentries (hranked.perm.mem_iff.mp ht)).2⟩

end HitCounter.Visitor
