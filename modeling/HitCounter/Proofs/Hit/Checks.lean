import HitCounter.Hit.Validation
import Mathlib.Logic.Basic

/-!
# Checks

- **One check** (`Check.complaint?_eq`): it complains exactly if it fails (`Check.Fails`), and then
  of its own field (`Check.complaint`).
- **One check after another** (`Check.collect_eq`, `Check.foldl_collect`): what was kept before
  stays in front, and each check that fails puts its complaint at the end.
- **Lists of checks** (`Check.complaints_eq`): one complaint for each check that fails, in the order
  of the checks. For each kind of check there is a lemma that says what comes of one alone.
- **Nothing is lost** (`Check.run_collects`): what a list of checks comes to, the fields that are
  named, and the line that is written.
-/

namespace HitCounter

theorem Text.isControl_iff {c : Char} :
    isControl c = true ↔ c.toNat ≤ 0x1F ∨ 0x7F ≤ c.toNat ∧ c.toNat ≤ 0x9F := by
  simp only [isControl, Bool.or_eq_true, Bool.and_eq_true, decide_eq_true_eq]
  omega

namespace Check

/-! ## One check -/

/-- The field that is checked. -/
def field : Check → String
  | broken field _ => field
  | required field _ => field
  | printable field _ => field
  | length field _ _ _ => field

/-- The check fails. Control characters are those of the general category Cc, and the bounds of a
length may exclude every value. -/
def Fails : Check → Prop
  | broken _ _ => True
  | required _ value => value = ""
  | printable _ value => ∃ c ∈ value.toList, c.toNat ≤ 0x1F ∨ 0x7F ≤ c.toNat ∧ c.toNat ≤ 0x9F
  | length _ value least most => value.utf8ByteSize < least ∨ most < value.utf8ByteSize

instance : DecidablePred Fails
  | broken _ _ => inferInstanceAs (Decidable True)
  | required _ value => inferInstanceAs (Decidable (value = ""))
  | printable _ value => List.decidableBEx _ value.toList
  | length _ _ _ _ => inferInstanceAs (Decidable (_ ∨ _))

/-- What a check says when it fails. A value that is both too short and too long for the bounds is
called too short. -/
def message : Check → String
  | broken _ message => message
  | required _ _ => "must be set"
  | printable _ _ => "must not contain control characters"
  | length _ value least most =>
    if value.utf8ByteSize < least then "must be at least " ++ toString least ++ " bytes"
    else "must be at most " ++ toString most ++ " bytes (got " ++ toString value.utf8ByteSize ++ ")"

/-- The complaint of a check that fails. -/
def complaint (c : Check) : Complaint := ⟨c.field, c.message⟩

/-- A check complains exactly if it fails. -/
theorem complaint?_eq (c : Check) :
    c.complaint? = if c.Fails then some c.complaint else none := by
  cases c with
  | broken field message => exact (if_pos trivial).symm
  | required field value =>
    simp only [complaint?, String.isEmpty_iff]
    rfl
  | printable field value =>
    have hany : value.toList.any Text.isControl = true ↔ (printable field value).Fails := by
      simp only [List.any_eq_true, Text.isControl_iff]
      rfl
    exact if_congr hany rfl rfl
  | length field value least most =>
    -- the lower bound comes first: it decides what is said of a value that misses both
    by_cases hshort : value.utf8ByteSize < least
    · have hfails : (length field value least most).Fails := .inl hshort
      simp only [complaint?, hshort, hfails, complaint, Check.field, Check.message, ↓reduceIte]
    · have hfails : (length field value least most).Fails ↔ most < value.utf8ByteSize :=
        or_iff_right hshort
      simp only [complaint?, hshort, hfails, complaint, Check.field, Check.message, ↓reduceIte]

theorem complaint?_eq_none_iff {c : Check} : c.complaint? = none ↔ ¬ c.Fails := by
  rw [complaint?_eq, ite_eq_right_iff]
  exact imp_congr_right fun _ => iff_of_false (Option.some_ne_none _) id

/-! ## Lists of checks -/

theorem complaints_singleton (c : Check) :
    complaints [c] = if c.Fails then [c.complaint] else [] := by
  rw [complaints, List.filterMap_cons, complaint?_eq]
  by_cases hc : c.Fails
  · simp only [hc, ↓reduceIte]
    rfl
  · simp only [hc, ↓reduceIte]
    rfl

theorem complaints_append (checks later : List Check) :
    complaints (checks ++ later) = complaints checks ++ complaints later :=
  List.filterMap_append

/-- There is one complaint for each check that fails, in the order of the checks. -/
theorem complaints_eq (checks : List Check) :
    complaints checks = (checks.filter (Fails ·)).map complaint := by
  induction checks with
  | nil => rfl
  | cons c later ih =>
    rw [← List.singleton_append, complaints_append, ih, complaints_singleton, List.filter_append,
      List.map_append]
    by_cases hc : c.Fails
    · simp [hc]
    · simp [hc]

theorem complaints_eq_nil_iff {checks : List Check} :
    complaints checks = [] ↔ ∀ c ∈ checks, ¬ c.Fails := by
  simp only [complaints, List.filterMap_eq_nil_iff, complaint?_eq_none_iff]

/-- The complaints that are kept after one more check. -/
def collect (kept : List Complaint) (c : Check) : List Complaint :=
  if c.Fails then kept ++ [c.complaint] else kept

/-- One more check takes nothing away from what is kept. -/
theorem collect_eq (kept : List Complaint) (c : Check) :
    collect kept c = kept ++ complaints [c] := by
  rw [complaints_singleton, collect]
  split
  · rfl
  · exact (List.append_nil kept).symm

/-- Checks made one after another put their complaints behind what was kept before. -/
theorem foldl_collect (checks : List Check) (kept : List Complaint) :
    checks.foldl collect kept = kept ++ complaints checks := by
  -- later checks start from what the first one leaves, so the induction is for all that is kept
  induction checks generalizing kept with
  | nil => exact (List.append_nil kept).symm
  | cons c later ih =>
    calc (c :: later).foldl collect kept
      _ = collect kept c ++ complaints later := ih (collect kept c)
      _ = kept ++ (complaints [c] ++ complaints later) := by rw [collect_eq, List.append_assoc]
      _ = kept ++ complaints (c :: later) := by rw [← complaints_append, List.singleton_append]

/-- The complaints are handed on, unless there are none. -/
theorem run_eq (checks : List Check) :
    run checks =
      if ∃ c ∈ checks, c.Fails then .error (complaints checks) else .ok () := by
  have hnone : complaints checks = [] ↔ ¬ ∃ c ∈ checks, c.Fails := by
    rw [complaints_eq_nil_iff]
    simp
  unfold run
  split
  · next hnil => exact (if_neg (hnone.mp hnil)).symm
  · next hsome => exact (if_pos (not_not.mp fun h => hsome (hnone.mpr h))).symm

/-- Checks pass when each of them passes. -/
theorem run_eq_ok_iff {checks : List Check} :
    run checks = .ok () ↔ ∀ c ∈ checks, c.complaint? = none := by
  simp only [run_eq, complaint?_eq_none_iff]
  split
  · next h => simpa using h
  · next h => simpa using h

/-! ### Kinds of checks -/

variable {field value message : String}

/-- What is said of a value that is too long. -/
def tooLong (field value : String) (most : Nat) : Complaint :=
  ⟨field,
    "must be at most " ++ toString most ++ " bytes (got " ++ toString value.utf8ByteSize ++ ")"⟩

theorem tooLong_ne_mustBeSet {most : Nat} : tooLong field value most ≠ ⟨field, "must be set"⟩ := by
  intro heq
  have hmessage := congrArg (fun c => c.message.toList) heq
  simp [tooLong] at hmessage

theorem complaints_brokenIf {condition : Prop} [Decidable condition] :
    complaints (brokenIf condition field message) =
      if condition then [⟨field, message⟩] else [] := by
  by_cases hc : condition <;> simp [complaints, brokenIf, complaint?, hc]

theorem complaints_required :
    complaints [.required field value] = if value = "" then [⟨field, "must be set"⟩] else [] :=
  complaints_singleton _

theorem complaints_printable
    [Decidable (∃ c ∈ value.toList, c.toNat ≤ 0x1F ∨ 0x7F ≤ c.toNat ∧ c.toNat ≤ 0x9F)] :
    complaints [.printable field value] =
      if ∃ c ∈ value.toList, c.toNat ≤ 0x1F ∨ 0x7F ≤ c.toNat ∧ c.toNat ≤ 0x9F then
        [⟨field, "must not contain control characters"⟩] else [] :=
  (complaints_singleton _).trans (if_congr Iff.rfl rfl rfl)

/-- A value cannot be too short for a length without a lower bound. -/
theorem complaints_length {most : Nat} :
    complaints [.length field value 0 most] =
      if most < value.utf8ByteSize then [tooLong field value most] else [] :=
  (complaints_singleton _).trans (if_congr (or_iff_right (Nat.not_lt_zero _)) rfl rfl)

end Check

/-! ## Names and lines -/

theorem namesField_iff {cs : List Complaint} {field : String} :
    namesField cs field = true ↔ ∃ c ∈ cs, c.field = field := by
  simp only [namesField, List.any_eq_true, beq_iff_eq]

/-- Complaints that follow other complaints stand behind them in the line. -/
theorem complaintsText_append {cs later : List Complaint} (hcs : cs ≠ []) (hlater : later ≠ []) :
    complaintsText (cs ++ later) = complaintsText cs ++ "; " ++ complaintsText later := by
  rw [complaintsText, List.map_append]
  apply String.intercalate_append_of_ne_nil
  · exact mt List.map_eq_nil_iff.mp hcs
  · exact mt List.map_eq_nil_iff.mp hlater

namespace Check

theorem namesField_complaints {checks : List Check} {field : String} :
    namesField (complaints checks) field = true ↔ ∃ c ∈ checks, c.Fails ∧ c.field = field := by
  rw [namesField_iff, complaints_eq]
  constructor
  · rintro ⟨x, hx, rfl⟩
    obtain ⟨c, hc, rfl⟩ := List.mem_map.mp hx
    obtain ⟨hmem, hfails⟩ := List.mem_filter.mp hc
    exact ⟨c, hmem, of_decide_eq_true hfails, rfl⟩
  · rintro ⟨c, hmem, hfails, rfl⟩
    have hc : c ∈ checks.filter (Fails ·) := List.mem_filter.mpr ⟨hmem, decide_eq_true hfails⟩
    exact ⟨c.complaint, List.mem_map_of_mem hc, rfl⟩

/-- **Nothing is lost.** Checks pass if none of them fails. Otherwise there is one complaint for
each check that fails, in the order of the checks, whatever was kept before and whatever is checked
later; a field is named exactly if a check of it fails; and the line gives each field with what is
said of it, with a semicolon between two complaints. -/
theorem run_collects (checks : List Check) :
    (run checks = .ok () ↔ ∀ c ∈ checks, ¬ c.Fails) ∧
    run checks = (if ∃ c ∈ checks, c.Fails then .error (complaints checks) else .ok ()) ∧
    complaints checks = (checks.filter (Fails ·)).map (fun c => ⟨c.field, c.message⟩) ∧
    (∀ kept, checks.foldl collect kept = kept ++ complaints checks) ∧
    (∀ later, complaints (checks ++ later) = complaints checks ++ complaints later) ∧
    (∀ field, namesField (complaints checks) field = true ↔
      ∃ c ∈ checks, c.Fails ∧ c.field = field) ∧
    complaintsText (complaints checks) =
      "; ".intercalate ((checks.filter (Fails ·)).map fun c => c.field ++ ": " ++ c.message) ∧
    (∀ later, complaints checks ≠ [] → complaints later ≠ [] →
      complaintsText (complaints (checks ++ later)) =
        complaintsText (complaints checks) ++ "; " ++ complaintsText (complaints later)) := by
  refine ⟨?_, run_eq checks, complaints_eq checks, foldl_collect checks, complaints_append checks,
    fun _ => namesField_complaints, ?_, ?_⟩
  · simp only [run_eq_ok_iff, complaint?_eq_none_iff]
  · rw [complaints_eq, complaintsText, List.map_map]
    rfl
  · intro later hchecks hlater
    rw [complaints_append, complaintsText_append hchecks hlater]

/-- Checks of a page that has no path, a long title and a referrer of two lines. -/
def pageChecks : List Check :=
  [.required "path" "", .length "title" "abcdef" 0 3, .printable "ref" "a\nb"]

/-- A check that passes, and one with bounds that no value meets. -/
def laterChecks : List Check := [.required "host" "a.example", .length "query" "é" 3 1]

/-- Three complaints about a page are followed by one from bounds that no value meets. -/
theorem run_collects_crossed :
    complaints pageChecks ≠ [] ∧ complaints laterChecks ≠ [] ∧
    run (pageChecks ++ laterChecks) =
      .error [⟨"path", "must be set"⟩, ⟨"title", "must be at most 3 bytes (got 6)"⟩,
        ⟨"ref", "must not contain control characters"⟩, ⟨"query", "must be at least 3 bytes"⟩] ∧
    complaintsText (complaints (pageChecks ++ laterChecks)) =
      "path: must be set; title: must be at most 3 bytes (got 6); " ++
        "ref: must not contain control characters; query: must be at least 3 bytes" := by
  have hpage : complaints pageChecks ≠ [] := by decide
  have hlater : complaints laterChecks ≠ [] := by decide
  obtain ⟨-, -, -, -, -, -, -, htext⟩ := run_collects pageChecks
  exact ⟨hpage, hlater, rfl, (htext laterChecks hpage hlater).trans rfl⟩

end Check

end HitCounter
