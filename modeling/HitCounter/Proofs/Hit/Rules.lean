import HitCounter.Proofs.Hit.Checks
import HitCounter.Proofs.Numeric.Value

/-!
# The rules for hits, one by one

- **Rules** (`Rule`, `Hit.Breaks`): what a hit must obey, each rule with its field, its complaint,
  and whether it is about what must be there before a hit is stored.
- **Complaints** (`Hit.complaints_checks`): validation makes one complaint for each rule that is
  broken, in the order of the rules. Too many entries of a size hide bad ones.
- **Validation** (`Hit.validate_decided`): what is accepted, what is complained of otherwise, and
  what the strict rules add.
-/

namespace HitCounter

/-! ## Rules -/

/-- The rules for a hit. -/
inductive Hit.Rule where
  | site
  | address
  | somePath
  | time
  | pathLength
  | pathPrintable
  | titleLength
  | referrerLength
  | queryLength
  | bot
  | sizeCount
  | sizeValues
deriving DecidableEq

/-- The complaint is about what must be there before a hit is stored. -/
def Complaint.isPresence (c : Complaint) : Bool :=
  c.field = "remote_addr" || c.field = "created_at" || c = ⟨"path", "must be set"⟩

namespace Hit.Rule

/-- All rules, in the order in which they are checked. -/
def all : List Rule :=
  [site, address, somePath, time, pathLength, pathPrintable, titleLength, referrerLength,
    queryLength, bot, sizeCount, sizeValues]

/-- The rule is about what must be there before a hit is stored. -/
def isPresence : Rule → Bool
  | address | somePath | time => true
  | _ => false

/-- The rules that are checked, those about presence only if asked for. -/
def inForce (strict : Bool) : List Rule := all.filter fun r => strict || !r.isPresence

/-- The field that the rule is about. -/
def field : Rule → String
  | site => "site"
  | address => "remote_addr"
  | time => "created_at"
  | somePath | pathLength | pathPrintable => "path"
  | titleLength => "title"
  | referrerLength => "ref"
  | queryLength => "query"
  | bot => "bot"
  | sizeCount | sizeValues => "size"

/-- The complaint about a hit that breaks the rule. -/
def complaint (h : Hit) : Rule → Complaint
  | site => ⟨"site", "must be set"⟩
  | address => ⟨"remote_addr", "must be set"⟩
  | somePath => ⟨"path", "must be set"⟩
  | time => ⟨"created_at", "in the future"⟩
  | pathLength => Check.tooLong "path" h.path 2048
  | pathPrintable => ⟨"path", "must not contain control characters"⟩
  | titleLength => Check.tooLong "title" h.title 1024
  | referrerLength => Check.tooLong "ref" h.referrer 2048
  | queryLength => Check.tooLong "query" h.query 2048
  | bot => ⟨"bot", "invalid value " ++ toString h.bot⟩
  | sizeCount => ⟨"size", "at most 3 values"⟩
  | sizeValues => ⟨"size", "must be finite non-negative numbers"⟩

theorem complaint_field (h : Hit) (r : Rule) : (r.complaint h).field = r.field := by
  cases r <;> rfl

theorem isPresence_complaint {h : Hit} (r : Rule) : (r.complaint h).isPresence = r.isPresence := by
  have htooLong (field value : String) (most : Nat) :
      (Check.tooLong field value most).field = field := rfl
  cases r with
  | pathLength =>
    simp [complaint, Complaint.isPresence, isPresence, htooLong, Check.tooLong_ne_mustBeSet]
  | _ => simp [complaint, Complaint.isPresence, isPresence, Check.tooLong]

theorem mem_inForce {strict : Bool} {r : Rule} :
    r ∈ inForce strict ↔ strict = true ∨ r.isPresence = false := by
  have hall : r ∈ all := by cases r <;> decide
  simp [inForce, hall]

end Hit.Rule

namespace Hit

/-- The hit breaks the rule at this moment. -/
def Breaks (h : Hit) (now : Instant) : Rule → Prop
  | .site => h.site ≤ 0
  | .address => h.remoteAddr = ""
  | .somePath => h.path = ""
  | .time => now + 60 * 1000000000 < h.createdAt
  | .pathLength => 2048 < h.path.utf8ByteSize
  | .pathPrintable => ∃ c ∈ h.path.toList, c.toNat ≤ 0x1F ∨ 0x7F ≤ c.toNat ∧ c.toNat ≤ 0x9F
  | .titleLength => 1024 < h.title.utf8ByteSize
  | .referrerLength => 2048 < h.referrer.utf8ByteSize
  | .queryLength => 2048 < h.query.utf8ByteSize
  | .bot => h.bot ≠ 0 ∧ h.bot < 150
  | .sizeCount => 3 < h.size.length
  | .sizeValues => ∃ x ∈ h.size, ¬ (x.isFinite = true ∧ 0 ≤ x.value)

instance (h : Hit) (now : Instant) : DecidablePred (h.Breaks now)
  | .site => inferInstanceAs (Decidable (h.site ≤ 0))
  | .address => inferInstanceAs (Decidable (h.remoteAddr = ""))
  | .somePath => inferInstanceAs (Decidable (h.path = ""))
  | .time => inferInstanceAs (Decidable (now + 60 * 1000000000 < h.createdAt))
  | .pathLength => inferInstanceAs (Decidable (2048 < h.path.utf8ByteSize))
  | .pathPrintable => List.decidableBEx _ h.path.toList
  | .titleLength => inferInstanceAs (Decidable (1024 < h.title.utf8ByteSize))
  | .referrerLength => inferInstanceAs (Decidable (2048 < h.referrer.utf8ByteSize))
  | .queryLength => inferInstanceAs (Decidable (2048 < h.query.utf8ByteSize))
  | .bot => inferInstanceAs (Decidable (h.bot ≠ 0 ∧ h.bot < 150))
  | .sizeCount => inferInstanceAs (Decidable (3 < h.size.length))
  | .sizeValues => List.decidableBEx _ h.size

/-- The rule is broken and complained of: entries of a size are not looked at when there are too
many of them. -/
def Reports (h : Hit) (now : Instant) (r : Rule) : Prop :=
  h.Breaks now r ∧ ¬ (r = .sizeValues ∧ h.Breaks now .sizeCount)

instance (h : Hit) (now : Instant) : DecidablePred (h.Reports now) :=
  fun _ => inferInstanceAs (Decidable (_ ∧ _))

/-- Only what is said of the entries of a size may be hidden. -/
theorem Reports.of_breaks {h : Hit} {now : Instant} {r : Rule} (hr : r ≠ .sizeValues)
    (hbreaks : h.Breaks now r) : h.Reports now r :=
  ⟨hbreaks, fun hmasked => hr hmasked.1⟩

/-- The complaints that are called for, in the order of the rules. -/
def dueComplaints (h : Hit) (strict : Bool) (now : Instant) : List Complaint :=
  ((Rule.inForce strict).filter (h.Reports now ·)).map (Rule.complaint h)

/-! ## Complaints -/

/-- The checks of one rule. -/
def checksOf (h : Hit) (now : Instant) : Rule → List Check
  | .site => Check.brokenIf (h.site ≤ 0) "site" "must be set"
  | .address => [.required "remote_addr" h.remoteAddr]
  | .somePath => [.required "path" h.path]
  | .time => Check.brokenIf (now + tolerance < h.createdAt) "created_at" "in the future"
  | .pathLength => [.length "path" h.path 0 longestPath]
  | .pathPrintable => [.printable "path" h.path]
  | .titleLength => [.length "title" h.title 0 longestTitle]
  | .referrerLength => [.length "ref" h.referrer 0 longestReferrer]
  | .queryLength => [.length "query" h.query 0 longestQuery]
  | .bot =>
    Check.brokenIf (h.bot != 0 && decide (h.bot < 150)) "bot" ("invalid value " ++ toString h.bot)
  | .sizeCount =>
    Check.brokenIf (mostSizes < h.size.length) "size"
      ("at most " ++ toString mostSizes ++ " values")
  | .sizeValues =>
    Check.brokenIf (!decide (mostSizes < h.size.length) && !h.size.all isSize) "size"
      "must be finite non-negative numbers"

variable {h : Hit} {now : Instant}

/-- The checks of a hit are those of the rules in force. -/
theorem checks_eq_flatMap (h : Hit) (strict : Bool) (now : Instant) :
    h.checks strict now = (Rule.inForce strict).flatMap (h.checksOf now) := by
  have hsize : h.sizeChecks = h.checksOf now .sizeCount ++ h.checksOf now .sizeValues := by
    by_cases hmany : mostSizes < h.size.length <;>
      simp [sizeChecks, checksOf, Check.brokenIf, hmany]
  cases strict
  · simp [checks, Rule.inForce, Rule.all, Rule.isPresence, hsize, checksOf]
  · simp [checks, presenceChecks, Rule.inForce, Rule.all, Rule.isPresence, hsize, checksOf]

/-- A number may stand in a size if it is finite and not below zero. -/
theorem isSize_iff {x : Numeric.Double} : isSize x = true ↔ x.isFinite = true ∧ 0 ≤ x.value := by
  rw [Numeric.Binary.value_nonneg_iff, isSize, Bool.and_eq_true, and_congr_right_iff]
  intro hfinite
  have hnan : x.isNaN = false := decide_eq_false (Nat.lt_asymm (of_decide_eq_true hfinite))
  cases hx : x.negative <;> simp [Numeric.Binary.isBelowZero, hnan, hx]

/-- Each rule but the last is complained of once, if it is broken. -/
theorem complaints_checksOf_of_ne {r : Rule} (hr : r ≠ .sizeValues) :
    Check.complaints (h.checksOf now r) = if h.Breaks now r then [r.complaint h] else [] := by
  cases r with
  | site | time => exact Check.complaints_brokenIf
  | address | somePath => exact Check.complaints_required
  | pathPrintable => exact Check.complaints_printable.trans (if_congr Iff.rfl rfl rfl)
  | pathLength | titleLength | referrerLength | queryLength => exact Check.complaints_length
  | bot =>
    have hcode : (h.bot != 0 && decide (h.bot < 150)) = decide (h.bot ≠ 0 ∧ h.bot < 150) := by
      rw [Bool.eq_iff_iff, Bool.and_eq_true, bne_iff_ne, decide_eq_true_iff, decide_eq_true_iff]
    rw [checksOf, hcode]
    exact Check.complaints_brokenIf
  | sizeCount =>
    have hmessage : "at most " ++ toString mostSizes ++ " values" = "at most 3 values" := rfl
    rw [checksOf, hmessage]
    exact Check.complaints_brokenIf
  | sizeValues => exact absurd rfl hr

/-- Each rule is complained of once, if it is. -/
theorem complaints_checksOf (r : Rule) :
    Check.complaints (h.checksOf now r) = if h.Reports now r then [r.complaint h] else [] := by
  by_cases hr : r = .sizeValues
  · subst hr
    have hentries : (!decide (mostSizes < h.size.length) && !h.size.all isSize) =
        decide (h.Reports now .sizeValues) := by
      rw [Bool.eq_iff_iff, decide_eq_true_iff, Bool.and_eq_true, Bool.not_eq_true',
        decide_eq_false_iff_not, Bool.not_eq_true', List.all_eq_false, and_comm]
      exact and_congr (exists_congr fun x => and_congr_right fun _ => not_congr isSize_iff)
        (not_congr (and_iff_right rfl).symm)
    rw [checksOf, hentries]
    exact Check.complaints_brokenIf
  · rw [complaints_checksOf_of_ne hr]
    exact if_congr ⟨.of_breaks hr, And.left⟩ rfl rfl

/-- **Complaints** are those that are called for. -/
theorem complaints_checks (h : Hit) (strict : Bool) (now : Instant) :
    Check.complaints (h.checks strict now) = h.dueComplaints strict now := by
  rw [checks_eq_flatMap, dueComplaints]
  induction Rule.inForce strict with
  | nil => rfl
  | cons r later ih =>
    have happend (checks : List Check) : Check.complaints (h.checksOf now r ++ checks) =
        Check.complaints (h.checksOf now r) ++ Check.complaints checks := List.filterMap_append
    rw [List.flatMap_cons, happend, ih, complaints_checksOf]
    by_cases hr : h.Reports now r
    · simp [hr]
    · simp [hr]

/-! ## Validation -/

/-- What every hit must satisfy, stored or not. -/
structure Proper (h : Hit) : Prop where
  site_pos : 0 < h.site
  path_size : h.path.utf8ByteSize ≤ 2048
  path_printable : ∀ c ∈ h.path.toList, 0x20 ≤ c.toNat ∧ (c.toNat < 0x7F ∨ 0xA0 ≤ c.toNat)
  title_size : h.title.utf8ByteSize ≤ 1024
  referrer_size : h.referrer.utf8ByteSize ≤ 2048
  query_size : h.query.utf8ByteSize ≤ 2048
  bot_code : h.bot = 0 ∨ 150 ≤ h.bot
  size_length : h.size.length ≤ 3
  size_entries : ∀ x ∈ h.size, x.isFinite = true ∧ 0 ≤ x.value

/-- What must be there before a hit is stored. -/
structure Complete (h : Hit) (now : Instant) : Prop where
  remoteAddr_ne : h.remoteAddr ≠ ""
  path_ne : h.path ≠ ""
  createdAt_le : h.createdAt ≤ now + 60 * 1000000000

theorem complete_iff : h.Complete now ↔ ∀ r : Rule, r.isPresence = true → ¬ h.Breaks now r := by
  constructor
  · rintro ⟨haddress, hpath, htime⟩ r hr
    cases r with
    | address => exact haddress
    | somePath => exact hpath
    | time => exact Int.not_lt.mpr htime
    | _ => nomatch hr
  · intro hkept
    exact ⟨hkept .address rfl, hkept .somePath rfl, Int.not_lt.mp (hkept .time rfl)⟩

theorem proper_iff (now : Instant) :
    h.Proper ↔ ∀ r : Rule, r.isPresence = false → ¬ h.Breaks now r := by
  constructor
  · intro hproper r hr
    cases r with
    | site => exact Int.not_le.mpr hproper.site_pos
    | pathLength => exact Nat.not_lt.mpr hproper.path_size
    | pathPrintable =>
      rintro ⟨c, hc, hcontrol⟩
      have := hproper.path_printable c hc
      omega
    | titleLength => exact Nat.not_lt.mpr hproper.title_size
    | referrerLength => exact Nat.not_lt.mpr hproper.referrer_size
    | queryLength => exact Nat.not_lt.mpr hproper.query_size
    | bot =>
      rintro ⟨hne, hsmall⟩
      have := hproper.bot_code
      omega
    | sizeCount => exact Nat.not_lt.mpr hproper.size_length
    | sizeValues =>
      rintro ⟨x, hx, hbad⟩
      exact hbad (hproper.size_entries x hx)
    | address | somePath | time => nomatch hr
  · intro hkept
    exact {
      site_pos := Int.not_le.mp (hkept .site rfl)
      path_size := Nat.not_lt.mp (hkept .pathLength rfl)
      path_printable := by
        intro c hc
        have : ¬ (c.toNat ≤ 0x1F ∨ 0x7F ≤ c.toNat ∧ c.toNat ≤ 0x9F) :=
          fun hcontrol => hkept .pathPrintable rfl ⟨c, hc, hcontrol⟩
        omega
      title_size := Nat.not_lt.mp (hkept .titleLength rfl)
      referrer_size := Nat.not_lt.mp (hkept .referrerLength rfl)
      query_size := Nat.not_lt.mp (hkept .queryLength rfl)
      bot_code := by
        have : ¬ (h.bot ≠ 0 ∧ h.bot < 150) := hkept .bot rfl
        omega
      size_length := Nat.not_lt.mp (hkept .sizeCount rfl)
      size_entries := fun x hx => Decidable.not_not.mp fun hbad =>
        hkept .sizeValues rfl ⟨x, hx, hbad⟩ }

/-- No complaint is called for exactly if no rule in force is broken. -/
theorem dueComplaints_eq_nil_iff {strict : Bool} :
    h.dueComplaints strict now = [] ↔ ∀ r ∈ Rule.inForce strict, ¬ h.Breaks now r := by
  rw [dueComplaints, List.map_eq_nil_iff, List.filter_eq_nil_iff]
  simp only [decide_eq_true_eq]
  constructor
  · intro hnone r hr hbreaks
    have hcount := hnone .sizeCount (Rule.mem_inForce.mpr (.inr rfl))
    refine hnone r hr ⟨hbreaks, fun hmasked => hcount (.of_breaks (by decide) hmasked.2)⟩
  · intro hkept r hr hreports
    exact hkept r hr hreports.1

/-- A field is named exactly if a rule about it is broken: a rule that hides another one is about
the same field. -/
theorem namesField_dueComplaints {strict : Bool} {field : String} :
    namesField (h.dueComplaints strict now) field = true ↔
      ∃ r ∈ Rule.inForce strict, r.field = field ∧ h.Breaks now r := by
  rw [namesField_iff]
  simp only [dueComplaints, List.mem_map, List.mem_filter, decide_eq_true_eq]
  constructor
  · rintro ⟨_, ⟨r, ⟨hr, hreports⟩, rfl⟩, hfield⟩
    exact ⟨r, hr, (r.complaint_field h).symm.trans hfield, hreports.1⟩
  · rintro ⟨r, hr, hfield, hbreaks⟩
    by_cases hmasked : r = .sizeValues ∧ h.Breaks now .sizeCount
    · obtain ⟨rfl, hcount⟩ := hmasked
      exact ⟨_, ⟨.sizeCount, ⟨Rule.mem_inForce.mpr (.inr rfl), .of_breaks (by decide) hcount⟩, rfl⟩,
        hfield⟩
    · exact ⟨_, ⟨r, ⟨hr, hbreaks, hmasked⟩, rfl⟩, (r.complaint_field h).trans hfield⟩

/-- What is called for if presence is not asked for is the rest of what is called for if it is. -/
theorem dueComplaints_false :
    h.dueComplaints false now = (h.dueComplaints true now).filter fun c => !c.isPresence := by
  have hpresence : (fun c : Complaint => !c.isPresence) ∘ Rule.complaint h =
      fun r : Rule => !r.isPresence := by
    funext r
    rw [Function.comp_apply, Rule.isPresence_complaint]
  simp only [dueComplaints, Rule.inForce, List.filter_map, hpresence, List.filter_filter,
    Bool.true_or, Bool.false_or, Bool.true_and, Bool.and_comm]

/-- The complaints of a validation. -/
def complaintsOf : Except (List Complaint) Unit → List Complaint
  | .ok _ => []
  | .error cs => cs

/-- A validation succeeds if there is no complaint and hands on all of them otherwise. -/
theorem validate_eq (h : Hit) (strict : Bool) (now : Instant) :
    h.validate strict now =
      if h.dueComplaints strict now = [] then .ok () else .error (h.dueComplaints strict now) := by
  rw [validate, Check.run, complaints_checks]
  cases h.dueComplaints strict now <;> rfl

theorem complaintsOf_validate {strict : Bool} :
    complaintsOf (h.validate strict now) = h.dueComplaints strict now := by
  rw [validate_eq]
  split
  · next hnone => exact hnone.symm
  · rfl

/-- A hit is valid exactly if no rule in force is broken. -/
theorem validate_eq_ok_iff {strict : Bool} :
    h.validate strict now = .ok () ↔ ∀ r ∈ Rule.inForce strict, ¬ h.Breaks now r := by
  rw [← dueComplaints_eq_nil_iff, validate_eq]
  split
  · next hnone => simp [hnone]
  · next hsome => simp [hsome]

/-- A hit is valid exactly if it is proper and, where that is asked for, complete. -/
theorem validate_eq_ok_iff_proper {strict : Bool} :
    h.validate strict now = .ok () ↔ h.Proper ∧ (strict = false ∨ h.Complete now) := by
  rw [validate_eq_ok_iff, proper_iff now, complete_iff]
  simp only [Rule.mem_inForce]
  cases strict with
  | false => simp
  | true =>
    simp only [true_or, true_implies, Bool.true_eq_false, false_or]
    constructor
    · intro hkept
      exact ⟨fun r _ => hkept r, fun r _ => hkept r⟩
    · rintro ⟨hproper, hcomplete⟩ r
      cases hr : r.isPresence with
      | false => exact hproper r hr
      | true => exact hcomplete r hr

/-- **Validation** accepts a hit exactly if it is proper and, where that is asked for, complete. It
answers with one complaint for each broken rule in force, in the order of the rules, where too many
entries of a size hide bad ones; a field is named exactly if a rule about it is broken; and without
the rules about presence it makes the complaints that are not about presence. -/
theorem validate_decided (h : Hit) (strict : Bool) (now : Instant) :
    (h.validate strict now = .ok () ↔ h.Proper ∧ (strict = false ∨ h.Complete now)) ∧
    h.validate strict now =
      (if h.dueComplaints strict now = [] then .ok () else .error (h.dueComplaints strict now)) ∧
    (∀ field, namesField (complaintsOf (h.validate strict now)) field = true ↔
      ∃ r ∈ Rule.inForce strict, r.field = field ∧ h.Breaks now r) ∧
    complaintsOf (h.validate false now) =
      (complaintsOf (h.validate true now)).filter fun c => !c.isPresence := by
  refine ⟨validate_eq_ok_iff_proper, validate_eq h strict now, fun field => ?_, ?_⟩
  · rw [complaintsOf_validate, namesField_dueComplaints]
  · rw [complaintsOf_validate, complaintsOf_validate, dueComplaints_false]

end Hit

end HitCounter
