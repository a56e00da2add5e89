import HitCounter.Proofs.Hit.Rules

/-!
# Valid hits

Strict validation as the rest of the project looks at it, read off the rules for hits.

- **Sound hits** (`Hit.Sound`): what every stored hit must satisfy, apart from its time. Strict
  validation accepts exactly the sound hits that are not too far in the future
  (`Hit.validate_strict_iff`).
- **Complaints** (`Hit.Complains`): what strict validation complains of, one way for each rule
  (`Hit.complains_iff_reports`).
-/

namespace HitCounter

namespace Hit

variable {h : Hit} {now : Instant} {c : Complaint}

/-! ## Sound hits -/

/-- What every stored hit satisfies. -/
structure Sound (h : Hit) : Prop where
  site_pos : 0 < h.site
  remoteAddr_ne : h.remoteAddr ≠ ""
  path_ne : h.path ≠ ""
  path_size : h.path.utf8ByteSize ≤ 2048
  path_printable : ∀ c ∈ h.path.toList, Text.isControl c = false
  title_size : h.title.utf8ByteSize ≤ 1024
  referrer_size : h.referrer.utf8ByteSize ≤ 2048
  query_size : h.query.utf8ByteSize ≤ 2048
  bot_code : h.bot = 0 ∨ 150 ≤ h.bot
  size_length : h.size.length ≤ 3
  size_entries : ∀ x ∈ h.size, x.isFinite ∧ ¬ x.isBelowZero

theorem sound_iff : h.Sound ↔ h.Proper ∧ h.remoteAddr ≠ "" ∧ h.path ≠ "" := by
  have hprintable : (∀ x ∈ h.path.toList, Text.isControl x = false) ↔
      ∀ x ∈ h.path.toList, 0x20 ≤ x.toNat ∧ (x.toNat < 0x7F ∨ 0xA0 ≤ x.toNat) := by
    refine forall₂_congr fun x _ => ?_
    rw [← Bool.not_eq_true, Text.isControl_iff]
    omega
  have hentries : (∀ x ∈ h.size, x.isFinite ∧ ¬ x.isBelowZero) ↔
      ∀ x ∈ h.size, x.isFinite = true ∧ 0 ≤ x.value := by
    refine forall₂_congr fun x _ => ?_
    rw [← isSize_iff, isSize, Bool.and_eq_true, Bool.not_eq_true, Bool.not_eq_true']
  constructor
  · intro hs
    exact ⟨⟨hs.site_pos, hs.path_size, hprintable.mp hs.path_printable, hs.title_size,
      hs.referrer_size, hs.query_size, hs.bot_code, hs.size_length, hentries.mp hs.size_entries⟩,
      hs.remoteAddr_ne, hs.path_ne⟩
  · rintro ⟨hp, haddress, hpath⟩
    exact ⟨hp.site_pos, haddress, hpath, hp.path_size, hprintable.mpr hp.path_printable,
      hp.title_size, hp.referrer_size, hp.query_size, hp.bot_code, hp.size_length,
      hentries.mpr hp.size_entries⟩

/-- **Strict validation** accepts the sound hits whose time is at most a minute ahead. -/
theorem validate_strict_iff :
    h.validate true now = .ok () ↔ h.Sound ∧ h.createdAt ≤ now + tolerance := by
  rw [validate_eq_ok_iff_proper, sound_iff]
  constructor
  · rintro ⟨hproper, hstrict | ⟨haddress, hpath, htime⟩⟩
    · cases hstrict
    · exact ⟨⟨hproper, haddress, hpath⟩, htime⟩
  · rintro ⟨⟨hproper, haddress, hpath⟩, htime⟩
    exact ⟨hproper, .inr ⟨haddress, hpath, htime⟩⟩

/-! ## Complaints -/

/-- What strict validation says of a hit at a moment: a complaint for each rule that is broken. -/
inductive Complains (h : Hit) (now : Instant) : Complaint → Prop where
  | site (broken : h.site ≤ 0) : Complains h now ⟨"site", "must be set"⟩
  | noAddress (broken : h.remoteAddr = "") : Complains h now ⟨"remote_addr", "must be set"⟩
  | noPath (broken : h.path = "") : Complains h now ⟨"path", "must be set"⟩
  | inFuture (broken : now + tolerance < h.createdAt) :
    Complains h now ⟨"created_at", "in the future"⟩
  | longPath (broken : longestPath < h.path.utf8ByteSize) :
    Complains h now (Check.tooLong "path" h.path longestPath)
  | unprintable (broken : ∃ x ∈ h.path.toList, Text.isControl x = true) :
    Complains h now ⟨"path", "must not contain control characters"⟩
  | longTitle (broken : longestTitle < h.title.utf8ByteSize) :
    Complains h now (Check.tooLong "title" h.title longestTitle)
  | longReferrer (broken : longestReferrer < h.referrer.utf8ByteSize) :
    Complains h now (Check.tooLong "ref" h.referrer longestReferrer)
  | longQuery (broken : longestQuery < h.query.utf8ByteSize) :
    Complains h now (Check.tooLong "query" h.query longestQuery)
  | bot (broken : h.bot ≠ 0 ∧ h.bot < 150) :
    Complains h now ⟨"bot", "invalid value " ++ toString h.bot⟩
  | manySizes (broken : mostSizes < h.size.length) :
    Complains h now ⟨"size", "at most " ++ toString mostSizes ++ " values"⟩
  | size (few : h.size.length ≤ mostSizes) (broken : ∃ x ∈ h.size, isSize x = false) :
    Complains h now ⟨"size", "must be finite non-negative numbers"⟩

/-- What is complained of is what the broken rules call for. -/
theorem complains_iff_reports : h.Complains now c ↔ ∃ r, h.Reports now r ∧ r.complaint h = c := by
  constructor
  · intro hc
    cases hc with
    | site broken => exact ⟨.site, .of_breaks (by decide) broken, rfl⟩
    | noAddress broken => exact ⟨.address, .of_breaks (by decide) broken, rfl⟩
    | noPath broken => exact ⟨.somePath, .of_breaks (by decide) broken, rfl⟩
    | inFuture broken => exact ⟨.time, .of_breaks (by decide) broken, rfl⟩
    | longPath broken => exact ⟨.pathLength, .of_breaks (by decide) broken, rfl⟩
    | unprintable broken =>
      obtain ⟨x, hx, hcontrol⟩ := broken
      exact ⟨.pathPrintable, .of_breaks (by decide) ⟨x, hx, Text.isControl_iff.mp hcontrol⟩, rfl⟩
    | longTitle broken => exact ⟨.titleLength, .of_breaks (by decide) broken, rfl⟩
    | longReferrer broken => exact ⟨.referrerLength, .of_breaks (by decide) broken, rfl⟩
    | longQuery broken => exact ⟨.queryLength, .of_breaks (by decide) broken, rfl⟩
    | bot broken => exact ⟨.bot, .of_breaks (by decide) broken, rfl⟩
    | manySizes broken => exact ⟨.sizeCount, .of_breaks (by decide) broken, rfl⟩
    | size few broken =>
      obtain ⟨x, hx, hbad⟩ := broken
      have hbreaks : h.Breaks now .sizeValues :=
        ⟨x, hx, fun hgood => absurd (isSize_iff.mpr hgood) (by simp [hbad])⟩
      exact ⟨.sizeValues, ⟨hbreaks, fun hmasked => Nat.not_lt.mpr few hmasked.2⟩, rfl⟩
  · rintro ⟨r, ⟨hbreaks, hmasked⟩, rfl⟩
    cases r with
    | site => exact .site hbreaks
    | address => exact .noAddress hbreaks
    | somePath => exact .noPath hbreaks
    | time => exact .inFuture hbreaks
    | pathLength => exact .longPath hbreaks
    | pathPrintable =>
      obtain ⟨x, hx, hcontrol⟩ := hbreaks
      exact .unprintable ⟨x, hx, Text.isControl_iff.mpr hcontrol⟩
    | titleLength => exact .longTitle hbreaks
    | referrerLength => exact .longReferrer hbreaks
    | queryLength => exact .longQuery hbreaks
    | bot => exact .bot hbreaks
    | sizeCount => exact .manySizes hbreaks
    | sizeValues =>
      obtain ⟨x, hx, hbad⟩ := hbreaks
      have hfew : h.size.length ≤ mostSizes := Nat.not_lt.mp fun hmany => hmasked ⟨rfl, hmany⟩
      exact .size hfew ⟨x, hx, Bool.eq_false_iff.mpr (mt isSize_iff.mp hbad)⟩

/-- **Complaints.** Strict validation complains of exactly the rules that are broken. -/
theorem mem_complaints_strict_iff :
    c ∈ Check.complaints (h.checks true now) ↔ h.Complains now c := by
  rw [complaints_checks, complains_iff_reports]
  simp [dueComplaints, Rule.mem_inForce]

/-- A hit is valid, or some rule is broken and these are all complaints. -/
theorem validate_strict_cases (h : Hit) (now : Instant) :
    ((∀ c, ¬ h.Complains now c) ∧ h.validate true now = .ok ()) ∨
      (∃ c, h.Complains now c) ∧
        h.validate true now = .error (Check.complaints (h.checks true now)) := by
  simp only [← mem_complaints_strict_iff, validate, Check.run]
  split
  · rename_i hnone
    exact .inl ⟨by simp [hnone], rfl⟩
  · rename_i hsome
    exact .inr ⟨List.exists_mem_of_ne_nil _ hsome, rfl⟩

end Hit

end HitCounter
