import HitCounter.Counting.Basic
import HitCounter.Proofs.Hit.Validation

/-!
# When a request is counted

What it takes for each verdict that is no rejection. A request is counted exactly if it is no
prefetch, its client is not ignored, its payload decodes and passes the two checks before merging,
and the hit that results is valid (`Counter.count_eq_recorded_iff`); then the hit is the one that
the server began, with the payload merged into it and marked with the kind of bot that was found
(`Counter.Assembles`).
-/

namespace HitCounter

theorem Settings.ignores?_eq_none_iff {s : Settings} {client : String} :
    s.ignores? client = none ↔ client ∉ s.ignored := by
  unfold ignores?
  rw [List.find?_eq_none]
  constructor
  · intro h hmem
    exact h client hmem (by simp)
  · intro h x hx heq
    exact h (eq_of_beq heq ▸ hx)

/-- The rule that ignores a client is the client's address itself. -/
theorem Settings.ignores?_eq_some {s : Settings} {client : String} (h : client ∈ s.ignored) :
    s.ignores? client = some client := by
  cases hr : s.ignores? client with
  | none => exact absurd h (ignores?_eq_none_iff.mp hr)
  | some rule =>
    have hb := List.find?_some (p := (· == client)) hr
    rw [eq_of_beq hb]

/-- A verdict counts a hit exactly if it is that this hit is recorded. -/
theorem Verdict.hits_eq_singleton_iff {v : Verdict} {h : Hit} :
    v.hits = [h] ↔ v = .ok (.recorded h) := by
  unfold hits
  split <;> simp_all

theorem mapError_ok {α ε ε' : Type} (f : ε → ε') (x : α) :
    (Except.ok x : Except ε α).mapError f = .ok x := rfl

theorem mapError_error {α ε ε' : Type} (f : ε → ε') (e : ε) :
    (Except.error e : Except ε α).mapError f = .error (f e) := rfl

namespace Counter

/-- The payload decodes and passes the checks before merging, and `h` is the hit that it makes of
the hit that was begun. -/
structure Assembles (found : Visitor.BotClass) (begun : Hit) (r : CountRequest) (p : Payload)
    (h : Hit) : Prop where
  decodes : Payload.decode r.target r.body = .ok p
  allowed : p.reservedBot? = none
  short : p.pathLength ≤ longestPath
  eq : h = mark found (begun.merge p)

/-- A hit that was begun is either counted or rejected. -/
theorem complete_eq_ok_iff {found : Visitor.BotClass} {checked : Instant} {begun : Hit}
    {r : CountRequest} {o : Outcome} :
    complete found checked begun r = .ok o ↔
      ∃ p h, Assembles found begun r p h ∧ h.validate true checked = .ok () ∧ o = .recorded h := by
  unfold complete
  cases hd : Payload.decode r.target r.body with
  | error e =>
    simp only [mapError_error, bind, Except.bind, reduceCtorEq, false_iff]
    rintro ⟨p, h, ha, -⟩
    simp [ha.decodes] at hd
  | ok p =>
    have hp {p' h} (ha : Assembles found begun r p' h) : p' = p := by
      simpa [ha.decodes] using hd
    simp only [mapError_ok, bind, Except.bind]
    cases hb : p.reservedBot? with
    | some code =>
      simp only [throw, throwThe, MonadExceptOf.throw, reduceCtorEq, false_iff]
      rintro ⟨p', h, ha, -⟩
      simp [← hp ha, ha.allowed] at hb
    | none =>
      by_cases hl : longestPath < p.pathLength
      · simp only [hl, ↓reduceIte, throw, throwThe, MonadExceptOf.throw, reduceCtorEq, false_iff]
        rintro ⟨p', h, ha, -⟩
        have := ha.short
        rw [hp ha] at this
        omega
      · simp only [hl, ↓reduceIte, pure, Except.pure]
        cases hv : (mark found (begun.merge p)).validate true checked with
        | error e =>
          simp only [mapError_error, reduceCtorEq, false_iff]
          rintro ⟨p', h, ha, hok, -⟩
          rw [ha.eq, hp ha, hv] at hok
          cases hok
        | ok u =>
          simp only [mapError_ok, Except.ok.injEq]
          constructor
          · rintro rfl
            exact ⟨p, _, ⟨hd, hb, by omega, rfl⟩, hv, rfl⟩
          · rintro ⟨p', h, ha, -, rfl⟩
            rw [ha.eq, hp ha]

variable {known : Visitor.Register} {c : Counter known} {m : Moments} {site : Site}
  {r : CountRequest}

/-- The client as the rules of the site see it. -/
abbrev client (r : CountRequest) : String := Visitor.clientAddress r.headers r.peer

theorem count_prefetch (hp : c.classifier r.headers = .prefetch) :
    (c.count m site r).verdict = .ok .prefetch := by
  simp only [count, hp]

theorem count_ignored (hp : c.classifier r.headers ≠ .prefetch)
    (hi : client r ∈ site.settings.ignored) :
    (c.count m site r).verdict = .ok (.ignored (client r)) := by
  unfold count
  split
  · contradiction
  · simp only [Settings.ignores?_eq_some hi]

theorem count_looked_at (hp : c.classifier r.headers ≠ .prefetch)
    (hi : client r ∉ site.settings.ignored) :
    (c.count m site r).verdict =
      complete (c.classifier r.headers) m.checked (c.begin m.begun site r) r := by
  unfold count
  split
  · contradiction
  · simp only [Settings.ignores?_eq_none_iff.mpr hi]

theorem count_eq_prefetch_iff :
    (c.count m site r).verdict = .ok .prefetch ↔ c.classifier r.headers = .prefetch := by
  refine ⟨fun h => Classical.byContradiction fun hp => ?_, count_prefetch⟩
  by_cases hi : client r ∈ site.settings.ignored
  · rw [count_ignored hp hi] at h
    cases h
  · rw [count_looked_at hp hi] at h
    obtain ⟨_, _, -, -, ho⟩ := complete_eq_ok_iff.mp h
    cases ho

/-- **Counting.** A request is counted exactly if it is no prefetch, its client is not ignored, and
what it carries makes a valid hit. -/
theorem count_eq_recorded_iff {h : Hit} :
    (c.count m site r).verdict = .ok (.recorded h) ↔
      c.classifier r.headers ≠ .prefetch ∧ client r ∉ site.settings.ignored ∧
        ∃ p, Assembles (c.classifier r.headers) (c.begin m.begun site r) r p h ∧
          h.validate true m.checked = .ok () := by
  constructor
  · intro hc
    by_cases hp : c.classifier r.headers = .prefetch
    · rw [count_prefetch hp] at hc
      cases hc
    by_cases hi : client r ∈ site.settings.ignored
    · rw [count_ignored hp hi] at hc
      cases hc
    rw [count_looked_at hp hi] at hc
    obtain ⟨p, h', ha, hv, ho⟩ := complete_eq_ok_iff.mp hc
    cases ho
    exact ⟨hp, hi, p, ha, hv⟩
  · rintro ⟨hp, hi, p, ha, hv⟩
    rw [count_looked_at hp hi]
    exact complete_eq_ok_iff.mpr ⟨p, h, ha, hv, rfl⟩

end Counter

end HitCounter
