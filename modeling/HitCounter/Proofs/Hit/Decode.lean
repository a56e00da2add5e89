import HitCounter.Hit.Payload

/-!
# The payload in effect

- **Payloads** (`Payload.InEffect`, `Payload.decode_eq_ok_iff`): the payload of a request is that of
  the query, with that of the body on top unless the body is white space.
- **Faults** (`Payload.Undecodable`, `Payload.decode_cases`): a request whose query, or else whose
  body, does not decode has a fault and no payload.
-/

namespace HitCounter

open Text (Bytes)

namespace Payload

/-- A body counts as absent when all of it is white space. -/
def BlankBody (body : Bytes) : Prop := ∀ b ∈ body, b ∈ [0x20, 0x09, 0x0A, 0x0C, 0x0D]

/-- The payload of a request: that of the query alone, or with that of the body on top. -/
inductive InEffect (target : Http.Target) (body : Bytes) : Payload → Prop where
  | query {p : Payload} (decodes : ofTarget target = .ok p) (blank : BlankBody body) :
    InEffect target body p
  | both {p top : Payload} (decodes : ofTarget target = .ok p) (holds : ¬ BlankBody body)
    (json : ofJson body = .ok top) : InEffect target body (p.overlay top)

/-- Why a request has no payload: the query does not decode, or else the body does not. -/
inductive Undecodable (target : Http.Target) (body : Bytes) : DecodeFault → Prop where
  | query {e : DecodeFault} (fails : ofTarget target = .error e) : Undecodable target body e
  | body {p : Payload} {e : DecodeFault} (decodes : ofTarget target = .ok p)
    (holds : ¬ BlankBody body) (fails : ofJson body = .error e) : Undecodable target body e

variable {target : Http.Target} {body : Bytes}

theorem all_isAsciiBlank : body.all isAsciiBlank = true ↔ BlankBody body := by
  simp only [BlankBody, List.all_eq_true, isAsciiBlank, Bool.or_eq_true, beq_iff_eq, List.mem_cons,
    List.not_mem_nil, or_false, or_assoc]

/-- A body of white space leaves the payload of the query. -/
theorem decode_blank (h : BlankBody body) : decode target body = ofTarget target := by
  unfold decode
  rw [all_isAsciiBlank.mpr h]
  cases ofTarget target <;> rfl

/-- Any other body is read and laid on top of the payload of the query. -/
theorem decode_both {p : Payload} (hq : ofTarget target = .ok p) (h : ¬ BlankBody body) :
    decode target body = (ofJson body).map p.overlay := by
  have hf : body.all isAsciiBlank = false := by
    rwa [← Bool.not_eq_true, all_isAsciiBlank]
  unfold decode
  rw [hq, hf]
  cases ofJson body <;> rfl

theorem decode_error {e : DecodeFault} (hq : ofTarget target = .error e) :
    decode target body = .error e := by
  unfold decode
  rw [hq]
  rfl

/-- Every request has either a payload or a fault, and decoding finds it. -/
theorem decode_cases (target : Http.Target) (body : Bytes) :
    (∃ p, InEffect target body p ∧ decode target body = .ok p) ∨
      (∃ e, Undecodable target body e ∧ decode target body = .error e) := by
  cases hq : ofTarget target with
  | error e => exact .inr ⟨e, .query hq, decode_error hq⟩
  | ok p =>
    by_cases hb : BlankBody body
    · exact .inl ⟨p, .query hq hb, by rw [decode_blank hb, hq]⟩
    · have hd := decode_both hq hb
      cases hj : ofJson body with
      | error e => exact .inr ⟨e, .body hq hb hj, by rw [hd, hj]; rfl⟩
      | ok top => exact .inl ⟨p.overlay top, .both hq hb hj, by rw [hd, hj]; rfl⟩

theorem InEffect.unique {p p' : Payload} (h : InEffect target body p)
    (h' : InEffect target body p') : p = p' := by
  cases h <;> cases h' <;> simp_all

theorem Undecodable.unique {e e' : DecodeFault} (h : Undecodable target body e)
    (h' : Undecodable target body e') : e = e' := by
  cases h <;> cases h' <;> simp_all

theorem InEffect.not_undecodable {p : Payload} {e : DecodeFault} (h : InEffect target body p) :
    ¬ Undecodable target body e := by
  intro h'
  cases h <;> cases h' <;> simp_all

theorem decode_eq_ok_iff {p : Payload} : decode target body = .ok p ↔ InEffect target body p := by
  obtain ⟨q, hq, hd⟩ | ⟨e, he, hd⟩ := decode_cases target body
  · rw [hd, Except.ok.injEq]
    exact ⟨fun h => h ▸ hq, fun h => hq.unique h⟩
  · rw [hd]
    exact ⟨(nomatch ·), fun h => absurd he h.not_undecodable⟩

theorem reservedBot?_eq_some_iff {p : Payload} {b : Int} :
    p.reservedBot? = some b ↔ p.bot = some b ∧ 1 ≤ b ∧ b ≤ 149 := by
  simp only [reservedBot?, Option.filter_eq_some_iff, Bool.and_eq_true, decide_eq_true_eq]

theorem lt_pathLength_iff {p : Payload} :
    longestPath < p.pathLength ↔ ∃ path, p.path = some path ∧ 2048 < path.utf8ByteSize := by
  unfold pathLength
  cases p.path with
  | none => simp
  | some path => simp [longestPath]

end Payload

end HitCounter
