import HitCounter.Proofs.Counting.Separation
import HitCounter.Proofs.Hit.Members

/-!
# Payloads over one another

- **Payloads** (`Payload.AgreeOn`): the payload on top wins in each field where it has a value.
  Laying payloads over one another is associative, and the empty payload is its identity.
- **Hits** (`Hit.payload_merge`): to merge a payload is to lay it over what the hit says. To merge
  several is to merge them laid over one another, from left to right (`Hit.foldl_merge`).
- **Bodies** (`Payload.Unsaid`): a field that is absent or null in a body is left to the query.
- **Requests** (`Payload.merge_decided`): the payload of a request is merged as that of its query
  and then that of its body.
-/

namespace HitCounter

open Text (Bytes encode)

namespace Payload

/-! ## Payloads and hits -/

/-- The payloads have the same value in the field, or neither has one. -/
def AgreeOn (p q : Payload) : Field → Prop
  | .path => p.path = q.path
  | .title => p.title = q.title
  | .referrer => p.referrer = q.referrer
  | .query => p.query = q.query
  | .event => p.event = q.event
  | .size => p.size = q.size
  | .bot => p.bot = q.bot

variable {top : Payload} {f : Field}

theorem overlay_assoc (p q r : Payload) :
    (p.overlay q).overlay r = p.overlay (q.overlay r) := by
  simp only [overlay, Option.orElse_eq_orElse, Option.orElse_eq_or, Option.or_assoc]

theorem overlay_empty (p : Payload) : p.overlay {} = p := by
  simp [overlay]

/-- Where the payload on top has no value, that of the other one stays. -/
theorem AgreeOn.overlay (h : AgreeOn top {} f) (base : Payload) :
    AgreeOn (base.overlay top) base f := by
  cases f <;>
  · simp only [AgreeOn] at h
    simp only [AgreeOn, Payload.overlay, h]
    rfl

/-- Where it has one, that wins. -/
theorem agreeOn_overlay_top (h : ¬ AgreeOn top {} f) (base : Payload) :
    AgreeOn (base.overlay top) top f := by
  cases f <;>
  · obtain ⟨v, hv⟩ := Option.ne_none_iff_exists'.mp h
    simp only [AgreeOn, Payload.overlay, hv]
    rfl

end Payload

namespace Hit

/-- What the hit says of its page, with a value in every field. -/
def payload (h : Hit) : Payload :=
  ⟨h.path, h.title, h.referrer, h.query, h.event, h.size, h.bot⟩

/-- To merge is to lay over what the hit says. -/
theorem payload_merge (h : Hit) (p : Payload) : (h.merge p).payload = h.payload.overlay p := by
  have hgetD {α : Type} (a : Option α) (x : α) : some (a.getD x) = (a <|> some x) := by
    cases a <;> rfl
  simp only [payload, merge, Payload.overlay, hgetD]

theorem payload_foldl_merge (h : Hit) (ps : List Payload) :
    (ps.foldl merge h).payload = ps.foldl Payload.overlay h.payload := by
  induction ps generalizing h with
  | nil => rfl
  | cons p ps ih => rw [List.foldl_cons, List.foldl_cons, ih, payload_merge]

theorem merge_overlay (h : Hit) (p q : Payload) : h.merge (p.overlay q) = (h.merge p).merge q := by
  have hgetD {α : Type} (a b : Option α) (x : α) : (a <|> b).getD x = a.getD (b.getD x) := by
    cases a <;> rfl
  simp only [merge, Payload.overlay, hgetD]

theorem foldl_merge (h : Hit) (ps : List Payload) :
    ps.foldl merge h = h.merge (ps.foldl Payload.overlay {}) := by
  -- The overlay so far is what has been merged into the hit.
  suffices ∀ base, ps.foldl merge (h.merge base) = h.merge (ps.foldl Payload.overlay base) from
    this {}
  induction ps with
  | nil => exact fun _ => rfl
  | cons p ps ih =>
    intro base
    rw [List.foldl_cons, List.foldl_cons, ← merge_overlay, ih]

end Hit

namespace Payload

/-! ## Fields that a body leaves open -/

/-- The body has no value for the field: it is blank, or the field is absent or null in it. -/
inductive Unsaid (body : Bytes) (f : Field) : Prop where
  | blank (blank : BlankBody body)
  | record {members : List (Json.Spelling × Json.Node)} {cut : Option Json.Cut}
    (root : (Json.Document.ofBytes body).root = .record members cut)
    (nulls : ∀ m ∈ members, ∀ key, m.1.read = .ok key → IsName (String.ofList key) f →
      m.2 = .null)
  | list {items : List Json.Node} {cut : Option Json.Cut}
    (root : (Json.Document.ofBytes body).root = .list items cut)
    (nulls : ∀ n, (f, n) ∈ Field.all.zip items → n = .null)

variable {p q r top : Payload} {f f' : Field} {body : Bytes}

theorem agreeOn_refl (p : Payload) (f : Field) : AgreeOn p p f := by
  cases f <;> rfl

theorem AgreeOn.trans (h : AgreeOn p q f) (h' : AgreeOn q r f) : AgreeOn p r f := by
  cases f <;> exact Eq.trans h h'

theorem agreeOn_put_self (f : Field) (top p : Payload) : AgreeOn (put f top p) top f := by
  cases f <;> rfl

theorem agreeOn_put (h : f' ≠ f) (top p : Payload) : AgreeOn (put f' top p) p f := by
  cases f <;> cases f' <;> first | exact absurd rfl h | rfl

theorem setNode_null (f : Field) : setNode f .null {} = .ok {} := by
  cases f <;> rfl

/-- A value is put into its field. -/
theorem setNode_eq_ok {n : Json.Node} (h : setNode f n p = .ok q) :
    ∃ top, setNode f n {} = .ok top ∧ q = put f top p := by
  have hlay := toOption_setNode f n p
  rw [h, lay] at hlay
  obtain ⟨top, htop, hput⟩ := Option.map_eq_some_iff.mp hlay.symm
  exact ⟨top, ok_of_toOption htop, hput.symm⟩

/-- A field stays without a value if the value that is set is null or that of another field. -/
theorem AgreeOn.setNode {n : Json.Node} (hp : AgreeOn p {} f) (hnull : f' = f → n = .null)
    (h : Payload.setNode f' n p = .ok q) : AgreeOn q {} f := by
  obtain ⟨top, htop, rfl⟩ := setNode_eq_ok h
  by_cases hf : f' = f
  · subst hf
    rw [hnull rfl, setNode_null] at htop
    obtain rfl := Except.ok.inj htop
    exact agreeOn_put_self f' {} p
  · exact (agreeOn_put hf top p).trans hp

/-- A member is passed over, or it sets a field that its key names. -/
theorem member_eq_ok {state state' : Payload × List Field} {m : Json.Spelling × Json.Node}
    (h : shape.member state m = .ok state') : ∃ key, m.1.read = .ok key ∧ (state' = state ∨
      ∃ f, IsName (String.ofList key) f ∧ Payload.setNode f m.2 state.1 = .ok state'.1) := by
  obtain ⟨key, hkey, h⟩ := bind_eq_ok.mp h
  have hread : m.1.read = .ok key := by
    cases hread : m.1.read with
    | error e => rw [Json.Shape.lift, hread] at hkey; cases hkey
    | ok key' => rw [Json.Shape.lift, hread] at hkey; cases hkey; rfl
  refine ⟨key, hread, ?_⟩
  split at h
  · obtain ⟨_, -, h⟩ := bind_eq_ok.mp h
    exact .inl (Except.ok.inj h).symm
  · rename_i f hname
    split at h
    · cases h
    · obtain ⟨q, hset, h⟩ := bind_eq_ok.mp h
      obtain rfl := Except.ok.inj h
      exact .inr ⟨f, ofName?_eq_some_iff.mp hname, hset⟩

/-- The members of a record keep a field without a value that is null wherever it is named. -/
theorem agreeOn_of_members {members : List (Json.Spelling × Json.Node)}
    {state state' : Payload × List Field}
    (nulls : ∀ m ∈ members, ∀ key, m.1.read = .ok key → IsName (String.ofList key) f → m.2 = .null)
    (hstate : AgreeOn state.1 {} f) (h : members.foldlM shape.member state = .ok state') :
    AgreeOn state'.1 {} f := by
  induction members generalizing state with
  | nil =>
    obtain rfl := Except.ok.inj h
    exact hstate
  | cons m members ih =>
    rw [List.foldlM_cons] at h
    obtain ⟨next, hmember, hmore⟩ := bind_eq_ok.mp h
    obtain ⟨hnull, hnulls⟩ := List.forall_mem_cons.mp nulls
    refine ih hnulls ?_ hmore
    obtain ⟨key, hkey, rfl | ⟨f', hname, hset⟩⟩ := member_eq_ok hmember
    · exact hstate
    · exact hstate.setNode (fun hf => hnull key hkey (hf ▸ hname)) hset

/-- So do the items of a list. -/
theorem agreeOn_of_items {fs : List Field} {items : List Json.Node} {cut : Option Json.Cut}
    (nulls : ∀ n, (f, n) ∈ fs.zip items → n = .null) (hp : AgreeOn p {} f)
    (h : shape.items fs items cut p = .ok q) : AgreeOn q {} f := by
  induction fs generalizing items p with
  | nil =>
    cases items <;> cases cut <;> cases h
    exact hp
  | cons f' fs ih =>
    cases items with
    | nil =>
      cases cut <;> cases h
      exact hp
    | cons n items =>
      obtain ⟨next, hset, hmore⟩ := bind_eq_ok.mp h
      refine ih (fun n' hn' => nulls n' (List.mem_cons_of_mem _ hn')) ?_ hmore
      refine hp.setNode (fun hf => nulls n ?_) hset
      rw [List.zip_cons_cons, hf]
      exact List.mem_cons_self

/-- The tokens of white space are none, or one that is no value. -/
theorem tokens_blank (h : BlankBody body) :
    Json.tokens body = [] ∨ Json.tokens body = [.broken (.both .noValue)] := by
  suffices ∀ l : Json.Lexer, l = {} ∨ l = .stop [] (.broken (.both .noValue)) →
      body.foldl Json.Lexer.step l = {} ∨
        body.foldl Json.Lexer.step l = .stop [] (.broken (.both .noValue)) by
    unfold Json.tokens
    obtain heq | heq := this {} (.inl rfl)
    · exact .inl (by rw [heq]; rfl)
    · exact .inr (by rw [heq]; rfl)
  induction body with
  | nil => exact fun _ hl => hl
  | cons b body ih =>
    obtain ⟨hb, hbody⟩ := List.forall_mem_cons.mp h
    refine fun l hl => ih hbody _ ?_
    obtain rfl | rfl := hl
    · simp only [List.mem_cons, List.not_mem_nil, or_false] at hb
      -- A form feed is white space to the server, but not in JSON.
      obtain rfl | rfl | rfl | rfl | rfl := hb
      iterate 3 exact .inl (by decide)
      · exact .inr (by decide)
      · exact .inl (by decide)
    · exact .inr rfl

/-- The payload of a body is that of its tree. -/
theorem ofNode_of_ofJson (h : ofJson body = .ok p) :
    shape.ofNode {} (Json.Document.ofBytes body).root = .ok p := by
  obtain ⟨q, hnode, htrailing⟩ := bind_eq_ok.mp h
  split at htrailing
  · cases htrailing
  · obtain rfl := Except.ok.inj htrailing
    exact hnode

theorem ofJson_blank (h : BlankBody body) : ofJson body ≠ .ok p := by
  intro hp
  have hroot : (Json.Document.ofBytes body).root = .broken (.both .noValue) ∨
      (Json.Document.ofBytes body).root = .broken (.both (.ends .value)) := by
    unfold Json.Document.ofBytes
    obtain heq | heq := tokens_blank h <;> rw [heq]
    · exact .inr rfl
    · exact .inl rfl
  have hnode := ofNode_of_ofJson hp
  obtain heq | heq := hroot <;> · rw [heq] at hnode; cases hnode

/-- The payload of a body has no value in a field that is unsaid. -/
theorem Unsaid.agreeOn (h : Unsaid body f) (hp : ofJson body = .ok p) : AgreeOn p {} f := by
  have hnode := ofNode_of_ofJson hp
  cases h with
  | blank blank => exact absurd hp (ofJson_blank blank)
  | @record members cut root nulls =>
    rw [root] at hnode
    obtain ⟨⟨q, seen⟩, hmembers, hcut⟩ := bind_eq_ok.mp hnode
    cases cut with
    | none =>
      obtain rfl := Except.ok.inj hcut
      exact agreeOn_of_members nulls (agreeOn_refl {} f) hmembers
    | some => cases hcut
  | list root nulls =>
    rw [root] at hnode
    exact agreeOn_of_items nulls (agreeOn_refl {} f) hnode

/-- A record in which the field is absent or null. -/
theorem ObjectText.unsaid {ms : List Member} (h : ObjectText ms body)
    (nulls : ∀ m ∈ ms, IsName m.key f → m.value = "null".toList) : Unsaid body f := by
  obtain ⟨parsed, hreads, hdocument⟩ := h.document
  refine .record (by rw [hdocument]) ?_
  clear h hdocument
  induction hreads with
  | nil => exact fun _ hm => absurd hm List.not_mem_nil
  | @cons m read ms parsed hread _ ih =>
    obtain ⟨hnull, hnulls⟩ := List.forall_mem_cons.mp nulls
    refine List.forall_mem_cons.mpr ⟨fun key hkey hname => ?_, ih hnulls⟩
    obtain rfl := Except.ok.inj (hkey.symm.trans hread.key)
    rw [String.ofList_toList] at hname
    rw [hread.value, hnull hname, nodeOf_null]

/-- A list that ends before the field or has null in its place. -/
theorem ArrayText.unsaid {values : List (List Char)} (h : ArrayText values body)
    (nulls : ∀ v, (f, v) ∈ Field.all.zip values → v = "null".toList) : Unsaid body f := by
  refine .list (by rw [h.document]) fun n hn => ?_
  rw [List.zip_map_right, List.mem_map] at hn
  obtain ⟨⟨f', v⟩, hv, heq⟩ := hn
  obtain ⟨rfl, rfl⟩ := Prod.mk.inj heq
  rw [nulls v hv]
  exact nodeOf_null

/-! ## Requests -/

/-- The payload that a body carries by itself, which is empty for white space. -/
inductive BodyPayload (body : Bytes) : Payload → Prop where
  | json {p : Payload} (decodes : ofJson body = .ok p) : BodyPayload body p
  | blank (blank : BlankBody body) : BodyPayload body {}

variable {target : Http.Target}

/-- What both parts of a request carry is laid over one another. -/
theorem BodyPayload.decode (h : BodyPayload body top) (hp : ofTarget target = .ok p) :
    Payload.decode target body = .ok (p.overlay top) := by
  cases h with
  | json decodes =>
    rw [decode_both hp fun hblank => ofJson_blank hblank decodes, decodes]
    rfl
  | blank blank => rw [decode_blank blank, hp, overlay_empty]

theorem BodyPayload.agreeOn (h : BodyPayload body top) (hf : Unsaid body f) : AgreeOn top {} f := by
  cases h with
  | json decodes => exact hf.agreeOn decodes
  | blank => exact agreeOn_refl {} f

/-- A body without a value is like none. -/
theorem decode_of_empty (h : BodyPayload body {}) :
    Payload.decode target body = ofTarget target := by
  cases hp : ofTarget target with
  | error e => exact decode_error hp
  | ok p => rw [h.decode hp, overlay_empty]

theorem bodyPayload_empty (h : BlankBody body ∨ ObjectText [] body ∨ ArrayText [] body) :
    BodyPayload body {} := by
  obtain h | h | h := h
  · exact .blank h
  · exact .json (ok_of_toOption h.toOption_ofJson)
  · exact .json (ok_of_toOption (h.toOption_ofJson (Nat.zero_le _)))

/-- **Payloads over one another.** Laying payloads over one another is associative with the empty
payload as its identity, and in each field the one on top wins where it has a value. To merge them
into a hit one after the other is to merge them laid over one another, and lays them over what the
hit says; the server's part of the hit and its time stay. Where both parts of a request decode, its
payload is merged as that of the query and then that of the body, and has the value of the query in
a field that the body leaves unsaid. A body of white space, an empty record or an empty list changes
nothing. -/
theorem merge_decided :
    (∀ p q r : Payload, (p.overlay q).overlay r = p.overlay (q.overlay r)) ∧
    (∀ p : Payload, overlay {} p = p ∧ p.overlay {} = p) ∧
    (∀ (p q : Payload) (f : Field), (¬ AgreeOn q {} f → AgreeOn (p.overlay q) q f) ∧
      (AgreeOn q {} f → AgreeOn (p.overlay q) p f)) ∧
    (∀ (h : Hit) (ps : List Payload), ps.foldl Hit.merge h = h.merge (ps.foldl overlay {}) ∧
      (ps.foldl Hit.merge h).payload = ps.foldl overlay h.payload ∧
      (ps.foldl Hit.merge h).serverPart = h.serverPart ∧
      (ps.foldl Hit.merge h).createdAt = h.createdAt) ∧
    (∀ target body q b, ofTarget target = .ok q → BodyPayload body b →
      ∃ p, decode target body = .ok p ∧ (∀ h : Hit, h.merge p = (h.merge q).merge b) ∧
        ∀ f, Unsaid body f → AgreeOn p q f) ∧
    ∀ target body, BlankBody body ∨ ObjectText [] body ∨ ArrayText [] body →
      decode target body = ofTarget target := by
  refine ⟨overlay_assoc, fun p => ⟨empty_overlay p, overlay_empty p⟩,
    fun p q f => ⟨(agreeOn_overlay_top · p), (·.overlay p)⟩, fun h ps => ?_,
    fun target body q b hq hb => ?_, fun target body h => decode_of_empty (bodyPayload_empty h)⟩
  · rw [← Hit.payload_foldl_merge, Hit.foldl_merge]
    exact ⟨rfl, rfl, rfl, rfl⟩
  · refine ⟨_, hb.decode hq, fun h => Hit.merge_overlay h q b, fun f hf => ?_⟩
    exact (hb.agreeOn hf).overlay q

/-- The target of a view of a page with a title. -/
def titled : Http.Target := ⟨none, [], some (encode "p=/a&t=A".toList)⟩

/-- An event without a title. -/
def untitledMembers : List Member := [⟨"t", "null".toList⟩, ⟨"e", "1".toList⟩]

def untitled : Bytes := encode "\x7b\"t\":null,\"e\":1\x7d".toList

/-- The title of the query stays, and the event of the body is added. White space, to which a form
feed belongs, changes nothing, and neither does an empty record or an empty list. -/
theorem merge_decided_untitled :
    (∃ p, decode titled untitled = .ok p ∧
      (∀ h : Hit, h.merge p =
        (h.merge { path := some "/a", title := some "A" }).merge { event := some true }) ∧
      AgreeOn p { path := some "/a", title := some "A" } .title) ∧
    ∀ body ∈ [[0x20, 0x0C], encode "\x7b\x7d".toList, encode "[]".toList],
      decode titled body = ofTarget titled := by
  obtain ⟨-, -, -, -, hboth, hempty⟩ := merge_decided
  have hquery : ofTarget titled = .ok { path := some "/a", title := some "A" } :=
    ok_of_toOption (by decide +kernel)
  have hjson : ofJson untitled = .ok { event := some true } := ok_of_toOption (by decide +kernel)
  have hdigit : Json.IsNumber "1".toList :=
    @Json.IsNumber.mk [] ['1'] [] [] (.inl rfl) (by decide) (.inr (by decide)) (.inl rfl) (.inl rfl)
  have hrecord : ObjectText untitledMembers untitled := by
    refine @objectText_jsonRecord untitledMembers ?_
    rw [untitledMembers, List.forall_mem_cons, List.forall_mem_singleton]
    exact ⟨.word .null, .number hdigit⟩
  have hunsaid : Unsaid untitled .title := hrecord.unsaid (by decide)
  constructor
  · obtain ⟨p, hp, hmerge, hagree⟩ := hboth titled untitled _ _ hquery (.json hjson)
    exact ⟨p, hp, hmerge, hagree .title hunsaid⟩
  · rw [List.forall_mem_cons, List.forall_mem_cons, List.forall_mem_singleton]
    refine ⟨hempty _ _ (.inl (all_isAsciiBlank.mp (by decide))), hempty _ _ (.inr (.inl ?_)),
      hempty _ _ (.inr (.inr ?_))⟩
    · exact @objectText_jsonRecord [] fun _ h => absurd h List.not_mem_nil
    · exact .mk (fun _ h => absurd h List.not_mem_nil) .nil (Json.listText_jsonList [])

end Payload

end HitCounter
