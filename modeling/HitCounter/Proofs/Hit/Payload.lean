import HitCounter.Proofs.Hit.Decode
import HitCounter.Proofs.Http.Form
import HitCounter.Proofs.Json.Grammar
import Mathlib.Data.List.Perm.Basic

/-!
# Payloads in queries and in bodies

A page may send the same values in the query of its request or as a record in JSON.

- **Laying** (`Payload.lay`): a value is laid over a payload in its field. Values of different
  fields may be laid in any order (`Payload.foldlM_lay_perm`).
- **Readers** (`Payload.foldlM_lays`): both readers lay one value after the other.
- **Two forms** (`Payload.query_eq_body`): a query and a body that were written for the same values,
  in whichever way, carry the same payload, or neither carries one.
-/

namespace HitCounter

open Text (Bytes encode)

namespace Payload

/-! ## Laying values over a payload -/

/-- The payload with one field of another. -/
def put (f : Field) (top p : Payload) : Payload :=
  match f with
  | .path => { p with path := top.path }
  | .title => { p with title := top.title }
  | .referrer => { p with referrer := top.referrer }
  | .query => { p with query := top.query }
  | .event => { p with event := top.event }
  | .size => { p with size := top.size }
  | .bot => { p with bot := top.bot }

theorem put_comm {f f' : Field} (h : f ≠ f') (top top' p : Payload) :
    put f top (put f' top' p) = put f' top' (put f top p) := by
  cases f <;> cases f' <;> first | exact absurd rfl h | rfl

/-- The payload with a value in a field; none when the value is none of that field. -/
def lay (p : Payload) (e : Field × Option Payload) : Option Payload := e.2.map (put e.1 · p)

theorem lay_comm {e e' : Field × Option Payload} (h : e.1 ≠ e'.1) (p : Payload) :
    (lay p e).bind (lay · e') = (lay p e').bind (lay · e) := by
  obtain ⟨f, o⟩ := e
  obtain ⟨f', o'⟩ := e'
  cases o with
  | none => cases o' <;> rfl
  | some top =>
    cases o' with
    | none => rfl
    | some top' => exact congrArg some (put_comm h.symm top' top p)

/-- Values of different fields may be laid in any order. -/
theorem foldlM_lay_perm {es es' : List (Field × Option Payload)} (h : es.Perm es')
    (hnodup : (es.map (·.1)).Nodup) (p : Payload) : es.foldlM lay p = es'.foldlM lay p := by
  induction h generalizing p with
  | nil => rfl
  | cons e _ ih =>
    rw [List.map_cons, List.nodup_cons] at hnodup
    simp only [List.foldlM_cons]
    congr 1
    funext q
    exact ih hnodup.2 q
  | swap e e' es =>
    simp only [List.map_cons, List.nodup_cons, List.mem_cons, not_or] at hnodup
    have hswap := lay_comm hnodup.1.1 p
    simp only [List.foldlM_cons, Option.bind_eq_bind, ← Option.bind_assoc, hswap]
  | trans h₁ _ ih₁ ih₂ =>
    rw [ih₁ hnodup, ih₂ ((h₁.map (·.1)).nodup_iff.mp hnodup)]

/-- Reading an element lays a value over the payload, if its field was not seen before. -/
def Lays {α ε : Type} (step : Payload × List Field → α → Except ε (Payload × List Field)) (a : α)
    (e : Field × Option Payload) : Prop :=
  ∀ p seen, e.1 ∉ seen → (step (p, seen) a).toOption = (lay p e).map (·, e.1 :: seen)

/-- Reading elements lays their values, one after the other. -/
theorem foldlM_lays {α ε : Type}
    {step : Payload × List Field → α → Except ε (Payload × List Field)} {as : List α}
    {es : List (Field × Option Payload)} (h : List.Forall₂ (Lays step) as es)
    (hnodup : (es.map (·.1)).Nodup) {p : Payload} {seen : List Field}
    (hseen : ∀ e ∈ es, e.1 ∉ seen) :
    ((as.foldlM step (p, seen)).map (·.1)).toOption = es.foldlM lay p := by
  induction h generalizing p seen with
  | nil => rfl
  | @cons a e as es hfirst _ ih =>
    rw [List.map_cons, List.nodup_cons] at hnodup
    rw [List.forall_mem_cons] at hseen
    have hstep := hfirst p seen hseen.1
    rw [List.foldlM_cons, List.foldlM_cons]
    cases hl : lay p e with
    | none =>
      cases hs : step (p, seen) a with
      | error => rfl
      | ok => rw [hl, hs] at hstep; cases hstep
    | some q =>
      cases hs : step (p, seen) a with
      | error => rw [hl, hs] at hstep; cases hstep
      | ok state =>
        rw [hl, hs] at hstep
        obtain rfl : state = (q, e.1 :: seen) := Option.some.inj hstep
        refine ih hnodup.2 fun e' he' => ?_
        rw [List.mem_cons, not_or]
        refine ⟨fun heq => hnodup.1 ?_, hseen.2 e' he'⟩
        exact heq ▸ List.mem_map_of_mem he'

/-! ## Values as a page has them -/

/-- A field with its value: a text, or the integer that is the code for a bot. -/
inductive Entry where
  | text (f : Field) (s : String) (isText : f ≠ .bot)
  | bot (n : Int64)

namespace Entry

def field : Entry → Field
  | text f _ _ => f
  | bot _ => .bot

/-- The value as a text. -/
def word : Entry → String
  | text _ s _ => s
  | bot n => toString n.toInt

/-- What is laid for the value. -/
def laid (e : Entry) : Field × Option Payload := (e.field, (setText e.field e.word {}).toOption)

/-- The names of the field. -/
def IsName (e : Entry) (key : String) : Prop := key = e.field.short ∨ key = e.field.long

/-- The ways to write the value in JSON: a text as a string, a code as an integer. -/
def JsonText : Entry → List Char → Prop
  | text _ s _ => Json.StringText s.toList
  | bot n => (· = (toString n.toInt).toList)

end Entry

theorem setText_eq_put (f : Field) (value : String) (p : Payload) :
    setText f value p = (setText f value {}).map (put f · p) := by
  cases f with
  | path | title | referrer | query => rfl
  | event => simp only [setText]; cases flagOfText value <;> rfl
  | size => simp only [setText]; cases sizeOfText value <;> rfl
  | bot => simp only [setText]; cases (Numeric.readInt64 value.toList) <;> rfl

theorem toOption_setText (e : Entry) (p : Payload) :
    (setText e.field e.word p).toOption = lay p e.laid := by
  rw [setText_eq_put]
  unfold lay Entry.laid
  cases setText e.field e.word {} <;> rfl

theorem ofName?_of_isName {e : Entry} {key : String} (h : e.IsName key) :
    Field.ofName? key = some e.field := by
  obtain rfl | rfl := h <;> cases e.field <;> decide

/-! ## Queries -/

/-- The ways to write values as a query: a name of each field, an equals sign and the value, both
form-encoded, with ampersands between. -/
inductive QueryText (es : List Entry) : Bytes → Prop where
  | mk {parts : List Bytes}
    (written : List.Forall₂ (fun e part => ∃ key, e.IsName key ∧
      Http.FormPair (key.toList, e.word.toList) part) es parts) :
    QueryText es (List.intercalate [0x26] parts)

theorem equals_notMem_name {e : Entry} {key : String} (h : e.IsName key) :
    0x3D ∉ encode key.toList := by
  obtain rfl | rfl := h <;> cases e.field <;> decide

/-- A pair of a query lays its value. -/
theorem lays_queryPair {e : Entry} {key : String} (h : e.IsName key) :
    Lays queryPair (key.toList, e.word.toList) e.laid := by
  intro p seen hseen
  have hset := toOption_setText e p
  simp only [Entry.laid] at hseen
  simp only [queryPair, String.ofList_toList, ofName?_of_isName h, hseen, ↓reduceIte, bind,
    Except.bind, pure, Except.pure]
  rw [← hset]
  cases setText e.field e.word p <;> rfl

/-- A query carries the values that it was written for, laid one after the other. -/
theorem ofQuery_written {es : List Entry} {query : Bytes} (h : QueryText es query)
    (hnodup : (es.map Entry.field).Nodup) :
    (ofQuery query).toOption = (es.map Entry.laid).foldlM lay {} := by
  obtain ⟨written⟩ := h
  rename_i parts
  obtain ⟨pairs, hpairs, hlays, hkeys⟩ : ∃ pairs, List.Forall₂ Http.FormPair pairs parts ∧
      List.Forall₂ (Lays queryPair) pairs (es.map Entry.laid) ∧
        ∀ pair ∈ pairs, 0x3D ∉ encode pair.1 := by
    clear hnodup
    induction written with
    | nil => exact ⟨[], .nil, .nil, fun _ hpair => absurd hpair List.not_mem_nil⟩
    | cons hfirst _ ih =>
      obtain ⟨key, hname, hpair⟩ := hfirst
      obtain ⟨pairs, hpairs, hlays, hkeys⟩ := ih
      exact ⟨_ :: pairs, .cons hpair hpairs, .cons (lays_queryPair hname) hlays,
        List.forall_mem_cons.mpr ⟨equals_notMem_name hname, hkeys⟩⟩
  rw [ofQuery, Http.formPairs_written hpairs hkeys]
  exact foldlM_lays hlays (by rwa [List.map_map]) fun _ _ => List.not_mem_nil

/-- An empty query is read like any other. -/
theorem ofTarget_some (target : Http.Target) {query : Bytes} (h : target.query = some query) :
    ofTarget target = ofQuery query := by
  unfold ofTarget
  rw [h]
  cases query <;> rfl

/-! ## Bodies -/

/-- The ways to write values as a body: a record in JSON, with a name of each field as its key. -/
inductive BodyText (es : List Entry) : Bytes → Prop where
  | mk {parts : List (List Char)} {cs : List Char}
    (members : List.Forall₂ (fun e part => ∃ key, e.IsName key ∧
      Json.MemberText key.toList e.JsonText part) es parts) (record : Json.RecordText parts cs) :
    BodyText es (encode cs)

/-- What the text of a value is read as. -/
def Entry.Denotes : Entry → Json.Node → Prop
  | text _ s _, n => ∃ sp : Json.Spelling, n = .text sp ∧ sp.read = .ok s.toList
  | bot i, n => n = .number (.ofInt i.toInt)

/-- A value is read from its text as what it was written for. -/
theorem Entry.JsonText.spells {e : Entry} {v : List Char} (h : e.JsonText v) :
    ∃ n, e.Denotes n ∧ ∃ ts, Json.SpellsBefore v ts ∧ Json.Builds ts n := by
  cases e with
  | text f s isText =>
    obtain ⟨sp, hspells, hclose, hread⟩ := Json.StringText.spells h
    exact ⟨.text sp, ⟨sp, rfl, hread⟩, _, hspells.before, Json.builds_text hclose⟩
  | bot n =>
    obtain rfl : v = _ := h
    exact ⟨_, rfl, _, Json.spellsBefore_integer n.toInt, Json.builds_number _⟩

theorem word_bot_bounds (n : Int64) :
    -0x8000000000000000 ≤ n.toInt ∧ n.toInt < 0x8000000000000000 :=
  ⟨n.le_toInt, n.toInt_lt⟩

/-- A value in JSON is set as its text is. -/
theorem setNode_of_denotes {e : Entry} {n : Json.Node} (h : e.Denotes n) (p : Payload) :
    (setNode e.field n p).toOption = (setText e.field e.word p).toOption := by
  cases e with
  | text f s isText =>
    obtain ⟨sp, rfl, hread⟩ := h
    have htext : Json.Node.readText (.text sp) = .ok s := by
      simp [Json.Node.readText, hread, bind, Except.bind, pure, Except.pure]
    have hcheck : (Json.Node.text sp).check nesting = .ok () := by
      simp [Json.Node.check, hread, Except.map]
    cases f with
    | path | title | referrer | query =>
      simp only [Entry.field, Entry.word, setNode, setText, optional, htext, Except.map,
        Except.mapError, bind, Except.bind]
      rfl
    | event =>
      simp only [Entry.field, Entry.word, setNode, setText, checked, hcheck, flagOfNode, hread,
        String.ofList_toList, bind, Except.bind, Except.mapError]
      cases flagOfText s <;> rfl
    | size =>
      simp only [Entry.field, Entry.word, setNode, setText, checked, hcheck, sizeOfNode, hread,
        String.ofList_toList, bind, Except.bind, Except.mapError]
      cases sizeOfText s <;> rfl
    | bot => contradiction
  | bot i =>
    obtain rfl : n = _ := h
    obtain ⟨least, most⟩ := word_bot_bounds i
    simp only [Entry.field, Entry.word, setNode, setText, optional,
      Json.Node.readInt64_ofInt least most, Numeric.readInt64_toString least most, Except.map,
      Except.mapError, bind, Except.bind]
    rfl

/-- A member of a body lays its value. -/
theorem lays_member {e : Entry} {key : String} {sp : Json.Spelling} {n : Json.Node}
    (h : e.IsName key) (hkey : sp.read = .ok key.toList) (hn : e.Denotes n) :
    Lays shape.member (sp, n) e.laid := by
  intro p seen hseen
  have hset := setNode_of_denotes hn p
  have hlift : shape.lift sp.read = .ok key.toList := by
    rw [hkey]
    rfl
  have hfield : shape.field? key = some e.field := ofName?_of_isName h
  have hnode : shape.set e.field n p = setNode e.field n p := rfl
  simp only [Entry.laid] at hseen
  simp only [Json.Shape.member, hlift, String.ofList_toList, hfield, hseen, hnode, ↓reduceIte, bind,
    Except.bind, pure, Except.pure]
  rw [← toOption_setText, ← hset]
  cases setNode e.field n p <;> rfl

/-- A body that is a value and nothing more carries what the value holds. -/
theorem ofJson_of_document {body : Bytes} {n : Json.Node}
    (h : Json.Document.ofBytes body = ⟨n, false⟩) : ofJson body = shape.ofNode {} n := by
  unfold ofJson Json.Shape.read
  rw [h]
  simp only [bind, Except.bind, pure, Except.pure]
  cases shape.ofNode {} n <;> rfl

/-- A body carries the values that it was written for, laid one after the other. -/
theorem ofJson_written {es : List Entry} {body : Bytes} (h : BodyText es body)
    (hnodup : (es.map Entry.field).Nodup) :
    (ofJson body).toOption = (es.map Entry.laid).foldlM lay {} := by
  obtain ⟨members, record⟩ := h
  rename_i parts cs
  obtain ⟨ms, hparts, hlays⟩ : ∃ ms : List (Json.Spelling × Json.Node),
      List.Forall₂ (fun part m => ∃ ts, Json.SpellsBefore part ts ∧ Json.BuildsMember ts m)
        parts ms ∧ List.Forall₂ (Lays shape.member) ms (es.map Entry.laid) := by
    clear hnodup record
    induction members with
    | nil => exact ⟨[], .nil, .nil⟩
    | cons hfirst _ ih =>
      obtain ⟨key, hname, hmember⟩ := hfirst
      obtain ⟨sp, n, hkey, hn, hbuilds⟩ := hmember.spells fun _ hv => Entry.JsonText.spells hv
      obtain ⟨ms, hparts, hlays⟩ := ih
      exact ⟨(sp, n) :: ms, .cons hbuilds hparts, .cons (lays_member hname hkey hn) hlays⟩
  rw [← foldlM_lays hlays (by rwa [List.map_map]) fun _ _ => List.not_mem_nil,
    ofJson_of_document (record.written hparts).document]
  simp only [Json.Shape.ofNode, bind, Except.bind]
  cases ms.foldlM shape.member ({}, []) <;> rfl

/-- A record has a brace and is therefore not blank. -/
theorem BodyText.not_blank {es : List Entry} {body : Bytes} (h : BodyText es body) :
    ¬ BlankBody body := by
  obtain ⟨-, record⟩ := h
  obtain ⟨-, -, -⟩ := record
  intro hblank
  refine absurd (hblank 0x7B ?_) (by decide)
  rw [Text.encode_append, Text.encode_cons]
  exact List.mem_append_right _ (List.mem_append_left _ (by decide))

/-! ## Two forms of the same values -/

/-- The values of a payload as a page has them: texts, and an integer for the code of a bot. -/
structure Raw where
  path : Option String := none
  title : Option String := none
  referrer : Option String := none
  query : Option String := none
  event : Option String := none
  size : Option String := none
  bot : Option Int64 := none

namespace Raw

/-- The values that are given. -/
def entries (g : Raw) : List Entry :=
  (g.path.map (.text .path · (by decide))).toList ++
    ((g.title.map (.text .title · (by decide))).toList ++
      ((g.referrer.map (.text .referrer · (by decide))).toList ++
        ((g.query.map (.text .query · (by decide))).toList ++
          ((g.event.map (.text .event · (by decide))).toList ++
            ((g.size.map (.text .size · (by decide))).toList ++ (g.bot.map .bot).toList)))))

/-- The payload that the values make, if the event is a flag and the size is one. -/
def payload? (g : Raw) : Option Payload := do
  let event ← g.event.mapM fun s => (flagOfText s).toOption
  let size ← g.size.mapM fun s => (sizeOfText s).toOption
  return ⟨g.path, g.title, g.referrer, g.query, event, size, g.bot.map (·.toInt)⟩

/-- The query lists the values, in any order. -/
def AsQuery (g : Raw) (query : Bytes) : Prop := ∃ es, es.Perm g.entries ∧ QueryText es query

/-- The body is a record of the values, in any order. -/
def AsBody (g : Raw) (body : Bytes) : Prop := ∃ es, es.Perm g.entries ∧ BodyText es body

/-- No field is given twice. -/
theorem nodup_fields (g : Raw) : (g.entries.map Entry.field).Nodup := by
  have hgiven {α : Type} (o : Option α) (e : α → Entry) (f : Field) (h : ∀ x, (e x).field = f) :
      ((o.map e).toList.map Entry.field).Sublist [f] := by
    cases o with
    | none => exact List.nil_sublist _
    | some x => simp [h]
  have hall : (g.entries.map Entry.field).Sublist Field.all := by
    simp only [entries, List.map_append]
    exact (hgiven g.path _ .path fun _ => rfl).append <|
      (hgiven g.title _ .title fun _ => rfl).append <|
      (hgiven g.referrer _ .referrer fun _ => rfl).append <|
      (hgiven g.query _ .query fun _ => rfl).append <|
      (hgiven g.event _ .event fun _ => rfl).append <|
      (hgiven g.size _ .size fun _ => rfl).append (hgiven g.bot _ .bot fun _ => rfl)
  exact hall.nodup (by decide)

/-- A value that may be given is set if it is, and if it can be read. -/
theorem elim_setText {α β : Type} {f : Field} {word : α → String} {read : α → Option β}
    {set : Option β → Payload} {p : Payload} (o : Option α)
    (hsome : ∀ x, (setText f (word x) p).toOption = (read x).map fun y => set (some y))
    (hnone : set none = p) :
    o.elim (some p) (fun x => (setText f (word x) p).toOption) = (o.mapM read).map set := by
  cases o with
  | none => exact congrArg some hnone.symm
  | some x =>
    rw [Option.elim_some, hsome]
    cases h : read x <;> simp [h]

/-- Laid one after the other, the values make their payload. -/
theorem foldlM_entries (g : Raw) : (g.entries.map Entry.laid).foldlM lay {} = g.payload? := by
  have hgiven {α : Type} (o : Option α) (e : α → Entry) (p : Payload) :
      ((o.map e).toList.map Entry.laid).foldlM lay p =
        o.elim (some p) fun x => (setText (e x).field (e x).word p).toOption := by
    cases o with
    | none => rfl
    | some x =>
      rw [Option.elim_some, toOption_setText]
      simp
  have hpath (o : Option String) (p : Payload) :
      o.elim (some p) (fun s => (setText .path s p).toOption) =
        (o.mapM some).map fun x => { p with path := x.or p.path } :=
    elim_setText o (fun _ => rfl) rfl
  have htitle (o : Option String) (p : Payload) :
      o.elim (some p) (fun s => (setText .title s p).toOption) =
        (o.mapM some).map fun x => { p with title := x.or p.title } :=
    elim_setText o (fun _ => rfl) rfl
  have hreferrer (o : Option String) (p : Payload) :
      o.elim (some p) (fun s => (setText .referrer s p).toOption) =
        (o.mapM some).map fun x => { p with referrer := x.or p.referrer } :=
    elim_setText o (fun _ => rfl) rfl
  have hquery (o : Option String) (p : Payload) :
      o.elim (some p) (fun s => (setText .query s p).toOption) =
        (o.mapM some).map fun x => { p with query := x.or p.query } :=
    elim_setText o (fun _ => rfl) rfl
  have hevent (o : Option String) (p : Payload) :
      o.elim (some p) (fun s => (setText .event s p).toOption) =
        (o.mapM fun s => (flagOfText s).toOption).map fun x => { p with event := x.or p.event } :=
    elim_setText o (fun s => by simp only [setText]; cases flagOfText s <;> rfl) rfl
  have hsize (o : Option String) (p : Payload) :
      o.elim (some p) (fun s => (setText .size s p).toOption) =
        (o.mapM fun s => (sizeOfText s).toOption).map fun x => { p with size := x.or p.size } :=
    elim_setText o (fun s => by simp only [setText]; cases sizeOfText s <;> rfl) rfl
  have hbot (o : Option Int64) (p : Payload) :
      o.elim (some p) (fun n => (setText .bot (toString n.toInt) p).toOption) =
        (o.mapM fun n => some n.toInt).map fun x => { p with bot := x.or p.bot } :=
    elim_setText o (fun n => by
      simp only [setText, Numeric.readInt64_toString n.le_toInt n.toInt_lt]
      rfl) rfl
  have hsome {α : Type} (o : Option α) : o.mapM some = some o := by cases o <;> rfl
  have hcode (o : Option Int64) : o.mapM (fun n => some n.toInt) = some (o.map (·.toInt)) := by
    cases o <;> rfl
  simp only [entries, List.map_append, List.foldlM_append, hgiven, Entry.field, Entry.word, hpath,
    htitle, hreferrer, hquery, hevent, hsize, hbot, hsome, hcode, Option.map_some,
    Option.bind_eq_bind, Option.bind_some, Option.or_none, payload?]
  cases g.event.mapM fun s => (flagOfText s).toOption with
  | none => rfl
  | some event =>
    cases g.size.mapM fun s => (sizeOfText s).toOption with
    | none => rfl
    | some size => simp

variable {g : Raw} {es : List Entry}

theorem nodup_of_perm (h : es.Perm g.entries) : (es.map Entry.field).Nodup :=
  (h.map Entry.field).nodup_iff.mpr g.nodup_fields

/-- So they do in any other order. -/
theorem foldlM_of_perm (h : es.Perm g.entries) :
    (es.map Entry.laid).foldlM lay {} = g.payload? := by
  rw [← g.foldlM_entries]
  refine foldlM_lay_perm (h.map Entry.laid) ?_ {}
  rw [List.map_map]
  exact nodup_of_perm h

/-- A query that lists the values carries their payload. -/
theorem AsQuery.ofQuery {query : Bytes} (h : g.AsQuery query) :
    (Payload.ofQuery query).toOption = g.payload? := by
  obtain ⟨es, hperm, hquery⟩ := h
  rw [ofQuery_written hquery (nodup_of_perm hperm), foldlM_of_perm hperm]

/-- A body that is a record of the values carries their payload. -/
theorem AsBody.ofJson {body : Bytes} (h : g.AsBody body) :
    (Payload.ofJson body).toOption = g.payload? := by
  obtain ⟨es, hperm, hbody⟩ := h
  rw [ofJson_written hbody (nodup_of_perm hperm), foldlM_of_perm hperm]

end Raw

/-- A payload that is laid on top of nothing is the payload. -/
theorem empty_overlay (p : Payload) : ({} : Payload).overlay p = p := by
  simp [overlay]

theorem ok_of_toOption {ε α : Type} {x : Except ε α} {a : α} (h : x.toOption = some a) :
    x = .ok a := by
  cases x with
  | error e => cases h
  | ok b => exact congrArg Except.ok (Option.some.inj h)

theorem error_of_toOption {ε α : Type} {x : Except ε α} (h : x.toOption = none) :
    ∃ e, x = .error e := by
  cases x with
  | error e => exact ⟨e, rfl⟩
  | ok b => cases h

theorem bind_eq_ok {ε α β : Type} {x : Except ε α} {g : α → Except ε β} {b : β} :
    x >>= g = .ok b ↔ ∃ a, x = .ok a ∧ g a = .ok b := by
  cases x with
  | error e => exact ⟨(nomatch ·), fun ⟨_, h, _⟩ => nomatch h⟩
  | ok a => exact ⟨fun h => ⟨a, rfl, h⟩, fun ⟨_, h, h'⟩ => Except.ok.inj h ▸ h'⟩

/-- **Two forms of the same values.** A request whose query lists some values and whose body is
empty, and a request without a query whose body is a record of the same values, carry the same
payload, which is what the values make, or neither carries one. -/
theorem query_eq_body (g : Raw) {query body : Bytes} (hquery : g.AsQuery query)
    (hbody : g.AsBody body) (host host' : Option String) (path path' : Bytes) :
    (∃ p, g.payload? = some p ∧ decode ⟨host, path, some query⟩ [] = .ok p ∧
      decode ⟨host', path', none⟩ body = .ok p) ∨
    (g.payload? = none ∧ (∃ e, decode ⟨host, path, some query⟩ [] = .error e) ∧
      ∃ e, decode ⟨host', path', none⟩ body = .error e) := by
  have hblank : ¬ BlankBody body := by
    obtain ⟨_, -, h⟩ := hbody
    exact h.not_blank
  have hempty : BlankBody [] := fun _ h => absurd h List.not_mem_nil
  have hleft : (decode ⟨host, path, some query⟩ []).toOption = g.payload? := by
    rw [decode_blank hempty, ofTarget_some _ rfl, hquery.ofQuery]
  have hright : (decode ⟨host', path', none⟩ body).toOption = g.payload? := by
    rw [decode_both rfl hblank, ← hbody.ofJson]
    cases ofJson body with
    | error => rfl
    | ok p => exact congrArg some (empty_overlay p)
  cases hp : g.payload? with
  | some p =>
    exact .inl ⟨p, rfl, ok_of_toOption (hleft.trans hp), ok_of_toOption (hright.trans hp)⟩
  | none =>
    exact .inr ⟨rfl, error_of_toOption (hleft.trans hp), error_of_toOption (hright.trans hp)⟩

/-- A path beyond ASCII, a flag and a negative code. -/
def rawSample : Raw := { path := some "é", event := some "1", bot := some (-3) }

/-- A query that lists them. -/
def querySample : Bytes :=
  List.intercalate [0x26] [encode "b=-3".toList, encode "p=%C3%a9".toList, encode "e=1".toList]

/-- A body that is a record of them. -/
def bodySample : Bytes :=
  encode ('\x7b' :: (List.intercalate [',']
    ["\"e\":\"1\"".toList, " \"p\" :\"\\u00e9\"".toList, "\"b\":-3".toList] ++ ['\x7d']))

/-- Values that are written in one order as a query, and in another one as a body. -/
theorem query_eq_body_sample : rawSample.AsQuery querySample ∧ rawSample.AsBody bodySample ∧
    ∃ p, rawSample.payload? = some p ∧ decode ⟨none, [], some querySample⟩ [] = .ok p ∧
      decode ⟨none, [], none⟩ bodySample = .ok p := by
  have hplain (b : UInt8) (h : b ≠ 0x25 ∧ b ≠ 0x26 ∧ b ≠ 0x2B) : Http.FormByte b [b] :=
    .plain h.1 h.2.1 h.2.2
  have hpath : Http.FormPair ("p".toList, "é".toList) (encode "p=%C3%a9".toList) :=
    .mk (k := [0x70]) (v := [0x25, 0x43, 0x33, 0x25, 0x61, 0x39])
      (.cons (hplain 0x70 (by decide)) .nil)
      (.cons (.number (h := 12) (l := 3) rfl rfl) <|
        .cons (.number (h := 10) (l := 9) rfl rfl) .nil)
  have hevent : Http.FormPair ("e".toList, "1".toList) (encode "e=1".toList) :=
    .mk (k := [0x65]) (v := [0x31]) (.cons (hplain 0x65 (by decide)) .nil)
      (.cons (hplain 0x31 (by decide)) .nil)
  have hbot : Http.FormPair ("b".toList, "-3".toList) (encode "b=-3".toList) :=
    .mk (k := [0x62]) (v := [0x2D, 0x33]) (.cons (hplain 0x62 (by decide)) .nil)
      (.cons (hplain 0x2D (by decide)) <| .cons (hplain 0x33 (by decide)) .nil)
  have hpairs : List.Forall₂ (fun e part => ∃ key, Entry.IsName e key ∧
      Http.FormPair (key.toList, e.word.toList) part)
      [.bot (-3), .text .path "é" (by decide), .text .event "1" (by decide)]
      [encode "b=-3".toList, encode "p=%C3%a9".toList, encode "e=1".toList] :=
    .cons ⟨"b", .inl rfl, hbot⟩ <| .cons ⟨"p", .inl rfl, hpath⟩ <|
      .cons ⟨"e", .inl rfl, hevent⟩ .nil
  have hquery : rawSample.AsQuery querySample :=
    ⟨_, (List.perm_append_comm : ([Entry.bot (-3)] ++ [_, _]).Perm _), .mk hpairs⟩
  have hblank : Json.Blank [] := fun _ h => absurd h List.not_mem_nil
  have hspace : Json.Blank [' '] := List.forall_mem_singleton.mpr (by decide)
  have hnumber : Json.FourDigits "00e9".toList 'é'.toNat := ⟨by decide, by decide⟩
  have hname (c : Char) (h : 0x20 ≤ c.toNat ∧ c ≠ '"' ∧ c ≠ '\\') :
      Json.StringText [c] ['"', c, '"'] := .mk (.cons (.plain h.1 h.2.1 h.2.2) .nil)
  have hpath' : Json.MemberText "p".toList (Json.StringText "é".toList)
      " \"p\" :\"\\u00e9\"".toList :=
    .mk (a := [' ']) (k := ['"', 'p', '"']) (b := [' ']) (c := []) (d := []) hspace
      (hname 'p' (by decide)) hspace hblank
      (show Json.StringText "é".toList "\"\\u00e9\"".toList from .mk (.cons (.unit hnumber) .nil))
      hblank
  have hevent' : Json.MemberText "e".toList (Json.StringText "1".toList) "\"e\":\"1\"".toList :=
    .mk (a := []) (b := []) (c := []) (d := []) hblank (hname 'e' (by decide)) hblank hblank
      (hname '1' (by decide)) hblank
  have hbot' : Json.MemberText "b".toList (Entry.bot (-3)).JsonText "\"b\":-3".toList :=
    .mk (a := []) (b := []) (c := []) (d := []) hblank (hname 'b' (by decide)) hblank hblank
      (show (Entry.bot (-3)).JsonText "-3".toList from rfl) hblank
  have hmembers : List.Forall₂ (fun e part => ∃ key, Entry.IsName e key ∧
      Json.MemberText key.toList e.JsonText part)
      [.text .event "1" (by decide), .text .path "é" (by decide), .bot (-3)]
      ["\"e\":\"1\"".toList, " \"p\" :\"\\u00e9\"".toList, "\"b\":-3".toList] :=
    .cons ⟨"e", .inl rfl, hevent'⟩ <| .cons ⟨"p", .inl rfl, hpath'⟩ <|
      .cons ⟨"b", .inl rfl, hbot'⟩ .nil
  have hbody : rawSample.AsBody bodySample :=
    ⟨_, .swap _ _ _, .mk hmembers (.mk (a := []) (b := []) (c := []) hblank hblank hblank)⟩
  refine ⟨hquery, hbody, ?_⟩
  obtain ⟨p, hp⟩ | ⟨hnone, -⟩ := query_eq_body rawSample hquery hbody none none [] []
  · exact ⟨p, hp⟩
  · exact absurd hnone (by decide)

end Payload

end HitCounter
