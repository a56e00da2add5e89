import HitCounter.Proofs.Hit.Payload
import HitCounter.Proofs.Json.Value
import Mathlib.Logic.Relation

/-!
# Members of a body

A body is a record, whose members are keys with values, or a list of the values alone.

- **Members** (`Payload.ObjectText.toOption_ofJson`): a body is read one member after the other. A
  key that names a field lays its value, once, and any other key is passed over.
- **Edits** (`Payload.Edit`): members may be put into another order, named otherwise, and joined by
  members that say nothing.
- **Lists** (`Payload.ArrayText.toOption_ofJson`): a list gives the values in the order of fields.
- **One payload** (`Payload.ofJson_decided`): edits and the form of a list leave the payload as it
  is, and a field that is named twice spoils it.
-/

namespace HitCounter.Payload

open Text (Bytes encode)
open Json (IsValue nodeOf)

/-! ## Members -/

/-- The key is one of the names of the field. -/
def IsName (key : String) (f : Field) : Prop := key = f.short ∨ key = f.long

instance : DecidableRel IsName := fun _ _ => inferInstanceAs (Decidable (_ ∨ _))

theorem ofName?_eq_some_iff {key : String} {f : Field} :
    Field.ofName? key = some f ↔ IsName key f := by
  constructor
  · intro h
    have hname := List.find?_some h
    rw [Bool.or_eq_true, beq_iff_eq, beq_iff_eq] at hname
    exact hname.imp Eq.symm Eq.symm
  · rintro (rfl | rfl) <;> cases f <;> decide

/-- A member of a record: its key, which is a text, and its value as it is written. -/
structure Member where
  key : String
  value : List Char

/-- What is laid for a value of the field. -/
def entry (f : Field) (value : List Char) : Field × Option Payload :=
  (f, (setNode f (nodeOf value) {}).toOption)

namespace Member

/-- The field that the key names. -/
def field? (m : Member) : Option Field := Field.ofName? m.key

/-- What is laid for the member, if its key names a field. -/
def laid? (m : Member) : Option (Field × Option Payload) := m.field?.map (entry · m.value)

/-- One more member over a payload; none when its field was seen before, or its value is none of
that field. -/
def step? (state : Payload × List Field) (m : Member) : Option (Payload × List Field) :=
  match m.field? with
  | none => some state
  | some f =>
    if f ∈ state.2 then none else (lay state.1 (entry f m.value)).map (·, f :: state.2)

variable {m : Member} {f : Field}

theorem field?_eq_some_iff : m.field? = some f ↔ IsName m.key f := ofName?_eq_some_iff

theorem field?_eq_none_iff : m.field? = none ↔ ∀ f, ¬ IsName m.key f := by
  simp only [Option.eq_none_iff_forall_ne_some, ne_eq, field?_eq_some_iff]

theorem laid?_of_field (h : m.field? = some f) : m.laid? = some (entry f m.value) := by
  rw [laid?, h]
  rfl

theorem laid?_of_nameless (h : m.field? = none) : m.laid? = none := by
  rw [laid?, h]
  rfl

end Member

/-- A record with these members: keys with any escapes, and white space wherever it may stand. -/
inductive ObjectText (ms : List Member) : Bytes → Prop where
  | mk {parts : List (List Char)} {cs : List Char} (values : ∀ m ∈ ms, IsValue m.value)
    (members : List.Forall₂ (fun m part => Json.MemberText m.key.toList (· = m.value) part)
      ms parts)
    (record : Json.RecordText parts cs) : ObjectText ms (encode cs)

/-- Members are written as a record with them. -/
theorem objectText_jsonRecord {ms : List Member} (values : ∀ m ∈ ms, IsValue m.value) :
    ObjectText ms (encode (jsonRecord (ms.map fun m => (m.key, m.value)))) := by
  refine .mk values ?_ (Json.recordText_jsonRecord _)
  rw [List.map_map, List.forall₂_map_right_iff, List.forall₂_same]
  intro m _
  have hpart : jsonText m.key ++ ':' :: m.value =
      [] ++ jsonText m.key ++ [] ++ ':' :: ([] ++ m.value ++ []) := by simp
  rw [Function.comp, hpart]
  exact .mk Json.blank_nil (Json.stringText_jsonText m.key) Json.blank_nil Json.blank_nil rfl
    Json.blank_nil

variable {ms ms' : List Member} {m : Member} {body : Bytes} {p : Payload} {seen : List Field}

/-- Setting a field lays its value. -/
theorem toOption_setNode (f : Field) (n : Json.Node) (p : Payload) :
    (setNode f n p).toOption = lay p (f, (setNode f n {}).toOption) := by
  cases f with
  | path | title | referrer | query =>
    simp only [setNode, lay]
    cases optional Json.Node.readText n <;> rfl
  | event =>
    simp only [setNode, lay]
    cases checked n flagOfNode <;> rfl
  | size =>
    simp only [setNode, lay]
    cases checked n sizeOfNode <;> rfl
  | bot =>
    simp only [setNode, lay]
    cases optional Json.Node.readInt64 n <;> rfl

/-- A member as it is read: its key is the text that was written, and its value can be skipped. -/
structure Member.Reads (m : Member) (read : Json.Spelling × Json.Node) : Prop where
  key : read.1.read = .ok m.key.toList
  value : read.2 = nodeOf m.value
  skip : read.2.skip = .ok ()

/-- A member as it was read makes a step of the member that was written. -/
theorem Member.Reads.toOption_member {read : Json.Spelling × Json.Node} (h : m.Reads read)
    (state : Payload × List Field) : (shape.member state read).toOption = m.step? state := by
  have hlift : shape.lift read.1.read = .ok m.key.toList := by
    rw [h.key]
    rfl
  have hskip : shape.lift read.2.skip = .ok () := by
    rw [h.skip]
    rfl
  have hfield : shape.field? m.key = m.field? := rfl
  simp only [Json.Shape.member, hlift, String.ofList_toList, hfield, Member.step?, bind,
    Except.bind]
  cases m.field? with
  | none =>
    simp only [hskip]
    rfl
  | some f =>
    by_cases hf : f ∈ state.2
    · simp only [hf, ↓reduceIte]
      rfl
    · have hset : shape.set f read.2 state.1 = setNode f read.2 state.1 := rfl
      simp only [hf, ↓reduceIte, hset, pure, Except.pure, entry, ← h.value, ← toOption_setNode]
      cases setNode f read.2 state.1 <;> rfl

/-- A record is read as its members. -/
theorem ObjectText.document (h : ObjectText ms body) : ∃ parsed,
    List.Forall₂ Member.Reads ms parsed ∧
      Json.Document.ofBytes body = ⟨.record parsed none, false⟩ := by
  obtain ⟨values, members, record⟩ := h
  rename_i parts cs
  suffices ∃ parsed : List (Json.Spelling × Json.Node),
      List.Forall₂ (fun part m => ∃ ts, Json.SpellsBefore part ts ∧ Json.BuildsMember ts m)
        parts parsed ∧ List.Forall₂ Member.Reads ms parsed by
    obtain ⟨parsed, hparts, hreads⟩ := this
    exact ⟨parsed, hreads, (record.written hparts).document⟩
  clear record
  induction members with
  | nil => exact ⟨[], .nil, .nil⟩
  | @cons m _ _ _ hmember _ ih =>
    obtain ⟨hvalue, hvalues⟩ := List.forall_mem_cons.mp values
    obtain ⟨hskip, hts⟩ := hvalue.nodeOf
    obtain ⟨sp, n, hkey, rfl, hbuilds⟩ := hmember.spells (R := (· = nodeOf m.value))
      fun v hv => ⟨_, rfl, hv ▸ hts⟩
    obtain ⟨parsed, hparts, hreads⟩ := ih hvalues
    exact ⟨_ :: parsed, .cons hbuilds hparts, .cons ⟨hkey, rfl, hskip⟩ hreads⟩

/-- **A record** is read one member after the other. -/
theorem ObjectText.toOption_ofJson (h : ObjectText ms body) :
    (ofJson body).toOption = (ms.foldlM Member.step? ({}, [])).map (·.1) := by
  obtain ⟨parsed, hreads, hdocument⟩ := h.document
  have hfold (state : Payload × List Field) :
      (parsed.foldlM shape.member state).toOption = ms.foldlM Member.step? state := by
    clear h hdocument
    induction hreads generalizing state with
    | nil => rfl
    | @cons m read ms parsed hread _ ih =>
      rw [List.foldlM_cons, List.foldlM_cons, ← hread.toOption_member]
      cases shape.member state read with
      | error => rfl
      | ok state' => exact ih state'
  rw [← hfold, ofJson_of_document hdocument]
  simp only [Json.Shape.ofNode, bind, Except.bind]
  cases parsed.foldlM shape.member ({}, []) <;> rfl

/-- No two keys name the same field. -/
def Distinct (ms : List Member) : Prop :=
  ms.Pairwise fun m m' => ∀ f, ¬ (IsName m.key f ∧ IsName m'.key f)

/-- The fields that the keys name, in order. -/
def fields (ms : List Member) : List Field := ms.filterMap Member.field?

theorem mem_fields_iff {f : Field} : f ∈ fields ms ↔ ∃ m ∈ ms, IsName m.key f := by
  simp only [fields, List.mem_filterMap, Member.field?_eq_some_iff]

theorem distinct_iff : Distinct ms ↔ (fields ms).Nodup := by
  simp only [Distinct, fields, List.Nodup, List.pairwise_filterMap, Member.field?_eq_some_iff]
  refine List.Pairwise.iff fun m m' => ?_
  constructor
  · rintro h f hf f' hf' rfl
    exact h f ⟨hf, hf'⟩
  · rintro h f ⟨hf, hf'⟩
    exact h f hf f hf' rfl

/-- What the members make of the empty payload, if no field is named twice. -/
def laid (ms : List Member) : Option Payload := (ms.filterMap Member.laid?).foldlM lay {}

/-- Members whose fields are all new lay their values, one after the other. -/
theorem foldlM_step?_eq (hdistinct : (fields ms).Nodup) (hnew : ∀ f ∈ fields ms, f ∉ seen) :
    (ms.foldlM Member.step? (p, seen)).map (·.1) = (ms.filterMap Member.laid?).foldlM lay p := by
  induction ms generalizing p seen with
  | nil => rfl
  | cons m ms ih =>
    cases hf : m.field? with
    | none =>
      rw [fields, List.filterMap_cons_none hf] at hdistinct hnew
      rw [List.foldlM_cons, Member.step?, hf,
        List.filterMap_cons_none (Member.laid?_of_nameless hf)]
      exact ih hdistinct hnew
    | some f =>
      rw [fields, List.filterMap_cons_some hf] at hdistinct hnew
      rw [List.nodup_cons] at hdistinct
      rw [List.forall_mem_cons] at hnew
      have hstep : m.step? (p, seen) = (lay p (entry f m.value)).map (·, f :: seen) := by
        simp only [Member.step?, hf, hnew.1, ↓reduceIte]
      rw [List.foldlM_cons, hstep, List.filterMap_cons_some (Member.laid?_of_field hf),
        List.foldlM_cons]
      cases lay p (entry f m.value) with
      | none => rfl
      | some q =>
        refine ih hdistinct.2 fun f' hf' => ?_
        rw [List.mem_cons, not_or]
        exact ⟨fun heq => hdistinct.1 (heq ▸ hf'), hnew.2 f' hf'⟩

/-- If something is left after the members, no field was named twice. -/
theorem nodup_of_foldlM_step? {state : Payload × List Field}
    (h : ms.foldlM Member.step? (p, seen) = some state) :
    (fields ms).Nodup ∧ ∀ f ∈ fields ms, f ∉ seen := by
  induction ms generalizing p seen with
  | nil => exact ⟨List.nodup_nil, fun _ hf => absurd hf List.not_mem_nil⟩
  | cons m ms ih =>
    rw [List.foldlM_cons, Option.bind_eq_bind, Option.bind_eq_some_iff] at h
    obtain ⟨⟨q, seen'⟩, hstep, hmore⟩ := h
    obtain ⟨hnodup, hnew⟩ := ih hmore
    cases hf : m.field? with
    | none =>
      obtain ⟨rfl, rfl⟩ : p = q ∧ seen = seen' := by simpa [Member.step?, hf] using hstep
      rw [fields, List.filterMap_cons_none hf]
      exact ⟨hnodup, hnew⟩
    | some f =>
      obtain ⟨hnot, -, rfl⟩ : f ∉ seen ∧ lay p (entry f m.value) = some q ∧ f :: seen = seen' := by
        simpa [Member.step?, hf] using hstep
      rw [fields, List.filterMap_cons_some hf]
      refine ⟨List.nodup_cons.mpr ⟨fun hmem => hnew f hmem List.mem_cons_self, hnodup⟩, ?_⟩
      rw [List.forall_mem_cons]
      exact ⟨hnot, fun f' hf' hseen => hnew f' hf' (List.mem_cons_of_mem f hseen)⟩

/-- A record that names no field twice carries what its members make. -/
theorem ObjectText.toOption_ofJson_distinct (h : ObjectText ms body) (hdistinct : Distinct ms) :
    (ofJson body).toOption = laid ms := by
  rw [h.toOption_ofJson]
  exact foldlM_step?_eq (distinct_iff.mp hdistinct) fun _ _ => List.not_mem_nil

/-- A record that names a field twice carries no payload. -/
theorem ObjectText.error_of_not_distinct (h : ObjectText ms body) (htwice : ¬ Distinct ms) :
    ∃ e, ofJson body = .error e := by
  refine error_of_toOption ?_
  rw [h.toOption_ofJson, Option.map_eq_none_iff, Option.eq_none_iff_forall_ne_some]
  exact fun state hstate => htwice (distinct_iff.mpr (nodup_of_foldlM_step? hstate).1)

/-! ## Edits -/

/-- An edit of a record that leaves its payload as it is. After a change of order, a member that is
edited may stand anywhere. -/
inductive Edit : List Member → List Member → Prop where
  | permute {ms ms' : List Member} (order : ms.Perm ms') : Edit ms ms'
  /-- The other name of a field. -/
  | rename {ms : List Member} {key key' : String} {value : List Char} {f : Field}
    (name : IsName key f) (name' : IsName key' f) :
    Edit (⟨key, value⟩ :: ms) (⟨key', value⟩ :: ms)
  /-- A member whose key names no field, with any value. -/
  | unknown {ms : List Member} {m : Member} (nameless : ∀ f, ¬ IsName m.key f) : Edit ms (m :: ms)
  /-- A member that says that a field is absent, which it is. -/
  | absent {ms : List Member} {key : String} {f : Field} (name : IsName key f)
    (missing : ∀ m ∈ ms, ¬ IsName m.key f) : Edit ms (⟨key, "null".toList⟩ :: ms)

theorem nodeOf_null : nodeOf "null".toList = .null :=
  Json.nodeOf_eq (Json.spells_word .null).before (Json.builds_word .null)

/-- Where nothing is given, the word `null` lays nothing. -/
theorem lay_null (f : Field) : lay {} (entry f "null".toList) = some {} := by
  unfold lay entry
  rw [nodeOf_null]
  cases f <;> rfl

/-- What is laid, is laid in the fields that are named. -/
theorem map_fst_laid? (ms : List Member) : (ms.filterMap Member.laid?).map (·.1) = fields ms := by
  rw [List.map_filterMap, fields]
  refine List.filterMap_congr fun m _ => ?_
  rw [Member.laid?, Option.map_map]
  exact Option.map_id'

/-- An edit keeps the fields distinct, and what the members make. -/
theorem Edit.laid_eq (h : Edit ms ms') :
    (Distinct ms ↔ Distinct ms') ∧ (Distinct ms → laid ms = laid ms') := by
  rw [distinct_iff, distinct_iff]
  have hnamed {key : String} {f : Field} (value : List Char) (hkey : IsName key f) :
      Member.field? ⟨key, value⟩ = some f ∧ Member.laid? ⟨key, value⟩ = some (entry f value) :=
    have hfield := Member.field?_eq_some_iff.mpr hkey
    ⟨hfield, Member.laid?_of_field hfield⟩
  cases h with
  | permute order =>
    refine ⟨(order.filterMap _).nodup_iff, fun hdistinct => ?_⟩
    refine foldlM_lay_perm (order.filterMap _) ?_ {}
    rwa [map_fst_laid?]
  | @rename ms key key' value f name name' =>
    obtain ⟨hfield, hentry⟩ := hnamed value name
    obtain ⟨hfield', hentry'⟩ := hnamed value name'
    simp only [fields, laid, List.filterMap_cons_some hfield, List.filterMap_cons_some hfield',
      List.filterMap_cons_some hentry, List.filterMap_cons_some hentry', implies_true, and_self]
  | @unknown _ m nameless =>
    have hfield := Member.field?_eq_none_iff.mpr nameless
    have hentry := Member.laid?_of_nameless hfield
    simp only [fields, laid, List.filterMap_cons_none hfield, List.filterMap_cons_none hentry,
      implies_true, and_self]
  | @absent _ key f name missing =>
    obtain ⟨hfield, hentry⟩ := hnamed "null".toList name
    have hnew : f ∉ fields ms := fun hf =>
      have ⟨m, hm, hname⟩ := mem_fields_iff.mp hf
      missing m hm hname
    constructor
    · rw [fields, fields, List.filterMap_cons_some hfield, List.nodup_cons]
      exact (and_iff_right hnew).symm
    · intro
      rw [laid, laid, List.filterMap_cons_some hentry, List.foldlM_cons, lay_null]
      rfl

/-- So do any number of edits, made or undone. -/
theorem laid_eq_of_edits (h : Relation.EqvGen Edit ms ms') :
    (Distinct ms ↔ Distinct ms') ∧ (Distinct ms → laid ms = laid ms') := by
  induction h with
  | rel _ _ edit => exact edit.laid_eq
  | refl _ => exact ⟨Iff.rfl, fun _ => rfl⟩
  | symm _ _ _ ih => exact ⟨ih.1.symm, fun hdistinct => (ih.2 (ih.1.mpr hdistinct)).symm⟩
  | trans _ _ _ _ _ ih ih' =>
    exact ⟨ih.1.trans ih'.1, fun hdistinct => (ih.2 hdistinct).trans (ih'.2 (ih.1.mp hdistinct))⟩

/-! ## Lists -/

/-- A list of values, with white space wherever it may stand. -/
inductive ArrayText (values : List (List Char)) : Bytes → Prop where
  | mk {parts : List (List Char)} {cs : List Char} (items : ∀ v ∈ values, IsValue v)
    (padded : List.Forall₂ Json.Padded values parts) (list : Json.ListText parts cs) :
    ArrayText values (encode cs)

/-- The value of a field among members, `null` if no key names it. -/
def valueOf (ms : List Member) (f : Field) : List Char :=
  ((ms.find? (IsName ·.key f)).map (·.value)).getD "null".toList

/-- Values in the order of fields are laid in these fields. -/
theorem toOption_items (fs : List Field) (values : List (List Char))
    (hlength : values.length ≤ fs.length) (p : Payload) :
    (shape.items fs (values.map nodeOf) none p).toOption =
      (fs.zipWith entry values).foldlM lay p := by
  induction fs generalizing values p with
  | nil =>
    obtain rfl := List.length_eq_zero_iff.mp (Nat.le_zero.mp hlength)
    rfl
  | cons f fs ih =>
    cases values with
    | nil => rfl
    | cons v values =>
      have hset : (shape.set f (nodeOf v) p).toOption = lay p (entry f v) :=
        toOption_setNode f (nodeOf v) p
      rw [List.zipWith_cons_cons, List.foldlM_cons, ← hset]
      simp only [List.map_cons, Json.Shape.items, bind, Except.bind]
      cases shape.set f (nodeOf v) p with
      | error => rfl
      | ok q => exact ih values (Nat.le_of_succ_le_succ hlength) q

/-- A list is read as its items. -/
theorem ArrayText.document {values : List (List Char)} (h : ArrayText values body) :
    Json.Document.ofBytes body = ⟨.list (values.map nodeOf) none, false⟩ := by
  obtain ⟨items, padded, list⟩ := h
  rename_i parts cs
  have hparts : List.Forall₂ (fun part n => ∃ ts, Json.SpellsBefore part ts ∧ Json.Builds ts n)
      parts (values.map nodeOf) := by
    clear list
    induction padded with
    | nil => exact .nil
    | @cons v part values parts hpadded _ ih =>
      obtain ⟨hv, hvalues⟩ := List.forall_mem_cons.mp items
      obtain ⟨-, ts, hts, hbuilds⟩ := hv.nodeOf
      exact .cons ⟨ts, hpadded.spellsBefore hts, hbuilds⟩ (ih hvalues)
  exact (list.written hparts).document

/-- **A list** of at most as many values as there are fields is read one value after the other. -/
theorem ArrayText.toOption_ofJson {values : List (List Char)} (h : ArrayText values body)
    (hlength : values.length ≤ Field.all.length) :
    (ofJson body).toOption = (Field.all.zipWith entry values).foldlM lay {} := by
  rw [← toOption_items Field.all values hlength, ofJson_of_document h.document]
  rfl

theorem zipWith_take {α β γ : Type} (f : α → β → γ) (g : α → β) (xs : List α) (k : Nat) :
    xs.zipWith f ((xs.take k).map g) = (xs.take k).map fun x => f x (g x) := by
  induction xs generalizing k with
  | nil => rw [List.take_nil, List.map_nil, List.map_nil, List.zipWith_nil_left]
  | cons x xs ih =>
    cases k with
    | zero => rfl
    | succ k => simp only [List.take_succ_cons, List.map_cons, List.zipWith_cons_cons, ih]

/-- A field that is named has the value of the only member that names it. -/
theorem valueOf_of_mem (hdistinct : Distinct ms) (hm : m ∈ ms) {f : Field}
    (hf : IsName m.key f) : valueOf ms f = m.value := by
  induction ms with
  | nil => exact absurd hm List.not_mem_nil
  | cons m' ms ih =>
    obtain ⟨hother, hdistinct⟩ := List.pairwise_cons.mp hdistinct
    by_cases hf' : IsName m'.key f
    · obtain rfl | hm := List.mem_cons.mp hm
      · simp [valueOf, hf']
      · exact absurd ⟨hf', hf⟩ (hother m hm f)
    · obtain rfl | hm := List.mem_cons.mp hm
      · exact absurd hf hf'
      · rw [← ih hdistinct hm]
        simp [valueOf, hf']

theorem valueOf_of_notMem {f : Field} (hf : f ∉ fields ms) : valueOf ms f = "null".toList := by
  have hfind : ms.find? (IsName ·.key f) = none := by
    rw [List.find?_eq_none]
    intro m hm hname
    exact hf (mem_fields_iff.mpr ⟨m, hm, of_decide_eq_true hname⟩)
  rw [valueOf, hfind]
  rfl

/-- What the members lay is what the values of the named fields lay. -/
theorem filterMap_laid? (hdistinct : Distinct ms) :
    ms.filterMap Member.laid? = (fields ms).map fun f => entry f (valueOf ms f) := by
  rw [fields, List.map_filterMap]
  refine List.filterMap_congr fun m hm => ?_
  rw [Member.laid?]
  cases hf : m.field? with
  | none => rfl
  | some f =>
    rw [Option.map_some, Option.map_some,
      valueOf_of_mem hdistinct hm (Member.field?_eq_some_iff.mp hf)]

/-- Fields that no key names lay nothing. -/
theorem foldlM_missing {missing : List Field} (h : ∀ f ∈ missing, f ∉ fields ms) :
    (missing.map fun f => entry f (valueOf ms f)).foldlM lay {} = some {} := by
  induction missing with
  | nil => rfl
  | cons f missing ih =>
    obtain ⟨hf, hmore⟩ := List.forall_mem_cons.mp h
    rw [List.map_cons, List.foldlM_cons, valueOf_of_notMem hf, lay_null]
    exact ih hmore

/-- The first fields are those that are named, and others, if no field after them is named. -/
theorem take_perm (hdistinct : Distinct ms) {k : Nat}
    (hmissing : ∀ f ∈ Field.all.drop k, f ∉ fields ms) :
    (Field.all.take k).Perm ((Field.all.take k).filter (fun f => !decide (f ∈ fields ms)) ++
      fields ms) := by
  have hall (f : Field) : f ∈ Field.all := by cases f <;> decide
  have hnodup : (Field.all.take k).Nodup := (List.take_sublist k _).nodup (by decide)
  have hnamed : ((Field.all.take k).filter (· ∈ fields ms)).Perm (fields ms) := by
    rw [List.perm_ext_iff_of_nodup (hnodup.filter _) (distinct_iff.mp hdistinct)]
    intro f
    have htake (hf : f ∈ fields ms) : f ∈ Field.all.take k := by
      have hf' := hall f
      rw [← List.take_append_drop k Field.all, List.mem_append] at hf'
      exact hf'.resolve_right fun hdrop => hmissing f hdrop hf
    simpa using htake
  exact (List.filter_append_perm (· ∈ fields ms) _).symm.trans
    (List.perm_append_comm.trans (hnamed.append_left _))

/-- The values in the order of fields make what the members make, if all fields that are named are
among these. -/
theorem foldlM_take (hdistinct : Distinct ms) {k : Nat}
    (hmissing : ∀ f ∈ Field.all.drop k, f ∉ fields ms) :
    ((Field.all.take k).map fun f => entry f (valueOf ms f)).foldlM lay {} = laid ms := by
  have hkeys : (((Field.all.take k).map fun f => entry f (valueOf ms f)).map (·.1)).Nodup := by
    rw [List.map_map, show (·.1) ∘ (fun f => entry f (valueOf ms f)) = id from rfl, List.map_id]
    exact (List.take_sublist k _).nodup (by decide)
  have hothers : ∀ f ∈ (Field.all.take k).filter (fun f => !decide (f ∈ fields ms)),
      f ∉ fields ms := fun f hf => by simpa using (List.mem_filter.mp hf).2
  -- The fields that are not named may be laid first, where they lay nothing.
  rw [foldlM_lay_perm ((take_perm hdistinct hmissing).map _) hkeys, List.map_append,
    List.foldlM_append, foldlM_missing hothers, laid, filterMap_laid? hdistinct]
  rfl

/-- **One payload.** Records that name no field twice and differ by edits carry the same payload, or
neither carries one. So do such a record and the list of its values, with `null` for what is absent
and with no more than what is absent missing at its end. A record that names a field twice carries
no payload, whatever the values are. -/
theorem ofJson_decided :
    (∀ ms ms' body body', Distinct ms → Relation.EqvGen Edit ms ms' → ObjectText ms body →
      ObjectText ms' body' → (ofJson body).toOption = (ofJson body').toOption) ∧
    (∀ ms k body body', Distinct ms → (∀ f ∈ Field.all.drop k, ∀ m ∈ ms, ¬ IsName m.key f) →
      ObjectText ms body → ArrayText ((Field.all.take k).map (valueOf ms)) body' →
      (ofJson body).toOption = (ofJson body').toOption) ∧
    ∀ ms body, ¬ Distinct ms → ObjectText ms body → ∃ e, ofJson body = .error e := by
  refine ⟨fun ms ms' body body' hdistinct hedits h h' => ?_,
    fun ms k body body' hdistinct hmissing h h' => ?_, fun ms body htwice h =>
      h.error_of_not_distinct htwice⟩
  · obtain ⟨hiff, hlaid⟩ := laid_eq_of_edits hedits
    rw [h.toOption_ofJson_distinct hdistinct, h'.toOption_ofJson_distinct (hiff.mp hdistinct),
      hlaid hdistinct]
  · have hlength : ((Field.all.take k).map (valueOf ms)).length ≤ Field.all.length := by
      rw [List.length_map]
      exact List.length_take_le' k Field.all
    have hmissing' : ∀ f ∈ Field.all.drop k, f ∉ fields ms := fun f hf hmem =>
      have ⟨m, hm, hname⟩ := mem_fields_iff.mp hmem
      hmissing f hf m hm hname
    rw [h.toOption_ofJson_distinct hdistinct, h'.toOption_ofJson hlength, zipWith_take,
      foldlM_take hdistinct hmissing']

/-- A path under its long name, and a member whose key is unknown. -/
def plainMembers : List Member :=
  [⟨"path", "\"/a\"".toList⟩, ⟨"x", "[\x7b\"y\":[-1.5e3]\x7d]".toList⟩]

def plainBody : Bytes :=
  encode "\x7b\"path\":\"/a\",\"x\":[\x7b\"y\":[-1.5e3]\x7d]\x7d".toList

/-- The path under its short name, after a code that is absent. -/
def editedMembers : List Member := [⟨"b", "null".toList⟩, ⟨"p", "\"/a\"".toList⟩]

def editedBody : Bytes := encode "\x7b\"b\":null,\"p\":\"/a\"\x7d".toList

/-- The path alone. -/
def listBody : Bytes := encode "[\"/a\"]".toList

/-- Both names of a field, with nothing for a value. -/
def repeatedMembers : List Member := [⟨"e", "null".toList⟩, ⟨"event", "null".toList⟩]

def repeatedBody : Bytes := encode "\x7b\"e\":null,\"event\":null\x7d".toList

/-- Two records that differ by edits, a list for one of them, and a record that names a field
twice. -/
theorem ofJson_decided_sample :
    (Distinct plainMembers ∧ Relation.EqvGen Edit plainMembers editedMembers ∧
      ObjectText plainMembers plainBody ∧ ObjectText editedMembers editedBody ∧
        (ofJson plainBody).toOption = (ofJson editedBody).toOption) ∧
    ((∀ f ∈ Field.all.drop 1, ∀ m ∈ plainMembers, ¬ IsName m.key f) ∧
      ArrayText ((Field.all.take 1).map (valueOf plainMembers)) listBody ∧
        (ofJson plainBody).toOption = (ofJson listBody).toOption) ∧
    ¬ Distinct repeatedMembers ∧ ObjectText repeatedMembers repeatedBody ∧
      ∃ e, ofJson repeatedBody = .error e := by
  have hnull : IsValue "null".toList := .word .null
  have hpath : IsValue "\"/a\"".toList := .string (Json.stringText_jsonText "/a").isString
  have hnumber : IsValue "-1.5e3".toList := .number <|
    @Json.IsNumber.mk ['-'] ['1'] ['.', '5'] ['e', '3'] (.inr rfl) (by decide) (.inr (by decide))
      (.inr ⟨['5'], by decide, rfl⟩) (.inr ⟨['e'], ['3'], by decide, by decide, rfl⟩)
  have hlist : IsValue "[-1.5e3]".toList :=
    .list (List.forall_mem_singleton.mpr hnumber) (Json.listText_jsonList ["-1.5e3".toList])
  have hkey : Json.IsString "\"y\"".toList := (Json.stringText_jsonText "y").isString
  have hrecord : IsValue "\x7b\"y\":[-1.5e3]\x7d".toList :=
    @IsValue.record [("\"y\"".toList, "[-1.5e3]".toList)] _
      (List.forall_mem_singleton.mpr ⟨_, hkey, .mk Json.blank_nil Json.blank_nil⟩)
      (List.forall_mem_singleton.mpr hlist)
      (Json.recordText_jsonRecord [("y", "[-1.5e3]".toList)])
  have hnested : IsValue "[\x7b\"y\":[-1.5e3]\x7d]".toList :=
    .list (List.forall_mem_singleton.mpr hrecord)
      (Json.listText_jsonList ["\x7b\"y\":[-1.5e3]\x7d".toList])
  have hplain : ObjectText plainMembers plainBody := by
    refine @objectText_jsonRecord plainMembers ?_
    rw [plainMembers, List.forall_mem_cons, List.forall_mem_singleton]
    exact ⟨hpath, hnested⟩
  have hedited : ObjectText editedMembers editedBody := by
    refine @objectText_jsonRecord editedMembers ?_
    rw [editedMembers, List.forall_mem_cons, List.forall_mem_singleton]
    exact ⟨hnull, hpath⟩
  have hvalues : ArrayText ((Field.all.take 1).map (valueOf plainMembers)) listBody :=
    .mk (List.forall_mem_singleton.mpr hpath)
      (.cons (.mk Json.blank_nil Json.blank_nil) .nil) (Json.listText_jsonList ["\"/a\"".toList])
  have hrepeated : ObjectText repeatedMembers repeatedBody := by
    refine @objectText_jsonRecord repeatedMembers ?_
    rw [repeatedMembers, List.forall_mem_cons, List.forall_mem_singleton]
    exact ⟨hnull, hnull⟩
  have hdistinct : Distinct plainMembers := distinct_iff.mpr (by decide)
  have htwice : ¬ Distinct repeatedMembers := fun h => absurd (distinct_iff.mp h) (by decide)
  have hedits : Relation.EqvGen Edit plainMembers editedMembers := by
    have hunknown : Edit [⟨"path", "\"/a\"".toList⟩]
        [⟨"x", "[\x7b\"y\":[-1.5e3]\x7d]".toList⟩, ⟨"path", "\"/a\"".toList⟩] :=
      .unknown fun f => by cases f <;> decide
    have hshort : Edit [⟨"path", "\"/a\"".toList⟩] [⟨"p", "\"/a\"".toList⟩] :=
      @Edit.rename [] _ _ _ .path (.inr rfl) (.inl rfl)
    have habsent : Edit [⟨"p", "\"/a\"".toList⟩] editedMembers :=
      @Edit.absent _ _ .bot (.inl rfl) (by decide)
    exact .trans _ _ _ (.rel _ _ (.permute (.swap _ _ _))) <|
      .trans _ _ _ (.symm _ _ (.rel _ _ hunknown)) <|
        .trans _ _ _ (.rel _ _ hshort) (.rel _ _ habsent)
  have hmissing : ∀ f ∈ Field.all.drop 1, ∀ m ∈ plainMembers, ¬ IsName m.key f := by decide
  obtain ⟨hsame, hlisted, herror⟩ := ofJson_decided
  exact ⟨⟨hdistinct, hedits, hplain, hedited, hsame _ _ _ _ hdistinct hedits hplain hedited⟩,
    ⟨hmissing, hvalues, hlisted _ _ _ _ hdistinct hmissing hplain hvalues⟩,
    htwice, hrepeated, herror _ _ htwice hrepeated⟩

end HitCounter.Payload
