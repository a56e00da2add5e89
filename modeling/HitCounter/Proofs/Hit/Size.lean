import HitCounter.Proofs.Hit.Members
import HitCounter.Proofs.Text.Trim

/-!
# Sizes

A page gives the size of its screen as a list of numbers or as a text with commas between them.

- **Texts** (`Payload.SizeText`, `Payload.sizeOfText_eq_ok_iff`): a text is a size if it is empty,
  or if all that stands between its commas are literals, with any white space around each.
- **Lists** (`Payload.entry_list`): a list of numbers is a size if no number is too large.
- **One size** (`Payload.size_decided`): the same literals make the same size in a list, in a text
  of a body and in a query. A text with anything else in it is none.
-/

namespace HitCounter.Payload

open Json (IsValue NumberText nodeOf)
open Numeric (Decimal Double FloatText)
open Text (Bytes encode)

/-! ## Texts -/

/-- A traversal succeeds if each of its steps does. -/
theorem mapM_eq_ok_iff {α β ε : Type} {f : α → Except ε β} {as : List α} {bs : List β} :
    as.mapM f = .ok bs ↔ List.Forall₂ (fun a b => f a = .ok b) as bs := by
  induction as generalizing bs with
  | nil =>
    rw [List.forall₂_nil_left_iff]
    exact ⟨fun h => (Except.ok.inj h).symm, fun h => h ▸ rfl⟩
  | cons a as ih =>
    rw [List.mapM_cons, bind_eq_ok, List.forall₂_cons_left_iff]
    constructor
    · rintro ⟨b, hb, h⟩
      obtain ⟨bs', hbs, h⟩ := bind_eq_ok.mp h
      exact ⟨b, bs', hb, ih.mp hbs, (Except.ok.inj h).symm⟩
    · rintro ⟨b, bs', hb, hbs, rfl⟩
      exact ⟨b, hb, bind_eq_ok.mpr ⟨bs', ih.mpr hbs, rfl⟩⟩

/-- The texts of sizes: nothing, or literals of numbers between commas, with white space around
each. -/
inductive SizeText : List Char → List Double → Prop where
  | empty : SizeText [] []
  | literals {text : List Char} {parts : List (List Char)} {xs : List Double} (some : text ≠ [])
    (cut : Text.CutAt (· == ',') text parts)
    (literals : List.Forall₂ (fun part x => FloatText .double (Text.trim part) x) parts xs) :
    SizeText text xs

variable {text : String} {xs : List Double}

/-- **Sizes** are read from exactly their texts. -/
theorem sizeOfText_eq_ok_iff : sizeOfText text = .ok xs ↔ SizeText text.toList xs := by
  have herror {α ε ε' : Type} {x : Except ε α} {a : α} {f : ε → ε'} :
      x.mapError f = .ok a ↔ x = .ok a := by
    cases x with
    | error => exact iff_of_false nofun nofun
    | ok b => rw [Except.mapError, Except.ok.injEq, Except.ok.injEq]
  have hread (parts : List (List Char)) :
      ((parts.mapM fun part => Numeric.readBinary .double (Text.trim part)).mapError
        (ValueFault.size text)) = .ok xs ↔
      List.Forall₂ (fun part x => FloatText .double (Text.trim part) x) parts xs := by
    simp only [herror, mapM_eq_ok_iff, Numeric.readBinary_eq_ok_iff]
  rw [sizeOfText]
  by_cases hempty : text.toList = []
  · rw [if_pos (by simpa using hempty), hempty]
    constructor
    · intro h
      obtain rfl := Except.ok.inj h
      exact .empty
    · intro h
      cases h with
      | empty => rfl
      | literals some => exact absurd rfl some
  · rw [if_neg (by simpa using hempty), hread]
    constructor
    · exact .literals hempty (Text.split_eq_iff.mp rfl)
    · intro h
      generalize text.toList = cs at *
      cases h with
      | empty => exact absurd rfl hempty
      | literals some cut literals =>
        rw [cut.split_eq]
        exact literals

/-! ## Literals of numbers -/

/-- The literals with commas between them, and any white space around each. -/
inductive JoinedText (literals : List (List Char)) : List Char → Prop where
  | mk {parts : List (List Char)}
    (padded : List.Forall₂ (fun literal part => ∃ before after, Text.IsPadding before ∧
      Text.IsPadding after ∧ part = before ++ literal ++ after) literals parts) :
    JoinedText literals (List.intercalate [','] parts)

/-- A list of the literals in JSON. -/
inductive LiteralList (literals : List (List Char)) (v : List Char) : Prop where
  | mk {parts : List (List Char)} (padded : List.Forall₂ Json.Padded literals parts)
    (list : Json.ListText parts v) : LiteralList literals v

variable {literals : List (List Char)} {ds : List Decimal} {v cs : List Char} {p : Payload}
  {body query : Bytes}

/-- A literal has no white space and no comma in it. -/
theorem literal_free {literal : List Char} {x : Double} (h : FloatText .double literal x) :
    Text.Tight literal ∧ ∀ c ∈ literal, (c == ',') = false := by
  have halphanum (c : Char) (hc : c.isAlphanum = true) :
      Text.isBlank c = false ∧ (c == ',') = false := by
    refine ⟨Text.isBlank_of_isAlphanum hc, beq_false_of_ne ?_⟩
    rintro rfl
    exact absurd hc (by decide)
  have hfree := h.forall_mem halphanum (by decide)
  exact ⟨Text.tight_of_forall fun c hc => (hfree c hc).1, fun c hc => (hfree c hc).2⟩

/-- A literal with white space around it is one part of a text, and is read as it is without. -/
theorem padded_literal {literal before after : List Char} {x : Double}
    (h : FloatText .double literal x) (hbefore : Text.IsPadding before)
    (hafter : Text.IsPadding after) :
    (∀ c ∈ before ++ literal ++ after, (c == ',') = false) ∧ before ++ literal ++ after ≠ [] ∧
      FloatText .double (Text.trim (before ++ literal ++ after)) x := by
  have hcomma {padding : List Char} (h : Text.IsPadding padding) :
      ∀ c ∈ padding, (c == ',') = false := by
    intro c hc
    apply beq_false_of_ne
    rintro rfl
    exact absurd (h ',' hc) (by decide)
  obtain ⟨htight, hfree⟩ := literal_free h
  refine ⟨?_, ?_, ?_⟩
  · rw [List.forall_mem_append, List.forall_mem_append]
    exact ⟨⟨hcomma hbefore, hfree⟩, hcomma hafter⟩
  · simp [h.ne_nil]
  · rw [Text.trim_padded hbefore htight hafter]
    exact h

/-- **Joined literals** are a text of their values. -/
theorem JoinedText.sizeText_of_values (h : JoinedText literals cs)
    (values : List.Forall₂ (FloatText .double) literals xs) : SizeText cs xs := by
  obtain ⟨padded⟩ := h
  rename_i parts
  suffices (∀ part ∈ parts, (∀ c ∈ part, (c == ',') = false) ∧ part ≠ []) ∧
      List.Forall₂ (fun part x => FloatText .double (Text.trim part) x) parts xs by
    obtain ⟨hparts, hliterals⟩ := this
    by_cases hnil : parts = []
    · subst hnil
      rw [List.forall₂_nil_left_iff.mp hliterals]
      exact .empty
    · have hcut : Text.split (· == ',') (List.intercalate [','] parts) = parts :=
        Text.split_intercalate hnil rfl fun part hpart => (hparts part hpart).1
      refine .literals (fun hempty => ?_) (Text.split_eq_iff.mp hcut) hliterals
      -- The empty text has one part, which is empty, unlike all of these.
      rw [hempty] at hcut
      have hpart : [] ∈ parts := hcut ▸ List.mem_singleton_self []
      exact (hparts [] hpart).2 rfl
  induction padded generalizing xs with
  | nil =>
    cases values
    exact ⟨fun _ hpart => absurd hpart List.not_mem_nil, .nil⟩
  | cons hpart _ ih =>
    cases values with
    | cons value values =>
      obtain ⟨before, after, hbefore, hafter, rfl⟩ := hpart
      obtain ⟨hfree, hne, hliteral⟩ := padded_literal value hbefore hafter
      obtain ⟨hparts, hliterals⟩ := ih values
      exact ⟨List.forall_mem_cons.mpr ⟨⟨hfree, hne⟩, hparts⟩, .cons hliteral hliterals⟩

/-- Literals of numbers are joined to a text of the nearest values. -/
theorem JoinedText.sizeText (h : JoinedText literals cs)
    (numbers : List.Forall₂ NumberText literals ds) :
    SizeText cs (ds.map (·.toBinary .double)) :=
  h.sizeText_of_values
    (List.forall₂_map_right_iff.mpr (numbers.imp fun _ _ number => number.floatText .double))

/-- A list of literals is read as a list of their numbers. -/
theorem LiteralList.nodeOf (h : LiteralList literals v)
    (numbers : List.Forall₂ NumberText literals ds) :
    ∃ ns : List Json.Number, Json.nodeOf v = .list (ns.map .number) none ∧
      ns.map Json.Number.toDecimal = ds := by
  obtain ⟨padded, list⟩ := h
  rename_i parts
  suffices ∃ ns : List Json.Number,
      List.Forall₂ (fun part n => ∃ ts, Json.SpellsBefore part ts ∧ Json.Builds ts n) parts
        (ns.map .number) ∧ ns.map Json.Number.toDecimal = ds by
    obtain ⟨ns, hparts, hvalues⟩ := this
    obtain ⟨ts, hts, hbuilds⟩ := list.written hparts
    exact ⟨ns, Json.nodeOf_eq hts.before hbuilds, hvalues⟩
  clear list
  induction padded generalizing ds with
  | nil =>
    cases numbers
    exact ⟨[], .nil, rfl⟩
  | @cons literal part literals parts hpart _ ih =>
    cases numbers with
    | cons number numbers =>
      obtain ⟨n, hspells, hn⟩ := number.spells
      obtain ⟨ns, hparts, hvalues⟩ := ih numbers
      exact ⟨n :: ns, .cons ⟨_, hpart.spellsBefore hspells, Json.builds_number n⟩ hparts,
        congrArg₂ List.cons hn hvalues⟩

theorem mapM_numberOfNode (ns : List Json.Number) :
    (ns.map Json.Node.number).mapM numberOfNode = .ok (ns.map Json.Number.toDouble) := by
  rw [mapM_eq_ok_iff, List.forall₂_map_left_iff, List.forall₂_map_right_iff, List.forall₂_same]
  exact fun _ _ => rfl

/-- **A list** of literals lays the nearest values, if none is infinite. -/
theorem entry_list (h : LiteralList literals v) (numbers : List.Forall₂ NumberText literals ds)
    (finite : ∀ d ∈ ds, (d.toBinary .double).isFinite = true) :
    entry .size v = (.size, some { size := some (ds.map (·.toBinary .double)) }) := by
  obtain ⟨ns, hnode, rfl⟩ := h.nodeOf numbers
  have hfinite : ∀ n ∈ ns, n.toDouble.isFinite = true := List.forall_mem_map.mp finite
  have hcheck := Json.Node.check_numbers hfinite 125
  have hread : sizeOfNode (.list (ns.map .number) none) = .ok (ns.map Json.Number.toDouble) :=
    mapM_numberOfNode ns
  rw [entry, hnode, List.map_map]
  simp only [setNode, checked, nesting, hcheck, hread, bind, Except.bind, Except.mapError]
  rfl

/-- **A text** lays the same, in a body as in a query. -/
theorem entry_string (h : Json.StringText text.toList v) :
    entry .size v = Entry.laid (.text .size text (by decide)) := by
  obtain ⟨sp, hspells, hclose, hread⟩ := h.spells
  have hdenotes : Entry.Denotes (.text .size text (by decide)) (.text sp) := ⟨sp, rfl, hread⟩
  rw [entry, Json.nodeOf_eq hspells.before (Json.builds_text hclose)]
  exact congrArg (Field.size, ·) (setNode_of_denotes hdenotes {})

theorem laid_text (text : String) : Entry.laid (.text .size text (by decide)) =
    (.size, (sizeOfText text).toOption.map fun xs => { size := some xs }) := by
  simp only [Entry.laid, Entry.field, Entry.word, setText]
  cases sizeOfText text <;> rfl

/-- A body in which the size has this value, while the other members make this payload. -/
inductive SizedBody (v : List Char) (p : Payload) (body : Bytes) : Prop where
  | mk {key : String} {ms others : List Member} (name : IsName key .size)
    (order : ms.Perm (⟨key, v⟩ :: others)) (distinct : Distinct ms) (made : laid others = some p)
    (record : ObjectText ms body) : SizedBody v p body

/-- A query in which the size has this text, while the other values make this payload. -/
inductive SizedQuery (text : String) (p : Payload) (query : Bytes) : Prop where
  | mk {es others : List Entry} (order : es.Perm (.text .size text (by decide) :: others))
    (distinct : (es.map Entry.field).Nodup) (made : (others.map Entry.laid).foldlM lay {} = some p)
    (written : QueryText es query) : SizedQuery text p query

theorem SizedBody.ofJson (h : SizedBody v p body)
    (hsize : entry .size v = (.size, some { size := some xs })) :
    ofJson body = .ok { p with size := some xs } := by
  obtain ⟨name, order, distinct, made, record⟩ := h
  rename_i key ms others
  have hmember : Member.laid? ⟨key, v⟩ = some (entry .size v) :=
    Member.laid?_of_field (Member.field?_eq_some_iff.mpr name)
  -- Where the other values are laid first, the size is laid on the payload that they make.
  have horder : ms.Perm (others ++ [⟨key, v⟩]) :=
    order.trans (List.perm_append_singleton ⟨key, v⟩ others).symm
  refine ok_of_toOption ?_
  rw [record.toOption_ofJson_distinct distinct, (Edit.permute horder).laid_eq.2 distinct, laid,
    List.filterMap_append, List.foldlM_append, ← laid, made,
    List.filterMap_cons_some hmember, hsize]
  rfl

theorem SizedQuery.ofQuery (h : SizedQuery text p query)
    (hsize : Entry.laid (.text .size text (by decide)) = (.size, some { size := some xs })) :
    ofQuery query = .ok { p with size := some xs } := by
  obtain ⟨order, distinct, made, written⟩ := h
  rename_i es others
  have horder : es.Perm (others ++ [.text .size text (by decide)]) :=
    order.trans (List.perm_append_singleton _ others).symm
  have hnodup : ((es.map Entry.laid).map (·.1)).Nodup := by
    rw [List.map_map]
    exact distinct
  refine ok_of_toOption ?_
  rw [ofQuery_written written distinct, foldlM_lay_perm (horder.map Entry.laid) hnodup,
    List.map_append, List.foldlM_append, made, List.map_singleton, hsize]
  rfl

/-! ## Texts that are no sizes -/

/-- A text with something else than a literal between its commas is no size. -/
theorem not_sizeText {parts : List (List Char)} {part : List Char} (some : cs ≠ [])
    (cut : Text.CutAt (· == ',') cs parts) (hpart : part ∈ parts)
    (other : ∀ x, ¬ FloatText .double (Text.trim part) x) : ¬ SizeText cs xs := by
  intro h
  cases h with
  | empty => exact some rfl
  | literals _ cut' literals =>
    rw [← cut.split_eq, cut'.split_eq] at hpart
    have hall : ∀ part ∈ _, ∃ x, FloatText .double (Text.trim part) x :=
      ((List.forall₂_and_left _ _).mp (literals.imp fun _ x hx => ⟨⟨x, hx⟩, hx⟩)).1
    obtain ⟨x, hx⟩ := hall part hpart
    exact other x hx

/-- If one value cannot be laid, nothing comes of them all. -/
theorem foldlM_lay_eq_none {es : List (Field × Option Payload)} {e : Field × Option Payload}
    (he : e ∈ es) (hnone : e.2 = none) (p : Payload) : es.foldlM lay p = none := by
  obtain ⟨before, after, rfl⟩ := List.append_of_mem he
  have hlay (q : Payload) : lay q e = none := by rw [lay, hnone, Option.map_none]
  rw [List.foldlM_append]
  cases before.foldlM lay p with
  | none => rfl
  | some q =>
    rw [Option.bind_eq_bind, Option.bind_some, List.foldlM_cons, hlay]
    rfl

/-- A record with a value that is none of its field carries no payload. -/
theorem ObjectText.error_of_entry {ms : List Member} {m : Member} {f : Field}
    (h : ObjectText ms body) (hm : m ∈ ms) (name : IsName m.key f)
    (hentry : (entry f m.value).2 = none) : ∃ e, Payload.ofJson body = .error e := by
  by_cases distinct : Distinct ms
  · have hlaid : entry f m.value ∈ ms.filterMap Member.laid? :=
      List.mem_filterMap.mpr ⟨m, hm, Member.laid?_of_field (Member.field?_eq_some_iff.mpr name)⟩
    refine error_of_toOption ?_
    rw [h.toOption_ofJson_distinct distinct]
    exact foldlM_lay_eq_none hlaid hentry {}
  · exact h.error_of_not_distinct distinct

/-- A query with a value that is none of its field carries no payload. -/
theorem ofQuery_error {key : String} {f : Field} (name : IsName key f)
    (hpair : (key.toList, text.toList) ∈ Http.formPairs query)
    (hset : ∀ p, ∃ e, setText f text p = .error e) : ∃ e, Payload.ofQuery query = .error e := by
  have hstep (state : Payload × List Field) :
      ∃ e, queryPair state (key.toList, text.toList) = .error e := by
    obtain ⟨e, he⟩ := hset state.1
    simp only [queryPair, String.ofList_toList, ofName?_eq_some_iff.mpr name, he]
    by_cases hseen : f ∈ state.2
    · exact ⟨_, if_pos hseen⟩
    · exact ⟨_, if_neg hseen⟩
  obtain ⟨before, after, hpairs⟩ := List.append_of_mem hpair
  rw [Payload.ofQuery, hpairs, List.foldlM_append]
  cases before.foldlM queryPair ({}, []) with
  | error e => exact ⟨e, rfl⟩
  | ok state =>
    obtain ⟨e, he⟩ := hstep state
    refine ⟨e, ?_⟩
    simp only [bind, Except.bind, List.foldlM_cons, he]
    rfl

/-! ## One size -/

/-- **One size.** The same literals of numbers, of which none is too large, make the same size in
all forms: as a list in a body, and joined by commas as a text of a body and of a query, with any
white space around each. It holds the values that are nearest to them, in order. If a text that is
not empty has anything else than a literal between its commas, neither a body nor a query with it
carries a payload. -/
theorem size_decided :
    (∀ (literals : List (List Char)) (ds : List Decimal) (text : String) (p : Payload),
      List.Forall₂ NumberText literals ds →
      (∀ d ∈ ds, (d.toBinary .double).isFinite = true) → JoinedText literals text.toList →
      (∀ v body, LiteralList literals v → SizedBody v p body →
        ofJson body = .ok { p with size := some (ds.map (·.toBinary .double)) }) ∧
      (∀ v body, Json.StringText text.toList v → SizedBody v p body →
        ofJson body = .ok { p with size := some (ds.map (·.toBinary .double)) }) ∧
      ∀ query, SizedQuery text p query →
        ofQuery query = .ok { p with size := some (ds.map (·.toBinary .double)) }) ∧
    ∀ (text : String) (parts : List (List Char)) (part : List Char), text ≠ "" →
      Text.CutAt (· == ',') text.toList parts → part ∈ parts →
      (∀ x, ¬ FloatText .double (Text.trim part) x) →
      (∀ key v ms body, IsName key .size → Json.StringText text.toList v → ⟨key, v⟩ ∈ ms →
        ObjectText ms body → ∃ e, ofJson body = .error e) ∧
      ∀ key query, IsName key .size → (key.toList, text.toList) ∈ Http.formPairs query →
        ∃ e, ofQuery query = .error e := by
  constructor
  · intro literals ds text p numbers finite joined
    have htext : Entry.laid (.text .size text (by decide)) =
        (.size, some { size := some (ds.map (·.toBinary .double)) }) := by
      rw [laid_text, sizeOfText_eq_ok_iff.mpr (joined.sizeText numbers)]
      rfl
    refine ⟨fun v body list sized => sized.ofJson (entry_list list numbers finite),
      fun v body string sized => sized.ofJson ((entry_string string).trans htext),
      fun query sized => sized.ofQuery htext⟩
  · intro text parts part some cut hpart other
    obtain ⟨e, he⟩ : ∃ e, sizeOfText text = .error e := by
      cases h : sizeOfText text with
      | error e => exact ⟨e, rfl⟩
      | ok xs =>
        have hnot : ¬ SizeText text.toList xs := not_sizeText (by simpa using some) cut hpart other
        exact absurd (sizeOfText_eq_ok_iff.mp h) hnot
    constructor
    · intro key v ms body name string hm record
      refine record.error_of_entry hm name ?_
      rw [entry_string string, laid_text, he]
      rfl
    · intro key query name hpair
      refine ofQuery_error name hpair fun p => ⟨e, ?_⟩
      rw [setText, he]
      rfl

/-- Literals with a sign at zero, and with a point and an exponent. -/
def sizeLiterals : List (List Char) := ["1920".toList, "-0".toList, "1.5e3".toList]

def sizeNumbers : List Decimal := [⟨false, 1920, 0⟩, ⟨true, 0, 0⟩, ⟨false, 15, 2⟩]

/-- The same literals as a text, with white space around one of them. -/
def sizeSample : String := " 1920,-0,1.5e3"

/-- A path and a size, which is this value. -/
def sizeMembers (v : List Char) : List Member := [⟨"p", "\"/a\"".toList⟩, ⟨"size", v⟩]

def sizeBody (v : List Char) : Bytes :=
  encode (jsonRecord ((sizeMembers v).map fun m => (m.key, m.value)))

def sizeQuery : Bytes := encode "p=/a&s=+1920,-0,1.5e3".toList

/-- A text with a word between its commas. -/
def wordSample : String := "1,wide"

/-- Three forms of the same literals beside a path, and a text with a word among its literals in a
body and in a query. -/
theorem size_decided_sample :
    (List.Forall₂ NumberText sizeLiterals sizeNumbers ∧
      (∀ d ∈ sizeNumbers, (d.toBinary .double).isFinite = true) ∧
      JoinedText sizeLiterals sizeSample.toList ∧ LiteralList sizeLiterals (jsonList sizeLiterals) ∧
      SizedBody (jsonList sizeLiterals) { path := some "/a" } (sizeBody (jsonList sizeLiterals)) ∧
      SizedBody (jsonText sizeSample) { path := some "/a" } (sizeBody (jsonText sizeSample)) ∧
      SizedQuery sizeSample { path := some "/a" } sizeQuery ∧
      ∃ xs, xs.length = 3 ∧
        ofJson (sizeBody (jsonList sizeLiterals)) = .ok { path := some "/a", size := some xs } ∧
        ofJson (sizeBody (jsonText sizeSample)) = .ok { path := some "/a", size := some xs } ∧
        ofQuery sizeQuery = .ok { path := some "/a", size := some xs }) ∧
    (∀ x, ¬ FloatText .double (Text.trim "wide".toList) x) ∧
      (∃ e, ofJson (sizeBody (jsonText wordSample)) = .error e) ∧
      ∃ e, ofQuery (encode "s=1,wide".toList) = .error e := by
  have scale : Numeric.ScaleText 3 "e3".toList :=
    @Numeric.ScaleText.number 1 ['e'] ['3'] (.plain (.inl rfl)) (by decide)
      (List.forall_mem_singleton.mpr rfl)
  have numbers : List.Forall₂ NumberText sizeLiterals sizeNumbers :=
    .cons (@NumberText.whole false "1920".toList [] 0 (by decide) (by decide) .nothing) <|
    .cons (@NumberText.whole true "0".toList [] 0 (by decide) (by decide) .nothing) <|
    .cons (@NumberText.fraction false "1".toList "5".toList "e3".toList 3 (by decide) (by decide)
      (by decide) scale) .nil
  have finite : ∀ d ∈ sizeNumbers, (d.toBinary .double).isFinite = true := by decide
  have hnone : Text.IsPadding [] := Text.isPadding_nil
  have joined : JoinedText sizeLiterals sizeSample.toList :=
    @JoinedText.mk sizeLiterals [" 1920".toList, "-0".toList, "1.5e3".toList] <|
      .cons ⟨[' '], [], by decide, hnone, rfl⟩ <| .cons ⟨[], [], hnone, hnone, rfl⟩ <|
        .cons ⟨[], [], hnone, hnone, rfl⟩ .nil
  have hpadded (literals : List (List Char)) : List.Forall₂ Json.Padded literals literals := by
    refine List.forall₂_same.mpr fun literal _ => ?_
    simpa using @Json.Padded.mk literal [] [] Json.blank_nil Json.blank_nil
  have list : LiteralList sizeLiterals (jsonList sizeLiterals) :=
    .mk (hpadded sizeLiterals) (Json.listText_jsonList sizeLiterals)
  have hitems : ∀ literal ∈ sizeLiterals, IsValue literal :=
    ((List.forall₂_and_left _ _).mp (numbers.imp fun _ d h =>
      ⟨IsValue.number (Json.isNumber_iff.mpr ⟨d, h⟩), h⟩)).1
  have hrecord {v : List Char} (hv : IsValue v) : ObjectText (sizeMembers v) (sizeBody v) := by
    have hpath : IsValue "\"/a\"".toList := .string (Json.stringText_jsonText "/a").isString
    exact objectText_jsonRecord
      (List.forall_mem_cons.mpr ⟨hpath, List.forall_mem_singleton.mpr hv⟩)
  have hsized {v : List Char} (hv : IsValue v) :
      SizedBody v { path := some "/a" } (sizeBody v) := by
    have hfields : fields (sizeMembers v) = [.path, .size] := rfl
    have hdistinct : Distinct (sizeMembers v) := by
      rw [distinct_iff, hfields]
      decide
    have hmade : laid [⟨"p", "\"/a\"".toList⟩] = some { path := some "/a" } := rfl
    exact .mk (.inr rfl) (.swap _ _ _) hdistinct hmade (hrecord hv)
  have hlist : IsValue (jsonList sizeLiterals) := .list hitems (Json.listText_jsonList sizeLiterals)
  have htext (s : String) : IsValue (jsonText s) := .string (Json.stringText_jsonText s).isString
  have hplain (s : List Char) (h : 0x25 ∉ encode s ∧ 0x26 ∉ encode s ∧ 0x2B ∉ encode s) :
      Http.FormBytes (encode s) (encode s) := Http.formBytes_self h.1 h.2.1 h.2.2
  have hpath : Http.FormPair ("p".toList, "/a".toList) (encode "p=/a".toList) :=
    .mk (hplain "p".toList (by decide)) (hplain "/a".toList (by decide))
  have hvalue : Http.FormBytes (0x20 :: encode "1920,-0,1.5e3".toList)
      (0x2B :: encode "1920,-0,1.5e3".toList) :=
    .cons .plus (hplain "1920,-0,1.5e3".toList (by decide))
  have hsize : Http.FormPair ("s".toList, sizeSample.toList) (encode "s=+1920,-0,1.5e3".toList) :=
    .mk (hplain "s".toList (by decide)) hvalue
  have query : SizedQuery sizeSample { path := some "/a" } sizeQuery := by
    have hwritten : QueryText [.text .path "/a" (by decide), .text .size sizeSample (by decide)]
        sizeQuery :=
      @QueryText.mk _ [encode "p=/a".toList, encode "s=+1920,-0,1.5e3".toList] <|
        .cons ⟨"p", .inl rfl, hpath⟩ <| .cons ⟨"s", .inl rfl, hsize⟩ .nil
    exact .mk (.swap _ _ _) (by decide) rfl hwritten
  obtain ⟨hsame, hfail⟩ := size_decided
  obtain ⟨inList, inText, inQuery⟩ := hsame _ _ _ { path := some "/a" } numbers finite joined
  have other : ∀ x, ¬ FloatText .double (Text.trim "wide".toList) x := by
    intro x hx
    have hread : Numeric.readBinary .double (Text.trim "wide".toList) = .error .invalid := rfl
    rw [Numeric.readBinary_eq_ok_iff.mpr hx] at hread
    cases hread
  have hcut : Text.CutAt (· == ',') wordSample.toList ["1".toList, "wide".toList] :=
    Text.split_eq_iff.mp rfl
  obtain ⟨failBody, failQuery⟩ :=
    hfail wordSample _ "wide".toList (by decide) hcut (by decide) other
  refine ⟨⟨numbers, finite, joined, list, hsized hlist, hsized (htext sizeSample), query, _, rfl,
    inList _ _ list (hsized hlist),
    inText _ _ (Json.stringText_jsonText sizeSample) (hsized (htext sizeSample)), inQuery _ query⟩,
    other, failBody "size" _ _ _ (.inr rfl) (Json.stringText_jsonText wordSample) ?_
      (hrecord (htext wordSample)), failQuery "s" _ (.inl rfl) ?_⟩
  · exact List.mem_cons_of_mem _ List.mem_cons_self
  · have hpairs : Http.formPairs (encode "s=1,wide".toList) =
        [("s".toList, wordSample.toList)] := by
      decide
    rw [hpairs]
    exact List.mem_cons_self

end HitCounter.Payload
