import HitCounter.Proofs.Json.NumberText

/-!
# Any JSON value

The texts that are JSON values, of any kind and nested to any depth. A value that is not wanted is
only skipped, and then it need not be one that could be read: a number may be too large, and a
string may name half of a surrogate pair.

- **Strings** (`Json.IsString`): any escapes, whether or not they make up a text.
- **Values** (`Json.IsValue`): these, numbers, words, lists and records, with white space around
  them.
- **Reading** (`Json.IsValue.reads`): a value is read as what its text alone says, and skipped.
-/

namespace HitCounter.Json

open Text (encode)

variable {cs : List Char} {ts : List Token} {n : Node}

/-! ## Words and strings -/

/-- The letters of a word. -/
def Word.letters : Word → List Char
  | null => "null".toList
  | true => "true".toList
  | false => "false".toList

theorem spells_word (w : Word) : Spells w.letters [.word w] := by
  cases w <;> exact fun _ => rfl

/-- The ways to write an element of a string: a character as it stands, or an escape by a letter or
by a number. -/
inductive ElementText : List Char → Prop where
  | plain {c : Char} (visible : 0x20 ≤ c.toNat) (quote : c ≠ '"') (slash : c ≠ '\\') :
    ElementText [c]
  | letter {c e : Char} (escape : (e, c) ∈ escapes) : ElementText ['\\', e]
  | unit {digits : List Char} {u : Nat} (number : FourDigits digits u) :
    ElementText ('\\' :: 'u' :: digits)

/-- A string, whether or not its elements make up a text. -/
inductive IsString : List Char → Prop where
  | mk {parts : List (List Char)} (elements : ∀ part ∈ parts, ElementText part) :
    IsString ('"' :: parts.flatten ++ ['"'])

theorem ElementText.pieces (h : ElementText cs) : ∃ ps, SpellsPieces cs ps := by
  cases h with
  | plain visible quote slash => exact ⟨_, spellsPieces_plain visible quote slash⟩
  | letter escape => exact ⟨_, spellsPieces_letter escape⟩
  | unit number => exact ⟨_, number.spellsPieces⟩

/-- A string has its closing quote. -/
theorem IsString.spells (h : IsString cs) :
    ∃ sp : Spelling, Spells cs [.text sp] ∧ sp.close = .closed := by
  obtain ⟨elements⟩ := h
  rename_i parts
  suffices ∃ ps, SpellsPieces parts.flatten ps by
    obtain ⟨ps, hpieces⟩ := this
    exact ⟨_, hpieces.quoted, rfl⟩
  induction parts with
  | nil => exact ⟨[], fun _ _ => rfl⟩
  | cons part parts ih =>
    obtain ⟨hpart, hparts⟩ := List.forall_mem_cons.mp elements
    obtain ⟨ps, hps⟩ := hpart.pieces
    obtain ⟨pss, hpss⟩ := ih hparts
    exact ⟨ps ++ pss, hps.append hpss⟩

/-! ## Values -/

/-- The ways to write a list, given its items as they are written. -/
inductive ListText (parts : List (List Char)) : List Char → Prop where
  | mk {a b c : List Char} (before : Blank a) (inside : Blank b) (after : Blank c) :
    ListText parts (a ++ '[' :: (b ++ (List.intercalate [','] parts ++ ']' :: c)))

/-- White space may stand around the text. -/
inductive Padded (cs : List Char) : List Char → Prop where
  | mk {a b : List Char} (before : Blank a) (after : Blank b) : Padded cs (a ++ cs ++ b)

/-- A value, with white space around it. -/
inductive IsValue : List Char → Prop where
  | word (w : Word) : IsValue w.letters
  | number {cs : List Char} (number : IsNumber cs) : IsValue cs
  | string {cs : List Char} (string : IsString cs) : IsValue cs
  | list {parts : List (List Char)} {cs : List Char} (items : ∀ part ∈ parts, IsValue part)
    (list : ListText parts cs) : IsValue cs
  | record {members : List (List Char × List Char)} {cs : List Char}
    (keys : ∀ m ∈ members, ∃ key, IsString key ∧ Padded key m.1)
    (values : ∀ m ∈ members, IsValue m.2)
    (record : RecordText (members.map fun m => m.1 ++ ':' :: m.2) cs) : IsValue cs
  | padded {v cs : List Char} (value : IsValue v) (padded : Padded v cs) : IsValue cs

/-- **A list** is read as the items that it was written for. -/
theorem ListText.written {parts : List (List Char)} {ns : List Node} (h : ListText parts cs)
    (hparts : List.Forall₂ (fun cs n => ∃ ts, SpellsBefore cs ts ∧ Builds ts n) parts ns) :
    Written cs (.list ns none) := by
  obtain ⟨before, inside, after⟩ := h
  obtain ⟨tss, hspells, hbuilds⟩ := exists_spells_parts hparts (by decide) spells_closeList
  have hopen := (spells_blank before).append (spells_openList.append (spells_blank inside))
  refine ⟨_, ?_, builds_list hbuilds⟩
  simpa using hopen.append (hspells.append (spells_blank after))

theorem Padded.spells {v : List Char} (h : Padded v cs) (hv : Spells v ts) : Spells cs ts := by
  obtain ⟨before, after⟩ := h
  simpa using ((spells_blank before).append hv).append (spells_blank after)

theorem Padded.spellsBefore {v : List Char} (h : Padded v cs) (hv : SpellsBefore v ts) :
    SpellsBefore cs ts := by
  obtain ⟨before, after⟩ := h
  exact (hv.prepend (spells_blank before)).blank after

theorem exists_forall₂ {α β : Type} {R : α → β → Prop} {as : List α}
    (h : ∀ a ∈ as, ∃ b, R a b) : ∃ bs, List.Forall₂ R as bs := by
  induction as with
  | nil => exact ⟨[], .nil⟩
  | cons a as ih =>
    obtain ⟨ha, has⟩ := List.forall_mem_cons.mp h
    obtain ⟨b, hb⟩ := ha
    obtain ⟨bs, hbs⟩ := ih has
    exact ⟨b :: bs, .cons hb hbs⟩

/-- **A value** is read as a tree that is skipped without a fault. -/
theorem IsValue.reads (h : IsValue cs) :
    ∃ n : Node, n.skip = .ok () ∧ ∃ ts, SpellsBefore cs ts ∧ Builds ts n := by
  induction h with
  | word w => exact ⟨w.toNode, by cases w <;> rfl, _, (spells_word w).before, builds_word w⟩
  | number number =>
    obtain ⟨d, text⟩ := isNumber_iff.mp number
    obtain ⟨n, hn, -⟩ := text.spells
    exact ⟨.number n, rfl, _, hn, builds_number n⟩
  | string string =>
    obtain ⟨sp, hsp, hclose⟩ := string.spells
    refine ⟨.text sp, ?_, _, hsp.before, builds_text hclose⟩
    rw [Node.skip, Spelling.skip, hclose]
    rfl
  | list items list ih =>
    obtain ⟨ns, hns⟩ := exists_forall₂ ih
    have hparts := hns.imp fun _ _ h => h.2
    obtain ⟨ts, hts, hbuilds⟩ := list.written hparts
    exact ⟨_, rfl, ts, hts.before, hbuilds⟩
  | record keys values record ih =>
    rename_i members cs
    have hmembers : ∀ part ∈ members.map fun m => m.1 ++ ':' :: m.2,
        ∃ m : Spelling × Node, ∃ ts, SpellsBefore part ts ∧ BuildsMember ts m := by
      rw [List.forall_mem_map]
      intro m hm
      obtain ⟨key, hkey, hpadded⟩ := keys m hm
      obtain ⟨n, -, ts, hts, hbuilds⟩ := ih m hm
      obtain ⟨sp, hsp, hclose⟩ := hkey.spells
      refine ⟨(sp, n), _, ?_, ts, rfl, hclose, hbuilds⟩
      simpa using hts.prepend ((hpadded.spells hsp).append spells_colon)
    obtain ⟨ms, hms⟩ := exists_forall₂ hmembers
    obtain ⟨ts, hts, hbuilds⟩ := record.written hms
    exact ⟨_, rfl, ts, hts.before, hbuilds⟩
  | padded value padded ih =>
    obtain ⟨n, hskip, ts, hts, hbuilds⟩ := ih
    exact ⟨n, hskip, ts, padded.spellsBefore hts, hbuilds⟩

/-! ## What is written -/

/-- Each character is written in one of the ways to write it. -/
theorem charText_jsonChar (c : Char) : CharText c (jsonChar c) := by
  unfold jsonChar
  split
  iterate 7 exact .letter (by decide)
  rename_i hquote hslash _ _ _ _ _
  split
  · rename_i hc
    obtain ⟨hlength, hnumber⟩ := ofHexDigits?_control c.toNat hc
    exact .unit ⟨hlength, hnumber⟩
  · rename_i hc
    exact .plain (Nat.not_lt.mp hc) hquote hslash

theorem stringText_jsonText (s : String) : StringText s.toList (jsonText s) := by
  rw [jsonText, List.flatMap_def]
  refine .mk ?_
  induction s.toList with
  | nil => exact .nil
  | cons c cs ih => exact .cons (charText_jsonChar c) ih

/-- A character is made of elements, two if it is a pair of numbers. -/
theorem CharText.elements {c : Char} (h : CharText c cs) :
    ∃ parts : List (List Char), (∀ part ∈ parts, ElementText part) ∧ parts.flatten = cs := by
  have hone {part : List Char} (h : ElementText part) :
      ∃ parts : List (List Char), (∀ part ∈ parts, ElementText part) ∧ parts.flatten = part :=
    ⟨[part], List.forall_mem_singleton.mpr h, List.flatten_singleton⟩
  cases h with
  | plain visible quote slash => exact hone (.plain visible quote slash)
  | letter escape => exact hone (.letter escape)
  | unit number => exact hone (.unit number)
  | @pair upper lower u l first second _ _ _ =>
    refine ⟨['\\' :: 'u' :: upper, '\\' :: 'u' :: lower], ?_, by simp⟩
    rw [List.forall_mem_cons, List.forall_mem_singleton]
    exact ⟨.unit first, .unit second⟩

/-- A text is a string, however it is written. -/
theorem StringText.isString {s : List Char} (h : StringText s cs) : IsString cs := by
  obtain ⟨chars⟩ := h
  rename_i written
  suffices ∃ parts : List (List Char),
      (∀ part ∈ parts, ElementText part) ∧ parts.flatten = written.flatten by
    obtain ⟨parts, helements, hflatten⟩ := this
    exact hflatten ▸ .mk helements
  induction chars with
  | nil => exact ⟨[], fun _ h => absurd h List.not_mem_nil, rfl⟩
  | cons hchar _ ih =>
    obtain ⟨parts, helements, hflatten⟩ := hchar.elements
    obtain ⟨parts', helements', hflatten'⟩ := ih
    refine ⟨parts ++ parts', List.forall_mem_append.mpr ⟨helements, helements'⟩, ?_⟩
    rw [List.flatten_append, hflatten, hflatten', List.flatten_cons]

theorem blank_nil : Blank [] := fun _ h => absurd h List.not_mem_nil

theorem listText_jsonList (items : List (List Char)) : ListText items (jsonList items) := by
  have hlist : jsonList items =
      [] ++ '[' :: ([] ++ (List.intercalate [','] items ++ ']' :: [])) := by simp [jsonList]
  rw [hlist]
  exact .mk blank_nil blank_nil blank_nil

theorem recordText_jsonRecord (members : List (String × List Char)) :
    RecordText (members.map fun m => jsonText m.1 ++ ':' :: m.2) (jsonRecord members) := by
  have hrecord : jsonRecord members = [] ++ '\x7b' :: ([] ++ (List.intercalate [',']
      (members.map fun m => jsonText m.1 ++ ':' :: m.2) ++ '\x7d' :: [])) := by simp [jsonRecord]
  rw [hrecord]
  exact .mk blank_nil blank_nil blank_nil

/-! ## Trees -/

/-- The tree of a value, by its text alone. -/
def nodeOf (v : List Char) : Node := (Document.ofBytes (encode (v ++ [' ']))).root

theorem nodeOf_eq (hts : SpellsBefore cs ts) (hbuilds : Builds ts n) : nodeOf cs = n := by
  have hblank : Spells [' '] [] := spells_blank (List.forall_mem_singleton.mpr (by decide))
  have hwritten : Written (cs ++ [' ']) n := ⟨_, hts ' ' (by decide) [] [] hblank, by simpa⟩
  rw [nodeOf, hwritten.document]

/-- Wherever a value stands, it is read as its tree. -/
theorem IsValue.nodeOf (h : IsValue cs) :
    (nodeOf cs).skip = .ok () ∧ ∃ ts, SpellsBefore cs ts ∧ Builds ts (nodeOf cs) := by
  obtain ⟨n, hskip, ts, hts, hbuilds⟩ := h.reads
  rw [nodeOf_eq hts hbuilds]
  exact ⟨hskip, ts, hts, hbuilds⟩

end HitCounter.Json
