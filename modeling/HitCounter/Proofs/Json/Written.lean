import HitCounter.Proofs.Json.Spelled

/-!
# Reading what was written as JSON

- **Trees** (`Json.Builds`): tokens are built to a value, wherever a value may stand.
- **Values** (`Json.Written`): what `jsonText`, `jsonBool`, `jsonList` and `jsonRecord` write is the
  value that they were given.
- **Documents** (`Json.Written.document`): a text that is such a value and nothing more is read as
  that value.
-/

namespace HitCounter.Json

open Text (encode)

/-- Between the first item and the others stands a separator, and one before each other. -/
theorem intercalate_cons {α : Type} (sep x : List α) (xs : List (List α)) :
    sep.intercalate (x :: xs) = x ++ xs.flatMap (sep ++ ·) := by
  induction xs generalizing x with
  | nil => rw [List.intercalate_singleton, List.flatMap_nil, List.append_nil]
  | cons y ys ih =>
    rw [List.intercalate_cons_cons, ih, List.flatMap_cons, List.append_assoc, List.append_assoc]

/-! ## Trees -/

/-- The tokens are those of one value, wherever a value may start. -/
def Builds (ts : List Token) (n : Node) : Prop :=
  ∃ t rest, ts = t :: rest ∧ t ≠ .closeList ∧
    ∀ frames, rest.foldl Builder.step (Builder.value frames t) = Builder.place frames n

variable {ts : List Token} {n : Node} {frames : List Frame}

/-- Where a value is wanted, the tokens of a value put it in its place. -/
theorem Builds.foldl_value (h : Builds ts n) (frames : List Frame) :
    ts.foldl Builder.step (.reading frames .value) = Builder.place frames n := by
  obtain ⟨t, rest, rfl, -, hrest⟩ := h
  exact hrest frames

/-- So do they at the start of a list and after a comma in it. -/
theorem Builds.foldl_item (h : Builds ts n) (frames : List Frame) {wants : Wants}
    (hw : wants = .itemOrEnd ∨ wants = .item) :
    ts.foldl Builder.step (.reading frames wants) = Builder.place frames n := by
  obtain ⟨t, rest, rfl, hne, hrest⟩ := h
  have hstep : Builder.step (.reading frames wants) t = Builder.value frames t := by
    rcases hw with rfl | rfl <;> cases t <;> first | rfl | exact absurd rfl hne
  rw [List.foldl_cons, hstep]
  exact hrest frames

theorem builds_word (w : Word) : Builds [.word w] w.toNode :=
  ⟨.word w, [], rfl, by simp, fun _ => rfl⟩

theorem builds_text {s : Spelling} (hs : s.close = .closed) : Builds [.text s] (.text s) := by
  have hcut : s.cut? = none := by rw [Spelling.cut?, hs]; rfl
  exact ⟨.text s, [], rfl, by simp, fun _ => by simp [Builder.value, hcut]⟩

/-- The rest of a list after its first item. -/
theorem foldl_moreItems {tss : List (List Token)} {ns : List Node}
    (h : List.Forall₂ Builds tss ns) (done : List Node) (frames : List Frame) :
    (tss.flatMap ([Token.comma] ++ ·) ++ [Token.closeList]).foldl Builder.step
        (.reading (.list done :: frames) .listSeparator) =
      Builder.place frames (.list (done.reverse ++ ns) none) := by
  induction h generalizing done with
  | nil =>
    rw [List.append_nil]
    rfl
  | @cons ts n tss ns hitem _ ih =>
    have hcomma : Builder.step (.reading (.list done :: frames) .listSeparator) .comma =
        .reading (.list done :: frames) .item := rfl
    rw [List.flatMap_cons, List.append_assoc, List.append_assoc, List.singleton_append,
      List.foldl_cons, hcomma, List.foldl_append, hitem.foldl_item _ (.inr rfl)]
    refine (ih (n :: done)).trans ?_
    rw [List.reverse_cons, List.append_assoc, List.singleton_append]

/-- Items between commas, in brackets, are a list. -/
theorem builds_list {tss : List (List Token)} {ns : List Node} (h : List.Forall₂ Builds tss ns) :
    Builds (.openList :: List.intercalate [.comma] tss ++ [.closeList]) (.list ns none) := by
  refine ⟨.openList, List.intercalate [.comma] tss ++ [.closeList], rfl, by simp,
    fun frames => ?_⟩
  have hopen : Builder.value frames .openList = .reading (.list [] :: frames) .itemOrEnd := rfl
  rw [hopen]
  cases h with
  | nil => rfl
  | cons hitem hmore =>
    rw [intercalate_cons, List.append_assoc, List.foldl_append, hitem.foldl_item _ (.inl rfl)]
    exact foldl_moreItems hmore [_] frames

/-- The tokens are a key with its value. -/
def BuildsMember (ts : List Token) (m : Spelling × Node) : Prop :=
  ∃ rest, ts = .text m.1 :: .colon :: rest ∧ m.1.close = .closed ∧ Builds rest m.2

/-- Where a key may start, the tokens of a member put it into the innermost record. -/
theorem BuildsMember.foldl {m : Spelling × Node} (h : BuildsMember ts m)
    (done : List (Spelling × Node)) (frames : List Frame) {wants : Wants}
    (hw : wants = .keyOrEnd ∨ wants = .key) :
    ts.foldl Builder.step (.reading (.record done :: frames) wants) =
      .reading (.record (m :: done) :: frames) .recordSeparator := by
  obtain ⟨rest, rfl, hclose, hvalue⟩ := h
  have hcut : m.1.cut? = none := by rw [Spelling.cut?, hclose]; rfl
  have hkey : Builder.step (.reading (.record done :: frames) wants) (.text m.1) =
      .reading (.record done :: frames) (.colon m.1) := by
    rcases hw with rfl | rfl <;> simp [Builder.step, Builder.key, hcut]
  have hcolon : Builder.step (.reading (.record done :: frames) (.colon m.1)) .colon =
      .reading (.member done m.1 :: frames) .value := rfl
  rw [List.foldl_cons, hkey, List.foldl_cons, hcolon, hvalue.foldl_value]
  rfl

/-- The rest of a record after its first member. -/
theorem foldl_moreMembers {tss : List (List Token)} {ms : List (Spelling × Node)}
    (h : List.Forall₂ BuildsMember tss ms) (done : List (Spelling × Node)) (frames : List Frame) :
    (tss.flatMap ([Token.comma] ++ ·) ++ [Token.closeRecord]).foldl Builder.step
        (.reading (.record done :: frames) .recordSeparator) =
      Builder.place frames (.record (done.reverse ++ ms) none) := by
  induction h generalizing done with
  | nil =>
    rw [List.append_nil]
    rfl
  | @cons ts m tss ms hmember _ ih =>
    have hcomma : Builder.step (.reading (.record done :: frames) .recordSeparator) .comma =
        .reading (.record done :: frames) .key := rfl
    rw [List.flatMap_cons, List.append_assoc, List.append_assoc, List.singleton_append,
      List.foldl_cons, hcomma, List.foldl_append, hmember.foldl done frames (.inr rfl)]
    refine (ih (m :: done)).trans ?_
    rw [List.reverse_cons, List.append_assoc, List.singleton_append]

/-- Members between commas, in braces, are a record. -/
theorem builds_record {tss : List (List Token)} {ms : List (Spelling × Node)}
    (h : List.Forall₂ BuildsMember tss ms) :
    Builds (.openRecord :: List.intercalate [.comma] tss ++ [.closeRecord]) (.record ms none) := by
  refine ⟨.openRecord, List.intercalate [.comma] tss ++ [.closeRecord], rfl, by simp,
    fun frames => ?_⟩
  have hopen : Builder.value frames .openRecord = .reading (.record [] :: frames) .keyOrEnd := rfl
  rw [hopen]
  cases h with
  | nil => rfl
  | cons hmember hmore =>
    rw [intercalate_cons, List.append_assoc, List.foldl_append,
      hmember.foldl [] frames (.inl rfl)]
    exact foldl_moreMembers hmore [_] frames

/-! ## Values -/

/-- The text is a value and nothing more. -/
def Written (cs : List Char) (n : Node) : Prop := ∃ ts, Spells cs ts ∧ Builds ts n

/-- What may follow a value. -/
def delimiters : List Char := [' ', '\t', '\n', '\r', ',', ']', '\x7d']

/-- The text is made of these tokens wherever a delimiter follows it. -/
def SpellsBefore (cs : List Char) (ts : List Token) : Prop :=
  ∀ d ∈ delimiters, ∀ more ts', Spells (d :: more) ts' → Spells (cs ++ d :: more) (ts ++ ts')

theorem Spells.before {cs : List Char} (h : Spells cs ts) : SpellsBefore cs ts :=
  fun _ _ _ _ h' => h.append h'

/-- Parts between commas, before the bracket that closes them. -/
theorem spells_parts {parts : List (List Char)} {tss : List (List Token)} {close : Char}
    {t : Token} (h : List.Forall₂ SpellsBefore parts tss) (hclose : close ∈ delimiters)
    (ht : Spells [close] [t]) :
    Spells (List.intercalate [','] parts ++ [close]) (List.intercalate [.comma] tss ++ [t]) := by
  -- After the first part the text starts with a delimiter, whether or not there are more.
  have hmore : ∀ {parts tss}, List.Forall₂ SpellsBefore parts tss →
      Spells (parts.flatMap ([','] ++ ·) ++ [close]) (tss.flatMap ([Token.comma] ++ ·) ++ [t]) ∧
        ∃ d rest, d ∈ delimiters ∧ parts.flatMap ([','] ++ ·) ++ [close] = d :: rest := by
    intro parts tss h
    induction h with
    | nil => exact ⟨ht, close, [], hclose, rfl⟩
    | @cons part ts parts tss hpart _ ih =>
      obtain ⟨hspells, d, rest, hd, heq⟩ := ih
      refine ⟨?_, ',', _, by decide, rfl⟩
      rw [List.flatMap_cons, List.flatMap_cons, List.append_assoc, List.append_assoc,
        List.append_assoc, List.append_assoc]
      refine spells_comma.append ?_
      rw [heq] at hspells ⊢
      exact hpart d hd rest _ hspells
  cases h with
  | nil => exact ht
  | @cons part ts parts tss hpart hparts =>
    obtain ⟨hspells, d, rest, hd, heq⟩ := hmore hparts
    rw [intercalate_cons, intercalate_cons, List.append_assoc, List.append_assoc]
    rw [heq] at hspells ⊢
    exact hpart d hd rest _ hspells

/-- Parts with tokens of some kind, between commas and before the bracket that closes them. -/
theorem exists_spells_parts {α : Type} {R : List Token → α → Prop} {parts : List (List Char)}
    {xs : List α} {close : Char} {t : Token}
    (h : List.Forall₂ (fun cs x => ∃ ts, SpellsBefore cs ts ∧ R ts x) parts xs)
    (hclose : close ∈ delimiters) (ht : Spells [close] [t]) :
    ∃ tss, Spells (List.intercalate [','] parts ++ [close]) (List.intercalate [.comma] tss ++ [t]) ∧
      List.Forall₂ R tss xs := by
  suffices ∃ tss, List.Forall₂ SpellsBefore parts tss ∧ List.Forall₂ R tss xs by
    obtain ⟨tss, hspells, hxs⟩ := this
    exact ⟨tss, spells_parts hspells hclose ht, hxs⟩
  induction h with
  | nil => exact ⟨[], .nil, .nil⟩
  | cons hpart _ ih =>
    obtain ⟨ts, hspells, hx⟩ := hpart
    obtain ⟨tss, hparts, hxs⟩ := ih
    exact ⟨ts :: tss, .cons hspells hparts, .cons hx hxs⟩

/-- A written truth value. -/
theorem written_bool (b : Bool) : Written (jsonBool b) (.bool b) := by
  refine ⟨_, spells_jsonBool b, ?_⟩
  cases b with
  | true => exact builds_word .true
  | false => exact builds_word .false

/-- A written string. -/
theorem written_text (s : String) : Written (jsonText s) (.text (.ofText s.toList)) :=
  ⟨_, spells_jsonText s, builds_text rfl⟩

/-- A written list of written values. -/
theorem written_list {items : List (List Char)} {ns : List Node}
    (h : List.Forall₂ Written items ns) : Written (jsonList items) (.list ns none) := by
  have hparts : List.Forall₂ (fun cs n => ∃ ts, SpellsBefore cs ts ∧ Builds ts n) items ns :=
    h.imp fun _ _ hwritten => hwritten.imp fun _ => And.imp_left Spells.before
  obtain ⟨tss, hspells, hbuilds⟩ := exists_spells_parts hparts (by decide) spells_closeList
  exact ⟨_, spells_openList.append hspells, builds_list hbuilds⟩

/-- The member of a record is written under its name. -/
def WrittenMember (m : String × List Char) (n : Spelling × Node) : Prop :=
  n.1 = .ofText m.1.toList ∧ Written m.2 n.2

/-- A written record of written members. -/
theorem written_record {members : List (String × List Char)} {ms : List (Spelling × Node)}
    (h : List.Forall₂ WrittenMember members ms) :
    Written (jsonRecord members) (.record ms none) := by
  have hparts : List.Forall₂ (fun cs m => ∃ ts, SpellsBefore cs ts ∧ BuildsMember ts m)
      (members.map fun m => jsonText m.1 ++ ':' :: m.2) ms := by
    induction h with
    | nil => exact .nil
    | @cons member m members ms hmember _ ih =>
      obtain ⟨hkey, ts, hspells, hbuilds⟩ := hmember
      refine .cons ⟨.text m.1 :: .colon :: ts, Spells.before ?_, ts, rfl, ?_, hbuilds⟩ ih
      · rw [hkey]
        exact (spells_jsonText member.1).append (spells_colon.append hspells)
      · rw [hkey]
        rfl
  obtain ⟨tss, hspells, hbuilds⟩ := exists_spells_parts hparts (by decide) spells_closeRecord
  exact ⟨_, spells_openRecord.append hspells, builds_record hbuilds⟩

/-- **A written value is read as that value**, with nothing after it. -/
theorem Written.document {cs : List Char} (h : Written cs n) :
    Document.ofBytes (encode cs) = ⟨n, false⟩ := by
  obtain ⟨ts, hspells, hbuilds⟩ := h
  unfold Document.ofBytes Document.ofTokens
  rw [hspells.tokens, hbuilds.foldl_value]
  rfl

end HitCounter.Json
