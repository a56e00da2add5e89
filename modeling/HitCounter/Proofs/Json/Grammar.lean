import HitCounter.Proofs.Json.Written
import HitCounter.Proofs.Numeric.Integer
import Mathlib.Tactic.IntervalCases

/-!
# Any text of a JSON value

The ways to write strings, integers, members and records, with white space wherever it may stand.
Whichever is chosen, the text is read as the value that it was written for.

- **Strings** (`Json.StringText.spells`): a character stands for itself or is escaped, by a letter
  or by number.
- **Integers** (`Json.spellsBefore_integer`): a number ends only where something follows that does
  not continue it, so what is said of it is said before such a delimiter (`Json.SpellsBefore`).
- **Records** (`Json.RecordText.written`): members between commas, in braces.
-/

namespace HitCounter.Json

open Text (Bytes encode encode_cons encode_append decode?_encode)

/-! ## White space -/

/-- White space between tokens. -/
def Blank (ws : List Char) : Prop := ∀ c ∈ ws, c ∈ [' ', '\t', '\n', '\r']

variable {cs more ws : List Char} {ts : List Token}

theorem spells_blank (h : Blank ws) : Spells ws [] := by
  induction ws with
  | nil => exact spells_nil
  | cons c ws ih =>
    obtain ⟨hc, hws⟩ := List.forall_mem_cons.mp h
    have hfirst : Spells [c] [] := by
      simp only [List.mem_cons, List.not_mem_nil, or_false] at hc
      obtain rfl | rfl | rfl | rfl := hc <;> exact fun _ => rfl
    exact hfirst.append (ih hws)

/-! ## Strings -/

/-- Four hexadecimal digits, in either case, that denote a number. -/
def FourDigits (digits : List Char) (u : Nat) : Prop :=
  (encode digits).length = 4 ∧ Text.ofHexDigits? (encode digits) = some u

/-- The letters after a backslash, each with the character that it stands for. -/
def escapes : List (Char × Char) :=
  [('"', '"'), ('\\', '\\'), ('/', '/'), ('b', '\x08'), ('f', '\x0c'), ('n', '\n'), ('r', '\r'),
    ('t', '\t')]

/-- The ways to write a character in a string. -/
inductive CharText : Char → List Char → Prop where
  | plain {c : Char} (visible : 0x20 ≤ c.toNat) (quote : c ≠ '"') (slash : c ≠ '\\') :
    CharText c [c]
  | letter {c e : Char} (escape : (e, c) ∈ escapes) : CharText c ['\\', e]
  | unit {c : Char} {digits : List Char} (number : FourDigits digits c.toNat) :
    CharText c ('\\' :: 'u' :: digits)
  /-- By two numbers, which are its halves in UTF-16. -/
  | pair {c : Char} {upper lower : List Char} {u l : Nat} (first : FourDigits upper u)
    (second : FourDigits lower l) (high : 0xD800 ≤ u ∧ u ≤ 0xDBFF) (low : 0xDC00 ≤ l ∧ l ≤ 0xDFFF)
    (number : c.toNat = 0x10000 + (u - 0xD800) * 0x400 + (l - 0xDC00)) :
    CharText c ('\\' :: 'u' :: upper ++ '\\' :: 'u' :: lower)

/-- The ways to write a string. -/
inductive StringText : List Char → List Char → Prop where
  | mk {s : List Char} {parts : List (List Char)} (chars : List.Forall₂ CharText s parts) :
    StringText s ('"' :: parts.flatten ++ ['"'])

/-- An escape by number is that number. -/
theorem FourDigits.spellsPieces {digits : List Char} {u : Nat} (h : FourDigits digits u) :
    SpellsPieces ('\\' :: 'u' :: digits) [.unit u] := by
  intro found before
  have hescape : (encode ['\\', 'u']).foldl Lexer.step ⟨found, .text before⟩ =
      ⟨found, .hex before []⟩ := rfl
  rw [show '\\' :: 'u' :: digits = ['\\', 'u'] ++ digits from rfl, encode_append,
    List.foldl_append, hescape]
  exact foldl_step_hex h.1 h.2 found before

/-- A character that is escaped by a letter is a byte. -/
theorem spellsPieces_letter {c e : Char} (h : (e, c) ∈ escapes) :
    SpellsPieces ['\\', e] ((String.utf8EncodeChar c).map .byte) := by
  simp only [escapes, List.mem_cons, Prod.mk.injEq, List.not_mem_nil, or_false] at h
  obtain ⟨rfl, rfl⟩ | ⟨rfl, rfl⟩ | ⟨rfl, rfl⟩ | ⟨rfl, rfl⟩ | ⟨rfl, rfl⟩ | ⟨rfl, rfl⟩ | ⟨rfl, rfl⟩ |
    ⟨rfl, rfl⟩ := h <;> exact fun _ _ => rfl

/-- Two halves of a surrogate pair make one character. -/
theorem yields_pair {c : Char} {u l : Nat} (high : 0xD800 ≤ u ∧ u ≤ 0xDBFF)
    (low : 0xDC00 ≤ l ∧ l ≤ 0xDFFF)
    (number : c.toNat = 0x10000 + (u - 0xD800) * 0x400 + (l - 0xDC00)) :
    Yields [.unit u, .unit l] c := by
  intro bytes
  have hfirst : ¬ (0xDC00 ≤ u ∧ u ≤ 0xDFFF) := by omega
  have hc : Char.ofNat (0x10000 + (u - 0xD800) * 0x400 + (l - 0xDC00)) = c := by
    rw [← number]
    exact Char.ofNat_toNat c
  simp only [List.foldlM_cons, List.foldlM_nil, Assembly.step, hfirst, high, low, and_self,
    ↓reduceIte, bind, Except.bind, Assembly.push, hc, pure, Except.pure]

/-- However a character is written, its pieces yield it. -/
theorem CharText.pieces {c : Char} (h : CharText c cs) :
    ∃ ps, SpellsPieces cs ps ∧ Yields ps c := by
  cases h with
  | plain visible quote slash => exact ⟨_, spellsPieces_plain visible quote slash, yields_bytes c⟩
  | letter escape => exact ⟨_, spellsPieces_letter escape, yields_bytes c⟩
  | unit number => exact ⟨_, number.spellsPieces, yields_unit c⟩
  | pair first second high low number =>
    exact ⟨_, first.spellsPieces.append second.spellsPieces, yields_pair high low number⟩

/-- **A string** is read as the text that it was written for, however it was written. -/
theorem StringText.spells {s : List Char} (h : StringText s cs) :
    ∃ sp : Spelling, Spells cs [.text sp] ∧ sp.close = .closed ∧ sp.read = .ok s := by
  obtain ⟨chars⟩ := h
  rename_i parts
  suffices ∃ pss, SpellsPieces parts.flatten pss.flatten ∧ List.Forall₂ Yields pss s by
    obtain ⟨pss, hpieces, hyields⟩ := this
    exact ⟨_, hpieces.quoted, rfl, Spelling.read_of_yields hyields⟩
  induction chars with
  | nil => exact ⟨[], fun _ _ => rfl, .nil⟩
  | cons hchar _ ih =>
    obtain ⟨ps, hps, hyields⟩ := hchar.pieces
    obtain ⟨pss, hpss, hmore⟩ := ih
    exact ⟨ps :: pss, hps.append hpss, .cons hyields hmore⟩

/-! ## What stands around values -/

/-- Other tokens and white space may stand in front. -/
theorem SpellsBefore.prepend {ts₀ : List Token} (h : SpellsBefore cs ts) (h₀ : Spells more ts₀) :
    SpellsBefore (more ++ cs) (ts₀ ++ ts) := by
  intro d hd rest ts' h'
  rw [List.append_assoc, List.append_assoc]
  exact h₀.append (h d hd rest ts' h')

/-- White space may follow. -/
theorem SpellsBefore.blank (h : SpellsBefore cs ts) (hws : Blank ws) :
    SpellsBefore (cs ++ ws) ts := by
  cases ws with
  | nil => rwa [List.append_nil]
  | cons w ws =>
    intro d hd rest ts' h'
    have hw : w ∈ delimiters := by
      have := hws w List.mem_cons_self
      simp only [List.mem_cons, List.not_mem_nil, or_false] at this
      obtain rfl | rfl | rfl | rfl := this <;> decide
    rw [List.append_assoc]
    exact h w hw _ ts' ((spells_blank hws).append h')

/-! ## Integers -/

/-- The number that an integer is written as. -/
def Number.ofInt (n : Int) : Number := ⟨n < 0, n.natAbs, none⟩

/-- The state after the digits of a number. No digit may follow a zero. -/
def Scan.ofDigits (negative : Bool) (n : Nat) : Scan :=
  { negative, coefficient := n, phase := if n = 0 then .zero else .whole }

/-- Where the digits of a number may start: between tokens, or after a minus sign. -/
def beforeDigits (found : List Token) (negative : Bool) : Lexer :=
  if negative then ⟨found, .number { negative := true, phase := .sign }⟩ else ⟨found, .between⟩

/-- The digits of a number are read as that number. -/
theorem foldl_step_toDigits (found : List Token) (negative : Bool) (n : Nat) :
    (encode (Nat.toDigits 10 n)).foldl Lexer.step (beforeDigits found negative) =
      ⟨found, .number (.ofDigits negative n)⟩ := by
  induction n using Numeric.toDigits_induction with
  | single d hd =>
    cases negative <;> interval_cases d <;> rfl
  | more n s hn ih d hd =>
    have hlast : (encode [d.digitChar]).foldl Lexer.step ⟨found, .number (.ofDigits negative n)⟩ =
        ⟨found, .number (.ofDigits negative (n * 10 + d))⟩ := by
      have hphase : ¬ n * 10 + d = 0 := by omega
      simp only [Scan.ofDigits, Nat.ne_of_gt hn, hphase, ↓reduceIte]
      interval_cases d <;> rfl
    rw [encode_append, List.foldl_append, ih, hlast]

/-- A delimiter ends a number that is complete. -/
theorem step_delimiter {d : Char} (hd : d ∈ delimiters) {s : Scan} {n : Number}
    (hs : s.complete? = some n) (found : List Token) (rest : List Char) :
    (encode (d :: rest)).foldl Lexer.step ⟨found, .number s⟩ =
      (encode (d :: rest)).foldl Lexer.step ⟨.number n :: found, .between⟩ := by
  rw [encode_cons, List.foldl_append, List.foldl_append]
  congr 1
  obtain ⟨negative, coefficient, places, exponentNegative, exponent, phase⟩ := s
  simp only [delimiters, List.mem_cons, List.not_mem_nil, or_false] at hd
  cases phase with
  | sign | point | mark | markSign => cases hs
  | zero | whole | fraction | exponent =>
    obtain rfl := Option.some.inj hs
    obtain rfl | rfl | rfl | rfl | rfl | rfl | rfl := hd <;> rfl

/-- A number is read if it is complete and a delimiter follows it. -/
theorem spellsBefore_number {s : Scan} {n : Number}
    (h : ∀ found, (encode cs).foldl Lexer.step ⟨found, .between⟩ = ⟨found, .number s⟩)
    (hs : s.complete? = some n) : SpellsBefore cs [.number n] := by
  intro d hd rest ts' h' found
  rw [encode_append, List.foldl_append, h, step_delimiter hd hs, h', List.reverse_append,
    List.append_assoc]
  rfl

theorem Scan.complete?_ofDigits (negative : Bool) (n : Nat) :
    (Scan.ofDigits negative n).complete? = some ⟨negative, n, none⟩ := by
  unfold Scan.ofDigits Scan.complete?
  by_cases hn : n = 0 <;> simp [hn]

/-- **An integer** is read as the number that it was written for, if a delimiter follows it. -/
theorem spellsBefore_integer (n : Int) :
    SpellsBefore (toString n).toList [.number (.ofInt n)] := by
  refine spellsBefore_number (fun found => ?_) (Scan.complete?_ofDigits (n < 0) n.natAbs)
  rw [Numeric.toList_toString, ← foldl_step_toDigits]
  split
  · rename_i hn
    rw [encode_cons, List.foldl_append]
    simp only [hn, decide_true]
    rfl
  · rename_i hn
    simp only [hn, decide_false]
    rfl

theorem builds_number (n : Number) : Builds [.number n] (.number n) :=
  ⟨.number n, [], rfl, by simp, fun _ => rfl⟩

/-- An integer of 64 bits is the integer that its number denotes. -/
theorem Number.integer?_ofInt {n : Int} (least : -0x8000000000000000 ≤ n)
    (most : n < 0x8000000000000000) : (Number.ofInt n).integer? = some n := by
  unfold Number.ofInt Number.integer?
  by_cases hn : n < 0
  · simp only [hn, decide_true]
    rw [if_pos (by omega)]
    exact congrArg some (show -(n.natAbs : Int) = n by omega)
  · simp only [hn, decide_false]
    rw [if_pos (by omega)]
    exact congrArg some (Int.natAbs_of_nonneg (by omega))

theorem Node.readInt64_ofInt {n : Int} (least : -0x8000000000000000 ≤ n)
    (most : n < 0x8000000000000000) : Node.readInt64 (.number (.ofInt n)) = .ok n := by
  simp only [Node.readInt64, Number.value, Number.integer?_ofInt least most, bind, Except.bind,
    most, ↓reduceIte]

/-! ## Records -/

/-- The ways to write a member of a record, given those to write its value. -/
inductive MemberText (key : List Char) (value : List Char → Prop) : List Char → Prop where
  | mk {a k b c v d : List Char} (before : Blank a) (name : StringText key k) (after : Blank b)
    (indent : Blank c) (what : value v) (tail : Blank d) :
    MemberText key value (a ++ k ++ b ++ ':' :: (c ++ v ++ d))

/-- The ways to write a record, given its members as they are written. -/
inductive RecordText (parts : List (List Char)) : List Char → Prop where
  | mk {a b c : List Char} (before : Blank a) (inside : Blank b) (after : Blank c) :
    RecordText parts (a ++ '\x7b' :: (b ++ (List.intercalate [','] parts ++ '\x7d' :: c)))

/-- A member is read as its key and its value. -/
theorem MemberText.spells {key : List Char} {value : List Char → Prop} {R : Node → Prop}
    (h : MemberText key value cs)
    (hvalue : ∀ v, value v → ∃ n, R n ∧ ∃ ts, SpellsBefore v ts ∧ Builds ts n) :
    ∃ sp n, sp.read = .ok key ∧ R n ∧ ∃ ts, SpellsBefore cs ts ∧ BuildsMember ts (sp, n) := by
  obtain ⟨before, name, after, indent, what, tail⟩ := h
  obtain ⟨sp, hname, hclose, hread⟩ := name.spells
  obtain ⟨n, hn, ts, hts, hbuilds⟩ := hvalue _ what
  refine ⟨sp, n, hread, hn, _, ?_, ts, rfl, hclose, hbuilds⟩
  have hkey := ((spells_blank before).append hname).append (spells_blank after)
  have htail := (hts.prepend (spells_blank indent)).blank tail
  simpa using htail.prepend (hkey.append spells_colon)

/-- **A record** is read as the members that it was written for. -/
theorem RecordText.written {parts : List (List Char)} {ms : List (Spelling × Node)}
    (h : RecordText parts cs)
    (hparts : List.Forall₂ (fun cs m => ∃ ts, SpellsBefore cs ts ∧ BuildsMember ts m) parts ms) :
    Written cs (.record ms none) := by
  obtain ⟨before, inside, after⟩ := h
  obtain ⟨tss, hspells, hbuilds⟩ := exists_spells_parts hparts (by decide) spells_closeRecord
  have hopen := (spells_blank before).append (spells_openRecord.append (spells_blank inside))
  refine ⟨_, ?_, builds_record hbuilds⟩
  simpa using hopen.append (hspells.append (spells_blank after))

end HitCounter.Json
