import HitCounter.Site.Basic
import HitCounter.Text.Utf8.Lemmas
import Mathlib.Data.List.Forall2

/-!
# The tokens of what was written as JSON

- **Tokens** (`Json.Spells`): a written text is lexed to its tokens, wherever it stands between two
  tokens.
- **Strings** (`Json.spells_jsonText`): so is a string, whatever characters it holds, and its
  spelling denotes the text that was written (`Spelling.read_ofText`).
-/

namespace HitCounter.Json

open Text (Bytes encode encode_cons encode_append decode?_encode)

/-! ## Tokens -/

/-- The text is made of these tokens, wherever it stands between two tokens. -/
def Spells (cs : List Char) (ts : List Token) : Prop :=
  ∀ found, (encode cs).foldl Lexer.step ⟨found, .between⟩ = ⟨ts.reverse ++ found, .between⟩

variable {cs more : List Char} {ts : List Token}

theorem Spells.append {ts' : List Token} (h : Spells cs ts) (h' : Spells more ts') :
    Spells (cs ++ more) (ts ++ ts') := by
  intro found
  rw [encode_append, List.foldl_append, h, h', List.reverse_append, List.append_assoc]

theorem spells_nil : Spells [] [] := fun _ => rfl

theorem spells_openList : Spells ['['] [.openList] := fun _ => rfl

theorem spells_closeList : Spells [']'] [.closeList] := fun _ => rfl

theorem spells_openRecord : Spells ['\x7b'] [.openRecord] := fun _ => rfl

theorem spells_closeRecord : Spells ['\x7d'] [.closeRecord] := fun _ => rfl

theorem spells_comma : Spells [','] [.comma] := fun _ => rfl

theorem spells_colon : Spells [':'] [.colon] := fun _ => rfl

/-- A word of a truth value. -/
theorem spells_jsonBool (b : Bool) :
    Spells (jsonBool b) [.word (if b then .true else .false)] := by
  intro found
  cases b with
  | true => rfl
  | false => rfl

/-- A text that consists of tokens has no other tokens. -/
theorem Spells.tokens (h : Spells cs ts) : tokens (encode cs) = ts := by
  unfold Json.tokens
  rw [show ({} : Lexer) = ⟨[], .between⟩ from rfl, h, List.append_nil]
  exact List.reverse_reverse ts

/-! ## Strings -/

/-- Inside a string, the text is made of these pieces. -/
def SpellsPieces (cs : List Char) (ps : List Piece) : Prop :=
  ∀ found before, (encode cs).foldl Lexer.step ⟨found, .text before⟩ =
    ⟨found, .text (ps.reverse ++ before)⟩

variable {ps : List Piece}

theorem SpellsPieces.append {ps' : List Piece} (h : SpellsPieces cs ps)
    (h' : SpellsPieces more ps') : SpellsPieces (cs ++ more) (ps ++ ps') := by
  intro found before
  rw [encode_append, List.foldl_append, h, h', List.reverse_append, List.append_assoc]

/-- Pieces between quotes are a string. -/
theorem SpellsPieces.quoted (h : SpellsPieces cs ps) :
    Spells ('"' :: cs ++ ['"']) [.text ⟨ps, .closed⟩] := by
  intro found
  have hopen : (encode ['"']).foldl Lexer.step ⟨found, .between⟩ = ⟨found, .text []⟩ := rfl
  have hclose (before : List Piece) : (encode ['"']).foldl Lexer.step ⟨found, .text before⟩ =
      ⟨.text ⟨before.reverse, .closed⟩ :: found, .between⟩ := rfl
  rw [show '"' :: cs ++ ['"'] = ['"'] ++ cs ++ ['"'] from rfl, encode_append, encode_append,
    List.foldl_append, List.foldl_append, hopen, h, hclose]
  simp

/-- The pieces that a character is written as. -/
def charPieces (c : Char) : List Piece :=
  if c.toNat < 0x20 ∧ c ∉ ['\x08', '\t', '\n', '\x0c', '\r'] then [.unit c.toNat]
  else (String.utf8EncodeChar c).map .byte

/-- The spelling that a text is written with. -/
def Spelling.ofText (s : List Char) : Spelling := ⟨s.flatMap charPieces, .closed⟩

/-- A character beyond ASCII has only bytes beyond ASCII, and any other one is its own byte. -/
theorem encodeChar_cases (c : Char) :
    c.toNat < 0x80 ∧ String.utf8EncodeChar c = [UInt8.ofNat c.toNat] ∨
      ∀ b ∈ String.utf8EncodeChar c, 0x80 ≤ b.toNat := by
  unfold String.utf8EncodeChar
  dsimp only
  rw [show c.val.toNat = c.toNat from rfl]
  have hv : c.toNat < 0xD800 ∨ 0xDFFF < c.toNat ∧ c.toNat < 0x110000 := c.valid
  generalize c.toNat = n at hv
  split
  · exact .inl ⟨by omega, rfl⟩
  · right
    -- Every byte of a longer character is a sum that carries the highest bit.
    have hbyte (k : Nat) (hk : 0x80 ≤ k) (hk' : k < 0x100) : 0x80 ≤ (UInt8.ofNat k).toNat := by
      rw [Text.toNat_byte hk']
      exact hk
    split
    · simp only [List.mem_cons, List.not_mem_nil, or_false, forall_eq_or_imp, forall_eq]
      exact ⟨hbyte _ (by omega) (by omega), hbyte _ (by omega) (by omega)⟩
    split
    · simp only [List.mem_cons, List.not_mem_nil, or_false, forall_eq_or_imp, forall_eq]
      exact ⟨hbyte _ (by omega) (by omega), hbyte _ (by omega) (by omega),
        hbyte _ (by omega) (by omega)⟩
    · simp only [List.mem_cons, List.not_mem_nil, or_false, forall_eq_or_imp, forall_eq]
      exact ⟨hbyte _ (by omega) (by omega), hbyte _ (by omega) (by omega),
        hbyte _ (by omega) (by omega), hbyte _ (by omega) (by omega)⟩

/-- Bytes that neither end a string nor begin an escape are pieces as they stand. -/
theorem foldl_step_plain {bs : Bytes} (h : ∀ b ∈ bs, b ≠ 0x22 ∧ b ≠ 0x5C ∧ ¬ b < 0x20)
    (found : List Token) (before : List Piece) :
    bs.foldl Lexer.step ⟨found, .text before⟩ =
      ⟨found, .text ((bs.map Piece.byte).reverse ++ before)⟩ := by
  induction bs generalizing before with
  | nil => rfl
  | cons b bs ih =>
    obtain ⟨hquote, hslash, hcontrol⟩ := h b List.mem_cons_self
    have hstep : Lexer.step ⟨found, .text before⟩ b = ⟨found, .text (.byte b :: before)⟩ := by
      simp [Lexer.step, hquote, hslash, hcontrol]
    rw [List.foldl_cons, hstep, ih fun b' hb' => h b' (List.mem_cons_of_mem b hb')]
    simp

/-- A character that needs no escape. -/
theorem spellsPieces_plain {c : Char} (hc : 0x20 ≤ c.toNat) (hquote : c ≠ '"')
    (hslash : c ≠ '\\') : SpellsPieces [c] ((String.utf8EncodeChar c).map .byte) := by
  intro found before
  rw [encode_cons, show encode [] = [] from rfl, List.append_nil]
  refine foldl_step_plain (fun b hb => ?_) found before
  rcases encodeChar_cases c with ⟨hlt, heq⟩ | hhigh
  · rw [heq, List.mem_singleton] at hb
    have hval : b.toNat = c.toNat := by
      rw [hb]
      exact Text.toNat_byte (by omega)
    have hne (d : Char) (hd : c ≠ d) : c.toNat ≠ d.toNat := fun h => hd (Char.toNat_inj.mp h)
    refine ⟨fun h => hne '"' hquote ?_, fun h => hne '\\' hslash ?_, fun h => ?_⟩
    · rw [← hval, h]
      rfl
    · rw [← hval, h]
      rfl
    · rw [UInt8.lt_iff_toNat_lt, hval] at h
      exact absurd hc (Nat.not_le.mpr h)
  · have hb' := hhigh b hb
    refine ⟨fun h => ?_, fun h => ?_, fun h => ?_⟩
    · rw [h] at hb'
      exact absurd hb' (by decide)
    · rw [h] at hb'
      exact absurd hb' (by decide)
    · rw [UInt8.lt_iff_toNat_lt] at h
      exact absurd h (Nat.not_lt.mpr (Nat.le_trans (by decide) hb'))

/-- The four digits of a numeric escape make one piece. -/
theorem foldl_step_hex {digits : Bytes} {u : Nat} (hlen : digits.length = 4)
    (hu : Text.ofHexDigits? digits = some u) (found : List Token) (before : List Piece) :
    digits.foldl Lexer.step ⟨found, .hex before []⟩ = ⟨found, .text (.unit u :: before)⟩ := by
  match digits, hlen with
  | [_, _, _, _], _ => simp [Lexer.step, Lexer.hex, hu]

/-- The four digits of the escape of a control character. -/
theorem ofHexDigits?_control : ∀ n < 0x20,
    let digits := encode ['0', '0', if n < 0x10 then '0' else '1', Nat.digitChar (n % 16)]
    digits.length = 4 ∧ Text.ofHexDigits? digits = some n := by
  decide

/-- A control character that is written by number. -/
theorem spellsPieces_control {c : Char} (hc : c.toNat < 0x20) :
    SpellsPieces ['\\', 'u', '0', '0', if c.toNat < 0x10 then '0' else '1',
      Nat.digitChar (c.toNat % 16)] [.unit c.toNat] := by
  intro found before
  obtain ⟨hlen, hu⟩ := ofHexDigits?_control c.toNat hc
  have hescape : (encode ['\\', 'u']).foldl Lexer.step ⟨found, .text before⟩ =
      ⟨found, .hex before []⟩ := rfl
  rw [show ∀ ds, '\\' :: 'u' :: ds = ['\\', 'u'] ++ ds from fun _ => rfl, encode_append,
    List.foldl_append, hescape]
  exact foldl_step_hex hlen hu found before

/-- Every character is written as its pieces. -/
theorem spellsPieces_jsonChar (c : Char) : SpellsPieces (jsonChar c) (charPieces c) := by
  unfold jsonChar
  split
  -- The seven escapes of one letter are evaluated.
  iterate 7 exact fun _ _ => rfl
  rename_i hquote hslash hback htab hline hfeed hreturn
  unfold charPieces
  by_cases hc : c.toNat < 0x20
  · have hall : c.toNat < 0x20 ∧ c ∉ ['\x08', '\t', '\n', '\x0c', '\r'] := by
      simp only [List.mem_cons, List.not_mem_nil, or_false, not_or]
      exact ⟨hc, hback, htab, hline, hfeed, hreturn⟩
    rw [if_pos hc, if_pos hall]
    exact spellsPieces_control hc
  · have hnone : ¬ (c.toNat < 0x20 ∧ c ∉ ['\x08', '\t', '\n', '\x0c', '\r']) := fun h => hc h.1
    rw [if_neg hc, if_neg hnone]
    exact spellsPieces_plain (Nat.not_lt.mp hc) hquote hslash

/-- A text is written as its spelling. -/
theorem spells_jsonText (s : String) :
    Spells (jsonText s) [.text (Spelling.ofText s.toList)] := by
  have hpieces : SpellsPieces (s.toList.flatMap jsonChar) (s.toList.flatMap charPieces) := by
    induction s.toList with
    | nil => exact fun _ _ => rfl
    | cons c cs ih => exact (spellsPieces_jsonChar c).append ih
  exact hpieces.quoted

/-- The pieces of a string that add a character to it. -/
def Yields (ps : List Piece) (c : Char) : Prop :=
  ∀ bytes : Bytes, ps.foldlM Assembly.step ⟨bytes, none⟩ =
    .ok ⟨(String.utf8EncodeChar c).reverse ++ bytes, none⟩

theorem yields_bytes (c : Char) : Yields ((String.utf8EncodeChar c).map .byte) c := by
  intro bytes
  generalize String.utf8EncodeChar c = bs
  induction bs generalizing bytes with
  | nil => rfl
  | cons b bs ih =>
    rw [List.map_cons, List.foldlM_cons]
    refine (ih (b :: bytes)).trans ?_
    simp

/-- A character is no half of a surrogate pair, so its number alone gives it. -/
theorem yields_unit (c : Char) : Yields [.unit c.toNat] c := by
  intro bytes
  have hvalid : c.toNat < 0xD800 ∨ 0xDFFF < c.toNat ∧ c.toNat < 0x110000 := c.valid
  have hlow : ¬ (0xDC00 ≤ c.toNat ∧ c.toNat ≤ 0xDFFF) := by omega
  have hhigh : ¬ (0xD800 ≤ c.toNat ∧ c.toNat ≤ 0xDBFF) := by omega
  simp [Assembly.step, Assembly.push, hlow, hhigh]

/-- The pieces of a character give its bytes. -/
theorem yields_charPieces (c : Char) : Yields (charPieces c) c := by
  unfold charPieces
  split
  · exact yields_unit c
  · exact yields_bytes c

/-- Pieces that yield the characters of a text spell the text. -/
theorem Spelling.read_of_yields {pss : List (List Piece)} {s : List Char}
    (h : List.Forall₂ Yields pss s) : (⟨pss.flatten, .closed⟩ : Spelling).read = .ok s := by
  have hbytes (bytes : Bytes) : pss.flatten.foldlM Assembly.step ⟨bytes, none⟩ =
      .ok ⟨(encode s).reverse ++ bytes, none⟩ := by
    induction h generalizing bytes with
    | nil => rfl
    | cons hfirst _ ih =>
      rw [List.flatten_cons, List.foldlM_append, hfirst]
      refine (ih _).trans ?_
      rw [encode_cons, List.reverse_append, List.append_assoc]
  unfold Spelling.read
  rw [show ({} : Assembly) = ⟨[], none⟩ from rfl, hbytes, List.append_nil]
  change Assembly.finish ⟨(encode s).reverse, none⟩ .closed = .ok s
  simp [Assembly.finish, decode?_encode]

/-- The spelling of a text denotes it. -/
theorem Spelling.read_ofText (s : List Char) : (Spelling.ofText s).read = .ok s := by
  rw [Spelling.ofText, List.flatMap_def]
  refine Spelling.read_of_yields ?_
  induction s with
  | nil => exact .nil
  | cons c s ih => exact .cons (yields_charPieces c) ih

end HitCounter.Json
