import HitCounter.Numeric.Decimal
import HitCounter.Proofs.Text.Ascii
import HitCounter.Proofs.Text.Split
import Mathlib.Data.List.TakeWhile

/-!
# Literals of floating point numbers

- **Exponents** (`ScaleText`, `Decimal.readExponent?_eq_some_iff`): a letter, a sign or none, and
  digits.
- **Decimals** (`DecimalText`, `Decimal.readUnsigned?_eq_some_iff`): digits with at most one point,
  and an exponent.
- **Literals** (`FloatText`, `readBinary_eq_ok_iff`): decimals and words with a sign or none. They
  are the texts that are read as floating point numbers, and they are read as the nearest values.
- **Characters** (`FloatText.forall_mem`): letters, digits, signs and the point are all that a
  literal is written in.
-/

namespace HitCounter.Numeric

/-! ## Exponents -/

/-- What stands before the digits of an exponent, and its sign. -/
inductive MarkText : Int → List Char → Prop where
  | plain {letter : Char} (either : letter = 'e' ∨ letter = 'E') : MarkText 1 [letter]
  | plus {letter : Char} (either : letter = 'e' ∨ letter = 'E') : MarkText 1 [letter, '+']
  | minus {letter : Char} (either : letter = 'e' ∨ letter = 'E') : MarkText (-1) [letter, '-']

/-- An exponent: nothing, or a letter, a sign or none, and at least one digit. -/
inductive ScaleText : Int → List Char → Prop where
  | nothing : ScaleText 0 []
  | number {sign : Int} {mark digits : List Char} (markText : MarkText sign mark)
    (some : digits ≠ []) (number : ∀ c ∈ digits, c.isDigit = true) :
    ScaleText (sign * ofDigits digits) (mark ++ digits)

variable {s t : List Char} {e : Int} {negative : Bool} {d : Decimal}

theorem someDigits_iff :
    (s.isEmpty || !s.all Char.isDigit) = false ↔ s ≠ [] ∧ ∀ c ∈ s, c.isDigit = true := by
  rw [Bool.or_eq_false_iff, List.isEmpty_eq_false_iff, Bool.not_eq_false', List.all_eq_true]

/-- What has a property that no sign has is no sign. -/
theorem ne_sign {P : Char → Prop} {c : Char} (hc : P c) (hminus : ¬ P '-') (hplus : ¬ P '+') :
    c ≠ '-' ∧ c ≠ '+' := by
  constructor
  · rintro rfl
    exact hminus hc
  · rintro rfl
    exact hplus hc

/-- A digit is no sign. -/
theorem head_ne_sign (h : ∀ c ∈ s, c.isDigit = true) : ∀ c ∈ s.head?, c ≠ '-' ∧ c ≠ '+' := by
  intro c hc
  have hdigit := h c (List.mem_of_mem_head? hc)
  exact ne_sign (P := (·.isDigit = true)) hdigit (by decide) (by decide)

namespace Decimal

/-- The digits behind a mark. If the mark has no sign, no sign follows it. -/
theorem readExponent?_append {sign : Int} {mark digits : List Char} (h : MarkText sign mark)
    (hplain : mark.length = 1 → ∀ c ∈ digits.head?, c ≠ '-' ∧ c ≠ '+') :
    readExponent? (mark ++ digits) =
      if digits.isEmpty || !digits.all Char.isDigit then none
      else some (sign * ofDigits digits) := by
  cases h with
  | plus either | minus either =>
    simp only [List.cons_append, List.nil_append, readExponent?, either, ↓reduceIte]
  | plain either =>
    simp only [List.cons_append, List.nil_append, readExponent?, either, ↓reduceIte]
    split
    · exact absurd rfl (hplain rfl '-' rfl).1
    · exact absurd rfl (hplain rfl '+' rfl).2
    · rfl

/-- What starts with the letter of an exponent starts with its mark. -/
theorem exists_markText {letter : Char} (either : letter = 'e' ∨ letter = 'E') (rest : List Char) :
    ∃ sign mark digits, letter :: rest = mark ++ digits ∧ MarkText sign mark ∧
      (mark.length = 1 → ∀ c ∈ digits.head?, c ≠ '-' ∧ c ≠ '+') := by
  by_cases hminus : ∃ digits, rest = '-' :: digits
  · obtain ⟨digits, rfl⟩ := hminus
    exact ⟨-1, [letter, '-'], digits, rfl, .minus either, nofun⟩
  · by_cases hplus : ∃ digits, rest = '+' :: digits
    · obtain ⟨digits, rfl⟩ := hplus
      exact ⟨1, [letter, '+'], digits, rfl, .plus either, nofun⟩
    · refine ⟨1, [letter], rest, rfl, .plain either, fun _ c hc => ?_⟩
      obtain ⟨digits, rfl⟩ := List.head?_eq_some_iff.mp hc
      constructor
      · rintro rfl
        exact hminus ⟨digits, rfl⟩
      · rintro rfl
        exact hplus ⟨digits, rfl⟩

/-- **Exponents** are read from exactly their texts. -/
theorem readExponent?_eq_some_iff : readExponent? s = some e ↔ ScaleText e s := by
  constructor
  · intro h
    cases s with
    | nil =>
      obtain rfl := Option.some.inj h
      exact .nothing
    | cons letter rest =>
      by_cases hletter : letter = 'e' ∨ letter = 'E'
      · obtain ⟨sign, mark, digits, heq, markText, hplain⟩ := exists_markText hletter rest
        rw [heq, readExponent?_append markText hplain, Option.ite_none_left_eq_some,
          Bool.not_eq_true, someDigits_iff] at h
        obtain ⟨⟨hne, hall⟩, hvalue⟩ := h
        rw [heq, ← Option.some.inj hvalue]
        exact .number markText hne hall
      · simp only [readExponent?, hletter, ↓reduceIte, reduceCtorEq] at h
  · intro h
    cases h with
    | nothing => rfl
    | number markText some number =>
      rw [readExponent?_append markText fun _ => head_ne_sign number,
        someDigits_iff.mpr ⟨some, number⟩]
      rfl

end Decimal

/-- An exponent starts with no digit and no point. -/
theorem ScaleText.head (h : ScaleText e s) : ∀ c ∈ s.head?, c.isDigit = false ∧ c ≠ '.' := by
  cases h with
  | nothing => nofun
  | number markText =>
    cases markText with
    | plain either | plus either | minus either =>
      rintro _ ⟨⟩
      rcases either with rfl | rfl
      · decide
      · decide

/-! ## Decimals -/

/-- A decimal: digits with at most one point, at least one digit, and an exponent. -/
inductive DecimalText (negative : Bool) : Decimal → List Char → Prop where
  | whole {whole scale : List Char} {e : Int} (some : whole ≠ [])
    (number : ∀ c ∈ whole, c.isDigit = true) (scaleText : ScaleText e scale) :
    DecimalText negative ⟨negative, ofDigits whole, e⟩ (whole ++ scale)
  | point {whole fraction scale : List Char} {e : Int} (before : ∀ c ∈ whole, c.isDigit = true)
    (behind : ∀ c ∈ fraction, c.isDigit = true) (some : whole ≠ [] ∨ fraction ≠ [])
    (scaleText : ScaleText e scale) :
    DecimalText negative ⟨negative, ofDigits (whole ++ fraction), e - fraction.length⟩
      (whole ++ '.' :: (fraction ++ scale))

namespace Decimal

theorem readUnsigned?_of_point {tail : List Char} (h : s.dropWhile Char.isDigit = '.' :: tail) :
    readUnsigned? negative s =
      if (s.takeWhile Char.isDigit).isEmpty && (tail.takeWhile Char.isDigit).isEmpty then none
      else (readExponent? (tail.dropWhile Char.isDigit)).map fun e =>
        ⟨negative, ofDigits (s.takeWhile Char.isDigit ++ tail.takeWhile Char.isDigit),
          e - (tail.takeWhile Char.isDigit).length⟩ := by
  simp only [readUnsigned?, h]

theorem readUnsigned?_of_no_point (h : ∀ c ∈ (s.dropWhile Char.isDigit).head?, c ≠ '.') :
    readUnsigned? negative s =
      if (s.takeWhile Char.isDigit).isEmpty then none
      else (readExponent? (s.dropWhile Char.isDigit)).map fun e =>
        ⟨negative, ofDigits (s.takeWhile Char.isDigit), e⟩ := by
  unfold readUnsigned?
  cases hrest : s.dropWhile Char.isDigit with
  | nil => simp
  | cons c rest =>
    have hc : c ≠ '.' := h c (by rw [hrest]; rfl)
    simp [hc]

/-- **Decimals** are read from exactly their texts. -/
theorem readUnsigned?_eq_some_iff :
    readUnsigned? negative s = some d ↔ DecimalText negative d s := by
  have hdigits (s : List Char) : ∀ c ∈ s.takeWhile Char.isDigit, c.isDigit = true := fun c hc =>
    List.mem_takeWhile_imp hc
  constructor
  · intro h
    by_cases hpoint : ∃ tail, s.dropWhile Char.isDigit = '.' :: tail
    · obtain ⟨tail, htail⟩ := hpoint
      rw [readUnsigned?_of_point htail, Option.ite_none_left_eq_some] at h
      obtain ⟨hsome, hread⟩ := h
      obtain ⟨e, hscale, rfl⟩ := Option.map_eq_some_iff.mp hread
      have hs : s = s.takeWhile Char.isDigit ++ '.' ::
          (tail.takeWhile Char.isDigit ++ tail.dropWhile Char.isDigit) := by
        rw [List.takeWhile_append_dropWhile, ← htail, List.takeWhile_append_dropWhile]
      have hne : s.takeWhile Char.isDigit ≠ [] ∨ tail.takeWhile Char.isDigit ≠ [] := by
        simpa [or_iff_not_imp_left] using hsome
      have text : DecimalText negative _ _ :=
        .point (hdigits s) (hdigits tail) hne (readExponent?_eq_some_iff.mp hscale)
      rwa [← hs] at text
    · have hhead : ∀ c ∈ (s.dropWhile Char.isDigit).head?, c ≠ '.' := by
        rintro c hc rfl
        exact hpoint (List.head?_eq_some_iff.mp hc)
      rw [readUnsigned?_of_no_point hhead, Option.ite_none_left_eq_some, List.isEmpty_iff] at h
      obtain ⟨hne, hread⟩ := h
      obtain ⟨e, hscale, rfl⟩ := Option.map_eq_some_iff.mp hread
      have text : DecimalText negative _ _ :=
        .whole hne (hdigits s) (readExponent?_eq_some_iff.mp hscale)
      rwa [List.takeWhile_append_dropWhile] at text
  · intro h
    cases h with
    | @whole whole scale e some number scaleText =>
      obtain ⟨htake, hdrop⟩ := Text.span_append number fun c hc => (scaleText.head c hc).1
      rw [readUnsigned?_of_no_point (by rw [hdrop]; exact fun c hc => (scaleText.head c hc).2),
        htake, hdrop, readExponent?_eq_some_iff.mpr scaleText, if_neg (by simpa using some)]
      rfl
    | @point whole fraction scale e before behind some scaleText =>
      have hpoint : ∀ c ∈ ('.' :: (fraction ++ scale)).head?, c.isDigit = false := by
        rintro _ ⟨⟩
        decide
      obtain ⟨htake, hdrop⟩ := Text.span_append before hpoint
      obtain ⟨htake', hdrop'⟩ := Text.span_append behind fun c hc => (scaleText.head c hc).1
      rw [readUnsigned?_of_point hdrop, htake, htake', hdrop',
        readExponent?_eq_some_iff.mpr scaleText, if_neg (by simpa [or_iff_not_imp_left] using some)]
      rfl

end Decimal

theorem DecimalText.ne_nil (h : DecimalText negative d s) : s ≠ [] := by
  cases h with
  | whole some => exact List.append_ne_nil_of_left_ne_nil some _
  | point => simp

/-- A decimal starts with a digit or a point. -/
theorem DecimalText.head (h : DecimalText negative d s) :
    ∀ c ∈ s.head?, c.isDigit = true ∨ c = '.' := by
  have hdigits {whole rest : List Char} (hne : whole ≠ []) (hall : ∀ c ∈ whole, c.isDigit = true) :
      ∀ c ∈ (whole ++ rest).head?, c.isDigit = true ∨ c = '.' := by
    obtain ⟨first, whole, rfl⟩ := List.exists_cons_of_ne_nil hne
    rintro _ ⟨⟩
    exact .inl (hall first List.mem_cons_self)
  cases h with
  | whole some number => exact hdigits some number
  | @point whole fraction scale _ before =>
    by_cases hne : whole = []
    · subst hne
      rintro _ ⟨⟩
      exact .inr rfl
    · exact hdigits hne before

/-! ## Literals -/

/-- A number without its sign: a decimal, or a word in any case of letters. -/
inductive MagnitudeText (f : Format) (negative : Bool) : List Char → Binary f → Prop where
  | infinite {t : List Char}
    (word : Text.lower t = "inf".toList ∨ Text.lower t = "infinity".toList) :
    MagnitudeText f negative t (.infinity negative)
  | nan {t : List Char} (word : Text.lower t = "nan".toList) :
    MagnitudeText f negative t (.nan negative)
  | decimal {t : List Char} {d : Decimal} (text : DecimalText negative d t) :
    MagnitudeText f negative t (d.toBinary f)

/-- A literal: a number with a sign or none. -/
inductive FloatText (f : Format) : List Char → Binary f → Prop where
  | minus {t : List Char} {x : Binary f} (text : MagnitudeText f true t x) :
    FloatText f ('-' :: t) x
  | plus {t : List Char} {x : Binary f} (text : MagnitudeText f false t x) :
    FloatText f ('+' :: t) x
  | plain {t : List Char} {x : Binary f} (text : MagnitudeText f false t x) : FloatText f t x

variable {f : Format} {x : Binary f}

/-- A number starts with no sign. -/
theorem MagnitudeText.head (h : MagnitudeText f negative s x) :
    ∀ c ∈ s.head?, c ≠ '-' ∧ c ≠ '+' := by
  intro c hc
  -- A sign is its own lower case, so that it starts no word.
  have hword {first : Char} {rest : List Char} (hlower : Text.lower s = first :: rest) :
      c.toLower = first := by
    obtain ⟨t, rfl⟩ := List.head?_eq_some_iff.mp hc
    exact (List.cons.inj hlower).1
  cases h with
  | infinite word =>
    have hi : c.toLower = 'i' := word.elim hword hword
    exact ne_sign (P := (·.toLower = 'i')) hi (by decide) (by decide)
  | nan word =>
    have hn : c.toLower = 'n' := hword word
    exact ne_sign (P := (·.toLower = 'n')) hn (by decide) (by decide)
  | decimal text =>
    have hdigit := text.head c hc
    exact ne_sign (P := fun c => c.isDigit = true ∨ c = '.') hdigit (by decide) (by decide)

/-- A decimal is no word. -/
theorem DecimalText.lower_ne {first : Char} {rest : List Char} (h : DecimalText negative d s)
    (hfirst : first.isDigit = false ∧ first ≠ '.') : Text.lower s ≠ first :: rest := by
  intro hlower
  obtain ⟨c, t, rfl⟩ := List.exists_cons_of_ne_nil h.ne_nil
  obtain ⟨hc, -⟩ := List.cons.inj hlower
  subst hc
  rw [Text.isDigit_toLower] at hfirst
  rcases h.head c rfl with hdigit | rfl
  · rw [hdigit] at hfirst
    exact absurd hfirst.1 (by decide)
  · exact hfirst.2 rfl

theorem readMagnitude?_eq_some_iff :
    readMagnitude? f negative s = some x ↔ MagnitudeText f negative s x := by
  constructor
  · intro h
    simp only [readMagnitude?] at h
    split at h
    · rename_i hword
      obtain rfl := Option.some.inj h
      exact .infinite hword
    · split at h
      · rename_i hword
        obtain rfl := Option.some.inj h
        exact .nan hword
      · obtain ⟨d, hd, rfl⟩ := Option.map_eq_some_iff.mp h
        exact .decimal (Decimal.readUnsigned?_eq_some_iff.mp hd)
  · intro h
    cases h with
    | infinite word => exact if_pos word
    | nan word =>
      have hother : ¬ (Text.lower s = "inf".toList ∨ Text.lower s = "infinity".toList) := by
        rw [word]
        decide
      exact (if_neg hother).trans (if_pos word)
    | decimal text =>
      have hinfinite : ¬ (Text.lower s = "inf".toList ∨ Text.lower s = "infinity".toList) :=
        not_or.mpr ⟨text.lower_ne (by decide), text.lower_ne (by decide)⟩
      have hnan : Text.lower s ≠ "nan".toList := text.lower_ne (by decide)
      have hread := Decimal.readUnsigned?_eq_some_iff.mpr text
      exact (if_neg hinfinite).trans ((if_neg hnan).trans (congrArg (Option.map _) hread))

theorem MagnitudeText.ne_nil (h : MagnitudeText f negative s x) : s ≠ [] := by
  rintro rfl
  cases h with
  | infinite word => exact absurd word (by decide)
  | nan word => exact absurd word (by decide)
  | decimal text => exact text.ne_nil rfl

theorem readBinary_of_sign {sign : Char} (hsign : sign = '-' ∨ sign = '+') :
    readBinary f (sign :: t) =
      match readMagnitude? f (sign == '-') t with
      | some x => .ok x
      | none => .error .invalid := by
  rcases hsign with rfl | rfl
  · rfl
  · rfl

theorem readBinary_of_no_sign (hne : s ≠ []) (hhead : ∀ c ∈ s.head?, c ≠ '-' ∧ c ≠ '+') :
    readBinary f s =
      match readMagnitude? f false s with
      | some x => .ok x
      | none => .error .invalid := by
  obtain ⟨c, t, rfl⟩ := List.exists_cons_of_ne_nil hne
  obtain ⟨hminus, hplus⟩ := hhead c rfl
  unfold readBinary
  split
  · rename_i heq
    split at heq
    · rename_i h
      exact absurd (List.cons.inj h).1 hminus
    · rename_i h
      exact absurd (List.cons.inj h).1 hplus
    · obtain ⟨rfl, rfl⟩ := Prod.mk.inj heq
      rfl

/-- **Literals** are read as the values that they stand for, and nothing else is read. -/
theorem readBinary_eq_ok_iff : readBinary f s = .ok x ↔ FloatText f s x := by
  have hread (negative : Bool) (t : List Char) :
      (match readMagnitude? f negative t with
        | some x => Except.ok x
        | none => .error BinaryFault.invalid) = .ok x ↔ MagnitudeText f negative t x := by
    rw [← readMagnitude?_eq_some_iff]
    cases readMagnitude? f negative t with
    | none => exact iff_of_false nofun nofun
    | some y => exact Except.ok.injEq y x ▸ (Option.some_inj (a := y)).symm
  constructor
  · intro h
    cases s with
    | nil => cases h
    | cons c t =>
      by_cases hsign : c = '-' ∨ c = '+'
      · rw [readBinary_of_sign hsign, hread] at h
        rcases hsign with rfl | rfl
        · exact .minus h
        · exact .plus h
      · rw [readBinary_of_no_sign (List.cons_ne_nil c t)
          (by rintro _ ⟨⟩; exact not_or.mp hsign), hread] at h
        exact .plain h
  · intro h
    cases h with
    | minus text =>
      rw [readBinary_of_sign (.inl rfl)]
      exact (hread true _).mpr text
    | plus text =>
      rw [readBinary_of_sign (.inr rfl)]
      exact (hread false _).mpr text
    | plain text =>
      rw [readBinary_of_no_sign text.ne_nil text.head]
      exact (hread false _).mpr text

/-! ## Characters -/

section Characters

variable {P : Char → Prop} (alphanum : ∀ c, c.isAlphanum = true → P c)
  (marks : P '-' ∧ P '+' ∧ P '.')

include alphanum

theorem forall_mem_digits (h : ∀ c ∈ s, c.isDigit = true) : ∀ c ∈ s, P c := fun c hc =>
  alphanum c (by rw [Char.isAlphanum, h c hc, Bool.or_true])

/-- A word in any case of letters consists of letters. -/
theorem forall_mem_word {word : List Char} (hword : word.all Char.isAlpha = true)
    (h : Text.lower s = word) : ∀ c ∈ s, P c := by
  intro c hc
  have hletter : c.toLower.isAlpha = true :=
    List.all_eq_true.mp hword _ (h ▸ List.mem_map_of_mem hc)
  rw [Text.isAlpha_toLower] at hletter
  exact alphanum c (by rw [Char.isAlphanum, hletter, Bool.true_or])

include marks

theorem ScaleText.forall_mem (h : ScaleText e s) : ∀ c ∈ s, P c := by
  cases h with
  | nothing => exact List.forall_mem_nil _
  | number markText _ number =>
    refine List.forall_mem_append.mpr ⟨?_, forall_mem_digits alphanum number⟩
    cases markText with
    | plain either | plus either | minus either =>
      rcases either with rfl | rfl <;> simp [alphanum, marks]

theorem DecimalText.forall_mem (h : DecimalText negative d s) : ∀ c ∈ s, P c := by
  cases h with
  | whole _ number scaleText =>
    exact List.forall_mem_append.mpr
      ⟨forall_mem_digits alphanum number, scaleText.forall_mem alphanum marks⟩
  | point before behind _ scaleText =>
    rw [List.forall_mem_append, List.forall_mem_cons, List.forall_mem_append]
    exact ⟨forall_mem_digits alphanum before, marks.2.2,
      forall_mem_digits alphanum behind, scaleText.forall_mem alphanum marks⟩

theorem MagnitudeText.forall_mem (h : MagnitudeText f negative s x) : ∀ c ∈ s, P c := by
  cases h with
  | infinite word =>
    exact word.elim (forall_mem_word alphanum (by decide)) (forall_mem_word alphanum (by decide))
  | nan word => exact forall_mem_word alphanum (by decide) word
  | decimal text => exact text.forall_mem alphanum marks

/-- **What holds of letters and digits**, of signs and of the point holds of all that a literal is
written in. -/
theorem FloatText.forall_mem (h : FloatText f s x) : ∀ c ∈ s, P c := by
  cases h with
  | minus text =>
    exact List.forall_mem_cons.mpr ⟨marks.1, text.forall_mem alphanum marks⟩
  | plus text =>
    exact List.forall_mem_cons.mpr ⟨marks.2.1, text.forall_mem alphanum marks⟩
  | plain text => exact text.forall_mem alphanum marks

end Characters

theorem FloatText.ne_nil (h : FloatText f s x) : s ≠ [] := by
  cases h with
  | minus | plus => exact List.cons_ne_nil _ _
  | plain text => exact text.ne_nil

end HitCounter.Numeric
