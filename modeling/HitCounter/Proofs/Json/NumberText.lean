import HitCounter.Proofs.Json.Grammar
import HitCounter.Proofs.Numeric.Digits
import HitCounter.Proofs.Numeric.Literal

/-!
# Any text of a JSON number

- **Texts** (`Json.IsNumber`): a sign, digits, a fraction and an exponent.
- **Values** (`Json.NumberText`): the same texts, each with the decimal number that it denotes
  (`Json.isNumber_iff`).
- **Reading** (`Json.NumberText.spells`): a text is read as one number, and that has its value.
- **Literals** (`Json.NumberText.floatText`): the text is a literal of a floating point number as
  well, and the value is the same.
-/

namespace HitCounter.Json

open Numeric (Decimal MarkText ScaleText digitValue)
open Text (encode encode_append)

/-! ## Texts -/

/-- One digit or more. -/
def IsDigits (ds : List Char) : Prop := ds ≠ [] ∧ ∀ d ∈ ds, d.isDigit

/-- What stands before the digits of an exponent. -/
def IsMark (mark : List Char) : Prop :=
  mark ∈ ["e".toList, "E".toList, "e+".toList, "E+".toList, "e-".toList, "E-".toList]

instance : DecidablePred IsDigits := fun ds =>
  decidable_of_iff (ds ≠ [] ∧ ds.all Char.isDigit) (by simp only [IsDigits, List.all_eq_true])

instance : DecidablePred IsMark := fun _ => inferInstanceAs (Decidable (_ ∈ _))

/-- A number: a sign, digits that start with a zero only if it is all of them, a fraction and an
exponent. -/
inductive IsNumber : List Char → Prop where
  | mk {sign whole fraction exponent : List Char} (minus : sign = [] ∨ sign = ['-'])
    (digits : IsDigits whole) (zero : whole = ['0'] ∨ whole.head? ≠ some '0')
    (places : fraction = [] ∨ ∃ ds, IsDigits ds ∧ fraction = '.' :: ds)
    (scale : exponent = [] ∨ ∃ mark ds, IsMark mark ∧ IsDigits ds ∧ exponent = mark ++ ds) :
    IsNumber (sign ++ whole ++ fraction ++ exponent)

/-- A minus sign, or nothing. -/
def signText (negative : Bool) : List Char := if negative then ['-'] else []

/-- The texts of numbers, each with the decimal number that it denotes. -/
inductive NumberText : List Char → Decimal → Prop where
  | whole {negative : Bool} {whole scale : List Char} {e : Int} (digits : IsDigits whole)
    (zero : whole = ['0'] ∨ whole.head? ≠ some '0') (scaleText : ScaleText e scale) :
    NumberText (signText negative ++ whole ++ scale) ⟨negative, Numeric.ofDigits whole, e⟩
  | fraction {negative : Bool} {whole places scale : List Char} {e : Int} (digits : IsDigits whole)
    (zero : whole = ['0'] ∨ whole.head? ≠ some '0') (more : IsDigits places)
    (scaleText : ScaleText e scale) :
    NumberText (signText negative ++ whole ++ '.' :: places ++ scale)
      ⟨negative, Numeric.ofDigits (whole ++ places), e - places.length⟩

variable {cs ds whole scale : List Char} {d : Decimal} {e : Int} {negative : Bool} {s s' : Scan}

theorem exists_signText_iff {sign : List Char} :
    (∃ negative, sign = signText negative) ↔ sign = [] ∨ sign = ['-'] := by
  rw [Bool.exists_bool]
  rfl

theorem exists_markText_iff {mark : List Char} : (∃ sign, MarkText sign mark) ↔ IsMark mark := by
  constructor
  · rintro ⟨sign, h⟩
    cases h with
    | plain either | plus either | minus either =>
      rcases either with rfl | rfl
      · decide
      · decide
  · intro h
    simp only [IsMark, List.mem_cons, List.not_mem_nil, or_false] at h
    rcases h with rfl | rfl | rfl | rfl | rfl | rfl
    · exact ⟨1, .plain (.inl rfl)⟩
    · exact ⟨1, .plain (.inr rfl)⟩
    · exact ⟨1, .plus (.inl rfl)⟩
    · exact ⟨1, .plus (.inr rfl)⟩
    · exact ⟨-1, .minus (.inl rfl)⟩
    · exact ⟨-1, .minus (.inr rfl)⟩

theorem exists_scaleText_iff : (∃ e, ScaleText e scale) ↔
    scale = [] ∨ ∃ mark ds, IsMark mark ∧ IsDigits ds ∧ scale = mark ++ ds := by
  constructor
  · rintro ⟨e, h⟩
    cases h with
    | nothing => exact .inl rfl
    | number markText some number =>
      exact .inr ⟨_, _, exists_markText_iff.mp ⟨_, markText⟩, ⟨some, number⟩, rfl⟩
  · rintro (rfl | ⟨mark, ds, hmark, ⟨hne, hall⟩, rfl⟩)
    · exact ⟨0, .nothing⟩
    · obtain ⟨sign, markText⟩ := exists_markText_iff.mpr hmark
      exact ⟨_, .number markText hne hall⟩

/-- Every number has a value, and nothing else has one. -/
theorem isNumber_iff : IsNumber cs ↔ ∃ d, NumberText cs d := by
  constructor
  · rintro ⟨minus, digits, zero, places, scale⟩
    obtain ⟨negative, rfl⟩ := exists_signText_iff.mpr minus
    obtain ⟨e, scaleText⟩ := exists_scaleText_iff.mpr scale
    rcases places with rfl | ⟨places, more, rfl⟩
    · rw [List.append_nil]
      exact ⟨_, .whole digits zero scaleText⟩
    · exact ⟨_, .fraction digits zero more scaleText⟩
  · rintro ⟨d, h⟩
    cases h with
    | @whole negative whole scale e digits zero scaleText =>
      have text := IsNumber.mk (exists_signText_iff.mp ⟨negative, rfl⟩) digits zero (.inl rfl)
        (exists_scaleText_iff.mp ⟨e, scaleText⟩)
      rwa [List.append_nil] at text
    | @fraction negative whole places scale e digits zero more scaleText =>
      exact .mk (exists_signText_iff.mp ⟨negative, rfl⟩) digits zero (.inr ⟨places, more, rfl⟩)
        (exists_scaleText_iff.mp ⟨e, scaleText⟩)

/-! ## Reading -/

/-- After this text, if it starts between two tokens, the machine stands in a number. -/
def Scans (cs : List Char) (s : Scan) : Prop :=
  ∀ found, (encode cs).foldl Lexer.step ⟨found, .between⟩ = ⟨found, .number s⟩

/-- A digit is one byte, which has its value. -/
theorem encode_digit {c : Char} (h : c.isDigit = true) :
    ∃ b, encode [c] = [b] ∧ digit? b = some (digitValue c) := by
  have hall : ∀ d < 10, ∃ b, encode [d.digitChar] = [b] ∧ digit? b = some d := by
    intro d hd
    interval_cases d <;> exact ⟨_, rfl, rfl⟩
  obtain ⟨hlt, hchar⟩ := Numeric.digitChar_digitValue h
  obtain ⟨b, hb, hdigit⟩ := hall _ hlt
  rw [hchar] at hb
  exact ⟨b, hb, hdigit⟩

theorem Scans.extend (h : Scans cs s) {c : Char} {b : UInt8} (hb : encode [c] = [b])
    (hs : s.extend? b = some s') : Scans (cs ++ [c]) s' := by
  intro found
  rw [encode_append, List.foldl_append, h, hb, List.foldl_cons, List.foldl_nil, Lexer.step]
  simp only [hs]

/-- The number with more digits. -/
def Scan.digits (s : Scan) (ds : List Char) : Option Scan :=
  ds.foldlM (fun s c => s.digit (digitValue c)) s

theorem Scans.digits (h : Scans cs s) (hds : ∀ c ∈ ds, c.isDigit = true)
    (hs : s.digits ds = some s') : Scans (cs ++ ds) s' := by
  induction ds generalizing cs s with
  | nil =>
    obtain rfl := Option.some.inj hs
    rwa [List.append_nil]
  | cons c ds ih =>
    obtain ⟨hc, hds⟩ := List.forall_mem_cons.mp hds
    obtain ⟨b, hb, hdigit⟩ := encode_digit hc
    rw [Scan.digits, List.foldlM_cons, Option.bind_eq_bind, Option.bind_eq_some_iff] at hs
    obtain ⟨s₁, hfirst, hmore⟩ := hs
    have hextend : s.extend? b = some s₁ := by rw [Scan.extend?, hdigit, ← hfirst]
    have htail := ih (h.extend hb hextend) hds hmore
    rwa [List.append_assoc, List.singleton_append] at htail

/-- Digits behind the point go on with the coefficient. -/
theorem Scan.digits_places (hs : s.phase = .point ∨ s.phase = .fraction) (hne : ds ≠ []) :
    s.digits ds = some { s with
      coefficient := ds.foldl (fun n c => n * 10 + digitValue c) s.coefficient
      places := s.places + ds.length, phase := .fraction } := by
  induction ds generalizing s with
  | nil => exact absurd rfl hne
  | cons c ds ih =>
    have hfirst : s.digit (digitValue c) = some { s with
        coefficient := s.coefficient * 10 + digitValue c, places := s.places + 1,
        phase := .fraction } := by
      rcases hs with hs | hs <;> simp only [Scan.digit, hs]
    rw [Scan.digits, List.foldlM_cons, hfirst]
    by_cases hds : ds = []
    · subst hds
      rfl
    · refine (ih (.inr rfl) hds).trans ?_
      simp only [List.foldl_cons, List.length_cons, Nat.add_assoc, Nat.add_comm 1]

/-- Digits behind the mark are those of the exponent. -/
theorem Scan.digits_exponent (hs : s.phase = .mark ∨ s.phase = .markSign ∨ s.phase = .exponent)
    (hne : ds ≠ []) :
    s.digits ds = some { s with
      exponent := ds.foldl (fun n c => n * 10 + digitValue c) s.exponent, phase := .exponent } := by
  induction ds generalizing s with
  | nil => exact absurd rfl hne
  | cons c ds ih =>
    have hfirst : s.digit (digitValue c) =
        some { s with exponent := s.exponent * 10 + digitValue c, phase := .exponent } := by
      rcases hs with hs | hs | hs <;> simp only [Scan.digit, hs]
    rw [Scan.digits, List.foldlM_cons, hfirst]
    by_cases hds : ds = []
    · subst hds
      rfl
    · exact ih (.inr (.inr rfl)) hds

/-- Digits that start with a zero only if it is all of them are those of their number. -/
theorem IsDigits.eq_toDigits (h : IsDigits whole) (zero : whole = ['0'] ∨ whole.head? ≠ some '0') :
    whole = Nat.toDigits 10 (Numeric.ofDigits whole) := by
  rcases zero with rfl | hhead
  · decide
  · obtain ⟨zeros, hspells⟩ := Numeric.spells_ofDigits h.1 h.2
    cases zeros with
    | zero => exact hspells
    | succ zeros =>
      rw [hspells] at hhead
      exact absurd rfl hhead

/-- A sign and the digits before a point and an exponent. -/
theorem scans_whole (h : IsDigits whole) (zero : whole = ['0'] ∨ whole.head? ≠ some '0') :
    Scans (signText negative ++ whole) (.ofDigits negative (Numeric.ofDigits whole)) := by
  intro found
  have hsign : (encode (signText negative)).foldl Lexer.step ⟨found, .between⟩ =
      beforeDigits found negative := by
    cases negative <;> rfl
  have hdigits := foldl_step_toDigits found negative (Numeric.ofDigits whole)
  rw [← h.eq_toDigits zero] at hdigits
  rw [encode_append, List.foldl_append, hsign, hdigits]

/-- A point with the digits behind it. -/
theorem Scans.fraction (h : Scans cs s) (hs : s.phase = .zero ∨ s.phase = .whole)
    (hds : IsDigits ds) : Scans (cs ++ '.' :: ds) { s with
      coefficient := ds.foldl (fun n c => n * 10 + digitValue c) s.coefficient
      places := s.places + ds.length, phase := .fraction } := by
  have hpoint : s.extend? 0x2E = some { s with phase := .point } := by
    rcases hs with hs | hs <;> simp [Scan.extend?, digit?, hs]
  have hdigits := (h.extend (c := '.') rfl hpoint).digits hds.2
    (Scan.digits_places (.inl rfl) hds.1)
  rwa [List.append_assoc, List.singleton_append] at hdigits

/-- The mark of an exponent, with its sign. -/
theorem Scans.marked (h : Scans cs s)
    (hs : s.phase = .zero ∨ s.phase = .whole ∨ s.phase = .fraction)
    (hpositive : s.exponentNegative = false) {sign : Int} {mark : List Char}
    (markText : MarkText sign mark) : ∃ phase, (phase = .mark ∨ phase = .markSign) ∧
      Scans (cs ++ mark) { s with exponentNegative := sign = -1, phase := phase } := by
  have hletter {letter : Char} (either : letter = 'e' ∨ letter = 'E') :
      Scans (cs ++ [letter]) { s with phase := .mark } := by
    rcases either with rfl | rfl
    · refine h.extend (b := 0x65) rfl ?_
      rcases hs with hs | hs | hs <;> simp [Scan.extend?, digit?, hs]
    · refine h.extend (b := 0x45) rfl ?_
      rcases hs with hs | hs | hs <;> simp [Scan.extend?, digit?, hs]
  -- Only a minus sign changes what is known of the exponent.
  obtain ⟨negative, coefficient, places, exponentNegative, exponent, phase⟩ := s
  obtain rfl : exponentNegative = false := hpositive
  cases markText with
  | plain either => exact ⟨.mark, .inl rfl, hletter either⟩
  | plus either =>
    have hscans := (hletter either).extend (c := '+') rfl rfl
    rw [List.append_assoc] at hscans
    exact ⟨.markSign, .inr rfl, hscans⟩
  | minus either =>
    have hscans := (hletter either).extend (c := '-') rfl rfl
    rw [List.append_assoc] at hscans
    exact ⟨.markSign, .inr rfl, hscans⟩

/-- A complete number with an exponent or none. -/
theorem Scans.scaled {n places : Nat} {phase : Phase}
    (h : Scans cs { negative, coefficient := n, places, phase })
    (hphase : phase = .zero ∨ phase = .whole ∨ phase = .fraction)
    (hplaces : phase = .fraction ∨ places = 0) (scaleText : ScaleText e scale) :
    ∃ number, SpellsBefore (cs ++ scale) [.number number] ∧
      number.toDecimal = ⟨negative, n, e - places⟩ := by
  cases scaleText with
  | nothing =>
    rw [List.append_nil]
    rcases hphase with rfl | rfl | rfl
    · obtain rfl := hplaces.resolve_left nofun
      exact ⟨_, spellsBefore_number h rfl, rfl⟩
    · obtain rfl := hplaces.resolve_left nofun
      exact ⟨_, spellsBefore_number h rfl, rfl⟩
    · exact ⟨_, spellsBefore_number h rfl, by simp [Number.toDecimal, Scan.scale]⟩
  | @number sign mark digits markText some number =>
    obtain ⟨phase', hphase', hmark⟩ := h.marked hphase rfl markText
    have hdigits := hmark.digits number
      (Scan.digits_exponent (hphase'.imp_right .inl) some)
    rw [List.append_assoc] at hdigits
    refine ⟨_, spellsBefore_number hdigits rfl, ?_⟩
    have hsigned : (if decide (sign = -1) = true then -(Numeric.ofDigits digits : Int)
        else Numeric.ofDigits digits) = sign * Numeric.ofDigits digits := by
      cases markText <;> simp
    exact congrArg (fun e => (⟨negative, n, e - places⟩ : Decimal)) hsigned

/-- **A number** is read as one token with its value, if a delimiter follows it. -/
theorem NumberText.spells (h : NumberText cs d) :
    ∃ n, SpellsBefore cs [.number n] ∧ n.toDecimal = d := by
  have hphase (n : Nat) : (if n = 0 then Phase.zero else .whole) = .zero ∨
      (if n = 0 then Phase.zero else .whole) = .whole := by
    by_cases hn : n = 0 <;> simp [hn]
  cases h with
  | @whole negative whole scale e digits zero scaleText =>
    have hwhole : Scans (signText negative ++ whole) _ := scans_whole digits zero
    obtain ⟨n, hn, hvalue⟩ := hwhole.scaled ((hphase _).imp_right .inl) (.inr rfl) scaleText
    refine ⟨n, hn, hvalue.trans ?_⟩
    rw [Int.natCast_zero, Int.sub_zero]
  | @fraction negative whole places scale e digits zero more scaleText =>
    have hwhole : Scans (signText negative ++ whole) _ := scans_whole digits zero
    have hfraction := hwhole.fraction (hphase _) more
    obtain ⟨n, hn, hvalue⟩ := hfraction.scaled (.inr (.inr rfl)) (.inl rfl) scaleText
    refine ⟨n, hn, hvalue.trans ?_⟩
    have hcoefficient : Numeric.ofDigits (whole ++ places) =
        places.foldl (fun n c => n * 10 + digitValue c) (Numeric.ofDigits whole) :=
      List.foldl_append
    rw [hcoefficient]
    simp only [Scan.ofDigits, Nat.zero_add]

/-- A number whose nearest value is finite has a value. -/
theorem Number.exists_value {n : Number} (h : n.toDouble.isFinite = true) :
    ∃ value, n.value = .ok value := by
  unfold Number.value
  cases n.integer? with
  | some i => exact ⟨.integer i, rfl⟩
  | none => exact ⟨.float n.toDouble, if_pos h⟩

/-- A list of such numbers is in order as a whole. -/
theorem Node.check_numbers {ns : List Number} (h : ∀ n ∈ ns, n.toDouble.isFinite = true)
    (depth : Nat) : (Node.list (ns.map .number) none).check (depth + 1) = .ok () := by
  have hitems : (ns.map Node.number).forM (Node.check depth) = .ok () := by
    induction ns with
    | nil => rfl
    | cons n ns ih =>
      obtain ⟨hn, hns⟩ := List.forall_mem_cons.mp h
      obtain ⟨value, hvalue⟩ := Number.exists_value hn
      rw [List.map_cons, List.forM, Node.check, hvalue]
      exact ih hns
  rw [Node.check, hitems]
  rfl

/-! ## Literals -/

/-- **A number** is a literal, and stands for the value that is nearest to it. -/
theorem NumberText.floatText (f : Numeric.Format) (h : NumberText cs d) :
    Numeric.FloatText f cs (d.toBinary f) := by
  have hsign {s : List Char} (negative : Bool) {d : Decimal}
      (text : Numeric.DecimalText negative d s) :
      Numeric.FloatText f (signText negative ++ s) (d.toBinary f) := by
    cases negative with
    | true => exact .minus (.decimal text)
    | false => exact .plain (.decimal text)
  cases h with
  | @whole negative whole scale e digits zero scaleText =>
    rw [List.append_assoc]
    exact hsign negative (.whole digits.1 digits.2 scaleText)
  | @fraction negative whole places scale e digits zero more scaleText =>
    rw [List.append_assoc, List.append_assoc]
    exact hsign negative (.point digits.2 more.2 (.inl digits.1) scaleText)

end HitCounter.Json
