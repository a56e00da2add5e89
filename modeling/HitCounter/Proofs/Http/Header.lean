import HitCounter.Proofs.Text.Ascii

/-!
# The lines with a name

A lookup sees the first line with a name and no other one (`Http.Headers.get?_eq_some_iff`), and
reads it only if it is visible throughout (`Http.Headers.visible?_eq_some_iff`). It is the first of
all lines with the name (`Http.Headers.get?_eq_head?_values`).
-/

namespace HitCounter.Http

open Text (Bytes)

/-- This is the value of the first line with the name, in any case of its letters. The name itself
is given in lower case. -/
inductive FirstLine (name : String) : Headers → Bytes → Prop where
  | mk {before after : Headers} {line : Header}
    (others : ∀ h ∈ before, Text.lower h.name.toList ≠ name.toList)
    (named : Text.lower line.name.toList = name.toList) :
    FirstLine name (before ++ line :: after) line.value

/-- The value of the first line with the name consists of tabs and of bytes that print in ASCII, and
this is its text. -/
def FirstText (name : String) (headers : Headers) (text : String) : Prop :=
  ∃ value, FirstLine name headers value ∧ (∀ b ∈ value, b = 0x09 ∨ 0x20 ≤ b ∧ b ≤ 0x7E) ∧
    text = asciiText value

theorem all_isVisible_iff {bs : Bytes} :
    bs.all isVisible = true ↔ ∀ b ∈ bs, b = 0x09 ∨ 0x20 ≤ b ∧ b ≤ 0x7E := by
  simp only [List.all_eq_true, isVisible, Bool.or_eq_true, beq_iff_eq, Bool.and_eq_true,
    decide_eq_true_eq]

/-- What is read of a line is visible. -/
theorem FirstText.isVisible {name text : String} {headers : Headers}
    (h : FirstText name headers text) : ∀ c ∈ text.toList, Text.IsVisible c := by
  obtain ⟨value, -, hvalue, rfl⟩ := h
  exact isVisible_asciiText (all_isVisible_iff.mpr hvalue)

/-- A line that was written for a visible text is read as that text. -/
theorem FirstLine.firstText {name : String} {headers : Headers} {s : List Char}
    (h : FirstLine name headers (Text.encode s)) (hs : ∀ c ∈ s, Text.IsVisible c) :
    FirstText name headers (String.ofList s) :=
  ⟨_, h, all_isVisible_iff.mp (isVisible_encode hs),
    (asciiText_encode fun c hc => (hs c hc).ascii).symm⟩

namespace Headers

/-- The values of all lines with the name, in order. The name itself is given in lower case. -/
def values (headers : Headers) (name : String) : List Bytes :=
  (headers.filter fun h => Text.lower h.name.toList == name.toList).map (·.value)

variable {headers : Headers} {name text : String}

theorem get?_eq_some_iff {value : Bytes} :
    headers.get? name = some value ↔ FirstLine name headers value := by
  simp only [get?, Option.map_eq_some_iff, List.find?_eq_some_iff_append, beq_iff_eq,
    Bool.not_eq_eq_eq_not, Bool.not_true, beq_eq_false_iff_ne]
  constructor
  · rintro ⟨line, ⟨named, before, after, rfl, others⟩, rfl⟩
    exact .mk others named
  · rintro ⟨others, named⟩
    exact ⟨_, ⟨named, _, _, rfl, others⟩, rfl⟩

theorem visible?_eq_some_iff : headers.visible? name = some text ↔ FirstText name headers text := by
  simp only [FirstText, ← get?_eq_some_iff, ← all_isVisible_iff, visible?]
  cases headers.get? name with
  | none => simp
  | some value =>
    simp only [Option.ite_none_right_eq_some, Option.some.injEq]
    constructor
    · rintro ⟨hvalue, rfl⟩
      exact ⟨value, rfl, hvalue, rfl⟩
    · rintro ⟨_, rfl, hvalue, rfl⟩
      exact ⟨hvalue, rfl⟩

theorem get?_eq_head?_values : headers.get? name = (headers.values name).head? := by
  rw [values, List.head?_map, List.head?_filter, get?]

/-- Of lines that are all visible the first one is read. -/
theorem visible?_eq_head? (h : ∀ value ∈ headers.values name, value.all isVisible = true) :
    headers.visible? name = ((headers.values name).map asciiText).head? := by
  rw [visible?, get?_eq_head?_values, List.head?_map]
  cases hfirst : (headers.values name).head? with
  | none => rfl
  | some value => simp [h value (List.mem_of_head? hfirst)]

end Headers

end HitCounter.Http
