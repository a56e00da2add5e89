import HitCounter.Visitor.Bot

/-!
# Pages loaded ahead of time

- **Search** (`Text.contains_iff`): the search for a word finds it exactly where it is an infix.
- **Announcements** (`Visitor.AnnouncesPreload`): a purpose header that can be read speaks of a page
  loaded ahead of time. Requests that announce it are those classified so
  (`Visitor.classify_eq_prefetch_iff`).
-/

namespace HitCounter

/-- A search finds a word exactly if the word is an infix of the text. -/
theorem Text.contains_iff {word s : List Char} : contains word s = true ↔ word <:+: s := by
  induction s with
  | nil => simp [contains]
  | cons c s ih =>
    rw [contains, Bool.or_eq_true, List.isPrefixOf_iff_prefix, ih, List.infix_cons_iff]

namespace Visitor

open Http (Headers)

theorem holdsAny_iff {words : List String} {s : List Char} :
    holdsAny words s = true ↔ ∃ w ∈ words, w.toList <:+: s := by
  simp only [holdsAny, List.any_eq_true, Text.contains_iff]

/-- One of the purpose headers has a visible value in which, in any case of letters, one of the
words for a page loaded ahead of time occurs. -/
def AnnouncesPreload (headers : Headers) : Prop :=
  ∃ name ∈ ["purpose", "x-purpose", "sec-purpose", "x-moz"], ∃ value,
    headers.visible? name = some value ∧
      ∃ word ∈ ["prefetch", "preview"], word.toList <:+: Text.lower value.toList

theorem isPrefetch_iff {headers : Headers} :
    isPrefetch headers = true ↔ AnnouncesPreload headers := by
  simp only [isPrefetch, List.any_eq_true]
  constructor
  · rintro ⟨name, hname, hv⟩
    split at hv
    · rename_i value hvalue
      exact ⟨name, hname, value, hvalue, holdsAny_iff.mp hv⟩
    · cases hv
  · rintro ⟨name, hname, value, hvalue, hw⟩
    refine ⟨name, hname, ?_⟩
    rw [hvalue]
    exact holdsAny_iff.mpr hw

instance : DecidablePred AnnouncesPreload := fun headers =>
  decidable_of_iff (isPrefetch headers = true) isPrefetch_iff

theorem classifyUserAgent_ne_prefetch (userAgent : String) :
    classifyUserAgent userAgent ≠ .prefetch := by
  unfold classifyUserAgent
  grind

/-- A request is classified as a prefetch exactly if it announces one. -/
theorem classify_eq_prefetch_iff {headers : Headers} :
    classify headers = .prefetch ↔ AnnouncesPreload headers := by
  rw [← isPrefetch_iff]
  unfold classify
  split
  · simp_all
  · simp [classifyUserAgent_ne_prefetch, *]

end Visitor

end HitCounter
