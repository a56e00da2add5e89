import HitCounter.Text.Basic

/-!
# Cutting what was joined

A list without separators is a part of its own (`split_free`), and parts that were joined with a
separator are cut where they were joined (`split_intercalate`, and `split_eq_iff` for separators of
several kinds). What follows the last separator is cut off (`beforeLast_append_cons`), and a word of
several characters separates where it occurs last (`afterLast?_eq_some_iff`). What is taken while a
property holds ends where it first fails (`span_append`).
-/

namespace HitCounter.Text

variable {α : Type} {sep : α → Bool} {part rest : List α} {x : α}

theorem split_free (h : ∀ c ∈ part, sep c = false) : split sep part = [part] := by
  induction part with
  | nil => rfl
  | cons c part ih =>
    have hrest : split sep part = [part] := ih fun d hd => h d (List.mem_cons_of_mem c hd)
    unfold split at hrest ⊢
    rw [List.foldr_cons, hrest]
    simp only [h c List.mem_cons_self, Bool.false_eq_true, ↓reduceIte]

/-- The first part ends at the first separator. -/
theorem split_append_cons (h : ∀ c ∈ part, sep c = false) (hx : sep x = true) :
    split sep (part ++ x :: rest) = part :: split sep rest := by
  induction part with
  | nil =>
    rw [List.nil_append]
    simp only [split, List.foldr_cons, hx, ↓reduceIte]
  | cons c part ih =>
    have hrest := ih fun d hd => h d (List.mem_cons_of_mem c hd)
    rw [List.cons_append]
    unfold split at hrest ⊢
    rw [List.foldr_cons, hrest]
    simp only [h c List.mem_cons_self, Bool.false_eq_true, ↓reduceIte]

/-- Parts that are joined with a separator are cut where they were joined. -/
theorem split_intercalate {parts : List (List α)} (hne : parts ≠ []) (hx : sep x = true)
    (h : ∀ part ∈ parts, ∀ c ∈ part, sep c = false) :
    split sep ([x].intercalate parts) = parts := by
  induction parts with
  | nil => contradiction
  | cons part parts ih =>
    have hpart := h part List.mem_cons_self
    cases parts with
    | nil => rw [List.intercalate_singleton, split_free hpart]
    | cons next more =>
      rw [List.intercalate_cons_cons, List.append_assoc, List.singleton_append,
        split_append_cons hpart hx,
        ih (List.cons_ne_nil _ _) fun p hp => h p (List.mem_cons_of_mem part hp)]

/-- The list is made of these parts, with one separator between any two. -/
inductive CutAt (sep : α → Bool) : List α → List (List α) → Prop where
  | last {part : List α} (free : ∀ c ∈ part, sep c = false) : CutAt sep part [part]
  | more {part rest : List α} {x : α} {parts : List (List α)} (free : ∀ c ∈ part, sep c = false)
    (between : sep x = true) (others : CutAt sep rest parts) :
    CutAt sep (part ++ x :: rest) (part :: parts)

/-- A separator in front ends an empty part. -/
theorem CutAt.separator {s : List α} {parts : List (List α)} (h : CutAt sep s parts)
    (hx : sep x = true) : CutAt sep (x :: s) ([] :: parts) :=
  @CutAt.more _ _ [] _ _ _ (fun _ hc => absurd hc List.not_mem_nil) hx h

/-- Any other element in front belongs to the first part. -/
theorem CutAt.cons {s : List α} {parts : List (List α)} (h : CutAt sep s (part :: parts))
    (hx : sep x = false) : CutAt sep (x :: s) ((x :: part) :: parts) := by
  cases h with
  | last free => exact .last (List.forall_mem_cons.mpr ⟨hx, free⟩)
  | more free between others =>
    have hfirst : ∀ c ∈ x :: part, sep c = false := List.forall_mem_cons.mpr ⟨hx, free⟩
    exact .more hfirst between others

theorem CutAt.free_head {s : List α} {parts : List (List α)} (h : CutAt sep s (part :: parts)) :
    ∀ c ∈ part, sep c = false := by
  cases h with
  | last free => exact free
  | more free => exact free

theorem exists_cutAt (sep : α → Bool) (s : List α) :
    ∃ first others, CutAt sep s (first :: others) := by
  induction s with
  | nil => exact ⟨[], [], .last fun _ hc => absurd hc List.not_mem_nil⟩
  | cons c s ih =>
    obtain ⟨first, others, hcut⟩ := ih
    cases hc : sep c with
    | true => exact ⟨_, _, hcut.separator hc⟩
    | false => exact ⟨_, _, hcut.cons hc⟩

theorem CutAt.split_eq {s : List α} {parts : List (List α)} (h : CutAt sep s parts) :
    split sep s = parts := by
  induction h with
  | last free => exact split_free free
  | more free between _ ih => rw [split_append_cons free between, ih]

/-- A list is cut in one way only. -/
theorem split_eq_iff {s : List α} {parts : List (List α)} :
    split sep s = parts ↔ CutAt sep s parts := by
  refine ⟨fun h => ?_, CutAt.split_eq⟩
  obtain ⟨first, others, hcut⟩ := exists_cutAt sep s
  rw [← h, hcut.split_eq]
  exact hcut

theorem splitFirst?_append_cons (h : ∀ c ∈ part, sep c = false) (hx : sep x = true) :
    splitFirst? sep (part ++ x :: rest) = some (part, rest) := by
  have hfree : ∀ c ∈ part, (!sep c) = true := fun c hc => by rw [h c hc]; rfl
  have hend : (!sep x) = false := by rw [hx]; rfl
  unfold splitFirst?
  rw [List.dropWhile_append_of_pos hfree, List.takeWhile_append_of_pos hfree]
  simp only [List.dropWhile_cons, List.takeWhile_cons, hend, Bool.false_eq_true, ↓reduceIte,
    List.append_nil]

/-- What comes before a separator is the beginning of the text. -/
theorem isPrefix_of_splitFirst? {s before after : List α}
    (h : splitFirst? sep s = some (before, after)) : before <+: s := by
  unfold splitFirst? at h
  split at h
  · cases h
  · obtain ⟨rfl, -⟩ := Prod.mk.inj (Option.some.inj h)
    exact List.takeWhile_prefix _

theorem dropWhile_reverse_free (h : ∀ c ∈ part, sep c = false) (before : List α) :
    (part.reverse ++ before).dropWhile (fun c => !sep c) = before.dropWhile (fun c => !sep c) :=
  List.dropWhile_append_of_pos fun c hc => by rw [h c (List.mem_reverse.mp hc)]; rfl

theorem beforeLast_free (h : ∀ c ∈ part, sep c = false) : beforeLast sep part = part := by
  have hnone := dropWhile_reverse_free h []
  rw [List.append_nil] at hnone
  rw [beforeLast, hnone]
  rfl

/-- What follows the last separator is cut off with it. -/
theorem beforeLast_append_cons (h : ∀ c ∈ rest, sep c = false) (hx : sep x = true) :
    beforeLast sep (part ++ x :: rest) = part := by
  have hreverse : (part ++ x :: rest).reverse = rest.reverse ++ x :: part.reverse := by simp
  rw [beforeLast, hreverse, dropWhile_reverse_free h]
  simp only [List.dropWhile_cons, hx, Bool.not_true, Bool.false_eq_true, ↓reduceIte,
    List.reverse_reverse]

/-! ## Where a property first fails -/

/-- What is taken while a property holds ends where it first fails. -/
theorem span_append {p : α → Bool} (hpart : ∀ c ∈ part, p c = true)
    (hrest : ∀ c ∈ rest.head?, p c = false) :
    (part ++ rest).takeWhile p = part ∧ (part ++ rest).dropWhile p = rest := by
  rw [List.takeWhile_append_of_pos hpart, List.dropWhile_append_of_pos hpart]
  cases rest with
  | nil => simp
  | cons c rest =>
    have hc : ¬ p c = true := by simpa using hrest c rfl
    rw [List.takeWhile_cons_of_neg hc, List.dropWhile_cons_of_neg hc, List.append_nil]
    exact ⟨rfl, rfl⟩

theorem takeWhile_of_head {p : α → Bool} (h : ∀ c ∈ rest.head?, p c = false) :
    rest.takeWhile p = [] := by
  have hnone : ∀ c ∈ ([] : List α), p c = true := fun _ hc => absurd hc List.not_mem_nil
  exact (span_append hnone h).1

theorem head_dropWhile (p : α → Bool) (s : List α) : ∀ c ∈ (s.dropWhile p).head?, p c = false := by
  intro c hc
  have hfirst := List.head?_dropWhile_not p s
  rwa [Option.mem_def.mp hc] at hfirst

/-! ## The last occurrence of a word -/

variable {word last s : List Char}

/-- An occurrence further on counts before any that was found. -/
theorem afterLastFrom_eq (best : Option (List Char)) (s : List Char) :
    afterLastFrom word best s = (afterLast? word s).or best := by
  induction s generalizing best with
  | nil => rfl
  | cons c s ih =>
    have hstep (found : Option (List Char)) : afterLastFrom word found (c :: s) =
        (afterLast? word s).or (if word.isPrefixOf (c :: s) then
          some ((c :: s).drop word.length) else found) := ih _
    rw [afterLast?, hstep, hstep, Option.or_assoc]
    split <;> rfl

theorem afterLast?_cons (c : Char) (s : List Char) :
    afterLast? word (c :: s) = (afterLast? word s).or
      (if word.isPrefixOf (c :: s) then some ((c :: s).drop word.length) else none) :=
  afterLastFrom_eq _ s

theorem afterLast?_eq_none_iff (hword : word ≠ []) :
    afterLast? word s = none ↔ ¬ word <:+: s := by
  induction s with
  | nil => simp [afterLast?, afterLastFrom, hword]
  | cons c s ih =>
    rw [afterLast?_cons, Option.or_eq_none_iff, ih, List.infix_cons_iff, not_or, and_comm,
      ← List.isPrefixOf_iff_prefix]
    simp

/-- More text in front does not change what follows the last occurrence. -/
theorem afterLast?_append (h : afterLast? word s = some last) (before : List Char) :
    afterLast? word (before ++ s) = some last := by
  induction before with
  | nil => exact h
  | cons c before ih => rw [List.cons_append, afterLast?_cons, ih, Option.some_or]

/-- **What follows the last occurrence** of a word: none starts later. -/
theorem afterLast?_eq_some_iff (hword : word ≠ []) :
    afterLast? word s = some last ↔
      ∃ before, s = before ++ (word ++ last) ∧ ¬ word <:+: (word ++ last).tail := by
  constructor
  · intro h
    induction s with
    | nil => cases h
    | cons c s ih =>
      rw [afterLast?_cons] at h
      cases hs : afterLast? word s with
      | some found =>
        rw [hs, Option.some_or] at h
        obtain ⟨before, rfl, hlast⟩ := ih (hs.trans h)
        exact ⟨c :: before, rfl, hlast⟩
      | none =>
        rw [hs, Option.none_or, Option.ite_none_right_eq_some, List.isPrefixOf_iff_prefix,
          Option.some.injEq, List.prefix_iff_eq_append] at h
        obtain ⟨heq, rfl⟩ := h
        rw [heq]
        exact ⟨[], rfl, (afterLast?_eq_none_iff hword).mp hs⟩
  · rintro ⟨before, rfl, hlast⟩
    refine afterLast?_append ?_ before
    obtain ⟨c, word, rfl⟩ := List.exists_cons_of_ne_nil hword
    have hlater : afterLast? (c :: word) (word ++ last) = none :=
      (afterLast?_eq_none_iff hword).mpr hlast
    rw [List.cons_append, afterLast?_cons, hlater, Option.none_or, ← List.cons_append,
      if_pos (List.isPrefixOf_iff_prefix.mpr (List.prefix_append _ _)), List.drop_left]

end HitCounter.Text
