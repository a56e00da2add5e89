import HitCounter.Proofs.Text.Ascii
import HitCounter.Proofs.Text.Split
import Mathlib.Data.List.TakeWhile

/-!
# Trimming

- **One way to trim** (`Text.trim_padded`, `Text.exists_padding`): every text is padding, a text
  with white space at neither end, and padding again, and the one in the middle is the trimmed text.
  So more padding changes nothing (`Text.trim_append`).
- **Contexts** (`Text.trim_infix_trim`, `Text.trim_prefix_trim`): a trimmed text is still there
  after any text is put around it, and still at the start if only padding is put in front.
- **Letter case** (`Text.trim_lower`): the case of letters has no say in it.
-/

namespace HitCounter.Text

/-- All of the text is white space. -/
def IsPadding (s : List Char) : Prop := ∀ c ∈ s, isBlank c = true

/-- White space stands neither at the start of the text nor at its end. -/
def Tight (s : List Char) : Prop :=
  (∀ c ∈ s.head?, isBlank c = false) ∧ ∀ c ∈ s.getLast?, isBlank c = false

instance : DecidablePred IsPadding := List.decidableBAll _

variable {s t a b : List Char}

theorem isPadding_nil : IsPadding [] := fun _ h => absurd h List.not_mem_nil

theorem IsPadding.append (ha : IsPadding a) (hb : IsPadding b) : IsPadding (a ++ b) :=
  List.forall_mem_append.mpr ⟨ha, hb⟩

theorem IsPadding.reverse (h : IsPadding s) : IsPadding s.reverse := fun c hc =>
  h c (List.mem_reverse.mp hc)

theorem Tight.reverse (h : Tight s) : Tight s.reverse := by
  rw [Tight, List.head?_reverse, List.getLast?_reverse]
  exact h.symm

/-- A text without any white space. -/
theorem tight_of_forall (h : ∀ c ∈ s, isBlank c = false) : Tight s :=
  ⟨fun c hc => h c (List.mem_of_mem_head? hc), fun c hc => h c (List.mem_of_mem_getLast? hc)⟩

/-- Letters and digits of ASCII are no white space. -/
theorem isBlank_of_isAlphanum {c : Char} (h : c.isAlphanum = true) : isBlank c = false := by
  obtain ⟨hleast, hmost⟩ := isAlphanum_bounds h
  rw [← Bool.not_eq_true]
  simp only [isBlank, Bool.or_eq_true, Bool.and_eq_true, decide_eq_true_eq, beq_iff_eq]
  omega

/-! ## One way to trim -/

/-- The start of a text goes as far as its padding, unless nothing else is in it. -/
theorem dropWhile_padded (ha : IsPadding a) (ht : Tight t) (hne : t ≠ []) (s : List Char) :
    (a ++ (t ++ s)).dropWhile isBlank = t ++ s := by
  obtain ⟨c, t, rfl⟩ := List.exists_cons_of_ne_nil hne
  rw [List.dropWhile_append_of_pos ha, List.cons_append, List.dropWhile_cons_of_neg]
  rw [ht.1 c rfl]
  exact Bool.false_ne_true

/-- Padding is cut off at both ends. -/
theorem trim_padded (ha : IsPadding a) (ht : Tight t) (hb : IsPadding b) :
    trim (a ++ t ++ b) = t := by
  by_cases hne : t = []
  · subst hne
    have hall : (a ++ [] ++ b).dropWhile isBlank = [] :=
      List.dropWhile_eq_nil_iff.mpr ((ha.append isPadding_nil).append hb)
    rw [trim, hall]
    rfl
  · rw [trim, List.append_assoc, dropWhile_padded ha ht hne, List.reverse_append,
      ← List.append_nil t.reverse, dropWhile_padded hb.reverse ht.reverse (by simpa using hne),
      List.append_nil, List.reverse_reverse]

/-- **One way to trim.** Around the trimmed text there is only padding. -/
theorem exists_padding (s : List Char) :
    Tight (trim s) ∧ ∃ a b, IsPadding a ∧ IsPadding b ∧ s = a ++ trim s ++ b := by
  have hpadding (s : List Char) : IsPadding (s.takeWhile isBlank) := fun c hc =>
    List.mem_takeWhile_imp hc
  let after := ((s.dropWhile isBlank).reverse.takeWhile isBlank).reverse
  have hsplit : s.dropWhile isBlank = trim s ++ after := by
    rw [trim, ← List.reverse_append, List.takeWhile_append_dropWhile, List.reverse_reverse]
  refine ⟨⟨fun c hc => head_dropWhile isBlank s c ?_, fun c hc => ?_⟩, s.takeWhile isBlank,
    after, hpadding s, (hpadding _).reverse, ?_⟩
  · rw [hsplit, List.head?_append, Option.mem_def.mp hc]
    rfl
  · rw [trim, List.getLast?_reverse] at hc
    exact head_dropWhile isBlank _ c hc
  · rw [List.append_assoc, ← hsplit, List.takeWhile_append_dropWhile]

/-- More padding is trimmed with the rest. -/
theorem trim_append (ha : IsPadding a) (hb : IsPadding b) (s : List Char) :
    trim (a ++ s ++ b) = trim s := by
  obtain ⟨htight, a', b', ha', hb', hs⟩ := exists_padding s
  have hwhole : a ++ s ++ b = (a ++ a') ++ trim s ++ (b' ++ b) :=
    calc a ++ s ++ b = a ++ (a' ++ trim s ++ b') ++ b := by rw [← hs]
      _ = (a ++ a') ++ trim s ++ (b' ++ b) := by simp only [List.append_assoc]
  rw [hwhole, trim_padded (ha.append ha') htight (hb'.append hb)]

theorem trim_inside (s : List Char) : trim s <:+: s := by
  obtain ⟨-, a, b, -, -, hs⟩ := exists_padding s
  exact ⟨a, b, hs.symm⟩

/-! ## Contexts -/

/-- What has white space at neither end is not cut into. -/
theorem Tight.infix_dropWhile (ht : Tight t) (h : t <:+: s) : t <:+: s.dropWhile isBlank := by
  induction s with
  | nil => exact h
  | cons c s ih =>
    rw [List.dropWhile_cons]
    split
    · rename_i hc
      refine (List.infix_cons_iff.mp h).elim (fun hstart => ?_) ih
      cases t with
      | nil => exact List.nil_infix
      | cons d t =>
        obtain ⟨rfl, -⟩ := List.cons_prefix_cons.mp hstart
        exact absurd hc (by simp [ht.1 d rfl])
    · exact h

/-- What has white space at neither end is in the trimmed text if it is in the text. -/
theorem Tight.infix_trim (ht : Tight t) (h : t <:+: s) : t <:+: trim s := by
  have hfront := ht.infix_dropWhile h
  have hback := ht.reverse.infix_dropWhile (List.reverse_infix.mpr hfront)
  rw [trim, ← List.reverse_infix, List.reverse_reverse]
  exact hback

/-- **In any context** the trimmed text is there when the whole is trimmed. -/
theorem trim_infix_trim (a s b : List Char) : trim s <:+: trim (a ++ s ++ b) :=
  (exists_padding s).1.infix_trim ((trim_inside s).trans ⟨a, b, rfl⟩)

/-- **Behind padding** it is there from the start. -/
theorem trim_prefix_trim (ha : IsPadding a) (s b : List Char) :
    trim s <+: trim (a ++ s ++ b) := by
  obtain ⟨htight, a', b', ha', -, hs⟩ := exists_padding s
  by_cases hne : trim s = []
  · rw [hne]
    exact List.nil_prefix
  · have hwhole : a ++ s ++ b = (a ++ a') ++ (trim s ++ (b' ++ b)) :=
      calc a ++ s ++ b = a ++ (a' ++ trim s ++ b') ++ b := by rw [← hs]
        _ = (a ++ a') ++ (trim s ++ (b' ++ b)) := by simp only [List.append_assoc]
    have hstop : (trim s).reverse.dropWhile isBlank = (trim s).reverse := by
      simpa using dropWhile_padded isPadding_nil htight.reverse (by simpa using hne) []
    rw [hwhole, ← List.reverse_suffix]
    generalize trim s = t at *
    rw [trim, dropWhile_padded (ha.append ha') htight hne, List.reverse_append,
      List.reverse_reverse, List.dropWhile_append, hstop]
    split
    · exact List.suffix_rfl
    · exact List.suffix_append _ _

/-! ## Letter case -/

theorem isBlank_toLower (c : Char) : isBlank c.toLower = isBlank c :=
  (toLower_related (fun c d => isBlank c = isBlank d) (fun _ => rfl) (by decide) c).symm

/-- A text may be trimmed before or after it is put into lower case. -/
theorem trim_lower (s : List Char) : trim (lower s) = lower (trim s) := by
  have hsame : isBlank ∘ Char.toLower = isBlank := funext isBlank_toLower
  rw [trim, lower, List.dropWhile_map, hsame, ← List.map_reverse, List.dropWhile_map, hsame,
    ← List.map_reverse]
  rfl

/-! ## Bytes -/

theorem byteLength_append (s t : List Char) :
    byteLength (s ++ t) = byteLength s + byteLength t := by
  have hshift (n : Nat) (t : List Char) :
      t.foldl (fun n c => n + c.utf8Size) n = n + byteLength t := by
    induction t generalizing n with
    | nil => rfl
    | cons c t ih =>
      rw [byteLength, List.foldl_cons, List.foldl_cons, ih, ih (0 + c.utf8Size)]
      omega
  rw [byteLength, List.foldl_append, hshift]
  rfl

theorem byteLength_le_of_inside (h : t <:+: s) : byteLength t ≤ byteLength s := by
  obtain ⟨a, b, rfl⟩ := h
  rw [byteLength_append, byteLength_append]
  omega

theorem byteLength_lower (s : List Char) : byteLength (lower s) = byteLength s := by
  have hsize (c : Char) : c.toLower.utf8Size = c.utf8Size :=
    (toLower_related (fun c d => c.utf8Size = d.utf8Size) (fun _ => rfl) (by decide) c).symm
  simp only [byteLength, lower, List.foldl_map, hsize]

end HitCounter.Text
