import HitCounter.Proofs.Http.Header
import HitCounter.Proofs.Text.Split
import HitCounter.Visitor.Location

/-!
# The client that the nearest proxy names

A proxy adds the address that it sees to the header for forwarded requests. What stands there
already may have been forged.

- **One line** (`Visitor.Nearest`): the nearest entry follows the last separator. It is the client
  (`Visitor.resolveClient_eq_iff`), whatever stands in front of it
  (`Visitor.resolveClient_nearest`).
- **Several lines** (`Visitor.clientAddress_joined_iff`): they make up one list, in which the last
  line decides. The server looks at the first line, so the two agree exactly if the nearest entries
  of these two lines do.
-/

namespace HitCounter.Visitor

open Http (Headers)

/-! ## One line -/

/-- A text without a separator of entries. -/
def IsEntry (entry : String) : Prop := ¬ ", ".toList <:+: entry.toList

instance : DecidablePred IsEntry := fun _ => inferInstanceAs (Decidable (¬ _))

/-- The entry nearest to the server: all of the value, or what follows its last separator. -/
inductive Nearest : String → String → Prop where
  | only {entry : String} (whole : IsEntry entry) : Nearest entry entry
  | last {before entry : String} (whole : IsEntry entry) : Nearest (before ++ ", " ++ entry) entry

variable {value entry : String}

/-- No separator starts in the last character of another one. -/
theorem separator_infix_iff {s : List Char} :
    ", ".toList <:+: (", ".toList ++ s).tail ↔ ", ".toList <:+: s := by
  change ", ".toList <:+: ' ' :: s ↔ _
  rw [List.infix_cons_iff, or_iff_right]
  rintro ⟨more, hmore⟩
  cases hmore

theorem afterLast?_separator {s last : List Char} :
    Text.afterLast? ", ".toList s = some last ↔
      ∃ before, s = before ++ (", ".toList ++ last) ∧ ¬ ", ".toList <:+: last := by
  simp only [Text.afterLast?_eq_some_iff (show ", ".toList ≠ [] by decide), separator_infix_iff]

theorem Nearest.resolveClient (h : Nearest value entry) (hvalue : value ≠ "") (peer : String) :
    resolveClient peer (some value) = entry := by
  have hempty : value.isEmpty = false := by simpa using hvalue
  simp only [Visitor.resolveClient, hempty, Bool.false_eq_true, ↓reduceIte]
  cases h with
  | only whole =>
    have hnone : Text.afterLast? [',', ' '] value.toList = none :=
      (Text.afterLast?_eq_none_iff (by decide)).mpr whole
    simp only [hnone]
  | @last before _ whole =>
    have hsome : Text.afterLast? [',', ' '] (before ++ ", " ++ entry).toList = some entry.toList :=
      afterLast?_separator.mpr ⟨before.toList, by simp, whole⟩
    simp only [hsome, String.ofList_toList]

/-- Every value has a nearest entry. -/
theorem exists_nearest (value : String) : ∃ entry, Nearest value entry := by
  cases h : Text.afterLast? ", ".toList value.toList with
  | none => exact ⟨value, .only ((Text.afterLast?_eq_none_iff (by decide)).mp h)⟩
  | some last =>
    obtain ⟨before, hvalue, hlast⟩ := afterLast?_separator.mp h
    have heq : value = String.ofList before ++ ", " ++ String.ofList last := by
      rw [← String.toList_inj, hvalue]
      simp
    rw [heq]
    refine ⟨_, .last ?_⟩
    rwa [IsEntry, @String.toList_ofList last]

/-- **The client** that a header names is the nearest entry. -/
theorem resolveClient_eq_iff (hvalue : value ≠ "") (peer : String) :
    resolveClient peer (some value) = entry ↔ Nearest value entry := by
  refine ⟨?_, fun h => h.resolveClient hvalue peer⟩
  rintro rfl
  obtain ⟨entry, h⟩ := exists_nearest value
  rwa [h.resolveClient hvalue]

theorem Nearest.isEntry (h : Nearest value entry) : IsEntry entry := by
  cases h with
  | only whole => exact whole
  | last whole => exact whole

theorem Nearest.suffix (h : Nearest value entry) : entry.toList <:+ value.toList := by
  cases h with
  | only => exact List.suffix_rfl
  | last =>
    rw [String.toList_append]
    exact List.suffix_append _ _

/-- Whatever stands in front of a separator is not nearest. -/
theorem Nearest.prepend (h : Nearest value entry) (before : String) :
    Nearest (before ++ ", " ++ value) entry := by
  cases h with
  | only whole => exact .last whole
  | @last more _ whole =>
    rw [← String.append_assoc, ← String.append_assoc]
    exact .last whole

theorem append_separator_ne_empty (before after : String) : before ++ ", " ++ after ≠ "" := by
  intro h
  have hlist := congrArg String.toList h
  simp at hlist

/-- Joined entries end with the last one, behind a separator unless it is the only one. -/
theorem intercalate_cases {entries : List String} (hne : entries ≠ []) :
    ", ".intercalate entries = entries.getLast hne ∨
      ∃ before, ", ".intercalate entries = before ++ ", " ++ entries.getLast hne := by
  have hsplit := List.dropLast_concat_getLast hne
  by_cases hinit : entries.dropLast = []
  · left
    rw [hinit, List.nil_append] at hsplit
    have hjoin := @String.intercalate_singleton ", " (entries.getLast hne)
    rwa [hsplit] at hjoin
  · right
    refine ⟨", ".intercalate entries.dropLast, ?_⟩
    have hjoin := @String.intercalate_append_of_ne_nil _ _ ", " hinit
      (List.cons_ne_nil (entries.getLast hne) [])
    rw [hsplit, String.intercalate_singleton] at hjoin
    exact hjoin

theorem nearest_intercalate {entries : List String} (hne : entries ≠ [])
    (h : Nearest (entries.getLast hne) entry) : Nearest (", ".intercalate entries) entry := by
  obtain heq | ⟨before, heq⟩ := intercalate_cases hne
  · rwa [heq]
  · rw [heq]
    exact h.prepend before

/-- **The nearest proxy decides.** Of entries that are joined with separators the last one is the
client, as it stands. Whatever the header, the client is the end of it and holds no separator. What
stands in front of a separator, and the connection, make no difference. -/
theorem resolveClient_nearest :
    (∀ peer entries, (hne : entries ≠ []) → (∀ e ∈ entries, IsEntry e) →
      ", ".intercalate entries ≠ "" →
        resolveClient peer (some (", ".intercalate entries)) = entries.getLast hne) ∧
    (∀ peer value, value ≠ "" → IsEntry (resolveClient peer (some value)) ∧
      (resolveClient peer (some value)).toList <:+ value.toList) ∧
    ∀ peer₁ peer₂ before₁ before₂ value,
      resolveClient peer₁ (some (before₁ ++ ", " ++ value)) =
        resolveClient peer₂ (some (before₂ ++ ", " ++ value)) := by
  refine ⟨fun peer entries hne hentries hvalue => ?_, fun peer value hvalue => ?_,
    fun peer₁ peer₂ before₁ before₂ value => ?_⟩
  · have hlast : IsEntry (entries.getLast hne) := hentries _ (List.getLast_mem hne)
    exact (nearest_intercalate hne (.only hlast)).resolveClient hvalue peer
  · have h := (resolveClient_eq_iff hvalue peer).mp rfl
    exact ⟨h.isEntry, h.suffix⟩
  · obtain ⟨entry, h⟩ := exists_nearest value
    rw [(h.prepend before₁).resolveClient (append_separator_ne_empty _ _),
      (h.prepend before₂).resolveClient (append_separator_ne_empty _ _)]

/-- A client forged an entry that ends in a comma, and the proxy wrote a space in front of its own.
In the other header the nearest entry is empty. -/
theorem resolveClient_nearest_forged :
    ((∀ e ∈ ["10.0.0.1,", " 198.51.100.7"], IsEntry e) ∧
      resolveClient "192.0.2.1" (some (", ".intercalate ["10.0.0.1,", " 198.51.100.7"])) =
        " 198.51.100.7") ∧
    (IsEntry (resolveClient "192.0.2.1" (some "10.0.0.1, ")) ∧
      (resolveClient "192.0.2.1" (some "10.0.0.1, ")).toList <:+ "10.0.0.1, ".toList) ∧
    resolveClient "192.0.2.1" (some ("10.0.0.1" ++ ", " ++ "")) =
      resolveClient "192.0.2.2" (some ("" ++ ", " ++ "")) := by
  obtain ⟨hlast, hends, hfront⟩ := resolveClient_nearest
  have hentries : ∀ e ∈ ["10.0.0.1,", " 198.51.100.7"], IsEntry e := by decide +kernel
  exact ⟨⟨hentries, hlast _ _ (List.cons_ne_nil _ _) hentries (by decide +kernel)⟩,
    hends _ _ (by decide +kernel), hfront _ _ _ _ _⟩

/-! ## Several lines -/

/-- All lines with the header, in order. -/
def forwarded (headers : Headers) : List String :=
  (headers.values "x-forwarded-for").map Http.asciiText

/-- The lines with the header consist of tabs and of bytes that print in ASCII, and none of them is
empty. -/
def Forwards (headers : Headers) : Prop :=
  ∀ value ∈ headers.values "x-forwarded-for",
    value ≠ [] ∧ ∀ b ∈ value, b = 0x09 ∨ 0x20 ≤ b ∧ b ≤ 0x7E

instance : DecidablePred Forwards := fun _ => inferInstanceAs (Decidable (∀ _ ∈ _, _))

variable {headers : Headers}

theorem Forwards.nonempty (h : Forwards headers) {line : String}
    (hline : line ∈ forwarded headers) : line ≠ "" := by
  obtain ⟨value, hvalue, rfl⟩ := List.mem_map.mp hline
  intro heq
  have hlist := congrArg String.toList heq
  simp [Http.asciiText, (h value hvalue).1] at hlist

theorem Forwards.visible?_eq (h : Forwards headers) :
    headers.visible? "x-forwarded-for" = (forwarded headers).head? :=
  Headers.visible?_eq_head? fun value hvalue =>
    Http.all_isVisible_iff.mpr (h value hvalue).2

/-- In the list that all lines make up, the last line decides. -/
theorem Forwards.resolveClient_intercalate (h : Forwards headers) (peer : String) :
    resolveClient peer (some (", ".intercalate (forwarded headers))) =
      resolveClient peer (forwarded headers).getLast? := by
  by_cases hne : forwarded headers = []
  · rw [hne]
    rfl
  · have hlast := h.nonempty (List.getLast_mem hne)
    rw [List.getLast?_eq_some_getLast hne]
    obtain ⟨entry, hentry⟩ := exists_nearest ((forwarded headers).getLast hne)
    rw [hentry.resolveClient hlast]
    refine (nearest_intercalate hne hentry).resolveClient ?_ peer
    obtain heq | ⟨before, heq⟩ := intercalate_cases hne
    · rwa [heq]
    · rw [heq]
      exact append_separator_ne_empty _ _

/-- Two lines name the same client exactly if they have the same nearest entry. -/
theorem resolveClient_eq_resolveClient_iff {value' : String} (hvalue : value ≠ "")
    (hvalue' : value' ≠ "") (peer : String) :
    resolveClient peer (some value) = resolveClient peer (some value') ↔
      ∀ entry, Nearest value entry ↔ Nearest value' entry := by
  simp only [← resolveClient_eq_iff hvalue peer, ← resolveClient_eq_iff hvalue' peer]
  exact ⟨fun h entry => by rw [h], fun h => (h _).mpr rfl⟩

/-- **Several lines.** The first line decides. That is what the list of all lines says exactly if
the nearest entry of the first line is that of the last. -/
theorem clientAddress_joined_iff (h : Forwards headers) (peer : String) :
    clientAddress headers peer = resolveClient peer (forwarded headers).head? ∧
    (clientAddress headers peer = resolveClient peer (some (", ".intercalate (forwarded headers))) ↔
      ∀ first ∈ (forwarded headers).head?, ∀ last ∈ (forwarded headers).getLast?,
        ∀ entry, Nearest first entry ↔ Nearest last entry) := by
  have hfirst : clientAddress headers peer = resolveClient peer (forwarded headers).head? := by
    rw [clientAddress, h.visible?_eq]
  refine ⟨hfirst, ?_⟩
  rw [hfirst, h.resolveClient_intercalate]
  cases hhead : (forwarded headers).head? with
  | none =>
    rw [List.head?_eq_none_iff] at hhead
    simp [hhead]
  | some first =>
    cases hlast : (forwarded headers).getLast? with
    | none =>
      rw [List.getLast?_eq_none_iff.mp hlast] at hhead
      cases hhead
    | some last =>
      rw [resolveClient_eq_resolveClient_iff (h.nonempty (List.mem_of_head? hhead))
        (h.nonempty (List.mem_of_getLast? hlast)) peer]
      simp

/-- A proxy that adds its entry to the line it found, and then its line to those it found. -/
def relayed : Headers :=
  [⟨"X-Forwarded-For", Text.encode "10.0.0.1, 198.51.100.7".toList⟩,
    ⟨"X-Forwarded-For", Text.encode "198.51.100.7".toList⟩]

/-- Both lines have the same nearest entry. -/
theorem clientAddress_joined_iff_relayed :
    Forwards relayed ∧ clientAddress relayed "192.0.2.1" =
      resolveClient "192.0.2.1" (some (", ".intercalate (forwarded relayed))) := by
  have h : Forwards relayed := by decide +kernel
  refine ⟨h, (clientAddress_joined_iff h "192.0.2.1").2.mpr ?_⟩
  have hfirst : (forwarded relayed).head? = some "10.0.0.1, 198.51.100.7" := by decide +kernel
  have hlast : (forwarded relayed).getLast? = some "198.51.100.7" := by decide +kernel
  simp only [hfirst, hlast, Option.mem_some_iff, forall_eq']
  refine (resolveClient_eq_resolveClient_iff ?_ ?_ "192.0.2.1").mp ?_ <;> decide +kernel

/-- A line that the client sent, and the line of the proxy. -/
def forged : Headers :=
  [⟨"X-Forwarded-For", Text.encode "10.0.0.1".toList⟩,
    ⟨"X-Forwarded-For", Text.encode "198.51.100.7".toList⟩]

/-- The client chose its own address. -/
theorem clientAddress_forged :
    Forwards forged ∧ clientAddress forged "192.0.2.1" = "10.0.0.1" ∧
      resolveClient "192.0.2.1" (some (", ".intercalate (forwarded forged))) = "198.51.100.7" := by
  decide +kernel

end HitCounter.Visitor
