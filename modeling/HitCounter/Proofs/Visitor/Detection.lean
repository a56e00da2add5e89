import HitCounter.Proofs.Text.Trim
import HitCounter.Proofs.Visitor.Bot

/-!
# Detecting bots by their user agents

- **Signs** (`Visitor.Shows`): what a user agent holds of an automatic client. A user agent that is
  long enough is classified by the sign that counts most (`Visitor.shows_of_classify`,
  `Visitor.exists_kind_of_shows`).
- **Contexts** (`Visitor.Shows.in_context`): a sign is kept whatever is put around it, one at the
  start as long as it stays there.
- **Detection** (`Visitor.classifyUserAgent_stable`): neither the case of letters nor white space
  around a user agent has a say in its class, and no text around it takes its signs away.
-/

namespace HitCounter.Visitor

open Text (IsPadding lower trim byteLength)

/-! ## Signs -/

/-- How much a kind counts that is told from a sign; the others are told from the length alone. -/
def BotKind.rank : BotKind → Nat
  | link => 4
  | clientLibrary => 3
  | knownBot => 2
  | botWord => 1
  | short | noUserAgent => 0

/-- A user agent in lower case shows a sign of this kind. -/
def Shows (s : List Char) : BotKind → Prop
  | .link => ∃ w ∈ linkWords, w.toList <:+: s
  | .clientLibrary => ∃ w ∈ clientLibraries, w.toList <+: s
  | .knownBot => ∃ w ∈ knownBots, w.toList <:+: s
  | .botWord => ∃ w ∈ botWords, w.toList <:+: s
  | .short | .noUserAgent => False

variable {kind : BotKind} {userAgent : String}

theorem startsWithAny_iff {words : List String} {s : List Char} :
    startsWithAny words s = true ↔ ∃ w ∈ words, w.toList <+: s := by
  simp only [startsWithAny, List.any_eq_true, List.isPrefixOf_iff_prefix]

/-- The class of a user agent that is long enough, by its signs in their order. -/
theorem classifyUserAgent_long (hlong : leastUserAgent ≤ byteLength (trim userAgent.toList)) :
    classifyUserAgent userAgent =
      let s := lower (trim userAgent.toList)
      if holdsAny linkWords s then .bot .link
      else if startsWithAny clientLibraries s then .bot .clientLibrary
      else if holdsAny knownBots s then .bot .knownBot
      else if holdsAny botWords s then .bot .botWord
      else .noBot := by
  have hne : (trim userAgent.toList).isEmpty = false := by
    rw [List.isEmpty_eq_false_iff]
    intro hnil
    rw [hnil] at hlong
    exact absurd hlong (by decide)
  simp only [classifyUserAgent, hne, Nat.not_lt.mpr hlong, Bool.false_eq_true, ↓reduceIte]

/-- Of a user agent that is too short only its length is told. -/
theorem classifyUserAgent_short (hshort : byteLength (trim userAgent.toList) < leastUserAgent) :
    ∃ kind, classifyUserAgent userAgent = .bot kind ∧ kind.rank = 0 := by
  simp only [classifyUserAgent, hshort, ↓reduceIte]
  split
  · exact ⟨.noUserAgent, rfl, rfl⟩
  · exact ⟨.short, rfl, rfl⟩

/-- A kind that is told from a sign is told of user agents that are long enough and show it. -/
theorem shows_of_classify (h : classifyUserAgent userAgent = .bot kind) (hrank : 0 < kind.rank) :
    leastUserAgent ≤ byteLength (trim userAgent.toList) ∧
      Shows (lower (trim userAgent.toList)) kind := by
  obtain hshort | hlong := Nat.lt_or_ge (byteLength (trim userAgent.toList)) leastUserAgent
  · obtain ⟨kind', hclass, hzero⟩ := classifyUserAgent_short hshort
    obtain rfl : kind' = kind := BotClass.bot.inj (hclass.symm.trans h)
    exact absurd hzero hrank.ne'
  · refine ⟨hlong, ?_⟩
    simp only [classifyUserAgent_long hlong, holdsAny_iff, startsWithAny_iff] at h
    split at h
    · cases h; assumption
    split at h
    · cases h; assumption
    split at h
    · cases h; assumption
    split at h
    · cases h; assumption
    · cases h

/-- A user agent that is long enough and shows a sign is told to be of that kind or of one that
counts more. -/
theorem exists_kind_of_shows (hlong : leastUserAgent ≤ byteLength (trim userAgent.toList))
    (h : Shows (lower (trim userAgent.toList)) kind) :
    ∃ kind', classifyUserAgent userAgent = .bot kind' ∧ kind.rank ≤ kind'.rank := by
  simp only [classifyUserAgent_long hlong, holdsAny_iff, startsWithAny_iff]
  split
  · exact ⟨.link, rfl, by cases kind <;> decide⟩
  rename_i hlink
  split
  · refine ⟨.clientLibrary, rfl, ?_⟩
    cases kind with
    | link => exact absurd h hlink
    | _ => decide
  rename_i hlibrary
  split
  · refine ⟨.knownBot, rfl, ?_⟩
    cases kind with
    | link => exact absurd h hlink
    | clientLibrary => exact absurd h hlibrary
    | _ => decide
  rename_i hknown
  split
  · refine ⟨.botWord, rfl, ?_⟩
    cases kind with
    | link => exact absurd h hlink
    | clientLibrary => exact absurd h hlibrary
    | knownBot => exact absurd h hknown
    | _ => decide
  rename_i hword
  cases kind with
  | link => exact absurd h hlink
  | clientLibrary => exact absurd h hlibrary
  | knownBot => exact absurd h hknown
  | botWord => exact absurd h hword
  | short | noUserAgent => exact h.elim

/-! ## Contexts -/

/-- A sign is kept in any context; one at the start needs to stay there. -/
theorem Shows.in_context {s t : List Char} (h : Shows s kind) (hinside : s <:+: t)
    (hstart : kind = .clientLibrary → s <+: t) : Shows t kind := by
  cases kind with
  | link | knownBot | botWord =>
    obtain ⟨w, hw, hs⟩ := h
    exact ⟨w, hw, hs.trans hinside⟩
  | clientLibrary =>
    obtain ⟨w, hw, hs⟩ := h
    exact ⟨w, hw, hs.trans (hstart rfl)⟩
  | short | noUserAgent => exact h.elim

/-- **Detection.** User agents that differ in the case of ASCII letters are of one class, and so are
a user agent and the same with white space around it. When a sign is found, it is found in any
context, or one that counts more; the name of a library or tool only if nothing but white space
comes before it. -/
theorem classifyUserAgent_stable :
    (∀ s s' : String, lower s.toList = lower s'.toList →
      classifyUserAgent s = classifyUserAgent s') ∧
    (∀ before s after : String, IsPadding before.toList → IsPadding after.toList →
      classifyUserAgent (before ++ s ++ after) = classifyUserAgent s) ∧
    ∀ (before s after : String) (kind : BotKind), classifyUserAgent s = .bot kind →
      kind ∈ [.link, .knownBot, .botWord] ∨ kind = .clientLibrary ∧ IsPadding before.toList →
      ∃ kind' ∈ [BotKind.link, .clientLibrary, .knownBot, .botWord],
        classifyUserAgent (before ++ s ++ after) = .bot kind' ∧ kind.rank ≤ kind'.rank := by
  refine ⟨fun s s' hcase => ?_, fun before s after hbefore hafter => ?_,
    fun before s after kind hclass hkind => ?_⟩
  · have hlower : lower (trim s.toList) = lower (trim s'.toList) := by
      rw [← Text.trim_lower, ← Text.trim_lower, hcase]
    have hempty : (trim s.toList).isEmpty = (trim s'.toList).isEmpty := by
      rw [← List.isEmpty_map, ← List.isEmpty_map (l := trim s'.toList)]
      exact congrArg List.isEmpty hlower
    have hlength : byteLength (trim s.toList) = byteLength (trim s'.toList) := by
      rw [← Text.byteLength_lower, hlower, Text.byteLength_lower]
    simp only [classifyUserAgent, hlower, hempty, hlength]
  · have htrim : trim (before ++ s ++ after).toList = trim s.toList := by
      rw [String.toList_append, String.toList_append, Text.trim_append hbefore hafter]
    simp only [classifyUserAgent, htrim]
  · have hranked : ∀ kind ∈ [BotKind.link, .knownBot, .botWord], 0 < kind.rank := by decide
    have hrank : 0 < kind.rank := by
      obtain hmem | ⟨rfl, -⟩ := hkind
      · exact hranked kind hmem
      · decide
    obtain ⟨hlong, hshows⟩ := shows_of_classify hclass hrank
    have hwhole : (before ++ s ++ after).toList = before.toList ++ s.toList ++ after.toList := by
      rw [String.toList_append, String.toList_append]
    have hinside := Text.trim_infix_trim before.toList s.toList after.toList
    have hstart (hlibrary : kind = .clientLibrary) :
        trim s.toList <+: trim (before.toList ++ s.toList ++ after.toList) := by
      obtain hmem | ⟨-, hbefore⟩ := hkind
      · rw [hlibrary] at hmem
        exact absurd hmem (by decide)
      · exact Text.trim_prefix_trim hbefore _ _
    rw [← hwhole] at hinside hstart
    obtain ⟨kind', hclass', hle⟩ := exists_kind_of_shows
      (hlong.trans (Text.byteLength_le_of_inside hinside))
      (hshows.in_context (hinside.map _) fun hlibrary => (hstart hlibrary).map _)
    refine ⟨kind', ?_, hclass', hle⟩
    have hrank' := hrank.trans_le hle
    cases kind' with
    | short | noUserAgent => exact absurd hrank' (by decide)
    | _ => decide

/-- A crawler in other letters, between white space and in the words of a browser; a tool behind a
tab and before a link. -/
theorem classifyUserAgent_stable_crawler :
    (lower "Googlebot/2.1".toList = lower "gOOGLEBOT/2.1".toList ∧
      classifyUserAgent "Googlebot/2.1" = classifyUserAgent "gOOGLEBOT/2.1") ∧
    (IsPadding "\u3000".toList ∧ IsPadding "\r\n".toList ∧
      classifyUserAgent ("\u3000" ++ "Googlebot/2.1" ++ "\r\n") =
        classifyUserAgent "Googlebot/2.1") ∧
    (classifyUserAgent "Googlebot/2.1" = .bot .botWord ∧
      ∃ kind' ∈ [BotKind.link, .clientLibrary, .knownBot, .botWord],
        classifyUserAgent ("Mozilla/5.0 (" ++ "Googlebot/2.1" ++ ") Gecko") = .bot kind' ∧
          BotKind.botWord.rank ≤ kind'.rank) ∧
    (classifyUserAgent "curl/8.5.0" = .bot .clientLibrary ∧ IsPadding "\t".toList ∧
      ∃ kind' ∈ [BotKind.link, .clientLibrary, .knownBot, .botWord],
        classifyUserAgent ("\t" ++ "curl/8.5.0" ++ " +https://a.test") = .bot kind' ∧
          BotKind.clientLibrary.rank ≤ kind'.rank) := by
  have hcase : lower "Googlebot/2.1".toList = lower "gOOGLEBOT/2.1".toList := by decide
  have hwide : IsPadding "\u3000".toList := by decide
  have hline : IsPadding "\r\n".toList := by decide
  have htab : IsPadding "\t".toList := by decide
  have hcrawler : classifyUserAgent "Googlebot/2.1" = .bot .botWord := by decide
  have htool : classifyUserAgent "curl/8.5.0" = .bot .clientLibrary := by decide
  obtain ⟨hletters, hpadded, hcontext⟩ := classifyUserAgent_stable
  exact ⟨⟨hcase, hletters _ _ hcase⟩, ⟨hwide, hline, hpadded _ _ _ hwide hline⟩,
    ⟨hcrawler, hcontext _ _ _ _ hcrawler (.inl (by decide))⟩,
    htool, htab, hcontext _ _ _ _ htool (.inr ⟨rfl, htab⟩)⟩

end HitCounter.Visitor
