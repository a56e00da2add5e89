import HitCounter.Proofs.Http.Header
import HitCounter.Proofs.Visitor.AcceptedLanguages

/-!
# The preferred language

- **The entry in front** (`Visitor.Heads`): the earliest entry of greatest weight in a header whose
  entries are all well-formed. It says the first tag that the header is read as
  (`Visitor.Heads.acceptedLanguages?`, `Visitor.exists_heads`).
- **The answer** (`Visitor.preferredLanguage_decided`): that entry alone decides it. Whatever
  happens to lighter entries, and to later ones that are no heavier, changes nothing.
-/

namespace HitCounter.Visitor

open Http (Headers FirstText)
open Numeric (Single)
open Text (encode)

/-- The entry is well-formed, and its weight, if it says a tag, is below that of another one. -/
def Lighter (top : LanguageTag) (entry : List Char) : Prop :=
  ∃ said, Says entry said ∧ ∀ t ∈ said, t.weight.value < top.weight.value

/-- The entry is well-formed, and its weight, if it says a tag, is at most that of another one. -/
def NoHeavier (top : LanguageTag) (entry : List Char) : Prop :=
  ∃ said, Says entry said ∧ ∀ t ∈ said, t.weight.value ≤ top.weight.value

/-- All entries of the header are well-formed, and this one says a tag that those before it do not
reach in weight and those after it do not exceed. -/
inductive Heads (entry : List Char) (top : LanguageTag) : String → Prop where
  | mk {value : String} {before after : List (List Char)}
    (cut : Text.CutAt (· == ',') value.toList (before ++ entry :: after))
    (tag : Says entry (some top)) (earlier : ∀ e ∈ before, Lighter top e)
    (later : ∀ e ∈ after, NoHeavier top e) : Heads entry top value

/-- The base language of the tag is sure, and has this code. -/
def Sure (known : Register) (tag code : String) : Prop :=
  baseLanguageIn known tag = (some code, .exact) ∨ baseLanguageIn known tag = (some code, .high)

variable {value : String} {entry : List Char} {entries : List (List Char)} {top : LanguageTag}
  {said : List (Option LanguageTag)}

/-! ## The entry in front -/

/-- What is true of all tags of entries is true of the tags that they say together. -/
theorem exists_forall₂_entries {R : LanguageTag → Prop}
    (h : ∀ e ∈ entries, ∃ said, Says e said ∧ ∀ t ∈ said, R t) :
    ∃ said, List.Forall₂ Says entries said ∧ ∀ t ∈ said.reduceOption, R t := by
  induction entries with
  | nil => exact ⟨[], .nil, fun _ ht => absurd ht List.not_mem_nil⟩
  | cons e entries ih =>
    obtain ⟨⟨one, hone, hfirst⟩, hmore⟩ := List.forall_mem_cons.mp h
    obtain ⟨more, hentries, hothers⟩ := ih hmore
    refine ⟨one :: more, .cons hone hentries, fun t ht => ?_⟩
    rw [List.reduceOption_mem_iff, List.mem_cons] at ht
    obtain heq | ht := ht
    · exact hfirst t heq.symm
    · exact hothers t (List.reduceOption_mem_iff.mpr ht)

theorem exists_of_mem (h : List.Forall₂ Says entries said) {e : List Char} (he : e ∈ entries) :
    ∃ one, Says e one ∧ ∀ t ∈ one, t ∈ said.reduceOption := by
  induction h with
  | nil => exact absurd he List.not_mem_nil
  | @cons e' one entries more hfirst _ ih =>
    obtain rfl | he := List.mem_cons.mp he
    · refine ⟨one, hfirst, fun t ht => ?_⟩
      rw [List.reduceOption_mem_iff]
      exact List.mem_cons.mpr (.inl ht.symm)
    · obtain ⟨other, hother, hmem⟩ := ih he
      refine ⟨other, hother, fun t ht => ?_⟩
      rw [List.reduceOption_mem_iff]
      exact List.mem_cons_of_mem _ (List.reduceOption_mem_iff.mp (hmem t ht))

/-- Where a tag stands among those of a header, there stands its entry. -/
theorem exists_entry_of_reduceOption (h : List.Forall₂ Says entries said)
    {earlier later : List LanguageTag} (hsaid : said.reduceOption = earlier ++ top :: later) :
    ∃ before entry after, entries = before ++ entry :: after ∧ Says entry (some top) ∧
      (∀ e ∈ before, ∃ one, Says e one ∧ ∀ t ∈ one, t ∈ earlier) ∧
        ∀ e ∈ after, ∃ one, Says e one ∧ ∀ t ∈ one, t ∈ later := by
  induction h generalizing earlier with
  | nil => simp at hsaid
  | @cons e one entries more hfirst hmore ih =>
    cases one with
    | none =>
      obtain ⟨before, entry, after, rfl, hentry, hbefore, hafter⟩ := ih hsaid
      refine ⟨e :: before, entry, after, rfl, hentry, ?_, hafter⟩
      exact List.forall_mem_cons.mpr ⟨⟨none, hfirst, fun _ ht => by cases ht⟩, hbefore⟩
    | some t =>
      rw [List.reduceOption_cons_of_some] at hsaid
      cases earlier with
      | nil =>
        obtain ⟨rfl, rfl⟩ := List.cons.inj hsaid
        exact ⟨[], e, entries, rfl, hfirst, fun _ he => absurd he List.not_mem_nil,
          fun _ he => exists_of_mem hmore he⟩
      | cons t' earlier =>
        obtain ⟨rfl, hrest⟩ := List.cons.inj hsaid
        obtain ⟨before, entry, after, rfl, hentry, hbefore, hafter⟩ := ih hrest
        refine ⟨e :: before, entry, after, rfl, hentry, ?_, hafter⟩
        refine List.forall_mem_cons.mpr ⟨⟨some t, hfirst, fun _ ht => ?_⟩, fun e' he' => ?_⟩
        · obtain rfl : t = _ := Option.some.inj ht
          exact List.mem_cons_self
        · obtain ⟨one, hone, hmem⟩ := hbefore e' he'
          exact ⟨one, hone, fun t ht => List.mem_cons_of_mem _ (hmem t ht)⟩

/-- The entry in front says the first tag that the header is read as. -/
theorem Heads.acceptedLanguages? (h : Heads entry top value) :
    ∃ tags, acceptedLanguages? value = some tags ∧ tags.head? = some top := by
  obtain ⟨cut, tag, earlier, later⟩ := h
  obtain ⟨before, hbefore, hlighter⟩ := exists_forall₂_entries earlier
  obtain ⟨after, hafter, hnoHeavier⟩ := exists_forall₂_entries later
  obtain ⟨tags, htags, hranked⟩ :=
    acceptedLanguages?_of_entries cut (List.rel_append hbefore (.cons tag hafter))
  refine ⟨tags, htags, hranked.head?_eq_some_iff.mpr ?_⟩
  exact ⟨before.reduceOption, after.reduceOption, by simp [List.reduceOption_append], hlighter,
    hnoHeavier⟩

/-- A header that is read as tags has an entry in front, which says the first of them. -/
theorem exists_heads {tags : List LanguageTag} (htags : acceptedLanguages? value = some tags)
    (hfirst : tags.head? = some top) : ∃ entry, Heads entry top value := by
  obtain ⟨_, _, cut⟩ := Text.exists_cutAt (· == ',') value.toList
  obtain ⟨said, hentries, hranked⟩ := exists_entries_of_eq_some cut htags
  obtain ⟨earlier, later, hsaid, hlighter, hnoHeavier⟩ := hranked.head?_eq_some_iff.mp hfirst
  obtain ⟨before, entry, after, heq, tag, hbefore, hafter⟩ :=
    exists_entry_of_reduceOption hentries hsaid
  rw [heq] at cut
  refine ⟨entry, .mk cut tag (fun e he => ?_) fun e he => ?_⟩
  · obtain ⟨one, hone, hmem⟩ := hbefore e he
    exact ⟨one, hone, fun t ht => hlighter t (hmem t ht)⟩
  · obtain ⟨one, hone, hmem⟩ := hafter e he
    exact ⟨one, hone, fun t ht => hnoHeavier t (hmem t ht)⟩

/-! ## The answer -/

variable {known : Register} {headers headers' : Headers} {code : String}

/-- The language of the entry in front, if it is sure, is the answer. -/
theorem preferredLanguageIn_of_heads (hvalue : FirstText "accept-language" headers value)
    (h : Heads entry top value) :
    preferredLanguageIn known headers = some code ↔ Sure known top.tag code := by
  obtain ⟨tags, htags, hfirst⟩ := h.acceptedLanguages?
  rw [← Http.Headers.visible?_eq_some_iff] at hvalue
  unfold preferredLanguageIn Sure
  simp only [hvalue, htags, hfirst, Option.bind_eq_bind, Option.bind_some]
  split
  · rename_i hbase
    simp [hbase]
  · rename_i hbase
    simp [hbase]
  · rename_i hexact hhigh
    simp only [reduceCtorEq, false_iff, not_or]
    exact ⟨hexact code, hhigh code⟩

/-- An answer comes from an entry in front. -/
theorem exists_heads_of_preferredLanguageIn (h : preferredLanguageIn known headers = some code) :
    ∃ value entry top, FirstText "accept-language" headers value ∧ Heads entry top value := by
  unfold preferredLanguageIn at h
  obtain ⟨value, hvalue, h⟩ := Option.bind_eq_some_iff.mp h
  obtain ⟨tags, htags, h⟩ := Option.bind_eq_some_iff.mp h
  obtain ⟨top, hfirst, -⟩ := Option.bind_eq_some_iff.mp h
  obtain ⟨entry, hheads⟩ := exists_heads htags hfirst
  exact ⟨value, entry, top, Http.Headers.visible?_eq_some_iff.mp hvalue, hheads⟩

/-- **One entry decides.** The preferred language is that of the entry in front, if it is sure. So
headers with the same entry in front have the same answer, however the other entries are inserted,
deleted, changed or put in another order, and an entry in front that is not sure gives none. -/
theorem preferredLanguage_decided (known : Register) :
    (∀ headers code, preferredLanguageIn known headers = some code ↔
      ∃ value entry top, FirstText "accept-language" headers value ∧ Heads entry top value ∧
        Sure known top.tag code) ∧
    (∀ headers headers' value value' entry top, FirstText "accept-language" headers value →
      FirstText "accept-language" headers' value' → Heads entry top value →
        Heads entry top value' →
          preferredLanguageIn known headers = preferredLanguageIn known headers') ∧
    ∀ headers value entry top, FirstText "accept-language" headers value →
      Heads entry top value → (baseLanguageIn known top.tag).2 ∈ [.low, .no] →
        preferredLanguageIn known headers = none := by
  refine ⟨fun headers code => ⟨fun h => ?_, ?_⟩, ?_, ?_⟩
  · obtain ⟨value, entry, top, hvalue, hheads⟩ := exists_heads_of_preferredLanguageIn h
    exact ⟨value, entry, top, hvalue, hheads, (preferredLanguageIn_of_heads hvalue hheads).mp h⟩
  · rintro ⟨value, entry, top, hvalue, hheads, hsure⟩
    exact (preferredLanguageIn_of_heads hvalue hheads).mpr hsure
  · intro headers headers' value value' entry top hvalue hvalue' hheads hheads'
    refine Option.ext fun code => ?_
    rw [preferredLanguageIn_of_heads hvalue hheads, preferredLanguageIn_of_heads hvalue' hheads']
  · intro headers value entry top hvalue hheads hunsure
    refine Option.eq_none_iff_forall_not_mem.mpr fun code hcode => ?_
    rcases (preferredLanguageIn_of_heads hvalue hheads).mp hcode with hbase | hbase <;>
      simp [hbase] at hunsure

/-- A weight of four fifths, rounded to 32 bits. -/
def fourFifths : Single := .ofCode false 0x3F4CCCCD

/-- A request whose header has a lighter entry before the first one of greatest weight, and one as
heavy behind it. -/
def britishRequest : Headers := [⟨"Accept-Language", encode "da;q=0.4,en-GB;q=0.8,fr;q=0.8".toList⟩]

/-- A request whose header keeps only that entry, before one without a tag and one that counts for
nothing. -/
def editedRequest : Headers := [⟨"accept-language", encode "en-GB;q=0.8,,fr;Q=-0".toList⟩]

/-- Two headers with the same entry in front, and one in which a wildcard stands in front. -/
theorem preferredLanguage_decided_british :
    (Heads "en-GB;q=0.8".toList ⟨"en-GB", fourFifths⟩ "da;q=0.4,en-GB;q=0.8,fr;q=0.8" ∧
      Heads "en-GB;q=0.8".toList ⟨"en-GB", fourFifths⟩ "en-GB;q=0.8,,fr;Q=-0" ∧
        preferredLanguageIn isRegistered britishRequest = some "eng" ∧
          preferredLanguageIn isRegistered britishRequest =
            preferredLanguageIn isRegistered editedRequest) ∧
    (Heads "*".toList ⟨"*", fullWeight⟩ "*,en" ∧
      (baseLanguageIn isRegistered "*").2 ∈ [.low, .no] ∧
        preferredLanguageIn isRegistered [⟨"accept-language", encode "*,en".toList⟩] = none) := by
  have hcut (value : String) (entries : List (List Char))
      (h : Text.split (· == ',') value.toList = entries) :
      Text.CutAt (· == ',') value.toList entries := Text.split_eq_iff.mp h
  have hbritish : Heads "en-GB;q=0.8".toList ⟨"en-GB", fourFifths⟩
      "da;q=0.4,en-GB;q=0.8,fr;q=0.8" := by
    refine .mk (hcut _ (["da;q=0.4".toList] ++ _ :: ["fr;q=0.8".toList]) (by decide +kernel))
      (languageEntry?_eq_some_iff.mp (by decide +kernel)) ?_ ?_
    · refine List.forall_mem_singleton.mpr ⟨some ⟨"da", .ofCode false 0x3ECCCCCD⟩,
        languageEntry?_eq_some_iff.mp (by decide +kernel), fun t ht => ?_⟩
      obtain rfl := Option.some.inj ht
      exact (Numeric.Binary.value_lt_value_iff rfl rfl).mpr (by decide +kernel)
    · refine List.forall_mem_singleton.mpr ⟨some ⟨"fr", fourFifths⟩,
        languageEntry?_eq_some_iff.mp (by decide +kernel), fun t ht => ?_⟩
      obtain rfl := Option.some.inj ht
      exact le_rfl
  have hedited : Heads "en-GB;q=0.8".toList ⟨"en-GB", fourFifths⟩ "en-GB;q=0.8,,fr;Q=-0" := by
    refine .mk (hcut _ ([] ++ _ :: [[], "fr;Q=-0".toList]) (by decide +kernel))
      (languageEntry?_eq_some_iff.mp (by decide +kernel))
      (fun _ he => absurd he List.not_mem_nil) ?_
    have hnothing (e : List Char) (h : languageEntry? e = some none) :
        NoHeavier ⟨"en-GB", fourFifths⟩ e :=
      ⟨none, languageEntry?_eq_some_iff.mp h, fun _ ht => by cases ht⟩
    simpa using ⟨hnothing [] (by decide +kernel), hnothing "fr;Q=-0".toList (by decide +kernel)⟩
  have hwild : Heads "*".toList ⟨"*", fullWeight⟩ "*,en" := by
    refine .mk (hcut _ ([] ++ _ :: ["en".toList]) (by decide +kernel))
      (languageEntry?_eq_some_iff.mp (by decide +kernel))
      (fun _ he => absurd he List.not_mem_nil) ?_
    refine List.forall_mem_singleton.mpr ⟨some ⟨"en", fullWeight⟩,
      languageEntry?_eq_some_iff.mp (by decide +kernel), fun t ht => ?_⟩
    obtain rfl := Option.some.inj ht
    exact le_rfl
  have htext (headers : Headers) (value : String)
      (h : headers.visible? "accept-language" = some value) :
      FirstText "accept-language" headers value := Http.Headers.visible?_eq_some_iff.mp h
  obtain ⟨hdecides, hsame, hunsure⟩ := preferredLanguage_decided isRegistered
  refine ⟨⟨hbritish, hedited, ?_, ?_⟩, hwild, by decide, ?_⟩
  · exact (hdecides _ _).mpr ⟨_, _, _, htext _ _ (by decide +kernel), hbritish, .inl (by decide)⟩
  · exact hsame _ _ _ _ _ _ (htext _ _ (by decide +kernel)) (htext _ _ (by decide)) hbritish hedited
  · exact hunsure _ _ _ _ (htext _ _ (by decide)) hwild (by decide)

end HitCounter.Visitor
