import HitCounter.Proofs.Text.Ascii
import HitCounter.Proofs.Text.Split
import HitCounter.Visitor.Language
import Mathlib.Data.List.Forall2
import Mathlib.Data.List.Nodup

/-!
# The base language of a tag

- **Tables** (`Visitor.languageOfTwo?_eq_some_iff`, `Visitor.exists_languageOfTwo?`): no code is
  listed twice, and every language that a region or a script suggests has a code.
- **Suggestions** (`Visitor.InRegion`, `Visitor.InScript`): what the first region and the first
  script among subtags suggest.
- **Spelling** (`Visitor.Alike`): tags that differ in the case of letters and in the choice of
  separators.
- **Tags** (`Visitor.baseLanguageIn_decided`): the first subtag decides, unless it leaves the
  language open; then a region decides, and a script if none does.
-/

namespace HitCounter.Visitor

open Text (CutAt lower)

/-! ## Tables -/

/-- A code as a number in base 256. -/
def codeNumber (code : String) : Nat := code.toList.foldl (fun n c => n * 256 + c.toNat) 0

/-- No code is listed twice, since the codes are listed in ascending order. -/
theorem languageCodes_nodup : (languageCodes.map (·.1)).Nodup := by
  have hascending : ((languageCodes.map (·.1)).map codeNumber).IsChain (· < ·) := by decide +kernel
  exact .of_map codeNumber ((List.isChain_iff_pairwise.mp hascending).imp Nat.ne_of_lt)

theorem lookup_eq_some_iff_mem {table : List (String × String)} (h : (table.map (·.1)).Nodup)
    {key value : String} : table.lookup key = some value ↔ (key, value) ∈ table := by
  rw [List.lookup_eq_some_iff]
  constructor
  · rintro ⟨before, after, rfl, -⟩
    simp
  · intro hmem
    obtain ⟨before, after, rfl⟩ := List.append_of_mem hmem
    refine ⟨before, after, rfl, fun p hp => ?_⟩
    rw [List.map_append, List.map_cons, List.nodup_append] at h
    simpa using (h.2.2 p.1 (List.mem_map_of_mem hp) key List.mem_cons_self).symm

theorem languageOfTwo?_eq_some_iff {code language : String} :
    languageOfTwo? code = some language ↔ (code, language) ∈ languageCodes :=
  lookup_eq_some_iff_mem languageCodes_nodup

theorem likelyInRegion_nodup : (likelyInRegion.map (·.1)).Nodup := by decide +kernel

theorem likelyInScript_nodup : (likelyInScript.map (·.1)).Nodup := by decide +kernel

/-- Every language that a region or a script suggests has a code. -/
theorem exists_languageOfTwo? {key code : String}
    (h : (key, code) ∈ likelyInRegion ++ likelyInScript) :
    ∃ language, languageOfTwo? code = some language := by
  have hall : ∀ p ∈ likelyInRegion ++ likelyInScript, (languageOfTwo? p.2).isSome := by
    decide +kernel
  exact Option.isSome_iff_exists.mp (hall _ h)

/-! ## Suggestions -/

/-- A subtag of two letters or of three digits names a region. -/
def IsRegion (subtag : List Char) : Prop :=
  subtag.length = 2 ∧ (∀ c ∈ subtag, c.isAlpha) ∨ subtag.length = 3 ∧ ∀ c ∈ subtag, c.isDigit

/-- A subtag of four letters names a script. -/
def IsScript (subtag : List Char) : Prop := subtag.length = 4 ∧ ∀ c ∈ subtag, c.isAlpha

instance : DecidablePred IsRegion := fun subtag =>
  decidable_of_iff (subtag.length = 2 ∧ subtag.all Char.isAlpha ∨
    subtag.length = 3 ∧ subtag.all Char.isDigit) (by simp only [IsRegion, List.all_eq_true])

instance : DecidablePred IsScript := fun subtag =>
  decidable_of_iff (subtag.length = 4 ∧ subtag.all Char.isAlpha)
    (by simp only [IsScript, List.all_eq_true])

/-- The first subtag with a property is listed with this code. -/
def Suggests (P : List Char → Prop) (key : List Char → List Char) (table : List (String × String))
    (subtags : List (List Char)) (code : String) : Prop :=
  ∃ before subtag after, subtags = before ++ subtag :: after ∧ P subtag ∧ (∀ s ∈ before, ¬ P s) ∧
    (String.ofList (key subtag), code) ∈ table

/-- The first region among the subtags suggests the language with this code. -/
def InRegion (subtags : List (List Char)) (code : String) : Prop :=
  Suggests IsRegion (·.map Char.toUpper) likelyInRegion subtags code

/-- The first script among the subtags suggests the language with this code. -/
def InScript (subtags : List (List Char)) (code : String) : Prop :=
  Suggests IsScript lower likelyInScript subtags code

variable {subtags : List (List Char)} {subtag : List Char} {code : String}

section Likely

variable {P : List Char → Prop} [DecidablePred P] {key : List Char → List Char}
  {table : List (String × String)}

/-- The first subtag with the property is looked up in the table. -/
theorem suggests_iff (nodup : (table.map (·.1)).Nodup) :
    Suggests P key table subtags code ↔
      ((subtags.find? (P ·)).map fun s => String.ofList (key s)).bind (table.lookup ·) =
        some code := by
  simp only [Suggests, Option.bind_eq_some_iff, Option.map_eq_some_iff,
    List.find?_eq_some_iff_append, lookup_eq_some_iff_mem nodup]
  constructor
  · rintro ⟨before, subtag, after, rfl, hsubtag, hbefore, hmem⟩
    exact ⟨_, ⟨subtag, ⟨by simpa using hsubtag, before, after, rfl, by simpa using hbefore⟩, rfl⟩,
      hmem⟩
  · rintro ⟨_, ⟨subtag, ⟨hsubtag, before, after, rfl, hbefore⟩, rfl⟩, hmem⟩
    exact ⟨before, subtag, after, rfl, by simpa using hsubtag, by simpa using hbefore, hmem⟩

/-- The likely language is the one with the code that is suggested. -/
theorem Suggests.likely? (h : Suggests P key table subtags code)
    (nodup : (table.map (·.1)).Nodup) :
    Visitor.likely? table ((subtags.find? (P ·)).map fun s => String.ofList (key s)) =
      languageOfTwo? code := by
  rw [Visitor.likely?, (suggests_iff nodup).mp h, Option.bind_some]

theorem likely?_eq_none (h : ∀ code, ¬ Suggests P key table subtags code)
    (nodup : (table.map (·.1)).Nodup) :
    likely? table ((subtags.find? (P ·)).map fun s => String.ofList (key s)) = none := by
  rw [likely?, Option.eq_none_iff_forall_ne_some.mpr fun code hcode =>
    h code ((suggests_iff nodup).mpr hcode), Option.bind_none]

end Likely

/-- A subtag is a hint on the region if it names one and no other did. -/
theorem Hints.add_region (h : Hints) (subtag : List Char) :
    (h.add subtag).region =
      h.region.or
        (if IsRegion subtag then some (String.ofList (subtag.map Char.toUpper)) else none) := by
  have hdigits (h : ∀ c ∈ subtag, c.isDigit) : subtag.map Char.toUpper = subtag :=
    (List.map_congr_left fun c hc => Text.toUpper_of_isDigit (h c hc)).trans (List.map_id' subtag)
  obtain ⟨region, script⟩ := h
  unfold Hints.add IsRegion
  cases region with
  | some region => grind
  | none => grind

theorem Hints.add_script (h : Hints) (subtag : List Char) :
    (h.add subtag).script =
      h.script.or (if IsScript subtag then some (String.ofList (lower subtag)) else none) := by
  obtain ⟨region, script⟩ := h
  unfold Hints.add IsScript
  cases script with
  | some script => grind
  | none => grind

/-- The hint on the region comes from the first subtag that names one. -/
theorem foldl_add_region (h : Hints) :
    (subtags.foldl Hints.add h).region =
      h.region.or
        ((subtags.find? (IsRegion ·)).map fun s => String.ofList (s.map Char.toUpper)) := by
  induction subtags generalizing h with
  | nil => simp
  | cons s subtags ih =>
    rw [List.foldl_cons, ih, h.add_region, Option.or_assoc, List.find?_cons]
    by_cases hs : IsRegion s <;> simp [hs]

/-- The hint on the script comes from the first subtag that names one. -/
theorem foldl_add_script (h : Hints) :
    (subtags.foldl Hints.add h).script =
      h.script.or ((subtags.find? (IsScript ·)).map fun s => String.ofList (lower s)) := by
  induction subtags generalizing h with
  | nil => simp
  | cons s subtags ih =>
    rw [List.foldl_cons, ih, h.add_script, Option.or_assoc, List.find?_cons]
    by_cases hs : IsScript s <;> simp [hs]

theorem inferLanguage_eq (subtags : List (List Char)) :
    inferLanguage subtags =
      (likely? likelyInRegion
          ((subtags.find? (IsRegion ·)).map fun s => String.ofList (s.map Char.toUpper))).or
        (likely? likelyInScript
          ((subtags.find? (IsScript ·)).map fun s => String.ofList (lower s))) := by
  simp only [inferLanguage, foldl_add_region, foldl_add_script, Option.none_or,
    Option.orElse_eq_orElse, Option.orElse_eq_or]

/-- A region that is listed decides, whatever the script. -/
theorem inferLanguage_of_inRegion (h : InRegion subtags code) :
    ∃ language, (code, language) ∈ languageCodes ∧ inferLanguage subtags = some language := by
  obtain ⟨_, _, _, _, _, _, hmem⟩ := id h
  obtain ⟨language, hlanguage⟩ := exists_languageOfTwo? (List.mem_append_left _ hmem)
  refine ⟨language, languageOfTwo?_eq_some_iff.mp hlanguage, ?_⟩
  rw [inferLanguage_eq, h.likely? likelyInRegion_nodup, hlanguage, Option.some_or]

/-- A script that is listed decides if no region does. -/
theorem inferLanguage_of_inScript (hregion : ∀ code, ¬ InRegion subtags code)
    (h : InScript subtags code) :
    ∃ language, (code, language) ∈ languageCodes ∧ inferLanguage subtags = some language := by
  obtain ⟨_, _, _, _, _, _, hmem⟩ := id h
  obtain ⟨language, hlanguage⟩ := exists_languageOfTwo? (List.mem_append_right _ hmem)
  refine ⟨language, languageOfTwo?_eq_some_iff.mp hlanguage, ?_⟩
  rw [inferLanguage_eq, likely?_eq_none hregion likelyInRegion_nodup,
    h.likely? likelyInScript_nodup, hlanguage, Option.none_or]

theorem inferLanguage_eq_none (hregion : ∀ code, ¬ InRegion subtags code)
    (hscript : ∀ code, ¬ InScript subtags code) : inferLanguage subtags = none := by
  rw [inferLanguage_eq, likely?_eq_none hregion likelyInRegion_nodup,
    likely?_eq_none hscript likelyInScript_nodup, Option.none_or]

/-! ## Spelling -/

/-- The text is cut into these subtags. -/
def Subtags (tag : String) (subtags : List (List Char)) : Prop :=
  CutAt (fun c => c == '-' || c == '_') tag.toList subtags

/-- The characters differ at most in the case of a letter, or both separate subtags. -/
def AlikeChar (c d : Char) : Prop :=
  c.toLower = d.toLower ∨ (c = '-' ∨ c = '_') ∧ (d = '-' ∨ d = '_')

instance : DecidableRel AlikeChar := fun _ _ => inferInstanceAs (Decidable (_ ∨ _))

/-- The tags differ at most in the case of letters and in the choice of separators. -/
def Alike (tag tag' : String) : Prop := List.Forall₂ AlikeChar tag.toList tag'.toList

theorem AlikeChar.isSeparator {c d : Char} (h : AlikeChar c d) :
    (c == '-' || c == '_') = (d == '-' || d == '_') := by
  obtain hlower | ⟨hc, hd⟩ := h
  · have hdash : c = '-' ↔ d = '-' := by
      rw [← Text.toLower_eq_iff (by decide), hlower, Text.toLower_eq_iff (by decide)]
    have hline : c = '_' ↔ d = '_' := by
      rw [← Text.toLower_eq_iff (by decide), hlower, Text.toLower_eq_iff (by decide)]
    rw [Bool.eq_iff_iff]
    simp only [Bool.or_eq_true, beq_iff_eq, hdash, hline]
  · rw [Bool.eq_iff_iff]
    simp only [Bool.or_eq_true, beq_iff_eq, hc, hd]

/-- Tags that differ so little have subtags that differ in the case of letters only. -/
theorem Alike.exists_subtags {tag tag' : String} (h : Alike tag tag') :
    ∃ first subtags first' subtags', Subtags tag (first :: subtags) ∧
      Subtags tag' (first' :: subtags') ∧ lower first = lower first' ∧
        subtags.map lower = subtags'.map lower := by
  unfold Subtags
  unfold Alike at h
  generalize tag.toList = s, tag'.toList = s' at h ⊢
  induction h with
  | nil =>
    have hnil : ∀ c ∈ ([] : List Char), (c == '-' || c == '_') = false := fun _ hc =>
      absurd hc List.not_mem_nil
    exact ⟨[], [], [], [], .last hnil, .last hnil, rfl, rfl⟩
  | @cons c d s s' hchar _ ih =>
    obtain ⟨first, subtags, first', subtags', hcut, hcut', hfirst, hsubtags⟩ := ih
    have hsame := hchar.isSeparator
    cases hc : (c == '-' || c == '_') with
    | true =>
      rw [hc] at hsame
      refine ⟨_, _, _, _, hcut.separator hc, hcut'.separator hsame.symm, rfl, ?_⟩
      rw [List.map_cons, List.map_cons, hfirst, hsubtags]
    | false =>
      rw [hc] at hsame
      refine ⟨_, _, _, _, hcut.cons hc, hcut'.cons hsame.symm, ?_, hsubtags⟩
      obtain hlower | ⟨hseparator, -⟩ := hchar
      · exact congrArg₂ List.cons hlower hfirst
      · obtain rfl | rfl := hseparator <;> cases hc

/-- The case of letters in a subtag makes no difference. -/
theorem Hints.add_lower (h : Hints) (subtag : List Char) : h.add (lower subtag) = h.add subtag := by
  have hforall (P : Char → Bool) (hP : ∀ c : Char, P c.toLower = P c) :
      (∀ c ∈ lower subtag, P c) ↔ ∀ c ∈ subtag, P c := by
    simp only [lower, List.forall_mem_map, hP]
  have hlength : (lower subtag).length = subtag.length := List.length_map ..
  have hregion : IsRegion (lower subtag) ↔ IsRegion subtag := by
    rw [IsRegion, hforall _ Text.isAlpha_toLower, hforall _ Text.isDigit_toLower, hlength, IsRegion]
  have hscript : IsScript (lower subtag) ↔ IsScript subtag := by
    rw [IsScript, hforall _ Text.isAlpha_toLower, hlength, IsScript]
  have hupper : (lower subtag).map Char.toUpper = subtag.map Char.toUpper := by
    simp only [lower, List.map_map]
    exact List.map_congr_left fun c _ => Text.toUpper_toLower c
  have hlower : lower (lower subtag) = lower subtag := by
    simp only [lower, List.map_map]
    exact List.map_congr_left fun c _ => Text.toLower_toLower c
  have hregion' : (h.add (lower subtag)).region = (h.add subtag).region := by
    simp only [h.add_region, hregion, hupper]
  have hscript' : (h.add (lower subtag)).script = (h.add subtag).script := by
    simp only [h.add_script, hscript, hlower]
  cases hadd : h.add (lower subtag)
  cases hadd' : h.add subtag
  rw [hadd, hadd'] at hregion' hscript'
  exact Hints.mk.injEq .. ▸ ⟨hregion', hscript'⟩

theorem inferLanguage_congr {subtags' : List (List Char)}
    (h : subtags.map lower = subtags'.map lower) :
    inferLanguage subtags = inferLanguage subtags' := by
  have hfoldl (subtags : List (List Char)) :
      (subtags.map lower).foldl Hints.add {} = subtags.foldl Hints.add {} := by
    rw [List.foldl_map]
    exact congrArg (fun add => subtags.foldl add {})
      (funext fun h => funext fun s => Hints.add_lower h s)
  simp only [inferLanguage, ← hfoldl subtags, ← hfoldl subtags', h]

/-! ## Tags -/

/-- The code of two or of three letters names the language. -/
def Names (known : Register) (code language : String) : Prop :=
  (code, language) ∈ languageCodes ∨
    code.utf8ByteSize = 3 ∧ known code = true ∧ code = language

/-- What a tag tells by its first subtag in lower case, unless that is `und`. -/
inductive Tells (known : Register) (code : String) : Option String × Confidence → Prop where
  | language {language : String} (names : Names known code language) :
    Tells known code (some language, .exact)
  | nothing (wild : code = "" ∨ code = "*") : Tells known code (none, .low)
  | unknown (nameless : ∀ language, ¬ Names known code language)
    (definite : ¬ (code = "" ∨ code = "*")) : Tells known code (none, .no)

variable {known : Register} {tag tag' : String} {first : List Char}

/-- Every listed code has two letters, in as many bytes. -/
theorem utf8ByteSize_of_mem {language : String} (h : (code, language) ∈ languageCodes) :
    code.utf8ByteSize = 2 := by
  have hall : ∀ p ∈ languageCodes, p.1.utf8ByteSize = 2 := by decide +kernel
  exact hall _ h

theorem languageOfTwo?_or_languageOfThree? {language : String} :
    (languageOfTwo? code <|> languageOfThree? known code) = some language ↔
      Names known code language := by
  have hthree : languageOfThree? known code = some language ↔
      code.utf8ByteSize = 3 ∧ known code = true ∧ code = language := by
    simp [languageOfThree?, and_assoc]
  unfold Names
  rw [← hthree, ← languageOfTwo?_eq_some_iff]
  cases htwo : languageOfTwo? code with
  | none => simp
  | some two =>
    have hsize := utf8ByteSize_of_mem (languageOfTwo?_eq_some_iff.mp htwo)
    simp [hthree, hsize]

/-- Tags that differ so little have the same base language. -/
theorem Alike.baseLanguageIn_eq (known : Register) (h : Alike tag tag') :
    baseLanguageIn known tag = baseLanguageIn known tag' := by
  obtain ⟨first, subtags, first', subtags', hcut, hcut', hfirst, hsubtags⟩ := h.exists_subtags
  simp only [baseLanguageIn, CutAt.split_eq hcut, CutAt.split_eq hcut', hfirst,
    inferLanguage_congr hsubtags]

/-- A first subtag that is not `und` tells all that there is to tell. -/
theorem baseLanguageIn_tells (cut : Subtags tag (first :: subtags))
    (named : lower first ≠ "und".toList) :
    Tells known (String.ofList (lower first)) (baseLanguageIn known tag) := by
  have hund : String.ofList (lower first) ≠ "und" := fun h => named (by rw [← h]; simp)
  unfold baseLanguageIn
  simp only [CutAt.split_eq cut, hund, ↓reduceIte]
  split
  · rename_i hwild
    exact .nothing hwild
  · rename_i hdefinite
    split
    · rename_i language hlanguage
      exact .language (languageOfTwo?_or_languageOfThree?.mp hlanguage)
    · rename_i hnone
      refine .unknown (fun language hnames => ?_) hdefinite
      rw [languageOfTwo?_or_languageOfThree?.mpr hnames] at hnone
      cases hnone

/-- The other subtags do not matter then. -/
theorem baseLanguageIn_first (cut : Subtags tag (first :: subtags))
    (named : lower first ≠ "und".toList) :
    baseLanguageIn known tag = baseLanguageIn known (String.ofList first) := by
  have hund : String.ofList (lower first) ≠ "und" := fun h => named (by rw [← h]; simp)
  have hcut : CutAt (fun c => c == '-' || c == '_') (String.ofList first).toList [first] := by
    rw [String.toList_ofList]
    exact .last (CutAt.free_head cut)
  simp only [baseLanguageIn, CutAt.split_eq cut, hcut.split_eq, hund, ↓reduceIte]

/-- After `und` the other subtags tell. -/
theorem baseLanguageIn_und (cut : Subtags tag (first :: subtags))
    (undetermined : lower first = "und".toList) :
    baseLanguageIn known tag =
      ((inferLanguage subtags).map fun language => (some language, .high)).getD (none, .low) := by
  have hund : String.ofList (lower first) = "und" := by rw [undetermined, String.ofList_toList]
  simp only [baseLanguageIn, CutAt.split_eq cut, hund, ↓reduceIte]
  cases inferLanguage subtags with
  | none => rfl
  | some language => rfl

theorem Names.unique {code language language' : String} (h : Names known code language)
    (h' : Names known code language') : language = language' := by
  rw [← languageOfTwo?_or_languageOfThree?] at h h'
  exact Option.some_inj.mp (h.symm.trans h')

/-- A code that names a language is neither empty nor a star. -/
theorem Names.definite {code language : String} (h : Names known code language) :
    ¬ (code = "" ∨ code = "*") := by
  have hsize : code.utf8ByteSize = 2 ∨ code.utf8ByteSize = 3 :=
    h.imp utf8ByteSize_of_mem fun h => h.1
  rintro (rfl | rfl) <;> revert hsize <;> decide

namespace Tells

variable {told : Option String × Confidence} {code language : String}

theorem isSome_iff (h : Tells known code told) :
    told.1.isSome ↔ told.2 = .high ∨ told.2 = .exact := by
  cases h <;> simp

theorem eq_exact_iff (h : Tells known code told) :
    told = (some language, .exact) ↔ Names known code language := by
  cases h with
  | @language language' names =>
    constructor
    · rintro ⟨⟩
      exact names
    · intro names'
      rw [names.unique names']
  | nothing wild => exact iff_of_false (nomatch ·) fun names => names.definite wild
  | unknown nameless definite => exact iff_of_false (nomatch ·) (nameless language)

theorem exact_iff (h : Tells known code told) :
    told.2 = .exact ↔ ∃ language, Names known code language := by
  cases h with
  | language names => exact iff_of_true rfl ⟨_, names⟩
  | nothing wild => exact iff_of_false (nomatch ·) fun ⟨_, names⟩ => names.definite wild
  | unknown nameless definite => exact iff_of_false (nomatch ·) fun ⟨_, names⟩ => nameless _ names

theorem low_iff (h : Tells known code told) : told.2 = .low ↔ code = "" ∨ code = "*" := by
  cases h with
  | language names => exact iff_of_false (nomatch ·) names.definite
  | nothing wild => exact iff_of_true rfl wild
  | unknown nameless definite => exact iff_of_false (nomatch ·) definite

theorem ne_high (h : Tells known code told) : told.2 ≠ .high := by
  cases h <;> exact nofun

end Tells

/-- A language is told exactly if it is sure. -/
theorem isSome_baseLanguageIn_iff :
    (baseLanguageIn known tag).1.isSome ↔
      (baseLanguageIn known tag).2 = .high ∨ (baseLanguageIn known tag).2 = .exact := by
  obtain ⟨first, subtags, hcut⟩ := Text.exists_cutAt (fun c => c == '-' || c == '_') tag.toList
  by_cases hund : lower first = "und".toList
  · rw [baseLanguageIn_und hcut hund]
    cases inferLanguage subtags <;> simp
  · exact (baseLanguageIn_tells hcut hund).isSome_iff

theorem ofList_lower_wild (first : List Char) :
    (String.ofList (lower first) = "" ∨ String.ofList (lower first) = "*") ↔
      first = [] ∨ first = ['*'] := by
  have hstar : lower first = ['*'] ↔ first = ['*'] := by
    cases first with
    | nil => simp [lower]
    | cons c rest => simp [lower, Text.toLower_eq_iff]
  have hofList (s : List Char) (t : String) : String.ofList s = t ↔ s = t.toList := by
    rw [← String.toList_inj, String.toList_ofList]
  rw [hofList, hofList, show "*".toList = ['*'] from rfl, hstar, show "".toList = [] from rfl]
  simp [lower]

/-- Only the regions and the scripts among the subtags matter, in the order of each. -/
theorem inferLanguage_of_filter {subtags' : List (List Char)}
    (hregions : subtags.filter (IsRegion ·) = subtags'.filter (IsRegion ·))
    (hscripts : subtags.filter (IsScript ·) = subtags'.filter (IsScript ·)) :
    inferLanguage subtags = inferLanguage subtags' := by
  simp only [inferLanguage_eq, ← List.head?_filter, hregions, hscripts]

/-- The base language of a tag depends neither on the case of letters nor on the choice of
separators, and it is told exactly if the confidence is high or exact. The first subtag alone
decides, by its code, unless it is `und`. After `und` the first region decides if it is listed, then
the first script if that is listed, wherever they stand and whatever stands between them. -/
theorem baseLanguageIn_decided (known : Register) :
    (∀ tag tag', Alike tag tag' → baseLanguageIn known tag = baseLanguageIn known tag') ∧
    (∀ tag, (baseLanguageIn known tag).1.isSome ↔
      (baseLanguageIn known tag).2 = .high ∨ (baseLanguageIn known tag).2 = .exact) ∧
    (∀ tag, ∃ first subtags, Subtags tag (first :: subtags)) ∧
    ∀ tag first subtags, Subtags tag (first :: subtags) →
      (lower first ≠ "und".toList →
        baseLanguageIn known tag = baseLanguageIn known (String.ofList first) ∧
        (∀ language, baseLanguageIn known tag = (some language, .exact) ↔
          Names known (String.ofList (lower first)) language) ∧
        ((baseLanguageIn known tag).2 = .exact ↔
          ∃ language, Names known (String.ofList (lower first)) language) ∧
        ((baseLanguageIn known tag).2 = .low ↔ first = [] ∨ first = ['*']) ∧
        (baseLanguageIn known tag).2 ≠ .high) ∧
      (lower first = "und".toList →
        (∀ code, InRegion subtags code → ∃ language, (code, language) ∈ languageCodes ∧
          baseLanguageIn known tag = (some language, .high)) ∧
        (∀ code, (∀ code', ¬ InRegion subtags code') → InScript subtags code →
          ∃ language, (code, language) ∈ languageCodes ∧
            baseLanguageIn known tag = (some language, .high)) ∧
        ((∀ code, ¬ InRegion subtags code) → (∀ code, ¬ InScript subtags code) →
          baseLanguageIn known tag = (none, .low)) ∧
        ∀ tag' first' subtags', Subtags tag' (first' :: subtags') →
          lower first' = "und".toList →
          subtags.filter (IsRegion ·) = subtags'.filter (IsRegion ·) →
          subtags.filter (IsScript ·) = subtags'.filter (IsScript ·) →
          baseLanguageIn known tag = baseLanguageIn known tag') := by
  refine ⟨fun _ _ halike => halike.baseLanguageIn_eq known, fun _ => isSome_baseLanguageIn_iff,
    fun _ => Text.exists_cutAt _ _,
    fun tag first subtags hcut => ⟨fun hnamed => ?_, fun hund => ?_⟩⟩
  · have htells : Tells known (String.ofList (lower first)) (baseLanguageIn known tag) :=
      baseLanguageIn_tells hcut hnamed
    refine ⟨baseLanguageIn_first hcut hnamed, fun language => htells.eq_exact_iff,
      htells.exact_iff, ?_, htells.ne_high⟩
    rw [htells.low_iff, ofList_lower_wild]
  · have hopen : baseLanguageIn known tag =
        ((inferLanguage subtags).map fun language => (some language, .high)).getD (none, .low) :=
      baseLanguageIn_und hcut hund
    refine ⟨fun code hregion => ?_, fun code hregion hscript => ?_, fun hregion hscript => ?_, ?_⟩
    · obtain ⟨language, hmem, hinfer⟩ := inferLanguage_of_inRegion hregion
      exact ⟨language, hmem, by rw [hopen, hinfer]; rfl⟩
    · obtain ⟨language, hmem, hinfer⟩ := inferLanguage_of_inScript hregion hscript
      exact ⟨language, hmem, by rw [hopen, hinfer]; rfl⟩
    · rw [hopen, inferLanguage_eq_none hregion hscript]
      rfl
    · intro tag' first' subtags' hcut' hund' hregions hscripts
      rw [hopen, baseLanguageIn_und hcut' hund', inferLanguage_of_filter hregions hscripts]

/-- A region decides before a script, a script after a region that is not listed, and a code
before both. -/
theorem baseLanguageIn_decided_ukrainian :
    (Alike "und-x-Cyrl-UA" "UND_x-cYRL_ua" ∧
      baseLanguageIn isRegistered "und-x-Cyrl-UA" = baseLanguageIn isRegistered "UND_x-cYRL_ua") ∧
    (InRegion ["x".toList, "Cyrl".toList, "UA".toList] "uk" ∧
      baseLanguageIn isRegistered "und-x-Cyrl-UA" = (some "ukr", .high)) ∧
    ((∀ code, ¬ InRegion ["ZZ".toList, "Cyrl".toList, "UA".toList] code) ∧
      InScript ["ZZ".toList, "Cyrl".toList, "UA".toList] "ru" ∧
        baseLanguageIn isRegistered "und-ZZ-Cyrl-UA" = (some "rus", .high)) ∧
    (Names isRegistered "nld" "nld" ∧
      baseLanguageIn isRegistered "NLD-UA" = (some "nld", .exact)) := by
  obtain ⟨halike, -, -, htags⟩ := baseLanguageIn_decided isRegistered
  have hcut (tag : String) (subtags : List (List Char))
      (h : Text.split (fun c => c == '-' || c == '_') tag.toList = subtags) : Subtags tag subtags :=
    Text.split_eq_iff.mp h
  have hname {code language language' : String} (h : (code, language) ∈ languageCodes)
      (h' : languageOfTwo? code = some language') : language = language' :=
    Option.some_inj.mp ((languageOfTwo?_eq_some_iff.mpr h).symm.trans h')
  have hsame : Alike "und-x-Cyrl-UA" "UND_x-cYRL_ua" := by
    unfold Alike
    decide
  have hukraine : InRegion ["x".toList, "Cyrl".toList, "UA".toList] "uk" :=
    (suggests_iff likelyInRegion_nodup).mpr (by decide +kernel)
  have hnowhere : ∀ code, ¬ InRegion ["ZZ".toList, "Cyrl".toList, "UA".toList] code := by
    intro code h
    have hlookup := (suggests_iff likelyInRegion_nodup).mp h
    revert hlookup
    exact ne_of_eq_of_ne (b := none) (by decide +kernel) nofun
  have hcyrillic : InScript ["ZZ".toList, "Cyrl".toList, "UA".toList] "ru" :=
    (suggests_iff likelyInScript_nodup).mpr (by decide +kernel)
  have hdutch : Names isRegistered "nld" "nld" := .inr ⟨by decide, by decide +kernel, rfl⟩
  refine ⟨⟨hsame, halike _ _ hsame⟩, ⟨hukraine, ?_⟩, ⟨hnowhere, hcyrillic, ?_⟩, hdutch, ?_⟩
  · obtain ⟨-, hund⟩ := htags _ _ _ (hcut "und-x-Cyrl-UA"
      ["und".toList, "x".toList, "Cyrl".toList, "UA".toList] (by decide))
    obtain ⟨language, hmem, hbase⟩ := (hund (by decide)).1 "uk" hukraine
    rw [hbase, hname hmem (show languageOfTwo? "uk" = some "ukr" by decide +kernel)]
  · obtain ⟨-, hund⟩ := htags _ _ _ (hcut "und-ZZ-Cyrl-UA"
      ["und".toList, "ZZ".toList, "Cyrl".toList, "UA".toList] (by decide))
    obtain ⟨language, hmem, hbase⟩ := (hund (by decide)).2.1 "ru" hnowhere hcyrillic
    rw [hbase, hname hmem (show languageOfTwo? "ru" = some "rus" by decide +kernel)]
  · obtain ⟨hnamed, -⟩ := htags _ _ _ (hcut "NLD-UA" ["NLD".toList, "UA".toList] (by decide))
    exact ((hnamed (by decide)).2.1 "nld").mpr hdutch

end HitCounter.Visitor
