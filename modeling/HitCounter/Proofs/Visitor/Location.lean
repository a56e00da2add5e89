import HitCounter.Visitor.Location

/-!
# The location that a record gives

- **The country of a location** (`Visitor.countryOnly_plain`, `Visitor.countryOnly_subdivided`):
  what stands in front of the first hyphen, so that a subdivision may hold hyphens and a country may
  not.
- **Records** (`Visitor.Datum.CountryCode`, `Visitor.Datum.FirstSubdivision`): a record with the
  code of a country gives that code, followed by the code of its first subdivision if it describes a
  city and that subdivision has one (`Visitor.Datum.location?_cases`).
-/

namespace HitCounter.Visitor

open Net (Address)

/-! ## The country of a location -/

variable {code subdivision : String}

/-- Cutting at a hyphen passes over a country that has none. -/
theorem takeWhile_country (hcode : '-' ∉ code.toList) (rest : List Char) :
    (code.toList ++ rest).takeWhile (· != '-') = code.toList ++ rest.takeWhile (· != '-') :=
  List.takeWhile_append_of_pos fun _ hc => bne_iff_ne.mpr fun heq => hcode (heq ▸ hc)

/-- A location without a hyphen is a country. -/
theorem countryOnly_plain (hcode : '-' ∉ code.toList) : countryOnly code = code := by
  have hcountry := takeWhile_country hcode []
  rw [List.append_nil, List.takeWhile_nil, List.append_nil] at hcountry
  rw [countryOnly, hcountry, String.ofList_toList]

/-- Only the first hyphen counts. -/
theorem countryOnly_subdivided (hcode : '-' ∉ code.toList) :
    countryOnly (code ++ "-" ++ subdivision) = code := by
  have hsplit : (code ++ "-" ++ subdivision).toList =
      code.toList ++ '-' :: subdivision.toList := by simp
  rw [countryOnly, hsplit, takeWhile_country hcode, List.takeWhile_cons_of_neg (by decide),
    List.append_nil, String.ofList_toList]

/-! ## Records -/

namespace Datum

variable {d v : Datum} {key : String}

/-- The datum is a map in which the key has this value. -/
def Has (d : Datum) (key : String) (v : Datum) : Prop := d.field? key = some (some v)

/-- The record names a country with this code. -/
def CountryCode (d : Datum) (code : String) : Prop :=
  ∃ country, d.Has "country" country ∧ country.Has "iso_code" (.text code)

/-- The first subdivision that the record lists has this code. -/
def FirstSubdivision (d : Datum) (code : String) : Prop :=
  ∃ first rest, d.Has "subdivisions" (.list (first :: rest)) ∧ first.Has "iso_code" (.text code)

theorem code?_eq_some_iff : d.code? = some (some code) ↔ d.Has "iso_code" (.text code) := by
  unfold code? Has
  rcases d.field? "iso_code" with _ | _ | ⟨_ | _ | _ | _⟩ <;> simp

theorem country?_eq_some_iff : d.country? = some (some code) ↔ d.CountryCode code := by
  unfold country? CountryCode Has
  rcases d.field? "country" with _ | _ | country
  · simp
  · simp
  · simp [code?_eq_some_iff, Has]

/-- The first code in the list of subdivisions is that of the first subdivision. -/
theorem subdivisions?_head? {codes : List (Option String)} (h : d.subdivisions? = some codes) :
    codes.head? = some (some code) ↔ d.FirstSubdivision code := by
  unfold subdivisions? at h
  unfold FirstSubdivision Has
  rcases hfield : d.field? "subdivisions" with _ | _ | value
  · simp [hfield] at h
  · obtain rfl : [] = codes := by simpa [hfield] using h
    simp
  · cases value with
    | list items =>
      replace h : items.mapM code? = some codes := by simpa [hfield] using h
      cases items with
      | nil =>
        obtain rfl : [] = codes := by simpa using h
        simp
      | cons first rest =>
        obtain ⟨x, hx, xs, -, rfl⟩ : ∃ x, first.code? = some x ∧ ∃ xs, rest.mapM code? = some xs ∧
            x :: xs = codes := by simpa [List.mapM_cons, Option.bind_eq_some_iff] using h
        have hcode := @code?_eq_some_iff code first
        simp only [hx, Option.some.injEq, Has] at hcode
        simp [hcode]
    | text | map | other => simp [hfield] at h

/-- A city has the country and the subdivisions of its record. -/
theorem city?_eq_some {country : Option String} {codes : List (Option String)}
    (h : d.city? = some (country, codes)) :
    d.country? = some country ∧ d.subdivisions? = some codes := by
  unfold city? at h
  rcases hcountry : d.country? with _ | x
  · simp [hcountry] at h
  rcases hsubdivisions : d.subdivisions? with _ | xs
  · simp [hcountry, hsubdivisions] at h
  · simp only [hcountry, hsubdivisions, bind, Option.bind] at h
    split at h
    · cases h
      exact ⟨rfl, rfl⟩
    · cases h

/-- **The location of a record** with the code of a country is that code. If the record describes a
city whose first subdivision has a code too, a hyphen and that code follow. -/
theorem location?_cases (h : d.CountryCode code) :
    (∃ subdivision, d.city?.isSome ∧ d.FirstSubdivision subdivision ∧
      d.location? = some (code ++ "-" ++ subdivision)) ∨
    ((d.city?.isSome → ∀ subdivision, ¬ d.FirstSubdivision subdivision) ∧
      d.location? = some code) := by
  have hcountry := country?_eq_some_iff.mpr h
  cases hcity : d.city? with
  | none => exact .inr ⟨by simp, by simp [location?, hcity, hcountry]⟩
  | some pair =>
    obtain ⟨country, codes⟩ := pair
    obtain ⟨hcountry', hcodes⟩ := city?_eq_some hcity
    obtain rfl : some code = country := Option.some.inj (hcountry.symm.trans hcountry')
    match codes, hcodes with
    | some subdivision :: _, hcodes =>
      exact .inl ⟨subdivision, rfl, (subdivisions?_head? hcodes).mp rfl,
        by simp [location?, hcity]⟩
    | [], hcodes | none :: _, hcodes =>
      refine .inr ⟨fun _ subdivision hfirst => ?_, by simp [location?, hcity]⟩
      have := (subdivisions?_head? hcodes).mpr hfirst
      simp at this

end Datum

/-- The location of a client whose address has a record is what the record gives. -/
theorem LocationDatabase.geolocator_eq {db : LocationDatabase} {client : String} {a : Address}
    {d : Datum} (haddress : Address.ofText? client.toList = some a)
    (hrecord : db.datum? a = some d) : db.geolocator client = d.location? := by
  simp only [geolocator, haddress, locate, hrecord, Option.bind_some]

end HitCounter.Visitor
