import HitCounter.Proofs.Counting.Verdict
import HitCounter.Proofs.Visitor.Location

/-!
# What a site chooses to keep

A site chooses whether it keeps locations, whether with the subdivision, and whether it keeps
languages. Each choice acts on its own part of a hit and on nothing else.

- **The core** (`Hit.core`, `Verdict.core`): a hit without location and language. No rule looks at
  these two, so completing a hit commutes with leaving them out (`Counter.complete_core`), and the
  choices of a site do not reach the core of a verdict (`Counter.count_core`).
- **What is kept** (`Counter.recorded_location`, `Counter.recorded_language`): location and language
  of a hit that is counted are those of the client and of the headers, as far as the site keeps
  them.

`Counter.toggles_independent` states them together, with the locations that a database gives.
-/

namespace HitCounter

/-! ## The core -/

/-- The hit without what a site chooses to keep or not. -/
def Hit.core (h : Hit) : Hit := { h with location := none, language := none }

/-- The outcome with the core of its hit. -/
def Outcome.core : Outcome → Outcome
  | recorded h => recorded h.core
  | prefetch => prefetch
  | ignored rule => ignored rule

/-- The verdict with the core of its hit. -/
def Verdict.core (v : Verdict) : Verdict := v.map Outcome.core

theorem Hit.core_merge (h : Hit) (p : Payload) : (h.merge p).core = h.core.merge p := rfl

/-- No rule for hits looks at location or language. -/
theorem Hit.validate_core (h : Hit) (strict : Bool) (now : Instant) :
    h.core.validate strict now = h.validate strict now := rfl

theorem Verdict.status_core (v : Verdict) : v.core.status = v.status := by
  rcases v with e | ⟨_ | _ | _⟩ <;> rfl

theorem Verdict.diagnostic?_core (v : Verdict) : v.core.diagnostic? = v.diagnostic? := by
  rcases v with e | ⟨_ | _ | _⟩ <;> rfl

/-- The site with another choice of what is kept. -/
def Site.collecting (site : Site) (k : Collect) : Site :=
  { site with settings := { site.settings with collect := k } }

namespace Counter

variable {known : Visitor.Register} {c : Counter known} {m : Moments} {site : Site}
  {r : CountRequest} {found : Visitor.BotClass} {checked : Instant} {k k' : Collect}

theorem core_mark (h : Hit) : (mark found h).core = mark found h.core := by
  unfold mark
  split <;> rfl

/-- A hit that was begun is completed in the same way whatever its location and language. -/
theorem complete_core (begun : Hit) :
    (complete found checked begun r).core = complete found checked begun.core r := by
  cases hd : Payload.decode r.target r.body with
  | error e =>
    rw [complete_undecodable hd, complete_undecodable hd]
    rfl
  | ok p =>
  cases hb : p.reservedBot? with
  | some b =>
    rw [complete_reservedBot hd hb, complete_reservedBot hd hb]
    rfl
  | none =>
  by_cases hl : longestPath < p.pathLength
  · rw [complete_longPath hd hb hl, complete_longPath hd hb hl]
    rfl
  -- The rules see the same hit, so that both are valid or draw the same complaints.
  have hcore : (mark found (begun.core.merge p)).validate true checked =
      (mark found (begun.merge p)).validate true checked := by
    rw [← Hit.core_merge, ← core_mark, Hit.validate_core]
  cases hv : (mark found (begun.merge p)).validate true checked with
  | error cs =>
    rw [complete_invalid hd hb hl hv, complete_invalid hd hb hl (hcore.trans hv)]
    rfl
  | ok =>
    have hrecorded {b : Hit} (hv : (mark found (b.merge p)).validate true checked = .ok ()) :
        complete found checked b r = .ok (.recorded (mark found (b.merge p))) :=
      complete_eq_ok_iff.mpr ⟨p, _, ⟨hd, hb, Nat.le_of_not_lt hl, rfl⟩, hv, rfl⟩
    rw [hrecorded hv, hrecorded (hcore.trans hv), ← Hit.core_merge, ← core_mark]
    rfl

/-- What a site keeps does not reach the core of a verdict. -/
theorem count_core (c : Counter known) (m : Moments) (site : Site) (r : CountRequest)
    (k k' : Collect) :
    (c.count m (site.collecting k) r).verdict.core =
      (c.count m (site.collecting k') r).verdict.core := by
  by_cases hp : c.classifier r.headers = .prefetch
  · rw [count_prefetch hp, count_prefetch hp]
  by_cases hi : client r ∈ site.settings.ignored
  · have hignored (k : Collect) : (c.count m (site.collecting k) r).verdict =
        .ok (.ignored (client r)) := count_ignored hp hi
    rw [hignored, hignored]
  · have hlooked (k : Collect) : (c.count m (site.collecting k) r).verdict =
        complete (c.classifier r.headers) m.checked (c.begin m.begun (site.collecting k) r) r :=
      count_looked_at hp hi
    rw [hlooked, hlooked, complete_core, complete_core]
    rfl

/-! ## What is kept -/

theorem serverPart_recorded {h : Hit} (hv : (c.count m site r).verdict = .ok (.recorded h)) :
    h.serverPart = (c.begin m.begun site r).serverPart := by
  obtain ⟨-, -, p, ha, -⟩ := count_eq_recorded_iff.mp hv
  exact ha.serverPart_eq

theorem recorded_location {h : Hit} (hv : (c.count m site r).verdict = .ok (.recorded h)) :
    h.location = c.location site.settings.collect (client r) :=
  congrArg ServerPart.location (serverPart_recorded hv)

theorem recorded_language {h : Hit} (hv : (c.count m site r).verdict = .ok (.recorded h)) :
    h.language = language known site.settings.collect r.headers :=
  congrArg ServerPart.language (serverPart_recorded hv)

/-- Without the subdivision, what is kept is the country of what would be kept with it. -/
theorem location_countryOnly {place : String} (hk : k.location = true) (hk' : k'.location = true)
    (hregion : k.region = false) (hregion' : k'.region = true) :
    c.location k place = (c.location k' place).map Visitor.countryOnly := by
  simp only [location, hk, hk', hregion, hregion', ↓reduceIte, Bool.false_eq_true, Option.map_id']

/-- What is kept of a record with the code of a country. -/
theorem location_record {d : Visitor.Datum} {place code : String} (hk : k.location = true)
    (hplace : c.geolocator place = d.location?) (hcountry : d.CountryCode code)
    (hcode : '-' ∉ code.toList) :
    (k.region = false → c.location k place = some code) ∧
    (k.region = true →
      (∃ subdivision, d.city?.isSome ∧ d.FirstSubdivision subdivision ∧
        c.location k place = some (code ++ "-" ++ subdivision)) ∨
      ((d.city?.isSome → ∀ subdivision, ¬ d.FirstSubdivision subdivision) ∧
        c.location k place = some code)) := by
  simp only [location, hk, hplace, ↓reduceIte]
  refine ⟨fun hregion => ?_, fun hregion => ?_⟩
  · simp only [hregion, Bool.false_eq_true, ↓reduceIte]
    obtain ⟨subdivision, -, -, hd⟩ | ⟨-, hd⟩ := Visitor.Datum.location?_cases hcountry
    · rw [hd, Option.map_some, Visitor.countryOnly_subdivided hcode]
    · rw [hd, Option.map_some, Visitor.countryOnly_plain hcode]
  · simp only [hregion, ↓reduceIte, Option.map_id']
    exact Visitor.Datum.location?_cases hcountry

/-- **The choices act independently.** Whatever a site keeps, a request gets the same verdict, up to
location and language of the hit. The language of a hit that is counted depends on the choice for
languages and on the headers. Its location is left out if locations are not kept, and otherwise the
choice for subdivisions decides between a location and its country. The country of a record in the
database is its code, and its first subdivision may follow. -/
theorem toggles_independent (c : Counter known) (m : Moments) (site : Site) (r : CountRequest) :
    (∀ k k', (c.count m (site.collecting k) r).verdict.core =
        (c.count m (site.collecting k') r).verdict.core ∧
      (c.count m (site.collecting k) r).verdict.status =
        (c.count m (site.collecting k') r).verdict.status ∧
      (c.count m (site.collecting k) r).verdict.diagnostic? =
        (c.count m (site.collecting k') r).verdict.diagnostic?) ∧
    (∀ k h, (c.count m (site.collecting k) r).verdict = .ok (.recorded h) →
      h.language = (if k.language then Visitor.preferredLanguageIn known r.headers else none) ∧
      (k.location = false → h.location = none)) ∧
    (∀ k k' h h', (c.count m (site.collecting k) r).verdict = .ok (.recorded h) →
      (c.count m (site.collecting k') r).verdict = .ok (.recorded h') →
      k.location = true → k'.location = true → k.region = false → k'.region = true →
      h.location = h'.location.map Visitor.countryOnly) ∧
    (∀ (db : Visitor.LocationDatabase) a d code, c.geolocator = db.geolocator →
      Net.Address.ofText? (client r).toList = some a → db.datum? a = some d →
      d.CountryCode code → '-' ∉ code.toList →
      ∀ k h, (c.count m (site.collecting k) r).verdict = .ok (.recorded h) → k.location = true →
        (k.region = false → h.location = some code) ∧
        (k.region = true →
          (∃ subdivision, d.city?.isSome ∧ d.FirstSubdivision subdivision ∧
            h.location = some (code ++ "-" ++ subdivision)) ∨
          ((d.city?.isSome → ∀ subdivision, ¬ d.FirstSubdivision subdivision) ∧
            h.location = some code))) := by
  refine ⟨fun k k' => ?_, fun k h hv => ⟨?_, fun hk => ?_⟩,
    fun k k' h h' hv hv' hk hk' hregion hregion' => ?_,
    fun db a d code hdb haddress hrecord hcountry hcode k h hv hk => ?_⟩
  · have hcore := count_core c m site r k k'
    refine ⟨hcore, ?_, ?_⟩
    · rw [← Verdict.status_core, hcore, Verdict.status_core]
    · rw [← Verdict.diagnostic?_core, hcore, Verdict.diagnostic?_core]
  · exact recorded_language hv
  · rw [recorded_location hv]
    exact if_neg (by simp [Site.collecting, hk])
  · rw [recorded_location hv, recorded_location hv']
    exact location_countryOnly hk hk' hregion hregion'
  · have hplace : c.geolocator (client r) = d.location? := by
      rw [hdb, Visitor.LocationDatabase.geolocator_eq haddress hrecord]
    rw [recorded_location hv]
    exact location_record hk hplace hcountry hcode

/-! ### A subdivision with a hyphen -/

/-- A city in a subdivision whose code holds a hyphen. -/
def hyphenated : Visitor.Datum :=
  .map
    [("country", .map [("iso_code", .text "US")]),
     ("subdivisions", .list [.map [("iso_code", .text "CA-N")]])]

/-- A database that knows one network. -/
def oneNetwork : Visitor.LocationDatabase := ⟨false, [(⟨0xC6336400, 24⟩, hyphenated)]⟩

/-- A counter that asks this database. -/
def withDatabase : Counter := ⟨Visitor.classify, oneNetwork.geolocator⟩

/-- A view of a page by a browser in that network. -/
def throughProxy : CountRequest :=
  ⟨"192.0.2.1", proxied, ⟨none, [], some (Text.encode "p=/a".toList)⟩, []⟩

/-- The hit of that view on a site that keeps no languages. -/
def fromNetwork (location : Option String) : Hit where
  site := 7
  remoteAddr := "198.51.100.7"
  userAgent := "Mozilla/5.0 (X11)"
  createdAt := 0
  path := "/a"
  location := location

/-- A site that keeps locations with and then without the subdivision. -/
theorem toggles_independent_hyphenated :
    (withDatabase.count ⟨0, 0⟩ (Site.collecting ⟨7, "a.example", {}⟩ ⟨true, true, false⟩)
        throughProxy).verdict = .ok (.recorded (fromNetwork (some "US-CA-N"))) ∧
    (withDatabase.count ⟨0, 0⟩ (Site.collecting ⟨7, "a.example", {}⟩ ⟨true, false, false⟩)
        throughProxy).verdict = .ok (.recorded (fromNetwork (some "US"))) ∧
    (fromNetwork (some "US")).location =
      (fromNetwork (some "US-CA-N")).location.map Visitor.countryOnly ∧
    hyphenated.CountryCode "US" ∧ (fromNetwork (some "US")).location = some "US" := by
  have hon := Verdict.hits_eq_singleton_iff.mp (show (withDatabase.count ⟨0, 0⟩
    (Site.collecting ⟨7, "a.example", {}⟩ ⟨true, true, false⟩) throughProxy).verdict.hits =
    [fromNetwork (some "US-CA-N")] by decide +kernel)
  have hoff := Verdict.hits_eq_singleton_iff.mp (show (withDatabase.count ⟨0, 0⟩
    (Site.collecting ⟨7, "a.example", {}⟩ ⟨true, false, false⟩) throughProxy).verdict.hits =
    [fromNetwork (some "US")] by decide +kernel)
  obtain ⟨-, -, hcut, hdatabase⟩ :=
    toggles_independent withDatabase ⟨0, 0⟩ ⟨7, "a.example", {}⟩ throughProxy
  have hcountry : hyphenated.CountryCode "US" := ⟨_, rfl, rfl⟩
  exact ⟨hon, hoff, hcut _ _ _ _ hoff hon rfl rfl rfl rfl, hcountry,
    (hdatabase oneNetwork (.v4 ⟨198, 51, 100, 7⟩) hyphenated "US" rfl (by decide +kernel) rfl
      hcountry (by decide) _ _ hoff rfl).1 rfl⟩

end Counter

end HitCounter
