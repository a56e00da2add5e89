import HitCounter.Proofs.Site.Settings
import HitCounter.Proofs.Store.Batch
import HitCounter.Proofs.Store.Sites

/-!
# The cache cannot be observed

- **Entries** (`Cache.get?_insert_self`, `Cache.get?_insert_of_ne`): a cache gives the value that
  was entered last.
- **Coherence** (`Store.Coherent`): every entry of the cache is what the database answers. Every
  call keeps that, and answers as it would without the cache (`Store.call_eq`).
- **Runs** (`Store.cached_run_eq`): with a cache or without one, calls have the same answers and
  leave the same database.
-/

namespace HitCounter

/-! ## Entries -/

namespace Cache

theorem get?_insert_self (c : Cache) (host : String) (site : Option Site) :
    (c.insert host site).get? host = some site := by
  simp [get?, insert]

theorem get?_insert_of_ne (c : Cache) {host other : String} (site : Option Site)
    (h : other ≠ host) : (c.insert host site).get? other = c.get? other := by
  have hne : (other == host) = false := by simpa using h
  simp only [get?, insert, List.lookup_cons, hne]
  induction c with
  | nil => rfl
  | cons e c ih =>
    by_cases he : e.1 = host
    · have hskip : (other == e.1) = false := by rw [he]; exact hne
      rw [List.filter_cons_of_neg (by simp [he]), ih, List.lookup_cons, hskip]
    · rw [List.filter_cons_of_pos (by simp [he]), List.lookup_cons, List.lookup_cons, ih]

end Cache

/-! ## What the lookup of a host depends on -/

namespace SiteRow

/-- A row with written settings holds the site that was written. -/
theorem toSite_written (id : Int) (host : String) (settings : Settings) :
    (SiteRow.mk id host (String.ofList settings.toJson)).toSite = .ok ⟨id, host, settings⟩ := by
  simp [toSite, Settings.ofJson_toJson]

end SiteRow

namespace Tables

/-- Settings for a number that no site has change nothing. -/
theorem setText_of_byId?_eq_none {t : Tables} {id : Int} (h : t.byId? id = none) (text : String) :
    t.setText id text = t := by
  have hkeep : t.sites.map (fun r => if r.id == id then { r with settings := text } else r) =
      t.sites := by
    rw [List.map_congr_left, List.map_id']
    intro r hr
    rw [if_neg (List.find?_eq_none.mp h r hr)]
  rw [setText, hkeep]

end Tables

namespace Database

variable {db : Database} {host other : String} {settings : Settings}

theorem siteByHost_of_some {t : Tables} (ht : db.tables = some t) (host : String) :
    db.siteByHost host = readRow (t.byHost? host) := by
  simp only [siteByHost, sites, ht]
  rfl

/-- A lookup reads the table of sites alone. -/
theorem siteByHost_congr {db' : Database}
    (h : db'.tables.map (·.sites) = db.tables.map (·.sites)) (host : String) :
    db'.siteByHost host = db.siteByHost host := by
  cases ht : db.tables with
  | none =>
    rw [ht, Option.map_none, Option.map_eq_none_iff] at h
    simp only [siteByHost, sites, ht, h]
  | some t =>
    rw [ht, Option.map_some, Option.map_eq_some_iff] at h
    obtain ⟨t', ht', hsites⟩ := h
    rw [siteByHost_of_some ht, siteByHost_of_some ht', Tables.byHost?, Tables.byHost?, hsites]

/-- A site that was not created leaves the table of sites as it was. -/
theorem createSite_error {e : StoreFault} (h : (db.createSite host settings).1 = .error e) :
    (db.createSite host settings).2.tables.map (·.sites) = db.tables.map (·.sites) := by
  cases ht : db.tables with
  | none => simp [createSite, sites, ht]
  | some t =>
    cases hb : t.byHost? host with
    | none => simp [createSite, sites, ht, hb] at h
    | some r => simp [createSite, sites, ht, hb]

/-- A site that was created is found under its host, and other hosts as before. -/
theorem createSite_ok {site : Site} (h : (db.createSite host settings).1 = .ok site) :
    (db.createSite host settings).2.siteByHost host = .ok (some site) ∧
      ∀ other ≠ host, (db.createSite host settings).2.siteByHost other = db.siteByHost other := by
  cases ht : db.tables with
  | none => simp [createSite, sites, ht] at h
  | some t =>
    cases hb : t.byHost? host with
    | some r => simp [createSite, sites, ht, hb] at h
    | none =>
      simp only [createSite, sites, ht, hb, Except.ok.injEq] at h ⊢
      subst h
      refine ⟨?_, fun other hne => ?_⟩
      · have hfind : t.sites.find? (·.host == host) = none := hb
        rw [siteByHost_of_some rfl, Tables.byHost?, List.find?_append, hfind]
        simp [readRow, SiteRow.toSite_written, Except.map]
      · have hskip : (host == other) = false := by simpa using hne.symm
        rw [siteByHost_of_some rfl, siteByHost_of_some ht, Tables.byHost?, List.find?_append]
        simp [hskip, Tables.byHost?]

/-- Settings that no site got leave the database as it was. -/
theorem updateSettings_missed {id : Int} (h : (db.updateSettings id settings).1 ≠ .ok true) :
    (db.updateSettings id settings).2 = db := by
  cases ht : db.tables with
  | none => simp [updateSettings, sites, ht]
  | some t =>
    have hnone : t.byId? id = none := by
      cases hid : t.byId? id with
      | none => rfl
      | some r => simp [updateSettings, sites, ht, hid] at h
    simp only [updateSettings, sites, ht, Tables.setText_of_byId?_eq_none hnone]
    rw [← ht]

/-- A batch of hits, stored or refused, leaves the table of sites as it was. -/
theorem persistHits_sites (batch : List Hit) :
    (db.persistHits batch).2.tables.map (·.sites) = db.tables.map (·.sites) := by
  obtain ⟨tables⟩ := db
  cases tables with
  | none => cases batch <;> rfl
  | some t =>
    obtain ⟨rows, hrows⟩ := persistHits_tables t batch
    rw [hrows]
    rfl

end Database

/-! ## Coherence -/

namespace Store

/-- Every entry of the cache is what the database answers. -/
def Coherent (s : Store) : Prop :=
  ∀ c, s.cache = some c → ∀ host site, c.get? host = some site →
    s.database.siteByHost host = .ok site

variable {s : Store}

/-- A database that answers lookups as before leaves the cache coherent. -/
theorem Coherent.of_siteByHost (h : s.Coherent) {database : Database}
    (hdb : ∀ host, database.siteByHost host = s.database.siteByHost host) :
    ({ s with database } : Store).Coherent := by
  intro c hc host site hget
  rw [hdb]
  exact h c hc host site hget

/-- An entry that the database answers, beside entries for other hosts, leaves the cache
coherent. -/
theorem Coherent.remember (h : s.Coherent) {database : Database} {host : String}
    {site : Option Site} (hnew : database.siteByHost host = .ok site)
    (hold : ∀ other ≠ host, database.siteByHost other = s.database.siteByHost other) :
    (({ s with database } : Store).remember host site).Coherent := by
  intro c hc other e hget
  unfold Store.remember at hc ⊢
  obtain ⟨before, hbefore, rfl⟩ := Option.map_eq_some_iff.mp hc
  by_cases heq : other = host
  · subst heq
    rw [Cache.get?_insert_self, Option.some.injEq] at hget
    exact hget ▸ hnew
  · rw [Cache.get?_insert_of_ne _ _ heq] at hget
    exact (hold other heq).trans (h before hbefore other e hget)

theorem coherent_forget (s : Store) : s.forget.Coherent := by
  intro c hc host site hget
  unfold forget at hc
  obtain ⟨before, -, rfl⟩ := Option.map_eq_some_iff.mp hc
  cases hget

theorem Coherent.createSite (h : s.Coherent) (host : String) (settings : Settings) :
    (s.createSite host settings).2.Coherent := by
  unfold Store.createSite
  cases hr : (s.database.createSite host settings).1 with
  | ok site =>
    obtain ⟨hnew, hold⟩ := Database.createSite_ok hr
    simp only [hr]
    exact h.remember hnew hold
  | error e =>
    simp only [hr]
    exact h.of_siteByHost (Database.siteByHost_congr (Database.createSite_error hr))

theorem Coherent.siteByHost (h : s.Coherent) (host : String) :
    (s.siteByHost host).1 = s.database.siteByHost host ∧
      (s.siteByHost host).2.database = s.database ∧ (s.siteByHost host).2.Coherent := by
  unfold Store.siteByHost
  cases hc : s.cache.bind (·.get? host) with
  | some site =>
    obtain ⟨c, hcache, hget⟩ := Option.bind_eq_some_iff.mp hc
    exact ⟨(h c hcache host site hget).symm, rfl, h⟩
  | none =>
    cases hr : s.database.siteByHost host with
    | ok site => exact ⟨rfl, rfl, h.remember hr fun _ _ => rfl⟩
    | error e => exact ⟨rfl, rfl, h⟩

theorem Coherent.updateSettings (h : s.Coherent) (id : Int) (settings : Settings) :
    (s.updateSettings id settings).2.Coherent := by
  unfold Store.updateSettings
  by_cases hr : (s.database.updateSettings id settings).1 = .ok true
  · simp only [hr]
    exact coherent_forget _
  · have hsame := Database.updateSettings_missed hr
    dsimp only
    split
    · rename_i heq
      exact absurd heq hr
    · rw [hsame]
      exact h

theorem Coherent.persistHits (h : s.Coherent) (batch : List Hit) :
    (s.persistHits batch).2.Coherent :=
  h.of_siteByHost (Database.siteByHost_congr (Database.persistHits_sites batch))

/-- Every call keeps the cache coherent. -/
theorem Coherent.call (h : s.Coherent) (c : Call) : (s.call c).2.Coherent := by
  cases c with
  | createSite host settings => exact h.createSite host settings
  | siteByHost host => exact (h.siteByHost host).2.2
  | siteById id => exact h
  | updateSettings id settings => exact h.updateSettings id settings
  | listSites => exact h
  | persistHits batch => exact h.persistHits batch
  | countHits id => exact h

/-! ## Calls and runs -/

theorem createSite_result (host : String) (settings : Settings) :
    (s.createSite host settings).1 = (s.database.createSite host settings).1 := by
  unfold createSite
  dsimp only
  split <;> simp_all

theorem updateSettings_result (id : Int) (settings : Settings) :
    (s.updateSettings id settings).1 = (s.database.updateSettings id settings).1 := by
  unfold updateSettings
  dsimp only
  split <;> simp_all

variable {p : Store}

/-- **One call** of two stores that are coherent with one database, whatever their caches know: it
has one answer and leaves one database. -/
theorem call_eq (hs : s.Coherent) (hp : p.Coherent) (hdb : s.database = p.database) (c : Call) :
    (s.call c).1 = (p.call c).1 ∧ (s.call c).2.database = (p.call c).2.database := by
  cases c with
  | createSite host settings =>
    simp only [call, createSite_result, createSite_database, hdb, and_self]
  | siteByHost host =>
    obtain ⟨hanswer, hsame, -⟩ := hs.siteByHost host
    obtain ⟨hanswer', hsame', -⟩ := hp.siteByHost host
    simp only [call, hanswer, hanswer', hsame, hsame', hdb, and_self]
  | siteById id => simp only [call, hdb, and_self]
  | updateSettings id settings =>
    simp only [call, updateSettings_result, updateSettings_database, hdb, and_self]
  | listSites => simp only [call, hdb, and_self]
  | persistHits batch => simp only [call, persistHits, hdb, and_self]
  | countHits id => simp only [call, hdb, and_self]

/-- Any calls of two stores that are coherent with one database. -/
theorem run_eq (hs : s.Coherent) (hp : p.Coherent) (hdb : s.database = p.database)
    (calls : List Call) :
    (s.run calls).1 = (p.run calls).1 ∧ (s.run calls).2.database = (p.run calls).2.database := by
  induction calls generalizing s p with
  | nil => exact ⟨rfl, hdb⟩
  | cons c calls ih =>
    obtain ⟨hanswer, hnext⟩ := call_eq hs hp hdb c
    obtain ⟨hanswers, hlast⟩ := ih (hs.call c) (hp.call c) hnext
    exact ⟨by simp only [run, hanswer, hanswers], hlast⟩

/-- **The cache cannot be observed.** On a new database, calls have the same answers with a cache
and without one, and leave the same database. -/
theorem cached_run_eq (calls : List Call) :
    let new := ({} : Database).init
    (run ⟨new, some []⟩ calls).1 = (run ⟨new, none⟩ calls).1 ∧
      (run ⟨new, some []⟩ calls).2.database = (run ⟨new, none⟩ calls).2.database := by
  intro new
  have hcached : (Store.mk new (some [])).Coherent := by
    rintro _ ⟨⟩ host site hget
    cases hget
  have hplain : (Store.mk new none).Coherent := by
    rintro c hc
    cases hc
  exact run_eq hcached hplain rfl calls

end Store

end HitCounter
