import HitCounter.Store.Basic
import Mathlib.Data.List.Nodup

/-!
# The sites of a database

- **Hosts** (`Database.HostsDistinct`): no two sites of a database have the same host. A new site
  keeps that, and so do new settings, which touch no host.
- **Lookups** (`Database.siteByHost_eq_some`): the site that a lookup by host finds is the one row
  with that host.
-/

namespace HitCounter

namespace Tables

@[simp] theorem setText_hosts (t : Tables) (id : Int) (text : String) :
    (t.setText id text).sites.map (·.host) = t.sites.map (·.host) := by
  simp only [setText, List.map_map]
  apply List.map_congr_left
  intro r _
  simp only [Function.comp]
  split <;> rfl

theorem byHost?_eq_none {t : Tables} {host : String} :
    t.byHost? host = none ↔ host ∉ t.sites.map (·.host) := by
  simp only [byHost?, List.find?_eq_none, beq_iff_eq, List.mem_map, not_exists, not_and]

theorem byHost?_eq_some {t : Tables} {host : String} {r : SiteRow} (h : t.byHost? host = some r) :
    r ∈ t.sites ∧ r.host = host := by
  unfold byHost? at h
  exact ⟨List.mem_of_find?_eq_some h, by simpa using List.find?_some h⟩

end Tables

namespace Database

/-- No two sites have the same host. -/
def HostsDistinct (db : Database) : Prop :=
  ∀ t, db.tables = some t → (t.sites.map (·.host)).Nodup

theorem hostsDistinct_init : ({} : Database).init.HostsDistinct := by
  rintro t ht
  cases ht
  exact List.nodup_nil

theorem HostsDistinct.createSite {db : Database} (h : db.HostsDistinct) (host : String)
    (settings : Settings) : (db.createSite host settings).2.HostsDistinct := by
  cases ht : db.tables with
  | none => simpa [Database.createSite, sites, ht] using h
  | some t =>
    have hd := h t ht
    simp only [Database.createSite, sites, ht]
    cases hb : t.byHost? host with
    | some r =>
      rintro _ ⟨⟩
      exact hd
    | none =>
      rintro _ ⟨⟩
      have hnew := Tables.byHost?_eq_none.mp hb
      simp only [List.map_append, List.map_cons, List.map_nil]
      exact List.nodup_append.mpr ⟨hd, List.nodup_singleton host, by
        intro a ha b hb' heq
        rw [List.mem_singleton] at hb'
        exact hnew (hb' ▸ heq ▸ ha)⟩

theorem HostsDistinct.updateSettings {db : Database} (h : db.HostsDistinct) (id : Int)
    (settings : Settings) : (db.updateSettings id settings).2.HostsDistinct := by
  cases ht : db.tables with
  | none => simpa [Database.updateSettings, sites, ht] using h
  | some t =>
    simp only [Database.updateSettings, sites, ht]
    rintro _ ⟨⟩
    rw [Tables.setText_hosts]
    exact h t ht

/-- The row that a site was read from. -/
theorem toSite_eq_ok {r : SiteRow} {site : Site} (h : r.toSite = .ok site) :
    site.id = r.id ∧ site.host = r.host := by
  unfold SiteRow.toSite at h
  split at h
  · cases h
    exact ⟨rfl, rfl⟩
  · cases h

/-- A lookup by host that finds a site reads it from the one row with that host. -/
theorem siteByHost_eq_some {db : Database} (hd : db.HostsDistinct) {host : String} {site : Site}
    (h : db.siteByHost host = .ok (some site)) :
    ∃ t r, db.tables = some t ∧ r ∈ t.sites ∧ r.toSite = .ok site ∧ r.host = host ∧
      ∀ r' ∈ t.sites, r'.host = host → r' = r := by
  cases ht : db.tables with
  | none =>
    simp only [siteByHost, sites, ht, bind, Except.bind] at h
    cases h
  | some t =>
    simp only [siteByHost, sites, ht, bind, Except.bind] at h
    cases hb : t.byHost? host with
    | none =>
      rw [hb] at h
      cases h
    | some r =>
      obtain ⟨hmem, hhost⟩ := Tables.byHost?_eq_some hb
      rw [hb] at h
      simp only [readRow] at h
      cases hr : r.toSite with
      | error e =>
        rw [hr] at h
        cases h
      | ok s =>
        rw [hr] at h
        simp only [Except.map, Except.ok.injEq, Option.some.injEq] at h
        subst h
        refine ⟨t, r, rfl, hmem, hr, hhost, fun r' hr' hhost' => ?_⟩
        exact List.inj_on_of_nodup_map (hd t ht) hr' hmem (hhost'.trans hhost.symm)

end Database

/-! ## Writing through the store -/

namespace Store

variable {s : Store}

@[simp] theorem createSite_database (host : String) (settings : Settings) :
    (s.createSite host settings).2.database = (s.database.createSite host settings).2 := by
  unfold createSite
  dsimp only
  split <;> simp_all [remember]

@[simp] theorem updateSettings_database (id : Int) (settings : Settings) :
    (s.updateSettings id settings).2.database = (s.database.updateSettings id settings).2 := by
  unfold updateSettings
  dsimp only
  split <;> simp_all [forget]

theorem createSite_uncached (hs : s.cache = none) (host : String) (settings : Settings) :
    (s.createSite host settings).2.cache = none := by
  unfold createSite
  dsimp only
  split <;> simp [remember, hs]

theorem updateSettings_uncached (hs : s.cache = none) (id : Int) (settings : Settings) :
    (s.updateSettings id settings).2.cache = none := by
  unfold updateSettings
  dsimp only
  split <;> simp [forget, hs]

end Store

end HitCounter
