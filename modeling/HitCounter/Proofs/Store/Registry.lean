import HitCounter.Proofs.Store.Batch
import HitCounter.Proofs.Store.Cache

/-!
# The table of sites is what was written

- **Rows** (`Tables.Holds`): a table holds sites when each has a row, under different hosts and in
  the order of numbers that are used up. A new site, new settings and a batch of hits keep that.
- **Records** (`Record`): calls with their answers tell which sites were created and which settings
  each was given last.
- **Runs** (`Store.run_writes`): after any calls, every reading of a new database gives the sites
  that were created, with the settings that each was given last.
-/

namespace HitCounter

/-! ## Rows -/

/-- The row in which a site is written. -/
def Site.toRow (x : Site) : SiteRow := ⟨x.id, x.host, String.ofList x.settings.toJson⟩

theorem Site.toSite_toRow (x : Site) : x.toRow.toSite = .ok x :=
  SiteRow.toSite_written x.id x.host x.settings

/-- The site with other settings, if it has this number. -/
def Site.withSettings (id : Int) (settings : Settings) (x : Site) : Site :=
  if x.id = id then { x with settings } else x

@[simp] theorem Site.withSettings_id (id : Int) (settings : Settings) (x : Site) :
    (x.withSettings id settings).id = x.id := by
  unfold withSettings
  split <;> rfl

@[simp] theorem Site.withSettings_host (id : Int) (settings : Settings) (x : Site) :
    (x.withSettings id settings).host = x.host := by
  unfold withSettings
  split <;> rfl

/-- Sites as they are registered: under different hosts, and by positive numbers that increase. -/
structure Registered (sites : List Site) : Prop where
  hosts : (sites.map (·.host)).Nodup
  ids : (sites.map (·.id)).Pairwise (· < ·)
  positive : ∀ x ∈ sites, 0 < x.id

/-- The table has these sites, and every number below the next one is used up. -/
structure Tables.Holds (t : Tables) (sites : List Site) : Prop extends Registered sites where
  rows : t.sites = sites.map Site.toRow
  used : ∀ x ∈ sites, x.id < t.nextSite
  next : 0 < t.nextSite

namespace Tables.Holds

variable {t : Tables} {sites : List Site}

theorem byHost? (h : t.Holds sites) (host : String) :
    t.byHost? host = (sites.find? (·.host == host)).map Site.toRow := by
  rw [Tables.byHost?, h.rows, List.find?_map]
  rfl

theorem byId? (h : t.Holds sites) (id : Int) :
    t.byId? id = (sites.find? (·.id == id)).map Site.toRow := by
  rw [Tables.byId?, h.rows, List.find?_map]
  rfl

theorem byId?_isSome (h : t.Holds sites) (id : Int) :
    (t.byId? id).isSome = decide (id ∈ sites.map (·.id)) := by
  have hids : t.sites.map (·.id) = sites.map (·.id) := by
    rw [h.rows, List.map_map]
    rfl
  rw [Bool.eq_iff_iff, Tables.byId?_isSome_iff, hids, decide_eq_true_eq]

theorem mapM_toSite (sites : List Site) :
    (sites.map Site.toRow).mapM SiteRow.toSite = .ok sites := by
  induction sites with
  | nil => rfl
  | cons x sites ih =>
    rw [List.map_cons, List.mapM_cons, Site.toSite_toRow, ih]
    rfl

/-- A number that a conflict uses up changes no site. -/
theorem skip (h : t.Holds sites) : Tables.Holds { t with nextSite := t.nextSite + 1 } sites where
  toRegistered := h.toRegistered
  rows := h.rows
  used x hx := by
    have := h.used x hx
    dsimp only
    omega
  next := by
    have := h.next
    dsimp only
    omega

/-- A new site comes last. -/
theorem add (h : t.Holds sites) {host : String} (hnew : host ∉ sites.map (·.host))
    (settings : Settings) :
    let x : Site := ⟨t.nextSite, host, settings⟩
    Tables.Holds { t with sites := t.sites ++ [x.toRow], nextSite := t.nextSite + 1 }
      (sites ++ [x]) := by
  intro x
  have hnext := h.next
  refine ⟨⟨?_, ?_, ?_⟩, ?_, ?_, ?_⟩
  · rw [List.map_append, List.nodup_append]
    refine ⟨h.hosts, List.nodup_singleton host, fun a ha b hb heq => ?_⟩
    obtain rfl : b = host := List.mem_singleton.mp hb
    exact hnew (heq ▸ ha)
  · rw [List.map_append, List.pairwise_append]
    refine ⟨h.ids, List.pairwise_singleton _ _, fun a ha b hb => ?_⟩
    obtain rfl : b = t.nextSite := List.mem_singleton.mp hb
    obtain ⟨y, hy, rfl⟩ := List.mem_map.mp ha
    exact h.used y hy
  · intro y hy
    rcases List.mem_append.mp hy with hy | hy
    · exact h.positive y hy
    · obtain rfl := List.mem_singleton.mp hy
      exact hnext
  · simp only [h.rows, List.map_append, List.map_cons, List.map_nil]
  · intro y hy
    rcases List.mem_append.mp hy with hy | hy
    · have := h.used y hy
      dsimp only
      omega
    · obtain rfl := List.mem_singleton.mp hy
      dsimp only [x]
      omega
  · dsimp only
    omega

/-- Sites may change in anything but numbers and hosts. -/
theorem map (h : t.Holds sites) {f : Site → Site} (hid : ∀ x, (f x).id = x.id)
    (hhost : ∀ x, (f x).host = x.host) :
    Tables.Holds { t with sites := (sites.map f).map Site.toRow } (sites.map f) := by
  have hids : (sites.map f).map (·.id) = sites.map (·.id) := by
    simp only [List.map_map, Function.comp_def, hid]
  have hhosts : (sites.map f).map (·.host) = sites.map (·.host) := by
    simp only [List.map_map, Function.comp_def, hhost]
  refine ⟨⟨hhosts ▸ h.hosts, hids ▸ h.ids, ?_⟩, rfl, ?_, h.next⟩
  · simpa [hid] using h.positive
  · simpa [hid] using h.used

/-- New settings are written in the row of the site that they are for. -/
theorem setText_eq (h : t.Holds sites) (id : Int) (settings : Settings) :
    t.setText id (String.ofList settings.toJson) =
      { t with sites := (sites.map (·.withSettings id settings)).map Site.toRow } := by
  simp only [Tables.setText, h.rows, List.map_map]
  congr 1
  refine List.map_congr_left fun x _ => ?_
  simp only [Function.comp, Site.toRow, Site.withSettings, beq_iff_eq]
  split <;> rfl

theorem setText (h : t.Holds sites) (id : Int) (settings : Settings) :
    (t.setText id (String.ofList settings.toJson)).Holds
      (sites.map (·.withSettings id settings)) := by
  rw [h.setText_eq]
  exact h.map (Site.withSettings_id id settings) (Site.withSettings_host id settings)

/-- Hits touch no site. -/
theorem withHits (h : t.Holds sites) (rows : List HitRow) :
    Tables.Holds { t with hits := rows } sites :=
  ⟨h.toRegistered, h.rows, h.used, h.next⟩

end Tables.Holds

/-! ## Readings -/

namespace Database

/-- Every reading of the sites succeeds and gives these. -/
structure Shows (db : Database) (sites : List Site) : Prop where
  list : db.listSites = .ok sites
  byHost : ∀ host, db.siteByHost host = .ok (sites.find? (·.host == host))
  byId : ∀ id, db.siteById id = .ok (sites.find? (·.id == id))

theorem readRow_map_toRow (x : Option Site) : readRow (x.map Site.toRow) = .ok x := by
  cases x with
  | none => rfl
  | some x => simp only [Option.map_some, readRow, Site.toSite_toRow, Except.map]

theorem shows_of_holds {t : Tables} {sites : List Site} (h : t.Holds sites) :
    Shows ⟨some t⟩ sites where
  list := by
    rw [← Tables.Holds.mapM_toSite sites, ← h.rows]
    rfl
  byHost host := by rw [siteByHost_of_some rfl, h.byHost?, readRow_map_toRow]
  byId id := by
    have hread : Database.siteById id ⟨some t⟩ = readRow (t.byId? id) := rfl
    rw [hread, h.byId?, readRow_map_toRow]

variable {t : Tables} {sites : List Site}

/-- A host that is taken is refused. -/
theorem createSite_taken (h : t.Holds sites) {host : String} (hmem : host ∈ sites.map (·.host))
    (settings : Settings) : createSite host settings ⟨some t⟩ =
      (.error .conflict, ⟨some { t with nextSite := t.nextSite + 1 }⟩) := by
  cases hfind : sites.find? (·.host == host) with
  | none =>
    obtain ⟨x, hx, rfl⟩ := List.mem_map.mp hmem
    exact absurd (beq_self_eq_true x.host) (List.find?_eq_none.mp hfind x hx)
  | some x => simp only [createSite, Database.sites, h.byHost?, hfind, Option.map_some]

/-- A host that is free gets the next number. -/
theorem createSite_free (h : t.Holds sites) {host : String} (hnew : host ∉ sites.map (·.host))
    (settings : Settings) : createSite host settings ⟨some t⟩ =
      (.ok ⟨t.nextSite, host, settings⟩, ⟨some { t with
        sites := t.sites ++ [(⟨t.nextSite, host, settings⟩ : Site).toRow]
        nextSite := t.nextSite + 1 }⟩) := by
  have hnone : sites.find? (·.host == host) = none := by
    refine List.find?_eq_none.mpr fun x hx heq => hnew ?_
    exact List.mem_map.mpr ⟨x, hx, eq_of_beq heq⟩
  simp only [createSite, Database.sites, h.byHost?, hnone, Option.map_none]
  rfl

theorem updateSettings_eq (h : t.Holds sites) (id : Int) (settings : Settings) :
    updateSettings id settings ⟨some t⟩ = (.ok (decide (id ∈ sites.map (·.id))),
      ⟨some (t.setText id (String.ofList settings.toJson))⟩) := by
  simp only [updateSettings, Database.sites, h.byId?_isSome]

end Database

/-! ## Records -/

/-- Calls with their answers, in their order. -/
abbrev Record := List (Call × Answer)

namespace Record

/-- The site that a call created, by number and host. -/
def created? : Call × Answer → Option (Int × String)
  | (.createSite host _, .created site) => some (site.id, host)
  | _ => none

/-- The settings that a call gave to a site. -/
def given? (id : Int) : Call × Answer → Option Settings
  | (.createSite _ settings, .created site) => if site.id = id then some settings else none
  | (.updateSettings other settings, .updated true) => if other = id then some settings else none
  | _ => none

/-- The sites that were created, by number and host. -/
def created (r : Record) : List (Int × String) := r.filterMap created?

/-- The settings that a site was given last. -/
def lastGiven? (r : Record) (id : Int) : Option Settings := r.reverse.findSome? (given? id)

/-- These are the sites that were created, with the settings that each was given last. -/
structure Describes (r : Record) (sites : List Site) : Prop where
  created : sites.map (fun x => (x.id, x.host)) = r.created
  settings : ∀ x ∈ sites, r.lastGiven? x.id = some x.settings

variable {r : Record} {sites : List Site}

theorem created_concat (e : Call × Answer) :
    created (r ++ [e]) = r.created ++ (created? e).toList := by
  rw [created, List.filterMap_append]
  cases he : created? e <;> simp [created, he]

theorem lastGiven?_concat (e : Call × Answer) (id : Int) :
    lastGiven? (r ++ [e]) id = (given? id e).or (r.lastGiven? id) := by
  rw [lastGiven?, List.reverse_append, List.reverse_singleton, List.singleton_append,
    List.findSome?_cons]
  cases given? id e <;> rfl

/-- A call that writes nothing leaves the record a description of the same sites. -/
theorem Describes.skip (h : r.Describes sites) {e : Call × Answer} (hc : created? e = none)
    (hg : ∀ id, given? id e = none) : Describes (r ++ [e]) sites := by
  refine ⟨?_, fun x hx => ?_⟩
  · rw [created_concat, hc, Option.toList_none, List.append_nil, h.created]
  · rw [lastGiven?_concat, hg, Option.none_or, h.settings x hx]

/-- A site that is created under a number of its own joins the others. -/
theorem Describes.create (h : r.Describes sites) {x : Site} (hnew : x.id ∉ sites.map (·.id)) :
    Describes (r ++ [(.createSite x.host x.settings, .created x)]) (sites ++ [x]) := by
  refine ⟨?_, fun y hy => ?_⟩
  · rw [created_concat, List.map_append, h.created]
    rfl
  · rw [lastGiven?_concat]
    rcases List.mem_append.mp hy with hy | hy
    · have hne : x.id ≠ y.id := fun heq => hnew (heq ▸ List.mem_map_of_mem hy)
      rw [given?, if_neg hne, Option.none_or, h.settings y hy]
    · obtain rfl := List.mem_singleton.mp hy
      rw [given?, if_pos rfl, Option.some_or]

/-- New settings are the last ones of the site that they are for. -/
theorem Describes.update (h : r.Describes sites) (id : Int) (settings : Settings) :
    Describes (r ++ [(.updateSettings id settings, .updated true)])
      (sites.map (·.withSettings id settings)) := by
  refine ⟨?_, fun y hy => ?_⟩
  · have hnone : created? (.updateSettings id settings, .updated true) = none := rfl
    rw [created_concat, List.map_map, ← h.created, hnone, Option.toList_none, List.append_nil]
    simp only [Function.comp_def, Site.withSettings_id, Site.withSettings_host]
  · obtain ⟨x, hx, rfl⟩ := List.mem_map.mp hy
    rw [lastGiven?_concat, Site.withSettings_id, given?]
    by_cases heq : id = x.id
    · rw [if_pos heq, Option.some_or, Site.withSettings, if_pos heq.symm]
    · rw [if_neg heq, Option.none_or, Site.withSettings, if_neg (Ne.symm heq), h.settings x hx]

end Record

/-! ## Runs -/

namespace Store

/-- The table of sites holds what the record tells. -/
def Keeps (s : Store) (r : Record) : Prop :=
  ∃ t sites, s.database = ⟨some t⟩ ∧ t.Holds sites ∧ r.Describes sites

variable {s : Store} {r : Record}

theorem siteByHost_database (s : Store) (host : String) :
    (s.siteByHost host).2.database = s.database := by
  unfold siteByHost
  split
  · rfl
  · split <;> rfl

/-- A call that only reads keeps the record true. -/
theorem Keeps.skip (hs : s.Keeps r) {e : Call × Answer} {s' : Store}
    (hdb : s'.database = s.database) (hc : Record.created? e = none)
    (hg : ∀ id, Record.given? id e = none) : s'.Keeps (r ++ [e]) := by
  obtain ⟨t, sites, ht, hholds, hrecord⟩ := hs
  exact ⟨t, sites, hdb.trans ht, hholds, hrecord.skip hc hg⟩

theorem Keeps.createSite (hs : s.Keeps r) (host : String) (settings : Settings) :
    (s.call (.createSite host settings)).2.Keeps
      (r ++ [(.createSite host settings, (s.call (.createSite host settings)).1)]) := by
  obtain ⟨t, sites, ht, hholds, hrecord⟩ := hs
  simp only [call, createSite_result, Keeps, createSite_database, ht]
  by_cases hmem : host ∈ sites.map (·.host)
  · rw [Database.createSite_taken hholds hmem]
    exact ⟨_, sites, rfl, hholds.skip, hrecord.skip rfl fun _ => rfl⟩
  · have hnew : t.nextSite ∉ sites.map (·.id) := by
      intro hid
      obtain ⟨x, hx, heq⟩ := List.mem_map.mp hid
      have := hholds.used x hx
      omega
    rw [Database.createSite_free hholds hmem]
    exact ⟨_, _, rfl, hholds.add hmem settings,
      hrecord.create (x := ⟨t.nextSite, host, settings⟩) hnew⟩

theorem Keeps.updateSettings (hs : s.Keeps r) (id : Int) (settings : Settings) :
    (s.call (.updateSettings id settings)).2.Keeps
      (r ++ [(.updateSettings id settings, (s.call (.updateSettings id settings)).1)]) := by
  obtain ⟨t, sites, ht, hholds, hrecord⟩ := hs
  simp only [call, updateSettings_result, Keeps, updateSettings_database, ht,
    Database.updateSettings_eq hholds]
  by_cases hid : id ∈ sites.map (·.id)
  · rw [decide_eq_true hid]
    exact ⟨_, _, rfl, hholds.setText id settings, hrecord.update id settings⟩
  · have hsame : t.setText id (String.ofList settings.toJson) = t := by
      refine Tables.setText_of_byId?_eq_none ?_ _
      rw [← Option.not_isSome_iff_eq_none, hholds.byId?_isSome, decide_eq_false hid]
      exact Bool.false_ne_true
    rw [decide_eq_false hid, hsame]
    exact ⟨t, sites, rfl, hholds, hrecord.skip rfl fun _ => rfl⟩

/-- **One call**, with its answer, keeps the record true. -/
theorem Keeps.call (hs : s.Keeps r) (c : Call) :
    (s.call c).2.Keeps (r ++ [(c, (s.call c).1)]) := by
  cases c with
  | createSite host settings => exact hs.createSite host settings
  | updateSettings id settings => exact hs.updateSettings id settings
  | siteByHost host => exact hs.skip (siteByHost_database s host) rfl fun _ => rfl
  | siteById id => exact hs.skip rfl rfl fun _ => rfl
  | listSites => exact hs.skip rfl rfl fun _ => rfl
  | countHits id => exact hs.skip rfl rfl fun _ => rfl
  | persistHits batch =>
    obtain ⟨t, sites, ht, hholds, hrecord⟩ := hs
    obtain ⟨rows, hrows⟩ := Database.persistHits_tables t batch
    have hdb : (s.call (.persistHits batch)).2.database = ⟨some { t with hits := rows }⟩ := by
      rw [← hrows, ← ht]
      rfl
    exact ⟨_, sites, hdb, hholds.withHits rows, hrecord.skip rfl fun _ => rfl⟩

/-- Any calls, with their answers, keep the record true. -/
theorem Keeps.run (hs : s.Keeps r) (calls : List Call) :
    (s.run calls).2.Keeps (r ++ calls.zip (s.run calls).1) := by
  induction calls generalizing s r with
  | nil => simpa [Store.run] using hs
  | cons c calls ih =>
    have hmore := ih (hs.call c)
    rwa [List.append_assoc, List.singleton_append] at hmore

theorem length_run (s : Store) (calls : List Call) : (s.run calls).1.length = calls.length := by
  induction calls generalizing s with
  | nil => rfl
  | cons c calls ih => simp only [Store.run, List.length_cons, ih]

theorem keeps_init (cache : Option Cache) : Keeps ⟨({} : Database).init, cache⟩ [] := by
  refine ⟨{}, [], rfl, ⟨⟨List.nodup_nil, List.Pairwise.nil, ?_⟩, rfl, ?_, Int.one_pos⟩, rfl, ?_⟩
  · exact List.forall_mem_nil _
  · exact List.forall_mem_nil _
  · exact List.forall_mem_nil _

/-- **The table of sites is what was written.** After any calls of a new database, every reading
gives the sites that were created, in the order of their numbers and with the settings that each was
given last. A new site is refused exactly if its host is taken, and other settings are taken exactly
if their site exists; neither touches another site or a hit. -/
theorem run_writes (calls : List Call) :
    let s := run ⟨({} : Database).init, none⟩ calls
    let db := s.2.database
    s.1.length = calls.length ∧
    (∀ settings : Settings, Settings.ofJson (Text.encode settings.toJson) = .ok settings) ∧
    ∃ sites : List Site, Record.Describes (calls.zip s.1) sites ∧ Registered sites ∧
      db.Shows sites ∧
      (∀ host settings,
        let next := db.createSite host settings
        next.2.hitRows = db.hitRows ∧
        (host ∈ sites.map (·.host) → next.1 = .error .conflict ∧ next.2.Shows sites) ∧
        (host ∉ sites.map (·.host) → ∃ id, (∀ x ∈ sites, x.id < id) ∧ 0 < id ∧
          next.1 = .ok ⟨id, host, settings⟩ ∧ next.2.Shows (sites ++ [⟨id, host, settings⟩]))) ∧
      ∀ id settings,
        let next := db.updateSettings id settings
        next.2.hitRows = db.hitRows ∧ next.1 = .ok (decide (id ∈ sites.map (·.id))) ∧
          next.2.Shows (sites.map (·.withSettings id settings)) := by
  intro s db
  obtain ⟨t, sites, ht, hholds, hrecord⟩ := (keeps_init none).run calls
  have hdb : db = ⟨some t⟩ := ht
  rw [hdb]
  refine ⟨length_run _ calls, Settings.ofJson_toJson, sites, hrecord, hholds.toRegistered,
    Database.shows_of_holds hholds, fun host settings =>
      ⟨Database.createSite_hitRows _ host settings, fun hmem => ?_, fun hnew => ?_⟩,
    fun id settings => ⟨Database.updateSettings_hitRows _ id settings, ?_⟩⟩
  · rw [Database.createSite_taken hholds hmem]
    exact ⟨rfl, Database.shows_of_holds hholds.skip⟩
  · rw [Database.createSite_free hholds hnew]
    exact ⟨t.nextSite, hholds.used, hholds.next, rfl,
      Database.shows_of_holds (hholds.add hnew settings)⟩
  · rw [Database.updateSettings_eq hholds]
    exact ⟨rfl, Database.shows_of_holds (hholds.setText id settings)⟩

/-! ### A conflict and other settings -/

/-- Two sites are created, the first one twice, and its settings are changed. -/
def rewritten : List Call :=
  [.createSite "a.example" {}, .createSite "a.example" { ignored := ["192.0.2.1"] },
    .createSite "b.example" {}, .updateSettings 1 { ignored := ["\"\\\n\x00"] }]

/-- The second site has the third number. The host of the first one stays taken, and only its own
settings are the changed ones. -/
theorem run_writes_rewritten :
    let db := (run ⟨({} : Database).init, none⟩ rewritten).2.database
    db.listSites = .ok [⟨1, "a.example", { ignored := ["\"\\\n\x00"] }⟩, ⟨3, "b.example", {}⟩] ∧
      (db.createSite "a.example" {}).1 = .error .conflict ∧
      ∃ id, 3 < id ∧ (db.createSite "c.example" {}).1 = .ok ⟨id, "c.example", {}⟩ := by
  intro db
  obtain ⟨-, -, sites, hrecord, -, hshows, hcreate, -⟩ := run_writes rewritten
  have hcreated : sites.map (fun x => (x.id, x.host)) = [(1, "a.example"), (3, "b.example")] :=
    hrecord.created.trans (by decide)
  obtain ⟨x, rest, rfl, hx, hrest⟩ := List.map_eq_cons_iff.mp hcreated
  obtain ⟨y, rest, rfl, hy, hnil⟩ := List.map_eq_cons_iff.mp hrest
  obtain rfl := List.map_eq_nil_iff.mp hnil
  obtain ⟨i, host, given⟩ := x
  obtain ⟨i', host', given'⟩ := y
  simp only [Prod.mk.injEq] at hx hy
  obtain ⟨rfl, rfl⟩ := hx
  obtain ⟨rfl, rfl⟩ := hy
  have hgiven := hrecord.settings _ List.mem_cons_self
  have hgiven' := hrecord.settings _ (List.mem_cons_of_mem _ List.mem_cons_self)
  have hlast : Record.lastGiven? (rewritten.zip (run ⟨({} : Database).init, none⟩ rewritten).1) 1 =
      some { ignored := ["\"\\\n\x00"] } := by decide
  have hlast' : Record.lastGiven? (rewritten.zip (run ⟨({} : Database).init, none⟩ rewritten).1) 3 =
      some {} := by decide
  obtain rfl : _ = given := Option.some.inj (hlast.symm.trans hgiven)
  obtain rfl : _ = given' := Option.some.inj (hlast'.symm.trans hgiven')
  refine ⟨hshows.list, ((hcreate "a.example" {}).2.1 (by simp)).1, ?_⟩
  obtain ⟨id, hbeyond, -, hok, -⟩ := (hcreate "c.example" {}).2.2 (by simp)
  exact ⟨id, hbeyond _ (List.mem_cons_of_mem _ List.mem_cons_self), hok⟩

end Store

end HitCounter
