import HitCounter.Proofs.Admin.Session
import HitCounter.Proofs.Text.Lowercase

/-!
# Edits of sites

The commands that edit a site read its settings, revise them and write them back as a whole.

- **Revisions** (`Admin.Command.revise`, `Site.revised`): what an edit does to the settings of its
  site, apart from any database. The laws of edits are laws of revisions.
- **Edits** (`Admin.Command.Edits`, `Admin.applied_edit`): an edit leaves the database with the
  sites revised under one host, and with nothing else changed.
- **Hosts** (`Admin.normalHost_of_lower`): the host of a site names the site in any case of its
  ASCII letters.

`Session.run_edits` states the laws: repeated edits, edits that undo each other, edits of different
clients and edits of different hosts.
-/

namespace HitCounter

/-! ## Sites revised under one host -/

/-- The site with other settings, if it is under the host. -/
def Site.revised (host : String) (f : Settings → Settings) (x : Site) : Site :=
  if x.host = host then { x with settings := f x.settings } else x

section

variable {host host' : String} {f g : Settings → Settings} {x : Site} {sites : List Site}

@[simp] theorem Site.revised_id : (x.revised host f).id = x.id := by
  unfold revised
  split <;> rfl

@[simp] theorem Site.revised_host : (x.revised host f).host = x.host := by
  unfold revised
  split <;> rfl

theorem Site.revised_of_eq (h : x.host = host) :
    x.revised host f = { x with settings := f x.settings } :=
  if_pos h

theorem Site.revised_of_ne (h : x.host ≠ host) : x.revised host f = x := if_neg h

/-- Two revisions under one host are one. -/
theorem Site.revised_revised : (x.revised host f).revised host g = x.revised host (g ∘ f) := by
  by_cases h : x.host = host
  · rw [revised_of_eq (x := x.revised host f) (by rwa [revised_host]), revised_of_eq h,
      revised_of_eq h]
    rfl
  · rw [revised_of_ne h, revised_of_ne h, revised_of_ne h]

/-- Revisions under different hosts concern different sites. -/
theorem Site.revised_comm (hne : host ≠ host') :
    (x.revised host f).revised host' g = (x.revised host' g).revised host f := by
  by_cases h : x.host = host
  · have h' : x.host ≠ host' := h ▸ hne
    rw [revised_of_ne h', revised_of_ne (x := x.revised host f) (by rwa [revised_host])]
  · rw [revised_of_ne h, revised_of_ne (x := x.revised host' g) (by rwa [revised_host])]

/-- Under one host there is one site to revise. -/
theorem Registered.map_revised (h : Registered sites) (hx : x ∈ sites) (named : x.host = host) :
    sites.map (·.revised host f) = sites.map (·.withSettings x.id (f x.settings)) := by
  refine List.map_congr_left fun y hy => ?_
  by_cases heq : y = x
  · subst heq
    rw [Site.revised_of_eq named, Site.withSettings, if_pos rfl]
  · have hhost : y.host ≠ host := fun hy' => heq (h.eq_of_host hy hx (hy'.trans named.symm))
    have hid : y.id ≠ x.id := fun hy' => heq (h.eq_of_id hy hx hy')
    rw [Site.revised_of_ne hhost, Site.withSettings, if_neg hid]

/-- A revision that leaves the settings under its host as they are leaves all sites as they are. -/
theorem map_revised_eq_self (h : ∀ x ∈ sites, x.host = host → f x.settings = x.settings) :
    sites.map (·.revised host f) = sites := by
  refine (List.map_congr_left fun x hx => ?_).trans (List.map_id sites)
  by_cases named : x.host = host
  · rw [Site.revised_of_eq named, h x hx named]
    rfl
  · exact Site.revised_of_ne named

end

/-! ## Databases of sites -/

namespace Database

/-- The database with these sites in the place of its own. -/
def withSites (db : Database) (sites : List Site) : Database :=
  ⟨some { db.tables.getD {} with sites := sites.map Site.toRow }⟩

/-- The client is on the list of the site under the host. -/
def Ignores (db : Database) (host ip : String) : Prop :=
  ∃ x, db.siteByHost host = .ok (some x) ∧ ip ∈ x.settings.ignored

variable {db : Database} {sites : List Site} {host ip : String}

theorem Stores.withSites_self (h : db.Stores sites) : db.withSites sites = db.init := by
  rw [withSites, ← h.rows]
  rfl

theorem Stores.revised (h : db.Stores sites) (host : String) (f : Settings → Settings) :
    (db.withSites (sites.map (·.revised host f))).Stores (sites.map (·.revised host f)) :=
  h.map (fun _ => Site.revised_id) fun _ => Site.revised_host

/-- A database that stores a site has its tables. -/
theorem Stores.init_eq (h : db.Stores sites) (hne : sites ≠ []) : db.init = db := by
  obtain ⟨_ | t⟩ := db
  · have hrows : [] = sites.map Site.toRow := h.rows
    exact absurd (List.map_eq_nil_iff.mp hrows.symm) hne
  · rfl

/-- What a database finds under a host is the site that it stores there. -/
theorem Stores.siteByHost_iff (h : db.Stores sites) {x : Site} :
    db.siteByHost host = .ok (some x) ↔ x ∈ sites ∧ x.host = host := by
  obtain ⟨_ | t⟩ := db
  · have hrows : [] = sites.map Site.toRow := h.rows
    simp [List.map_eq_nil_iff.mp hrows.symm, siteByHost, Database.sites, bind, Except.bind]
  · have hfound : siteByHost host ⟨some t⟩ = .ok (sites.find? (·.host == host)) :=
      h.shows.byHost host
    rw [hfound, Except.ok.injEq, h.find?_host_iff]

theorem Stores.ignores_iff (h : db.Stores sites) :
    db.Ignores host ip ↔ ∃ x ∈ sites, x.host = host ∧ ip ∈ x.settings.ignored := by
  simp only [Ignores, h.siteByHost_iff, and_assoc]

end Database

namespace Admin

/-! ## Edits -/

/-- The database that a command leaves. -/
def Command.applied (c : Command) (db : Database) : Database := (run c db.init).2

/-- The command edits the site under the host, which it names in some case. -/
inductive Command.Edits (host : String) : Command → Prop where
  | ignore {arg : String} (ip : String) (named : normalHost arg = host) :
    Edits host (.ignore arg ip)
  | unignore {arg : String} (ip : String) (named : normalHost arg = host) :
    Edits host (.unignore arg ip)
  | collect {arg : String} (field : CollectField) (on : Bool) (named : normalHost arg = host) :
    Edits host (.collect arg field on)

/-- What an edit does to the settings of its site. -/
def Command.revise : Command → Settings → Settings
  | .ignore _ ip, s => if ip ∈ s.ignored then s else { s with ignored := s.ignored ++ [ip] }
  | .unignore _ ip, s => { s with ignored := s.ignored.filter (· != ip) }
  | .collect _ field on, s =>
    match toggle s.collect field on with
    | .ok kept => { s with collect := kept }
    | .error _ => s
  | .addSite _ _, s | .list, s | .stats _, s => s

/-! ### Laws of revisions -/

namespace Command

variable {arg arg' ip ip' : String} {s : Settings}

/-- A list that does not hold the client stays as it is. -/
theorem revise_unignore_of_not_mem (hip : ip ∉ s.ignored) : (unignore arg ip).revise s = s := by
  have hall : s.ignored.filter (· != ip) = s.ignored :=
    List.filter_eq_self.mpr fun y hy => bne_iff_ne.mpr fun heq => hip (heq ▸ hy)
  rw [revise, hall]

theorem mem_revise_ignore :
    ip' ∈ ((ignore arg ip).revise s).ignored ↔ ip' = ip ∨ ip' ∈ s.ignored := by
  by_cases hip : ip ∈ s.ignored
  · rw [revise, if_pos hip]
    exact ⟨.inr, fun h => h.elim (· ▸ hip) id⟩
  · rw [revise, if_neg hip, List.mem_append, List.mem_singleton, or_comm]

theorem mem_revise_unignore :
    ip' ∈ ((unignore arg ip).revise s).ignored ↔ ip' ≠ ip ∧ ip' ∈ s.ignored := by
  rw [revise, List.mem_filter, bne_iff_ne, and_comm]

/-- A client that is on the list is not put there again. -/
theorem revise_ignore_ignore :
    (ignore arg' ip).revise ((ignore arg ip).revise s) = (ignore arg ip).revise s :=
  if_pos (mem_revise_ignore.mpr (.inl rfl))

/-- A client is taken off the list whether it was put there just now or stood there before. -/
theorem revise_unignore_ignore :
    (unignore arg' ip).revise ((ignore arg ip).revise s) = (unignore arg ip).revise s := by
  by_cases hip : ip ∈ s.ignored
  · rw [show (ignore arg ip).revise s = s from if_pos hip]
    rfl
  · rw [revise, revise, if_neg hip, revise, List.filter_append]
    simp

/-- A toggle is left in its position. -/
theorem revise_collect_collect {field : CollectField} {on : Bool} :
    (collect arg' field on).revise ((collect arg field on).revise s) =
      (collect arg field on).revise s := by
  cases htoggle : toggle s.collect field on with
  | error e => simp only [revise, htoggle]
  | ok kept =>
    have hagain : toggle kept field on = .ok kept := by
      cases field with
      | location =>
        cases htoggle
        cases on <;> simp [toggle]
      | language =>
        cases htoggle
        rfl
      | region =>
        simp only [toggle] at htoggle ⊢
        split at htoggle
        · cases htoggle
        · rename_i haccepted
          cases htoggle
          exact if_neg haccepted
    simp only [revise, htoggle, hagain]

/-- The command puts the client on a list or takes it off. -/
def Concerns (c : Command) (ip : String) : Prop := ∃ arg, c = ignore arg ip ∨ c = unignore arg ip

variable {c c' : Command}

theorem Concerns.edits (h : c.Concerns ip) : ∃ host, c.Edits host := by
  obtain ⟨arg, rfl | rfl⟩ := h
  · exact ⟨_, .ignore ip rfl⟩
  · exact ⟨_, .unignore ip rfl⟩

/-- Other clients are on the list as before. -/
theorem Concerns.others (h : c.Concerns ip) (hne : ip' ≠ ip) :
    ip' ∈ (c.revise s).ignored ↔ ip' ∈ s.ignored := by
  obtain ⟨arg, rfl | rfl⟩ := h
  · rw [mem_revise_ignore, or_iff_right hne]
  · rw [mem_revise_unignore, and_iff_right hne]

/-- Whether the client itself is on the list does not depend on what was there before. -/
theorem Concerns.self (h : c.Concerns ip) (s s' : Settings) :
    ip ∈ (c.revise s).ignored ↔ ip ∈ (c.revise s').ignored := by
  obtain ⟨arg, rfl | rfl⟩ := h
  · simp only [mem_revise_ignore, true_or]
  · simp only [mem_revise_unignore, ne_eq, not_true_eq_false, false_and]

/-- Edits about different clients may change places, up to the order of the list. -/
theorem Concerns.comm (h : c.Concerns ip) (h' : c'.Concerns ip') (hne : ip ≠ ip') (y : String) :
    y ∈ (c'.revise (c.revise s)).ignored ↔ y ∈ (c.revise (c'.revise s)).ignored := by
  by_cases hy : y = ip
  · subst hy
    rw [h'.others hne]
    exact h.self _ _
  · rw [h.others hy]
    by_cases hy' : y = ip'
    · subst hy'
      exact h'.self _ _
    · rw [h'.others hy', h'.others hy', h.others hy]

end Command

/-! ### The database after an edit -/

section

variable {t : Tables} {db : Database} {sites : List Site} {c c' : Command} {host host' : String}

/-- Other settings for the site under a host revise the sites. -/
theorem updateSettings_revised {x : Site} (h : t.Holds sites) (hx : x ∈ sites)
    (named : x.host = host) (f : Settings → Settings) :
    (Database.updateSettings x.id (f x.settings) ⟨some t⟩).2 =
      Database.withSites ⟨some t⟩ (sites.map (·.revised host f)) := by
  rw [Database.updateSettings_eq h, h.setText_eq, ← h.map_revised hx named]
  rfl

theorem store_revised {x : Site} (h : t.Holds sites) (hx : x ∈ sites) (named : x.host = host)
    (f : Settings → Settings) (report : Report) :
    (store x (f x.settings) report ⟨some t⟩).2 =
      Database.withSites ⟨some t⟩ (sites.map (·.revised host f)) := by
  rw [← updateSettings_revised h hx named, Database.updateSettings_eq h, store_eq h]

/-- A database stays as it is if a revision leaves the settings under its host as they are. -/
theorem kept_revised (h : t.Holds sites) {f : Settings → Settings}
    (hsame : ∀ x ∈ sites, x.host = host → f x.settings = x.settings) :
    (⟨some t⟩ : Database) = Database.withSites ⟨some t⟩ (sites.map (·.revised host f)) := by
  rw [map_revised_eq_self hsame, Database.withSites, ← h.rows]
  rfl

/-- **An edit revises the sites** under its host, and does nothing else to the database. -/
theorem run_edit (h : t.Holds sites) (hc : c.Edits host) :
    (run c ⟨some t⟩).2 = Database.withSites ⟨some t⟩ (sites.map (·.revised host c.revise)) := by
  -- The settings are as they were if there is no such site, or if this one has nothing to revise.
  have hmissing (hfree : host ∉ sites.map (·.host)) :=
    kept_revised (f := c.revise) h fun x hx (named : x.host = host) =>
      absurd (named ▸ List.mem_map_of_mem hx) hfree
  have hkept {x : Site} (hx : x ∈ sites) (hhost : x.host = host)
      (hsame : c.revise x.settings = x.settings) :=
    kept_revised (f := c.revise) h fun y hy (named : y.host = host) =>
      h.eq_of_host hy hx (named.trans hhost.symm) ▸ hsame
  cases hc with
  | @ignore arg ip named =>
    subst named
    obtain ⟨hfree, hrun⟩ | ⟨x, hx, hhost, hrun⟩ := onSite_cases h arg
    · simpa only [run, hrun] using hmissing hfree
    simp only [run, hrun]
    by_cases hip : ip ∈ x.settings.ignored
    · simp only [Settings.ignores?_eq_some hip]
      exact hkept hx hhost (if_pos hip)
    · have hrevise : { x.settings with ignored := x.settings.ignored ++ [ip] } =
          (Command.ignore arg ip).revise x.settings := (if_neg hip).symm
      simp only [Settings.ignores?_eq_none_iff.mpr hip, hrevise]
      exact store_revised h hx hhost _ _
  | @unignore arg ip named =>
    subst named
    obtain ⟨hfree, hrun⟩ | ⟨x, hx, hhost, hrun⟩ := onSite_cases h arg
    · simpa only [run, hrun] using hmissing hfree
    simp only [run, hrun, filter_length_eq_iff]
    by_cases hip : ip ∈ x.settings.ignored
    · simp only [hip, not_true_eq_false, ↓reduceIte]
      exact store_revised h hx hhost (Command.unignore arg ip).revise _
    · simp only [hip, not_false_eq_true, ↓reduceIte]
      exact hkept hx hhost (Command.revise_unignore_of_not_mem hip)
  | @collect arg field on named =>
    subst named
    obtain ⟨hfree, hrun⟩ | ⟨x, hx, hhost, hrun⟩ := onSite_cases h arg
    · simpa only [run, hrun] using hmissing hfree
    simp only [run, hrun]
    cases htoggle : toggle x.settings.collect field on with
    | ok collect =>
      have hrevise : { x.settings with collect } =
          (Command.collect arg field on).revise x.settings := by
        simp only [Command.revise, htoggle]
      simp only [hrevise]
      exact store_revised h hx hhost _ _
    | error e =>
      refine hkept hx hhost ?_
      simp only [Command.revise, htoggle]

theorem applied_edit (h : db.Stores sites) (hc : c.Edits host) :
    c.applied db = db.withSites (sites.map (·.revised host c.revise)) :=
  run_edit h hc

/-- Two edits revise the sites one after the other. -/
theorem applied_applied (h : db.Stores sites) (hc : c.Edits host) (hc' : c'.Edits host') :
    c'.applied (c.applied db) =
      db.withSites ((sites.map (·.revised host c.revise)).map (·.revised host' c'.revise)) := by
  rw [applied_edit h hc, applied_edit (h.revised host c.revise) hc']
  rfl

/-- An edit with another that settles what it does leaves what the first one leaves. -/
theorem applied_settled (h : db.Stores sites) (hc : c.Edits host) (hc' : c'.Edits host)
    {first : Command} (hfirst : first.Edits host)
    (hsettled : ∀ s, c'.revise (c.revise s) = first.revise s) :
    c'.applied (c.applied db) = first.applied db := by
  rw [applied_applied h hc hc', applied_edit h hfirst, List.map_map]
  refine congrArg _ (List.map_congr_left fun x _ => ?_)
  rw [Function.comp, Site.revised_revised, show c'.revise ∘ c.revise = first.revise from
    funext hsettled]

/-- Edits under different hosts may change places. -/
theorem applied_comm (h : db.Stores sites) (hc : c.Edits host) (hc' : c'.Edits host')
    (hne : host ≠ host') : c'.applied (c.applied db) = c.applied (c'.applied db) := by
  rw [applied_applied h hc hc', applied_applied h hc' hc, List.map_map, List.map_map]
  exact congrArg _ (List.map_congr_left fun x _ => Site.revised_comm hne)

/-- Who is on a list after an edit. -/
theorem ignores_applied (h : db.Stores sites) (hc : c.Edits host) {other ip : String} :
    (c.applied db).Ignores other ip ↔ ∃ x ∈ sites, x.host = other ∧
      ip ∈ (x.revised host c.revise).settings.ignored := by
  rw [applied_edit h hc, (h.revised host c.revise).ignores_iff]
  simp

/-- Whoever an edit of a list is not about is ignored as before. -/
theorem ignores_applied_others (h : db.Stores sites) {ip : String} (hc : c.Concerns ip)
    {other y : String} (hne : y ≠ ip) : (c.applied db).Ignores other y ↔ db.Ignores other y := by
  obtain ⟨host, hedits⟩ := hc.edits
  rw [ignores_applied h hedits, h.ignores_iff]
  refine exists_congr fun x => and_congr_right fun _ => and_congr_right fun _ => ?_
  by_cases named : x.host = host
  · rw [Site.revised_of_eq named]
    exact hc.others hne
  · rw [Site.revised_of_ne named]

/-- Edits of lists about different clients ignore the same clients in either order. -/
theorem ignores_applied_comm (h : db.Stores sites) {ip ip' : String} (hc : c.Concerns ip)
    (hc' : c'.Concerns ip') (hne : ip ≠ ip') {other y : String} :
    (c'.applied (c.applied db)).Ignores other y ↔ (c.applied (c'.applied db)).Ignores other y := by
  obtain ⟨host, hedits⟩ := hc.edits
  obtain ⟨host', hedits'⟩ := hc'.edits
  by_cases hsame : host = host'
  · subst hsame
    have hboth {c c' : Command} (hc : c.Edits host) (hc' : c'.Edits host) :
        (c'.applied (c.applied db)).Ignores other y ↔ ∃ x ∈ sites, x.host = other ∧
          y ∈ (x.revised host (c'.revise ∘ c.revise)).settings.ignored := by
      rw [applied_edit h hc, ignores_applied (h.revised host c.revise) hc']
      simp [Site.revised_revised]
    rw [hboth hedits hedits', hboth hedits' hedits]
    refine exists_congr fun x => and_congr_right fun _ => and_congr_right fun _ => ?_
    by_cases named : x.host = host
    · rw [Site.revised_of_eq named, Site.revised_of_eq named]
      exact hc.comm hc' hne y
    · rw [Site.revised_of_ne named, Site.revised_of_ne named]
  · rw [applied_comm h hedits hedits' hsame]

/-- Taking a client off a list is an update of the settings without it, in the order of the rest. -/
theorem applied_unignore {x : Site} (h : db.Stores sites) (hx : x ∈ sites) {arg ip : String}
    (named : normalHost arg = x.host) : (Command.unignore arg ip).applied db =
      (db.updateSettings x.id
        { x.settings with ignored := x.settings.ignored.filter (· != ip) }).2 := by
  have hinit := h.init_eq (List.ne_nil_of_mem hx)
  have hupdate := updateSettings_revised (t := db.tables.getD {}) h hx rfl
    (Command.unignore arg ip).revise
  rw [applied_edit h (.unignore ip named), ← hinit]
  exact hupdate.symm

theorem applied_unignore_of_not_mem {x : Site} (h : db.Stores sites) (hx : x ∈ sites)
    {arg ip : String} (named : normalHost arg = x.host) (hip : ip ∉ x.settings.ignored) :
    (Command.unignore arg ip).applied db = db := by
  have hsites : sites.map (·.revised x.host (Command.unignore arg ip).revise) = sites := by
    refine map_revised_eq_self fun y hy hhost => Command.revise_unignore_of_not_mem ?_
    rwa [h.eq_of_host hy hx hhost]
  rw [applied_edit h (.unignore ip named), hsites, h.withSites_self,
    h.init_eq (List.ne_nil_of_mem hx)]

end

/-! ## Hosts -/

/-- The texts differ at most in the case of ASCII letters. -/
def SameHost (arg host : String) : Prop := Text.lower arg.toList = Text.lower host.toList

instance (arg host : String) : Decidable (SameHost arg host) := inferInstanceAs (Decidable (_ = _))

/-- A host in lower case is named in any case of its ASCII letters. -/
theorem normalHost_of_lower {arg asked : String} (h : SameHost arg (normalHost asked)) :
    normalHost arg = normalHost asked := by
  rw [SameHost, normalHost, String.toList_ofList] at h
  rw [normalHost, Text.lowercase_of_lower h, normalHost]

/-- **Edits behave like set operations.** After any lines, take a site and its host in any case of
the ASCII letters. Putting a client on its list twice is the same as once, and so it is for a
toggle. Putting a client there and taking it off restores the database if the client was not there,
and otherwise leaves the rest of the list in its order. An edit about one client does not concern
another one, so that such edits ignore the same clients in either order. Edits under different hosts
may change places altogether. -/
theorem Session.run_edits (lines : List (List String)) :
    let db := (run lines).database
    (∀ words c, Command.ofWords words = .ok c →
      ∀ before, (exec words before).2 = c.applied before) ∧
    (∀ x, db.siteByHost x.host = .ok (some x) →
      ∀ arg arg', SameHost arg x.host → SameHost arg' x.host →
        (normalHost arg = x.host ∧ normalHost arg' = x.host) ∧
        (∀ ip, (Command.ignore arg' ip).applied ((Command.ignore arg ip).applied db) =
          (Command.ignore arg ip).applied db) ∧
        (∀ ip, let after := (Command.unignore arg' ip).applied ((Command.ignore arg ip).applied db)
          (ip ∉ x.settings.ignored → after = db) ∧
          after = (db.updateSettings x.id
            { x.settings with ignored := x.settings.ignored.filter (· != ip) }).2) ∧
        (∀ field on, (Command.collect arg' field on).applied
            ((Command.collect arg field on).applied db) =
          (Command.collect arg field on).applied db)) ∧
    (∀ (c : Command) ip, c.Concerns ip → ∀ host y, y ≠ ip →
      ((c.applied db).Ignores host y ↔ db.Ignores host y)) ∧
    (∀ (c c' : Command) ip ip', c.Concerns ip → c'.Concerns ip' → ip ≠ ip' → ∀ host y,
      ((c'.applied (c.applied db)).Ignores host y ↔ (c.applied (c'.applied db)).Ignores host y)) ∧
    (∀ (c c' : Command) host host', c.Edits host → c'.Edits host' → host ≠ host' →
      c'.applied (c.applied db) = c.applied (c'.applied db)) := by
  intro db
  obtain ⟨sites, h, haccounts⟩ :=
    run_induction (P := Accounts) accounts_nil (fun _ h hline => h.line hline) lines
  refine ⟨fun words c hwords before => congrArg Prod.snd (exec_spelled hwords before),
    fun x hfound arg arg' harg harg' => ?_,
    fun c ip hc host y hne => ignores_applied_others h hc hne,
    fun c c' ip ip' hc hc' hne host y => ignores_applied_comm h hc hc' hne,
    fun c c' host host' hc hc' hne => applied_comm h hc hc' hne⟩
  obtain ⟨hx, -⟩ := h.siteByHost_iff.mp hfound
  -- The host of the site is in lower case, as some line asked for it.
  obtain ⟨e, -, -, asked, collect, -, hhost⟩ :=
    (haccounts.hosts x.host).mp (List.mem_map_of_mem hx)
  have named {arg : String} (harg : SameHost arg x.host) : normalHost arg = x.host := by
    rw [← hhost] at harg ⊢
    exact normalHost_of_lower harg
  have harg := named harg
  have harg' := named harg'
  refine ⟨⟨harg, harg'⟩, fun ip => ?_, fun ip => ?_, fun field on => ?_⟩
  · exact applied_settled h (.ignore ip harg) (.ignore ip harg') (.ignore ip harg)
      fun s => Command.revise_ignore_ignore
  · have hafter := applied_settled h (.ignore ip harg) (.unignore ip harg')
      (.unignore ip harg) fun s => Command.revise_unignore_ignore
    intro after
    rw [show after = _ from hafter]
    exact ⟨applied_unignore_of_not_mem h hx harg, applied_unignore h hx harg⟩
  · exact applied_settled h (.collect field on harg) (.collect field on harg')
      (.collect field on harg) fun s => Command.revise_collect_collect

/-- Two sites, one of which ignores a client. -/
def twoSites : List (List String) :=
  [["add-site", "A.Example"], ["add-site", "b.example"], ["ignore-ip", "a.example", "192.0.2.2"]]

/-- Another client is put on the list of the first site and taken off it. That does not concern the
client that was there, nor the toggles of the other site. -/
theorem Session.run_edits_twoSites :
    let db := (run twoSites).database
    db.siteByHost "a.example" = .ok (some ⟨1, "a.example", ⟨["192.0.2.2"], {}⟩⟩) ∧
      SameHost "A.EXAMPLE" "a.example" ∧
      (Command.unignore "a.example" "192.0.2.1").applied
        ((Command.ignore "A.EXAMPLE" "192.0.2.1").applied db) = db ∧
      ((Command.unignore "A.EXAMPLE" "192.0.2.1").applied db).Ignores "a.example" "192.0.2.2" ∧
      (Command.collect "B.example" .region false).applied
          ((Command.ignore "A.example" "192.0.2.1").applied db) =
        (Command.ignore "A.example" "192.0.2.1").applied
          ((Command.collect "B.example" .region false).applied db) := by
  intro db
  have hfound : db.siteByHost "a.example" =
      .ok (some ⟨1, "a.example", ⟨["192.0.2.2"], {}⟩⟩) := by decide +kernel
  obtain ⟨-, hsite, hothers, -, hcomm⟩ := Session.run_edits twoSites
  obtain ⟨-, -, hrestored, -⟩ := hsite ⟨1, "a.example", ⟨["192.0.2.2"], {}⟩⟩ hfound "A.EXAMPLE"
    "a.example" (by decide) (by decide)
  have hignored : db.Ignores "a.example" "192.0.2.2" := ⟨_, hfound, by decide⟩
  exact ⟨hfound, by decide, (hrestored "192.0.2.1").1 (by decide),
    (hothers _ "192.0.2.1" ⟨"A.EXAMPLE", .inr rfl⟩ "a.example" _ (by decide)).mpr hignored,
    hcomm _ _ "a.example" "b.example" (.ignore _ (by decide +kernel))
      (.collect _ _ (by decide +kernel)) (by decide)⟩

end Admin

end HitCounter
