import HitCounter.Admin.Basic
import HitCounter.Proofs.Counting.Recorded
import HitCounter.Proofs.Store.Registry

/-!
# What commands do to the sites

- **Effects** (`Admin.Effect`): all that a command can do to the sites of a database, with what it
  reports. A failure and a warning come with the sites as they were.
- **Commands** (`Admin.run_effect`): every command on a table of sites has one of these effects and
  leaves a table of the sites that result. What is proved of commands is proved by cases on it.
- **What effects keep**: settings stay in order (`Effect.orderly`), hosts only join
  (`Effect.hosts`), a failure has its reason in the sites (`Effect.failed_iff`), and no site but the
  one that is named changes (`Effect.changesOnly`).
-/

namespace HitCounter

/-! ## Sites under numbers and hosts -/

theorem Registered.eq_of_id {sites : List Site} (h : Registered sites) {x y : Site} (hx : x ∈ sites)
    (hy : y ∈ sites) (heq : x.id = y.id) : x = y :=
  List.inj_on_of_nodup_map (h.ids.imp Int.ne_of_lt) hx hy heq

theorem Registered.eq_of_host {sites : List Site} (h : Registered sites) {x y : Site}
    (hx : x ∈ sites) (hy : y ∈ sites) (heq : x.host = y.host) : x = y :=
  List.inj_on_of_nodup_map h.hosts hx hy heq

/-- Under one host there is one site to find. -/
theorem Registered.find?_host_iff {sites : List Site} (h : Registered sites) {x : Site}
    {host : String} : sites.find? (·.host == host) = some x ↔ x ∈ sites ∧ x.host = host := by
  constructor
  · intro hfind
    exact ⟨List.mem_of_find?_eq_some hfind, by simpa using List.find?_some hfind⟩
  · rintro ⟨hx, rfl⟩
    have hsome : (sites.find? (·.host == x.host)).isSome := by
      rw [List.find?_isSome]
      exact ⟨x, hx, beq_self_eq_true _⟩
    obtain ⟨y, hfind⟩ := Option.isSome_iff_exists.mp hsome
    have hhost : y.host = x.host := by simpa using List.find?_some hfind
    rw [hfind, h.eq_of_host (List.mem_of_find?_eq_some hfind) hx hhost]

/-- What holds of all settings and of the new ones holds of all settings from then on. -/
theorem forall_withSettings {P : Settings → Prop} {sites : List Site} {settings : Settings}
    (hs : ∀ x ∈ sites, P x.settings) (hnew : P settings) (id : Int) :
    ∀ x ∈ sites.map (·.withSettings id settings), P x.settings := by
  refine List.forall_mem_map.mpr fun x hx => ?_
  unfold Site.withSettings
  split
  · exact hnew
  · exact hs x hx

/-- Settings in order: subdivisions are kept only with locations, and no client is listed twice. -/
structure Settings.Orderly (s : Settings) : Prop where
  located : s.collect.region = true → s.collect.location = true
  distinct : s.ignored.Nodup

namespace Admin

/-! ## Effects -/

/-- The host under which a command looks for a site. -/
def Command.wanted? : Command → Option String
  | .ignore host _ | .unignore host _ | .collect host _ _ | .stats host => some host
  | .addSite _ _ | .list => none

/-- What a command does to the sites, with what it reports. -/
inductive Effect (sites : List Site) : Command → Except Failure Report → List Site → Prop where
  | created {host : String} {collect : Collect} {id : Int}
    (free : normalHost host ∉ sites.map (·.host)) (fresh : ∀ x ∈ sites, x.id < id) :
    Effect sites (.addSite host collect) (.ok (.created id (normalHost host)))
      (sites ++ [⟨id, normalHost host, { collect }⟩])
  | taken {host : String} {collect : Collect} (taken : normalHost host ∈ sites.map (·.host)) :
    Effect sites (.addSite host collect) (.error (.hostTaken (normalHost host))) sites
  | noSite {c : Command} {host : String} (wanted : c.wanted? = some host)
    (missing : normalHost host ∉ sites.map (·.host)) :
    Effect sites c (.error (.noSite (normalHost host))) sites
  | alreadyIgnored {host ip : String} {x : Site} (mem : x ∈ sites)
    (named : x.host = normalHost host) (listed : ip ∈ x.settings.ignored) :
    Effect sites (.ignore host ip) (.ok (.alreadyIgnored ip x.host)) sites
  | ignoring {host ip : String} {x : Site} (mem : x ∈ sites) (named : x.host = normalHost host)
    (unlisted : ip ∉ x.settings.ignored) :
    Effect sites (.ignore host ip) (.ok (.ignoring ip x.host))
      (sites.map (·.withSettings x.id
        { x.settings with ignored := x.settings.ignored ++ [ip] }))
  | notIgnored {host ip : String} {x : Site} (mem : x ∈ sites) (named : x.host = normalHost host)
    (unlisted : ip ∉ x.settings.ignored) :
    Effect sites (.unignore host ip) (.ok (.notIgnored ip x.host)) sites
  | noLongerIgnoring {host ip : String} {x : Site} (mem : x ∈ sites)
    (named : x.host = normalHost host) (listed : ip ∈ x.settings.ignored) :
    Effect sites (.unignore host ip) (.ok (.noLongerIgnoring ip x.host))
      (sites.map (·.withSettings x.id
        { x.settings with ignored := x.settings.ignored.filter (· != ip) }))
  | updated {host : String} {field : CollectField} {on : Bool} {x : Site} {collect : Collect}
    (mem : x ∈ sites) (named : x.host = normalHost host)
    (toggled : toggle x.settings.collect field on = .ok collect) :
    Effect sites (.collect host field on) (.ok (.updated x.host))
      (sites.map (·.withSettings x.id { x.settings with collect }))
  | regionWithoutLocation {host : String} {x : Site} (mem : x ∈ sites)
    (named : x.host = normalHost host) (unlocated : x.settings.collect.location = false) :
    Effect sites (.collect host .region true) (.error .regionWithoutLocation) sites
  | listed : Effect sites .list (.ok (.sites sites)) sites
  | counted {host : String} {x : Site} (mem : x ∈ sites) (named : x.host = normalHost host)
    (count : Nat) : Effect sites (.stats host) (.ok (.hits x.host count)) sites

/-! ## Commands -/

section

variable {t : Tables} {sites : List Site}

/-- A command that names a site fails for want of the site, or runs on it. -/
theorem onSite_cases (h : t.Holds sites) (host : String) :
    normalHost host ∉ sites.map (·.host) ∧
      (∀ run, onSite host ⟨some t⟩ run = (.error (.noSite (normalHost host)), ⟨some t⟩)) ∨
    ∃ x ∈ sites, x.host = normalHost host ∧ ∀ run, onSite host ⟨some t⟩ run = run x := by
  have hlookup := (Database.shows_of_holds h).byHost (normalHost host)
  cases hfind : sites.find? (·.host == normalHost host) with
  | none =>
    refine .inl ⟨fun hmem => ?_, fun run => ?_⟩
    · obtain ⟨x, hx, heq⟩ := List.mem_map.mp hmem
      exact List.find?_eq_none.mp hfind x hx (beq_iff_eq.mpr heq)
    · simp only [onSite, findSite, hlookup, hfind]
  | some x =>
    obtain ⟨hx, hhost⟩ := h.find?_host_iff.mp hfind
    exact .inr ⟨x, hx, hhost, fun run => by simp only [onSite, findSite, hlookup, hfind]⟩

theorem store_eq (h : t.Holds sites) (x : Site) (settings : Settings) (report : Report) :
    store x settings report ⟨some t⟩ =
      (.ok report, ⟨some (t.setText x.id (String.ofList settings.toJson))⟩) := by
  simp only [store, Database.updateSettings_eq h]

/-- A toggle can be put into a position, unless subdivisions are asked for without locations. -/
theorem toggle_cases (c : Collect) (field : CollectField) (on : Bool) :
    (∃ c', toggle c field on = .ok c') ∨ field = .region ∧ on = true ∧ c.location = false ∧
      toggle c field on = .error .regionWithoutLocation := by
  cases field with
  | location => exact .inl ⟨_, rfl⟩
  | language => exact .inl ⟨_, rfl⟩
  | region =>
    by_cases hrefused : (on && !c.location) = true
    · obtain ⟨hon, hlocation⟩ : on = true ∧ c.location = false := by simpa using hrefused
      exact .inr ⟨rfl, hon, hlocation, if_pos hrefused⟩
    · exact .inl ⟨_, if_neg hrefused⟩

theorem filter_length_eq_iff {ips : List String} {ip : String} :
    (ips.filter (· != ip)).length = ips.length ↔ ip ∉ ips := by
  rw [List.length_filter_eq_length_iff]
  simp only [bne_iff_ne]
  exact ⟨fun h hmem => h ip hmem rfl, fun h x hx heq => h (heq ▸ hx)⟩

/-- **Every command has one of the effects**, and leaves a table of the sites that result. -/
theorem run_effect (h : t.Holds sites) (c : Command) :
    ∃ t' sites', (run c ⟨some t⟩).2 = ⟨some t'⟩ ∧ t'.Holds sites' ∧
      Effect sites c (run c ⟨some t⟩).1 sites' := by
  -- A command that names a missing site fails at once; the others are looked at on their site.
  cases c with
  | addSite host collect =>
    by_cases hmem : normalHost host ∈ sites.map (·.host)
    · simp only [run, Database.createSite_taken h hmem]
      exact ⟨_, sites, rfl, h.skip, .taken hmem⟩
    · simp only [run, Database.createSite_free h hmem]
      exact ⟨_, _, rfl, h.add hmem { collect }, .created hmem h.used⟩
  | ignore host ip =>
    obtain ⟨hmissing, hrun⟩ | ⟨x, hx, hnamed, hrun⟩ := onSite_cases h host
    · simp only [run, hrun]
      exact ⟨t, sites, rfl, h, .noSite rfl hmissing⟩
    · simp only [run, hrun]
      by_cases hip : ip ∈ x.settings.ignored
      · simp only [Settings.ignores?_eq_some hip]
        exact ⟨t, sites, rfl, h, .alreadyIgnored hx hnamed hip⟩
      · simp only [Settings.ignores?_eq_none_iff.mpr hip, store_eq h]
        exact ⟨_, _, rfl, h.setText _ _, .ignoring hx hnamed hip⟩
  | unignore host ip =>
    obtain ⟨hmissing, hrun⟩ | ⟨x, hx, hnamed, hrun⟩ := onSite_cases h host
    · simp only [run, hrun]
      exact ⟨t, sites, rfl, h, .noSite rfl hmissing⟩
    · simp only [run, hrun, filter_length_eq_iff]
      by_cases hip : ip ∈ x.settings.ignored
      · simp only [hip, not_true_eq_false, ↓reduceIte, store_eq h]
        exact ⟨_, _, rfl, h.setText _ _, .noLongerIgnoring hx hnamed hip⟩
      · simp only [hip, not_false_eq_true, ↓reduceIte]
        exact ⟨t, sites, rfl, h, .notIgnored hx hnamed hip⟩
  | collect host field on =>
    obtain ⟨hmissing, hrun⟩ | ⟨x, hx, hnamed, hrun⟩ := onSite_cases h host
    · simp only [run, hrun]
      exact ⟨t, sites, rfl, h, .noSite rfl hmissing⟩
    · simp only [run, hrun]
      obtain ⟨c', hc'⟩ | ⟨rfl, rfl, hunlocated, hrefused⟩ :=
        toggle_cases x.settings.collect field on
      · simp only [hc', store_eq h]
        exact ⟨_, _, rfl, h.setText _ _, .updated hx hnamed hc'⟩
      · simp only [hrefused]
        exact ⟨t, sites, rfl, h, .regionWithoutLocation hx hnamed hunlocated⟩
  | list =>
    simp only [run, (Database.shows_of_holds h).list]
    exact ⟨t, sites, rfl, h, .listed⟩
  | stats host =>
    obtain ⟨hmissing, hrun⟩ | ⟨x, hx, hnamed, hrun⟩ := onSite_cases h host
    · simp only [run, hrun]
      exact ⟨t, sites, rfl, h, .noSite rfl hmissing⟩
    · simp only [run, hrun]
      exact ⟨t, sites, rfl, h, .counted hx hnamed _⟩

end

/-! ## What effects keep -/

/-- A toggle in another position leaves subdivisions only with locations. -/
theorem toggle_located {c c' : Collect} {field : CollectField} {on : Bool}
    (htoggle : toggle c field on = .ok c') (h : c.region = true → c.location = true) :
    c'.region = true → c'.location = true := by
  cases field with
  | location =>
    cases htoggle
    simp +contextual
  | language =>
    cases htoggle
    exact h
  | region =>
    simp only [toggle] at htoggle
    split at htoggle
    · cases htoggle
    · rename_i haccepted
      cases htoggle
      rintro rfl
      simpa using haccepted

/-- The sites are a reason for the command to fail. -/
def Command.Refused (c : Command) (sites : List Site) : Prop :=
  match c with
  | .addSite host _ => normalHost host ∈ sites.map (·.host)
  | .ignore host _ | .unignore host _ | .stats host => normalHost host ∉ sites.map (·.host)
  | .collect host field on =>
    normalHost host ∉ sites.map (·.host) ∨ field = .region ∧ on = true ∧
      ∃ x ∈ sites, x.host = normalHost host ∧ x.settings.collect.location = false
  | .list => False

/-- The site is the other one with other settings perhaps, and those only if it is under the
host. -/
def SameBut (host : String) (x y : Site) : Prop :=
  y.id = x.id ∧ y.host = x.host ∧ (x.host ≠ host → y = x)

/-- What a command may change: a new site comes last under a number of its own, and of the sites
that were there only the one under the host that is named gets other settings. -/
def Command.ChangesOnly (c : Command) (before after : List Site) : Prop :=
  match c with
  | .addSite host kept =>
    ∃ id, (∀ x ∈ before, x.id < id) ∧
      after = before ++ [⟨id, normalHost host, { collect := kept }⟩]
  | .ignore host _ | .unignore host _ | .collect host _ _ =>
    List.Forall₂ (SameBut (normalHost host)) before after
  | .list | .stats _ => after = before

namespace Effect

variable {sites sites' : List Site} {c : Command} {result : Except Failure Report}

/-- Settings stay in order if those of a new site are. -/
theorem orderly (h : Effect sites c result sites')
    (hnew : ∀ host collect, c = .addSite host collect →
      collect.region = true → collect.location = true)
    (hs : ∀ x ∈ sites, x.settings.Orderly) : ∀ x ∈ sites', x.settings.Orderly := by
  cases h with
  | @created host collect id free fresh =>
    refine List.forall_mem_append.mpr ⟨hs, List.forall_mem_singleton.mpr ?_⟩
    exact ⟨hnew host collect rfl, List.nodup_nil⟩
  | @ignoring host ip x mem named unlisted =>
    have hdistinct := List.concat_eq_append ▸ (hs x mem).distinct.concat unlisted
    refine forall_withSettings hs ?_ x.id
    exact ⟨(hs x mem).located, hdistinct⟩
  | @noLongerIgnoring host ip x mem named listed =>
    have hdistinct := (hs x mem).distinct.filter (· != ip)
    refine forall_withSettings hs ?_ x.id
    exact ⟨(hs x mem).located, hdistinct⟩
  | @updated host field on x collect mem named toggled =>
    have hlocated := toggle_located toggled (hs x mem).located
    refine forall_withSettings hs ?_ x.id
    exact ⟨hlocated, (hs x mem).distinct⟩
  | taken | noSite | alreadyIgnored | notIgnored | regionWithoutLocation | listed | counted =>
    exact hs

/-- A host joins the others if a site was asked for and made. -/
theorem hosts (h : Effect sites c result sites') (host : String) :
    host ∈ sites'.map (·.host) ↔ host ∈ sites.map (·.host) ∨
      (∃ report, result = .ok report) ∧ ∃ arg collect, c = .addSite arg collect ∧
        normalHost arg = host := by
  cases h with
  | created =>
    rw [List.map_append, List.mem_append]
    simp [eq_comm]
  | ignoring | noLongerIgnoring | updated | taken | noSite | alreadyIgnored | notIgnored
  | regionWithoutLocation | listed | counted => simp

/-- A command that fails changes nothing. -/
theorem failed {e : Failure} (h : Effect sites c (.error e) sites') : sites' = sites := by
  cases h <;> rfl

/-- A command fails if the sites are a reason, and only then. -/
theorem failed_iff (h : Effect sites c result sites') (hr : Registered sites) :
    (∀ report, result ≠ .ok report) ↔ c.Refused sites := by
  have hfound {x : Site} {host : String} (mem : x ∈ sites) (named : x.host = normalHost host) :
      normalHost host ∈ sites.map (·.host) :=
    named ▸ List.mem_map_of_mem mem
  cases h with
  | taken taken => exact iff_of_true nofun taken
  | noSite wanted missing =>
    refine iff_of_true nofun ?_
    cases c with
    | addSite | list => cases wanted
    | collect => cases wanted; exact .inl missing
    | ignore | unignore | stats => cases wanted; exact missing
  | regionWithoutLocation mem named unlocated =>
    exact iff_of_true nofun (.inr ⟨rfl, rfl, _, mem, named, unlocated⟩)
  | created free fresh => exact iff_of_false (fun hne => hne _ rfl) free
  | alreadyIgnored mem named | ignoring mem named | notIgnored mem named
  | noLongerIgnoring mem named | counted mem named =>
    exact iff_of_false (fun hne => hne _ rfl) fun hmissing => hmissing (hfound mem named)
  | updated mem named toggled =>
    refine iff_of_false (fun hne => hne _ rfl) ?_
    rintro (hmissing | ⟨rfl, rfl, y, hy, hnamed, hunlocated⟩)
    · exact hmissing (hfound mem named)
    · obtain rfl := hr.eq_of_host hy mem (hnamed.trans named.symm)
      simp [toggle, hunlocated] at toggled
  | listed => exact iff_of_false (fun hne => hne _ rfl) id

/-- A command that succeeds changes no site but the one that it names. -/
theorem changesOnly {report : Report} (h : Effect sites c (.ok report) sites')
    (hr : Registered sites) : c.ChangesOnly sites sites' := by
  have hsame (host : String) : List.Forall₂ (SameBut host) sites sites :=
    List.forall₂_same.mpr fun _ _ => ⟨rfl, rfl, fun _ => rfl⟩
  have hnamed {x : Site} {host : String} {settings : Settings} (mem : x ∈ sites)
      (named : x.host = normalHost host) :
      List.Forall₂ (SameBut (normalHost host)) sites
        (sites.map (·.withSettings x.id settings)) := by
    refine List.forall₂_map_right_iff.mpr (List.forall₂_same.mpr fun y hy => ?_)
    refine ⟨y.withSettings_id _ _, y.withSettings_host _ _, fun hother => if_neg fun heq => ?_⟩
    exact hother (hr.eq_of_id hy mem heq ▸ named)
  cases h with
  | created free fresh => exact ⟨_, fresh, rfl⟩
  | alreadyIgnored | notIgnored => exact hsame _
  | ignoring mem named | noLongerIgnoring mem named | updated mem named => exact hnamed mem named
  | listed | counted => exact rfl

end Effect

end Admin

end HitCounter
