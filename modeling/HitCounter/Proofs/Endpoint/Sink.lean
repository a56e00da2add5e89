import HitCounter.Endpoint.Basic
import HitCounter.Proofs.Counting.Recorded
import HitCounter.Proofs.Store.Sites
import HitCounter.Proofs.Visitor.Bot
import Mathlib.Data.List.Forall2

/-!
# The sink of a run

An application is a store without a cache and a sink that keeps every hit. Sites are created and
changed and requests are served in any order.

- **Replies** (`Counter.serve_counts`, `Counter.serve_passes`): a reply holds a hit exactly if the
  request counts, that is, it uses a counting method on the counting path, is answered with status
  200 and does not announce a prefetch.
- **Runs** (`App.sink_of_run`): the sink holds one hit for each request that counts, in the order of
  the requests, each of them sound and of the site that the request addressed; and requests leave
  the store as it is.
-/

namespace HitCounter

/-! ## One request -/

namespace Counter

variable {known : Visitor.Register} {c : Counter known} {m : Moments} {r : Request} {s : Store}

/-- The verdict on a request whose path and method count. -/
def verdict (c : Counter known) (m : Moments) (r : Request) (s : Store) : Verdict :=
  match (r.site s).1 with
  | .error e => .error e
  | .ok site => (c.handle m site r).verdict

/-- What the reply to a request whose path and method count has from its verdict. -/
theorem serve_counting (hpath : r.target.path = countPath) (hmethod : r.method ∈ countMethods) :
    (c.serve m r s).1.hits = (c.verdict m r s).hits ∧
      (c.serve m r s).1.response.status = (c.verdict m r s).status := by
  simp only [serve, hpath, ↓reduceIte, reply, hmethod, verdict]
  constructor
  · cases (r.site s).1 <;> rfl
  · cases (r.site s).1 <;> split <;> rfl

/-- Only a request whose path and method count has a hit in its reply. -/
theorem hits_of_not_counting (h : ¬ (r.method ∈ countMethods ∧ r.target.path = countPath)) :
    (c.serve m r s).1.hits = [] := by
  unfold serve
  split
  · rename_i hpath
    have hmethod : r.method ∉ countMethods := fun hm => h ⟨hm, hpath⟩
    simp only [reply, hmethod, ↓reduceIte]
  · rfl

/-- A store without a cache is left as it is. -/
theorem serve_store (hs : s.cache = none) : (c.serve m r s).2 = s := by
  have hlookup (host : String) : (s.siteByHost host).2 = s := by
    simp only [Store.siteByHost, hs, Option.bind_none, Store.remember, Option.map_none]
    cases s.database.siteByHost host <;> simp [← hs]
  have hsite : (r.site s).2 = s := by
    unfold Request.site
    split
    · rfl
    · rename_i host _
      have := hlookup host
      split <;> simp_all
  unfold serve
  split
  · exact hsite
  · rfl

/-- The site that a request addresses is the one that the database has under its host. -/
theorem site_eq_ok {site : Site} (hs : s.cache = none) (h : (r.site s).1 = .ok site) :
    ∃ host, Http.requestHost r.headers r.target = some host ∧
      s.database.siteByHost host = .ok (some site) := by
  unfold Request.site at h
  split at h
  · cases h
  · rename_i host hhost
    refine ⟨host, hhost, ?_⟩
    simp only [Store.siteByHost, hs, Option.bind_none] at h
    cases hl : s.database.siteByHost host with
    | error e =>
      rw [hl] at h
      cases h
    | ok found =>
      rw [hl] at h
      cases found with
      | none => cases h
      | some site' =>
        cases h
        rfl

/-- A status of 200 is that of a recorded hit or of a prefetch. -/
theorem status_eq_200 {v : Verdict} (h : v.status = 200) :
    (∃ h, v = .ok (.recorded h)) ∨ v = .ok .prefetch := by
  unfold Verdict.status at h
  split at h
  · exact .inl ⟨_, rfl⟩
  · exact .inr rfl
  · cases h
  · rename_i e
    cases e <;> cases h

/-- The verdict on a recorded request is that of its site, whose body is not too long. -/
theorem verdict_eq_recorded {h : Hit} (hv : c.verdict m r s = .ok (.recorded h)) :
    ∃ site, (r.site s).1 = .ok site ∧
      (c.count m site r.toCount).verdict = .ok (.recorded h) := by
  unfold verdict at hv
  split at hv
  · cases hv
  · rename_i site hsite
    refine ⟨site, hsite, ?_⟩
    unfold handle at hv
    split at hv
    · cases hv
    · exact hv

theorem verdict_eq_prefetch (hv : c.verdict m r s = .ok .prefetch) :
    c.classifier r.headers = .prefetch := by
  unfold verdict at hv
  split at hv
  · cases hv
  · unfold handle at hv
    split at hv
    · cases hv
    · exact count_eq_prefetch_iff.mp hv

end Counter

/-! ## Runs -/

/-- A request that has been served, with the store as it was then. -/
structure Served where
  moments : Moments
  request : Request
  store : Store
  reply : Reply

/-- The application: its store, what it has served and the hits in its sink. -/
structure App where
  store : Store
  served : List Served := []
  sink : List Hit := []

namespace App

/-- Something that happens to the application. -/
inductive Event where
  | createSite (host : String) (settings : Settings)
  | updateSettings (id : Int) (settings : Settings)
  | request (m : Moments) (r : Request)

/-- The request that an event is. -/
def Event.request? : Event → Option (Moments × Request)
  | request m r => some (m, r)
  | _ => none

/-- An initialised database without sites or a cache, and nothing served. -/
def start : App := { store := { database := ({} : Database).init } }

variable {known : Visitor.Register}

/-- One event. -/
def step (c : Counter known) (a : App) : Event → App
  | .createSite host settings => { a with store := (a.store.createSite host settings).2 }
  | .updateSettings id settings => { a with store := (a.store.updateSettings id settings).2 }
  | .request m r =>
    let (reply, store) := c.serve m r a.store
    { store, served := a.served ++ [⟨m, r, a.store, reply⟩], sink := a.sink ++ reply.hits }

/-- Events one after the other. -/
def run (c : Counter known) (a : App) (events : List Event) : App := events.foldl (step c) a

end App

namespace Served

/-- The request uses a counting method on the counting path, was answered with status 200 and does
not announce a prefetch. -/
def Counts (s : Served) : Prop :=
  s.request.method ∈ ["GET", "HEAD", "POST"] ∧ s.request.target.path = Text.encode "/count".toList ∧
    s.reply.response.status = 200 ∧ ¬ Visitor.AnnouncesPreload s.request.headers

instance : DecidablePred Counts := fun s => by unfold Counts; exact inferInstance

/-- The request has added the hit, which is sound and belongs to the one site under the host that
the request addressed, by a client that the site did not ignore. -/
structure Gives (s : Served) (h : Hit) : Prop where
  reply_hits : s.reply.hits = [h]
  site : ∃ host t row site, Http.requestHost s.request.headers s.request.target = some host ∧
    s.store.database.tables = some t ∧ row ∈ t.sites ∧ row.host = host ∧
    (∀ row' ∈ t.sites, row'.host = host → row' = row) ∧ row.toSite = .ok site ∧
    h.site = row.id ∧ h.remoteAddr ∉ site.settings.ignored
  sound : h.Sound

end Served

namespace Counter

/-- The hit of a recorded request has the number of the site and a client that is not ignored. -/
theorem recorded_facts {known : Visitor.Register} {c : Counter known} {m : Moments} {site : Site}
    {r : CountRequest} {h : Hit} (hc : (c.count m site r).verdict = .ok (.recorded h)) :
    h.site = site.id ∧ h.remoteAddr ∉ site.settings.ignored ∧ h.Sound := by
  obtain ⟨-, hi, p, ha, hv⟩ := count_eq_recorded_iff.mp hc
  have hmerge : h.site = site.id ∧ h.remoteAddr = client r := by
    rw [ha.eq]
    unfold mark
    split <;> exact ⟨rfl, rfl⟩
  exact ⟨hmerge.1, by rw [hmerge.2]; exact hi, (Hit.validate_strict_iff.mp hv).1⟩

variable {known : Visitor.Register} {c : Counter known} {m : Moments} {r : Request} {s : Store}

/-- **A request that counts** adds one hit, as `Served.Gives` says. -/
theorem serve_counts (hc : c.classifier = Visitor.classify) (hs : s.cache = none)
    (hd : s.database.HostsDistinct) (h : Served.Counts ⟨m, r, s, (c.serve m r s).1⟩) :
    ∃ hit, Served.Gives ⟨m, r, s, (c.serve m r s).1⟩ hit := by
  obtain ⟨hmethod, hpath, hstatus, hquiet⟩ := h
  obtain ⟨hhits, hst⟩ := serve_counting (c := c) (m := m) (s := s) hpath hmethod
  rw [hst] at hstatus
  have hrecorded : ∃ hit, c.verdict m r s = .ok (.recorded hit) := by
    refine (status_eq_200 hstatus).resolve_right fun hp => hquiet ?_
    rw [← Visitor.classify_eq_prefetch_iff, ← hc]
    exact verdict_eq_prefetch hp
  obtain ⟨hit, hv⟩ := hrecorded
  obtain ⟨site, hsite, hcount⟩ := verdict_eq_recorded hv
  obtain ⟨host, hhost, hlookup⟩ := site_eq_ok hs hsite
  obtain ⟨t, row, ht, hrow, hread, hrowhost, hone⟩ := Database.siteByHost_eq_some hd hlookup
  obtain ⟨hid, hclient, hsound⟩ := recorded_facts hcount
  refine ⟨hit, by rw [hhits, hv]; rfl, ?_, hsound⟩
  exact ⟨host, t, row, site, hhost, ht, hrow, hrowhost, hone, hread,
    hid.trans (Database.toSite_eq_ok hread).1, hclient⟩

/-- **Any other request** adds nothing. -/
theorem serve_passes (hc : c.classifier = Visitor.classify)
    (h : ¬ Served.Counts ⟨m, r, s, (c.serve m r s).1⟩) : (c.serve m r s).1.hits = [] := by
  by_cases hcounting : r.method ∈ countMethods ∧ r.target.path = countPath
  · obtain ⟨hmethod, hpath⟩ := hcounting
    obtain ⟨hhits, hst⟩ := serve_counting (c := c) (m := m) (s := s) hpath hmethod
    rw [hhits]
    unfold Verdict.hits
    split
    · rename_i hit hv
      refine absurd ⟨hmethod, hpath, ?_, fun hpre => ?_⟩ h
      · rw [hst, hv]
        rfl
      · obtain ⟨site, -, hcount⟩ := verdict_eq_recorded hv
        refine (count_eq_recorded_iff.mp hcount).1 ?_
        rw [hc]
        exact Visitor.classify_eq_prefetch_iff.mpr hpre
    · rfl
  · exact hits_of_not_counting hcounting

end Counter

namespace App

/-- What every run keeps: there is no cache, hosts are distinct, the sink holds the hits of the
requests that count, and no other request has added any. -/
structure Inv (a : App) : Prop where
  uncached : a.store.cache = none
  hosts : a.store.database.HostsDistinct
  given : List.Forall₂ Served.Gives (a.served.filter (decide ·.Counts)) a.sink
  others : ∀ s ∈ a.served, ¬ s.Counts → s.reply.hits = []

theorem inv_start : start.Inv where
  uncached := rfl
  hosts := Database.hostsDistinct_init
  given := .nil
  others := fun _ hs => by cases hs

variable {known : Visitor.Register} {c : Counter known} {a : App}

/-- The invariant survives a request, whatever it is. -/
theorem Inv.request (hc : c.classifier = Visitor.classify) (h : a.Inv) (m : Moments)
    (r : Request) : (a.step c (.request m r)).Inv := by
  have hstore : (c.serve m r a.store).2 = a.store := Counter.serve_store h.uncached
  have hpasses := Counter.serve_passes (m := m) (r := r) (s := a.store) hc
  unfold step
  dsimp only
  refine ⟨by rw [hstore]; exact h.uncached, by rw [hstore]; exact h.hosts, ?_, ?_⟩
  · rw [List.filter_append]
    by_cases hcounts : Served.Counts ⟨m, r, a.store, (c.serve m r a.store).1⟩
    · obtain ⟨hit, hgives⟩ := Counter.serve_counts hc h.uncached h.hosts hcounts
      have hhits : (c.serve m r a.store).1.hits = [hit] := hgives.reply_hits
      rw [hhits, List.filter_cons_of_pos (by simpa using hcounts), List.filter_nil]
      exact List.rel_append h.given (.cons hgives .nil)
    · rw [hpasses hcounts, List.filter_cons_of_neg (by simpa using hcounts), List.filter_nil,
        List.append_nil, List.append_nil]
      exact h.given
  · intro s hs hcounts
    rcases List.mem_append.mp hs with hs | hs
    · exact h.others s hs hcounts
    · obtain rfl := List.mem_singleton.mp hs
      exact hpasses hcounts

/-- **One event** keeps the invariant. -/
theorem Inv.step (hc : c.classifier = Visitor.classify) (h : a.Inv) (e : Event) :
    (a.step c e).Inv := by
  cases e with
  | createSite host settings =>
    refine ⟨Store.createSite_uncached h.uncached host settings, ?_, h.given, h.others⟩
    simp only [App.step, Store.createSite_database]
    exact h.hosts.createSite host settings
  | updateSettings id settings =>
    refine ⟨Store.updateSettings_uncached h.uncached id settings, ?_, h.given, h.others⟩
    simp only [App.step, Store.updateSettings_database]
    exact h.hosts.updateSettings id settings
  | request m r => exact h.request hc m r

/-- Every run keeps the invariant. -/
theorem Inv.run (hc : c.classifier = Visitor.classify) (h : a.Inv) (events : List Event) :
    (a.run c events).Inv := by
  induction events generalizing a with
  | nil => exact h
  | cons e events ih => exact ih (h.step hc e)

/-- What is served are the requests of the run, in their order. -/
theorem served_run (events : List Event) :
    (a.run c events).served.map (fun s => (s.moments, s.request)) =
      a.served.map (fun s => (s.moments, s.request)) ++ events.filterMap Event.request? := by
  induction events generalizing a with
  | nil => exact (List.append_nil _).symm
  | cons e events ih =>
    rw [run, List.foldl_cons, ← run, ih]
    cases e with
    | createSite host settings => rfl
    | updateSettings id settings => rfl
    | request m r => simp [step, Event.request?]

/-- The store depends on what is written alone. -/
theorem store_run (hc : c.classifier = Visitor.classify) (h : a.Inv) (events : List Event)
    {b : App} (hb : b.Inv) (heq : a.store = b.store) :
    (a.run c events).store = (b.run c (events.filter (·.request?.isNone))).store := by
  induction events generalizing a b with
  | nil => exact heq
  | cons e events ih =>
    cases e with
    | createSite host settings =>
      exact ih (h.step hc _) (hb.step hc _) (by simp only [step, heq])
    | updateSettings id settings =>
      exact ih (h.step hc _) (hb.step hc _) (by simp only [step, heq])
    | request m r =>
      have hstore : (c.serve m r a.store).2 = a.store := Counter.serve_store h.uncached
      exact ih (h.step hc _) hb (hstore.trans heq)

/-- **The sink of a run.** Whatever is written and requested in whatever order, the sink holds one
hit for each request that counts, in the order of the requests, and no other request adds a hit.
Each hit is sound and belongs to the site under the host of its request, which did not ignore its
client. Requests leave the sites as the writes alone would. -/
theorem sink_of_run (known : Visitor.Register) (geolocator : Visitor.Geolocator)
    (events : List Event) :
    let c : Counter known := ⟨Visitor.classify, geolocator⟩
    let app := start.run c events
    app.served.map (fun s => (s.moments, s.request)) = events.filterMap Event.request? ∧
      List.Forall₂ Served.Gives (app.served.filter (decide ·.Counts)) app.sink ∧
      (∀ s ∈ app.served, ¬ s.Counts → s.reply.hits = []) ∧
      app.store = (start.run c (events.filter (·.request?.isNone))).store := by
  intro c app
  have hinv : app.Inv := inv_start.run rfl events
  refine ⟨?_, hinv.given, hinv.others, store_run rfl inv_start events inv_start rfl⟩
  exact served_run events

/-! ### A view and a request that does not count -/

/-- A view of a page by a browser. -/
def view : Request where
  method := "GET"
  target := ⟨some "a.example", countPath, some (Text.encode "p=/a".toList)⟩
  headers := [⟨"User-Agent", Text.encode "Mozilla/5.0 (X11)".toList⟩]
  body := []
  peer := .v4 ⟨192, 0, 2, 1⟩

/-- A site is created, a page of it viewed, and the same asked for with a method that does not
count. -/
def viewed : List Event :=
  [.createSite "a.example" {}, .request ⟨0, 0⟩ view, .request ⟨1, 1⟩ { view with method := "PUT" }]

/-- The view is in the sink and the other request is not. -/
theorem sink_of_run_viewed :
    let app := start.run (⟨Visitor.classify, fun _ => none⟩ : Counter) viewed
    (∃ s h, app.served.filter (decide ·.Counts) = [s] ∧ app.sink = [h] ∧ s.Gives h) ∧
      ∃ s ∈ app.served, ¬ s.Counts ∧ s.reply.hits = [] := by
  intro app
  obtain ⟨-, hgiven, hothers, -⟩ := sink_of_run Visitor.isRegistered (fun _ => none) viewed
  have hcounts : app.served.map (decide ·.Counts) = [true, false] := by decide +kernel
  obtain ⟨s, rest, hserved, hs, hrest⟩ := List.map_eq_cons_iff.mp hcounts
  obtain ⟨other, rest', rfl, hother, hnil⟩ := List.map_eq_cons_iff.mp hrest
  obtain rfl := List.map_eq_nil_iff.mp hnil
  have hone : app.served.filter (decide ·.Counts) = [s] := by
    simp [hserved, of_decide_eq_true hs, of_decide_eq_false hother]
  rw [hone] at hgiven
  obtain ⟨h, rest, hgives, hnone, hsink⟩ := List.forall₂_cons_left_iff.mp hgiven
  rw [List.forall₂_nil_left_iff.mp hnone] at hsink
  have hmem : other ∈ app.served := by simp [hserved]
  have hnot : ¬ other.Counts := of_decide_eq_false hother
  exact ⟨⟨s, h, hone, hsink, hgives⟩, other, hmem, hnot, hothers other hmem hnot⟩

end App

end HitCounter
