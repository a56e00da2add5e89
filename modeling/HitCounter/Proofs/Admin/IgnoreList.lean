import HitCounter.Proofs.Admin.Session
import HitCounter.Proofs.Counting.Verdict
import HitCounter.Proofs.Endpoint.Answer
import HitCounter.Proofs.Http.Host

/-!
# The list of ignored clients

Commands write the list and the endpoint obeys it, and only the database stands between them.

- **Edits** (`Admin.Command.edit?`): what a command does to the entry of one client in the list of
  one host. Every effect changes the lists by these edits and in no other way (`Effect.ignored`).
- **The log tells** (`Admin.Ignores`, `Session.run_lists`): a client is on the list of a site
  exactly if the last edit since the site was made has put it there.
- **The endpoint obeys** (`Session.run_governs`): a request is answered as for an ignored client
  exactly if the log tells so, and as for an unknown site exactly if no line made the site.
-/

namespace HitCounter

namespace Admin

/-! ## Edits -/

/-- Whether the client is on the list of the host after the command, if the command is about
that. -/
def Command.edit? (c : Command) (host ip : String) : Option Bool :=
  match c with
  | .ignore arg x => if normalHost arg = host ∧ x = ip then some true else none
  | .unignore arg x => if normalHost arg = host ∧ x = ip then some false else none
  | _ => none

/-- Whether the client is on the list of the host after the line, if the line is about that. -/
def Entry.edit? (e : Entry) (host ip : String) : Option Bool :=
  match Command.ofWords e.words with
  | .ok c => c.edit? host ip
  | .error _ => none

/-- A command that names another host is not about this one. -/
theorem Command.edit?_of_wanted {c : Command} {arg host : String} (wanted : c.wanted? = some arg)
    (hother : host ≠ normalHost arg) (ip : String) : c.edit? host ip = none := by
  cases c with
  | ignore | unignore =>
    cases wanted
    exact if_neg fun h => hother h.1.symm
  | _ => rfl

/-- What the list of a site holds after an edit, or without one. -/
def Edited (edit? : Option Bool) (listed : Prop) : Prop := edit?.elim listed (· = true)

/-- The client is on the list of the second site as it was on that of the first, unless the command
is about that. -/
def Follows (c : Command) (x y : Site) : Prop :=
  x.host = y.host ∧
    ∀ ip, ip ∈ y.settings.ignored ↔ Edited (c.edit? x.host ip) (ip ∈ x.settings.ignored)

/-- The site is new with an empty list, or its list is that of a site before with the edits of the
command. -/
def StemsFrom (c : Command) (sites : List Site) (y : Site) : Prop :=
  (y.host ∉ sites.map (·.host) ∧ y.settings.ignored = []) ∨ ∃ x ∈ sites, Follows c x y

section

variable {sites sites' : List Site} {c : Command} {result : Except Failure Report} {x : Site}
  {host ip : String}

theorem follows_of_edit? (h : ∀ ip, c.edit? x.host ip = none) : Follows c x x :=
  ⟨rfl, fun ip => by rw [h ip]; rfl⟩

/-- A list that agrees about the client whom an edit is about, and about all others, follows. -/
theorem follows_of_about {y : Site} (hhost : x.host = y.host) {on : Bool}
    (hedit : ∀ other, c.edit? x.host other = if ip = other then some on else none)
    (hip : ip ∈ y.settings.ignored ↔ on = true)
    (hothers : ∀ other ≠ ip, other ∈ y.settings.ignored ↔ other ∈ x.settings.ignored) :
    Follows c x y := by
  refine ⟨hhost, fun other => ?_⟩
  rw [hedit]
  by_cases heq : ip = other
  · subst heq
    rw [if_pos rfl]
    exact hip
  · rw [if_neg heq]
    exact hothers other (Ne.symm heq)

theorem follows_ignore {y : Site} (hhost : x.host = y.host) (named : x.host = normalHost host)
    (hip : ip ∈ y.settings.ignored)
    (hothers : ∀ other ≠ ip, other ∈ y.settings.ignored ↔ other ∈ x.settings.ignored) :
    Follows (.ignore host ip) x y :=
  follows_of_about hhost (fun other => by simp only [Command.edit?, named, true_and])
    (iff_of_true hip rfl) hothers

theorem follows_unignore {y : Site} (hhost : x.host = y.host) (named : x.host = normalHost host)
    (hip : ip ∉ y.settings.ignored)
    (hothers : ∀ other ≠ ip, other ∈ y.settings.ignored ↔ other ∈ x.settings.ignored) :
    Follows (.unignore host ip) x y :=
  follows_of_about hhost (fun other => by simp only [Command.edit?, named, true_and])
    (iff_of_false hip Bool.false_ne_true) hothers

/-- If one site follows and the command names no other, then all sites follow. -/
theorem follows_of_site (hr : Registered sites) (hx : x ∈ sites) (wanted : c.wanted? = some host)
    (named : x.host = normalHost host) (h : Follows c x x) : ∀ y ∈ sites, Follows c y y := by
  intro y hy
  by_cases heq : y.host = normalHost host
  · rwa [hr.eq_of_host hy hx (heq.trans named.symm)]
  · exact follows_of_edit? (Command.edit?_of_wanted wanted heq)

/-- **Lists change by edits alone**, whatever the effect. -/
theorem Effect.ignored (h : Effect sites c result sites') (hr : Registered sites) :
    ∀ y ∈ sites', StemsFrom c sites y := by
  -- Of sites that are left alone, or of which one gets other settings, only that one matters.
  have hkept (hall : ∀ y ∈ sites, Follows c y y) : ∀ y ∈ sites, StemsFrom c sites y :=
    fun y hy => .inr ⟨y, hy, hall y hy⟩
  have hchanged {x : Site} {host : String} {settings : Settings} (mem : x ∈ sites)
      (named : x.host = normalHost host) (wanted : c.wanted? = some host)
      (hx : Follows c x { x with settings }) :
      ∀ y ∈ sites.map (·.withSettings x.id settings), StemsFrom c sites y := by
    refine List.forall_mem_map.mpr fun z hz => .inr ⟨z, hz, ?_⟩
    by_cases heq : z.id = x.id
    · obtain rfl := hr.eq_of_id hz mem heq
      simpa only [Site.withSettings, ↓reduceIte] using hx
    · have hother : z.host ≠ normalHost host := fun hhost =>
        heq (congrArg _ (hr.eq_of_host hz mem (hhost.trans named.symm)))
      simpa only [Site.withSettings, heq, ↓reduceIte] using
        follows_of_edit? (Command.edit?_of_wanted wanted hother)
  cases h with
  | created free fresh =>
    refine List.forall_mem_append.mpr
      ⟨hkept fun y _ => follows_of_edit? fun _ => rfl, List.forall_mem_singleton.mpr ?_⟩
    exact .inl ⟨free, rfl⟩
  | taken | listed | counted | regionWithoutLocation =>
    exact hkept fun y _ => follows_of_edit? fun _ => rfl
  | noSite wanted missing =>
    refine hkept fun y hy => follows_of_edit? (Command.edit?_of_wanted wanted fun heq => ?_)
    exact missing (heq ▸ List.mem_map_of_mem hy)
  | alreadyIgnored mem named listed =>
    exact hkept (follows_of_site hr mem rfl named
      (follows_ignore rfl named listed fun _ _ => Iff.rfl))
  | notIgnored mem named unlisted =>
    exact hkept (follows_of_site hr mem rfl named
      (follows_unignore rfl named unlisted fun _ _ => Iff.rfl))
  | ignoring mem named unlisted =>
    refine hchanged mem named rfl (follows_ignore rfl named (by simp) fun other hne => ?_)
    simp [hne]
  | noLongerIgnoring mem named listed =>
    refine hchanged mem named rfl (follows_unignore rfl named (by simp) fun other hne => ?_)
    simp [hne]
  | updated mem named toggled =>
    exact hchanged mem named rfl ⟨rfl, fun _ => Iff.rfl⟩

end

/-! ## The log tells -/

/-- The log tells that the client is on the list of the host: some line put it there after the site
was made, and no later line was about that. -/
def Ignores (log : List Entry) (host ip : String) : Prop :=
  ∃ before e after, log = before ++ e :: after ∧ Creates before host ∧
    e.edit? host ip = some true ∧ ∀ later ∈ after, later.edit? host ip = none

section

variable {log : List Entry} {e : Entry} {host ip : String}

theorem Ignores.creates (h : Ignores log host ip) : Creates log host := by
  obtain ⟨before, e, after, rfl, ⟨maker, hmem, hmaker⟩, -⟩ := h
  exact ⟨maker, List.mem_append_left _ hmem, hmaker⟩

/-- One more line edits what the log tells, once there is a site. -/
theorem ignores_concat : Ignores (log ++ [e]) host ip ↔
    Creates log host ∧ Edited (e.edit? host ip) (Ignores log host ip) := by
  constructor
  · rintro ⟨before, e₀, after, heq, hmade, hon, hquiet⟩
    -- The line that put the client there is this last one, or stands in the log before it.
    rcases List.eq_nil_or_concat after with rfl | ⟨after, last, rfl⟩
    · obtain ⟨rfl, hlast⟩ := List.append_inj' heq rfl
      obtain rfl := List.singleton_inj.mp hlast
      rw [hon]
      exact ⟨hmade, rfl⟩
    · rw [List.concat_eq_append, ← List.cons_append, ← List.append_assoc] at heq
      obtain ⟨rfl, hlast⟩ := List.append_inj' heq rfl
      obtain rfl := List.singleton_inj.mp hlast
      have hlog : Ignores (before ++ e₀ :: after) host ip :=
        ⟨before, e₀, after, rfl, hmade, hon, fun later hl => hquiet later (by simp [hl])⟩
      rw [hquiet e (by simp)]
      exact ⟨hlog.creates, hlog⟩
  · rintro ⟨hsite, h⟩
    cases hedit : e.edit? host ip with
    | none =>
      rw [hedit] at h
      obtain ⟨before, e₀, after, rfl, hmade, hon, hquiet⟩ := h
      refine ⟨before, e₀, after ++ [e], by simp, hmade, hon, ?_⟩
      exact List.forall_mem_append.mpr ⟨hquiet, List.forall_mem_singleton.mpr hedit⟩
    | some on =>
      rw [hedit] at h
      exact ⟨log, e, [], rfl, hsite, hedit.trans (congrArg some h), List.forall_mem_nil _⟩

end

/-- The lists of the sites are as the log tells. -/
def Lists (log : List Entry) (sites : List Site) : Prop :=
  ∀ x ∈ sites, ∀ ip, ip ∈ x.settings.ignored ↔ Ignores log x.host ip

theorem Lists.line {log : List Entry} {sites sites' : List Site} {words : List String} {exit : Exit}
    (h : Lists log sites) (haccounts : Accounts log sites) (hr : Registered sites)
    (hline : Line sites words exit sites') : Lists (log ++ [⟨words, exit⟩]) sites' := by
  intro y hy ip
  rw [ignores_concat, ← haccounts.hosts]
  cases hline with
  | @misused fault misuse =>
    have hedit : Entry.edit? ⟨words, fault.exit⟩ y.host ip = none := by
      simp only [Entry.edit?, misuse]
    rw [hedit, and_iff_right (List.mem_map_of_mem hy)]
    exact h y hy ip
  | @command c result _ spelled effect =>
    have hedit : Entry.edit? ⟨words, exitOf result⟩ y.host ip = c.edit? y.host ip := by
      simp only [Entry.edit?, spelled]
    rw [hedit]
    obtain ⟨hnew, hempty⟩ | ⟨x, hx, hhost, hfollows⟩ := effect.ignored hr y hy
    · simp [hempty, hnew]
    · rw [hfollows, ← hhost, and_iff_right (List.mem_map_of_mem hx), h x hx]

/-- **The log tells who is ignored.** -/
theorem Session.run_lists (lines : List (List String)) :
    ∃ sites, (run lines).database.Stores sites ∧ Accounts (run lines).log sites ∧
      Lists (run lines).log sites :=
  run_induction (P := fun log sites => Accounts log sites ∧ Lists log sites)
    ⟨accounts_nil, List.forall_mem_nil _⟩
    (fun hr h hline => ⟨h.1.line hline, h.2.line h.1 hr hline⟩) lines

end Admin

/-! ## The endpoint obeys -/

/-- A database without a cache before it answers for itself. -/
theorem Store.siteByHost_uncached (db : Database) (host : String) :
    (siteByHost host ⟨db, none⟩).1 = db.siteByHost host := by
  unfold siteByHost
  cases db.siteByHost host <;> rfl

/-- **The endpoint obeys the database.** A request that is no preload, and whose body is not too
long to be read, has status 404 exactly if no site has its host; of the others, it is passed over
exactly if the site ignores its client. -/
theorem Counter.serve_shown {known : Visitor.Register} {c : Counter known} {m : Moments}
    {r : Request} {db : Database} {sites : List Site} {host : String} (hshows : db.Shows sites)
    (hpath : r.target.path = countPath) (hmethod : r.method ∈ countMethods)
    (named : Http.requestHost r.headers r.target = some host)
    (hquiet : c.classifier r.headers ≠ .prefetch) (fits : r.body.length ≤ 2097152) :
    let reply := (c.serve m r ⟨db, none⟩).1
    (reply.response.status = 404 ↔ host ∉ sites.map (·.host)) ∧
      (host ∈ sites.map (·.host) → ∃ site ∈ sites, site.host = host ∧
        (reply.response.status = 202 ∧ reply.hits = [] ↔
          client r.toCount ∈ site.settings.ignored)) := by
  intro reply
  obtain ⟨hhits, hstatus⟩ := serve_counting (c := c) (m := m) (s := ⟨db, none⟩) hpath hmethod
  rw [show reply.response.status = _ from hstatus, show reply.hits = _ from hhits]
  have lookup : (Store.siteByHost host ⟨db, none⟩).1 = .ok (sites.find? (·.host == host)) :=
    (Store.siteByHost_uncached db host).trans (hshows.byHost host)
  cases hfind : sites.find? (·.host == host) with
  | none =>
    rw [hfind] at lookup
    rw [verdict_unknown (site_of_missing named lookup)]
    have hmissing : host ∉ sites.map (·.host) := by simpa using hfind
    exact ⟨iff_of_true rfl hmissing, fun hmem => absurd hmem hmissing⟩
  | some site =>
    rw [hfind] at lookup
    rw [verdict_counted (site_of_lookup named lookup) fits]
    have hmem := List.mem_of_find?_eq_some hfind
    obtain rfl : site.host = host := by simpa using List.find?_some hfind
    obtain ⟨hknown, hignored⟩ := @count_status known c m site r.toCount hquiet
    exact ⟨iff_of_false hknown (not_not_intro (List.mem_map_of_mem hmem)),
      fun _ => ⟨site, hmem, rfl, hignored⟩⟩

namespace Admin

theorem normalHost_of_ascii {name : List Char} (h : ∀ c ∈ name, c.toNat < 0x80) :
    normalHost (String.ofList name) = String.ofList (Text.lower name) := by
  rw [normalHost, String.toList_ofList, Text.lowercase_ascii h]

/-- **The list that commands keep governs the endpoint.** After any lines, take a request whose
`Host` header names a host in any case, with or without a port. It has status 404 exactly if no line
made a site under the host; otherwise it is passed over exactly if the log tells that its client is
ignored there. -/
theorem Session.run_governs (lines : List (List String)) (known : Visitor.Register)
    (geolocator : Visitor.Geolocator) (m : Moments) (r : Request) {name value : List Char}
    (hname : Http.IsHostName name) (hvalue : Http.Addresses name value)
    (hheader : r.headers.get? "host" = some (Text.encode value))
    (hpath : r.target.path = Text.encode "/count".toList)
    (hmethod : r.method ∈ ["GET", "HEAD", "POST"])
    (hquiet : ¬ Visitor.AnnouncesPreload r.headers) (fits : r.body.length ≤ 2097152) :
    let session := run lines
    let host := normalHost (String.ofList name)
    let c : Counter known := ⟨Visitor.classify, geolocator⟩
    let reply := (c.serve m r ⟨session.database.init, none⟩).1
    (reply.response.status = 404 ↔ ¬ Creates session.log host) ∧
      (Creates session.log host → (reply.response.status = 202 ∧ reply.hits = [] ↔
        Ignores session.log host
          (Visitor.clientAddress r.headers (String.ofList r.peer.text)))) := by
  intro session host c reply
  obtain ⟨sites, hstores, haccounts, hlists⟩ := run_lists lines
  have hascii : ∀ c ∈ name, c.toNat < 0x80 := fun c hc =>
    Nat.lt_of_le_of_lt (hname.printable c hc).2 (by decide)
  have named : Http.requestHost r.headers r.target = some host :=
    (Http.requestHost_addresses hname hvalue hheader r.target).trans
      (congrArg some (normalHost_of_ascii hascii).symm)
  obtain ⟨hmissing, hignored⟩ := Counter.serve_shown (c := c) (m := m)
    hstores.shows hpath hmethod named (mt Visitor.classify_eq_prefetch_iff.mp hquiet) fits
  rw [haccounts.hosts] at hmissing hignored
  refine ⟨hmissing, fun hcreated => ?_⟩
  obtain ⟨site, hsite, heq, hstatus⟩ := hignored hcreated
  exact hstatus.trans (heq ▸ hlists site hsite _)

/-- A site is made, and the client of `App.view` is put on its list. -/
def listing : List (List String) :=
  [["add-site", "A.Example"], ["ignore-ip", "a.EXAMPLE", "192.0.2.1"]]

/-- A view of a page by that client. -/
def listedView : Request :=
  { App.view with headers := ⟨"Host", Text.encode "A.example:80".toList⟩ :: App.view.headers }

/-- The view is passed over. -/
theorem run_governs_listed :
    Http.IsHostName "a.example".toList ∧
      Http.Addresses "a.example".toList "A.example:80".toList ∧
      listedView.headers.get? "host" = some (Text.encode "A.example:80".toList) ∧
      listedView.target.path = Text.encode "/count".toList ∧
      listedView.method ∈ ["GET", "HEAD", "POST"] ∧
      ¬ Visitor.AnnouncesPreload listedView.headers ∧ listedView.body.length ≤ 2097152 ∧
      let c : Counter := ⟨Visitor.classify, fun _ => none⟩
      let reply := (c.serve ⟨0, 0⟩ listedView ⟨(Session.run listing).database.init, none⟩).1
      reply.response.status = 202 ∧ reply.hits = [] := by
  have hname : Http.IsHostName "a.example".toList :=
    ⟨by decide, by simp, by decide, by decide⟩
  have hvalue : Http.Addresses "a.example".toList ("A.example".toList ++ ':' :: "80".toList) :=
    .hostPort (by decide) (by simp) (by decide)
  have hquiet : ¬ Visitor.AnnouncesPreload listedView.headers := by decide
  have hmade : Creates [⟨["add-site", "A.Example"], (exec ["add-site", "A.Example"] {}).1⟩]
      "a.example" :=
    ⟨_, List.mem_singleton_self _, by decide +kernel, "A.Example", {}, by decide, by decide +kernel⟩
  have hignores : Ignores (Session.run listing).log "a.example" "192.0.2.1" :=
    ⟨_, _, [], rfl, hmade, by decide +kernel, List.forall_mem_nil _⟩
  obtain ⟨-, hignored⟩ := Session.run_governs listing Visitor.isRegistered (fun _ => none) ⟨0, 0⟩
    listedView hname hvalue rfl rfl (by decide) hquiet (by decide)
  have hclient : Visitor.clientAddress listedView.headers (String.ofList listedView.peer.text) =
      "192.0.2.1" := by decide +kernel
  have hhost : normalHost (String.ofList "a.example".toList) = "a.example" := by decide +kernel
  rw [hclient, hhost] at hignored
  exact ⟨hname, hvalue, rfl, rfl, by decide, hquiet, by decide,
    (hignored hignores.creates).mpr hignores⟩

end Admin

end HitCounter
