import HitCounter.Proofs.Admin.Effect
import Mathlib.Data.List.Induction

/-!
# Sessions of commands

A session runs lines one after the other and logs each with what it left for its caller.

- **Lines** (`Admin.exec_line`): a line is misused, which touches nothing, or is a command and has
  one of its effects.
- **Sessions** (`Session.run_induction`): what holds of no lines and no sites, and is kept by each
  line, holds after every session.
- **Order** (`Session.run_orderly`): a session leaves sites under different hosts that were asked
  for, with settings in order; and whatever line comes next, it changes no site but the one it
  names.
-/

namespace HitCounter

/-- The database holds these sites once it has its tables. -/
def Database.Stores (db : Database) (sites : List Site) : Prop := (db.tables.getD {}).Holds sites

/-- Every reading of such a database gives the sites. -/
theorem Database.Stores.shows {db : Database} {sites : List Site} (h : db.Stores sites) :
    db.init.Shows sites :=
  shows_of_holds h

namespace Admin

/-! ## Lines -/

/-- A new site keeps subdivisions only with locations. -/
theorem collectOf_region {switches : List String} (h : (collectOf switches).region = true) :
    (collectOf switches).location = true := by
  simp only [collectOf, Bool.and_eq_true] at h ⊢
  exact h.1

theorem named_addSite {name : String} {words : List String} {host : String} {collect : Collect}
    (h : Command.named name words = .ok (.addSite host collect)) :
    ∃ switches, collect = collectOf switches := by
  unfold Command.named at h
  simp only [bind, Except.bind, pure, Except.pure, throw, throwThe, MonadExceptOf.throw] at h
  -- Of the names only the first makes such a command.
  grind

theorem ofWords_addSite {words : List String} {host : String} {collect : Collect}
    (h : Command.ofWords words = .ok (.addSite host collect)) :
    ∃ switches, collect = collectOf switches := by
  unfold Command.ofWords at h
  split at h
  · cases h
  · split at h
    · cases h
    · split at h
      · cases h
      · exact named_addSite h

/-- What a line leaves for its caller when it is no command. -/
def UsageFault.exit : UsageFault → Exit
  | .help => { code := 0, stdout := usage }
  | .invalid => { code := 2, stderr := usage }

/-- What a command leaves for its caller. -/
def exitOf : Except Failure Report → Exit
  | .ok report => { code := 0, stdout := unlines report.lines }
  | .error e => { code := 1, stderr := "Error: " ++ e.message ++ "\n" }

/-- The exit code tells whether a command succeeded. -/
theorem exitOf_code_eq_zero {result : Except Failure Report} :
    (exitOf result).code = 0 ↔ ∃ report, result = .ok report := by
  cases result <;> simp [exitOf]

theorem exitOf_code_ne_zero {result : Except Failure Report} :
    (exitOf result).code ≠ 0 ↔ ∀ report, result ≠ .ok report := by
  rw [Ne, exitOf_code_eq_zero, not_exists]

/-- What a line does to the sites, with what it leaves for its caller. -/
inductive Line (sites : List Site) (words : List String) : Exit → List Site → Prop where
  | misused {fault : UsageFault} (misuse : Command.ofWords words = .error fault) :
    Line sites words fault.exit sites
  | command {c : Command} {result : Except Failure Report} {sites' : List Site}
    (spelled : Command.ofWords words = .ok c) (effect : Effect sites c result sites') :
    Line sites words (exitOf result) sites'

/-- A line that is a command leaves what the command leaves. -/
theorem exec_spelled {words : List String} {c : Command} (spelled : Command.ofWords words = .ok c)
    (db : Database) : exec words db = (exitOf (run c db.init).1, (run c db.init).2) := by
  simp only [exec, spelled]
  rcases run c db.init with ⟨_ | _, _⟩ <;> rfl

/-- **Every line** on a database of sites is of this kind, and leaves a database of the sites that
result. -/
theorem exec_line {db : Database} {sites : List Site} (h : db.Stores sites) (words : List String) :
    ∃ sites', (exec words db).2.Stores sites' ∧ Line sites words (exec words db).1 sites' := by
  cases hwords : Command.ofWords words with
  | error fault =>
    refine ⟨sites, ?_, ?_⟩
    · cases fault <;> simpa only [exec, hwords] using h
    · have hexit : (exec words db).1 = fault.exit := by
        cases fault <;> simp only [exec, hwords, UsageFault.exit]
      exact hexit ▸ .misused hwords
  | ok c =>
    obtain ⟨t', sites', hnext, hholds, heffect⟩ := run_effect h c
    have hinit : db.init = ⟨some (db.tables.getD {})⟩ := rfl
    rw [← hinit] at hnext heffect
    rw [exec_spelled hwords, hnext]
    exact ⟨sites', hholds, .command hwords heffect⟩

/-- A command that starts its output with a warning changes nothing. -/
theorem Effect.warned {sites sites' : List Site} {c : Command} {result : Except Failure Report}
    (h : Effect sites c result sites')
    (hwarning : (exitOf result).stdout.toList.head? = some '⚠') : sites' = sites := by
  -- The effects that change the sites report with another mark.
  cases h with
  | created | ignoring | noLongerIgnoring | updated =>
    simp [exitOf, Report.lines, unlines, String.join] at hwarning
  | taken | noSite | alreadyIgnored | notIgnored | regionWithoutLocation | listed | counted => rfl

/-! ## Sessions -/

/-- A line that was run, with what it left for its caller. -/
structure Entry where
  words : List String
  exit : Exit

/-- Lines that were run one after the other, the latest last, and the database that they leave. -/
structure Session where
  log : List Entry := []
  database : Database := {}

namespace Session

/-- One more line. -/
def step (s : Session) (words : List String) : Session where
  log := s.log ++ [⟨words, (exec words s.database).1⟩]
  database := (exec words s.database).2

/-- The lines of a session that starts without a database. -/
def run (lines : List (List String)) : Session := lines.foldl step {}

theorem run_concat (lines : List (List String)) (words : List String) :
    run (lines ++ [words]) = (run lines).step words := by
  rw [run, List.foldl_append]
  rfl

theorem log_words (lines : List (List String)) : (run lines).log.map (·.words) = lines := by
  induction lines using List.reverseRecOn with
  | nil => rfl
  | append_singleton lines words ih =>
    rw [run_concat, step, List.map_append, ih]
    rfl

/-- **What every line keeps holds after every session.** It relates the log to the sites of the
database. -/
theorem run_induction {P : List Entry → List Site → Prop} (start : P [] [])
    (line : ∀ {log sites words exit sites'}, Registered sites → P log sites →
      Line sites words exit sites' → P (log ++ [⟨words, exit⟩]) sites')
    (lines : List (List String)) :
    ∃ sites, (run lines).database.Stores sites ∧ P (run lines).log sites := by
  induction lines using List.reverseRecOn with
  | nil =>
    refine ⟨[], ⟨⟨List.nodup_nil, List.Pairwise.nil, ?_⟩, rfl, ?_, Int.one_pos⟩, start⟩
    · exact List.forall_mem_nil _
    · exact List.forall_mem_nil _
  | append_singleton lines words ih =>
    obtain ⟨sites, hstores, hp⟩ := ih
    obtain ⟨sites', hstores', hline⟩ := exec_line hstores words
    rw [run_concat]
    exact ⟨sites', hstores', line hstores.toRegistered hp hline⟩

end Session

/-! ## Sites that were asked for -/

/-- The line asks for a site under a host and gets it. -/
def Entry.Creates (e : Entry) (host : String) : Prop :=
  e.exit.code = 0 ∧ ∃ arg collect, Command.ofWords e.words = .ok (.addSite arg collect) ∧
    normalHost arg = host

/-- A line of the log got a site under the host. -/
def Creates (log : List Entry) (host : String) : Prop := ∃ e ∈ log, e.Creates host

theorem creates_concat {log : List Entry} {e : Entry} {host : String} :
    Creates (log ++ [e]) host ↔ Creates log host ∨ e.Creates host := by
  simp only [Creates, List.mem_append, List.mem_singleton, or_and_right, exists_or,
    exists_eq_left]

/-- The hosts of the sites are those that the log tells of. -/
theorem Line.hosts {sites sites' : List Site} {words : List String} {exit : Exit}
    (h : Line sites words exit sites') (host : String) :
    host ∈ sites'.map (·.host) ↔
      host ∈ sites.map (·.host) ∨ Entry.Creates ⟨words, exit⟩ host := by
  cases h with
  | misused misuse => simp [Entry.Creates, misuse]
  | command spelled effect =>
    simp only [effect.hosts host, Entry.Creates, spelled, exitOf_code_eq_zero, Except.ok.injEq]

/-- What the log of a session tells of the sites: their hosts are those that were asked for. Their
settings are in order. -/
structure Accounts (log : List Entry) (sites : List Site) : Prop where
  hosts : ∀ host, host ∈ sites.map (·.host) ↔ Creates log host
  orderly : ∀ x ∈ sites, x.settings.Orderly

theorem accounts_nil : Accounts [] [] where
  hosts := by simp [Creates]
  orderly := List.forall_mem_nil _

theorem Accounts.line {log : List Entry} {sites sites' : List Site} {words : List String}
    {exit : Exit} (h : Accounts log sites) (hline : Line sites words exit sites') :
    Accounts (log ++ [⟨words, exit⟩]) sites' where
  hosts host := by rw [hline.hosts, h.hosts, creates_concat]
  orderly := by
    cases hline with
    | misused => exact h.orderly
    | command spelled effect =>
      refine effect.orderly (fun host collect hc => ?_) h.orderly
      obtain ⟨switches, rfl⟩ := ofWords_addSite (hc ▸ spelled)
      exact collectOf_region

/-- **Sessions leave the sites in order.** After any lines, every site stands under a host of its
own, which is the lower case of what some line asked for, with settings in order. The next line,
whatever it is, changes nothing if it is no command, fails or warns; it fails exactly if the sites
are a reason; and it changes no site but the one that it names. -/
theorem Session.run_orderly (lines : List (List String)) :
    let db := (run lines).database
    ∃ sites, db.init.Shows sites ∧ (sites.map (·.host)).Nodup ∧
      (∀ x ∈ sites, x.settings.Orderly ∧ ∃ words ∈ lines, ∃ arg collect,
        Command.ofWords words = .ok (.addSite arg collect) ∧
          x.host = String.ofList (Text.lowercase arg.toList)) ∧
      ∀ words, ∃ after, (exec words db).2.init.Shows after ∧
        ((exec words db).1.code ≠ 0 → after = sites) ∧
        ((exec words db).1.stdout.toList.head? = some '⚠' → after = sites) ∧
        (∀ fault, Command.ofWords words = .error fault → after = sites) ∧
        ∀ c, Command.ofWords words = .ok c →
          ((exec words db).1.code ≠ 0 ↔ c.Refused sites) ∧
          ((exec words db).1.code = 0 → c.ChangesOnly sites after) := by
  intro db
  obtain ⟨sites, hstores, haccounts⟩ :=
    run_induction (P := Accounts) accounts_nil (fun _ h hline => h.line hline) lines
  refine ⟨sites, hstores.shows, hstores.hosts, fun x hx => ⟨haccounts.orderly x hx, ?_⟩,
    fun words => ?_⟩
  · obtain ⟨e, he, -, arg, collect, hwords, hhost⟩ :=
      (haccounts.hosts x.host).mp (List.mem_map_of_mem hx)
    have hline : e.words ∈ lines := log_words lines ▸ List.mem_map_of_mem he
    exact ⟨e.words, hline, arg, collect, hwords, hhost.symm⟩
  · obtain ⟨after, hafter, hline⟩ := exec_line hstores words
    refine ⟨after, hafter.shows, ?_⟩
    generalize (exec words db).1 = exit at hline ⊢
    cases hline with
    | misused misuse => simp [misuse]
    | @command c result _ spelled effect =>
      have hregistered := hstores.toRegistered
      refine ⟨fun hcode => ?_, effect.warned, fun fault hfault => ?_, ?_⟩
      · cases result with
        | ok => contradiction
        | error e => exact effect.failed
      · rw [spelled] at hfault
        cases hfault
      · intro c' hc'
        obtain rfl : c = c' := Except.ok.inj (spelled.symm.trans hc')
        refine ⟨exitOf_code_ne_zero.trans (effect.failed_iff hregistered), fun hcode => ?_⟩
        obtain ⟨report, rfl⟩ := exitOf_code_eq_zero.mp hcode
        exact effect.changesOnly hregistered

/-- A site that is asked for in capitals stands under its lower case, and asking for it again in
other capitals changes nothing. -/
theorem Session.run_orderly_capitals :
    let db := (run [["add-site", "Blog.ÉXAMPLE"]]).database
    let again := exec ["add-site", "bLOG.éxample"] db
    ∃ sites, db.init.Shows sites ∧ sites ≠ [] ∧ (∀ x ∈ sites, x.host = "blog.éxample") ∧
      again.1.code = 1 ∧ again.2.init.Shows sites := by
  intro db again
  obtain ⟨sites, hshows, -, hsites, hnext⟩ := run_orderly [["add-site", "Blog.ÉXAMPLE"]]
  obtain ⟨after, hafter, hfailed, -⟩ := hnext ["add-site", "bLOG.éxample"]
  have hcode : again.1.code = 1 := by decide +kernel
  obtain rfl := hfailed (by rw [show (exec _ _).1.code = 1 from hcode]; decide)
  refine ⟨after, hshows, ?_, fun x hx => ?_, hcode, hafter⟩
  · rintro rfl
    exact absurd (hshows.byHost "blog.éxample") (by decide +kernel)
  · obtain ⟨-, words, hwords, arg, collect, hspelled, hhost⟩ := hsites x hx
    obtain rfl := List.mem_singleton.mp hwords
    have hasked : Command.ofWords ["add-site", "Blog.ÉXAMPLE"] =
        .ok (.addSite "Blog.ÉXAMPLE" {}) := by decide +kernel
    cases hasked.symm.trans hspelled
    exact hhost.trans (by decide +kernel)

end Admin

end HitCounter
