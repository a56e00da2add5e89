import HitCounter.Proofs.Store.Cache
import HitCounter.Proofs.Store.Turns

/-!
# When lookups are fresh

Calls take their turns in any order. A lookup that the cache could not answer enters the answer of
the database later, and so does a call that creates a site. If the sites change in between, what
they enter is out of date.

- **Settled** (`System.Settled`): the cache is coherent, and so is what the calls will enter in it.
- **Covered** (`System.Covered`): as long as no call holds an answer that is out of date, each entry
  of the cache is right or about to be replaced.
- **Fresh lookups** (`System.fresh_iff_settled`): with no write under way, all lookups that start
  later answer what the database holds exactly if the store is settled.
-/

namespace HitCounter

/-- The call may change the table of sites. -/
def Call.IsWrite : Call → Prop
  | .createSite .. | .updateSettings .. => True
  | .siteByHost _ | .siteById _ | .listSites | .persistHits _ | .countHits _ => False

instance : DecidablePred Call.IsWrite
  | .createSite .. | .updateSettings .. => .isTrue trivial
  | .siteByHost _ | .siteById _ | .listSites | .persistHits _ | .countHits _ => .isFalse not_false

namespace Store

namespace Stage

/-- The call is a write that has not returned. -/
def Writing : Stage → Prop
  | .asked c => c.IsWrite
  | .created .. | .updated => True
  | .missed _ | .found .. | .answered _ => False

instance : DecidablePred Writing
  | .asked c => inferInstanceAs (Decidable c.IsWrite)
  | .created .. | .updated => .isTrue trivial
  | .missed _ | .found .. | .answered _ => .isFalse not_false

/-- What the call is about to enter in the cache, if anything, is what the database holds. -/
def Right (database : Database) : Stage → Prop
  | .found host site => database.siteByHost host = .ok site
  | .created host site => database.siteByHost host = .ok (some site)
  | .asked _ | .missed _ | .updated | .answered _ => True

instance (database : Database) : DecidablePred (Right database)
  | .found host site => inferInstanceAs (Decidable (database.siteByHost host = .ok site))
  | .created host site => inferInstanceAs (Decidable (database.siteByHost host = .ok (some site)))
  | .asked _ | .missed _ | .updated | .answered _ => .isTrue trivial

/-- The call is a lookup of the host, and its answer, once it has one, is what the database
holds. -/
def Looks (database : Database) (host : String) : Stage → Prop
  | .asked c => c = .siteByHost host
  | .missed other => other = host
  | .found other site => other = host ∧ database.siteByHost host = .ok site
  | .answered a => a = .of .found (database.siteByHost host)
  | .created .. | .updated => False

/-- How many turns the call still needs at most. -/
def left : Stage → Nat
  | .asked _ => 3
  | .missed _ => 2
  | .found .. | .created .. | .updated => 1
  | .answered _ => 0

variable {s : Store} {stage : Stage} {host : String}

theorem left_eq_zero_iff : stage.left = 0 ↔ ∃ a, stage = .answered a := by
  cases stage <;> simp [left]

/-- A turn brings a call nearer to its return. -/
theorem left_turn (s : Store) (stage : Stage) : (stage.turn s).2.left ≤ stage.left - 1 := by
  cases stage with
  | asked c =>
    cases c with
    | createSite host settings =>
      simp only [turn]
      split <;> simp [left]
    | siteByHost host =>
      simp only [turn]
      split <;> simp [left]
    | updateSettings n settings =>
      simp only [turn]
      split <;> simp [left]
    | siteById n => simp [turn, left]
    | listSites => simp [turn, left]
    | persistHits batch => simp [turn, left]
    | countHits n => simp [turn, left]
  | missed host =>
    simp only [turn]
    split <;> simp [left]
  | found host site => simp [turn, left]
  | created host site => simp [turn, left]
  | updated => simp [turn, left]
  | answered a => simp [turn, left]

/-! ## What a turn can do -/

/-- A change of the cache is due, because the sites have changed. -/
def Pending : Stage → Prop
  | .created .. | .updated => True
  | .asked _ | .missed _ | .found .. | .answered _ => False

/-- What a turn does to the sites and to the cache. -/
inductive Effect (s : Store) : Stage → Store × Stage → Prop where
  /-- The database has one more site. -/
  | creates {host : String} {settings : Settings} {site : Site}
    (new : (s.database.createSite host settings).1 = .ok site) :
    Effect s (.asked (.createSite host settings))
      ({ s with database := (s.database.createSite host settings).2 }, .created host site)
  /-- A site of the database has other settings. -/
  | updates {n : Int} {settings : Settings}
    (known : (s.database.updateSettings n settings).1 = .ok true) :
    Effect s (.asked (.updateSettings n settings))
      ({ s with database := (s.database.updateSettings n settings).2 }, .updated)
  /-- The cache has what a lookup found. -/
  | entersFound (host : String) (site : Option Site) :
    Effect s (.found host site) (s.remember host site, .answered (.found site))
  /-- The cache has a new site. -/
  | entersCreated (host : String) (site : Site) :
    Effect s (.created host site) (s.remember host (some site), .answered (.created site))
  /-- The cache is empty. -/
  | empties : Effect s .updated (s.forget, .answered (.updated true))
  /-- Neither changes, and what the call has read is right. -/
  | reads {stage stage' : Stage} {database : Database}
    (same : ∀ host, database.siteByHost host = s.database.siteByHost host)
    (before : ¬ stage.Pending) (after : ¬ stage'.Writing) (right : stage'.Right s.database) :
    Effect s stage ({ s with database }, stage')

theorem effect_turn (s : Store) (stage : Stage) : Effect s stage (stage.turn s) := by
  have answers {stage : Stage} {a : Answer} (before : ¬ stage.Pending) :
      Effect s stage (s, .answered a) :=
    .reads (fun _ => rfl) before not_false trivial
  cases stage with
  | asked c =>
    cases c with
    | createSite host settings =>
      simp only [turn]
      split
      · rename_i site heq
        exact .creates heq
      · rename_i e heq
        exact .reads (Database.siteByHost_congr (Database.createSite_error heq)) not_false
          not_false trivial
    | siteByHost host =>
      simp only [turn]
      split
      · exact answers not_false
      · exact .reads (fun _ => rfl) not_false not_false trivial
    | updateSettings n settings =>
      simp only [turn]
      split
      · rename_i heq
        exact .updates heq
      · rename_i hne
        rw [Database.updateSettings_missed hne]
        exact answers not_false
    | siteById n => exact answers not_false
    | listSites => exact answers not_false
    | persistHits batch =>
      exact .reads (Database.siteByHost_congr (Database.persistHits_sites batch)) not_false
        not_false trivial
    | countHits n => exact answers not_false
  | missed host =>
    simp only [turn]
    split
    · rename_i site heq
      exact .reads (fun _ => rfl) not_false not_false heq
    · exact answers not_false
  | found host site => exact .entersFound host site
  | created host site => exact .entersCreated host site
  | updated => exact .empties
  | answered a => exact answers not_false

/-- A turn of a call that is no write, with the right answer to enter if it has one, keeps what
lookups find in the database and in the cache, and it makes no write of the call. -/
theorem turn_of_not_writing (h : ¬ stage.Writing) (hs : s.Coherent)
    (hright : stage.Right s.database) :
    (∀ host, (stage.turn s).1.database.siteByHost host = s.database.siteByHost host) ∧
      (stage.turn s).1.Coherent ∧ ¬ (stage.turn s).2.Writing ∧
      (stage.turn s).2.Right s.database := by
  have heffect := effect_turn s stage
  generalize stage.turn s = p at heffect
  cases heffect with
  | creates => exact absurd trivial h
  | updates => exact absurd trivial h
  | entersFound host site =>
    exact ⟨fun _ => rfl, hs.remember hright fun _ _ => rfl, not_false, trivial⟩
  | entersCreated => exact absurd trivial h
  | empties => exact absurd trivial h
  | reads same _ after right => exact ⟨same, hs.of_siteByHost same, after, right⟩

/-- A lookup in a coherent cache stays on its way to the right answer. -/
theorem Looks.turn (h : stage.Looks s.database host) (hs : s.Coherent) :
    (stage.turn s).2.Looks s.database host := by
  cases stage with
  | asked c =>
    cases h
    simp only [Stage.turn]
    split
    · rename_i site heq
      obtain ⟨c, hc, hget⟩ := Option.bind_eq_some_iff.mp heq
      rw [Looks, hs c hc host site hget]
      rfl
    · rfl
  | missed other =>
    cases h
    simp only [Stage.turn]
    split
    · rename_i site heq
      exact ⟨rfl, heq⟩
    · rename_i e heq
      rw [Looks, heq]
      rfl
  | found other site =>
    obtain ⟨rfl, heq⟩ := h
    rw [Stage.turn, Looks, heq]
    rfl
  | answered a => exact h
  | created other site => cases h
  | updated => cases h

theorem looks_congr {database database' : Database}
    (h : database'.siteByHost host = database.siteByHost host) :
    stage.Looks database' host ↔ stage.Looks database host := by
  cases stage <;> simp only [Looks, h]

theorem right_congr {database database' : Database}
    (h : ∀ host, database'.siteByHost host = database.siteByHost host) :
    stage.Right database' ↔ stage.Right database := by
  cases stage <;> simp only [Right, h]

end Stage

namespace System

variable {s s' s'' : System}

/-- No write is under way. -/
def Quiet (s : System) : Prop := ∀ stage ∈ s.stages, ¬ stage.Writing

/-- No call is about to enter something in the cache that is out of date. -/
def HoldsRight (s : System) : Prop := ∀ stage ∈ s.stages, stage.Right s.store.database

instance (s : System) : Decidable s.Quiet :=
  inferInstanceAs (Decidable (∀ stage ∈ s.stages, ¬ stage.Writing))

instance (s : System) : Decidable s.HoldsRight :=
  inferInstanceAs (Decidable (∀ stage ∈ s.stages, stage.Right s.store.database))

/-- The cache agrees with the database, and will do so after what is entered next. -/
structure Settled (s : System) : Prop where
  coherent : s.store.Coherent
  right : s.HoldsRight

/-- No write starts in the steps. -/
def WriteFree (steps : List Step) : Prop := ∀ c, .start c ∈ steps → ¬ c.IsWrite

/-- Every lookup that starts later answers what the database holds, unless a write starts. -/
def Fresh (s : System) : Prop :=
  ∀ (before after : List Step) (host : String) (answer : Answer), WriteFree (before ++ after) →
    (s.run (before ++ .start (.siteByHost host) :: after)).stages[(s.run before).stages.length]? =
      some (.answered answer) →
    answer = .of .found (s.store.database.siteByHost host)

/-! ## Every call returns -/

/-- Each turn of a call brings it nearer to its return, whatever the other calls do. -/
theorem exists_stage_run {i : Nat} {stage : Stage} (h : s.stages[i]? = some stage)
    (steps : List Step) :
    ∃ stage', (s.run steps).stages[i]? = some stage' ∧
      stage'.left ≤ stage.left - steps.count (.turn i) := by
  induction steps generalizing s stage with
  | nil => exact ⟨stage, h, by simp⟩
  | cons t steps ih =>
    have hlt : i < s.stages.length := (List.getElem?_eq_some_iff.mp h).1
    cases t with
    | start c =>
      have hi : (s.step (.start c)).stages[i]? = some stage := by
        rw [step, List.getElem?_append_left hlt, h]
      obtain ⟨stage', hstage', hle⟩ := ih hi
      exact ⟨stage', hstage', by simpa using hle⟩
    | turn j =>
      by_cases hij : j = i
      · subst hij
        have hi : (s.step (.turn j)).stages[j]? = some (stage.turn s.store).2 := by
          rw [step_turn h]
          exact List.getElem?_set_self hlt
        obtain ⟨stage', hstage', hle⟩ := ih hi
        have hturn := Stage.left_turn s.store stage
        exact ⟨stage', hstage', by rw [List.count_cons_self]; omega⟩
      · have hi : (s.step (.turn j)).stages[i]? = some stage := by
          rcases step_turn_cases j s with heq | ⟨other, -, heq⟩
          · rw [heq, h]
          · rw [heq, List.getElem?_set_ne hij, h]
        obtain ⟨stage', hstage', hle⟩ := ih hi
        exact ⟨stage', hstage', by simpa [hij] using hle⟩

/-- **Every call returns** after three of its turns, whatever the other calls do. -/
theorem exists_answered (s : System) (c : Call) (steps : List Step)
    (h : 3 ≤ steps.count (.turn s.stages.length)) :
    ∃ a, (s.run (.start c :: steps)).stages[s.stages.length]? = some (.answered a) := by
  have hi : (s.step (.start c)).stages[s.stages.length]? = some (.asked c) := by simp [step]
  obtain ⟨stage', hstage', hle⟩ := exists_stage_run hi steps
  have hasked : (Stage.asked c).left = 3 := rfl
  have hnone : stage'.left = 0 := by omega
  obtain ⟨a, rfl⟩ := Stage.left_eq_zero_iff.mp hnone
  exact ⟨a, hstage'⟩

/-! ## After the writes -/

/-- What steps without a write keep in a settled store: it stays settled, the database answers
lookups as before, and the lookups on their way to the right answer get there. -/
structure Leads (s s' : System) : Prop where
  quiet : s'.Quiet
  settled : s'.Settled
  lookups : ∀ host, s'.store.database.siteByHost host = s.store.database.siteByHost host
  looking : ∀ (i : Nat) host stage, s.stages[i]? = some stage →
    stage.Looks s.store.database host →
    ∃ stage', s'.stages[i]? = some stage' ∧ stage'.Looks s'.store.database host

theorem Leads.refl (hq : s.Quiet) (hs : s.Settled) : s.Leads s :=
  ⟨hq, hs, fun _ => rfl, fun _ _ stage hi hlooks => ⟨stage, hi, hlooks⟩⟩

theorem Leads.trans (h : s.Leads s') (h' : s'.Leads s'') : s.Leads s'' where
  quiet := h'.quiet
  settled := h'.settled
  lookups := fun host => (h'.lookups host).trans (h.lookups host)
  looking := fun i host stage hi hlooks =>
    let ⟨stage', hi', hlooks'⟩ := h.looking i host stage hi hlooks
    h'.looking i host stage' hi' hlooks'

theorem leads_start (hq : s.Quiet) (hs : s.Settled) {c : Call} (hc : ¬ c.IsWrite) :
    s.Leads (s.step (.start c)) where
  quiet := by
    simp only [step, Quiet, List.forall_mem_append, List.forall_mem_singleton]
    exact ⟨hq, hc⟩
  settled := by
    refine ⟨hs.coherent, ?_⟩
    simp only [step, HoldsRight, List.forall_mem_append, List.forall_mem_singleton]
    exact ⟨hs.right, trivial⟩
  lookups := fun _ => rfl
  looking := fun i host stage hi hlooks => by
    have hlt : i < s.stages.length := (List.getElem?_eq_some_iff.mp hi).1
    exact ⟨stage, by rw [step, List.getElem?_append_left hlt, hi], hlooks⟩

theorem leads_turn (hq : s.Quiet) (hs : s.Settled) (i : Nat) : s.Leads (s.step (.turn i)) := by
  rcases step_turn_cases i s with heq | ⟨stage, hi, heq⟩
  · rw [heq]
    exact .refl hq hs
  have hmem : stage ∈ s.stages := List.mem_of_getElem? hi
  obtain ⟨hsame, hcoherent, hnext, hright⟩ :=
    Stage.turn_of_not_writing (hq stage hmem) hs.coherent (hs.right stage hmem)
  rw [heq]
  refine ⟨fun other hother => ?_, ⟨hcoherent, fun other hother => ?_⟩, hsame,
    fun j host other hj hlooks => ?_⟩
  · rcases List.mem_or_eq_of_mem_set hother with hold | rfl
    · exact hq other hold
    · exact hnext
  · rw [Stage.right_congr hsame]
    rcases List.mem_or_eq_of_mem_set hother with hold | rfl
    · exact hs.right other hold
    · exact hright
  · have hlt : i < s.stages.length := (List.getElem?_eq_some_iff.mp hi).1
    simp only [Stage.looks_congr (hsame host)]
    by_cases hij : i = j
    · subst hij
      obtain rfl : stage = other := Option.some.inj (hi.symm.trans hj)
      exact ⟨_, List.getElem?_set_self hlt, hlooks.turn hs.coherent⟩
    · exact ⟨other, by rw [List.getElem?_set_ne hij, hj], hlooks⟩

/-- **Without a write** a settled store stays settled through any run. -/
theorem leads_run (hq : s.Quiet) (hs : s.Settled) {steps : List Step} (hfree : WriteFree steps) :
    s.Leads (s.run steps) := by
  induction steps generalizing s with
  | nil => exact .refl hq hs
  | cons t steps ih =>
    have hstep : s.Leads (s.step t) := by
      cases t with
      | start c => exact leads_start hq hs (hfree c List.mem_cons_self)
      | turn i => exact leads_turn hq hs i
    exact hstep.trans
      (ih hstep.quiet hstep.settled fun c hc => hfree c (List.mem_cons_of_mem t hc))

/-- In a settled store with no write under way, lookups are fresh. -/
theorem Settled.fresh (hs : s.Settled) (hq : s.Quiet) : s.Fresh := by
  intro before after host answer hfree hanswer
  have hbefore := leads_run hq hs fun c hc => hfree c (List.mem_append_left after hc)
  have hstart := leads_start (c := .siteByHost host) hbefore.quiet hbefore.settled id
  have hafter := leads_run hstart.quiet hstart.settled fun c hc =>
    hfree c (List.mem_append_right before hc)
  have hi : ((s.run before).step (.start (.siteByHost host))).stages[
      (s.run before).stages.length]? = some (.asked (.siteByHost host)) := by
    simp [step]
  obtain ⟨stage, hstage, hlooks⟩ := hafter.looking _ host _ hi rfl
  rw [run_append, run_cons, hstage, Option.some.injEq] at hanswer
  subst hanswer
  rw [Stage.Looks, ((hbefore.trans hstart).trans hafter).lookups] at hlooks
  exact hlooks

/-! ## When a store settles -/

/-- The entry of the host is about to be replaced, or all of them to be dropped. -/
def Due (stages : List Stage) (host : String) : Prop :=
  .updated ∈ stages ∨ ∃ site, .created host site ∈ stages

/-- What is due stays due while another call has its turn. -/
theorem Due.set {stages : List Stage} {host : String} {i : Nat} {stage : Stage}
    (h : Due stages host) (hi : stages[i]? = some stage) (hupdated : stage ≠ .updated)
    (hcreated : ∀ site, stage ≠ .created host site) (next : Stage) :
    Due (stages.set i next) host := by
  have hkeep : ∀ x ∈ stages, stage ≠ x → x ∈ stages.set i next := by
    intro x hx hne
    obtain ⟨j, hj⟩ := List.getElem?_of_mem hx
    have hij : i ≠ j := by
      rintro rfl
      exact hne (Option.some.inj (hi.symm.trans hj))
    exact List.mem_of_getElem? ((List.getElem?_set_ne hij).trans hj)
  rcases h with hmem | ⟨site, hmem⟩
  · exact .inl (hkeep _ hmem hupdated)
  · exact .inr ⟨site, hkeep _ hmem (hcreated site)⟩

/-- Each entry of the cache is what the database holds, or it is about to go. -/
def Covered (s : System) : Prop :=
  ∀ c, s.store.cache = some c → ∀ host site, c.get? host = some site →
    s.store.database.siteByHost host = .ok site ∨ Due s.stages host

theorem covered_start (database : Database) : (start database).Covered := by
  rintro _ ⟨⟩ host site hget
  cases hget

/-- An entry beside a new one was there before. -/
theorem get?_remember {store : Store} {host other : String} {site entry : Option Site} {c : Cache}
    (hc : (store.remember host site).cache = some c) (hget : c.get? other = some entry) :
    other = host ∧ entry = site ∨
      other ≠ host ∧ ∃ before, store.cache = some before ∧ before.get? other = some entry := by
  obtain ⟨before, hbefore, rfl⟩ := Option.map_eq_some_iff.mp hc
  by_cases heq : other = host
  · subst heq
    rw [Cache.get?_insert_self, Option.some.injEq] at hget
    exact .inl ⟨rfl, hget.symm⟩
  · rw [Cache.get?_insert_of_ne _ _ heq] at hget
    exact .inr ⟨heq, before, hbefore, hget⟩

theorem Covered.turn (h : s.Covered) (hright : s.HoldsRight) (i : Nat) :
    (s.step (.turn i)).Covered := by
  rcases step_turn_cases i s with heq | ⟨stage, hi, heq⟩
  · rw [heq]
    exact h
  have hlt : i < s.stages.length := (List.getElem?_eq_some_iff.mp hi).1
  have hnow := hright stage (List.mem_of_getElem? hi)
  have hself (next : Stage) : next ∈ s.stages.set i next :=
    List.mem_of_getElem? (List.getElem?_set_self hlt)
  have heffect := Stage.effect_turn s.store stage
  rw [heq]
  generalize stage.turn s.store = p at heffect
  intro c hc host entry hget
  cases heffect with
  | @creates other settings site new =>
    by_cases hhost : host = other
    · exact .inr (.inr ⟨site, hhost ▸ hself _⟩)
    · have hsame := (Database.createSite_ok new).2 host hhost
      exact (h c hc host entry hget).imp hsame.trans fun hdue =>
        hdue.set hi Stage.noConfusion (fun _ => Stage.noConfusion) _
  | updates => exact .inr (.inl (hself _))
  | entersFound other site =>
    rcases get?_remember hc hget with ⟨rfl, rfl⟩ | ⟨-, before, hbefore, hold⟩
    · exact .inl hnow
    · exact (h before hbefore host entry hold).imp_right fun hdue =>
        hdue.set hi Stage.noConfusion (fun _ => Stage.noConfusion) _
  | entersCreated other site =>
    rcases get?_remember hc hget with ⟨rfl, rfl⟩ | ⟨hne, before, hbefore, hold⟩
    · exact .inl hnow
    · -- This call replaces the entry of its own host, and no other entry.
      have hcreated : ∀ site', Stage.created other site ≠ .created host site' := by
        rintro _ ⟨⟩
        exact hne rfl
      exact (h before hbefore host entry hold).imp_right fun hdue =>
        hdue.set hi Stage.noConfusion hcreated _
  | empties =>
    obtain ⟨before, -, rfl⟩ := Option.map_eq_some_iff.mp hc
    cases hget
  | reads same notPending =>
    have hupdated : stage ≠ .updated := by
      rintro rfl
      exact notPending trivial
    have hcreated : ∀ site, stage ≠ .created host site := by
      rintro _ rfl
      exact notPending trivial
    exact (h c hc host entry hget).imp (same host).trans fun hdue =>
      hdue.set hi hupdated hcreated _

theorem Covered.step (h : s.Covered) (hright : s.HoldsRight) (t : Step) : (s.step t).Covered := by
  cases t with
  | start c =>
    intro cache hc host site hget
    refine (h cache hc host site hget).imp_right fun hdue => ?_
    exact hdue.imp (List.mem_append_left _) fun ⟨new, hmem⟩ => ⟨new, List.mem_append_left _ hmem⟩
  | turn i => exact h.turn hright i

/-- **Covered.** As long as no call holds an answer that is out of date, each entry of the cache is
right or about to go. -/
theorem Covered.run (h : s.Covered) {steps : List Step}
    (hright : ∀ first, first <+: steps → (s.run first).HoldsRight) : (s.run steps).Covered := by
  induction steps generalizing s with
  | nil => exact h
  | cons t steps ih =>
    exact ih (h.step (hright [] List.nil_prefix) t) fun first hfirst =>
      hright (t :: first) (List.prefix_cons_inj t |>.mpr hfirst)

theorem Covered.settled (h : s.Covered) (hright : s.HoldsRight) (hq : s.Quiet) : s.Settled where
  coherent := fun c hc host site hget => (h c hc host site hget).resolve_right fun hdue => by
    rcases hdue with hmem | ⟨_, hmem⟩ <;> exact hq _ hmem trivial
  right := hright

/-! ## Fresh lookups -/

/-- The store has a cache, whatever the calls do. -/
theorem cache_isSome_step (s : System) (t : Step) :
    (s.step t).store.cache.isSome = s.store.cache.isSome := by
  cases t with
  | start c => rfl
  | turn i =>
    rcases step_turn_cases i s with heq | ⟨stage, -, heq⟩
    · rw [heq]
    · have heffect := Stage.effect_turn s.store stage
      rw [heq]
      generalize stage.turn s.store = p at heffect
      cases heffect <;> simp [remember, forget]

theorem cache_isSome_run (s : System) (steps : List Step) :
    (s.run steps).store.cache.isSome = s.store.cache.isSome := by
  induction steps generalizing s with
  | nil => rfl
  | cons t steps ih => rw [run_cons, ih, cache_isSome_step]

/-- A fresh lookup finds no entry in the cache but what the database holds. -/
theorem Fresh.coherent (h : s.Fresh) : s.store.Coherent := by
  intro c hc host site hget
  have hanswer := h [] [.turn s.stages.length] host (.found site) (by simp [WriteFree])
    (by simp [System.step, Stage.turn, hc, hget])
  cases hr : s.store.database.siteByHost host with
  | error e => simp [hr, Answer.of] at hanswer
  | ok site' => simpa [hr, Answer.of, eq_comm] using hanswer

/-- Steps without a write that leave the database alone leave later lookups fresh. -/
theorem Fresh.run (h : s.Fresh) {steps : List Step} (hfree : WriteFree steps)
    (hsame : ∀ host,
      (s.run steps).store.database.siteByHost host = s.store.database.siteByHost host) :
    (s.run steps).Fresh := by
  intro before after host answer hmore hanswer
  rw [hsame]
  refine h (steps ++ before) after host answer ?_ (by simpa only [run_append, List.append_assoc]
    using hanswer)
  intro c hc
  rw [List.append_assoc, List.mem_append] at hc
  exact hc.elim (hfree c) (hmore c)

/-- With no write under way, lookups are fresh exactly in a settled store. -/
theorem fresh_iff_settled (hcache : s.store.cache.isSome) (hq : s.Quiet) :
    s.Fresh ↔ s.Settled := by
  refine ⟨fun h => ⟨h.coherent, fun stage hmem => ?_⟩, fun h => h.fresh hq⟩
  cases stage with
  | found host site =>
    -- The call enters what it holds; the cache is coherent even then.
    obtain ⟨i, hi⟩ := List.getElem?_of_mem hmem
    have hstep := step_turn hi
    have hfree : WriteFree [.turn i] := by simp [WriteFree]
    have hnext := (h.run hfree fun other => by simp [hstep, Stage.turn, remember]).coherent
    obtain ⟨c, hc⟩ := Option.isSome_iff_exists.mp hcache
    have hentry := hnext (c.insert host site) (by simp [hstep, Stage.turn, remember, hc]) host site
      (Cache.get?_insert_self c host site)
    change s.store.database.siteByHost host = .ok site
    simpa [hstep, Stage.turn, remember] using hentry
  | created host site => exact absurd trivial (hq _ hmem)
  | asked c => trivial
  | missed host => trivial
  | updated => trivial
  | answered a => trivial

/-- **Fresh lookups.** From any database and an empty cache, and with no write under way: all
lookups that start later answer what the database holds exactly if the cache agrees with it and so
does what earlier lookups are about to enter. That is the case if no call has ever held an answer
that was out of date. A lookup returns after three of its turns. -/
theorem lookups_fresh_iff (database : Database) (steps : List Step)
    (quiet : ((start database).run steps).Quiet) :
    let s := (start database).run steps
    (s.Fresh ↔ s.Settled) ∧
    ((∀ first, first <+: steps → ((start database).run first).HoldsRight) → s.Fresh) ∧
    ∀ before after host, 3 ≤ after.count (.turn (s.run before).stages.length) →
      ∃ a, (s.run (before ++ .start (.siteByHost host) :: after)).stages[
        (s.run before).stages.length]? = some (.answered a) := by
  intro s
  have hcache : s.store.cache.isSome = true := cache_isSome_run (start database) steps
  refine ⟨fresh_iff_settled hcache quiet, fun hright => ?_, fun before after host hcount => ?_⟩
  · have hcovered := (covered_start database).run hright
    exact (hcovered.settled (hright steps List.prefix_rfl) quiet).fresh quiet
  · rw [run_append]
    exact exists_answered _ _ _ hcount

/-! ### A lookup beside a write -/

/-- A lookup begins while a site is created. It reads the database after the site is there. -/
def readBehindWrite : List Step :=
  [.start (.createSite "a.example" {}), .start (.siteByHost "a.example"), .turn 1, .turn 0,
    .turn 1, .turn 0, .turn 1]

/-- Later lookups are fresh. -/
theorem lookups_fresh_iff_readBehindWrite :
    ((start ({} : Database).init).run readBehindWrite).Quiet ∧
      ((start ({} : Database).init).run readBehindWrite).Fresh := by
  have quiet : ((start ({} : Database).init).run readBehindWrite).Quiet := by decide +kernel
  obtain ⟨-, hfresh, -⟩ := lookups_fresh_iff ({} : Database).init readBehindWrite quiet
  have hright : ∀ n < 8,
      ((start ({} : Database).init).run (readBehindWrite.take n)).HoldsRight := by
    decide +kernel
  refine ⟨quiet, hfresh fun first hfirst => ?_⟩
  rw [List.prefix_iff_eq_take.mp hfirst]
  exact hright _ (Nat.lt_succ_of_le hfirst.length_le)

/-- A lookup reads the database, the settings of the site are changed, and only then the lookup
enters what it has read. Another lookup follows. -/
def updatedMeanwhile : List Step :=
  [.start (.siteByHost "a.example"), .turn 0, .turn 0,
    .start (.updateSettings 1 { ignored := ["192.0.2.1"] }), .turn 1, .turn 1, .turn 0,
    .start (.siteByHost "a.example"), .turn 2]

/-- A lookup finds no site, the site is created, and only then the lookup enters what it has found.
Another lookup follows. -/
def createdMeanwhile : List Step :=
  [.start (.siteByHost "a.example"), .turn 0, .turn 0, .start (.createSite "a.example" {}), .turn 1,
    .turn 1, .turn 0, .start (.siteByHost "a.example"), .turn 2]

/-- The last lookup starts after the write has returned, with no other write. It answers the old
settings, and that there is no site. -/
theorem lookups_stale :
    let known := (({} : Database).init.createSite "a.example" {}).2
    let s := (start known).run updatedMeanwhile
    let s' := (start ({} : Database).init).run createdMeanwhile
    s.stages = [.answered (.found (some ⟨1, "a.example", {}⟩)), .answered (.updated true),
        .answered (.found (some ⟨1, "a.example", {}⟩))] ∧
      s.store.database.siteByHost "a.example" =
        .ok (some ⟨1, "a.example", { ignored := ["192.0.2.1"] }⟩) ∧
      s'.stages = [.answered (.found none), .answered (.created ⟨1, "a.example", {}⟩),
        .answered (.found none)] ∧
      s'.store.database.siteByHost "a.example" = .ok (some ⟨1, "a.example", {}⟩) := by
  decide +kernel

end System

end Store

end HitCounter
