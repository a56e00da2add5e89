import HitCounter.Store.Basic

/-!
# The store turn by turn

`Store` takes a call as one step. Here the calls are taken apart: to look into the cache, to ask the
database and to change the cache are turns of their own, and other calls may have theirs in
between.

- **Stages** (`Store.Stage`, `Stage.turn`): how far a call has come, and its next turn.
- **Runs** (`Store.System`, `System.run`): calls start, and take their turns in any order.
- **Agreement** (`System.run_alone`, `System.run_inTurn`): calls one after the other are the calls
  of the store.
-/

namespace HitCounter.Store

/-- How far a call has come. -/
inductive Stage where
  /-- It has started. -/
  | asked (c : Call)
  /-- A lookup that the cache could not answer. -/
  | missed (host : String)
  /-- A lookup that the database has answered. The cache does not have the answer yet. -/
  | found (host : String) (site : Option Site)
  /-- The database has a new site. The cache does not have it yet. -/
  | created (host : String) (site : Site)
  /-- A site has other settings. The cache is not empty yet. -/
  | updated
  /-- It has returned. -/
  | answered (a : Answer)
deriving DecidableEq

/-- The next turn of a call: what it does to the store, and how far it comes. -/
def Stage.turn (s : Store) : Stage → Store × Stage
  | .asked (.createSite host settings) =>
    let (result, database) := s.database.createSite host settings
    ({ s with database },
      match result with
      | .ok site => .created host site
      | .error e => .answered (.failed e))
  | .asked (.siteByHost host) =>
    (s,
      match s.cache.bind (·.get? host) with
      | some site => .answered (.found site)
      | none => .missed host)
  | .asked (.updateSettings id settings) =>
    let (result, database) := s.database.updateSettings id settings
    ({ s with database },
      match result with
      | .ok true => .updated
      | result => .answered (.of .updated result))
  | .asked c => ((s.call c).2, .answered (s.call c).1)
  | .missed host =>
    (s,
      match s.database.siteByHost host with
      | .ok site => .found host site
      | .error e => .answered (.failed e))
  | .found host site => (s.remember host site, .answered (.found site))
  | .created host site => (s.remember host (some site), .answered (.created site))
  | .updated => (s.forget, .answered (.updated true))
  | .answered a => (s, .answered a)

/-- A store with the calls that have started, the oldest first. -/
structure System where
  store : Store
  stages : List Stage := []
deriving DecidableEq

/-- A step of one of the parties. -/
inductive Step where
  /-- A call starts. -/
  | start (c : Call)
  /-- One of the calls has its next turn. -/
  | turn (i : Nat)
deriving DecidableEq

namespace System

/-- A database with an empty cache, and no call. -/
def start (database : Database) : System := { store := ⟨database, some []⟩ }

/-- One step. -/
def step (s : System) : Step → System
  | .start c => { s with stages := s.stages ++ [.asked c] }
  | .turn i =>
    match s.stages[i]? with
    | some stage =>
      let (store, stage) := stage.turn s.store
      { store, stages := s.stages.set i stage }
    | none => s

/-- Steps one after the other. -/
def run (s : System) (steps : List Step) : System := steps.foldl step s

variable {s : System}

@[simp] theorem run_nil : s.run [] = s := rfl

@[simp] theorem run_cons (t : Step) (steps : List Step) :
    s.run (t :: steps) = (s.step t).run steps := rfl

theorem run_append (steps more : List Step) : s.run (steps ++ more) = (s.run steps).run more :=
  List.foldl_append

theorem step_turn {i : Nat} {stage : Stage} (h : s.stages[i]? = some stage) :
    s.step (.turn i) =
      { store := (stage.turn s.store).1, stages := s.stages.set i (stage.turn s.store).2 } := by
  simp only [step, h]

/-- What a turn does: nothing if there is no such call, and else what the turn of its stage does. -/
theorem step_turn_cases (i : Nat) (s : System) :
    s.step (.turn i) = s ∨ ∃ stage, s.stages[i]? = some stage ∧
      s.step (.turn i) =
        { store := (stage.turn s.store).1, stages := s.stages.set i (stage.turn s.store).2 } := by
  cases hi : s.stages[i]? with
  | none => exact .inl (by simp only [step, hi])
  | some stage => exact .inr ⟨stage, rfl, step_turn hi⟩

/-! ## Calls without others in between -/

/-- Some turns of a call without any other call in between. -/
def turns : Nat → Store × Stage → Store × Stage
  | 0, p => p
  | n + 1, p => turns n (p.2.turn p.1)

/-- Three turns are enough for every call, and together they are the call. -/
theorem turns_call (s : Store) (c : Call) :
    turns 3 (s, .asked c) = ((s.call c).2, .answered (s.call c).1) := by
  cases c with
  | createSite host settings =>
    cases hr : (s.database.createSite host settings).1 <;>
      simp [turns, Stage.turn, call, createSite, hr, Answer.of]
  | siteByHost host =>
    cases hc : s.cache.bind (·.get? host) with
    | some site => simp [turns, Stage.turn, call, siteByHost, hc, Answer.of]
    | none =>
      cases hr : s.database.siteByHost host <;>
        simp [turns, Stage.turn, call, siteByHost, hc, hr, Answer.of]
  | updateSettings id settings =>
    cases hr : (s.database.updateSettings id settings).1 with
    | error e => simp [turns, Stage.turn, call, updateSettings, hr, Answer.of]
    | ok known =>
      cases known <;> simp [turns, Stage.turn, call, updateSettings, hr, Answer.of]
  | siteById id => rfl
  | listSites => rfl
  | persistHits batch => rfl
  | countHits id => rfl

theorem run_turns (n : Nat) (store : Store) (stages : List Stage) (stage : Stage) :
    run ⟨store, stages ++ [stage]⟩ (List.replicate n (.turn stages.length)) =
      ⟨(turns n (store, stage)).1, stages ++ [(turns n (store, stage)).2]⟩ := by
  induction n generalizing store stage with
  | zero => rfl
  | succ n ih =>
    have hi : (stages ++ [stage])[stages.length]? = some stage := by simp
    have hset : (stages ++ [stage]).set stages.length (stage.turn store).2 =
        stages ++ [(stage.turn store).2] := by simp
    rw [List.replicate_succ, run_cons, step_turn hi, hset, ih]
    rfl

/-- **A call without others in between** is the call of the store. -/
theorem run_alone (s : System) (c : Call) :
    s.run (.start c :: List.replicate 3 (.turn s.stages.length)) =
      ⟨(s.store.call c).2, s.stages ++ [.answered (s.store.call c).1]⟩ := by
  rw [run_cons, step, run_turns, turns_call]

/-- The steps of some calls that have their turns one after the other, behind `n` others. -/
def inTurn : Nat → List Call → List Step
  | _, [] => []
  | n, c :: calls => .start c :: List.replicate 3 (.turn n) ++ inTurn (n + 1) calls

/-- **Calls one after the other** are a run of the store. -/
theorem run_inTurn (s : System) (calls : List Call) :
    s.run (inTurn s.stages.length calls) =
      ⟨(s.store.run calls).2, s.stages ++ (s.store.run calls).1.map .answered⟩ := by
  induction calls generalizing s with
  | nil => simp [inTurn, Store.run]
  | cons c calls ih =>
    have hlast := ih (s.run (.start c :: List.replicate 3 (.turn s.stages.length)))
    rw [run_alone] at hlast
    rw [inTurn, run_append, run_alone]
    simpa [Store.run] using hlast

end System

end HitCounter.Store
