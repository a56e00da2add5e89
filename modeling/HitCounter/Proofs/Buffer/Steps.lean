import HitCounter.Buffer.Basic
import Mathlib.Data.List.Basic

/-!
# The buffer step by step

`Buffer` takes a flush and a drain as one step each. Here they are taken apart: the task moves one
hit at a time to the shared place, and a drain notes some sites first and empties them one by one.
The parties may take their steps in any order.

- **States** (`Buffer.System`): a buffer with what its task is doing, the drains under way, and a
  record of what has entered the queue and of what has left the shared place.
- **Steps** (`Buffer.Step`, `System.run`): the smallest steps of the parties.
- **Agreement** (`run_flush`, `exists_run_receive`, `exists_run_shutdown`, `run_drain`,
  `persist_buffer`): the operations of a buffer are runs of these steps.
-/

namespace HitCounter

/-- The hit that a message hands over. -/
def Message.hit? : Message → Option Hit
  | .hit h => some h
  | .shutdown => none

namespace Buffer

/-- What the task is doing. -/
inductive Phase where
  /-- It waits for a message or for the turn of its flush. -/
  | waiting
  /-- It moves the hits in its hands to the shared place. -/
  | flushing
  /-- It has taken a shutdown, moves the hits in its hands for the last time and then ends. -/
  | closing
deriving DecidableEq

/-- A drain that has begun. -/
structure Drain where
  /-- The sites that were noted and are not yet emptied. -/
  left : List Int
  /-- The hits that it has removed. -/
  hits : List Hit := []
deriving DecidableEq

/-- A buffer between two steps of its parties. -/
structure System where
  buffer : Buffer
  phase : Phase := .waiting
  drains : List Drain := []
  /-- Every message that has entered the queue, the oldest first. -/
  sent : List Message := []
  /-- The batches that have left the shared place, the oldest first. -/
  removed : List (List Hit) := []
deriving DecidableEq

/-- A smallest step of one party. -/
inductive Step where
  /-- A request hands over a hit, which is lost when there is no room. -/
  | append (h : Hit)
  /-- A shutdown enters the queue. Without room it waits: nothing happens. -/
  | shutdown
  /-- The task takes the oldest message. -/
  | receive
  /-- The turn of the flush comes. -/
  | flush
  /-- The task moves the oldest hit in its hands, or finds that there is none and is done. -/
  | push
  /-- A drain, of its own or to persist the hits, begins and notes some sites. -/
  | drain (sites : List Int)
  /-- One of the drains empties its next site. -/
  | remove (i : Nat)
deriving DecidableEq

/-- The task alone takes this step. -/
def Step.OfTask : Step → Prop
  | .receive | .flush | .push => True
  | .append _ | .shutdown | .drain _ | .remove _ => False

namespace System

/-- An empty buffer with a waiting task. -/
def start (capacity : Nat) : System := { buffer := { capacity } }

/-- A message enters the queue if there is room. -/
def send (m : Message) (s : System) : System :=
  if s.buffer.hasRoom then { s with buffer := s.buffer.send m, sent := s.sent ++ [m] } else s

/-- The waiting task takes the oldest message. -/
def receive (s : System) : System :=
  if s.buffer.running ∧ s.phase = .waiting then
    match s.buffer.queue with
    | [] => s
    | .hit h :: queue => { s with buffer := { s.buffer with queue, held := s.buffer.held ++ [h] } }
    | .shutdown :: queue => { s with buffer := { s.buffer with queue }, phase := .closing }
  else s

/-- The waiting task begins to flush. -/
def flush (s : System) : System :=
  if s.buffer.running ∧ s.phase = .waiting then { s with phase := .flushing } else s

/-- The task goes on with its flush. With empty hands it waits again, or ends. -/
def push (s : System) : System :=
  match s.phase, s.buffer.held with
  | .waiting, _ => s
  | _, h :: held => { s with buffer := { s.buffer with held, shared := s.buffer.shared ++ [h] } }
  | .flushing, [] => { s with phase := .waiting }
  | .closing, [] => { s with buffer := { s.buffer with running := false } }

/-- One of the drains empties its next site, if it has one. -/
def remove (i : Nat) (s : System) : System :=
  match s.drains[i]? with
  | some { left := site :: left, hits } =>
    let (batch, buffer) := s.buffer.take site
    { s with
      buffer
      drains := s.drains.set i ⟨left, hits ++ batch⟩
      removed := s.removed ++ [batch] }
  | _ => s

/-- One step. -/
def step (s : System) : Step → System
  | .append h => s.send (.hit h)
  | .shutdown => s.send .shutdown
  | .receive => s.receive
  | .flush => s.flush
  | .push => s.push
  | .drain sites => { s with drains := s.drains ++ [⟨sites, []⟩] }
  | .remove i => s.remove i

/-- Steps one after the other. -/
def run (s : System) (steps : List Step) : System := steps.foldl step s

variable {s : System}

@[simp] theorem run_nil : s.run [] = s := rfl

@[simp] theorem run_cons (t : Step) (steps : List Step) :
    s.run (t :: steps) = (s.step t).run steps := rfl

theorem run_append (steps more : List Step) : s.run (steps ++ more) = (s.run steps).run more :=
  List.foldl_append

/-! ## What one step can do -/

@[simp] theorem send_running (m : Message) (b : Buffer) : (b.send m).running = b.running := by
  unfold Buffer.send
  split <;> rfl

/-- A message enters the queue of the buffer as `Buffer.send` has it. -/
theorem send_buffer (m : Message) (s : System) : (s.send m).buffer = s.buffer.send m := by
  unfold send Buffer.send
  split <;> simp_all

theorem send_phase (m : Message) (s : System) : (s.send m).phase = s.phase := by
  unfold send
  split <;> rfl

/-- What a `remove` does: nothing, or a drain takes the hits of its next site. -/
theorem remove_cases (i : Nat) (s : System) :
    s.remove i = s ∨ ∃ site left hits, s.drains[i]? = some ⟨site :: left, hits⟩ ∧
      s.remove i = { s with
        buffer := (s.buffer.take site).2
        drains := s.drains.set i ⟨left, hits ++ s.buffer.sharedOf site⟩
        removed := s.removed ++ [s.buffer.sharedOf site] } := by
  unfold remove
  split
  · rename_i site left hits hi
    exact .inr ⟨site, left, hits, hi, rfl⟩
  · exact .inl rfl

/-- What a `receive` does: nothing, or the waiting task takes a hit or a shutdown. -/
theorem receive_cases (s : System) :
    s.receive = s ∨ (s.buffer.running ∧ s.phase = .waiting ∧
      ((∃ h queue, s.buffer.queue = .hit h :: queue ∧
          s.receive = { s with buffer := { s.buffer with queue, held := s.buffer.held ++ [h] } }) ∨
        ∃ queue, s.buffer.queue = .shutdown :: queue ∧
          s.receive = { s with buffer := { s.buffer with queue }, phase := .closing })) := by
  unfold receive
  split
  · rename_i h
    split
    · exact .inl rfl
    · rename_i hit queue hq
      exact .inr ⟨h.1, h.2, .inl ⟨hit, queue, hq, rfl⟩⟩
    · rename_i queue hq
      exact .inr ⟨h.1, h.2, .inr ⟨queue, hq, rfl⟩⟩
  · exact .inl rfl

/-- What a `push` does: nothing while the task waits; otherwise one hit is moved, or the flush is
over. -/
theorem push_cases (s : System) :
    s.push = s ∨ (s.phase ≠ .waiting ∧ ∃ h held, s.buffer.held = h :: held ∧
        s.push = { s with buffer := { s.buffer with held, shared := s.buffer.shared ++ [h] } }) ∨
      (s.phase = .flushing ∧ s.buffer.held = [] ∧ s.push = { s with phase := .waiting }) ∨
      (s.phase = .closing ∧ s.buffer.held = [] ∧
        s.push = { s with buffer := { s.buffer with running := false } }) := by
  unfold push
  split
  · exact .inl rfl
  · rename_i h held hheld hne
    exact .inr (.inl ⟨hne, h, held, hheld, rfl⟩)
  · rename_i hp hheld
    exact .inr (.inr (.inl ⟨hp, hheld, rfl⟩))
  · rename_i hp hheld
    exact .inr (.inr (.inr ⟨hp, hheld, rfl⟩))

/-! ## Whole flushes -/

/-- The state when a flush that is under way is over. -/
def flushed (s : System) : System :=
  match s.phase with
  | .waiting => s
  | .flushing => { s with buffer := s.buffer.flush, phase := .waiting }
  | .closing => { s with buffer := { s.buffer.flush with running := false } }

theorem push_of_held {h : Hit} {held : List Hit} (hp : s.phase ≠ .waiting)
    (hheld : s.buffer.held = h :: held) :
    s.push = { s with buffer := { s.buffer with held, shared := s.buffer.shared ++ [h] } } := by
  unfold push
  rw [hheld]
  cases hphase : s.phase with
  | waiting => exact absurd hphase hp
  | flushing => rfl
  | closing => rfl

/-- As many pushes as there are hits in the hands of the task, and one more, finish a flush. -/
theorem run_pushes (hp : s.phase ≠ .waiting) :
    s.run (List.replicate (s.buffer.held.length + 1) .push) = s.flushed := by
  -- The pushes move the head of `held` behind `shared`, so the state changes along the induction.
  induction hheld : s.buffer.held generalizing s with
  | nil =>
    obtain ⟨⟨capacity, queue, running, held, shared⟩, phase, drains, sent, removed⟩ := s
    cases hheld
    cases phase <;> simp_all [step, push, flushed, Buffer.flush]
  | cons h held ih =>
    rw [List.length_cons, List.replicate_succ, run_cons, step, push_of_held hp hheld]
    refine (ih (by exact hp) (by rfl)).trans ?_
    cases hphase : s.phase <;> simp_all [flushed, Buffer.flush]

theorem ofTask_pushes (n : Nat) : ∀ t ∈ List.replicate n Step.push, t.OfTask := by
  intro t ht
  rw [List.eq_of_mem_replicate ht]
  trivial

/-- The task waits, or it has ended. -/
def AtRest (s : System) : Prop := s.phase = .waiting ∨ s.buffer.running = false

/-- **A flush of a buffer** is a turn of the flush with its pushes. -/
theorem run_flush (hr : s.buffer.running = true) (hp : s.phase = .waiting) :
    s.run (.flush :: List.replicate (s.buffer.held.length + 1) .push) =
      { s with buffer := s.buffer.flush } := by
  have hflush : s.step .flush = { s with phase := .flushing } := by
    simp [step, flush, hr, hp]
  have hpushes := run_pushes (s := { s with phase := .flushing }) (by simp)
  rw [run_cons, hflush, hpushes]
  simp [flushed, hp]

/-- **A message taken from a buffer** is a step of the task, with the pushes of the last flush if
it is a shutdown. -/
theorem exists_run_receive (h : s.AtRest) :
    ∃ steps, (∀ t ∈ steps, t.OfTask) ∧ (s.run steps).buffer = s.buffer.receive ∧
      (s.run steps).AtRest := by
  by_cases hr : s.buffer.running = true
  · have hp : s.phase = .waiting := h.resolve_right (by simp [hr])
    cases hq : s.buffer.queue with
    | nil => exact ⟨[], by simp, by simp [Buffer.receive, hr, hq], .inl hp⟩
    | cons m queue =>
      cases m with
      | hit x =>
        refine ⟨[.receive], by simp [Step.OfTask], ?_, .inl ?_⟩
        · simp [step, receive, Buffer.receive, hr, hp, hq]
        · simp [step, receive, hr, hp, hq]
      | shutdown =>
        have hreceive : s.step .receive =
            { s with buffer := { s.buffer with queue }, phase := .closing } := by
          simp [step, receive, hr, hp, hq]
        have hclosing : (s.step .receive).phase ≠ .waiting := by simp [hreceive]
        have hpushes := run_pushes hclosing
        rw [hreceive] at hpushes
        refine ⟨.receive :: List.replicate (s.buffer.held.length + 1) .push,
          List.forall_mem_cons.mpr ⟨trivial, ofTask_pushes _⟩, ?_, ?_⟩
        · rw [run_cons, hreceive, hpushes]
          simp [flushed, Buffer.receive, hr, hq]
        · rw [run_cons, hreceive, hpushes]
          exact .inr rfl
  · exact ⟨[], by simp, by simp [Buffer.receive, hr], h⟩

/-- **All messages taken from a buffer** are a run of the task. -/
theorem exists_run_settle (h : s.AtRest) :
    ∃ steps, (∀ t ∈ steps, t.OfTask) ∧ (s.run steps).buffer = s.buffer.settle ∧
      (s.run steps).AtRest := by
  suffices ∀ n (s : System), s.AtRest → ∃ steps, (∀ t ∈ steps, t.OfTask) ∧
      (s.run steps).buffer = s.buffer.receiveMany n ∧ (s.run steps).AtRest from this _ s h
  intro n
  induction n with
  | zero => exact fun s h => ⟨[], by simp, rfl, h⟩
  | succ n ih =>
    intro s h
    obtain ⟨first, hfirst, hbuffer, hrest⟩ := exists_run_receive h
    obtain ⟨more, hmore, hbuffer', hrest'⟩ := ih _ hrest
    refine ⟨first ++ more, List.forall_mem_append.mpr ⟨hfirst, hmore⟩, ?_, ?_⟩
    · rw [run_append, hbuffer', hbuffer]
      rfl
    · rw [run_append]
      exact hrest'

/-- **A shutdown of a buffer** is a run in which the message enters the queue once. -/
theorem exists_run_shutdown (h : s.AtRest) :
    ∃ first more, (∀ t ∈ first ++ more, t.OfTask) ∧
      (s.run (first ++ .shutdown :: more)).buffer = s.buffer.shutdown := by
  obtain ⟨first, hfirst, hbuffer, hrest⟩ := exists_run_settle h
  have hsent : ((s.run first).step .shutdown).AtRest :=
    hrest.imp (by rw [step, send_phase]; exact id)
      (by rw [step, send_buffer, send_running]; exact id)
  obtain ⟨more, hmore, hbuffer', -⟩ := exists_run_settle hsent
  refine ⟨first, more, List.forall_mem_append.mpr ⟨hfirst, hmore⟩, ?_⟩
  rw [run_append, run_cons, hbuffer', step, send_buffer, hbuffer]
  rfl

/-! ## Whole drains -/

/-- A drain that has its turns one after the other removes what `takeAll` removes. -/
theorem run_removes (i : Nat) (sites : List Int) (found : List Hit) (s : System)
    (hi : s.drains[i]? = some ⟨sites, found⟩) :
    (s.run (List.replicate sites.length (.remove i))).buffer = (takeAll sites s.buffer).2 ∧
      (s.run (List.replicate sites.length (.remove i))).drains[i]? =
        some ⟨[], found ++ (takeAll sites s.buffer).1⟩ := by
  induction sites generalizing s found with
  | nil => exact ⟨rfl, by simpa [takeAll] using hi⟩
  | cons site sites ih =>
    have hlt : i < s.drains.length := (List.getElem?_eq_some_iff.mp hi).1
    have hremove : s.step (.remove i) = { s with
        buffer := (s.buffer.take site).2
        drains := s.drains.set i ⟨sites, found ++ s.buffer.sharedOf site⟩
        removed := s.removed ++ [s.buffer.sharedOf site] } := by
      simp [step, remove, hi, Buffer.take]
    have hnext := ih (found ++ s.buffer.sharedOf site) (s.step (.remove i)) (by
      rw [hremove]
      exact List.getElem?_set_self hlt)
    rw [List.length_cons, List.replicate_succ, run_cons]
    refine ⟨?_, ?_⟩
    · rw [hnext.1, hremove]
      rfl
    · rw [hnext.2, hremove, List.append_assoc]
      rfl

/-- **A drain of a buffer** notes the sites of the shared place and has its turns. -/
theorem run_drain (s : System) :
    let last := s.run (.drain s.buffer.sites ::
      List.replicate s.buffer.sites.length (.remove s.drains.length))
    last.buffer = s.buffer.drain.2 ∧
      last.drains[s.drains.length]? = some ⟨[], s.buffer.drain.1⟩ :=
  run_removes s.drains.length s.buffer.sites [] (s.step (.drain s.buffer.sites)) (by simp [step])

/-- To persist the hits of a buffer drains it, whatever the store answers. -/
theorem persist_buffer {σ ε : Type} (store : List Hit → σ → Except ε Nat × σ) (b : Buffer) (x : σ) :
    (b.persist store x).2.1 = b.drain.2 := by
  unfold persist
  dsimp only
  split <;> rfl

end System

end Buffer

end HitCounter
