import HitCounter.Buffer.Basic

/-!
# The buffer in time

A buffer beside a clock that ticks in milliseconds. At multiples of the flush interval the task
hands over its hits. Any number of persisting tasks may run beside it: each stores the shared hits
at once when it is started and then in regular intervals, and ends at its first turn after the queue
is closed.
-/

namespace HitCounter

/-- A task that stores hits in regular intervals, in milliseconds. -/
structure PersistTask where
  interval : Nat
  /-- When its next turn comes. -/
  next : Nat
  finished : Bool := false
deriving DecidableEq, Repr

namespace PersistTask

/-- The task has not ended, and its turn has come. -/
def isDue (now : Nat) (task : PersistTask) : Bool := !task.finished && task.next ≤ now

/-- The task after its turn: it waits for the next one, or has ended if the queue is closed. -/
def afterTurn (queueOpen : Bool) (task : PersistTask) : PersistTask :=
  if queueOpen then { task with next := task.next + task.interval }
  else { task with finished := true }

end PersistTask

/-- A store that only takes batches, or refuses them. -/
structure BatchStore where
  refusing : Bool := false
  /-- The batches taken, the latest first. -/
  batches : List (List Hit) := []
deriving DecidableEq

/-- A batch for the store. -/
def BatchStore.persist (batch : List Hit) (s : BatchStore) : Except String Nat × BatchStore :=
  if s.refusing then (.error "storage unavailable", s)
  else (.ok batch.length, { s with batches := batch :: s.batches })

/-- A buffer, its store and its tasks at one moment. -/
structure Timeline where
  buffer : Buffer
  /-- The flush interval, which is positive while the task runs. -/
  interval : Nat
  now : Nat := 0
  store : BatchStore := {}
  /-- The persisting tasks, the latest first. -/
  tasks : List PersistTask := []
deriving DecidableEq

namespace Timeline

/-- The greatest capacity of a queue. -/
def greatestCapacity : Nat := 0x1FFFFFFFFFFFFFFF

/-- The start, with the capacity of the queue and the flush interval. There is no queue without room
for a message or with more than can be counted, and without an interval the task ends at once. -/
def start? (capacity interval : Nat) : Option Timeline :=
  if capacity = 0 ∨ greatestCapacity < capacity then none
  else
    let buffer : Buffer := { capacity }
    some { buffer := if interval = 0 then buffer.die else buffer, interval }

/-- The capacity and the interval that are used when none are given. -/
def usual : Nat × Nat := (100000, 100)

/-- The shared hits go to the store. -/
def persist (t : Timeline) : Except String Nat × Timeline :=
  let (result, buffer, store) := t.buffer.persist BatchStore.persist t.store
  (result, { t with buffer, store })

/-- The task takes all messages. -/
def settle (t : Timeline) : Timeline := { t with buffer := t.buffer.settle }

/-- The turn of the flush interval, if it is due. -/
def flushTurn (t : Timeline) : Timeline :=
  if t.buffer.running ∧ t.now % t.interval = 0 then { t with buffer := t.buffer.flush } else t

/-- The turns of those persisting tasks that are chosen and due. -/
def persistTurns (chosen : PersistTask → Bool) (t : Timeline) : Timeline :=
  let isDue (task : PersistTask) : Bool := chosen task && task.isDue t.now
  let queueOpen := t.buffer.running
  let after := if queueOpen then (t.tasks.filter isDue).foldl (fun t _ => t.persist.2) t else t
  { after with
    tasks := t.tasks.map fun task => if isDue task then task.afterTurn queueOpen else task }

/-- The task has waited longer for its turn than the task of the flush interval, so that it comes
first when both are due at one moment. -/
def persistsFirst (t : Timeline) (task : PersistTask) : Bool := t.interval < task.interval

/-- One millisecond passes. -/
def tick (t : Timeline) : Timeline :=
  let t := { t with now := t.now + 1 }
  let flushed := (t.persistTurns t.persistsFirst).flushTurn
  (flushed.persistTurns fun task => !t.persistsFirst task).settle

/-- Some milliseconds pass. -/
def advance : Nat → Timeline → Timeline
  | 0, t => t
  | n + 1, t => advance n t.tick

/-- Hits are handed over at one moment, before the task takes any of them. -/
def append (hits : List Hit) (t : Timeline) : Timeline :=
  { t with buffer := (hits.foldl (fun b h => b.append h) t.buffer).settle }

/-- All shared hits leave the buffer. -/
def drain (t : Timeline) : List Hit × Timeline :=
  let (hits, buffer) := t.buffer.drain
  (hits, { t with buffer })

/-- The buffer is shut down. -/
def shutdown (t : Timeline) : Timeline := { t with buffer := t.buffer.shutdown }

/-- The store refuses batches from now on, or takes them. -/
def refuse (refusing : Bool) (t : Timeline) : Timeline :=
  { t with store := { t.store with refusing } }

/-- A persisting task starts and has its first turn. Without an interval it ends at once. -/
def startTask (seconds : Nat) (t : Timeline) : Timeline :=
  let task : PersistTask := ⟨seconds * 1000, t.now, seconds = 0⟩
  ({ t with tasks := task :: t.tasks } : Timeline).persistTurns fun _ => true

/-- Whether the task that was started last has ended, if any was. -/
def latestFinished? (t : Timeline) : Option Bool := t.tasks.head?.map (·.finished)

/-- The batches that the store has taken since they were last noted. -/
def noteBatches (t : Timeline) : List (List Hit) × Timeline :=
  (t.store.batches.reverse, { t with store := { t.store with batches := [] } })

end Timeline

end HitCounter
