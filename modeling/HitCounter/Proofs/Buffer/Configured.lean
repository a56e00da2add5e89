import HitCounter.Buffer.Clock
import HitCounter.Proofs.Buffer.Conservation
import HitCounter.Proofs.Config.Reading

/-!
# The buffer that a configuration starts

- **Hits across a shutdown** (`Timeline.shared_handOver`): of the hits handed over to a buffer that
  has just started, as many as the queue holds are shared once it is shut down, whenever that is;
  without an interval none is.
- **Configurations** (`Timeline.configured_works_iff`): the reading of an environment bounds the
  capacity of the queue and the interval by their size in bits only. A buffer starts and works
  exactly if the two numbers are in the narrower range that the queue and the clock ask for.
-/

namespace HitCounter

namespace Buffer

variable {b : Buffer}

theorem settle_of_ended (h : b.running = false) : b.settle = b :=
  System.receiveMany_ended _ h

theorem settle_of_queue_nil (h : b.queue = []) : b.settle = b := by
  rw [settle, h]
  rfl

/-- A running task takes all hits into its hands. -/
theorem settle_of_hits (hits : List Hit) (hr : b.running = true)
    (hq : b.queue = hits.map .hit) :
    b.settle = { b with queue := [], held := b.held ++ hits } := by
  induction hits generalizing b with
  | nil =>
    rw [settle_of_queue_nil hq, List.append_nil]
    cases b
    cases hq
    rfl
  | cons h hits ih =>
    have hreceive : b.receive = { b with queue := hits.map .hit, held := b.held ++ [h] } := by
      simp [receive, hr, hq]
    have hnext := ih (b := b.receive) (by rw [hreceive]; exact hr) (by rw [hreceive])
    have hlength : b.queue.length = b.receive.queue.length + 1 := by simp [hq, hreceive]
    have hstep : b.settle = b.receive.settle := by
      rw [settle, hlength]
      rfl
    rw [hstep, hnext, hreceive]
    simp

/-- Hits handed over at once fill the queue up to its capacity; the others are lost. -/
theorem foldl_append (hits : List Hit) (hr : b.running = true)
    (hbounded : b.queue.length ≤ b.capacity) :
    hits.foldl (fun b h => b.append h) b = { b with
      queue := b.queue ++ (hits.take (b.capacity - b.queue.length)).map .hit } := by
  induction hits generalizing b with
  | nil => simp
  | cons h hits ih =>
    rw [List.foldl_cons]
    by_cases hroom : b.queue.length < b.capacity
    · have happend : b.append h = { b with queue := b.queue ++ [.hit h] } := by
        simp [append, send, hasRoom, hr, hroom]
      have hnext := ih (b := { b with queue := b.queue ++ [.hit h] }) hr
        (by simpa using Nat.succ_le_of_lt hroom)
      obtain ⟨n, hn⟩ : ∃ n, b.capacity - b.queue.length = n + 1 :=
        Nat.exists_eq_add_one.mpr (Nat.sub_pos_of_lt hroom)
      have hn' : b.capacity - (b.queue.length + 1) = n := by omega
      rw [happend, hnext]
      simp [hn, hn']
    · have happend : b.append h = b := by simp [append, send, hasRoom, hroom]
      rw [happend, ih hr hbounded, show b.capacity - b.queue.length = 0 by omega]
      simp

/-- The task takes the hits that the queue holds. -/
theorem settle_foldl_append (hits : List Hit) (hr : b.running = true) (hq : b.queue = []) :
    (hits.foldl (fun b h => b.append h) b).settle =
      { b with held := b.held ++ hits.take b.capacity } := by
  have hfull := settle_of_hits (b := { b with queue := (hits.take b.capacity).map .hit })
    (hits.take b.capacity) hr rfl
  rw [foldl_append hits hr (by simp [hq])]
  simpa [hq] using hfull

/-- Nothing is handed over to a task that has ended. -/
theorem foldl_append_of_ended (hits : List Hit) (hr : b.running = false) :
    hits.foldl (fun b h => b.append h) b = b := by
  induction hits with
  | nil => rfl
  | cons h hits ih =>
    have happend : b.append h = b := by simp [append, send, hasRoom, hr]
    rw [List.foldl_cons, happend, ih]

/-- A shutdown, with nothing in the queue, shares what the task has in its hands. -/
theorem shutdown_of_queue_nil (hr : b.running = true) (hq : b.queue = []) (hc : 0 < b.capacity) :
    b.shutdown.shared = b.shared ++ b.held := by
  have hsend : b.send .shutdown = { b with queue := [.shutdown] } := by
    simp [send, hasRoom, hr, hq, hc]
  rw [shutdown, settle_of_queue_nil hq, hsend]
  simp [settle, receiveMany, receive, flush, hr]

theorem shutdown_of_ended (hr : b.running = false) : b.shutdown = b := by
  have hsend : b.send .shutdown = b := by simp [send, hasRoom, hr]
  rw [shutdown, settle_of_ended hr, hsend, settle_of_ended hr]

end Buffer

namespace Timeline

variable {t : Timeline} {capacity interval : Nat}

/-! ## Time passes -/

/-- No persisting task runs, and the queue is empty. -/
structure Idle (t : Timeline) : Prop where
  tasks : t.tasks = []
  queue : t.buffer.queue = []

theorem persistTurns_of_no_tasks (chosen : PersistTask → Bool) (h : t.tasks = []) :
    t.persistTurns chosen = t := by
  cases t
  cases h
  simp [persistTurns]

/-- Each millisecond may have the turn of the flush, and nothing else happens to an idle buffer. -/
theorem Idle.tick (h : t.Idle) :
    t.tick.Idle ∧ (t.tick.buffer = t.buffer ∨
      t.buffer.running = true ∧ t.tick.buffer = t.buffer.flush) := by
  have htick : t.tick = ({ t with now := t.now + 1 } : Timeline).flushTurn := by
    have hlater : ({ t with now := t.now + 1 } : Timeline).Idle := ⟨h.tasks, h.queue⟩
    have hflush : ({ t with now := t.now + 1 } : Timeline).flushTurn.Idle := by
      unfold flushTurn
      split <;> exact ⟨h.tasks, h.queue⟩
    rw [Timeline.tick, persistTurns_of_no_tasks _ hlater.tasks,
      persistTurns_of_no_tasks _ hflush.tasks, settle, Buffer.settle_of_queue_nil hflush.queue]
  rw [htick, flushTurn]
  split
  · rename_i hturn
    exact ⟨⟨h.tasks, h.queue⟩, .inr ⟨hturn.1, rfl⟩⟩
  · exact ⟨⟨h.tasks, h.queue⟩, .inl rfl⟩

/-- Time does not change whether the task of an idle buffer runs and which hits it and the shared
place have together. -/
theorem Idle.advance (h : t.Idle) (n : Nat) :
    (t.advance n).Idle ∧ (t.advance n).buffer.capacity = t.buffer.capacity ∧
      (t.advance n).buffer.running = t.buffer.running ∧
      (t.advance n).buffer.shared ++ (t.advance n).buffer.held =
        t.buffer.shared ++ t.buffer.held ∧
      (t.buffer.running = false → (t.advance n).buffer = t.buffer) := by
  induction n generalizing t with
  | zero => exact ⟨h, rfl, rfl, rfl, fun _ => rfl⟩
  | succ n ih =>
    obtain ⟨hidle, hbuffer⟩ := h.tick
    obtain ⟨hlast, hcapacity, hrunning, hhits, hsame⟩ := ih hidle
    rw [Timeline.advance]
    rcases hbuffer with heq | ⟨hr, heq⟩
    · rw [heq] at hcapacity hrunning hhits hsame
      exact ⟨hlast, hcapacity, hrunning, hhits, hsame⟩
    · rw [heq] at hcapacity hrunning hhits
      refine ⟨hlast, hcapacity, hrunning, ?_, fun hended => ?_⟩
      · rw [hhits]
        simp [Buffer.flush]
      · simp [hr] at hended

/-! ## The start -/

/-- A buffer that has just started. -/
def started (capacity interval : Nat) : Timeline :=
  { buffer := { capacity, running := !decide (interval = 0) }, interval }

theorem idle_started (capacity interval : Nat) : (started capacity interval).Idle := ⟨rfl, rfl⟩

theorem started_running : (started capacity interval).buffer.running = true ↔ 0 < interval := by
  simp [started, Nat.pos_iff_ne_zero]

/-- A queue is made only for a capacity in its range. -/
theorem start?_eq_none_iff :
    start? capacity interval = none ↔ capacity = 0 ∨ greatestCapacity < capacity := by
  unfold start?
  split <;> simp_all

theorem start?_eq_some_iff :
    start? capacity interval = some t ↔
      (0 < capacity ∧ capacity ≤ greatestCapacity) ∧ t = started capacity interval := by
  unfold start?
  split
  · simp
    omega
  · have hrange : 0 < capacity ∧ capacity ≤ greatestCapacity := by omega
    simp only [hrange, and_self, true_and, Option.some.injEq, started]
    by_cases hi : interval = 0 <;> simp [hi, Buffer.die, eq_comm]

/-- Some hits are handed over at once, and after some time the buffer is shut down. -/
def handOver (hits : List Hit) (milliseconds : Nat) (t : Timeline) : Timeline :=
  ((t.append hits).advance milliseconds).shutdown

/-- **Hits across a shutdown.** Of the hits handed over at once to a buffer that has just started,
as many as the queue holds are shared once it is shut down, whenever that is. Without an interval
the task has ended, and none is shared. -/
theorem shared_handOver (hstart : start? capacity interval = some t) (hits : List Hit) (n : Nat) :
    (t.handOver hits n).buffer.shared = if interval = 0 then [] else hits.take capacity := by
  obtain ⟨⟨hpos, -⟩, rfl⟩ := start?_eq_some_iff.mp hstart
  by_cases hi : interval = 0
  · have hended : (started capacity interval).buffer.running = false := by simp [started, hi]
    have happend : (started capacity interval).append hits = started capacity interval := by
      rw [append, Buffer.foldl_append_of_ended _ hended, Buffer.settle_of_ended hended]
    obtain ⟨-, -, -, -, hsame⟩ := (idle_started capacity interval).advance n
    rw [handOver, happend, shutdown, hsame hended, Buffer.shutdown_of_ended hended, if_pos hi]
    rfl
  · have hrunning : (started capacity interval).buffer.running = true := by simp [started, hi]
    have happend : (started capacity interval).append hits =
        { buffer := { capacity, held := hits.take capacity }, interval } := by
      rw [append, Buffer.settle_foldl_append hits hrunning rfl]
      simp [started, hi]
    have hidle : Idle { buffer := { capacity, held := hits.take capacity }, interval } := ⟨rfl, rfl⟩
    obtain ⟨hlast, hcapacity, hlater, hhits, -⟩ := hidle.advance n
    rw [handOver, happend, shutdown,
      Buffer.shutdown_of_queue_nil hlater hlast.queue (hcapacity ▸ hpos), hhits, if_neg hi]
    rfl

/-! ## Configurations -/

/-- A buffer starts, its task goes on, and one hit handed over at the start is shared once the
buffer is shut down. -/
def Works (capacity interval : Nat) : Prop :=
  ∃ t, start? capacity interval = some t ∧ (∀ n, (t.advance n).buffer.running = true) ∧
    ∀ h n, (t.handOver [h] n).buffer.shared = [h]

theorem works_iff :
    Works capacity interval ↔
      0 < capacity ∧ capacity ≤ greatestCapacity ∧ 0 < interval := by
  constructor
  · rintro ⟨t, hstart, hrunning, -⟩
    obtain ⟨⟨hpos, hle⟩, rfl⟩ := start?_eq_some_iff.mp hstart
    exact ⟨hpos, hle, started_running.mp (hrunning 0)⟩
  · rintro ⟨hpos, hle, hi⟩
    have hstart : start? capacity interval = some (started capacity interval) :=
      start?_eq_some_iff.mpr ⟨⟨hpos, hle⟩, rfl⟩
    refine ⟨_, hstart, fun n => ?_, fun h n => ?_⟩
    · obtain ⟨-, -, hlater, -⟩ := (idle_started capacity interval).advance n
      rw [hlater]
      exact started_running.mpr hi
    · rw [shared_handOver hstart, if_neg (Nat.ne_of_gt hi),
        List.take_of_length_le (Nat.succ_le_of_lt hpos)]

/-- **Configurations.** The capacity and the interval of an accepted environment are the numbers
that its two variables give, which only have to fit in 64 bits. There is no queue for a capacity
outside its range. With a queue the task goes on exactly if there is an interval, and otherwise it
loses every hit. So a buffer works exactly if both numbers are in their ranges. -/
theorem configured_works_iff {env : Environment} {c : Config}
    (accepted : Config.ofEnvironment env = .ok c) :
    (NumericVariable.bufferSize.Gives env c.bufferSize ∧ c.bufferSize < Nat.pow 2 64) ∧
    (NumericVariable.flushInterval.Gives env c.flushInterval ∧ c.flushInterval < Nat.pow 2 64) ∧
    (start? c.bufferSize c.flushInterval = none ↔
      c.bufferSize = 0 ∨ greatestCapacity < c.bufferSize) ∧
    (∀ t, start? c.bufferSize c.flushInterval = some t →
      (t.buffer.running = true ↔ 0 < c.flushInterval) ∧ ∀ hits n,
        (t.handOver hits n).buffer.shared =
          if c.flushInterval = 0 then [] else hits.take c.bufferSize) ∧
    (Works c.bufferSize c.flushInterval ↔
      0 < c.bufferSize ∧ c.bufferSize ≤ greatestCapacity ∧ 0 < c.flushInterval) := by
  obtain ⟨-, hgives⟩ := Config.ofEnvironment_eq_ok_iff.mp accepted
  have hsize : NumericVariable.bufferSize.Gives env c.bufferSize := hgives .bufferSize
  have hinterval : NumericVariable.flushInterval.Gives env c.flushInterval :=
    hgives .flushInterval
  refine ⟨⟨hsize, hsize.lt⟩, ⟨hinterval, hinterval.lt⟩, start?_eq_none_iff, fun t hstart => ?_,
    works_iff⟩
  obtain ⟨-, rfl⟩ := start?_eq_some_iff.mp hstart
  exact ⟨started_running, shared_handOver hstart⟩

/-- The greatest queue and the shortest interval, in spellings that are accepted. -/
def greatestQueue : Environment :=
  [("MEMSTORE_BUFFER_SIZE", Text.encode " 2305843009213693951\t".toList),
    ("MEMSTORE_FLUSH_INTERVAL_MS", Text.encode "+1".toList)]

theorem configured_works_greatestQueue :
    Config.ofEnvironment greatestQueue =
        .ok { bufferSize := 2305843009213693951, flushInterval := 1 } ∧
      Works 2305843009213693951 1 := by
  have accepted : Config.ofEnvironment greatestQueue =
      .ok { bufferSize := 2305843009213693951, flushInterval := 1 } := by decide +kernel
  obtain ⟨-, -, -, -, hworks⟩ := configured_works_iff accepted
  exact ⟨accepted, hworks.mpr (by decide)⟩

/-- A queue without room and a greatest one with one more place are accepted, but not made; an
interval of nothing is accepted, and the hit that is handed over is not shared by the shutdown. -/
theorem configured_unworkable :
    (Config.ofEnvironment [("MEMSTORE_BUFFER_SIZE", Text.encode ['0'])] =
        .ok { bufferSize := 0 } ∧
      start? 0 100 = none) ∧
    (Config.ofEnvironment
        [("MEMSTORE_BUFFER_SIZE", Text.encode "2305843009213693952".toList)] =
        .ok { bufferSize := 2305843009213693952 } ∧
      start? 2305843009213693952 100 = none) ∧
    Config.ofEnvironment [("MEMSTORE_FLUSH_INTERVAL_MS", Text.encode ['0'])] =
        .ok { flushInterval := 0 } ∧
      ((start? 100000 0).map fun t =>
        (t.handOver [Buffer.System.hitAt "/a"] 0).buffer.shared) = some [] := by
  refine ⟨⟨?_, ?_⟩, ⟨?_, ?_⟩, ?_, ?_⟩ <;> decide +kernel

end Timeline

end HitCounter
