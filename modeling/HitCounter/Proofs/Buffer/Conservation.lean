import HitCounter.Proofs.Buffer.Steps
import Mathlib.Data.List.TakeWhile

/-!
# Hits are conserved on their way through the buffer

- **Accounts** (`System.Inv`): site by site, the hits that have entered the queue are those removed,
  then those in the shared place, then those in the hands of the task, then those in the queue.
  Every step keeps that, in any order of the steps.
- **The way of a hit** (`System.run_conserves`): a hit ahead of a shutdown reaches the shared place,
  and a hit is refused only by a full queue or by a task that has ended.
-/

namespace HitCounter

namespace Buffer

/-- The hits of one site among some messages, in their order. -/
def hitsOf (site : Int) (messages : List Message) : List Hit :=
  (messages.filterMap Message.hit?).filter (·.site == site)

variable {site : Int}

@[simp] theorem hitsOf_nil : hitsOf site [] = [] := rfl

@[simp] theorem hitsOf_append (ms more : List Message) :
    hitsOf site (ms ++ more) = hitsOf site ms ++ hitsOf site more := by
  simp [hitsOf]

@[simp] theorem hitsOf_shutdown (ms : List Message) :
    hitsOf site (.shutdown :: ms) = hitsOf site ms := rfl

@[simp] theorem hitsOf_hit (h : Hit) (ms : List Message) :
    hitsOf site (.hit h :: ms) = [h].filter (·.site == site) ++ hitsOf site ms := by
  rw [show (Message.hit h :: ms) = [.hit h] ++ ms from rfl, hitsOf_append]
  rfl

/-- The messages ahead of the first shutdown. -/
def ahead (messages : List Message) : List Message := messages.takeWhile (· ≠ .shutdown)

theorem ahead_of_notMem {ms : List Message} (h : .shutdown ∉ ms) : ahead ms = ms := by
  refine List.takeWhile_eq_self_iff.mpr fun m hm => ?_
  rw [decide_eq_true_eq]
  rintro rfl
  exact h hm

theorem ahead_append_shutdown {ms : List Message} (h : .shutdown ∉ ms) (more : List Message) :
    ahead (ms ++ .shutdown :: more) = ms := by
  unfold ahead
  rw [List.takeWhile_append_of_pos, List.takeWhile_cons_of_neg (by simp), List.append_nil]
  intro m hm
  rw [decide_eq_true_eq]
  rintro rfl
  exact h hm

/-- What is taken of one site and what stays of another make up what was there. -/
theorem take_splits (b : Buffer) (taken site : Int) :
    (b.sharedOf taken).filter (·.site == site) ++ (b.take taken).2.sharedOf site =
      b.sharedOf site := by
  simp only [sharedOf, take, List.filter_filter]
  by_cases heq : site = taken
  · subst heq
    have hrest : b.shared.filter (fun h => (h.site == site) && (h.site != site)) = [] := by
      simp [List.filter_eq_nil_iff]
    rw [hrest, List.append_nil]
    simp
  · have hnone : b.shared.filter (fun h => (h.site == site) && (h.site == taken)) = [] := by
      rw [List.filter_eq_nil_iff]
      intro h _ hboth
      simp only [Bool.and_eq_true, beq_iff_eq] at hboth
      exact heq (hboth.1.symm.trans hboth.2)
    rw [hnone, List.nil_append]
    apply List.filter_congr
    intro h _
    by_cases hs : h.site = site
    · simp [hs, heq]
    · simp [hs]

namespace System

/-- The hits of one site that have been removed, in the order of their removal. -/
def removedOf (site : Int) (s : System) : List Hit := s.removed.flatten.filter (·.site == site)

/-- The hits of one site in the hands of the task. -/
def heldOf (site : Int) (s : System) : List Hit := s.buffer.held.filter (·.site == site)

/-- The hits that steps hand over and that are not refused. -/
def accepted : System → List Step → List Hit
  | _, [] => []
  | s, .append h :: steps =>
    (if s.buffer.hasRoom then [h] else []) ++ accepted (s.step (.append h)) steps
  | s, t :: steps => accepted (s.step t) steps

/-- What every run keeps. A task that is not `closing` has taken hits alone, one that is has taken
one shutdown after them, and one that has ended holds nothing. -/
structure Inv (capacity : Nat) (s : System) : Prop where
  capacity_eq : s.buffer.capacity = capacity
  bounded : s.buffer.queue.length ≤ capacity
  receiving : s.phase ≠ .closing → ∃ taken, s.sent = taken ++ s.buffer.queue ∧ .shutdown ∉ taken
  closing : s.phase = .closing →
    ∃ taken, s.sent = taken ++ .shutdown :: s.buffer.queue ∧ .shutdown ∉ taken
  ended : s.buffer.running = false → s.phase = .closing ∧ s.buffer.held = []
  account : ∀ site, hitsOf site s.sent =
    s.removedOf site ++ s.buffer.sharedOf site ++ s.heldOf site ++ hitsOf site s.buffer.queue

theorem inv_start (capacity : Nat) : (start capacity).Inv capacity where
  capacity_eq := rfl
  bounded := Nat.zero_le _
  receiving := fun _ => ⟨[], rfl, List.not_mem_nil⟩
  closing := fun h => by cases h
  ended := fun h => by cases h
  account := fun _ => rfl

/-! ## Every step keeps the accounts -/

variable {capacity : Nat} {s : System}

theorem Inv.send (hs : s.Inv capacity) (m : Message) : (s.send m).Inv capacity := by
  unfold System.send
  split
  · rename_i hroom
    have hlt : s.buffer.queue.length < capacity := by
      simp only [hasRoom, Bool.and_eq_true, decide_eq_true_eq] at hroom
      exact hs.capacity_eq ▸ hroom.2
    simp only [Buffer.send, hroom, if_true]
    refine ⟨hs.capacity_eq, ?_, fun h => ?_, fun h => ?_, hs.ended, fun site => ?_⟩
    · rw [List.length_append, List.length_singleton]
      exact hlt
    · obtain ⟨taken, heq, hnot⟩ := hs.receiving h
      exact ⟨taken, by simp [heq], hnot⟩
    · obtain ⟨taken, heq, hnot⟩ := hs.closing h
      exact ⟨taken, by simp [heq], hnot⟩
    · rw [hitsOf_append, hs.account site, hitsOf_append, ← List.append_assoc]
      rfl
  · exact hs

theorem Inv.receive (hs : s.Inv capacity) : s.receive.Inv capacity := by
  rcases receive_cases s with heq | ⟨hr, hp, ⟨h, queue, hq, heq⟩ | ⟨queue, hq, heq⟩⟩
  · rw [heq]
    exact hs
  · obtain ⟨taken, hsent, hnot⟩ := hs.receiving (by simp [hp])
    have hbounded := hs.bounded
    rw [heq]
    rw [hq] at hsent hbounded
    refine ⟨hs.capacity_eq, by simp at hbounded ⊢; omega, fun _ => ?_, fun hc => ?_, fun he => ?_,
      fun site => ?_⟩
    · exact ⟨taken ++ [.hit h], by simp [hsent], by simp [hnot]⟩
    · simp [hp] at hc
    · simp [hr] at he
    · -- The hit leaves the head of the queue for the end of what is held.
      have haccount := hs.account site
      rw [hq, hitsOf_hit] at haccount
      simp only [heldOf, List.filter_append, ← List.append_assoc] at haccount ⊢
      exact haccount
  · obtain ⟨taken, hsent, hnot⟩ := hs.receiving (by simp [hp])
    have hbounded := hs.bounded
    rw [heq]
    rw [hq] at hsent hbounded
    refine ⟨hs.capacity_eq, by simp at hbounded ⊢; omega, fun hc => ?_, fun _ => ?_, fun he => ?_,
      fun site => ?_⟩
    · simp at hc
    · exact ⟨taken, hsent, hnot⟩
    · simp [hr] at he
    · have haccount := hs.account site
      rw [hq, hitsOf_shutdown] at haccount
      exact haccount

theorem Inv.flush (hs : s.Inv capacity) : s.flush.Inv capacity := by
  unfold System.flush
  split
  · rename_i h
    refine ⟨hs.capacity_eq, hs.bounded, fun _ => hs.receiving (by simp [h.2]), fun hc => ?_,
      fun he => ?_, hs.account⟩
    · cases hc
    · simp [h.1] at he
  · exact hs

theorem Inv.push (hs : s.Inv capacity) : s.push.Inv capacity := by
  rcases push_cases s with heq | ⟨-, h, held, hheld, heq⟩ | ⟨hp, hheld, heq⟩ | ⟨hp, hheld, heq⟩
  · rw [heq]
    exact hs
  · rw [heq]
    refine ⟨hs.capacity_eq, hs.bounded, hs.receiving, hs.closing, fun he => ?_, fun site => ?_⟩
    · simp [(hs.ended he).2] at hheld
    · -- The hit leaves the head of what is held for the end of the shared place.
      have haccount := hs.account site
      rw [heldOf, hheld, show h :: held = [h] ++ held from rfl, List.filter_append] at haccount
      simp only [removedOf, sharedOf, heldOf, List.filter_append, ← List.append_assoc]
        at haccount ⊢
      exact haccount
  · rw [heq]
    refine ⟨hs.capacity_eq, hs.bounded, fun _ => hs.receiving (by simp [hp]), fun hc => ?_,
      fun he => ?_, hs.account⟩
    · cases hc
    · have := (hs.ended he).1
      simp [hp] at this
  · rw [heq]
    exact ⟨hs.capacity_eq, hs.bounded, hs.receiving, hs.closing, fun _ => ⟨hp, hheld⟩, hs.account⟩

theorem Inv.remove (hs : s.Inv capacity) (i : Nat) : (s.remove i).Inv capacity := by
  rcases remove_cases i s with heq | ⟨taken, left, hits, -, heq⟩
  · rw [heq]
    exact hs
  · rw [heq]
    refine ⟨hs.capacity_eq, hs.bounded, hs.receiving, hs.closing, hs.ended, fun site => ?_⟩
    have haccount := hs.account site
    rw [← take_splits s.buffer taken site] at haccount
    simp only [removedOf, List.flatten_append, List.flatten_cons, List.flatten_nil,
      List.append_nil, List.filter_append, ← List.append_assoc] at haccount ⊢
    exact haccount

/-- **One step**, of whatever party, keeps the accounts. -/
theorem Inv.step (hs : s.Inv capacity) (t : Step) : (s.step t).Inv capacity := by
  cases t with
  | append h => exact hs.send (.hit h)
  | shutdown => exact hs.send .shutdown
  | receive => exact hs.receive
  | flush => exact hs.flush
  | push => exact hs.push
  | drain sites =>
    exact ⟨hs.capacity_eq, hs.bounded, hs.receiving, hs.closing, hs.ended, hs.account⟩
  | remove i => exact hs.remove i

/-- Every run keeps the accounts. -/
theorem Inv.run (hs : s.Inv capacity) (steps : List Step) : (s.run steps).Inv capacity := by
  induction steps generalizing s with
  | nil => exact hs
  | cons t steps ih => exact ih (hs.step t)

/-! ## What the accounts say -/

/-- With a task that has taken a shutdown, the hits ahead of the first one have left the queue. -/
theorem Inv.ahead_of_closing (hs : s.Inv capacity) (hp : s.phase = .closing) (site : Int) :
    hitsOf site (ahead s.sent) =
      s.removedOf site ++ s.buffer.sharedOf site ++ s.heldOf site := by
  obtain ⟨taken, hsent, hnot⟩ := hs.closing hp
  have haccount := hs.account site
  rw [hsent, hitsOf_append, hitsOf_shutdown] at haccount
  rw [hsent, ahead_append_shutdown hnot]
  exact List.append_cancel_right haccount

/-- With empty hands and nothing to take, the hits ahead of the first shutdown have all come to the
shared place. -/
theorem Inv.ahead_of_quiet (hs : s.Inv capacity) (hheld : s.buffer.held = [])
    (hquiet : s.buffer.queue = [] ∨ s.phase = .closing) (site : Int) :
    hitsOf site (ahead s.sent) = s.removedOf site ++ s.buffer.sharedOf site := by
  have hnone : s.heldOf site = [] := by rw [heldOf, hheld, List.filter_nil]
  by_cases hp : s.phase = .closing
  · rw [hs.ahead_of_closing hp, hnone, List.append_nil]
  · have hq := hquiet.resolve_right hp
    obtain ⟨taken, hsent, hnot⟩ := hs.receiving hp
    have haccount := hs.account site
    rw [hq, List.append_nil] at hsent
    rw [hnone, hq, hitsOf_nil, List.append_nil, List.append_nil] at haccount
    rw [← haccount, ahead_of_notMem (hsent ▸ hnot)]

/-- A hit is refused only by a full queue or by a task that has ended. -/
theorem Inv.append_cases (hs : s.Inv capacity) (h : Hit) :
    ((s.step (.append h)).sent = s.sent ++ [.hit h] ∧
      (s.step (.append h)).buffer.queue = s.buffer.queue ++ [.hit h]) ∨
    (s.step (.append h) = s ∧
      (s.buffer.queue.length = capacity ∨ s.buffer.running = false)) := by
  by_cases hroom : s.buffer.hasRoom = true
  · left
    simp [System.step, System.send, Buffer.send, hroom]
  · right
    refine ⟨by simp [System.step, System.send, hroom], ?_⟩
    simp only [hasRoom, Bool.and_eq_true, decide_eq_true_eq, not_and] at hroom
    by_cases hr : s.buffer.running = true
    · have := hroom hr
      have hbounded := hs.bounded
      rw [hs.capacity_eq] at this
      exact .inl (by omega)
    · exact .inr (by simpa using hr)

/-- The record of what has entered the queue has the accepted hits. -/
theorem sent_run (steps : List Step) :
    (s.run steps).sent.filterMap Message.hit? =
      s.sent.filterMap Message.hit? ++ accepted s steps := by
  induction steps generalizing s with
  | nil => exact (List.append_nil _).symm
  | cons t steps ih =>
    rw [run_cons, ih]
    cases t with
    | append h =>
      by_cases hroom : s.buffer.hasRoom = true
      · simp [accepted, step, System.send, hroom, Message.hit?]
      · simp [accepted, step, System.send, hroom]
    | shutdown =>
      by_cases hroom : s.buffer.hasRoom = true
      · simp [accepted, step, System.send, hroom, Message.hit?]
      · simp [accepted, step, System.send, hroom]
    | receive =>
      rcases receive_cases s with heq | ⟨-, -, ⟨_, _, -, heq⟩ | ⟨_, -, heq⟩⟩ <;>
        simp [accepted, step, heq]
    | flush =>
      simp only [accepted, step, System.flush]
      split <;> rfl
    | push =>
      rcases push_cases s with heq | ⟨-, _, _, -, heq⟩ | ⟨-, -, heq⟩ | ⟨-, -, heq⟩ <;>
        simp [accepted, step, heq]
    | drain sites => rfl
    | remove i =>
      rcases remove_cases i s with heq | ⟨_, _, _, -, heq⟩ <;> simp [accepted, step, heq]

/-! ## The task comes to rest -/

/-- The steps of the task put nothing into the queue. -/
theorem sent_run_ofTask {steps : List Step} (h : ∀ t ∈ steps, t.OfTask) :
    (s.run steps).sent = s.sent := by
  induction steps generalizing s with
  | nil => rfl
  | cons t steps ih =>
    rw [run_cons, ih fun u hu => h u (List.mem_cons_of_mem t hu)]
    have ht : t.OfTask := h t List.mem_cons_self
    cases t with
    | receive =>
      rcases receive_cases s with heq | ⟨-, -, ⟨_, _, -, heq⟩ | ⟨_, -, heq⟩⟩ <;> simp [step, heq]
    | flush =>
      simp only [step, System.flush]
      split <;> rfl
    | push =>
      rcases push_cases s with heq | ⟨-, _, _, -, heq⟩ | ⟨-, -, heq⟩ | ⟨-, -, heq⟩ <;>
        simp [step, heq]
    | append h => cases ht
    | shutdown => cases ht
    | drain sites => cases ht
    | remove i => cases ht

theorem receive_length (b : Buffer) (hr : b.receive.running = true) :
    b.receive.queue.length = b.queue.length - 1 := by
  cases hb : b.running with
  | false => simp [Buffer.receive, hb] at hr
  | true =>
    cases hq : b.queue with
    | nil => simp [Buffer.receive, hb, hq]
    | cons m queue =>
      cases m with
      | hit h => simp [Buffer.receive, hb, hq]
      | shutdown => simp [Buffer.receive, hb, hq] at hr

theorem receiveMany_ended (n : Nat) {b : Buffer} (hb : b.running = false) :
    b.receiveMany n = b := by
  induction n with
  | zero => rfl
  | succ n ih =>
    have hreceive : b.receive = b := by simp [Buffer.receive, hb]
    rw [receiveMany, hreceive, ih]

/-- A task that still runs after it has taken some messages has taken as many as there were. -/
theorem receiveMany_length (n : Nat) (b : Buffer) (hr : (b.receiveMany n).running = true) :
    (b.receiveMany n).queue.length = b.queue.length - n := by
  induction n generalizing b with
  | zero => rfl
  | succ n ih =>
    have hnext : b.receive.running = true := by
      by_contra hne
      rw [Bool.not_eq_true] at hne
      rw [receiveMany, receiveMany_ended n hne] at hr
      simp [hne] at hr
    rw [receiveMany, ih b.receive hr, receive_length b hnext]
    omega

/-- A flush that is under way comes to its end. -/
theorem exists_run_atRest (s : System) :
    ∃ steps, (∀ t ∈ steps, t.OfTask) ∧ (s.run steps).AtRest := by
  by_cases hp : s.phase = .waiting
  · exact ⟨[], by simp, .inl hp⟩
  · refine ⟨List.replicate (s.buffer.held.length + 1) .push, ofTask_pushes _, ?_⟩
    rw [run_pushes hp]
    cases hphase : s.phase with
    | waiting => exact absurd hphase hp
    | flushing => simp [AtRest, flushed, hphase]
    | closing => simp [AtRest, flushed, hphase]

/-- **The task alone**, from whatever state, comes to hold nothing, with nothing left to take. -/
theorem Inv.exists_quiet (hs : s.Inv capacity) :
    ∃ more, (∀ t ∈ more, t.OfTask) ∧ (s.run more).buffer.held = [] ∧
      ((s.run more).buffer.queue = [] ∨ (s.run more).phase = .closing) := by
  obtain ⟨first, hfirst, hrest⟩ := exists_run_atRest s
  obtain ⟨second, hsecond, hsettled, hrest'⟩ := exists_run_settle hrest
  have hs' := hs.run (first ++ second)
  rw [← run_append] at hsettled hrest'
  have htask : ∀ t ∈ first ++ second, t.OfTask := List.forall_mem_append.mpr ⟨hfirst, hsecond⟩
  by_cases hr : (s.run (first ++ second)).buffer.running = true
  · have hp := hrest'.resolve_right (by simp [hr])
    refine ⟨first ++ second ++ .flush ::
      List.replicate ((s.run (first ++ second)).buffer.held.length + 1) .push, ?_, ?_⟩
    · exact List.forall_mem_append.mpr
        ⟨htask, List.forall_mem_cons.mpr ⟨trivial, ofTask_pushes _⟩⟩
    · rw [run_append, run_flush hr hp]
      refine ⟨rfl, .inl (List.length_eq_zero_iff.mp ?_)⟩
      rw [hsettled] at hr
      change (s.run (first ++ second)).buffer.queue.length = 0
      rw [hsettled, settle, receiveMany_length _ _ hr, Nat.sub_self]
  · rw [Bool.not_eq_true] at hr
    obtain ⟨hp, hheld⟩ := hs'.ended hr
    exact ⟨first ++ second, htask, hheld, .inr hp⟩

/-- **Conservation.** In every run and for every site, the accepted hits are those removed, then
those in the shared place, then those in the hands of the task, then those in the queue. When the
task has ended, the hits ahead of the first shutdown have all come to the shared place, and until
then the task can bring them there on its own. A hit is refused only by a full queue or by a task
that has ended. -/
theorem run_conserves (capacity : Nat) (steps : List Step) :
    let s := (start capacity).run steps
    (∀ site,
      (accepted (start capacity) steps).filter (·.site == site) =
        s.removedOf site ++ s.buffer.sharedOf site ++ s.heldOf site ++ hitsOf site s.buffer.queue) ∧
    s.sent.filterMap Message.hit? = accepted (start capacity) steps ∧
    (s.buffer.running = false → ∀ site,
      hitsOf site (ahead s.sent) = s.removedOf site ++ s.buffer.sharedOf site) ∧
    (∃ more, (∀ t ∈ more, t.OfTask) ∧ (s.run more).sent = s.sent ∧ ∀ site,
      hitsOf site (ahead s.sent) =
        (s.run more).removedOf site ++ (s.run more).buffer.sharedOf site) ∧
    s.buffer.queue.length ≤ capacity ∧
    ∀ h, ((s.step (.append h)).sent = s.sent ++ [.hit h] ∧
        (s.step (.append h)).buffer.queue = s.buffer.queue ++ [.hit h]) ∨
      (s.step (.append h) = s ∧
        (s.buffer.queue.length = capacity ∨ s.buffer.running = false)) := by
  intro s
  have hs : s.Inv capacity := (inv_start capacity).run steps
  have hsent : s.sent.filterMap Message.hit? = accepted (start capacity) steps :=
    (sent_run steps).trans (List.nil_append _)
  refine ⟨fun site => ?_, hsent, fun hend site => ?_, ?_, hs.bounded, hs.append_cases⟩
  · rw [← hsent]
    exact hs.account site
  · obtain ⟨hp, hheld⟩ := hs.ended hend
    exact hs.ahead_of_quiet hheld (.inr hp) site
  · obtain ⟨more, htask, hheld, hquiet⟩ := hs.exists_quiet
    have hsame : (s.run more).sent = s.sent := sent_run_ofTask htask
    refine ⟨more, htask, hsame, fun site => ?_⟩
    rw [← hsame]
    exact (hs.run more).ahead_of_quiet hheld hquiet site

/-! ### A drain while a flush is under way -/

/-- A hit of the first site. -/
def hitAt (path : String) : Hit :=
  { site := 1, remoteAddr := "192.0.2.1", userAgent := "test", createdAt := 0, path }

/-- Two hits are flushed. A drain notes their site when one of them is shared and empties it when
both are; then the task is shut down, and one more hit comes too late. -/
def drainedWhileFlushing : List Step :=
  [.append (hitAt "/a"), .append (hitAt "/b"), .receive, .receive, .flush, .push, .drain [1], .push,
    .remove 0, .push, .shutdown, .receive, .push, .append (hitAt "/late")]

/-- The drain has both hits, and the late one is refused. -/
theorem run_conserves_drainedWhileFlushing :
    let s := (start 2).run drainedWhileFlushing
    s.buffer.running = false ∧ accepted (start 2) drainedWhileFlushing = [hitAt "/a", hitAt "/b"] ∧
      s.removed = [[hitAt "/a", hitAt "/b"]] ∧
      hitsOf 1 (ahead s.sent) = s.removedOf 1 ++ s.buffer.sharedOf 1 := by
  intro s
  have hended : s.buffer.running = false := by decide
  have hreached := (run_conserves 2 drainedWhileFlushing).2.2.1 hended 1
  exact ⟨hended, by decide, by decide, hreached⟩

end System

end Buffer

end HitCounter
