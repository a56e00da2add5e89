import HitCounter.Proofs.Buffer.Conservation

/-!
# What a shutdown saves

A shutdown waits in the queue like a hit, and the queue takes hits behind it until the task has
ended.

- **The first shutdown** (`System.exists_first_shutdown`): a task that is closing has taken the
  shutdown that entered the queue first, and the hits that had entered before it.
- **Returned for good** (`System.Returned.run`): after its last flush the task brings nothing more
  to the shared place.
- **What is saved** (`System.shutdown_saves_iff`): the hits accepted before the first shutdown all
  come to the shared place. Those accepted behind it are lost, so a shutdown saves every hit exactly
  if there are none.
-/

namespace HitCounter

namespace Buffer.System

variable {capacity : Nat} {s : System}

/-- The task has made its last flush. With this it answers the shutdown, and then it closes the
queue. -/
def Returned (s : System) : Prop := s.phase = .closing ∧ s.buffer.held = []

instance (s : System) : Decidable s.Returned :=
  inferInstanceAs (Decidable (s.phase = .closing ∧ s.buffer.held = []))

/-- The hits of one site that have come to the shared place, first those that have left it. -/
def arrivedOf (site : Int) (s : System) : List Hit := s.removedOf site ++ s.buffer.sharedOf site

/-! ## The record of the queue -/

theorem sent_send (m : Message) (s : System) :
    (s.send m).sent = if s.buffer.hasRoom then s.sent ++ [m] else s.sent := by
  unfold System.send
  split <;> rfl

/-- Only an append and a shutdown put a message into the queue, each its own, if there is room. -/
theorem sent_step_cases (t : Step) (s : System) :
    (s.step t).sent = s.sent ∨ s.buffer.hasRoom = true ∧
      ((∃ h, t = .append h ∧ (s.step t).sent = s.sent ++ [.hit h]) ∨
        t = .shutdown ∧ (s.step t).sent = s.sent ++ [.shutdown]) := by
  by_cases htask : t.OfTask
  · have hsame : (s.run [t]).sent = s.sent := sent_run_ofTask (by simpa using htask)
    exact .inl hsame
  cases t with
  | append h =>
    by_cases hroom : s.buffer.hasRoom = true
    · exact .inr ⟨hroom, .inl ⟨h, rfl, by simp [step, sent_send, hroom]⟩⟩
    · exact .inl (by simp [step, sent_send, hroom])
  | shutdown =>
    by_cases hroom : s.buffer.hasRoom = true
    · exact .inr ⟨hroom, .inr ⟨rfl, by simp [step, sent_send, hroom]⟩⟩
    · exact .inl (by simp [step, sent_send, hroom])
  | receive => exact absurd trivial htask
  | flush => exact absurd trivial htask
  | push => exact absurd trivial htask
  | drain sites => exact .inl rfl
  | remove i =>
    rcases remove_cases i s with heq | ⟨_, _, _, -, heq⟩ <;> exact .inl (by simp [step, heq])

/-- A run puts messages behind those that were there, and its hits are the accepted ones. -/
theorem exists_sent_run (s : System) (steps : List Step) :
    ∃ more, (s.run steps).sent = s.sent ++ more ∧
      more.filterMap Message.hit? = accepted s steps := by
  obtain ⟨more, hmore⟩ : ∃ more, (s.run steps).sent = s.sent ++ more := by
    induction steps generalizing s with
    | nil => exact ⟨[], (List.append_nil _).symm⟩
    | cons t steps ih =>
      obtain ⟨more, hmore⟩ := ih (s.step t)
      rcases sent_step_cases t s with heq | ⟨-, ⟨h, -, heq⟩ | ⟨-, heq⟩⟩
      · exact ⟨more, by rw [run_cons, hmore, heq]⟩
      · exact ⟨.hit h :: more,
          by rw [run_cons, hmore, heq, List.append_assoc, List.singleton_append]⟩
      · exact ⟨.shutdown :: more,
          by rw [run_cons, hmore, heq, List.append_assoc, List.singleton_append]⟩
  have hhits := sent_run (s := s) steps
  rw [hmore, List.filterMap_append] at hhits
  exact ⟨more, hmore, List.append_cancel_left hhits⟩

theorem accepted_append (s : System) (steps more : List Step) :
    accepted s (steps ++ more) = accepted s steps ++ accepted (s.run steps) more := by
  have hhits := sent_run (s := s) (steps ++ more)
  rw [run_append, sent_run, sent_run, List.append_assoc] at hhits
  exact (List.append_cancel_left hhits).symm

/-- What the record has after a shutdown that has entered the queue. -/
theorem exists_sent_run_shutdown {first : List Step} (rest : List Step)
    (hroom : (s.run first).buffer.hasRoom = true) :
    ∃ behind, (s.run (first ++ .shutdown :: rest)).sent =
        (s.run first).sent ++ .shutdown :: behind ∧
      behind.filterMap Message.hit? = accepted (s.run (first ++ [.shutdown])) rest := by
  obtain ⟨behind, hsent, hhits⟩ := exists_sent_run (s.run (first ++ [.shutdown])) rest
  have henter : (s.run (first ++ [.shutdown])).sent = (s.run first).sent ++ [.shutdown] := by
    rw [run_append, run_cons, run_nil, System.step, sent_send, if_pos hroom]
  refine ⟨behind, ?_, hhits⟩
  rw [← run_append, henter] at hsent
  simpa using hsent

theorem accepted_shutdown (s : System) (first rest : List Step) :
    accepted s (first ++ .shutdown :: rest) =
      accepted s first ++ accepted (s.run (first ++ [.shutdown])) rest := by
  rw [accepted_append, run_append]
  rfl

/-- **The first shutdown** in the queue has come from a step of the run. -/
theorem exists_first_shutdown {steps : List Step} (hnot : .shutdown ∉ s.sent)
    (hmem : .shutdown ∈ (s.run steps).sent) :
    ∃ first rest, steps = first ++ .shutdown :: rest ∧ (s.run first).buffer.hasRoom = true ∧
      .shutdown ∉ (s.run first).sent := by
  induction steps generalizing s with
  | nil => exact absurd hmem hnot
  | cons t steps ih =>
    have later (hnext : .shutdown ∉ (s.step t).sent) :
        ∃ first rest, t :: steps = first ++ .shutdown :: rest ∧
          (s.run first).buffer.hasRoom = true ∧ .shutdown ∉ (s.run first).sent := by
      obtain ⟨first, rest, rfl, hroom, hfirst⟩ := ih hnext hmem
      exact ⟨t :: first, rest, rfl, hroom, hfirst⟩
    rcases sent_step_cases t s with heq | ⟨hroom, ⟨h, -, heq⟩ | ⟨rfl, -⟩⟩
    · exact later (heq ▸ hnot)
    · exact later (by simp [heq, hnot])
    · exact ⟨[], steps, rfl, hroom, hnot⟩

/-- A task that is closing has taken the messages ahead of the first shutdown. What has entered
behind it is in the queue. -/
theorem Inv.split_of_closing (hs : s.Inv capacity) (hp : s.phase = .closing)
    {before behind : List Message} (hnot : .shutdown ∉ before)
    (hsent : s.sent = before ++ .shutdown :: behind) :
    ahead s.sent = before ∧ s.buffer.queue = behind := by
  obtain ⟨taken, heq, htaken⟩ := hs.closing hp
  have hahead : ahead s.sent = before := by rw [hsent, ahead_append_shutdown hnot]
  have hbefore : taken = before := by rw [← hahead, heq, ahead_append_shutdown htaken]
  rw [hsent, hbefore] at heq
  exact ⟨hahead, (List.cons.inj (List.append_cancel_left heq)).2.symm⟩

/-! ## After the last flush -/

/-- No step of any party undoes a return or brings a hit to the shared place after it. -/
theorem Returned.step (hs : s.Returned) (t : Step) :
    (s.step t).Returned ∧ ∀ site, (s.step t).arrivedOf site = s.arrivedOf site := by
  obtain ⟨hp, hheld⟩ := hs
  have hsend (m : Message) :
      (s.send m).Returned ∧ ∀ site, (s.send m).arrivedOf site = s.arrivedOf site := by
    unfold System.send Buffer.send
    split <;> exact ⟨⟨hp, hheld⟩, fun _ => rfl⟩
  cases t with
  | append h => exact hsend (.hit h)
  | shutdown => exact hsend .shutdown
  | receive =>
    have hreceive : s.receive = s := by simp [System.receive, hp]
    rw [System.step, hreceive]
    exact ⟨⟨hp, hheld⟩, fun _ => rfl⟩
  | flush =>
    have hflush : s.flush = s := by simp [System.flush, hp]
    rw [System.step, hflush]
    exact ⟨⟨hp, hheld⟩, fun _ => rfl⟩
  | push =>
    have hpush : s.push = { s with buffer := { s.buffer with running := false } } := by
      simp [System.push, hp, hheld]
    rw [System.step, hpush]
    exact ⟨⟨hp, hheld⟩, fun _ => rfl⟩
  | drain sites => exact ⟨⟨hp, hheld⟩, fun _ => rfl⟩
  | remove i =>
    rcases remove_cases i s with heq | ⟨taken, left, hits, -, heq⟩
    · rw [System.step, heq]
      exact ⟨⟨hp, hheld⟩, fun _ => rfl⟩
    · rw [System.step, heq]
      refine ⟨⟨hp, hheld⟩, fun site => ?_⟩
      simp only [arrivedOf, removedOf, List.flatten_append, List.flatten_cons, List.flatten_nil,
        List.append_nil, List.filter_append, List.append_assoc, take_splits s.buffer taken site]

/-- **Returned for good.** After its last flush the task brings nothing more to the shared place,
whatever the parties do. -/
theorem Returned.run (hs : s.Returned) (steps : List Step) :
    (s.run steps).Returned ∧ ∀ site, (s.run steps).arrivedOf site = s.arrivedOf site := by
  induction steps generalizing s with
  | nil => exact ⟨hs, fun _ => rfl⟩
  | cons t steps ih =>
    obtain ⟨hnext, hsame⟩ := hs.step t
    obtain ⟨hlast, hrest⟩ := ih hnext
    exact ⟨hlast, fun site => (hrest site).trans (hsame site)⟩

/-! ## What is saved -/

/-- A list without elements of any site has none. -/
theorem eq_nil_of_filter_site {hits : List Hit}
    (h : ∀ site, hits.filter (·.site == site) = []) : hits = [] := by
  refine List.eq_nil_iff_forall_not_mem.mpr fun x hx => ?_
  have hfilter := List.filter_eq_nil_iff.mp (h x.site) x hx
  simp at hfilter

/-- **What is saved.** In every run in which a shutdown has returned, one of its steps has put the
first shutdown into the queue. The hits accepted before that step have all come to the shared place,
site by site in their order. Those accepted after it stand in the queue and never come there. So all
accepted hits have come to the shared place exactly if none was accepted after that step. -/
theorem shutdown_saves_iff (capacity : Nat) (steps : List Step)
    (returned : ((start capacity).run steps).Returned) :
    let s := (start capacity).run steps
    ∃ first rest, steps = first ++ .shutdown :: rest ∧
      ((start capacity).run first).buffer.hasRoom = true ∧
      .shutdown ∉ ((start capacity).run first).sent ∧
      let behind := accepted ((start capacity).run (first ++ [.shutdown])) rest
      (∀ site, s.arrivedOf site =
        (accepted (start capacity) first).filter (·.site == site)) ∧
      s.buffer.queue.filterMap Message.hit? = behind ∧
      (∀ more site, (s.run more).arrivedOf site = s.arrivedOf site) ∧
      ((∀ site, s.arrivedOf site =
          (accepted (start capacity) steps).filter (·.site == site)) ↔ behind = []) := by
  intro s
  have hs : s.Inv capacity := (inv_start capacity).run steps
  obtain ⟨hp, hheld⟩ := returned
  have hmem : .shutdown ∈ s.sent := by
    obtain ⟨taken, hsent, -⟩ := hs.closing hp
    rw [hsent]
    exact List.mem_append_right _ List.mem_cons_self
  obtain ⟨first, rest, rfl, hroom, hnot⟩ :=
    exists_first_shutdown (s := start capacity) List.not_mem_nil hmem
  obtain ⟨entered, hsent, hentered⟩ := exists_sent_run_shutdown rest hroom
  obtain ⟨hahead, hqueue⟩ := hs.split_of_closing hp hnot hsent
  have hfirst : ((start capacity).run first).sent.filterMap Message.hit? =
      accepted (start capacity) first :=
    (sent_run first).trans (List.nil_append _)
  have harrived (site : Int) :
      s.arrivedOf site = (accepted (start capacity) first).filter (·.site == site) := by
    rw [arrivedOf, ← hs.ahead_of_quiet hheld (.inr hp) site, hahead, hitsOf, hfirst]
  refine ⟨first, rest, rfl, hroom, hnot, harrived, by rw [hqueue, hentered],
    fun more site => (Returned.run ⟨hp, hheld⟩ more).2 site, ?_⟩
  simp only [harrived, accepted_shutdown, List.filter_append, List.self_eq_append_right]
  exact ⟨eq_nil_of_filter_site, fun h site => by rw [h, List.filter_nil]⟩

/-- One hit has been taken and another one waits when the shutdown enters the queue. A third one
comes when the task has ended. -/
def shutDownWhileWaiting : List Step :=
  [.append (hitAt "/a"), .receive, .append (hitAt "/b"), .shutdown, .receive, .receive, .push,
    .push, .push, .append (hitAt "/late")]

/-- The two hits that were accepted are shared. -/
theorem shutdown_saves_iff_shutDownWhileWaiting :
    let s := (start 3).run shutDownWhileWaiting
    s.Returned ∧ accepted (start 3) shutDownWhileWaiting = [hitAt "/a", hitAt "/b"] ∧
      ∀ site, s.arrivedOf site =
        (accepted (start 3) shutDownWhileWaiting).filter (·.site == site) := by
  intro s
  have returned : s.Returned := by decide
  obtain ⟨_, _, -, -, -, -, hqueue, -, hiff⟩ := shutdown_saves_iff 3 shutDownWhileWaiting returned
  have hnone : s.buffer.queue.filterMap Message.hit? = [] := by decide
  exact ⟨returned, by decide, hiff.mpr (hqueue.symm.trans hnone)⟩

/-- A hit is handed over between the shutdown and its receipt. -/
def appendedBehindShutdown : List Step :=
  [.append (hitAt "/a"), .receive, .shutdown, .append (hitAt "/late"), .receive, .push]

/-- The hit is accepted, but it is neither shared nor removed when the shutdown has returned, nor in
the hands of the task: it stands in a queue from which nothing is taken any more. -/
theorem appendedBehindShutdown_lost :
    let s := (start 2).run appendedBehindShutdown
    s.Returned ∧ accepted (start 2) appendedBehindShutdown = [hitAt "/a", hitAt "/late"] ∧
      s.buffer.shared = [hitAt "/a"] ∧ s.removed = [] ∧ s.buffer.held = [] ∧
      s.buffer.queue = [.hit (hitAt "/late")] ∧ (s.step .push).buffer.running = false := by
  decide

end Buffer.System

end HitCounter
