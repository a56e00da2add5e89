import HitCounter.Proofs.Buffer.Conservation
import HitCounter.Proofs.Store.Batch

/-!
# Hits on their way to the database

- **Drains** (`drain_buffer`, `drain_perm`, `drain_sharedOf`): a drain empties the shared place and
  takes every hit of it once, those of one site in their order.
- **One persist** (`persist_known`, `persist_stray`): the whole shared place is stored, or nothing.
- **Accounts** (`Backed.Account`): whatever the buffer and the database go through, a hit that was
  handed over is stored once, or lost with an answer that says so, or it still waits.
- **All or nothing** (`persist_all_or_nothing`): the three of them together, beginning with a batch
  that is given to the database directly.
-/

namespace HitCounter

namespace Buffer

/-! ## Drains -/

/-- Sites that are taken one by one leave the shared place, and nothing else changes. -/
theorem takeAll_buffer (sites : List Int) (b : Buffer) :
    (takeAll sites b).2 = { b with shared := b.shared.filter (·.site ∉ sites) } := by
  induction sites generalizing b with
  | nil => simp [takeAll]
  | cons site sites ih =>
    have hstep : (takeAll (site :: sites) b).2 = (takeAll sites (b.take site).2).2 := rfl
    rw [hstep, ih]
    simp only [take, List.filter_filter, List.mem_cons, not_or, decide_not, Bool.decide_and]
    congr 1
    refine List.filter_congr fun h _ => ?_
    rw [Bool.and_comm]
    congr 1

/-- What is taken and what is left make up the shared place. -/
theorem takeAll_perm (sites : List Int) (b : Buffer) :
    ((takeAll sites b).1 ++ (takeAll sites b).2.shared).Perm b.shared := by
  induction sites generalizing b with
  | nil => exact List.Perm.refl _
  | cons site sites ih =>
    have hfirst : (b.sharedOf site ++ (b.take site).2.shared).Perm b.shared :=
      List.filter_append_perm (fun h : Hit => h.site == site) b.shared
    have hmore := (ih (b.take site).2).append_left (b.sharedOf site)
    rw [← List.append_assoc] at hmore
    exact hmore.trans hfirst

/-- Site by site, the order stays. -/
theorem takeAll_sharedOf (sites : List Int) (b : Buffer) (site : Int) :
    (takeAll sites b).1.filter (·.site == site) ++ (takeAll sites b).2.sharedOf site =
      b.sharedOf site := by
  induction sites generalizing b with
  | nil => rfl
  | cons taken sites ih =>
    have hfirst : (takeAll (taken :: sites) b).1 =
        b.sharedOf taken ++ (takeAll sites (b.take taken).2).1 := rfl
    have hlast : (takeAll (taken :: sites) b).2 = (takeAll sites (b.take taken).2).2 := rfl
    rw [hfirst, hlast, List.filter_append, List.append_assoc, ih, take_splits]

theorem mem_sites {b : Buffer} {h : Hit} (hh : h ∈ b.shared) : h.site ∈ b.sites := by
  rw [sites, List.mem_mergeSort, List.mem_eraseDups]
  exact List.mem_map_of_mem hh

/-- A drain empties the shared place. -/
theorem drain_buffer (b : Buffer) : b.drain.2 = { b with shared := [] } := by
  have hnone : b.shared.filter (·.site ∉ b.sites) = [] := by
    refine List.filter_eq_nil_iff.mpr fun h hh => ?_
    rw [decide_eq_true_eq, not_not]
    exact mem_sites hh
  rw [drain, takeAll_buffer, hnone]

/-- A drain takes every shared hit once. -/
theorem drain_perm (b : Buffer) : b.drain.1.Perm b.shared := by
  have hperm : (b.drain.1 ++ b.drain.2.shared).Perm b.shared := takeAll_perm b.sites b
  rwa [drain_buffer, List.append_nil] at hperm

theorem drain_sharedOf (b : Buffer) (site : Int) :
    b.drain.1.filter (·.site == site) = b.sharedOf site := by
  have hsplit : b.drain.1.filter (·.site == site) ++ b.drain.2.sharedOf site = b.sharedOf site :=
    takeAll_sharedOf b.sites b site
  rwa [drain_buffer, sharedOf, List.filter_nil, List.append_nil] at hsplit

/-! ## One persist -/

/-- What a store makes of a drain, unless there is nothing to persist. -/
theorem persist_eq {σ ε : Type} (store : List Hit → σ → Except ε Nat × σ) (b : Buffer) (x : σ) :
    b.persist store x = if b.shared = [] then (.ok 0, { b with shared := [] }, x)
      else ((store b.drain.1 x).1, { b with shared := [] }, (store b.drain.1 x).2) := by
  have hempty : b.drain.1.isEmpty = true ↔ b.shared = [] := by
    rw [List.isEmpty_iff, ← List.length_eq_zero_iff, b.drain_perm.length_eq,
      List.length_eq_zero_iff]
  unfold persist
  rw [← drain_buffer]
  by_cases hshared : b.shared = []
  · rw [if_pos hshared]
    exact if_pos (hempty.mpr hshared)
  · rw [if_neg hshared]
    exact if_neg (mt hempty.mp hshared)

/-- The database is given what a drain takes. -/
theorem persist_database (b : Buffer) (db : Database) : b.persist Database.persistHits db =
    ((db.persistHits b.drain.1).1, { b with shared := [] }, (db.persistHits b.drain.1).2) := by
  rw [persist_eq]
  split
  · rename_i hshared
    have hdrained := List.perm_nil.mp (hshared ▸ b.drain_perm)
    rw [hdrained]
    rfl
  · rfl

theorem knows_drain {t : Tables} {b : Buffer} : t.Knows b.drain.1 ↔ t.Knows b.shared :=
  forall_congr' fun _ => imp_congr_left b.drain_perm.mem_iff

variable {t : Tables} {b : Buffer}

/-- Known hits are all stored. -/
theorem persist_known (hk : t.Knows b.shared) : b.persist Database.persistHits ⟨some t⟩ =
    (.ok b.length, { b with shared := [] },
      ⟨some { t with hits := t.hits ++ b.drain.1.map Hit.toRow }⟩) := by
  rw [persist_database, Database.persistHits_known (knows_drain.mpr hk), b.drain_perm.length_eq]
  rfl

/-- With a stray hit among them none is stored, and they are all lost. -/
theorem persist_stray (hk : ¬ t.Knows b.shared) : b.persist Database.persistHits ⟨some t⟩ =
    (.error .foreignKey, { b with shared := [] }, ⟨some t⟩) := by
  rw [persist_database, Database.persistHits_stray (mt knows_drain.mp hk)]

/-! ## Accounts -/

/-- The hits that are somewhere between a request and the database. -/
def waiting (b : Buffer) : List Hit := b.shared ++ b.held ++ b.queue.filterMap Message.hit?

/-- A buffer with the database behind it. -/
structure Backed where
  buffer : Buffer
  database : Database

/-- What a buffer and its database go through. -/
inductive Event where
  /-- A hit or a shutdown enters the queue, or is lost when there is no room. -/
  | send (m : Message)
  /-- The task takes the oldest message. -/
  | receive
  /-- The task moves the hits in its hands to the shared place. -/
  | flush
  | createSite (host : String) (settings : Settings)
  | updateSettings (id : Int) (settings : Settings)
  /-- The hits in the shared place are given to the database. -/
  | persist
  /-- They are given to it while it takes no batch at all. -/
  | refuse (e : StoreFault)

/-- What a persist answers. -/
abbrev Answered := Except StoreFault Nat

/-- How many hits were stored, by the answers. -/
def storedBy : List Answered → Nat
  | [] => 0
  | answer :: answers => answer.toOption.getD 0 + storedBy answers

theorem storedBy_append (first more : List Answered) :
    storedBy (first ++ more) = storedBy first + storedBy more := by
  induction first with
  | nil => exact (Nat.zero_add _).symm
  | cons answer first ih => rw [List.cons_append, storedBy, storedBy, ih, Nat.add_assoc]

namespace Backed

/-- What one event leaves, and what it answers if it is a persist. -/
def step (s : Backed) : Event → Backed × List Answered
  | .send m => ({ s with buffer := s.buffer.send m }, [])
  | .receive => ({ s with buffer := s.buffer.receive }, [])
  | .flush => ({ s with buffer := s.buffer.flush }, [])
  | .createSite host settings =>
    ({ s with database := (s.database.createSite host settings).2 }, [])
  | .updateSettings id settings =>
    ({ s with database := (s.database.updateSettings id settings).2 }, [])
  | .persist =>
    let (answer, buffer, database) := s.buffer.persist Database.persistHits s.database
    (⟨buffer, database⟩, [answer])
  | .refuse e =>
    let (answer, buffer, database) := s.buffer.persist (fun _ db => (.error e, db)) s.database
    (⟨buffer, database⟩, [answer])

/-- What events leave one after the other, and the answers. -/
def run (s : Backed) : List Event → Backed × List Answered
  | [] => (s, [])
  | e :: events =>
    let (s, answers) := s.step e
    let (s, more) := s.run events
    (s, answers ++ more)

/-- The hit that an event hands over, unless there is no room for it. -/
def entered (s : Backed) : Event → List Hit
  | .send m => if s.buffer.hasRoom then m.hit?.toList else []
  | _ => []

/-- The hits that events hand over. -/
def enteredBy (s : Backed) : List Event → List Hit
  | [] => []
  | e :: events => s.entered e ++ (s.step e).1.enteredBy events

/-- The account of what happened between two states: each hit that was waiting or that entered is
stored, or lost, or it still waits; the answers count those stored, and without a fault among them
none is lost. -/
structure Account (s s' : Backed) (entered : List Hit) (answers : List Answered)
    (stored lost : List Hit) : Prop where
  rows : s'.database.hitRows = s.database.hitRows ++ stored.map Hit.toRow
  counted : storedBy answers = stored.length
  hits : (stored ++ lost ++ s'.buffer.waiting).Perm (s.buffer.waiting ++ entered)
  faultless : (∀ a ∈ answers, ∃ n, a = .ok n) → lost = []

variable {s s' s'' : Backed}

/-- Accounts are added up. -/
theorem Account.trans {entered entered' stored stored' lost lost' : List Hit}
    {answers answers' : List Answered} (h : Account s s' entered answers stored lost)
    (h' : Account s' s'' entered' answers' stored' lost') :
    Account s s'' (entered ++ entered') (answers ++ answers') (stored ++ stored')
      (lost ++ lost') where
  rows := by rw [h'.rows, h.rows, List.map_append, List.append_assoc]
  counted := by rw [storedBy_append, h.counted, h'.counted, List.length_append]
  hits := by
    rw [List.perm_iff_count]
    intro x
    have hfirst := h.hits.count_eq x
    have hmore := h'.hits.count_eq x
    simp only [List.count_append] at hfirst hmore ⊢
    omega
  faultless hok := by
    rw [h.faultless fun a ha => hok a (List.mem_append_left _ ha),
      h'.faultless fun a ha => hok a (List.mem_append_right _ ha), List.append_nil]

/-- Where nothing is persisted, nothing is stored or lost. -/
theorem Account.quiet {entered : List Hit} (hrows : s'.database.hitRows = s.database.hitRows)
    (hhits : s'.buffer.waiting = s.buffer.waiting ++ entered) :
    Account s s' entered [] [] [] where
  rows := by rw [hrows, List.map_nil, List.append_nil]
  counted := rfl
  hits := by rw [hhits]; exact List.Perm.refl _
  faultless _ := rfl

theorem waiting_send (m : Message) (b : Buffer) :
    (b.send m).waiting = b.waiting ++ if b.hasRoom then m.hit?.toList else [] := by
  unfold Buffer.send
  split
  · cases m <;> simp [waiting, Message.hit?]
  · rw [List.append_nil]

theorem waiting_receive (b : Buffer) : b.receive.waiting = b.waiting := by
  unfold Buffer.receive
  split
  · split
    · rfl
    · rename_i h queue hq
      simp [waiting, hq, Message.hit?]
    · rename_i queue hq
      have hnone : (Message.shutdown :: queue).filterMap Message.hit? =
          queue.filterMap Message.hit? := rfl
      simp [waiting, hq, hnone, Buffer.flush]
  · rfl

theorem waiting_flush (b : Buffer) : b.flush.waiting = b.waiting := by
  simp [waiting, Buffer.flush]

/-- The hits of a persist leave the shared place, whatever becomes of them. -/
theorem waiting_persisted (b : Buffer) :
    (b.drain.1 ++ ({ b with shared := [] } : Buffer).waiting).Perm (b.waiting ++ []) := by
  rw [List.append_nil, waiting, waiting, List.nil_append, List.append_assoc]
  exact b.drain_perm.append_right _

/-- A persist stores the shared hits or loses them. -/
theorem account_persist (s : Backed) :
    ∃ stored lost, Account s (s.step .persist).1 [] (s.step .persist).2 stored lost := by
  have hstep : s.step .persist =
      (⟨{ s.buffer with shared := [] }, (s.database.persistHits s.buffer.drain.1).2⟩,
        [(s.database.persistHits s.buffer.drain.1).1]) := by
    rw [step, persist_database]
  rw [hstep]
  rcases s.database.persistHits_cases s.buffer.drain.1 with ⟨hok, hrows⟩ | ⟨e, herror⟩
  · refine ⟨s.buffer.drain.1, [], hrows, ?_, ?_, fun _ => rfl⟩
    · rw [hok]
      rfl
    · rw [List.append_nil]
      exact waiting_persisted s.buffer
  · rw [herror]
    refine ⟨[], s.buffer.drain.1, (List.append_nil _).symm, rfl, waiting_persisted s.buffer,
      fun hok => ?_⟩
    obtain ⟨n, hn⟩ := hok _ List.mem_cons_self
    cases hn

/-- A persist that is refused loses the shared hits. -/
theorem account_refuse (s : Backed) (e : StoreFault) :
    ∃ lost, Account s (s.step (.refuse e)).1 [] (s.step (.refuse e)).2 [] lost := by
  have hwaiting := waiting_persisted s.buffer
  by_cases hshared : s.buffer.shared = []
  · have hstep : s.step (.refuse e) =
        (⟨{ s.buffer with shared := [] }, s.database⟩, [.ok 0]) := by
      rw [step, persist_eq, if_pos hshared]
    have hdrained := List.perm_nil.mp (hshared ▸ s.buffer.drain_perm)
    rw [hdrained] at hwaiting
    rw [hstep]
    exact ⟨[], (List.append_nil _).symm, rfl, hwaiting, fun _ => rfl⟩
  · have hstep : s.step (.refuse e) =
        (⟨{ s.buffer with shared := [] }, s.database⟩, [.error e]) := by
      rw [step, persist_eq, if_neg hshared]
    rw [hstep]
    refine ⟨s.buffer.drain.1, (List.append_nil _).symm, rfl, hwaiting, fun hok => ?_⟩
    obtain ⟨n, hn⟩ := hok _ List.mem_cons_self
    cases hn

/-- **One event** has an account. -/
theorem account_step (s : Backed) (e : Event) :
    ∃ stored lost, Account s (s.step e).1 (s.entered e) (s.step e).2 stored lost := by
  have hnone (b : Buffer) (h : b.waiting = s.buffer.waiting) :
      b.waiting = s.buffer.waiting ++ [] := by rw [h, List.append_nil]
  cases e with
  | send m => exact ⟨[], [], .quiet rfl (waiting_send m s.buffer)⟩
  | receive => exact ⟨[], [], .quiet rfl (hnone _ (waiting_receive s.buffer))⟩
  | flush => exact ⟨[], [], .quiet rfl (hnone _ (waiting_flush s.buffer))⟩
  | createSite host settings =>
    exact ⟨[], [], .quiet (s.database.createSite_hitRows host settings) (hnone _ rfl)⟩
  | updateSettings id settings =>
    exact ⟨[], [], .quiet (s.database.updateSettings_hitRows id settings) (hnone _ rfl)⟩
  | persist => exact account_persist s
  | refuse e =>
    obtain ⟨lost, haccount⟩ := account_refuse s e
    exact ⟨[], lost, haccount⟩

/-- Any events have an account. -/
theorem account_run (s : Backed) (events : List Event) :
    ∃ stored lost,
      Account s (s.run events).1 (s.enteredBy events) (s.run events).2 stored lost := by
  induction events generalizing s with
  | nil => exact ⟨[], [], .quiet rfl (List.append_nil _).symm⟩
  | cons e events ih =>
    obtain ⟨stored, lost, hstep⟩ := account_step s e
    obtain ⟨stored', lost', hmore⟩ := ih (s.step e).1
    exact ⟨stored ++ stored', lost ++ lost', hstep.trans hmore⟩

end Backed

/-! ## All or nothing -/

/-- **Persisting is all or nothing.** A batch whose hits all have sites is stored in its order, one
row that records each hit, and the hits of each site are as many more; a batch with a hit of no site
is refused and changes nothing, wherever that hit stands. So are the hits in the shared place, which
is empty afterwards either way. Whatever the buffer and the database go through, the answers add up
to the growth of the table, and no hit is stored twice. -/
theorem persist_all_or_nothing (t : Tables) :
    (∀ batch,
      (t.Knows batch →
        (∃ rows, List.Forall₂ HitRow.Records rows batch ∧
          Database.persistHits batch ⟨some t⟩ =
            (.ok batch.length, ⟨some { t with hits := t.hits ++ rows }⟩)) ∧
        ∀ id, Database.countHits id (Database.persistHits batch ⟨some t⟩).2 =
          .ok (t.countHits id + batch.countP (·.site == id))) ∧
      ∀ h ∈ batch, h.site ∉ t.sites.map (·.id) →
        ∃ e, Database.persistHits batch ⟨some t⟩ = (.error e, ⟨some t⟩)) ∧
    (∀ b : Buffer,
      (t.Knows b.shared → ∃ (batch : List Hit) (rows : List HitRow), batch.Perm b.shared ∧
        (∀ site, batch.filter (·.site == site) = b.shared.filter (·.site == site)) ∧
        List.Forall₂ HitRow.Records rows batch ∧
        b.persist Database.persistHits ⟨some t⟩ = (.ok b.shared.length, { b with shared := [] },
          ⟨some { t with hits := t.hits ++ rows }⟩)) ∧
      ∀ h ∈ b.shared, h.site ∉ t.sites.map (·.id) →
        ∃ e, b.persist Database.persistHits ⟨some t⟩ =
          (.error e, { b with shared := [] }, ⟨some t⟩)) ∧
    ∀ b events,
      let s : Backed := ⟨b, ⟨some t⟩⟩
      let last := (s.run events).1
      let answers := (s.run events).2
      last.database.hitRows.length = t.hits.length + storedBy answers ∧
      ∃ (stored lost : List Hit) (rows : List HitRow), List.Forall₂ HitRow.Records rows stored ∧
        last.database.hitRows = t.hits ++ rows ∧
        (stored ++ lost ++ last.buffer.waiting).Perm (b.waiting ++ s.enteredBy events) ∧
        ((b.waiting ++ s.enteredBy events).Nodup → stored.Nodup) ∧
        ((∀ a ∈ answers, ∃ n, a = .ok n) → lost = []) := by
  have hstray {hits : List Hit} {h : Hit} (hmem : h ∈ hits) (hno : h.site ∉ t.sites.map (·.id)) :
      ¬ t.Knows hits := fun hk => hno (hk h hmem)
  have hrecord (hits : List Hit) : List.Forall₂ HitRow.Records (hits.map Hit.toRow) hits :=
    HitRow.forall₂_records_iff.mpr rfl
  refine ⟨fun batch => ⟨fun hk => ⟨⟨_, hrecord batch, Database.persistHits_known hk⟩, fun id => ?_⟩,
      fun h hmem hno => ⟨_, Database.persistHits_stray (hstray hmem hno)⟩⟩,
    fun b => ⟨fun hk => ⟨b.drain.1, _, b.drain_perm, b.drain_sharedOf, hrecord _, persist_known hk⟩,
      fun h hmem hno => ⟨_, persist_stray (hstray hmem hno)⟩⟩,
    fun b events => ?_⟩
  · rw [Database.persistHits_known hk, ← Tables.countHits_append]
    rfl
  · intro s last answers
    obtain ⟨stored, lost, haccount⟩ := s.account_run events
    have hrows : last.database.hitRows = t.hits ++ stored.map Hit.toRow := haccount.rows
    refine ⟨?_, stored, lost, _, hrecord stored, hrows, haccount.hits, fun hdistinct => ?_,
      haccount.faultless⟩
    · rw [hrows, List.length_append, List.length_map, haccount.counted]
    · have hall := haccount.hits.nodup_iff.mpr hdistinct
      exact (List.nodup_append.mp (List.nodup_append.mp hall).1).1

/-! ### A stray hit between two others -/

/-- One site and no hits. -/
def oneSite : Tables where
  sites := [⟨1, "a.example", "\x7b\x7d"⟩]
  nextSite := 2

/-- A hit of no site. -/
def strayHit : Hit := { System.hitAt "/c" with site := 9 }

/-- Three hits come one after the other, and each of them is to be persisted. -/
def oneByOne : List Event :=
  [System.hitAt "/a", strayHit, System.hitAt "/b"].flatMap fun h =>
    [.send (.hit h), .receive, .flush, .persist]

/-- An event of which all is known, half a second after a full one. -/
def download : Hit where
  site := 1
  remoteAddr := "198.51.100.7"
  userAgent := "curl/8.0.1"
  createdAt := 1700000000500000000
  path := "/file"
  title := "File"
  referrer := "https://b.example/"
  query := "ref=b"
  event := true
  size := [.ofCode false 0x409E000000000000, .ofCode false 0x3FF8000000000000]
  bot := 161
  location := some "US-CA"
  language := some "eng"

/-- The row of that event. -/
def downloadRow : HitRow where
  site := 1
  path := "/file"
  title := "File"
  referrer := "https://b.example/"
  query := "ref=b"
  event := true
  size := "1920,1.5"
  bot := 161
  userAgent := "curl/8.0.1"
  remoteAddr := "198.51.100.7"
  location := some "US-CA"
  language := some "eng"
  createdAt := 1700000000

/-- The event is stored in this row. The stray hit is lost, and takes the others with it when they
are persisted together. -/
theorem persist_all_or_nothing_stray :
    Database.persistHits [download] ⟨some oneSite⟩ =
      (.ok 1, ⟨some { oneSite with hits := [downloadRow] }⟩) ∧
    (∃ e, Database.persistHits [System.hitAt "/a", strayHit, System.hitAt "/b"] ⟨some oneSite⟩ =
      (.error e, ⟨some oneSite⟩)) ∧
    (∃ e, (⟨9, [], true, [], [System.hitAt "/a", strayHit]⟩ : Buffer).persist
        Database.persistHits ⟨some oneSite⟩ = (.error e, ⟨9, [], true, [], []⟩, ⟨some oneSite⟩)) ∧
    (⟨9, [], true, [], [download]⟩ : Buffer).persist Database.persistHits ⟨some oneSite⟩ =
      (.ok 1, ⟨9, [], true, [], []⟩, ⟨some { oneSite with hits := [downloadRow] }⟩) ∧
    let last := (Backed.run ⟨{ capacity := 9 }, ⟨some oneSite⟩⟩ oneByOne).1
    last.database.hitRows.length = 2 ∧
      ∃ stored : List Hit, List.Forall₂ HitRow.Records last.database.hitRows stored ∧
        stored.Nodup := by
  obtain ⟨hbatch, hshared, hrun⟩ := persist_all_or_nothing oneSite
  -- Only one row records the event.
  have hrow {rows : List HitRow} (h : List.Forall₂ HitRow.Records rows [download]) :
      rows = [downloadRow] := (HitRow.forall₂_records_iff.mp h).trans (by decide +kernel)
  obtain ⟨⟨rows, hrows, hpersist⟩, -⟩ := (hbatch [download]).1 (by decide)
  obtain ⟨batch, rows', hperm, -, hrows', hdrained⟩ :=
    (hshared ⟨9, [], true, [], [download]⟩).1 (by decide)
  obtain rfl := List.perm_singleton.mp hperm
  rw [hrow hrows] at hpersist
  rw [hrow hrows'] at hdrained
  refine ⟨hpersist, (hbatch _).2 strayHit (by decide) (by decide),
    (hshared ⟨9, [], true, [], [System.hitAt "/a", strayHit]⟩).2 strayHit (by decide) (by decide),
    hdrained, ?_⟩
  obtain ⟨hgrowth, stored, lost, rows, hrecords, hstored, -, hdistinct, -⟩ :=
    hrun { capacity := 9 } oneByOne
  refine ⟨hgrowth.trans (by decide +kernel), stored, ?_, hdistinct (by decide +kernel)⟩
  rwa [hstored]

end Buffer

end HitCounter
