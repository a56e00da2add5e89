import HitCounter.Hit.Basic

/-!
# The buffer of hits

Hits wait in memory before they are stored. They pass through three places: a queue of bounded
length, into which a request puts a hit without waiting; the hands of the one task that takes them
out of the queue; and the shared place, from which they are drained site by site.

Each operation below is one step. Between two steps of one party any other party may take one.
-/

namespace HitCounter

/-- What stands in the queue. -/
inductive Message where
  | hit (h : Hit)
  /-- The task shall hand over what it has and end. -/
  | shutdown
deriving DecidableEq

/-- The three places, and whether the task runs. -/
structure Buffer where
  /-- The greatest length of the queue. -/
  capacity : Nat
  /-- The oldest message comes first. -/
  queue : List Message := []
  /-- The task takes messages. Once it has ended, the queue is closed. -/
  running : Bool := true
  /-- The hits in the hands of the task, the oldest first. -/
  held : List Hit := []
  /-- The hits in the shared place, the oldest first. -/
  shared : List Hit := []
deriving DecidableEq

namespace Buffer

/-- There is room in the queue, and a task that will take what is put there. -/
def hasRoom (b : Buffer) : Bool := b.running && b.queue.length < b.capacity

/-- A message enters the queue, or is lost when there is no room. -/
def send (m : Message) (b : Buffer) : Buffer :=
  if b.hasRoom then { b with queue := b.queue ++ [m] } else b

/-- A request hands over a hit. -/
def append (h : Hit) (b : Buffer) : Buffer := b.send (.hit h)

/-- The task moves the hits in its hands to the shared place. -/
def flush (b : Buffer) : Buffer := { b with held := [], shared := b.shared ++ b.held }

/-- The task takes the oldest message; nothing happens when there is none. What stands behind a
shutdown stays in the queue for good. -/
def receive (b : Buffer) : Buffer :=
  if b.running then
    match b.queue with
    | [] => b
    | .hit h :: queue => { b with queue, held := b.held ++ [h] }
    | .shutdown :: queue => { ({ b with queue } : Buffer).flush with running := false }
  else b

/-- The task takes `n` messages. -/
def receiveMany : Nat → Buffer → Buffer
  | 0, b => b
  | n + 1, b => receiveMany n b.receive

/-- The task takes all messages. -/
def settle (b : Buffer) : Buffer := b.receiveMany b.queue.length

/-- The task ends without handing over what it has. -/
def die (b : Buffer) : Buffer := { b with running := false }

/-- The hits of one site in the shared place. -/
def sharedOf (site : Int) (b : Buffer) : List Hit := b.shared.filter (·.site == site)

/-- The sites with hits in the shared place, in order of their numbers. -/
def sites (b : Buffer) : List Int :=
  (b.shared.map (·.site)).eraseDups.mergeSort fun x y => decide (x ≤ y)

/-- The hits of one site leave the shared place. -/
def take (site : Int) (b : Buffer) : List Hit × Buffer :=
  (b.sharedOf site, { b with shared := b.shared.filter (·.site != site) })

/-- The hits of some sites leave the shared place one site after the other. -/
def takeAll : List Int → Buffer → List Hit × Buffer
  | [], b => ([], b)
  | site :: more, b =>
    let (hits, b) := b.take site
    let (others, b) := takeAll more b
    (hits ++ others, b)

/-- All hits leave the shared place: the sites are noted first and emptied one by one. -/
def drain (b : Buffer) : List Hit × Buffer := takeAll b.sites b

/-- How many hits are in the shared place. -/
def length (b : Buffer) : Nat := b.shared.length

/-- All hits leave the shared place and are given to a store as one batch, unless there are none.
They are lost when the store refuses them. -/
def persist {σ ε : Type} (store : List Hit → σ → Except ε Nat × σ) (b : Buffer) (s : σ) :
    Except ε Nat × Buffer × σ :=
  let (batch, b) := b.drain
  if batch.isEmpty then (.ok 0, b, s)
  else
    let (result, s) := store batch s
    (result, b, s)

/-- A shutdown is asked for and carried out. It waits for room in the queue; then the task takes all
messages and hands over. -/
def shutdown (b : Buffer) : Buffer := (b.settle.send .shutdown).settle

end Buffer

end HitCounter
