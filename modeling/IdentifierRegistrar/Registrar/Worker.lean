import IdentifierRegistrar.Registrar.Operations

/-!
The background worker. Jobs wait in a bounded queue and are carried out one at a time in the order
in which they came into it; a sweep runs at the start and at each interval after it. Jobs come in
through handles, and each is given a place in the queue before it comes to it: between the two the
place is taken, though the job is not in the queue yet. Without handles the sweeps go on. The word to
stop ends the worker once it has taken note of it. Times are in milliseconds.
-/

namespace IdentifierRegistrar

structure Job where
  record : RecordId
  action : Action
  deriving DecidableEq, Repr

namespace Worker

inductive Phase
  /-- Made and not started: jobs only wait. -/
  | idle
  /-- Running; the next sweep is due at a time. -/
  | running (due : Nat)
  | stopped
  /-- Thrown away before it was started. -/
  | discarded
  deriving DecidableEq, Repr

inductive Offer
  | accepted
  | full
  | stopped
  deriving DecidableEq, Repr

inductive Turn
  | sweep
  | job (j : Job)
  deriving DecidableEq, Repr

end Worker

structure Worker where
  interval : Nat
  capacity : Nat
  queue : List Job
  /-- The jobs that have a place in the queue and have not come to it. -/
  promised : List Job
  /-- The jobs of those who wait for a place, in the order in which they came to wait. -/
  waiting : List Job
  handles : Nat
  /-- Whether the worker minds the queue. It ceases to when it hears that no handle is left. -/
  listens : Bool
  /-- Whether the last word was to stop. -/
  told : Bool
  /-- Whether there was a word that the worker has not taken note of. -/
  news : Bool
  phase : Worker.Phase
  deriving DecidableEq, Repr

namespace Worker

/-- A queue holds one job at least. -/
def create (interval capacity : Nat) : Worker where
  interval := interval
  capacity := max capacity 1
  queue := []
  promised := []
  waiting := []
  handles := 1
  listens := true
  told := false
  news := false
  phase := .idle

def standardInterval : Nat := 60000

def standardCapacity : Nat := 1024

def takesJobs (w : Worker) : Bool :=
  match w.phase with
  | .idle | .running _ => w.handles != 0
  | .stopped | .discarded => false

def cloneHandle (w : Worker) : Worker := { w with handles := w.handles + 1 }

/-- A handle is given up. After the last one no job comes in any more. -/
def dropHandle (w : Worker) : Worker := { w with handles := w.handles - 1 }

/-- Whether some place is free: no job of the queue has it, and it is promised to none. -/
def hasRoom (w : Worker) : Bool := w.queue.length + w.promised.length < w.capacity

def reserve (w : Worker) (j : Job) : Offer × Worker :=
  if !w.takesJobs then (.stopped, w)
  else if w.hasRoom then (.accepted, { w with promised := w.promised ++ [j] })
  else (.full, w)

/-- A job comes to the place that it was promised, which is then the last one of the queue. -/
def enter (w : Worker) (i : Nat) : Worker :=
  match w.promised[i]? with
  | some j => { w with queue := w.queue ++ [j], promised := w.promised.eraseIdx i }
  | none => w

/-- Asks for a place for a job, and has the job come to it at once. -/
def offer (w : Worker) (j : Job) : Offer × Worker :=
  let (answer, w') := w.reserve j
  (answer, w'.enter w.promised.length)

def submit (w : Worker) (j : Job) : Except RegistrarError Unit × Worker :=
  match w.offer j with
  | (.accepted, w) => (.ok (), w)
  | (.full, w) => (.error .queueFull, w)
  | (.stopped, w) => (.error .workerStopped, w)

def send (w : Worker) (j : Job) : Offer × Worker :=
  match w.reserve j with
  | (.full, w) => (.full, { w with waiting := w.waiting ++ [j] })
  | answer => answer

/-- A place that is no longer taken is promised to who has waited longest for one. -/
def passOn (w : Worker) : Worker :=
  match w.waiting with
  | j :: waiting => { w with promised := w.promised ++ [j], waiting }
  | [] => w

def giveUp (w : Worker) (i : Nat) : Worker := { w with waiting := w.waiting.eraseIdx i }

/-- A place that was promised is not wanted any more. -/
def withdraw (w : Worker) (i : Nat) : Worker :=
  match w.promised[i]? with
  | some _ => { w with promised := w.promised.eraseIdx i }.passOn
  | none => w

/-- The end of a worker: it lets its queue go, and nobody waits for a place any more. -/
def stop (w : Worker) : Worker := { w with phase := .stopped, queue := [], waiting := [] }

/-- The worker begins to run; its first sweep is due at once. One without an interval ends where it
begins. -/
def launch (w : Worker) (now : Nat) : Worker :=
  match w.phase with
  | .idle => if w.interval == 0 then w.stop else { w with phase := .running now }
  | _ => w

def notify (w : Worker) (stop : Bool) : Worker := { w with told := stop, news := true }

def heed (w : Worker) : Worker :=
  match w.phase with
  | .running _ => if w.news then if w.told then w.stop else { w with news := false } else w
  | _ => w

/-- A worker that was told to stop before it is started ends at once. -/
def start (w : Worker) (now : Nat) : Worker := (w.launch now).heed

def signal (w : Worker) (stop : Bool) : Worker := (w.notify stop).heed

def discard (w : Worker) : Worker :=
  match w.phase with
  | .idle => { w.stop with phase := .discarded }
  | _ => w

/-- Whether the worker has ended; none if it was never started. -/
def finished? (w : Worker) : Option Bool :=
  match w.phase with
  | .running _ => some false
  | .stopped => some true
  | .idle | .discarded => none

def tick? (w : Worker) (now : Nat) : Option Worker :=
  match w.phase with
  | .running due =>
    if due ≤ now then some { w with phase := .running (due + w.interval) } else none
  | _ => none

/-- Takes the job that came first of those in the queue; its place goes to who waits for one. -/
def receive? (w : Worker) : Option (Job × Worker) :=
  match w.phase, w.listens, w.queue with
  | .running _, true, j :: queue => some (j, { w with queue }.passOn)
  | _, _, _ => none

/-- Hears that no handle is left, once the queue is empty. -/
def cease? (w : Worker) : Option Worker :=
  match w.phase, w.listens, w.queue, w.handles with
  | .running _, true, [], 0 => some { w with listens := false }
  | _, _, _, _ => none

/-- The next thing to do up to a time. A sweep that is due goes before the jobs. -/
def next? (w : Worker) (now : Nat) : Option (Turn × Worker) :=
  match w.tick? now with
  | some w => some (.sweep, w)
  | none => w.receive?.map fun (j, w) => (.job j, w)

def turns (w : Worker) (now : Nat) : List Turn × Worker :=
  let due :=
    match w.phase with
    | .running due => due
    | _ => now
  go ((now - due) / max w.interval 1 + 1 + w.queue.length) w
where
  go : Nat → Worker → List Turn × Worker
    | 0, w => ([], w)
    | n + 1, w =>
      match w.next? now with
      | none => ([], w)
      | some (turn, w) =>
        let (turns, w) := go n w
        (turn :: turns, w)

/-- Doing one thing. Whatever comes of it, the worker goes on. -/
def perform (g : Registrar) : Turn → Operation Unit
  | .sweep => do
    let _ ← (g.sweep.attempt : Operation (Except RegistrarError SweepStats))
    return ()
  | .job j => do
    let _ ← ((g.execute j.record j.action).attempt : Operation (Except RegistrarError Outcome))
    return ()

end Worker

end IdentifierRegistrar
