import CardTelemetry.Log.Event

/-!
# Jobs

A job is the steps it takes and how it ends. A job that fails takes no further
step, so what would have come next leaves no trace. Time passes only in the steps
that wait; a deadline cuts a job off when they add up to more than it allows, and
a job that ends exactly at the deadline has kept it.
-/

namespace CardTelemetry

/-- The two questions a collector puts to its source. -/
inductive Query where
  | cards
  | stats
deriving DecidableEq

inductive Step where
  | asked (query : Query)
  | waited (millis : Nat)
  | noted (event : Log.Event)
deriving DecidableEq

def Step.millis : Step → Nat
  | .waited n => n
  | _ => 0

def Step.event? : Step → Option Log.Event
  | .noted e => some e
  | _ => none

structure Job (α : Type) where
  steps : List Step
  outcome : Except Fault α

namespace Job

variable {α β : Type}

def done (a : α) : Job α := ⟨[], .ok a⟩

def fail (f : Fault) : Job α := ⟨[], .error f⟩

def ofExcept (r : Except Fault α) : Job α := ⟨[], r⟩

def step (s : Step) : Job Unit := ⟨[s], .ok ()⟩

def note (e : Log.Event) : Job Unit := step (.noted e)

def wait (millis : Nat) : Job Unit := step (.waited millis)

def ask (q : Query) : Job Unit := step (.asked q)

/-- One job after another; the second is not begun if the first fails. -/
def andThen (j : Job α) (next : α → Job β) : Job β :=
  match j.outcome with
  | .ok a => ⟨j.steps ++ (next a).steps, (next a).outcome⟩
  | .error f => ⟨j.steps, .error f⟩

instance : Monad Job where
  pure := done
  bind := andThen

/-- A job for each member of a list, in order, up to the first that fails. -/
def each (f : α → Job β) : List α → Job (List β)
  | [] => done []
  | a :: rest => (f a).andThen fun b => (each f rest).andThen fun bs => done (b :: bs)

/-- The time that steps take together. -/
def duration : List Step → Nat
  | [] => 0
  | s :: rest => s.millis + duration rest

def elapsed (j : Job α) : Nat := duration j.steps

def events (j : Job α) : List Log.Event := j.steps.filterMap Step.event?

/-- The steps that begin while time is left. -/
def stepsWithin : Nat → List Step → List Step
  | _, [] => []
  | left, s :: rest =>
    if s.millis ≤ left then s :: stepsWithin (left - s.millis) rest else []

/-- A job that is given up when it takes longer than allowed. The fault tells the time as a
word of 64 bits. -/
def within (millis : Nat) (j : Job α) : Job α :=
  if j.elapsed ≤ millis then j
  else ⟨stepsWithin millis j.steps, .error (.timeout (UInt64.ofNat millis).toNat)⟩

/-- What the clock shows after steps that are taken from a time on, or nothing if the deadline
passes before they are done. -/
def clockAfter (deadline : Nat) : Nat → List Step → Option Nat
  | now, [] => some now
  | now, s :: rest =>
    if now + s.millis ≤ deadline then clockAfter deadline (now + s.millis) rest else none

/-- A job begun at a time and given some milliseconds: when it is over, and how it ends. -/
def runAt (now millis : Nat) (j : Job α) : Nat × Except Fault α :=
  match clockAfter (now + millis) now j.steps with
  | some later => (later, j.outcome)
  | none => (now + millis, .error (.timeout (UInt64.ofNat millis).toNat))

@[simp] theorem outcome_done (a : α) : (done a).outcome = .ok a := rfl

@[simp] theorem outcome_fail (f : Fault) : (fail f : Job α).outcome = .error f := rfl

@[simp] theorem outcome_ofExcept (r : Except Fault α) : (ofExcept r).outcome = r := rfl

@[simp] theorem outcome_step (s : Step) : (step s).outcome = .ok () := rfl

theorem outcome_andThen (j : Job α) (next : α → Job β) :
    (j.andThen next).outcome = j.outcome.bind fun a => (next a).outcome := by
  unfold andThen
  cases j.outcome <;> rfl

theorem steps_andThen_of_error {j : Job α} {f : Fault} (h : j.outcome = .error f)
    (next : α → Job β) : (j.andThen next).steps = j.steps := by
  simp [andThen, h]

theorem steps_andThen_of_ok {j : Job α} {a : α} (h : j.outcome = .ok a)
    (next : α → Job β) : (j.andThen next).steps = j.steps ++ (next a).steps := by
  simp [andThen, h]

end Job

end CardTelemetry
