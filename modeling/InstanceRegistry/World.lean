import InstanceRegistry.Code

/-!
# Worlds

A world holds the registries, the flights, the threads and the shared state of a
run. A thread is a focus, what it is doing now, and a stack of frames, what it
goes on with when the focus has an outcome.

A request is one pass of an accessor over its registry. It goes through phases:
it checks the store, gets the identifier of its slot, and then either waits for a
flight of that identifier or leads one. The leader checks the store again, builds
the instance and keeps it, or gives up with a fault, and lands the flight; after
that the leader and those who waited settle on the landing in the same way.
-/

namespace InstanceRegistry

/-- What a flight ends with. -/
inductive Landing where
  /-- An instance, as a dynamic value. -/
  | value (v : Value)
  | fault (e : Fault)
  /-- A panic that did not come out of the constructor. -/
  | crash (p : Panic)

/-- The fault that the callers of a flight are told of. -/
def Landing.fault? : Landing → Option Fault
  | .fault e => some e
  | _ => none

/-- A construction of the instance of a slot, shared by all who ask for it meanwhile. -/
structure Flight where
  registry : RegistryId
  slot : Slot
  id : String
  leader : ThreadId
  /-- How the flight ended, if it did. -/
  landing : Option Landing := none

/-- Where a request stands. -/
inductive Phase where
  /-- Looks for a stored instance. -/
  | check
  /-- Gets the identifier of the slot. -/
  | identify
  /-- Joins the flight of the identifier or takes off with a new one. -/
  | board (id : String)
  /-- Waits for the landing of another's flight. -/
  | wait (f : FlightId)
  /-- Leads a flight and looks again for a stored instance. -/
  | recheck (f : FlightId)
  /-- Leads a flight and runs the constructor. -/
  | build (f : FlightId)
  /-- Leads a flight and stores the instance. -/
  | keep (f : FlightId) (value : Value)
  /-- Leads a flight and lands it. -/
  | land (f : FlightId) (landing : Landing)
  /-- Turns the landing of a flight into an outcome. -/
  | settle (f : FlightId) (landing : Landing)
  /-- Has an outcome. -/
  | finish (o : Outcome)
  /-- Tells the observer of the registry, then goes on. -/
  | announce (event : Event) (fault : Option Fault) (next : Phase)

/-- The flight that a request leads. -/
def Phase.flight? : Phase → Option FlightId
  | .recheck f | .build f | .keep f _ | .land f _ => some f
  | .announce _ _ next => next.flight?
  | .check | .identify | .board _ | .wait _ | .settle _ _ | .finish _ => none

/-- What a thread is doing. -/
inductive Focus (σ : Type) where
  | running (c : Code σ)
  | requesting (a : Accessor) (p : Phase)
  /-- Hands an outcome to the topmost frame. -/
  | returning (o : Outcome)

/-- What a thread goes on with. -/
inductive Frame (σ : Type) where
  /-- Code that handed a notice to an observer. -/
  | resume (next : Outcome → Code σ)
  /-- Code that called an accessor. -/
  | caller (a : Accessor) (next : Outcome → Code σ)
  /-- The repetition of a steadfast accessor. -/
  | again (a : Accessor)
  /-- A flight whose constructor runs. -/
  | construction (a : Accessor) (f : FlightId)
  /-- A request whose observer runs. -/
  | observation (a : Accessor) (next : Phase)

/-- A thread. -/
structure Thread (σ : Type) where
  focus : Focus σ
  stack : List (Frame σ) := []

/-- The state of a run. -/
structure World (σ : Type) where
  registries : List Registry := []
  /-- The registry of accessors that name no other, once it was asked for. -/
  shared : Option RegistryId := none
  flights : List Flight := []
  threads : List (Thread σ) := []
  state : σ

namespace Thread

variable {σ : Type}

/-- A thread that runs code from its start. -/
def start (c : Code σ) : Thread σ := { focus := .running c }

/-- The outcome of a thread that is through. -/
def outcome? : Thread σ → Option Outcome
  | ⟨.returning o, []⟩ => some o
  | _ => none

/-- The flight that a thread waits for. -/
def waitsFor? (t : Thread σ) : Option FlightId :=
  match t.focus with
  | .requesting _ (.wait f) => some f
  | _ => none

/-- The gate at which a thread stands. -/
def gate? (t : Thread σ) : Option Gate :=
  match t.focus with
  | .running (.await g _) => some g
  | _ => none

end Thread

namespace World

variable {σ : Type}

/-- Sets what a thread is doing and what it goes on with. -/
def put (w : World σ) (t : ThreadId) (focus : Focus σ) (stack : List (Frame σ)) : World σ :=
  { w with threads := w.threads.set t ⟨focus, stack⟩ }

/-- Changes a registry. -/
def setRegistry (w : World σ) (r : RegistryId) (reg : Registry) : World σ :=
  { w with registries := w.registries.set r reg }

/-- Adds a registry; its number is the count of those before it. -/
def addRegistry (w : World σ) (reg : Registry) : World σ :=
  { w with registries := w.registries ++ [reg] }

/-- Adds a thread; its number is the count of those before it. -/
def spawn (w : World σ) (c : Code σ) : World σ :=
  { w with threads := w.threads ++ [.start c] }

/-- Adds a flight; its number is the count of those before it. -/
def takeOff (w : World σ) (f : Flight) : World σ :=
  { w with flights := w.flights ++ [f] }

/-- Notes how a flight ended. -/
def setLanding (w : World σ) (f : FlightId) (landing : Landing) : World σ :=
  { w with flights := w.flights.modify f fun flight => { flight with landing := some landing } }

/-- How a flight ended, if it did. -/
def landing? (w : World σ) (f : FlightId) : Option Landing :=
  w.flights[f]?.bind Flight.landing

end World

end InstanceRegistry
