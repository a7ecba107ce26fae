import InstanceRegistry.Accessor

/-!
# Code of constructors, observers and callers

What constructors, observers and the callers of accessors do is written as `Code`:
a tree of steps over a state `σ` that all threads share. The tree is well founded,
so every piece of code ends by itself unless something it calls or waits for does
not. Constructors and observers are named by numbers and looked up in a `Program`,
which lets them refer to each other, and to themselves, without any restriction.
-/

namespace InstanceRegistry

/-- The number that names a thread. -/
abbrev ThreadId := Nat

/-- The name of a gate. -/
abbrev Gate := String

/-- How a call ends: it returns a value and perhaps a fault, or it panics. -/
inductive Outcome where
  | returned (value : Value) (fault : Option Fault)
  | panicked (value : Panic)

/-- Steps of a thread over the shared state `σ`. -/
inductive Code (σ : Type) where
  /-- Returns a value and perhaps a fault. -/
  | done (value : Value) (fault : Option Fault)
  /-- Panics. -/
  | raise (value : Panic)
  /-- Changes the shared state and goes on with what was read before the change. -/
  | act (change : ThreadId → σ → σ) (next : ThreadId → σ → Code σ)
  /-- Reads a registry. -/
  | inspect (r : RegistryId) (next : Registry → Code σ)
  /-- Calls an accessor and goes on with its outcome, panics included. -/
  | call (a : Accessor) (next : Outcome → Code σ)
  /-- Hands a notice to an observer and goes on with the outcome, panics included. -/
  | notify (o : ObserverId) (n : Notice) (next : Outcome → Code σ)
  /-- Waits until a gate is open. -/
  | await (g : Gate) (next : Code σ)
  /-- Makes a registry, bare or with observers. -/
  | register (bare : Bool) (observers : List (Option ObserverId)) (next : RegistryId → Code σ)
  /-- Attaches an observer to a registry. -/
  | attach (r : RegistryId) (o : Option ObserverId) (next : Code σ)
  /-- Takes the shared registry, which is made when it is first taken. -/
  | shared (next : RegistryId → Code σ)

/-- The constructors and observers of a run, and when its gates are open. -/
structure Program (σ : Type) where
  maker : ConstructorId → Code σ
  observer : ObserverId → Notice → Code σ
  isOpen : Gate → σ → Bool

namespace Code

variable {σ α : Type}

/-- Changes the shared state and goes on with a result of the change. -/
def perform (change : ThreadId → σ → σ × α) (next : α → Code σ) : Code σ :=
  .act (fun t s => (change t s).1) (fun t s => next (change t s).2)

/-- Changes the shared state. -/
def update (change : ThreadId → σ → σ) (next : Code σ) : Code σ :=
  .act change (fun _ _ => next)

/-- Reads the shared state. -/
def read (next : ThreadId → σ → Code σ) : Code σ :=
  .act (fun _ s => s) next

/-- Runs code and goes on with what it returns; a panic goes past the rest. -/
def bind : Code σ → (Value → Option Fault → Code σ) → Code σ
  | .done v e, rest => rest v e
  | .raise p, _ => .raise p
  | .act change next, rest => .act change fun t s => (next t s).bind rest
  | .inspect r next, rest => .inspect r fun reg => (next reg).bind rest
  | .call a next, rest => .call a fun o => (next o).bind rest
  | .notify o n next, rest => .notify o n fun outcome => (next outcome).bind rest
  | .await g next, rest => .await g (next.bind rest)
  | .register bare os next, rest => .register bare os fun r => (next r).bind rest
  | .attach r o next, rest => .attach r o (next.bind rest)
  | .shared next, rest => .shared fun r => (next r).bind rest

/-- Runs one piece of code after another. -/
def andThen (first second : Code σ) : Code σ :=
  first.bind fun _ _ => second

/-- Runs code and returns the value that it returns, without a fault. -/
def unfailing (c : Code σ) : Code σ :=
  c.bind fun v _ => .done v none

end Code

/-- The code by which an accessor makes its instance. A steadfast accessor has a constructor that
gives a value and nothing else. -/
def Program.construct {σ : Type} (P : Program σ) (a : Accessor) : Code σ :=
  if a.insistent then (P.maker a.maker).unfailing else P.maker a.maker

end InstanceRegistry
