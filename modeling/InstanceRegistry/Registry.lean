import InstanceRegistry.Event
import InstanceRegistry.Keyed
import InstanceRegistry.Value

/-!
# Registries

A registry stores at most one instance per slot. It also gives each slot that was
ever asked for an identifier of its own, the next number in decimal, and keeps the
constructions in flight under these identifiers; printed slots would not do, since
two slots may print alike.

A bare registry is one that was never set up: it has no tables, so it reads as
empty and cannot be written to.
-/

namespace InstanceRegistry

/-- Numbers that name the parts of a run. -/
abbrev RegistryId := Nat
@[inherit_doc RegistryId] abbrev ObserverId := Nat
@[inherit_doc RegistryId] abbrev FlightId := Nat

/-- A registry. -/
structure Registry where
  /-- Whether the tables of the registry were set up. -/
  writable : Bool := true
  /-- The stored instances, as dynamic values. -/
  store : Keyed Slot Value := {}
  /-- The identifiers given to slots. -/
  ids : Keyed Slot String := {}
  /-- The number that was given out last. -/
  lastId : UInt64 := 0
  /-- The constructions in flight, by identifier. -/
  flights : Keyed String FlightId := {}
  observer : Option ObserverId := none

namespace Registry

/-- A new registry, to which observers are attached in turn: the last one stays. -/
def new (observers : List (Option ObserverId)) : Registry :=
  { observer := observers.foldl (fun _ o => o) none }

/-- A registry that was never set up. -/
def bare : Registry := { writable := false }

/-- The two ways to make a registry. -/
def make (isBare : Bool) (observers : List (Option ObserverId)) : Registry :=
  if isBare then bare else new observers

/-- The number of stored instances. -/
def size (r : Registry) : Nat := r.store.size

/-- The slots that hold an instance. -/
def slots (r : Registry) : List Slot := r.store.keys

/-- The instance stored under a slot, read at the type of the slot. -/
def lookup (r : Registry) (s : Slot) : Option Value :=
  (r.store.get? s).map s.type.unbox

/-- Takes the next number for a slot that has no identifier yet. -/
def identify (r : Registry) (s : Slot) : Except Panic String × Registry :=
  match r.ids.get? s with
  | some id => (.ok id, r)
  | none =>
    let r := { r with lastId := r.lastId + 1 }
    if r.writable then
      let id := toString r.lastId.toNat
      (.ok id, { r with ids := r.ids.insert s id })
    else (.error (.runtime .nilMapWrite), r)

/-- Stores the instance of a slot. -/
def keep (r : Registry) (s : Slot) (v : Value) : Registry :=
  { r with store := r.store.insert s v }

/-- Enters a flight under its identifier. -/
def depart (r : Registry) (id : String) (f : FlightId) : Registry :=
  { r with flights := r.flights.insert id f }

/-- Removes the flight under an identifier. -/
def arrive (r : Registry) (id : String) : Registry :=
  { r with flights := r.flights.erase id }

/-- Attaches an observer in place of the one before. -/
def attach (r : Registry) (o : Option ObserverId) : Registry :=
  { r with observer := o }

end Registry

end InstanceRegistry
