import InstanceRegistry.Registry

/-!
# Accessors

An accessor asks one registry for the instance of one slot and brings a
constructor along, for the case that there is none yet. Its settings are applied
in order, so of two that say the same thing the later one counts; an accessor
whose settings leave the registry open is bound to the shared one.
-/

namespace InstanceRegistry

/-- The number that names a constructor. -/
abbrev ConstructorId := Nat

/-- An accessor. -/
structure Accessor where
  registry : RegistryId
  slot : Slot
  maker : ConstructorId
  /-- Whether a call is repeated until it gives an instance. -/
  insistent : Bool

/-- A setting of an accessor. -/
inductive Setting where
  /-- Binds the accessor to a registry; an absent one means the shared registry. -/
  | registry (r : Option RegistryId)
  | name (s : String)
  /-- A setting that is missing and cannot be applied. -/
  | absent

/-- What the settings of an accessor determine. -/
structure Binding where
  registry : Option RegistryId := none
  name : String := ""

namespace Binding

/-- Applies a setting. -/
def apply (b : Binding) : Setting → Except Panic Binding
  | .registry r => .ok { b with registry := r }
  | .name s => .ok { b with name := s }
  | .absent => .error .nilDereference

/-- Applies settings in order. -/
def ofSettings (settings : List Setting) : Except Panic Binding :=
  settings.foldlM apply {}

end Binding

/-- An accessor whose registry may still be open. -/
structure Accessor.Design where
  registry : Option RegistryId
  slot : Slot
  maker : ConstructorId
  insistent : Bool

namespace Accessor

/-- The accessor of a design, bound to the shared registry if no other is set. -/
def Design.bind (d : Design) (shared : RegistryId) : Accessor :=
  ⟨d.registry.getD shared, d.slot, d.maker, d.insistent⟩

/-- Designs an accessor; a missing constructor is refused before any setting is looked at. -/
def design (insistent : Bool) (type : Ty) (maker : Option ConstructorId)
    (settings : List Setting) : Except Panic Design := do
  let some maker := maker | .error (.text "singleton: nil constructor")
  let binding ← Binding.ofSettings settings
  return ⟨binding.registry, ⟨type, binding.name⟩, maker, insistent⟩

/-- An accessor whose constructor may return a fault, which the caller gets. -/
def fallible : Ty → Option ConstructorId → List Setting → Except Panic Design :=
  design false

/-- An accessor that gives its caller an instance or a panic. -/
def steadfast : Ty → Option ConstructorId → List Setting → Except Panic Design :=
  design true

/-- A steadfast accessor for a pointer to a zero value of the given type. -/
def blank (target : Ty) (maker : ConstructorId) : List Setting → Except Panic Design :=
  steadfast (.pointer target) (some maker)

end Accessor

end InstanceRegistry
