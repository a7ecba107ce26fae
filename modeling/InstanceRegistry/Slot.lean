import InstanceRegistry.Ty

/-!
# Slots

A slot is what a registry stores at most one instance under: a type and a name.
The empty name is the default slot of a type.
-/

namespace InstanceRegistry

/-- A type and a name. -/
structure Slot where
  type : Ty
  name : String
deriving DecidableEq

/-- The printed form of a slot: the type alone, or the type and the name with a colon between. -/
def Slot.text (s : Slot) : String :=
  if s.name = "" then s.type.text else s.type.text ++ ":" ++ s.name

end InstanceRegistry
