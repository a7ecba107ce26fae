import InstanceRegistry.Fault.Report

/-!
# Values of instances

A value is written without its static type; the type of the slot says how to read
it. A registry keeps values of all types side by side, so what it stores is a
dynamic value: one that carries its type, or nothing. `Ty.box` makes a value
dynamic and `Ty.unbox` reads it back at a type, giving the zero value of that type
where the dynamic value does not fit.
-/

namespace InstanceRegistry

/-- The identity of a shared object. -/
abbrev Address := Nat

/-- A value of some type. -/
inductive Value where
  | number (n : Int)
  | text (s : String)
  | truth (b : Bool)
  | unit
  | triple (a b c : Int)
  /-- A pointer, a run of numbers, a table or a channel: an object or none. -/
  | reference (target : Option Address)
  /-- A function with the number it gives, or none. -/
  | thunk (result : Option Int)
  | fault (e : Fault)
  /-- The dynamic value that is missing. -/
  | nothing
  /-- A value with its type. -/
  | dynamic (type : Ty) (value : Value)

/-- The zero value of what a base type holds. -/
def Content.zero : Content → Value
  | .number => .number 0
  | .text => .text ""
  | .truth => .truth false
  | .unit => .unit
  | .triple => .triple 0 0 0
  | .numbers | .table | .channel => .reference none
  | .thunk => .thunk none
  | .dynamic => .nothing

namespace Ty

/-- The zero value of a type. -/
def zero : Ty → Value
  | .base b => b.content.zero
  | .pointer _ => .reference none

/-- A value of the given type as a dynamic value; one of an interface type is dynamic already. -/
def box (t : Ty) (v : Value) : Value :=
  if t.isInterface then v else .dynamic t v

/-- A dynamic value read at a type, or the type's zero value if it does not fit. -/
def unbox (t : Ty) : Value → Value
  | .dynamic d v =>
    if t.isInterface then
      if d.implements t then .dynamic d v else t.zero
    else if d = t then v else t.zero
  | _ => t.zero

end Ty

/-- The type that a fault has as a dynamic value. -/
def Fault.type (e : Fault) : Ty :=
  .base { id := e.form, text := e.form, kind := .record, content := .unit, methods := ["Error"] }

/-- A fault, or the absence of one, as a value of an interface type. -/
def Value.ofFault? : Option Fault → Value
  | none => .nothing
  | some e => .dynamic e.type (.fault e)

end InstanceRegistry
