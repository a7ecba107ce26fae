import InstanceRegistry.Scenario.Act

/-!
# Shared objects and how values are shown

Pointers, runs of numbers, tables and channels are shared objects in a memory. An
object is made once and refers only to objects made before it, so following
references comes to an end within as many steps as there are objects.

When a value is shown, each pointer, table and channel in it is given a number, the
next one if it was not shown before, and it keeps that number. All of it is shown as
it is at that moment, except for the elements of a run of numbers: a shown run stands
for the run itself, and its elements are read when the showing is settled.
-/

namespace InstanceRegistry.Scenario

/-- A shared object. -/
inductive Cell where
  /-- What a pointer points to. -/
  | value (v : Value)
  | numbers (ns : List Int)
  | table (entries : Keyed String Int)
  | channel (capacity : Nat)

/-- The shared objects by address, and the addresses that were shown, in order. -/
structure Memory where
  cells : List Cell := []
  numbering : List Address := []

/-- A value as it is shown. -/
inductive Shown where
  | null
  | number (n : Int)
  | text (s : String)
  | truth (b : Bool)
  | numbers (ns : List Int)
  /-- A run of numbers, whose elements are still to be read. -/
  | run (a : Address)
  /-- What a pointer points to; the empty structure has no identity to number. -/
  | pointer (number : Option Nat) (target : Shown)
  | table (number : Nat) (entries : List (String × Int))
  | channel (number : Nat) (capacity : Nat)
  | thunk (result : Int)
  | dynamic (type : Ty) (value : Shown)
  | fault (report : FaultReport)

namespace Memory

/-- Makes an object. -/
def allocate (m : Memory) (c : Cell) : Memory × Value :=
  ({ m with cells := m.cells ++ [c] }, .reference (some m.cells.length))

/-- The number under which an object is shown. -/
def number (m : Memory) (a : Address) : Memory × Nat :=
  match m.numbering.idxOf? a with
  | some i => (m, i + 1)
  | none => ({ m with numbering := m.numbering ++ [a] }, m.numbering.length + 1)

/-- Shows a value of the given type as it is now, within a number of steps. -/
def displayWithin : Nat → Ty → Value → Memory → Memory × Shown
  | 0, _, _, m => (m, .null)
  | steps + 1, .pointer t, .reference (some a), m =>
    let (m, number) := if t.isUnit then (m, none) else (m.number a).map id some
    match m.cells[a]? with
    | some (.value v) =>
      let (m, target) := displayWithin steps t v m
      (m, .pointer number target)
    | _ => (m, .null)
  | steps + 1, .base b, v, m =>
    match b.content, v with
    | .number, .number n => (m, .number n)
    | .text, .text s => (m, .text s)
    | .truth, .truth t => (m, .truth t)
    | .unit, .unit => (m, .text "unit")
    | .triple, .triple x y z => (m, .numbers [x, y, z])
    | .numbers, .reference (some a) => (m, .run a)
    | .table, .reference (some a) =>
      let (m, number) := m.number a
      match m.cells[a]? with
      | some (.table t) => (m, .table number t.entries)
      | _ => (m, .null)
    | .channel, .reference (some a) =>
      let (m, number) := m.number a
      match m.cells[a]? with
      | some (.channel capacity) => (m, .channel number capacity)
      | _ => (m, .null)
    | .thunk, .thunk (some n) => (m, .thunk n)
    | .dynamic, .dynamic _ (.fault e) => (m, .fault e.report)
    | .dynamic, .dynamic d x =>
      let (m, value) := displayWithin steps d x m
      (m, .dynamic d value)
    | _, _ => (m, .null)
  | _ + 1, .pointer _, _, m => (m, .null)

/-- Shows a value of the given type as it is now. A reference and the type of a dynamic value
each take one step, and the two alternate. -/
def display (m : Memory) (t : Ty) (v : Value) : Memory × Shown :=
  displayWithin (2 * m.cells.length + 2) t v m

end Memory

/-- Reads the elements of the runs of numbers in what was shown. -/
def Shown.settle (m : Memory) : Shown → Shown
  | .run a =>
    match m.cells[a]? with
    | some (.numbers ns) => .numbers ns
    | _ => .null
  | .pointer n target => .pointer n (target.settle m)
  | .dynamic type value => .dynamic type (value.settle m)
  | shown => shown

end InstanceRegistry.Scenario
