import InstanceRegistry.Proofs.Agreement

/-!
# What is in a fault

A fault wraps others, and these are its parts. A search comes to nothing if it is settled at no part
of the fault. For the panic of a constructor this means that no part reports one, passes for one or
has its cause behind an absent pointer, where the search would have to look; faults of which all
parts are like this are called ordinary.

Wrapping a fault as the failure of one construction after the other leaves a chain that can be
unwrapped again. The outermost failure is the one that is found first, and for all sentinels but the
one of failed constructions the wrapped fault answers as the fault inside does.
-/

namespace InstanceRegistry

namespace Fault

/-! ### Parts of a fault -/

/-- The first fault is the second one, or it is wrapped somewhere in it. -/
inductive Part : Fault → Fault → Prop
  | self (e : Fault) : Part e e
  | labelled {p label cause} (h : Part p cause) : Part p (.labelled label (some cause))
  | construction {p type name cause} (h : Part p cause) :
      Part p (.construction type name (some cause))
  | joined {p e parts} (he : e ∈ parts) (h : Part p e) : Part p (.joined parts)

section Search

variable {α : Type} {visit : Fault → Option (Search α)}

/-- A search that is settled nowhere with nothing goes on to what is wrapped. -/
theorem getD_eq_absent_iff {x : Option (Search α)} {y : Search α} (hx : x ≠ some .absent) :
    x.getD y = .absent ↔ x = none ∧ y = .absent := by
  cases x with
  | none => simp
  | some r => simpa using fun h => hx (congrArg some h)

mutual

/-- A search comes to nothing if it is settled at no part of the fault. -/
theorem search_eq_absent_iff (hv : ∀ e, visit e ≠ some .absent) (e : Fault) :
    search visit e = .absent ↔ ∀ p, Part p e → visit p = none := by
  -- A fault that wraps nothing has no part but itself.
  have leaf {e : Fault} (hs : search visit e = (visit e).getD .absent)
      (hp : ∀ p, Part p e → p = e) :
      search visit e = .absent ↔ ∀ p, Part p e → visit p = none := by
    rw [hs, getD_eq_absent_iff (hv e)]
    constructor
    · rintro ⟨hn, -⟩ p hpart
      rw [hp p hpart]
      exact hn
    · intro h
      exact ⟨h e (.self e), rfl⟩
  cases e with
  | labelled label cause =>
      cases cause with
      | none => exact leaf rfl fun p hp => by cases hp; rfl
      | some cause =>
          rw [search, getD_eq_absent_iff (hv _), search_eq_absent_iff hv cause]
          constructor
          · rintro ⟨hn, hc⟩ p (_ | hp)
            · exact hn
            · exact hc p hp
          · intro h
            exact ⟨h _ (.self _), fun p hp => h p (.labelled hp)⟩
  | construction type name cause =>
      cases cause with
      | none => exact leaf rfl fun p hp => by cases hp; rfl
      | some cause =>
          rw [search, getD_eq_absent_iff (hv _), search_eq_absent_iff hv cause]
          constructor
          · rintro ⟨hn, hc⟩ p (_ | _ | hp)
            · exact hn
            · exact hc p hp
          · intro h
            exact ⟨h _ (.self _), fun p hp => h p (.construction hp)⟩
  | joined parts =>
      rw [search, getD_eq_absent_iff (hv _), searchAll_eq_absent_iff hv parts]
      constructor
      · rintro ⟨hn, hc⟩ p (_ | _ | _ | ⟨he, hp⟩)
        · exact hn
        · exact hc _ he p hp
      · intro h
        exact ⟨h _ (.self _), fun e he p hp => h p (.joined he hp)⟩
  | plain | sentinel | fielded | absentPointer | absentConstruction | absentCause | convertsToAll
  | matchesAll | constructorPanic => exact leaf rfl fun p hp => by cases hp; rfl

/-- A search of several faults comes to nothing if that of each does. -/
theorem searchAll_eq_absent_iff (hv : ∀ e, visit e ≠ some .absent) (es : List Fault) :
    searchAll visit es = .absent ↔ ∀ e ∈ es, ∀ p, Part p e → visit p = none := by
  cases es with
  | nil => simp [searchAll]
  | cons e rest =>
      rw [List.forall_mem_cons, ← search_eq_absent_iff hv e, ← searchAll_eq_absent_iff hv rest,
        searchAll]
      cases search visit e <;> simp

end

end Search

/-- The fault at its top neither reports the panic of a constructor, nor passes for such a report,
nor has its cause behind an absent pointer. -/
def isOrdinary : Fault → Bool
  | .constructorPanic _ | .convertsToAll _ | .absentConstruction | .absentCause _ => false
  | _ => true

/-- All parts of the fault are ordinary. -/
def Ordinary (e : Fault) : Prop := ∀ p, Part p e → p.isOrdinary = true

/-- The panic of a constructor is looked for in vain in ordinary faults, and only in them. -/
theorem findPanic_eq_absent_iff (e : Fault) : e.findPanic = .absent ↔ e.Ordinary := by
  have hvisit (p : Fault) : visitForm panicValue? p = none ↔ p.isOrdinary = true := by
    cases p <;> simp [visitForm, panicValue?, isOrdinary]
  have hsettles (p : Fault) : visitForm panicValue? p ≠ some .absent := by
    cases p <;> simp [visitForm, panicValue?]
  rw [findPanic, find, search_eq_absent_iff hsettles, Ordinary]
  exact forall₂_congr fun p _ => hvisit p

/-! ### Chains of failed constructions -/

/-- The fault as the cause of failed constructions of slots, the first of them outermost. -/
def wrap (e : Fault) : List Slot → Fault
  | [] => e
  | s :: rest => .construction (some s.type) s.name (some (e.wrap rest))

/-- The fault that a fault wraps, unless it wraps none or several. -/
def cause? : Fault → Option Fault
  | .labelled _ cause | .construction _ _ cause => cause
  | _ => none

/-- The fault that is left after unwrapping a number of times. -/
def unwrap : Nat → Fault → Option Fault
  | 0, e => some e
  | n + 1, e => e.cause?.bind (unwrap n)

variable {e : Fault} {slots : List Slot}

theorem unwrap_wrap {n : Nat} (hn : n ≤ slots.length) :
    (e.wrap slots).unwrap n = some (e.wrap (slots.drop n)) := by
  induction n generalizing slots with
  | zero => rfl
  | succ n ih =>
      cases slots with
      | nil => simp at hn
      | cons s rest => exact ih (Nat.le_of_succ_le_succ hn)

/-- Unwrapping as often as the fault was wrapped gives the fault. -/
theorem unwrap_length_wrap : (e.wrap slots).unwrap slots.length = some e := by
  rw [unwrap_wrap (Nat.le_refl _), List.drop_length]
  rfl

/-- Unwrapping before that gives the failed construction of the next slot. -/
theorem unwrap_wrap_of_getElem? {n : Nat} {s : Slot} (hs : slots[n]? = some s) :
    ∃ cause, (e.wrap slots).unwrap n = some (.construction (some s.type) s.name cause) := by
  obtain ⟨hlt, hs⟩ := List.getElem?_eq_some_iff.mp hs
  rw [unwrap_wrap (Nat.le_of_lt hlt), List.drop_eq_getElem_cons hlt, hs]
  exact ⟨_, rfl⟩

@[simp] theorem findPanic_wrap : (e.wrap slots).findPanic = e.findPanic := by
  induction slots with
  | nil => rfl
  | cons s rest ih => rw [wrap, findPanic_construction, ih]

/-- Apart from the sentinel of failed constructions, the wrapped fault matches those that the fault
matches. -/
theorem is_wrap {x : Sentinel} (hx : x ≠ .constructionFailed) :
    (e.wrap slots).is x = e.is x := by
  induction slots with
  | nil => rfl
  | cons s rest ih =>
      rw [← ih, wrap, is, is, findSentinel, findSentinel, search, visitSentinel, if_neg hx]
      rfl

end Fault

end InstanceRegistry
