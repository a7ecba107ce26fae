import InstanceRegistry.Fault

/-!
# Searching a fault and what it wraps

A fault is searched from itself inwards, and through the parts of a joined fault
from first to last. Two questions are asked this way: whether a sentinel is in the
fault, and what the first part of some form in it is. A fault can interfere with
both: it may pass for a match, or have its cause behind an absent pointer, where it
cannot be looked into.
-/

namespace InstanceRegistry

/-- The answer of a search. -/
inductive Search (α : Type) where
  | absent
  | found (a : α)
  /-- Some fault passed for a match and gave nothing. -/
  | hollow
  /-- The search dereferenced an absent pointer. -/
  | crashed

namespace Search

/-- Whether the searcher is told that there is a match. -/
def matched {α : Type} : Search α → Bool
  | .found _ | .hollow => true
  | .absent | .crashed => false

end Search

namespace Fault

mutual

/-- Searches a fault, then what it wraps. The visitor settles the search at a
part or lets it go on. -/
def search {α : Type} (visit : Fault → Option (Search α)) : Fault → Search α
  | .labelled label (some cause) =>
    (visit (.labelled label (some cause))).getD (search visit cause)
  | .construction type name (some cause) =>
    (visit (.construction type name (some cause))).getD (search visit cause)
  | .joined parts => (visit (.joined parts)).getD (searchAll visit parts)
  | e => (visit e).getD .absent
termination_by structural e => e

/-- Searches several faults until one search is settled. -/
def searchAll {α : Type} (visit : Fault → Option (Search α)) : List Fault → Search α
  | [] => .absent
  | e :: rest =>
    match search visit e with
    | .absent => searchAll visit rest
    | settled => settled
termination_by structural es => es

end

mutual

/-- What a search finds, its visitor found at some part, and no part is larger than the whole. -/
theorem search_found {α : Type} {visit : Fault → Option (Search α)} {a : α} (e : Fault)
    (h : search visit e = .found a) :
    ∃ part, visit part = some (.found a) ∧ sizeOf part ≤ sizeOf e := by
  cases hv : visit e with
  | some r =>
    refine ⟨e, ?_, Nat.le_refl _⟩
    cases e with
    | labelled _ cause | construction _ _ cause =>
      cases cause <;> simp_all [search]
    | _ => simp_all [search]
  | none =>
    cases e with
    | labelled _ cause | construction _ _ cause =>
      cases cause with
      | none => simp [search, hv] at h
      | some cause =>
        simp only [search, hv, Option.getD_none] at h
        obtain ⟨part, hp, hs⟩ := search_found cause h
        refine ⟨part, hp, Nat.le_trans hs ?_⟩
        simp +arith
    | joined parts =>
      simp only [search, hv, Option.getD_none] at h
      obtain ⟨part, hp, hs⟩ := searchAll_found parts h
      refine ⟨part, hp, Nat.le_trans hs ?_⟩
      simp +arith
    | _ => simp [search, hv] at h

/-- What a search of several faults finds, it found in one of them. -/
theorem searchAll_found {α : Type} {visit : Fault → Option (Search α)} {a : α} (es : List Fault)
    (h : searchAll visit es = .found a) :
    ∃ part, visit part = some (.found a) ∧ sizeOf part ≤ sizeOf es := by
  cases es with
  | nil => simp [searchAll] at h
  | cons e rest =>
    rw [searchAll] at h
    split at h
    · obtain ⟨part, hp, hs⟩ := searchAll_found rest h
      refine ⟨part, hp, Nat.le_trans hs ?_⟩
      simp +arith
    · obtain ⟨part, hp, hs⟩ := search_found e h
      refine ⟨part, hp, Nat.le_trans hs ?_⟩
      simp +arith

end

/-- A conversion takes the first part of the wanted form, unless a part before it
passes for one. -/
def visitForm {α : Type} (form? : Fault → Option α) (e : Fault) : Option (Search α) :=
  match form? e with
  | some a => some (.found a)
  | none =>
    match e with
    | .convertsToAll _ => some .hollow
    | .absentConstruction | .absentCause _ => some .crashed
    | _ => none

/-- The first part of a fault that has the wanted form. -/
def find {α : Type} (form? : Fault → Option α) (e : Fault) : Search α :=
  e.search (visitForm form?)

/-- The panic value that a fault carries at its top. -/
def panicValue? : Fault → Option Panic
  | .constructorPanic v => some v
  | _ => none

/-- The panic value of the first panicking constructor that a fault reports. -/
def findPanic (e : Fault) : Search Panic :=
  e.find panicValue?

/-- What a failed construction reports: its slot, as far as it is known, and the cause. -/
structure Construction where
  type : Option Ty
  name : String
  cause : Option Fault

/-- The report of a failed construction that a fault is at its top. An absent
pointer has the form and no report. -/
def construction? : Fault → Option (Option Construction)
  | .construction type name cause => some (some ⟨type, name, cause⟩)
  | .absentConstruction => some none
  | _ => none

/-- The first failed construction that a fault reports. -/
def findConstruction (e : Fault) : Search (Option Construction) :=
  e.find construction?

/-- The cause of a failed construction is smaller than a fault that reports it. -/
theorem findConstruction_cause_lt {e cause : Fault} {type : Option Ty} {name : String}
    (h : e.findConstruction = .found (some ⟨type, name, some cause⟩)) :
    sizeOf cause < sizeOf e := by
  obtain ⟨part, hp, hs⟩ := search_found e h
  refine Nat.lt_of_lt_of_le ?_ hs
  cases part <;> simp_all [visitForm, construction?]
  simp +arith

/-- A comparison is settled by the sentinel itself, by a fault that matches all
sentinels, and, for the failure of constructions, by any construction failure. -/
def visitSentinel (s : Sentinel) (e : Fault) : Option (Search Unit) :=
  match e with
  | .sentinel s' => if s' = s then some (.found ()) else none
  | .matchesAll _ => some (.found ())
  | .construction _ _ _ => if s = .constructionFailed then some (.found ()) else none
  | .absentConstruction => some (if s = .constructionFailed then .found () else .crashed)
  | .absentCause _ => some .crashed
  | _ => none

/-- Looks for a sentinel in a fault. -/
def findSentinel (s : Sentinel) (e : Fault) : Search Unit :=
  e.search (visitSentinel s)

/-- Whether a sentinel is in a fault. -/
def is (e : Fault) (s : Sentinel) : Bool :=
  (e.findSentinel s).matched

end Fault

end InstanceRegistry
