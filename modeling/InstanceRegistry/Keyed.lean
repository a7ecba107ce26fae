/-!
# Keyed tables

A finite table from keys to values that keeps its entries in the order in which
their keys first came. Looking up is the view in which tables are compared; each
operation is described by what it does to that view.
-/

namespace InstanceRegistry

/-- A table from keys to values. -/
structure Keyed (α β : Type) where
  entries : List (α × β) := []

namespace Keyed

variable {α β : Type} [DecidableEq α]

/-- The table without entries. -/
def empty : Keyed α β := ⟨[]⟩

/-- The number of entries. -/
def size (m : Keyed α β) : Nat := m.entries.length

/-- The keys, each in the place of its entry. -/
def keys (m : Keyed α β) : List α := m.entries.map Prod.fst

/-- The value of the first entry under a key. -/
def find (k : α) : List (α × β) → Option β
  | [] => none
  | (k', v) :: rest => if k' = k then some v else find k rest

/-- The entries with the value of one key replaced, or with a new entry at the end. -/
def replace (k : α) (v : β) : List (α × β) → List (α × β)
  | [] => [(k, v)]
  | (k', v') :: rest => if k' = k then (k, v) :: rest else (k', v') :: replace k v rest

/-- The value under a key. -/
def get? (m : Keyed α β) (k : α) : Option β := find k m.entries

/-- Puts a value under a key, in place of the one that is there. -/
def insert (m : Keyed α β) (k : α) (v : β) : Keyed α β := ⟨replace k v m.entries⟩

/-- Removes a key. -/
def erase (m : Keyed α β) (k : α) : Keyed α β :=
  ⟨m.entries.filter fun entry => entry.1 ≠ k⟩

/-- Puts all entries of a second table into the first, where the later one counts. -/
def merge (m n : Keyed α β) : Keyed α β :=
  n.entries.foldl (fun acc entry => acc.insert entry.1 entry.2) m

/-- The table of a list of entries, where the later one of a key counts. -/
def ofList (entries : List (α × β)) : Keyed α β :=
  merge empty ⟨entries⟩

@[simp] theorem get?_empty (k : α) : (empty : Keyed α β).get? k = none := rfl

/-- Inserting changes the value of its own key and of no other. -/
@[simp] theorem get?_insert (m : Keyed α β) (k k' : α) (v : β) :
    (m.insert k v).get? k' = if k' = k then some v else m.get? k' := by
  obtain ⟨entries⟩ := m
  show find k' (replace k v entries) = if k' = k then some v else find k' entries
  induction entries with
  | nil => simp [replace, find, eq_comm]
  | cons entry rest ih =>
    by_cases hk : entry.1 = k <;> by_cases hk' : entry.1 = k' <;> grind [replace, find]

/-- Erasing removes the value of its own key and of no other. -/
@[simp] theorem get?_erase (m : Keyed α β) (k k' : α) :
    (m.erase k).get? k' = if k' = k then none else m.get? k' := by
  obtain ⟨entries⟩ := m
  show find k' (entries.filter fun entry => entry.1 ≠ k) = if k' = k then none else find k' entries
  induction entries with
  | nil => simp [find]
  | cons entry rest ih =>
    by_cases hk : entry.1 = k <;> by_cases hk' : entry.1 = k' <;> grind [find]

theorem find_append (k : α) (entries entries' : List (α × β)) :
    find k (entries ++ entries') = (find k entries).or (find k entries') := by
  induction entries with
  | nil => rfl
  | cons entry rest ih => by_cases hk : entry.1 = k <;> simp [find, hk, ih]

/-- After a merge the last entry of the second table counts, and without one what the first table
had. -/
@[simp] theorem get?_merge (m n : Keyed α β) (k : α) :
    (m.merge n).get? k = (find k n.entries.reverse).or (m.get? k) := by
  obtain ⟨entries⟩ := n
  show (entries.foldl (fun acc entry => acc.insert entry.1 entry.2) m).get? k =
    (find k entries.reverse).or (m.get? k)
  induction entries generalizing m with
  | nil => rfl
  | cons entry rest ih =>
    rw [List.foldl_cons, ih, get?_insert, List.reverse_cons, find_append, Option.or_assoc]
    by_cases hk : entry.1 = k
    · simp [find, hk]
    · simp [find, hk, Ne.symm hk]

end Keyed

end InstanceRegistry
