import InstanceRegistry.Proofs.SlotView
import InstanceRegistry.Proofs.Solo

/-!
# The calls on one slot

What shows of a run are the calls of accessors and how they end, the starts of constructors, and
what observers are told. `trace` lists this in the order of a history. `World.restrict` is the
fresh world in which every thread makes the calls on one slot that it makes in a history, and no
others; one more thread attaches the observers that the history attaches to the registry.

## Implementation notes

What threads do besides calls may depend on the outcomes of calls that are left out. So a thread
of the restricted world has its calls written down instead of the code that made them.
-/

namespace InstanceRegistry

variable {σ τ : Type}

/-- What shows of a call. -/
inductive Sign where
  /-- Code calls the accessor. -/
  | asked
  /-- An observer is told of an event. -/
  | told (o : ObserverId) (event : Event) (fault : Option Fault)
  /-- The constructor starts. -/
  | started
  /-- The call ends. -/
  | answered (o : Outcome)

/-- A sign of a call of a thread. -/
structure Entry where
  thread : ThreadId
  accessor : Accessor
  sign : Sign

/-- What the next step of a request shows, with an observer or without. -/
def Phase.sign? (o : Option ObserverId) : Phase → Option Sign
  | .announce event fault _ => o.map fun o => .told o event fault
  | .build _ => some .started
  | _ => none

/-- What the next step of a thread shows, and of which accessor, with the given observers of the
registries. -/
def Thread.sign? (observers : RegistryId → Option ObserverId) :
    Thread σ → Option (Accessor × Sign)
  | ⟨.running (.call a _), _⟩ => some (a, .asked)
  | ⟨.requesting a p, _⟩ => (p.sign? (observers a.registry)).map fun x => (a, x)
  | ⟨.returning o, .caller a _ :: _⟩ => some (a, .answered o)
  | _ => none

/-- What a move shows. -/
def Move.shown? (m : Move σ) : Option Entry :=
  (m.actor?.bind (Thread.sign? m.before.observer?)).map fun x => ⟨m.thread, x.1, x.2⟩

/-- What a history shows. -/
def trace (h : List (Move σ)) : List Entry := h.filterMap Move.shown?

/-- What a history shows of a slot. -/
def traceOf (r : RegistryId) (s : Slot) (h : List (Move σ)) : List Entry :=
  (trace h).filter fun x => x.accessor.isOf r s

/-- The accessor that an entry shows a thread to call. -/
def Entry.asked? (t : ThreadId) : Entry → Option Accessor
  | ⟨u, a, .asked⟩ => if u = t then some a else none
  | _ => none

/-- The accessors of a slot that a thread calls in a history. -/
def asked (r : RegistryId) (s : Slot) (t : ThreadId) (h : List (Move σ)) : List Accessor :=
  (traceOf r s h).filterMap (Entry.asked? t)

/-- The observers that a history attaches to a registry. -/
def attached (r : RegistryId) (h : List (Move σ)) : List (Option ObserverId) :=
  h.filterMap fun m => m.actor?.bind (Thread.attaches? r)

/-- The accessor for which a constructor ends in the next step of a thread, and how it ends. -/
def Thread.concluded? : Thread σ → Option (Accessor × Outcome)
  | ⟨.returning o, .construction a _ :: _⟩ => some (a, o)
  | _ => none

/-- The ends of constructors in a history. -/
def conclusions (h : List (Move σ)) : List (Accessor × Outcome) :=
  h.filterMap fun m => m.actor?.bind Thread.concluded?

/-- How constructors ended for the accessors with a property. -/
def outcomes (p : Accessor → Bool) (h : List (Move σ)) : List Outcome :=
  ((conclusions h).filter fun x => p x.1).map Prod.snd

theorem trace_append (h h' : List (Move σ)) : trace (h ++ h') = trace h ++ trace h' :=
  List.filterMap_append

theorem traceOf_cons (r : RegistryId) (s : Slot) (m : Move σ) (h : List (Move σ)) :
    traceOf r s (m :: h) = traceOf r s [m] ++ traceOf r s h := by
  rw [traceOf, ← List.singleton_append, trace_append, List.filter_append]
  rfl

theorem asked_cons (r : RegistryId) (s : Slot) (t : ThreadId) (m : Move σ) (h : List (Move σ)) :
    asked r s t (m :: h) = asked r s t [m] ++ asked r s t h := by
  rw [asked, traceOf_cons, List.filterMap_append]
  rfl

theorem attached_cons (r : RegistryId) (m : Move σ) (h : List (Move σ)) :
    attached r (m :: h) = attached r [m] ++ attached r h := by
  rw [attached, ← List.singleton_append, List.filterMap_append]
  rfl

theorem outcomes_cons (p : Accessor → Bool) (m : Move σ) (h : List (Move σ)) :
    outcomes p (m :: h) = outcomes p [m] ++ outcomes p h := by
  rw [outcomes, conclusions, ← List.singleton_append, List.filterMap_append, List.filter_append,
    List.map_append]
  rfl

/-- A thread calls nothing in the move of another thread. -/
theorem asked_of_ne {r : RegistryId} {s : Slot} {t : ThreadId} {m : Move σ} (hm : m.thread ≠ t) :
    asked r s t [m] = [] := by
  apply List.filterMap_eq_nil_iff.mpr
  intro x hx
  obtain ⟨m', hm', he⟩ := List.mem_filterMap.mp (List.mem_filter.mp hx).1
  obtain rfl := List.mem_singleton.mp hm'
  obtain ⟨⟨a, sign⟩, -, rfl⟩ := Option.map_eq_some_iff.mp he
  cases sign with
  | asked => exact if_neg hm
  | told | started | answered => rfl

/-- Only a call shows of code. -/
theorem Thread.sign?_running {observers : RegistryId → Option ObserverId} {c : Code σ}
    {S : List (Frame σ)} (hc : ∀ a next, c ≠ .call a next) :
    Thread.sign? observers ⟨.running c, S⟩ = none := by
  cases c with
  | call a next => exact (hc a next rfl).elim
  | _ => rfl

/-- Code that runs by itself shows nothing. -/
theorem Solo.trace_eq_nil {t : ThreadId} {S : List (Frame σ)} {h : List (Move σ)}
    (hs : Solo t S h) : trace h = [] := by
  apply List.filterMap_eq_nil_iff.mpr
  intro m hm
  obtain ⟨-, c, hactor, hc⟩ := hs m hm
  rw [Move.shown?, hactor, Option.bind_some, Thread.sign?_running hc]
  rfl

section Single

variable {t : ThreadId} {v w : World σ} {th : Thread σ} (ht : v.threads[t]? = some th)
include ht

theorem trace_singleton :
    trace [(⟨t, v, w⟩ : Move σ)] =
      ((th.sign? v.observer?).map fun x => Entry.mk t x.1 x.2).toList := by
  have he : (⟨t, v, w⟩ : Move σ).shown? =
      (th.sign? v.observer?).map fun x => Entry.mk t x.1 x.2 := by
    rw [Move.shown?, Move.actor?, ht]
    rfl
  rw [trace, List.filterMap_cons, he]
  cases (th.sign? v.observer?).map fun x => Entry.mk t x.1 x.2 <;> rfl

theorem attached_singleton (r : RegistryId) :
    attached r [(⟨t, v, w⟩ : Move σ)] = (th.attaches? r).toList := by
  simp only [attached, Move.actor?, List.filterMap_cons, ht, Option.bind_some]
  cases th.attaches? r <;> rfl

theorem outcomes_singleton (p : Accessor → Bool) :
    outcomes p [(⟨t, v, w⟩ : Move σ)] =
      ((th.concluded?.filter fun x => p x.1).map Prod.snd).toList := by
  simp only [outcomes, conclusions, Move.actor?, List.filterMap_cons, ht, Option.bind_some]
  cases th.concluded? with
  | none => rfl
  | some x => cases hp : p x.1 <;> simp [hp, Option.filter]

end Single

/-- Calls accessors one after another. -/
def Code.script : List Accessor → Code σ
  | [] => .done .unit none
  | a :: rest => .call a fun _ => script rest

/-- Attaches observers to a registry one after another. -/
def Code.attachments (r : RegistryId) : List (Option ObserverId) → Code σ
  | [] => .done .unit none
  | o :: rest => .attach r o (attachments r rest)

/-- The fresh world with the calls on a slot that a history makes. -/
def World.restrict (w₀ : World σ) (r : RegistryId) (s : Slot) (h : List (Move σ)) (x : τ) :
    World τ where
  registries := w₀.registries
  threads := (List.range w₀.threads.length).map (fun t => .start (.script (asked r s t h))) ++
    [.start (.attachments r (attached r h))]
  state := x

/-- Nothing has happened yet in a restricted world. -/
theorem World.Fresh.restrict {w₀ : World σ} (fresh : w₀.Fresh) (r : RegistryId) (s : Slot)
    (h : List (Move σ)) (x : τ) : (w₀.restrict r s h x).Fresh := by
  refine ⟨fresh.registries, rfl, fun th hth => ?_⟩
  rcases List.mem_append.mp hth with hth | hth
  · obtain ⟨t, -, rfl⟩ := List.mem_map.mp hth
    exact ⟨_, rfl⟩
  · exact ⟨_, List.mem_singleton.mp hth⟩

end InstanceRegistry
