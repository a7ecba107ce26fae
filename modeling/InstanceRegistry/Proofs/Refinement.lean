import InstanceRegistry.Proofs.Singleton

/-!
# The two states of a slot

To those who use a registry, a slot is uninitialized or initialized with an instance.
`World.slotState` reads this state off the store; flights, failed attempts and callers
that still wait do not show in it. Every step of a run leaves all slots in their states
or initializes one slot, with the instance that the thread has just got from its
constructor. Whoever inspects a registry is shown the states of its slots at that one
step, and a call that returns an instance returns that of its slot.

## Implementation notes

An instance is stored as a dynamic value. The state of a slot has the instance as it is
read at the type of the slot, which is how callers get it.
-/

namespace InstanceRegistry

variable {σ : Type}

/-- The state of a slot. -/
inductive SlotState where
  | uninitialized
  | initialized (v : Value)

/-- The instance of a slot in the given state. -/
def SlotState.value? : SlotState → Option Value
  | .uninitialized => none
  | .initialized v => some v

/-- The abstract step: one slot of one registry is initialized, and all others stay as they are. -/
def Initializes (A A' : RegistryId → Slot → SlotState) (r : RegistryId) (s : Slot)
    (v : Value) : Prop :=
  A r s = .uninitialized ∧
    ∀ r' s', A' r' s' = if r' = r ∧ s' = s then .initialized v else A r' s'

/-- The state of a slot of a registry. -/
def World.slotState (w : World σ) (r : RegistryId) (s : Slot) : SlotState :=
  match w.stored? r s with
  | none => .uninitialized
  | some u => .initialized (s.type.unbox u)

namespace Keyed

variable {α β : Type} [DecidableEq α]

/-- The keys after an insertion: the new key is at the end, unless it was there. -/
theorem keys_insert (m : Keyed α β) (k : α) (v : β) :
    (m.insert k v).keys = if k ∈ m.keys then m.keys else m.keys ++ [k] := by
  obtain ⟨entries⟩ := m
  change (replace k v entries).map Prod.fst =
    if k ∈ entries.map Prod.fst then entries.map Prod.fst else entries.map Prod.fst ++ [k]
  induction entries with
  | nil => rfl
  | cons entry rest ih =>
      obtain ⟨k', v'⟩ := entry
      by_cases hk : k' = k
      · simp [replace, hk]
      · simp only [replace, hk, if_false, List.map_cons, ih, List.mem_cons, Ne.symm hk, false_or]
        split <;> rfl

theorem nodup_keys_insert {m : Keyed α β} (h : m.keys.Nodup) (k : α) (v : β) :
    (m.insert k v).keys.Nodup := by
  rw [keys_insert]
  split
  · exact h
  · rename_i hk
    apply List.nodup_append.mpr
    refine ⟨h, by simp, ?_⟩
    intro a ha b hb hab
    obtain rfl := List.mem_singleton.mp hb
    exact hk (hab ▸ ha)

theorem mem_keys_iff (m : Keyed α β) (k : α) : k ∈ m.keys ↔ ∃ v, m.get? k = some v := by
  rw [← Option.ne_none_iff_exists', Ne, get?_eq_none_iff, Decidable.not_not]

end Keyed

namespace Registry

/-- No change makes a slot hold two instances. -/
theorem Change.nodup_slots {reg reg' : Registry} (hc : reg.Change reg') (h : reg.slots.Nodup) :
    reg'.slots.Nodup := by
  cases hc with
  | keep s v => exact Keyed.nodup_keys_insert h s v
  | identify hi =>
      obtain ⟨ids, last, rfl⟩ := identify_frame hi
      exact h
  | attach | depart | arrive => exact h

/-- The registry shows its slots in the given states: what it has under a slot, the list of its
slots and their number. -/
structure Shows (reg : Registry) (state : Slot → SlotState) : Prop where
  lookup : ∀ s, reg.lookup s = (state s).value?
  nodup_slots : reg.slots.Nodup
  mem_slots : ∀ s, s ∈ reg.slots ↔ ∃ v, state s = .initialized v
  size : reg.size = reg.slots.length

end Registry

/-- The last move of a thread in a history. -/
def lastMove? (t : ThreadId) (h : List (Move σ)) : Option (Move σ) :=
  (h.filter fun m => m.thread == t).getLast?

@[simp] theorem lastMove?_append_self (h : List (Move σ)) (m : Move σ) :
    lastMove? m.thread (h ++ [m]) = some m := by
  simp [lastMove?, List.filter_append]

theorem lastMove?_append_of_ne {t : ThreadId} {m : Move σ} (hne : m.thread ≠ t)
    (h : List (Move σ)) : lastMove? t (h ++ [m]) = lastMove? t h := by
  simp [lastMove?, List.filter_append, hne]

namespace World

variable {P : Program σ} {t : ThreadId} {w w' : World σ} {th th' : Thread σ} {r : RegistryId}
  {s : Slot} {h : List (Move σ)}

theorem slotState_of_stored {u : Value} (hu : w.stored? r s = some u) :
    w.slotState r s = .initialized (s.type.unbox u) := by
  rw [slotState, hu]

theorem slotState_eq_uninitialized : w.slotState r s = .uninitialized ↔ w.stored? r s = none := by
  unfold slotState
  split <;> simp_all

theorem slotState_congr (hs : w'.stored? r s = w.stored? r s) :
    w'.slotState r s = w.slotState r s := by
  rw [slotState, slotState, hs]

/-- In every run each registry shows the states of its slots. -/
theorem Run.shows {w₀ : World σ} (run : Run P w₀ h w) (fresh : w₀.Fresh) {reg : Registry}
    (hr : w.registries[r]? = some reg) : reg.Shows (w.slotState r) := by
  have hget (s : Slot) : reg.store.get? s = w.stored? r s := (stored?_of_get hr s).symm
  refine ⟨fun s => ?_, ?_, fun s => ?_, (List.length_map Prod.fst).symm⟩
  · rw [Registry.lookup, hget, slotState]
    cases w.stored? r s <;> rfl
  · refine run.forall_registries fresh (I := fun reg => reg.slots.Nodup) (fun bare os => ?_)
      (fun h hc => hc.nodup_slots h) reg (List.mem_of_getElem? hr)
    cases bare <;> exact List.nodup_nil
  · rw [Registry.slots, Keyed.mem_keys_iff, hget, slotState]
    cases w.stored? r s <;> simp

/-- The thread whose next step stores an instance. -/
theorem requesting_of_incident_stored {f : FlightId} {v : Value}
    (hi : w.incident? t = some (.stored f v)) :
    ∃ a S, w.threads[t]? = some ⟨.requesting a (.keep f v), S⟩ := by
  unfold incident? at hi
  split at hi
  · obtain ⟨_, -, hi⟩ := Option.map_eq_some_iff.mp hi
    cases hi
  · rename_i a g u S ht
    split at hi
    · cases hi
      exact ⟨a, S, ht⟩
    · cases hi
  · cases hi
  · obtain ⟨_, -, hi⟩ := Option.map_eq_some_iff.mp hi
    cases hi
  · cases hi

/-- A step leaves the store as it is, or it is that of a leader which keeps its instance. -/
theorem stored?_step_cases (hs : w.step P t = some w') :
    (∀ r s, w'.stored? r s = w.stored? r s) ∨
      ∃ a f v S, w.threads[t]? = some ⟨.requesting a (.keep f v), S⟩ ∧
        ∀ r s, w'.stored? r s =
          if r = a.registry ∧ s = a.slot then some v else w.stored? r s := by
  obtain ⟨th, -, R, R', ht, -, hR, -, i, hi, hsh⟩ := step_shift hs
  cases hsh with
  | idle ha | opens ha | closes ha _ | advance ha _ => exact Or.inl ha.stored
  | identify hs | takeOff hs | land hs => exact Or.inl hs
  | @keep a f v R hid hin hf hs =>
      obtain ⟨b, S, hb⟩ := requesting_of_incident_stored hi
      obtain rfl := Option.some.inj (ht.symm.trans hb)
      obtain ⟨hq, -⟩ := List.cons.inj hR
      obtain ⟨rfl, -⟩ := Request.mk.inj hq
      exact Or.inr ⟨b, f, v, S, hb, hs⟩

/-- A thread comes to keep an instance only by the end of the constructor that returned it. -/
theorem Turn.concluded_of_keep {a : Accessor} {f : FlightId} {v : Value} {S : List (Frame σ)}
    (turn : Turn P t w w' th ⟨.requesting a (.keep f v), S⟩) (hp : th.Proper)
    (ht : w.threads[t]? = some th) :
    ∃ x, w.incident? t = some (.concluded a f (.returned x none)) ∧ v = a.slot.type.box x := by
  generalize hth' : (⟨.requesting a (.keep f v), S⟩ : Thread σ) = th' at turn
  cases turn with
  | @conclude o b g S' hq =>
      obtain ⟨hfocus, rfl⟩ := Thread.mk.inj hth'
      obtain ⟨rfl, hk⟩ := Focus.requesting.inj hfocus
      obtain ⟨x, rfl, -⟩ | ⟨l, -, -, hl⟩ := o.conclude_core a.slot g
      · obtain ⟨rfl, rfl⟩ := Phase.keep.inj hk
        exact ⟨x, by rw [incident?, ht], rfl⟩
      · rw [← hk] at hl
        cases hl
  | observed hq =>
      cases hth'
      cases hp with
      | returning hS =>
          cases hS with
          | observation hn hS => cases hn
  | skip hq hr ho =>
      cases hth'
      cases hp with
      | requesting hp hS => cases hp _ _ _ rfl
  | _ => cases hth'

/-- A thread that is about to keep an instance has just got it from its constructor. -/
def JustMade (h : List (Move σ)) (w : World σ) : Prop :=
  ∀ (t : ThreadId) (a : Accessor) (f : FlightId) (v : Value) (S : List (Frame σ)),
    w.threads[t]? = some ⟨.requesting a (.keep f v), S⟩ →
      ∃ m x, lastMove? t h = some m ∧
        m.incident? = some (.concluded a f (.returned x none)) ∧ v = a.slot.type.box x

theorem JustMade.step (hj : JustMade h w) (hw : w.Valid) (hs : w.step P t = some w') :
    JustMade (h ++ [⟨t, w, w'⟩]) w' := by
  obtain ⟨th, th', ht, hset, turn⟩ := step_turn hs
  intro u a f v S hu
  obtain ⟨rfl, rfl⟩ | ⟨hne, hu⟩ := threads_cases (getElem?_threads_set ht hset) hu
  · obtain ⟨x, hx, rfl⟩ := turn.concluded_of_keep (hw.proper _ _ ht) ht
    exact ⟨⟨u, w, w'⟩, x, lastMove?_append_self h ⟨u, w, w'⟩, hx, rfl⟩
  · obtain ⟨m, x, hm, hx, rfl⟩ := hj u a f v S hu
    exact ⟨m, x, by rw [lastMove?_append_of_ne (Ne.symm hne), hm], hx, rfl⟩

/-- In every run a thread that is about to keep an instance has just got it. -/
theorem Run.justMade {w₀ : World σ} (run : Run P w₀ h w) (fresh : w₀.Fresh) : JustMade h w := by
  refine run.keeps fresh ?_ fun hw hj hs => hj.step hw hs
  intro t a f v S ht
  obtain ⟨c, hc⟩ := fresh.threads _ (List.mem_of_getElem? ht)
  cases hc

/-- A step leaves all slots in their states or initializes one of them. -/
theorem JustMade.initializes (hj : JustMade h w) (hw : w.Valid) (hs : w.step P t = some w') :
    (∀ r s, w'.slotState r s = w.slotState r s) ∨
      ∃ m a f x, lastMove? t h = some m ∧
        m.incident? = some (.concluded a f (.returned x none)) ∧
        Initializes w.slotState w'.slotState a.registry a.slot
          (a.slot.type.unbox (a.slot.type.box x)) := by
  obtain hsame | ⟨a, f, v, S, ht, hstored⟩ := stored?_step_cases hs
  · exact Or.inl fun r s => slotState_congr (hsame r s)
  · obtain ⟨m, x, hm, hx, rfl⟩ := hj t a f v S ht
    have hnone : w.stored? a.registry a.slot = none :=
      (hw.consistent.sound ht (q := ⟨a, .keep f _⟩) (List.mem_cons_self ..)).2
    refine Or.inr ⟨m, a, f, x, hm, hx, slotState_eq_uninitialized.mpr hnone, fun r s => ?_⟩
    split
    · rename_i hrs
      obtain ⟨rfl, rfl⟩ := hrs
      exact slotState_of_stored (by rw [hstored, if_pos ⟨rfl, rfl⟩])
    · rename_i hrs
      exact slotState_congr (by rw [hstored, if_neg hrs])

/-- Inspecting a registry is one step, which changes no registry. -/
theorem step_inspect {next : Registry → Code σ} {S : List (Frame σ)} {reg : Registry}
    (ht : w.threads[t]? = some ⟨.running (.inspect r next), S⟩)
    (hr : w.registries[r]? = some reg) :
    w.step P t = some (w.put t (.running (next reg)) S) := by
  simp [step, ht, stepCode, hr]

/-- The states of the slots are all that a registry shows. A step leaves all slots in their states,
or it initializes one slot with the instance that the constructor, which ended by the last step of
the same thread, returned without a fault. Inspecting a registry is a single step at which the
registry shows the states of its slots, which stay as they are. And a call that returns without a
fault returns the instance with which its slot is initialized at that moment.

A registry numbers its slots with words of 64 bits. The part about calls is for registries that
have not given out all of these numbers. -/
theorem Run.refines_slots {P : Program σ} {w₀ w : World σ} {h : List (Move σ)}
    (run : Run P w₀ h w) (fresh : w₀.Fresh) :
    (∀ t w', w.step P t = some w' →
      (∀ r s, w'.slotState r s = w.slotState r s) ∨
        ∃ m a f x v, lastMove? t h = some m ∧
          m.incident? = some (.concluded a f (.returned x none)) ∧
          Initializes w.slotState w'.slotState a.registry a.slot v ∧
          v = a.slot.type.unbox (a.slot.type.box x) ∧ (a.slot.type.Holds x → v = x)) ∧
    (∀ t r next S reg, w.threads[t]? = some ⟨.running (.inspect r next), S⟩ →
      w.registries[r]? = some reg →
        reg.Shows (w.slotState r) ∧
          ∃ w', w.step P t = some w' ∧ w'.threads[t]? = some ⟨.running (next reg), S⟩ ∧
            ∀ r' s, w'.slotState r' s = w.slotState r' s) ∧
    (∀ t a v, w.IdsFit a.registry → w.CallEnds t a (.returned v none) →
      w.slotState a.registry a.slot = .initialized v) := by
  have hw := run.valid fresh
  refine ⟨?_, ?_, ?_⟩
  · intro t w' hs
    obtain hsame | ⟨m, a, f, x, hm, hx, hinit⟩ := (run.justMade fresh).initializes hw hs
    · exact Or.inl hsame
    · exact Or.inr ⟨m, a, f, x, _, hm, hx, hinit, rfl, fun hold => Ty.unbox_box hold⟩
  · intro t r next S reg ht hr
    have hset : (w.put t (.running (next reg)) S).threads =
        w.threads.set t ⟨.running (next reg), S⟩ := rfl
    refine ⟨run.shows fresh hr, _, step_inspect ht hr, ?_, fun r' s => rfl⟩
    simp [getElem?_threads_set ht hset]
  · rintro t a v hfit ⟨next, S, ht⟩
    have hS := (hw.proper t _ ht).stacked_caller
    obtain ⟨u, hu, rfl⟩ := (run.answered fresh t a v _ ht hS).stored hw hfit
    exact slotState_of_stored hu

end World

/-! ### A caller and a reader -/

namespace Sample

/-- Reads the number of stored instances. -/
def reader : Code Unit := .inspect 0 fun reg => .done (.number reg.size) none

/-- One thread calls an accessor, and another reads the registry. -/
def library : World Unit where
  registries := [.new []]
  threads := [.start (caller accessor), .start reader]
  state := ()

theorem library_fresh : library.Fresh := World.fresh_start [] [caller accessor, reader] ()

/-- The tenth step stores the instance, the eleventh reads the registry, and the thirteenth ends
the call. -/
def librarySchedule : List ThreadId := List.replicate 10 0 ++ [1, 0, 0]

/-- The world after some steps of the schedule. -/
def libraryAfter (n : Nat) : World Unit :=
  library.run (program seven) (librarySchedule.take n)

theorem run_library (n : Nat) :
    World.Run (program seven) library (library.history (program seven) (librarySchedule.take n))
      (libraryAfter n) :=
  World.run_of_schedule _ _ _

end Sample

/-- The slot is initialized by one step, a reader is shown its state, and the call returns its
instance. -/
theorem World.Run.refines_slots_seven :
    Initializes (Sample.libraryAfter 9).slotState (Sample.libraryAfter 10).slotState 0 Sample.slot
        (.number 7) ∧
      (∃ reg, (Sample.libraryAfter 10).registries[0]? = some reg ∧ reg.size = 1 ∧
        reg.Shows ((Sample.libraryAfter 10).slotState 0)) ∧
      (Sample.libraryAfter 13).CallEnds 0 Sample.accessor (.returned (.number 7) none) ∧
      (Sample.libraryAfter 13).slotState 0 Sample.slot = .initialized (.number 7) := by
  obtain ⟨hsteps, -, -⟩ := Run.refines_slots (Sample.run_library 9) Sample.library_fresh
  obtain ⟨-, hreads, -⟩ := Run.refines_slots (Sample.run_library 10) Sample.library_fresh
  obtain ⟨-, -, hcalls⟩ := Run.refines_slots (Sample.run_library 13) Sample.library_fresh
  have hends : (Sample.libraryAfter 13).CallEnds 0 Sample.accessor (.returned (.number 7) none) :=
    ⟨_, _, rfl⟩
  have hfit : (Sample.libraryAfter 13).IdsFit 0 := by decide +kernel
  refine ⟨?_, ?_, hends, hcalls 0 Sample.accessor _ hfit hends⟩
  · obtain hsame | ⟨m, a, f, x, v, hm, hx, hinit, -, hv⟩ :=
      hsteps 0 (Sample.libraryAfter 10) rfl
    · cases hsame 0 Sample.slot
    · obtain rfl := Option.some.inj hm
      cases hx
      rw [hv fun h => by cases h] at hinit
      exact hinit
  · obtain ⟨hshows, -⟩ := hreads 1 0 _ [] _ rfl rfl
    exact ⟨_, rfl, rfl, hshows⟩

end InstanceRegistry
