import InstanceRegistry.Proofs.Persistence

/-!
# Instances that calls return

A call that returns without a fault returns what is stored under its slot, read at
the type of the slot. A request that found the instance knows so directly. A request
that settled on a landing knows it of the flight, whose slot is its own as long as
the registry has numbers left; for the time before that is known, `Grants` keeps
both ways side by side.
-/

namespace InstanceRegistry

variable {σ : Type}

/-- A landing gives an instance only if it is one. -/
theorem Landing.settle_eq_returned {l : Landing} {type : Ty} {v : Value}
    (h : l.settle type = .returned v none) : ∃ u, l = .value u ∧ v = type.unbox u := by
  cases l with
  | value u => exact ⟨u, rfl, (Outcome.returned.inj h).1.symm⟩
  | crash p => cases h
  | fault e =>
      simp only [Landing.settle] at h
      split at h
      · cases h
      · cases h
      · cases h
      · cases h

namespace World

variable {P : Program σ} {t : ThreadId} {w w' : World σ} {th th' : Thread σ} {a : Accessor}
  {v : Value}

/-- The value is the instance of the accessor, from the store or from a flight that the accessor
shared. -/
def Grants (w : World σ) (a : Accessor) (v : Value) : Prop :=
  ∃ u, v = a.slot.type.unbox u ∧
    (w.stored? a.registry a.slot = some u ∨
      ∃ f, w.Shares a f ∧ w.landing? f = some (.value u))

/-- A step keeps what an accessor was granted. -/
theorem Grants.step (h : w.Grants a v) (c : w.Consistent) (hs : w.step P t = some w') :
    w'.Grants a v := by
  obtain ⟨u, rfl, hu | ⟨f, hf, hl⟩⟩ := h
  · exact ⟨u, rfl, Or.inl (c.stored?_step hs hu)⟩
  · exact ⟨u, rfl, Or.inr ⟨f, hf.step hs, c.landing?_step hs hl⟩⟩

/-- What an accessor was granted is stored under its slot, as long as there are numbers left. -/
theorem Grants.stored (h : w.Grants a v) (hw : w.Valid) (hfit : w.IdsFit a.registry) :
    ∃ u, w.stored? a.registry a.slot = some u ∧ v = a.slot.type.unbox u := by
  obtain ⟨u, hv, hu | ⟨f, hf, hl⟩⟩ := h
  · exact ⟨u, hu, hv⟩
  · obtain ⟨fl, hfl, hl⟩ := landing?_eq_some.mp hl
    obtain ⟨hr, hs⟩ := hw.consistent.shares_slot hw.numbered hfit hf hfl
    have hu := hw.consistent.kept hfl hl
    rw [hr, hs] at hu
    exact ⟨u, hu, hv⟩

/-- Every value that a thread is about to hand to a caller was granted to the accessor. -/
def Answered (w : World σ) : Prop :=
  ∀ (t : ThreadId) (a : Accessor) (v : Value) (S : List (Frame σ)),
    w.threads[t]? = some ⟨.returning (.returned v none), S⟩ → Stacked (some a) S → w.Grants a v

/-- A thread that comes to hand an instance to a caller got it from its request, or it was
handing it on already. -/
theorem Turn.grants {S : List (Frame σ)}
    (turn : Turn P t w w' th ⟨.returning (.returned v none), S⟩)
    (c : w.Consistent) (hp : th.Proper) (ht : w.threads[t]? = some th)
    (hS : Stacked (some a) S) (hA : w.Answered) : w.Grants a v := by
  generalize hth' : (⟨.returning (.returned v none), S⟩ : Thread σ) = th' at turn
  cases turn with
  | stop hq =>
      cases hth'
      cases hp with
      | running h => cases h.unique hS
  | pass hq ho =>
      cases hth'
      cases hp with
      | returning h =>
          cases h with
          | again hi h =>
              cases hS
              exact hA t a v _ ht (.again hi h)
  | settle hq =>
      cases hp with
      | requesting hp h =>
          obtain ⟨ho, rfl⟩ := Thread.mk.inj hth'
          obtain rfl := Option.some.inj (h.unique hS)
          obtain ⟨u, rfl, rfl⟩ := Landing.settle_eq_returned (Focus.returning.inj ho).symm
          have hsound := c.sound ht (List.mem_cons_self ..)
          exact ⟨u, rfl, Or.inr ⟨_, hsound.1, hsound.2⟩⟩
  | finish hq =>
      cases hp with
      | requesting hp h =>
          obtain ⟨ho, rfl⟩ := Thread.mk.inj hth'
          obtain rfl := Option.some.inj (h.unique hS)
          obtain ⟨u, hu, hou⟩ := c.sound ht (List.mem_cons_self ..)
          obtain ⟨rfl, -⟩ := Outcome.returned.inj ((Focus.returning.inj ho).trans hou)
          exact ⟨u, rfl, Or.inl hu⟩
  | _ => cases hth'

/-- Every value that is handed to a caller was granted to it, after a step as before. -/
theorem Answered.step (hA : w.Answered) (hw : w.Valid) (hs : w.step P t = some w') :
    w'.Answered := by
  obtain ⟨th, th', ht, hset, turn⟩ := step_turn hs
  intro u a v S hu hS
  obtain ⟨rfl, rfl⟩ | ⟨-, hu⟩ := threads_cases (getElem?_threads_set ht hset) hu
  · exact (turn.grants hw.consistent (hw.proper _ _ ht) ht hS hA).step hw.consistent hs
  · exact (hA u a v S hu hS).step hw.consistent hs

/-- Every value that is handed to a caller was granted to it, in every run of a fresh world. -/
theorem Run.answered {w₀ : World σ} {h : List (Move σ)} (run : Run P w₀ h w)
    (fresh : w₀.Fresh) : w.Answered := by
  refine run.keeps (I := fun _ w => w.Answered) fresh ?_ fun hw hA hs => hA.step hw hs
  intro t a v S ht
  obtain ⟨c, hc⟩ := fresh.threads _ (List.mem_of_getElem? ht)
  cases hc

end World

end InstanceRegistry
