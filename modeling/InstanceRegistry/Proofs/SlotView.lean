import InstanceRegistry.Proofs.Deadlock

/-!
# What a world shows of a slot

All that calls on a slot depend on is the observer of the registry, the stored instance,
whether the slot has an identifier, and how its flights landed. `World.view` collects these.
The identifier itself and the numbers of the flights are left out, since they depend on what
happens on other slots; a flight is known by its rank, the number of flights of the slot that
took off before it. A step of a request on another slot does not show in the view.
-/

namespace InstanceRegistry

variable {σ : Type}

/-- What a world shows of a slot. -/
structure SlotView where
  observer : Option ObserverId
  stored : Option Value
  /-- Whether the slot has an identifier. -/
  named : Bool
  /-- The landings of the flights of the slot, in the order in which they took off. -/
  landings : List (Option Landing)

/-- The flight is one of the slot. -/
def Flight.isOf (r : RegistryId) (s : Slot) (fl : Flight) : Bool :=
  decide (fl.registry = r ∧ fl.slot = s)

/-- The observer that the next step of a thread attaches to a registry. -/
def Thread.attaches? (r : RegistryId) : Thread σ → Option (Option ObserverId)
  | ⟨.running c, _⟩ => c.attaches? r
  | _ => none

/-- The accessor is one of the slot. -/
def Accessor.isOf (r : RegistryId) (s : Slot) (a : Accessor) : Bool :=
  decide (a.registry = r ∧ a.slot = s)

@[simp] theorem Accessor.isOf_self (a : Accessor) : a.isOf a.registry a.slot = true := by
  simp [Accessor.isOf]

section Lists

variable {α β : Type} {p : α → Bool} {l : List α} {i : Nat} {x : α}

/-- The place of a member among those with a property is the number of such members before it. -/
theorem getElem?_filter_countP (hx : l[i]? = some x) (hp : p x = true) :
    (l.filter p)[(l.take i).countP p]? = some x := by
  induction l generalizing i with
  | nil => simp at hx
  | cons y l ih =>
      cases i with
      | zero =>
          obtain rfl := Option.some.inj hx
          simp [hp]
      | succ i =>
          have ih := ih (i := i) hx
          by_cases hy : p y = true
          · simpa [hy] using ih
          · simpa [hy] using ih

/-- Changing one member changes one place among those with a property, if the member has it. -/
theorem map_filter_modify {g : α → α} {q : α → β} {c : β} (hx : l[i]? = some x)
    (hp : ∀ y, p (g y) = p y) (hq : ∀ y, q (g y) = c) :
    ((l.modify i g).filter p).map q =
      if p x = true then ((l.filter p).map q).set ((l.take i).countP p) c
      else (l.filter p).map q := by
  induction l generalizing i with
  | nil => simp at hx
  | cons y l ih =>
      cases i with
      | zero =>
          obtain rfl := Option.some.inj hx
          by_cases hy : p y = true
          · simp [hp, hq, hy]
          · simp [hp, hy]
      | succ i =>
          have ih := ih (i := i) hx
          by_cases hy : p y = true
          · simp only [List.modify_succ_cons, List.filter_cons_of_pos hy, List.map_cons, ih,
              List.take_succ_cons, List.countP_cons_of_pos hy]
            split <;> rfl
          · simp only [List.modify_succ_cons, List.filter_cons_of_neg hy, ih,
              List.take_succ_cons, List.countP_cons_of_neg hy]

end Lists

namespace World

/-- The observer of a registry. -/
def observer? (w : World σ) (r : RegistryId) : Option ObserverId :=
  w.registries[r]?.bind Registry.observer

/-- What the world shows of a slot. -/
def view (w : World σ) (r : RegistryId) (s : Slot) : SlotView where
  observer := w.observer? r
  stored := w.stored? r s
  named := (w.id? r s).isSome
  landings := (w.flights.filter (Flight.isOf r s)).map Flight.landing

/-- The number of flights of the slot that took off before a flight. -/
def rank (w : World σ) (r : RegistryId) (s : Slot) (f : FlightId) : Nat :=
  (w.flights.take f).countP (Flight.isOf r s)

variable {P : Program σ} {t : ThreadId} {w w' : World σ} {th th' : Thread σ} {r : RegistryId}
  {s : Slot} {a : Accessor} {f : FlightId} {reg reg' : Registry}

/-- How a flight of the slot landed is shown at its rank. -/
theorem getElem?_landings {fl : Flight} (hf : w.flights[f]? = some fl)
    (hof : fl.isOf r s = true) :
    (w.view r s).landings[w.rank r s f]? = some fl.landing := by
  simp [view, rank, getElem?_filter_countP hf hof]

/-- The next flight has as its rank the number of flights of the slot. -/
theorem rank_length : w.rank r s w.flights.length = (w.view r s).landings.length := by
  simp [rank, view, List.countP_eq_length_filter]

/-- The rank of a flight is settled when it takes off. -/
theorem Run.rank_eq {h : List (Move σ)} (run : Run P w h w') {k : Nat}
    (hk : k ≤ w.flights.length) : w'.rank r s k = w.rank r s k := by
  induction k with
  | zero => rfl
  | succ k ih =>
      obtain ⟨fl, hfl⟩ : ∃ fl, w.flights[k]? = some fl :=
        ⟨_, List.getElem?_eq_getElem (by omega)⟩
      obtain ⟨l, hfl'⟩ := run.flight hfl
      have ih := ih (by omega)
      simp only [rank, List.take_add_one, List.countP_append, hfl, hfl'] at ih ⊢
      rw [ih]
      rfl

/-- Replacing a registry by one with the same observer does not show in it. -/
theorem observer?_of_set {r' : RegistryId} (hr : w.registries[r']? = some reg)
    (hw : w'.registries = w.registries.set r' reg') (ho : reg'.observer = reg.observer)
    (r : RegistryId) : w'.observer? r = w.observer? r := by
  rw [observer?, hw, bind_getElem?_set hr, ho]
  split
  · rename_i h
    rw [h, observer?, hr]
    rfl
  · rfl

theorem view_of_agree (ha : Agree w w') (ho : w'.observer? r = w.observer? r) :
    w'.view r s = w.view r s := by
  simp only [view, ho, ha.stored, ha.id, ha.flights]

theorem Quiet.view (hq : Quiet w w') (r : RegistryId) (s : Slot) : w'.view r s = w.view r s :=
  view_of_agree hq.agree (by rw [observer?, observer?, hq.registries])

/-- Getting an identifier shows in the view of its own slot only. -/
theorem view_identify {r' : RegistryId} {s' : Slot} {id : String}
    (hr : w.registries[r']? = some reg) (hi : reg.identify s' = (.ok id, reg'))
    (hw : Writes w w' r' reg') :
    w'.view r s = if r = r' ∧ s = s' then { w.view r s with named := true } else w.view r s := by
  have hobs : w'.observer? r = w.observer? r := by
    obtain ⟨ids, last, rfl⟩ := Registry.identify_frame hi
    exact observer?_of_set hr hw.registries rfl r
  have hid := id?_of_identify hr hi hw r s
  simp only [view, hobs, stored?_of_identify hr hi hw, hw.flights, hid]
  split <;> rfl

/-- Taking off shows in the view of its own slot only. -/
theorem view_takeOff {r' : RegistryId} {s' : Slot} {id : String}
    (hr : w.registries[r']? = some reg)
    (hreg : w'.registries = w.registries.set r' (reg.depart id f))
    (hf : w'.flights = w.flights ++ [⟨r', s', id, t, none⟩]) :
    w'.view r s = if r = r' ∧ s = s' then
      { w.view r s with landings := (w.view r s).landings ++ [none] } else w.view r s := by
  simp only [view, observer?_of_set hr hreg rfl, stored?_of_set hr hreg rfl,
    id?_of_set hr hreg rfl, hf, List.filter_append, List.map_append]
  by_cases hon : r = r' ∧ s = s'
  · simp [hon, Flight.isOf]
  · have hon' : ¬ (r' = r ∧ s' = s) := fun h => hon ⟨h.1.symm, h.2.symm⟩
    simp [hon, hon', Flight.isOf]

/-- Storing an instance shows in the view of its own slot only. -/
theorem view_keep {r' : RegistryId} {s' : Slot} {v : Value} (hr : w.registries[r']? = some reg)
    (hw : Writes w w' r' (reg.keep s' v)) :
    w'.view r s = if r = r' ∧ s = s' then { w.view r s with stored := some v }
      else w.view r s := by
  simp only [view, observer?_of_set hr hw.registries rfl, stored?_of_keep hr hw,
    id?_of_set hr hw.registries rfl, hw.flights]
  split <;> rfl

/-- Landing shows in the view of the slot of the flight only. -/
theorem view_land {r' : RegistryId} {flight : Flight} {l : Landing}
    (hr : w.registries[r']? = some reg) (hf : w.flights[f]? = some flight)
    (hreg : w'.registries = w.registries.set r' (reg.arrive flight.id))
    (hfs : w'.flights = (w.setLanding f l).flights) :
    w'.view r s = if flight.isOf r s = true then
      { w.view r s with landings := (w.view r s).landings.set (w.rank r s f) (some l) }
      else w.view r s := by
  have hland := map_filter_modify (p := Flight.isOf r s) (q := Flight.landing) (c := some l)
    (g := fun fl : Flight => { fl with landing := some l }) hf (fun _ => rfl) (fun _ => rfl)
  simp only [view, observer?_of_set hr hreg rfl, stored?_of_set hr hreg rfl,
    id?_of_set hr hreg rfl, hfs, setLanding, hland, rank]
  split <;> rfl

/-- Attaching an observer shows in the views of its own registry only. -/
theorem view_attach {r' : RegistryId} {o : Option ObserverId}
    (hr : w.registries[r']? = some reg) (hw : Writes w w' r' (reg.attach o)) :
    w'.view r s = if r = r' then { w.view r s with observer := o } else w.view r s := by
  simp only [view, stored?_of_set hr hw.registries rfl, id?_of_set hr hw.registries rfl,
    hw.flights, observer?, hw.registries, bind_getElem?_set hr]
  split <;> rfl

section Step

variable {v : World σ}

/-- A flight that is listed under the identifier of a slot is one of the slot, as long as there are
numbers left. -/
theorem Valid.isOf_of_inFlight? (hw : w.Valid) (hfit : w.IdsFit r) {id : String} {f : FlightId}
    (hid : w.id? r s = some id) (hin : w.inFlight? r id = some f) :
    ∃ fl, w.flights[f]? = some fl ∧ fl.isOf r s = true ∧ fl.landing = none := by
  obtain ⟨fl, hfl, rfl, rfl, hl⟩ := hw.consistent.listed hin
  have hslot := hw.numbered.slot_eq hfit (hw.consistent.named hfl) hid
  exact ⟨fl, hfl, by simp [Flight.isOf, hslot], hl⟩

/-- A flight of a slot that is in the air is listed under the identifier of the slot. -/
theorem Consistent.inFlight?_of_isOf (c : w.Consistent) {id : String} {f : FlightId} {fl : Flight}
    (hid : w.id? r s = some id) (hfl : w.flights[f]? = some fl) (hof : fl.isOf r s = true)
    (hl : fl.landing = none) : w.inFlight? r id = some f := by
  obtain ⟨rfl, rfl⟩ := of_decide_eq_true hof
  obtain rfl := Option.some.inj (hid.symm.trans (c.named hfl))
  exact (c.led hfl hl).1

/-- Code shows in the view of a slot only if it attaches an observer to the registry. -/
theorem view_stepCode {S : List (Frame σ)} {c : Code σ} (hreg : v.IsSetUp r)
    (hs : v.stepCode P t S c = some w) :
    w.view r s = { v.view r s with observer := (c.attaches? r).getD (v.observer? r) } := by
  obtain ⟨reg, hr, -⟩ := hreg
  obtain ⟨th', -, turn⟩ := stepCode_turn hs
  have hagree : Agree v w := by
    cases turn with
    | proceed hr hf => exact agree_of_rearranged hr hf
    | stop hq | notify hq | call hq => exact hq.agree
  have hobs : w.observer? r = (c.attaches? r).getD (v.observer? r) := by
    rw [observer?, observer_stepCode hr hs, observer?, hr]
    rfl
  simp only [view, hagree.stored, hagree.id, hagree.flights, hobs]

/-- A step that is no step of a request on the slot shows in its view only if it attaches an
observer to the registry. -/
theorem Valid.view_step (hv : v.Valid) (hreg : v.IsSetUp r) (ht : v.threads[t]? = some th)
    (hs : v.step P t = some w)
    (hoff : ∀ q, th.focus.request? = some q → q.accessor.isOf r s = false) :
    w.view r s = { v.view r s with observer := (th.attaches? r).getD (v.observer? r) } := by
  obtain ⟨focus, S⟩ := th
  cases focus with
  | running c =>
      rw [World.step, ht] at hs
      exact view_stepCode hreg hs
  | returning o =>
      obtain ⟨x, -, turn⟩ := turn_of_step ht hs
      cases turn with
      | resume hq | answer hq | retry hq | pass hq _ | conclude hq | observed hq | crash hq _
      | interrupt hq _ => exact hq.view r s
  | requesting a p =>
      have hne : ¬ (r = a.registry ∧ s = a.slot) := by
        rintro ⟨rfl, rfl⟩
        have := hoff _ rfl
        simp [Accessor.isOf] at this
      obtain ⟨x, -, turn⟩ := turn_of_step ht hs
      change w.view r s = v.view r s
      cases turn with
      | identify hr hi hw => rw [view_identify hr hi hw, if_neg hne]
      | takeOff hr hn hreg hf => rw [view_takeOff hr hreg hf, if_neg hne]
      | keep hr hb hw => rw [view_keep hr hw, if_neg hne]
      | @land _ _ _ f flight l hr hf hreg hfs =>
          obtain ⟨⟨fl, hfl, -, hfr, hfs', -⟩, -⟩ := hv.consistent.sound ht (List.mem_cons_self ..)
          obtain rfl := Option.some.inj (hf.symm.trans hfl)
          rw [view_land hr hf hreg hfs, if_neg]
          intro hof
          obtain ⟨h₁, h₂⟩ := of_decide_eq_true hof
          exact hne ⟨h₁.symm.trans hfr, h₂.symm.trans hfs'⟩
      | refuse hr hi hw =>
          refine view_of_agree (agree_of_refuse hr hi hw) ?_
          obtain ⟨ids, last, rfl⟩ := Registry.identify_frame hi
          exact observer?_of_set hr hw.registries rfl r
      | lost hq _ | hit hq _ _ | miss hq _ _ | join hq _ _ | share hq _ | release hq _ _
      | find hq _ _ | clear hq _ _ | build hq | spill hq _ _ | settle hq | finish hq | skip hq _ _
      | announce hq _ _ => exact hq.view r s

end Step

end World

end InstanceRegistry
