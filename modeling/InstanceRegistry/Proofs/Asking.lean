import InstanceRegistry.Proofs.Mirror

/-!
# Requests of a run and of its restriction

A step of a request on the slot is followed by the same step of the same request. Where the step
looks at the store, at the observer or at a landing, both worlds show the same. Where it boards a
flight, the identifiers differ: a flight is listed under the identifier of a slot exactly if one of
the flights that the view shows has not landed, and then it is that one.
-/

namespace InstanceRegistry

variable {σ τ : Type}

/-- A request on a slot makes a step, and the restricted run is at the same place of the same
request. -/
structure Asking (P : Program σ) (P' : Program τ) (plan : ConstructorId → Nat → Outcome)
    (tally : τ → ConstructorId → Nat) (ρ : FlightId → FlightId) (h : List (Move σ)) (t : ThreadId)
    (v w : World σ) (v' : World τ) (a : Accessor) (p p' : Phase) (next : Outcome → Code σ)
    (S : List (Frame σ)) : Prop where
  mirror : Mirror P' plan tally ρ a.registry a.slot (⟨t, v, w⟩ :: h) v v'
  valid : v.Valid
  valid' : v'.Valid
  fit : v.IdsFit a.registry
  /-- Flights are named by their ranks. -/
  names : ∀ f ≤ v.flights.length, ρ f = v.rank a.registry a.slot f
  step : v.step P t = some w
  outer : S.filterMap Frame.caller? = []
  thread : v.threads[t]? = some ⟨.requesting a p, a.frames next S⟩
  thread' : v'.threads[t]? =
    some ⟨.requesting a p', a.frames (fun _ => .script (asked a.registry a.slot t h)) []⟩
  renamed : p.Renamed ρ p'

namespace Asking

open World

variable {P : Program σ} {P' : Program τ} {plan : ConstructorId → Nat → Outcome}
  {tally : τ → ConstructorId → Nat} {ρ : FlightId → FlightId} {h : List (Move σ)} {t : ThreadId}
  {v w : World σ} {v' w' : World τ} {a : Accessor} {p p' q q' : Phase}
  {next : Outcome → Code σ} {S : List (Frame σ)} {reg reg' : Registry} {th₁ : Thread σ}
  {th₁' : Thread τ} {f : FlightId}

/-- What shows of a request shows of its own slot. -/
theorem isOf_of_sign? {x : Accessor × Sign}
    (hx : Thread.sign? v.observer? ⟨.requesting a p, a.frames next S⟩ = some x) :
    x.1.isOf a.registry a.slot = true := by
  obtain ⟨_, -, rfl⟩ := Option.map_eq_some_iff.mp hx
  exact a.isOf_self

section Follow

variable (A : Asking P P' plan tally ρ h t v w v' a p p' next S)
include A

theorem observer (hr : v.registries[a.registry]? = some reg)
    (hr' : v'.registries[a.registry]? = some reg') : reg'.observer = reg.observer := by
  have hobs : v'.observer? a.registry = v.observer? a.registry :=
    congrArg SlotView.observer A.mirror.view
  simpa [observer?, hr, hr'] using hobs

theorem store (hr : v.registries[a.registry]? = some reg)
    (hr' : v'.registries[a.registry]? = some reg') :
    reg'.store.get? a.slot = reg.store.get? a.slot := by
  rw [← stored?_of_get hr, ← stored?_of_get hr']
  exact congrArg SlotView.stored A.mirror.view

/-- The step of the request in the restricted run. -/
theorem step_eq (hr' : v'.registries[a.registry]? = some reg') :
    v'.step P' t = v'.stepRequest P' t
      (a.frames (fun _ => .script (asked a.registry a.slot t h)) []) a reg' p' := by
  simp only [World.step, A.thread', hr']

/-- A request shows the same in both runs. -/
theorem sign?_eq (S' : List (Frame τ)) :
    Thread.sign? v'.observer? ⟨.requesting a p', S'⟩ =
      Thread.sign? v.observer? ⟨.requesting a p, a.frames next S⟩ := by
  have hobs : v'.observer? a.registry = v.observer? a.registry :=
    congrArg SlotView.observer A.mirror.view
  simp only [Thread.sign?, hobs, A.renamed.sign?]

/-- A step of the restricted run that leads to the same place follows the step of the run. -/
theorem follow (hset : w.threads = v.threads.set t th₁) (hs' : v'.step P' t = some w')
    (hset' : w'.threads = v'.threads.set t th₁')
    (hview : w'.view a.registry a.slot = w.view a.registry a.slot)
    (hsolely : ∀ fl ∈ w'.flights, fl.isOf a.registry a.slot = true)
    (hshadow : Shadow P' ρ a.registry a.slot (asked a.registry a.slot t h) th₁ th₁') :
    Follows P' plan tally ρ a.registry a.slot h ⟨t, v, w⟩ v' :=
  A.mirror.matched A.step A.thread hset rfl A.thread' hs' hset' (A.sign?_eq _)
    (fun _ => isOf_of_sign?) hview hsolely hshadow rfl (state_step A.thread' (by simp) hs')

/-- The case in which the step changes neither registries nor flights. -/
theorem quiet {focus : Focus τ} {S' : List (Frame τ)} (hset : w.threads = v.threads.set t th₁)
    (hq : Quiet v w) (hs' : v'.step P' t = some (v'.put t focus S'))
    (hshadow : Shadow P' ρ a.registry a.slot (asked a.registry a.slot t h) th₁ ⟨focus, S'⟩) :
    Follows P' plan tally ρ a.registry a.slot h ⟨t, v, w⟩ v' :=
  A.mirror.matched_quiet A.step A.thread hset hq rfl A.thread' hs' (A.sign?_eq _)
    (fun _ => isOf_of_sign?) hshadow rfl

/-- A request in another phase than before. -/
theorem shadow (hq : q.Renamed ρ q') :
    Shadow P' ρ a.registry a.slot (asked a.registry a.slot t h)
      ⟨.requesting a q, a.frames next S⟩
      ⟨.requesting a q', a.frames (fun _ => .script (asked a.registry a.slot t h)) []⟩ :=
  .asking a.isOf_self A.outer hq

/-- The restricted run has the flights of the slot under their ranks. -/
theorem flight {fl : Flight} (hfl : v.flights[f]? = some fl)
    (hof : fl.isOf a.registry a.slot = true) :
    ∃ fl', v'.flights[ρ f]? = some fl' ∧ fl'.isOf a.registry a.slot = true ∧
      fl'.landing = fl.landing := by
  obtain ⟨hlt, -⟩ := List.getElem?_eq_some_iff.mp hfl
  exact A.mirror.flight (A.names f (Nat.le_of_lt hlt)) hfl hof

end Follow

/-- Getting an identifier. -/
theorem identify (A : Asking P P' plan tally ρ h t v w v' a .identify .identify next S)
    {id : String} (hset : w.threads = v.threads.set t ⟨.requesting a (.board id), a.frames next S⟩)
    (hr : v.registries[a.registry]? = some reg) {reg₁ : Registry}
    (hi : reg.identify a.slot = (.ok id, reg₁)) (hw : Writes v w a.registry reg₁) :
    Follows P' plan tally ρ a.registry a.slot h ⟨t, v, w⟩ v' := by
  obtain ⟨reg', hr', hb'⟩ := A.mirror.setUp'
  obtain ⟨id', reg₁', hi'⟩ := Registry.identify_of_writable hb' a.slot
  have hs' := A.step_eq hr'
  simp only [stepRequest, hi'] at hs'
  refine A.follow hset hs' rfl ?_ A.mirror.solely (A.shadow .board)
  rw [view_identify hr hi hw, ← A.mirror.view]
  exact view_identify hr' hi' ⟨rfl, rfl⟩

section Board

variable {id id' : String}
  (A : Asking P P' plan tally ρ h t v w v' a (.board id) (.board id') next S)
include A

/-- A request that boards has the identifier of its slot. -/
theorem ids : v.id? a.registry a.slot = some id ∧ v'.id? a.registry a.slot = some id' :=
  ⟨A.valid.consistent.sound A.thread (q := ⟨a, .board id⟩) (List.mem_cons_self ..),
    A.valid'.consistent.sound A.thread' (q := ⟨a, .board id'⟩) (List.mem_cons_self ..)⟩

/-- Joining a flight. -/
theorem join (hset : w.threads = v.threads.set t ⟨.requesting a (.wait f), a.frames next S⟩)
    (hq : Quiet v w) (hr : v.registries[a.registry]? = some reg)
    (hf : reg.flights.get? id = some f) :
    Follows P' plan tally ρ a.registry a.slot h ⟨t, v, w⟩ v' := by
  obtain ⟨reg', hr', -⟩ := A.mirror.setUp'
  obtain ⟨hid, hid'⟩ := A.ids
  obtain ⟨fl, hfl, hof, hl⟩ :=
    A.valid.isOf_of_inFlight? A.fit hid ((inFlight?_of_get hr id).trans hf)
  -- The flight is one of the slot, so the restricted run has it in the air as well.
  obtain ⟨fl', hfl', hof', hl'⟩ := A.flight hfl hof
  have hin := A.valid'.consistent.inFlight?_of_isOf hid' hfl' hof' (hl'.trans hl)
  rw [inFlight?_of_get hr'] at hin
  have hs' := A.step_eq hr'
  simp only [stepRequest, hin] at hs'
  exact A.quiet hset hq hs' (A.shadow .wait)

/-- A slot with no flight in the air has none in the restricted run. -/
theorem inFlight?_eq_none (hn : v.inFlight? a.registry id = none) :
    v'.inFlight? a.registry id' = none := by
  obtain ⟨hid, -⟩ := A.ids
  cases hin : v'.inFlight? a.registry id' with
  | none => rfl
  | some g =>
      obtain ⟨fl', hfl', -, -, hl'⟩ := A.valid'.consistent.listed hin
      have hmem : (none : Option Landing) ∈ (v.view a.registry a.slot).landings := by
        rw [A.mirror.landings]
        exact List.mem_map.mpr ⟨fl', List.mem_of_getElem? hfl', hl'⟩
      obtain ⟨fl, hfl, hl⟩ := List.mem_map.mp hmem
      obtain ⟨hmem, hof⟩ := List.mem_filter.mp hfl
      obtain ⟨f, hf⟩ := List.getElem?_of_mem hmem
      cases hn.symm.trans (A.valid.consistent.inFlight?_of_isOf hid hf hof hl)

/-- Taking off with a new flight. -/
theorem takeOff
    (hset : w.threads = v.threads.set t ⟨.requesting a (.recheck v.flights.length),
      a.frames next S⟩)
    (hr : v.registries[a.registry]? = some reg) (hn : reg.flights.get? id = none)
    (hreg : w.registries = v.registries.set a.registry (reg.depart id v.flights.length))
    (hf : w.flights = v.flights ++ [⟨a.registry, a.slot, id, t, none⟩]) :
    Follows P' plan tally ρ a.registry a.slot h ⟨t, v, w⟩ v' := by
  obtain ⟨reg', hr', -⟩ := A.mirror.setUp'
  have hn' := A.inFlight?_eq_none ((inFlight?_of_get hr id).trans hn)
  rw [inFlight?_of_get hr'] at hn'
  have hlen := A.mirror.length_flights (A.names _ (Nat.le_refl _))
  have hs' := A.step_eq hr'
  simp only [stepRequest, hn'] at hs'
  refine A.follow hset hs' rfl ?_ ?_ (A.shadow (hlen ▸ .recheck))
  · rw [view_takeOff hr hreg hf, ← A.mirror.view]
    exact view_takeOff hr' rfl rfl
  · intro fl hfl
    rcases List.mem_append.mp hfl with hfl | hfl
    · exact A.mirror.solely fl hfl
    · obtain rfl := List.mem_singleton.mp hfl
      simp [Flight.isOf]

end Board

section Wait

variable (A : Asking P P' plan tally ρ h t v w v' a (.wait f) (.wait (ρ f)) next S)
include A

/-- The flight that is waited for has landed in both runs alike, or in neither. -/
theorem landing?_eq : v'.landing? (ρ f) = v.landing? f := by
  obtain ⟨fl, hfl, hr, hs⟩ := A.valid.flight_of_waits A.thread A.fit
  obtain ⟨fl', hfl', -, hl⟩ := A.flight hfl (by simp [Flight.isOf, hr, hs])
  simp [landing?, hfl, hfl', hl]

/-- Sharing the crash of a flight. -/
theorem share {x : Panic}
    (hset : w.threads = v.threads.set t ⟨.returning (.panicked (.flight x)), a.frames next S⟩)
    (hq : Quiet v w) (hl : v.landing? f = some (.crash x)) :
    Follows P' plan tally ρ a.registry a.slot h ⟨t, v, w⟩ v' := by
  obtain ⟨reg', hr', -⟩ := A.mirror.setUp'
  have hs' := A.step_eq hr'
  simp only [stepRequest, A.landing?_eq, hl] at hs'
  exact A.quiet hset hq hs' (.closed a.isOf_self A.outer)

/-- Sharing the landing of a flight. -/
theorem release {l : Landing}
    (hset : w.threads = v.threads.set t
      ⟨.requesting a (.announce .dedup l.fault? (.settle f l)), a.frames next S⟩)
    (hq : Quiet v w) (hl : v.landing? f = some l) (hn : ∀ x, l ≠ .crash x) :
    Follows P' plan tally ρ a.registry a.slot h ⟨t, v, w⟩ v' := by
  obtain ⟨reg', hr', -⟩ := A.mirror.setUp'
  have hs' := A.step_eq hr'
  rw [stepRequest, A.landing?_eq, hl] at hs'
  cases l with
  | crash x => exact (hn x rfl).elim
  | value | fault => exact A.quiet hset hq hs' (A.shadow (.announce .settle))

end Wait

/-- Storing an instance. -/
theorem keep {x : Value}
    (A : Asking P P' plan tally ρ h t v w v' a (.keep f x) (.keep (ρ f) x) next S)
    (hset : w.threads = v.threads.set t ⟨.requesting a (.land f (.value x)), a.frames next S⟩)
    (hr : v.registries[a.registry]? = some reg) (hw : Writes v w a.registry (reg.keep a.slot x)) :
    Follows P' plan tally ρ a.registry a.slot h ⟨t, v, w⟩ v' := by
  obtain ⟨reg', hr', hb'⟩ := A.mirror.setUp'
  have hs' := A.step_eq hr'
  simp only [stepRequest, hb', if_true] at hs'
  refine A.follow hset hs' rfl ?_ A.mirror.solely (A.shadow .land)
  rw [view_keep hr hw, ← A.mirror.view]
  exact view_keep hr' ⟨rfl, rfl⟩

/-- Landing a flight. -/
theorem land {l : Landing}
    (A : Asking P P' plan tally ρ h t v w v' a (.land f l) (.land (ρ f) l) next S)
    (hset : w.threads = v.threads.set t ⟨.requesting a (.settle f l), a.frames next S⟩)
    (hr : v.registries[a.registry]? = some reg) {fl : Flight} (hfl : v.flights[f]? = some fl)
    (hreg : w.registries = v.registries.set a.registry (reg.arrive fl.id))
    (hfs : w.flights = (v.setLanding f l).flights) :
    Follows P' plan tally ρ a.registry a.slot h ⟨t, v, w⟩ v' := by
  obtain ⟨reg', hr', -⟩ := A.mirror.setUp'
  have hof : fl.isOf a.registry a.slot = true := by
    obtain ⟨⟨x, hx, -, hxr, hxs, -⟩, -⟩ :=
      A.valid.consistent.sound A.thread (q := ⟨a, .land f l⟩) (List.mem_cons_self ..)
    obtain rfl := Option.some.inj (hfl.symm.trans hx)
    simp [Flight.isOf, hxr, hxs]
  obtain ⟨fl', hfl', hof', -⟩ := A.flight hfl hof
  obtain ⟨hlt, -⟩ := List.getElem?_eq_some_iff.mp hfl
  obtain ⟨hlt', -⟩ := List.getElem?_eq_some_iff.mp hfl'
  have hs' := A.step_eq hr'
  simp only [stepRequest, hfl'] at hs'
  refine A.follow hset hs' rfl ?_ ?_ (A.shadow .settle)
  · apply Eq.trans
    · exact view_land hr' hfl' rfl rfl
    · rw [view_land hr hfl hreg hfs, if_pos hof, if_pos hof', A.mirror.rank_eq hlt',
        A.names f (Nat.le_of_lt hlt), A.mirror.view]
  · intro x hx
    obtain ⟨i, hi⟩ := List.getElem?_of_mem hx
    change (v'.flights.modify (ρ f) _)[i]? = some x at hi
    rw [List.getElem?_modify] at hi
    obtain ⟨y, hy, rfl⟩ := Option.map_eq_some_iff.mp hi
    have := A.mirror.solely y (List.mem_of_getElem? hy)
    split <;> exact this

/-- A step of a request on the slot is followed by the same step of the same request. -/
theorem follows (A : Asking P P' plan tally ρ h t v w v' a p p' next S) :
    Follows P' plan tally ρ a.registry a.slot h ⟨t, v, w⟩ v' := by
  obtain ⟨reg, hr, hb⟩ := A.mirror.setUp
  obtain ⟨reg', hr', -⟩ := A.mirror.setUp'
  have hget {r₁ : Registry} (hr₁ : v.registries[a.registry]? = some r₁) : reg = r₁ :=
    Option.some.inj (hr.symm.trans hr₁)
  have hs' := A.step_eq hr'
  have hp := A.renamed
  obtain ⟨th₁, hset, turn⟩ := exists_turn A.thread A.step
  cases turn with
  | lost hq hnone => cases hnone.symm.trans hr
  | refuse hr₁ hi hw =>
      obtain rfl := hget hr₁
      cases hb.symm.trans (Registry.identify_error hi).1
  | spill hq hr₁ hbare =>
      obtain rfl := hget hr₁
      cases hb.symm.trans hbare
  | hit hq hr₁ hv₁ =>
      obtain rfl := hget hr₁
      cases hp
      simp only [stepRequest, A.store hr hr', hv₁] at hs'
      exact A.quiet hset hq hs' (A.shadow (.announce .finish))
  | miss hq hr₁ hv₁ =>
      obtain rfl := hget hr₁
      cases hp
      simp only [stepRequest, A.store hr hr', hv₁] at hs'
      exact A.quiet hset hq hs' (A.shadow .identify)
  | find hq hr₁ hv₁ =>
      obtain rfl := hget hr₁
      cases hp
      simp only [stepRequest, A.store hr hr', hv₁] at hs'
      exact A.quiet hset hq hs' (A.shadow (.announce .land))
  | clear hq hr₁ hv₁ =>
      obtain rfl := hget hr₁
      cases hp
      simp only [stepRequest, A.store hr hr', hv₁] at hs'
      exact A.quiet hset hq hs' (A.shadow (.announce .build))
  | identify hr₁ hi hw =>
      cases hp
      exact A.identify hset hr₁ hi hw
  | join hq hr₁ hf =>
      cases hp
      exact A.join hset hq hr₁ hf
  | takeOff hr₁ hn hreg hf =>
      cases hp
      exact A.takeOff hset hr₁ hn hreg hf
  | share hq hl =>
      cases hp
      exact A.share hset hq hl
  | release hq hl hn =>
      cases hp
      exact A.release hset hq hl hn
  | build hq =>
      cases hp
      exact A.quiet hset hq hs' (.inside (R := []) a.isOf_self A.outer rfl (by simp) .construction)
  | keep hr₁ hb₁ hw =>
      cases hp
      exact A.keep hset hr₁ hw
  | land hr₁ hf hreg hfs =>
      cases hp
      exact A.land hset hr₁ hf hreg hfs
  | settle hq | finish hq =>
      cases hp
      exact A.quiet hset hq hs' (.closed a.isOf_self A.outer)
  | skip hq hr₁ ho =>
      obtain rfl := hget hr₁
      cases hp with
      | announce hp =>
          simp only [stepRequest, A.observer hr hr', ho] at hs'
          exact A.quiet hset hq hs' (A.shadow hp)
  | announce hq hr₁ ho =>
      obtain rfl := hget hr₁
      cases hp with
      | announce hp =>
          simp only [stepRequest, A.observer hr hr', ho] at hs'
          exact A.quiet hset hq hs'
            (.inside (R := []) a.isOf_self A.outer rfl (by simp) (.observation hp))

end Asking

end InstanceRegistry
