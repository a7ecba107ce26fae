import InstanceRegistry.Proofs.Recovery
import InstanceRegistry.Proofs.Refinement

/-!
# The events of a slot

An observer is told when a constructor is about to run and when a constructor failed. For
one slot these two events alternate, whatever the threads do: each construction that was
announced ends with its failure or with the instance of the slot. A hit is told of a slot
only when it holds its instance, and a construction or a failure only when it holds none.
So the constructions of a registry outnumber its failures by its instances, as long as none
is under way.

## Implementation notes

A construction is under way from the step that announces it to the step that announces its
failure or stores its instance. An observer that panics ends a construction without either,
and so does a fault that cannot be searched; both crash the flight. Runs with such an end are
left out.
-/

namespace InstanceRegistry

variable {σ : Type}

/-- An observer is told of an event in a request of an accessor. -/
structure Told where
  accessor : Accessor
  observer : ObserverId
  event : Event
  fault : Option Fault

/-- What the next step of a thread tells an observer. -/
def World.told? (w : World σ) (t : ThreadId) : Option Told :=
  match w.threads[t]? with
  | some ⟨.requesting a (.announce event fault _), _⟩ =>
    (w.registries[a.registry]?.bind Registry.observer).map fun o => ⟨a, o, event, fault⟩
  | _ => none

/-- What a move tells an observer. -/
def Move.told? (m : Move σ) : Option Told := m.before.told? m.thread

/-- What is told as a notice to the observer. -/
def Told.notice (x : Told) : Notice := x.accessor.slot.notice x.event x.fault

/-- What is told comes from an announcement, to the observer of the registry. -/
theorem World.announce_of_told? {w : World σ} {t : ThreadId} {x : Told} (hx : w.told? t = some x) :
    ∃ next S reg, w.threads[t]? =
        some ⟨.requesting x.accessor (.announce x.event x.fault next), S⟩ ∧
      w.registries[x.accessor.registry]? = some reg ∧ reg.observer = some x.observer := by
  unfold World.told? at hx
  split at hx
  · rename_i a event fault next S ht
    obtain ⟨o, ho, rfl⟩ := Option.map_eq_some_iff.mp hx
    obtain ⟨reg, hreg, ho⟩ := Option.bind_eq_some_iff.mp ho
    exact ⟨next, S, reg, ht, hreg, ho⟩
  · cases hx

/-- The observer runs on top of the request that tells it something. -/
theorem World.observes_of_told? {P : Program σ} {w w' : World σ} {t : ThreadId} {x : Told}
    {event : Event} {fault : Option Fault} {next : Phase} {a : Accessor} {S : List (Frame σ)}
    (hs : w.step P t = some w') (hx : w.told? t = some x)
    (ht : w.threads[t]? = some ⟨.requesting a (.announce event fault next), S⟩) :
    w'.threads[t]? =
      some ⟨.running (P.observer x.observer x.notice), .observation a next :: S⟩ := by
  obtain ⟨next', S', reg, ht₀, hreg, ho⟩ := announce_of_told? hx
  cases ht.symm.trans ht₀
  obtain ⟨th', ht', turn⟩ := turn_of_step ht hs
  cases turn with
  | lost hq hr => cases hr.symm.trans hreg
  | skip hq hr hno =>
      obtain rfl := Option.some.inj (hr.symm.trans hreg)
      cases hno.symm.trans ho
  | announce hq hr ho' =>
      obtain rfl := Option.some.inj (hr.symm.trans hreg)
      obtain rfl := Option.some.inj (ho'.symm.trans ho)
      exact ht'

/-- The event that is told, if it is one of the slot. -/
def Told.event? (r : RegistryId) (s : Slot) (x : Told) : Option Event :=
  if x.accessor.registry = r ∧ x.accessor.slot = s then some x.event else none

/-- The slot that an event of a registry is told of. -/
def Told.slot? (r : RegistryId) (e : Event) (x : Told) : Option Slot :=
  if x.accessor.registry = r ∧ x.event = e then some x.accessor.slot else none

/-- The events of a slot, in the order of a history. -/
def events (r : RegistryId) (s : Slot) (h : List (Move σ)) : List Event :=
  h.filterMap fun m => m.told?.bind (Told.event? r s)

/-- The slots of a registry of which an event was told, in the order of a history. -/
def reports (r : RegistryId) (e : Event) (h : List (Move σ)) : List Slot :=
  h.filterMap fun m => m.told?.bind (Told.slot? r e)

/-- The events at which a construction begins or fails. -/
def Event.isMilestone (e : Event) : Bool := e == .construct || e == .failure

/-- The beginnings and failures of the constructions of a slot. -/
def milestones (r : RegistryId) (s : Slot) (h : List (Move σ)) : List Event :=
  (events r s h).filter Event.isMilestone

/-- The beginning or failure of a construction of the slot that a step announces. -/
def World.milestone? (w : World σ) (t : ThreadId) (r : RegistryId) (s : Slot) : Option Event :=
  ((w.told? t).bind (Told.event? r s)).filter Event.isMilestone

theorem milestones_append_singleton (r : RegistryId) (s : Slot) (h : List (Move σ)) (m : Move σ) :
    milestones r s (h ++ [m]) =
      milestones r s h ++ (m.before.milestone? m.thread r s).toList := by
  rw [milestones, events, filterMap_append_singleton, List.filter_append, World.milestone?]
  apply congrArg
  change (((m.before.told? m.thread).bind _).toList).filter _ = _
  cases (m.before.told? m.thread).bind (Told.event? r s) with
  | none => rfl
  | some e => cases he : e.isMilestone <;> simp [Option.filter, he]

/-- An event is told of a slot as often as the slot is among those of which it is told. -/
theorem count_events (r : RegistryId) (s : Slot) (e : Event) (h : List (Move σ)) :
    (events r s h).count e = (reports r e h).count s := by
  induction h with
  | nil => rfl
  | cons m h ih =>
      simp only [events, reports, List.filterMap_cons] at ih ⊢
      cases m.told? with
      | none => exact ih
      | some x =>
          simp only [Option.bind_some, Told.event?, Told.slot?]
          by_cases hr : x.accessor.registry = r <;> by_cases hs : x.accessor.slot = s <;>
            by_cases he : x.event = e <;> simp [hr, hs, he, ih]

/-- A construction that a request in this phase has announced is not over. -/
def Phase.isBuilding : Phase → Bool
  | .build _ | .keep _ _ | .land _ (.crash _) | .announce _ _ (.land _ (.fault _)) => true
  | _ => false

/-- A construction that is not over is that of a leader. -/
theorem Phase.flight?_of_isBuilding {p : Phase} (h : p.isBuilding = true) :
    ∃ f, p.flight? = some f := by
  unfold Phase.isBuilding at h
  split at h
  · exact ⟨_, rfl⟩
  · exact ⟨_, rfl⟩
  · exact ⟨_, rfl⟩
  · exact ⟨_, rfl⟩
  · cases h

/-- A construction of the slot is not over in the focus. -/
def Focus.isBuilding (r : RegistryId) (s : Slot) : Focus σ → Bool
  | .requesting a p => decide (a.registry = r ∧ a.slot = s) && p.isBuilding
  | .running _ | .returning _ => false

/-- A construction of the slot is not over in the frame. -/
def Frame.isBuilding (r : RegistryId) (s : Slot) : Frame σ → Bool
  | .construction a _ => decide (a.registry = r ∧ a.slot = s)
  | .observation a next => decide (a.registry = r ∧ a.slot = s) && next.isBuilding
  | .resume _ | .caller _ _ | .again _ => false

/-- The thread is inside of a construction of the slot. -/
def Thread.isBuilding (r : RegistryId) (s : Slot) (th : Thread σ) : Bool :=
  th.focus.isBuilding r s || th.stack.any (Frame.isBuilding r s)

/-- The leader of a flight is building until it announces a failure, stores or crashes. -/
theorem Outcome.isBuilding_conclude (o : Outcome) (s : Slot) (f : FlightId) :
    (o.conclude s f).isBuilding = true :=
  o.conclude_induct (K := fun p => p.isBuilding = true) s f (fun _ => rfl) (fun _ _ => rfl)
    fun _ => rfl

/-- The landing is a panic that did not come out of the constructor. -/
def Landing.isCrash : Landing → Bool
  | .crash _ => true
  | .value _ | .fault _ => false

namespace World

/-- A construction of the slot has been announced and is not over. -/
def Underway (w : World σ) (r : RegistryId) (s : Slot) : Prop :=
  ∃ th ∈ w.threads, th.isBuilding r s = true

instance (w : World σ) (r : RegistryId) (s : Slot) : Decidable (w.Underway r s) :=
  inferInstanceAs (Decidable (∃ th ∈ w.threads, th.isBuilding r s = true))

/-- The slot has an instance, or a construction of it is under way. -/
def Busy (w : World σ) (r : RegistryId) (s : Slot) : Prop :=
  w.stored? r s ≠ none ∨ w.Underway r s

/-- No flight of the slot was ended by a panic outside of its constructor. -/
def Uncrashed (w : World σ) (r : RegistryId) (s : Slot) : Prop :=
  ∀ fl ∈ w.flights, fl.registry = r → fl.slot = s → fl.landing.any Landing.isCrash = false

/-- What a step that announces the given milestone of a slot does to the slot. -/
inductive Marked (r : RegistryId) (s : Slot) (w w' : World σ) : Option Event → Prop
  | quiet (hb : w'.Busy r s ↔ w.Busy r s) : Marked r s w w' none
  | begins (hb : ¬ w.Busy r s) (hb' : w'.Busy r s) : Marked r s w w' (some .construct)
  | fails (hb : w.Busy r s) (hb' : ¬ w'.Busy r s) : Marked r s w w' (some .failure)

variable {P : Program σ} {t : ThreadId} {w w' : World σ} {th th' : Thread σ} {r : RegistryId}
  {s : Slot} {a : Accessor} {S : List (Frame σ)} {f : FlightId} {o : ObserverId}

/-- A thread that is inside of a construction leads a flight of the slot. -/
theorem leads_of_isBuilding (h : th.isBuilding r s = true) :
    ∃ q ∈ th.requests, q.accessor.registry = r ∧ q.accessor.slot = s ∧
      ∃ f, q.flight? = some f := by
  obtain ⟨focus, S⟩ := th
  rw [Thread.isBuilding, Bool.or_eq_true] at h
  rcases h with h | h
  · cases focus with
    | requesting a p =>
        simp only [Focus.isBuilding, Bool.and_eq_true, decide_eq_true_eq] at h
        obtain ⟨⟨hr, hs⟩, hp⟩ := h
        obtain ⟨f, hf⟩ := Phase.flight?_of_isBuilding hp
        exact ⟨⟨a, p.core⟩, List.mem_cons_self .., hr, hs, f, by simp [Request.flight?, hf]⟩
    | running | returning => cases h
  · obtain ⟨fr, hfr, hb⟩ := List.any_eq_true.mp h
    have hmem {q : Request} (hq : fr.request? = some q) :
        q ∈ (⟨focus, S⟩ : Thread σ).requests :=
      List.mem_append_right _ (List.mem_filterMap.mpr ⟨fr, hfr, hq⟩)
    cases fr with
    | construction a f =>
        obtain ⟨hr, hs⟩ := of_decide_eq_true hb
        exact ⟨⟨a, .build f⟩, hmem rfl, hr, hs, f, rfl⟩
    | observation a next =>
        simp only [Frame.isBuilding, Bool.and_eq_true, decide_eq_true_eq] at hb
        obtain ⟨⟨hr, hs⟩, hp⟩ := hb
        obtain ⟨f, hf⟩ := Phase.flight?_of_isBuilding hp
        exact ⟨⟨a, next.core⟩, hmem rfl, hr, hs, f, by simp [Request.flight?, hf]⟩
    | resume | caller | again => cases hb

/-- While the innermost request of a thread leads a flight, it alone decides whether a construction
of its slot is under way. -/
theorem Consistent.underway_iff (c : w.Consistent) {p : Phase} (ht : w.threads[t]? = some th)
    (hreq : th.requests = ⟨a, p.core⟩ :: S.filterMap Frame.request?)
    (hb : th.isBuilding a.registry a.slot =
      (p.isBuilding || S.any (Frame.isBuilding a.registry a.slot)))
    (hf : p.flight? = some f) : w.Underway a.registry a.slot ↔ p.isBuilding = true := by
  have hq : (⟨a, p.core⟩ : Request) ∈ th.requests := by simp [hreq]
  have hqf : Request.flight? ⟨a, p.core⟩ = some f := by simp [Request.flight?, hf]
  constructor
  · rintro ⟨x, hx, hbuild⟩
    obtain ⟨u, hu⟩ := List.mem_iff_getElem?.mp hx
    obtain ⟨q, hqx, hr, hs, g, hg⟩ := leads_of_isBuilding hbuild
    obtain ⟨rfl, -⟩ := c.request_unique ht hq hqf hu hqx hg hr.symm hs.symm
    obtain rfl := Option.some.inj (ht.symm.trans hu)
    rw [hb, Bool.or_eq_true] at hbuild
    refine hbuild.resolve_right fun hS => ?_
    -- A second request further down would lead the same flight.
    have hS : (⟨.returning (.panicked .nilDereference), S⟩ : Thread σ).isBuilding a.registry a.slot
        = true := by simpa [Thread.isBuilding, Focus.isBuilding] using hS
    obtain ⟨q', hq', hr', hs', g', hg'⟩ := leads_of_isBuilding hS
    have hq'' : q' ∈ S.filterMap Frame.request? := hq'
    obtain ⟨-, rfl⟩ := c.request_unique ht hq hqf ht (by simp [hreq, hq'']) hg' hr'.symm hs'.symm
    have hnd := c.once ht
    rw [leads_of_requests hreq, hqf] at hnd
    exact (List.nodup_cons.mp hnd).1 (List.mem_filterMap.mpr ⟨_, hq'', hqf⟩)
  · intro hp
    exact ⟨th, List.mem_of_getElem? ht, by simp [hb, hp]⟩

/-- A leader decides by its phase whether a construction of its slot is under way. -/
theorem Consistent.underway_iff_of_requesting (c : w.Consistent) {p : Phase}
    (ht : w.threads[t]? = some ⟨.requesting a p, S⟩) (hf : p.flight? = some f) :
    w.Underway a.registry a.slot ↔ p.isBuilding = true := by
  apply c.underway_iff ht rfl _ hf
  simp [Thread.isBuilding, Focus.isBuilding]

/-- A leader whose observer runs decides by the phase after that. -/
theorem Consistent.underway_iff_of_observing (c : w.Consistent) {p : Phase} {k : Code σ}
    (ht : w.threads[t]? = some ⟨.running k, .observation a p :: S⟩) (hf : p.flight? = some f) :
    w.Underway a.registry a.slot ↔ p.isBuilding = true := by
  apply c.underway_iff ht rfl _ hf
  simp [Thread.isBuilding, Focus.isBuilding, Frame.isBuilding]

/-- No construction comes or goes where the thread that made the step is inside of the same ones. -/
theorem underway_congr (ht : w.threads[t]? = some th) (hset : w'.threads = w.threads.set t th')
    (hb : th'.isBuilding r s = th.isBuilding r s) : w'.Underway r s ↔ w.Underway r s := by
  have hth := getElem?_threads_set ht hset
  constructor
  · rintro ⟨x, hx, hbuild⟩
    obtain ⟨u, hu⟩ := List.mem_iff_getElem?.mp hx
    obtain ⟨rfl, rfl⟩ | ⟨-, hu⟩ := threads_cases hth hu
    · exact ⟨th, List.mem_of_getElem? ht, hb ▸ hbuild⟩
    · exact ⟨x, List.mem_of_getElem? hu, hbuild⟩
  · rintro ⟨x, hx, hbuild⟩
    obtain ⟨u, hu⟩ := List.mem_iff_getElem?.mp hx
    have hu' := hth u
    by_cases hut : u = t
    · subst hut
      rw [if_pos rfl] at hu'
      obtain rfl := Option.some.inj (ht.symm.trans hu)
      exact ⟨th', List.mem_of_getElem? hu', hb.trans hbuild⟩
    · rw [if_neg hut, hu] at hu'
      exact ⟨x, List.mem_of_getElem? hu', hbuild⟩

theorem milestone?_eq_none (h : w.told? t = none) : w.milestone? t r s = none := by
  rw [milestone?, h]
  rfl

/-- The announcement of a request marks the constructions of its slot. -/
theorem Valid.marked_announce (hw : w.Valid) (hw' : w'.Valid) (hq : Quiet w w')
    {event : Event} {fault : Option Fault} {next : Phase} {c : Code σ}
    (ht : w.threads[t]? = some ⟨.requesting a (.announce event fault next), S⟩)
    (ht' : w'.threads[t]? = some ⟨.running c, .observation a next :: S⟩)
    (hset : w'.threads = w.threads.set t ⟨.running c, .observation a next :: S⟩) :
    Marked a.registry a.slot w w' ((some event).filter Event.isMilestone) := by
  have hstored : w'.stored? a.registry a.slot = w.stored? a.registry a.slot :=
    hq.agree.stored a.registry a.slot
  have hsound := hw.consistent.sound ht (List.mem_cons_self ..)
  have hquiet (hb : next.isBuilding = false)
      (hb' : (Phase.announce event fault next).isBuilding = false) :
      w'.Busy a.registry a.slot ↔ w.Busy a.registry a.slot := by
    rw [Busy, Busy, hstored, underway_congr ht hset]
    simp [Thread.isBuilding, Focus.isBuilding, Frame.isBuilding, hb, hb']
  cases hw.proper t _ ht with
  | requesting hp hS =>
      cases hp _ _ _ rfl with
      | hit | join | found => exact .quiet (hquiet rfl rfl)
      | construct =>
          refine .begins ?_ (Or.inr ((hw'.consistent.underway_iff_of_observing ht' rfl).mpr rfl))
          rintro (hne | hunder)
          · exact hne hsound.2
          · cases (hw.consistent.underway_iff_of_requesting ht rfl).mp hunder
      | failure =>
          refine .fails (Or.inr ((hw.consistent.underway_iff_of_requesting ht rfl).mpr rfl)) ?_
          rintro (hne | hunder)
          · exact hne (hstored.trans hsound.2)
          · cases (hw'.consistent.underway_iff_of_observing ht' rfl).mp hunder

/-- A request to a registry that does not exist has no construction under way. -/
theorem Consistent.isBuilding_of_lost (c : w.Consistent) {p : Phase}
    (ht : w.threads[t]? = some ⟨.requesting a p, S⟩) (hr : w.registries[a.registry]? = none) :
    p.isBuilding = false := by
  have hn := c.flight?_of_closes (c.sound ht (List.mem_cons_self ..))
    (fun f _ id => by simp [inFlight?, hr])
  rw [Phase.flight?_core] at hn
  apply Bool.eq_false_iff.mpr
  intro hb
  obtain ⟨f, hf⟩ := Phase.flight?_of_isBuilding hb
  cases hn.symm.trans hf

/-- A flight of a slot without a crash does not land with one. -/
theorem Uncrashed.ne_crash (hu : w'.Uncrashed a.registry a.slot) (c : w.Consistent) {l : Landing}
    (ht : w.threads[t]? = some ⟨.requesting a (.land f l), S⟩)
    (hfs : w'.flights = (w.setLanding f l).flights) (p : Panic) : l ≠ .crash p := by
  rintro rfl
  obtain ⟨fl, hfl, -, hr, hs, -⟩ :=
    (c.sound ht (q := ⟨a, .land f (.crash p)⟩) (List.mem_cons_self ..)).1
  have hland : w'.flights[f]? = some { fl with landing := some (.crash p) } := by
    simp [hfs, setLanding, hfl]
  cases hu _ (List.mem_of_getElem? hland) hr hs

/-- Storing the instance of a slot ends its construction and keeps the slot busy. -/
theorem Valid.busy_keep (hw : w.Valid) {reg : Registry} {v : Value}
    (ht : w.threads[t]? = some ⟨.requesting a (.keep f v), S⟩)
    (hr : w.registries[a.registry]? = some reg)
    (hput : Writes w w' a.registry (reg.keep a.slot v)) :
    w'.Busy a.registry a.slot ↔ w.Busy a.registry a.slot := by
  apply iff_of_true
  · exact Or.inl (by simp [stored?_of_keep hr hput])
  · exact Or.inr ((hw.consistent.underway_iff_of_requesting ht rfl).mpr rfl)

/-- What a step means for the constructions of a slot of a registry with an observer. -/
theorem Valid.marked_step (hw : w.Valid) (hs : w.step P t = some w')
    (hwatch : ∀ reg, w.registries[r]? = some reg → reg.observer = some o)
    (hcalm : ∀ p b next S, w.threads[t]? =
      some ⟨.returning (.panicked p), .observation b next :: S⟩ → b.registry ≠ r)
    (hcrash : w'.Uncrashed r s) : Marked r s w w' (w.milestone? t r s) := by
  have hw' := hw.step hs
  obtain ⟨th, th', ht, hset, turn⟩ := step_turn hs
  have ht' : w'.threads[t]? = some th' := by simp [getElem?_threads_set ht hset]
  have same (hb : th'.isBuilding r s = th.isBuilding r s)
      (hst : w'.stored? r s = w.stored? r s) (hm : w.told? t = none) :
      Marked r s w w' (w.milestone? t r s) := by
    rw [milestone?_eq_none hm]
    apply Marked.quiet
    rw [Busy, Busy, hst, underway_congr ht hset hb]
  cases turn with
  | proceed hr hf => exact same rfl ((agree_of_rearranged hr hf).stored r s) (by rw [told?, ht])
  | call hq =>
      refine same ?_ (hq.agree.stored r s) (by rw [told?, ht])
      split <;> simp [Thread.isBuilding, Focus.isBuilding, Frame.isBuilding, Phase.isBuilding]
  | conclude hq =>
      refine same ?_ (hq.agree.stored r s) (by rw [told?, ht])
      simp [Thread.isBuilding, Focus.isBuilding, Frame.isBuilding, Outcome.isBuilding_conclude]
  | crash hq hf | interrupt hq hf =>
      have hne := hcalm _ _ _ _ ht
      refine same ?_ (hq.agree.stored r s) (by rw [told?, ht])
      simp [Thread.isBuilding, Focus.isBuilding, Frame.isBuilding, hne]
  | @lost a p S hq hr =>
      have hp := hw.consistent.isBuilding_of_lost ht hr
      refine same ?_ (hq.agree.stored r s) ?_
      · simp [Thread.isBuilding, Focus.isBuilding, hp]
      · cases p <;> simp [told?, ht, hr]
  | identify hr hi hw =>
      refine same ?_ ?_ (by rw [told?, ht])
      · simp [Thread.isBuilding, Focus.isBuilding, Phase.isBuilding]
      · exact stored?_of_identify hr hi hw r s
  | refuse hr hi hw =>
      refine same ?_ ((agree_of_refuse hr hi hw).stored r s) (by rw [told?, ht])
      simp [Thread.isBuilding, Focus.isBuilding, Phase.isBuilding]
  | takeOff hr hn hreg hf =>
      refine same ?_ (stored?_of_set hr hreg rfl r s) (by rw [told?, ht])
      simp [Thread.isBuilding, Focus.isBuilding, Phase.isBuilding]
  | @keep a S reg f v hr hb hput =>
      by_cases hon : a.registry = r ∧ a.slot = s
      · obtain ⟨rfl, rfl⟩ := hon
        rw [milestone?_eq_none (by rw [told?, ht])]
        exact .quiet (hw.busy_keep ht hr hput)
      · refine same ?_ ?_ (by rw [told?, ht])
        · simp [Thread.isBuilding, Focus.isBuilding, hon]
        · rw [stored?_of_keep hr hput, if_neg]
          rintro ⟨rfl, rfl⟩
          exact hon ⟨rfl, rfl⟩
  | @land a S reg f flight l hr hf hreg hfs =>
      refine same ?_ (stored?_of_set hr hreg rfl r s) (by rw [told?, ht])
      by_cases hon : a.registry = r ∧ a.slot = s
      · obtain ⟨rfl, rfl⟩ := hon
        have hl := hcrash.ne_crash hw.consistent ht hfs
        cases l with
        | crash p => exact (hl p rfl).elim
        | value | fault => simp [Thread.isBuilding, Focus.isBuilding, Phase.isBuilding]
      · simp [Thread.isBuilding, Focus.isBuilding, hon]
  | @skip a S event fault next reg hq hr ho =>
      have hne : a.registry ≠ r := by
        rintro rfl
        simp [hwatch reg hr] at ho
      refine same ?_ (hq.agree.stored r s) (by simp [told?, ht, hr, ho])
      simp [Thread.isBuilding, Focus.isBuilding, hne]
  | @announce a S event fault next o reg hq hr ho =>
      have htold : w.told? t = some ⟨a, o, event, fault⟩ := by simp [told?, ht, hr, ho]
      by_cases hon : a.registry = r ∧ a.slot = s
      · obtain ⟨rfl, rfl⟩ := hon
        have hmark := hw.marked_announce hw' hq ht ht' hset
        simpa [milestone?, htold, Told.event?] using hmark
      · have hm : w.milestone? t r s = none := by simp [milestone?, htold, Told.event?, hon]
        rw [hm]
        apply Marked.quiet
        rw [Busy, Busy, hq.agree.stored r s, underway_congr ht hset]
        simp [Thread.isBuilding, Focus.isBuilding, Frame.isBuilding, hon]
  | stop hq | notify hq | resume hq | answer hq | retry hq | pass hq ho | observed hq | hit hq
  | miss hq | join hq | share hq | release hq | find hq | clear hq | build hq | spill hq | settle hq
  | finish hq =>
      refine same ?_ (hq.agree.stored r s) (by rw [told?, ht])
      simp [Thread.isBuilding, Focus.isBuilding, Frame.isBuilding, Phase.isBuilding]

/-- A slot without a crash had none before. -/
theorem Uncrashed.of_step (hu : w'.Uncrashed r s) (c : w.Consistent) (hs : w.step P t = some w') :
    w.Uncrashed r s := by
  intro fl hfl hr hsl
  obtain ⟨f, hf⟩ := List.mem_iff_getElem?.mp hfl
  obtain ⟨l, hf'⟩ := flight_step hs hf
  cases hl : fl.landing with
  | none => rfl
  | some landing =>
      obtain ⟨fl', hfl', hl'⟩ :=
        landing?_eq_some.mp (c.landing?_step hs (landing?_eq_some.mpr ⟨fl, hf, hl⟩))
      obtain rfl := Option.some.inj (hf'.symm.trans hfl')
      have hnot := hu _ (List.mem_of_getElem? hf') hr hsl
      rwa [hl'] at hnot

end World

/-- The registry has the observer at every moment of a history, and no request of it meets a panic
of its observer. -/
structure Attended (r : RegistryId) (o : ObserverId) (h : List (Move σ)) : Prop where
  attached : ∀ m ∈ h, ∀ reg, m.before.registries[r]? = some reg → reg.observer = some o
  calm : ∀ m ∈ h, ∀ p a next S,
    m.actor? = some ⟨.returning (.panicked p), .observation a next :: S⟩ → a.registry ≠ r

/-- Constructions and failures alternate, and the last construction has no failure after it if the
slot is busy. -/
inductive Alternates (busy : Prop) : List Event → Prop
  | settled (n : Nat) (hb : ¬ busy) :
      Alternates busy (List.replicate n [.construct, .failure]).flatten
  | started (n : Nat) (hb : busy) :
      Alternates busy ((List.replicate n [.construct, .failure]).flatten ++ [.construct])

namespace Alternates

variable {busy : Prop} {l : List Event}

/-- There is one construction more than there are failures if the slot is busy. -/
theorem count_construct (h : Alternates busy l) :
    (busy → l.count .construct = l.count .failure + 1) ∧
      (¬ busy → l.count .construct = l.count .failure) := by
  have hc : ([.construct, .failure] : List Event).count .construct = 1 := by decide
  have hf : ([.construct, .failure] : List Event).count .failure = 1 := by decide
  have hf' : ([.construct] : List Event).count .failure = 0 := by decide
  cases h with
  | settled n hb =>
      refine ⟨fun h => (hb h).elim, fun _ => ?_⟩
      simp [List.count_flatten, hc, hf]
  | started n hb =>
      refine ⟨fun _ => ?_, fun h => (h hb).elim⟩
      simp [List.count_flatten, hc, hf, hf']

/-- A step continues the alternation. -/
theorem marked {r : RegistryId} {s : Slot} {w w' : World σ} {e : Option Event}
    (h : Alternates (w.Busy r s) l) (hm : World.Marked r s w w' e) :
    Alternates (w'.Busy r s) (l ++ e.toList) := by
  cases hm with
  | quiet hb =>
      rw [Option.toList_none, List.append_nil]
      cases h with
      | settled n hn => exact .settled n (fun h => hn (hb.mp h))
      | started n hn => exact .started n (hb.mpr hn)
  | begins hb hb' =>
      cases h with
      | settled n hn => exact .started n hb'
      | started n hn => exact (hb hn).elim
  | fails hb hb' =>
      cases h with
      | settled n hn => exact (hn hb).elim
      | started n hn =>
          have hsucc : (List.replicate (n + 1) [Event.construct, Event.failure]).flatten =
              (List.replicate n [.construct, .failure]).flatten ++ [.construct] ++ [.failure] := by
            simp [List.replicate_succ']
          rw [Option.toList_some, ← hsucc]
          exact .settled (n + 1) hb'

end Alternates

namespace World

variable {P : Program σ} {t : ThreadId} {w₀ w : World σ} {h : List (Move σ)} {r : RegistryId}
  {s : Slot} {o : ObserverId}

/-- No slot is busy at first. -/
theorem Fresh.not_busy (fresh : w.Fresh) : ¬ w.Busy r s := by
  rintro (hne | ⟨th, hth, hb⟩)
  · apply hne
    cases hr : w.registries[r]? with
    | none => simp [stored?, hr]
    | some reg =>
        obtain ⟨bare, observers, rfl⟩ := fresh.registries reg (List.mem_of_getElem? hr)
        rw [stored?_of_get hr]
        cases bare <;> rfl
  · obtain ⟨c, rfl⟩ := fresh.threads th hth
    cases hb

/-- The beginnings and failures of the constructions of a slot alternate in every run. -/
theorem Run.alternates (run : Run P w₀ h w) (fresh : w₀.Fresh) (hatt : Attended r o h)
    (hu : w.Uncrashed r s) : Alternates (w.Busy r s) (milestones r s h) := by
  refine run.keeps (I := fun h w => Attended r o h → w.Uncrashed r s →
    Alternates (w.Busy r s) (milestones r s h)) fresh ?_ ?_ hatt hu
  · intro _ _
    exact .settled 0 fresh.not_busy
  · intro h v t w hv ih hs hatt hu
    have hprev : Attended r o h :=
      ⟨fun m hm => hatt.attached m (List.mem_append_left _ hm),
        fun m hm => hatt.calm m (List.mem_append_left _ hm)⟩
    have hlast : (⟨t, v, w⟩ : Move σ) ∈ h ++ [⟨t, v, w⟩] := by simp
    rw [milestones_append_singleton]
    apply (ih hprev (hu.of_step hv.consistent hs)).marked
    exact hv.marked_step hs (hatt.attached _ hlast) (hatt.calm _ hlast) hu

/-- A hit is told of a slot that holds its instance, a construction or a failure of one that holds
none. -/
theorem Valid.stored?_of_told (hw : w.Valid) {x : Told} (hx : w.told? t = some x) :
    (x.event = .hit → w.stored? x.accessor.registry x.accessor.slot ≠ none) ∧
      (x.event = .construct ∨ x.event = .failure →
        w.stored? x.accessor.registry x.accessor.slot = none) := by
  obtain ⟨next, S, reg, ht, -, -⟩ := announce_of_told? hx
  have hsound := hw.consistent.sound ht (List.mem_cons_self ..)
  obtain ⟨a, o, event, fault⟩ := x
  change (event = .hit → _) ∧ (event = .construct ∨ event = .failure → _)
  cases hw.proper t _ ht with
  | requesting hp hS =>
      cases hp _ _ _ rfl with
      | hit =>
          obtain ⟨v, hv, -⟩ := hsound
          exact ⟨fun _ => by simp [hv], fun he => absurd he (by decide)⟩
      | @found f v =>
          have hv : w.stored? a.registry a.slot = some v := hsound.2
          exact ⟨fun _ => by simp [hv], fun he => absurd he (by decide)⟩
      | join => exact ⟨fun he => absurd he (by decide), fun he => absurd he (by decide)⟩
      | construct => exact ⟨fun he => absurd he (by decide), fun _ => hsound.2⟩
      | failure => exact ⟨fun he => absurd he (by decide), fun _ => hsound.2⟩

/-- Without a construction under way, the slots of which a construction was told are those of which
a failure was told and those that hold an instance. -/
theorem Run.reports_perm (run : Run P w₀ h w) (fresh : w₀.Fresh) (hatt : Attended r o h)
    {reg : Registry} (hr : w.registries[r]? = some reg)
    (hidle : ∀ s, w.Uncrashed r s ∧ ¬ w.Underway r s) :
    (reports r .construct h).Perm (reports r .failure h ++ reg.slots) := by
  apply List.perm_iff_count.mpr
  intro s
  have hslots := run.shows fresh hr
  have hmile (e : Event) (he : e.isMilestone = true) :
      (milestones r s h).count e = (events r s h).count e := List.count_filter he
  obtain ⟨hbusy, hnot⟩ := (run.alternates fresh hatt (hidle s).1).count_construct
  rw [hmile _ rfl, hmile _ rfl, count_events, count_events] at hbusy hnot
  rw [List.count_append]
  by_cases hs : w.stored? r s = none
  · have hzero : reg.slots.count s = 0 := by
      apply List.count_eq_zero.mpr
      rw [hslots.mem_slots, slotState_eq_uninitialized.mpr hs]
      simp
    have hidle' : ¬ w.Busy r s := by
      rintro (hne | hunder)
      · exact hne hs
      · exact (hidle s).2 hunder
    have := hnot hidle'
    omega
  · have hmem : s ∈ reg.slots := by
      obtain ⟨u, hu⟩ := Option.ne_none_iff_exists'.mp hs
      exact (hslots.mem_slots s).mpr ⟨_, slotState_of_stored hu⟩
    have hle := List.nodup_iff_count.mp hslots.nodup_slots s
    have hpos := List.count_pos_iff.mpr hmem
    have := hbusy (Or.inl hs)
    omega

/-- The events of a slot in a registry with an observer that stays and does not panic, as long as no
flight of the slot was ended by a panic outside of its constructor. The beginnings and failures of
its constructions alternate, starting with a beginning; a hit is told only while the slot holds its
instance, and a beginning or a failure only while it holds none; and there is one beginning more
than there are failures while the slot holds its instance or a construction is under way, and
otherwise there are as many. So if no construction is under way, the beginnings in the whole
registry outnumber its failures by its stored instances. -/
theorem Run.event_language {P : Program σ} {w₀ w : World σ} {h : List (Move σ)}
    (run : Run P w₀ h w) (fresh : w₀.Fresh) {r : RegistryId} {o : ObserverId}
    (hatt : Attended r o h) :
    (∀ s, w.Uncrashed r s →
      Alternates (w.Busy r s) (milestones r s h) ∧
      (∀ m ∈ h, ∀ x, m.told? = some x → x.accessor.registry = r → x.accessor.slot = s →
        (x.event = .hit → m.before.stored? r s ≠ none) ∧
        (x.event = .construct ∨ x.event = .failure → m.before.stored? r s = none)) ∧
      (w.Busy r s → (events r s h).count .construct = (events r s h).count .failure + 1) ∧
      (¬ w.Busy r s → (events r s h).count .construct = (events r s h).count .failure)) ∧
    (∀ reg, w.registries[r]? = some reg → (∀ s, w.Uncrashed r s ∧ ¬ w.Underway r s) →
      (reports r .construct h).length = (reports r .failure h).length + reg.size) := by
  constructor
  · intro s hu
    have halt := run.alternates fresh hatt hu
    have hcount := halt.count_construct
    rw [milestones, List.count_filter rfl, List.count_filter rfl] at hcount
    refine ⟨halt, ?_, hcount⟩
    rintro m hm x hx rfl rfl
    obtain ⟨h₁, -, -, run₁, -, -⟩ := run.split hm
    exact (run₁.valid fresh).stored?_of_told hx
  · intro reg hr hidle
    have hperm := run.reports_perm fresh hatt hr hidle
    calc (reports r .construct h).length
        = (reports r .failure h ++ reg.slots).length := hperm.length_eq
      _ = (reports r .failure h).length + reg.size := by
        rw [List.length_append, (run.shows fresh hr).size]

end World

/-! ### A failure and a success under an observer -/

namespace Sample

/-- Two threads that call accessors of a registry with an observer. -/
def observed : World Unit :=
  { registries := [.new [some 0]], threads := [.start (caller accessor), .start (caller other)],
    state := () }

theorem observed_fresh : observed.Fresh :=
  World.fresh_start [some 0] [caller accessor, caller other] ()

/-- The call of the first thread fails, and then the second thread calls. -/
def observedSchedule : List ThreadId := List.replicate 18 0 ++ List.replicate 16 1

/-- The steps of both calls. -/
def observedHistory : List (Move Unit) := observed.history fickle observedSchedule

/-- The world after both calls. -/
def observedEnd : World Unit := observed.run fickle observedSchedule

/-- The thread hands no panic to a request. -/
def isCalm : Thread Unit → Bool
  | ⟨.returning (.panicked _), .observation _ _ :: _⟩ => false
  | _ => true

theorem attended_of_isCalm {h : List (Move Unit)} (hcalm : ∀ m ∈ h, m.actor?.all isCalm = true)
    (hobs : ∀ m ∈ h, m.before.registries[0]?.map Registry.observer = some (some 0)) :
    Attended 0 0 h := by
  constructor
  · intro m hm reg hr
    simpa [hr] using hobs m hm
  · intro m hm p a next S hactor
    have := hcalm m hm
    rw [hactor] at this
    cases this

theorem observed_attended : Attended 0 0 observedHistory :=
  attended_of_isCalm (by decide +kernel) (by decide +kernel)

end Sample

/-- A failure and then an instance: two constructions, one failure and one stored instance. -/
theorem World.Run.event_language_retry :
    milestones 0 Sample.slot Sample.observedHistory = [.construct, .failure, .construct] ∧
      Alternates (Sample.observedEnd.Busy 0 Sample.slot)
        (milestones 0 Sample.slot Sample.observedHistory) ∧
      ∃ reg, Sample.observedEnd.registries[0]? = some reg ∧ reg.size = 1 ∧
        (reports 0 .construct Sample.observedHistory).length =
          (reports 0 .failure Sample.observedHistory).length + reg.size := by
  have hland : ∀ fl ∈ Sample.observedEnd.flights, fl.landing.any Landing.isCrash = false := by
    decide +kernel
  have hover : ∀ th ∈ Sample.observedEnd.threads, th.outcome?.isSome = true := by decide +kernel
  have hidle : ∀ s, Sample.observedEnd.Uncrashed 0 s ∧ ¬ Sample.observedEnd.Underway 0 s := by
    intro s
    refine ⟨fun fl hfl _ _ => hland fl hfl, ?_⟩
    rintro ⟨th, hth, hb⟩
    have := hover th hth
    unfold Thread.outcome? at this
    split at this
    · cases hb
    · cases this
  obtain ⟨hslot, hall⟩ := Run.event_language (World.run_of_schedule Sample.fickle Sample.observed
    Sample.observedSchedule) Sample.observed_fresh Sample.observed_attended
  exact ⟨by decide +kernel, (hslot Sample.slot (hidle _).1).1, _, rfl, rfl, hall _ rfl hidle⟩

end InstanceRegistry
