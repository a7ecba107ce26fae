import InstanceRegistry.Proofs.Restriction

/-!
# Observers do not interfere

The observers of registries are told what requests do, and that is all that they have to do with
them. If the observers do not panic, do not call into the library and change nothing that other
code can see, then a run is a run without observers and, in between, the steps of the observers.
So every call ends in the same way with them and without, the same constructors run in the same
order, and registries and flights are the same but for the observers themselves.

## Implementation notes

The two runs are those of two programs over two states. What other code can see of the state is
given by a relation of the two states: observers keep it, all other code is a piece of code and its
counterpart, which do the same in related states. A registry without observers is one that has had
none attached, so the counterpart of attaching an observer is to attach none.

A request that tells its observer is matched by one that skips this. From there on it waits for
its observer, and its counterpart is where it will go on.
-/

namespace InstanceRegistry

variable {σ τ : Type}

section Relations

variable (P : Program σ) (P' : Program τ) (R : σ → τ → Prop)

/-- The code of an observer that does not panic and does not call into the library, and that changes
nothing that other code can see. -/
inductive Code.Discreet : Code σ → Prop
  | done (v : Value) (e : Option Fault) : Discreet (.done v e)
  | act {change next} (hchange : ∀ t s s', R s s' → R (change t s) s')
      (hnext : ∀ t s s', R s s' → Discreet (next t s)) : Discreet (.act change next)
  | notify {o n next} (hobs : Discreet (P.observer o n))
      (hnext : ∀ v e, Discreet (next (.returned v e))) : Discreet (.notify o n next)
  | await {g next} (hnext : Discreet next) : Discreet (.await g next)

/-- The observer is discreet, whatever it is told. -/
def Program.IsDiscreet (o : ObserverId) : Prop := ∀ n, (P.observer o n).Discreet P R

/-- The second piece of code does what the first one does, except that it attaches no observers to
registries; the first one attaches discreet ones. Neither sees what the relation leaves open. -/
inductive Code.Unobserved : Code σ → Code τ → Prop
  | done (v : Value) (e : Option Fault) : Unobserved (.done v e) (.done v e)
  | raise (p : Panic) : Unobserved (.raise p) (.raise p)
  | act {change change' next next'} (hchange : ∀ t s s', R s s' → R (change t s) (change' t s'))
      (hnext : ∀ t s s', R s s' → Unobserved (next t s) (next' t s')) :
      Unobserved (.act change next) (.act change' next')
  | inspect {r next next'}
      (hnext : ∀ reg : Registry, Unobserved (next reg) (next' (reg.attach none))) :
      Unobserved (.inspect r next) (.inspect r next')
  | call {a next next'} (hnext : ∀ o, Unobserved (next o) (next' o)) :
      Unobserved (.call a next) (.call a next')
  /-- Code that hands a notice to an observer by itself does so in both runs. -/
  | notify {o n next next'} (hobs : Unobserved (P.observer o n) (P'.observer o n))
      (hnext : ∀ o, Unobserved (next o) (next' o)) :
      Unobserved (.notify o n next) (.notify o n next')
  | await {g next next'} (hopen : ∀ s s', R s s' → P.isOpen g s = P'.isOpen g s')
      (hnext : Unobserved next next') : Unobserved (.await g next) (.await g next')
  | register {bare os next next'} (hos : ∀ o, some o ∈ os → P.IsDiscreet R o)
      (hnext : ∀ r, Unobserved (next r) (next' r)) :
      Unobserved (.register bare os next) (.register bare [] next')
  | attach {r o next next'} (ho : ∀ x, o = some x → P.IsDiscreet R x)
      (hnext : Unobserved next next') : Unobserved (.attach r o next) (.attach r none next')
  | shared {next next'} (hnext : ∀ r, Unobserved (next r) (next' r)) :
      Unobserved (.shared next) (.shared next')

/-- The second focus is the first one in a run without observers. -/
inductive Focus.Unobserved : Focus σ → Focus τ → Prop
  | running {c c'} (hc : c.Unobserved P P' R c') : Unobserved (.running c) (.running c')
  | requesting (a : Accessor) (p : Phase) : Unobserved (.requesting a p) (.requesting a p)
  | returning (o : Outcome) : Unobserved (.returning o) (.returning o)

/-- The second stack is the first one in a run without observers. No observer of a registry runs
on it. -/
inductive Frames.Unobserved : List (Frame σ) → List (Frame τ) → Prop
  | nil : Unobserved [] []
  | resume {next next' S S'} (hnext : ∀ o, (next o).Unobserved P P' R (next' o))
      (hS : Unobserved S S') : Unobserved (.resume next :: S) (.resume next' :: S')
  | caller {a next next' S S'} (hnext : ∀ o, (next o).Unobserved P P' R (next' o))
      (hS : Unobserved S S') : Unobserved (.caller a next :: S) (.caller a next' :: S')
  | again {a S S'} (hS : Unobserved S S') : Unobserved (.again a :: S) (.again a :: S')
  | construction {a f S S'} (hS : Unobserved S S') :
      Unobserved (.construction a f :: S) (.construction a f :: S')

/-- The focus is that of a discreet observer. -/
def Focus.Discreet : Focus σ → Prop
  | .running c => c.Discreet P R
  | .requesting _ _ => False
  | .returning o => ∃ v e, o = .returned v e

/-- The frame is one of a discreet observer. -/
def Frame.Discreet : Frame σ → Prop
  | .resume next => ∀ v e, (next (.returned v e)).Discreet P R
  | .caller _ _ | .again _ | .construction _ _ | .observation _ _ => False

/-- The second thread is the first one in a run without observers: it does the same, or it is where
the first one goes on after its observer. -/
inductive Thread.Unobserved : Thread σ → Thread τ → Prop
  | level {f f' S S'} (hf : f.Unobserved P P' R f') (hS : Frames.Unobserved P P' R S S') :
      Unobserved ⟨f, S⟩ ⟨f', S'⟩
  | observing {f T a next S S'} (hf : f.Discreet P R) (hT : ∀ fr ∈ T, fr.Discreet P R)
      (hS : Frames.Unobserved P P' R S S') :
      Unobserved ⟨f, T ++ .observation a next :: S⟩ ⟨.requesting a next, S'⟩

/-- The second world is the first one in a run without observers. -/
structure World.Unobserved (w : World σ) (w' : World τ) : Prop where
  registries : w'.registries = w.registries.map fun reg => reg.attach none
  shared : w'.shared = w.shared
  flights : w'.flights = w.flights
  state : R w.state w'.state
  observers : ∀ reg ∈ w.registries, ∀ o, reg.observer = some o → P.IsDiscreet R o
  threads : ∀ t : ThreadId, Option.Rel (Thread.Unobserved P P' R) w.threads[t]? w'.threads[t]?

end Relations

section Construct

variable {P : Program σ} {P' : Program τ} {R : σ → τ → Prop}

theorem Code.Unobserved.unfailing {c : Code σ} {c' : Code τ} (h : c.Unobserved P P' R c') :
    c.unfailing.Unobserved P P' R c'.unfailing := by
  rw [Code.unfailing, Code.unfailing]
  induction h with
  | done v e => exact .done v none
  | raise p => exact .raise p
  | act hchange _ ih => exact .act hchange ih
  | inspect _ ih => exact .inspect ih
  | call _ ih => exact .call ih
  | notify hobs _ _ ih => exact .notify hobs ih
  | await hopen _ ih => exact .await hopen ih
  | register hos _ ih => exact .register hos ih
  | attach ho _ ih => exact .attach ho ih
  | shared _ ih => exact .shared ih

/-- An accessor makes its instance by the same code without observers. -/
theorem Program.construct_unobserved (hP : ∀ k, (P.maker k).Unobserved P P' R (P'.maker k))
    (a : Accessor) : (P.construct a).Unobserved P P' R (P'.construct a) := by
  rw [construct, construct]
  split
  · exact (hP a.maker).unfailing
  · exact hP a.maker

end Construct

/-- The frame waits for an observer. -/
def Frame.isObservation : Frame σ → Bool
  | .observation _ _ => true
  | .resume _ | .caller _ _ | .again _ | .construction _ _ => false

/-- The move is one of the code of an observer, which some request waits for. -/
def Move.isObserving (m : Move σ) : Bool :=
  m.actor?.any fun th => th.stack.any Frame.isObservation

/-- The threads that move in a history, in their order, without the moves of observers. -/
def remainingTurns (h : List (Move σ)) : List ThreadId :=
  (h.filter fun m => !m.isObserving).map Move.thread

/-- An observer is told. -/
def Sign.isTold : Sign → Bool
  | .told _ _ _ => true
  | .asked | .started | .answered _ => false

namespace Registry

@[simp] theorem attach_store (reg : Registry) (o : Option ObserverId) :
    (reg.attach o).store = reg.store := rfl

@[simp] theorem attach_ids (reg : Registry) (o : Option ObserverId) :
    (reg.attach o).ids = reg.ids := rfl

@[simp] theorem attach_flights (reg : Registry) (o : Option ObserverId) :
    (reg.attach o).flights = reg.flights := rfl

@[simp] theorem attach_observer (reg : Registry) (o : Option ObserverId) :
    (reg.attach o).observer = o := rfl

/-- Identifiers do not depend on observers. -/
theorem identify_attach (reg : Registry) (s : Slot) (o : Option ObserverId) :
    (reg.attach o).identify s = ((reg.identify s).1, (reg.identify s).2.attach o) := by
  rw [identify, identify, attach_ids]
  cases reg.ids.get? s with
  | some id => rfl
  | none => cases hb : reg.writable <;> simp [hb, attach]

/-- A registry made with observers is one made without them, but for its observer. -/
theorem attach_make (bare : Bool) (os : List (Option ObserverId)) :
    (make bare os).attach none = make bare [] := by
  cases bare <;> rfl

/-- The observer of a new registry is one of those that it was made with. -/
theorem mem_of_observer_make {bare : Bool} {os : List (Option ObserverId)} {o : ObserverId}
    (h : (make bare os).observer = some o) : some o ∈ os := by
  have hlast (x : Option ObserverId) (hx : os.foldl (fun _ o => o) x = some o) :
      x = some o ∨ some o ∈ os := by
    clear h
    induction os generalizing x with
    | nil => exact Or.inl hx
    | cons y os ih =>
        rcases ih y hx with rfl | hmem
        · exact Or.inr (List.mem_cons_self ..)
        · exact Or.inr (List.mem_cons_of_mem _ hmem)
  cases bare with
  | true => cases h
  | false => exact (hlast none h).resolve_left (Option.some_ne_none o).symm

theorem observer_identify (reg : Registry) (s : Slot) :
    (reg.identify s).2.observer = reg.observer := by
  rw [identify]
  cases reg.ids.get? s with
  | some id => rfl
  | none => cases reg.writable <;> rfl

end Registry

variable {P : Program σ} {P' : Program τ} {R : σ → τ → Prop}

namespace World.Unobserved

variable {w : World σ} {w' : World τ} {t : ThreadId} {S : List (Frame σ)} {S' : List (Frame τ)}
  (hw : w.Unobserved P P' R w')
include hw

/-- A registry without its observer is where the registry was. -/
theorem getElem?_registries (r : RegistryId) :
    w'.registries[r]? = w.registries[r]?.map fun reg => reg.attach none := by
  rw [hw.registries, List.getElem?_map]

theorem landing?_eq (f : FlightId) : w'.landing? f = w.landing? f := by
  rw [landing?, landing?, hw.flights]

/-- Threads may be replaced by a thread and its counterpart. -/
theorem put {f : Focus σ} {f' : Focus τ} (hth : Thread.Unobserved P P' R ⟨f, S⟩ ⟨f', S'⟩)
    (t : ThreadId) : (w.put t f S).Unobserved P P' R (w'.put t f' S') := by
  refine ⟨hw.registries, hw.shared, hw.flights, hw.state, hw.observers, fun u => ?_⟩
  by_cases hu : t = u
  · subst hu
    have hrel := hw.threads t
    simp only [World.put, List.getElem?_set_self']
    generalize w.threads[t]? = x at hrel ⊢
    generalize w'.threads[t]? = x' at hrel ⊢
    cases hrel with
    | none => exact .none
    | some _ => exact .some hth
  · simpa only [World.put, List.getElem?_set_ne hu] using hw.threads u

/-- A thread may go where its counterpart already is. -/
theorem put_left {f : Focus σ} {f' : Focus τ} (hth : Thread.Unobserved P P' R ⟨f, S⟩ ⟨f', S'⟩)
    (ht' : w'.threads[t]? = some ⟨f', S'⟩) : (w.put t f S).Unobserved P P' R w' := by
  obtain ⟨hlt, hth'⟩ := List.getElem?_eq_some_iff.mp ht'
  have hself : w'.put t f' S' = w' := by
    rw [World.put, ← hth', List.set_getElem_self]
  exact hself ▸ hw.put hth t

theorem setState {s : σ} {s' : τ} (hs : R s s') :
    World.Unobserved P P' R { w with state := s } { w' with state := s' } :=
  ⟨hw.registries, hw.shared, hw.flights, hs, hw.observers, hw.threads⟩

/-- What is written to a registry is written to it without its observer. -/
theorem setRegistry (r : RegistryId) (reg : Registry)
    (hreg : ∀ o, reg.observer = some o → P.IsDiscreet R o) :
    (w.setRegistry r reg).Unobserved P P' R (w'.setRegistry r (reg.attach none)) := by
  refine ⟨?_, hw.shared, hw.flights, hw.state, fun x hx => ?_, hw.threads⟩
  · simp only [World.setRegistry, hw.registries, List.map_set]
  · rcases List.mem_or_eq_of_mem_set hx with hx | rfl
    · exact hw.observers x hx
    · exact hreg

/-- A registry is made with observers or without. -/
theorem addRegistry (bare : Bool) (os : List (Option ObserverId))
    (hos : ∀ o, some o ∈ os → P.IsDiscreet R o) :
    (w.addRegistry (.make bare os)).Unobserved P P' R (w'.addRegistry (.make bare [])) := by
  refine ⟨?_, hw.shared, hw.flights, hw.state, fun x hx o ho => ?_, hw.threads⟩
  · simp [World.addRegistry, hw.registries, Registry.attach_make]
  · rcases List.mem_append.mp hx with hx | hx
    · exact hw.observers x hx o ho
    · obtain rfl := List.mem_singleton.mp hx
      exact hos o (Registry.mem_of_observer_make ho)

theorem takeOff (fl : Flight) : (w.takeOff fl).Unobserved P P' R (w'.takeOff fl) := by
  refine ⟨hw.registries, hw.shared, ?_, hw.state, hw.observers, hw.threads⟩
  rw [World.takeOff, World.takeOff, hw.flights]

theorem setLanding (f : FlightId) (l : Landing) :
    (w.setLanding f l).Unobserved P P' R (w'.setLanding f l) := by
  refine ⟨hw.registries, hw.shared, ?_, hw.state, hw.observers, hw.threads⟩
  rw [World.setLanding, World.setLanding, hw.flights]

theorem length_registries : w'.registries.length = w.registries.length := by
  rw [hw.registries, List.length_map]

variable (hS : Frames.Unobserved P P' R S S')
include hS

theorem put_running {c : Code σ} {c' : Code τ} (hc : c.Unobserved P P' R c') :
    Option.Rel (World.Unobserved P P' R) (some (w.put t (.running c) S))
      (some (w'.put t (.running c') S')) :=
  .some (hw.put (.level (.running hc) hS) t)

theorem put_requesting (a : Accessor) (p : Phase) :
    Option.Rel (World.Unobserved P P' R) (some (w.put t (.requesting a p) S))
      (some (w'.put t (.requesting a p) S')) :=
  .some (hw.put (.level (.requesting a p) hS) t)

theorem put_returning (o : Outcome) :
    Option.Rel (World.Unobserved P P' R) (some (w.put t (.returning o) S))
      (some (w'.put t (.returning o) S')) :=
  .some (hw.put (.level (.returning o) hS) t)

/-- Code and its counterpart make the same step. -/
theorem stepCode {c : Code σ} {c' : Code τ} (hc : c.Unobserved P P' R c') :
    Option.Rel (World.Unobserved P P' R) (w.stepCode P t S c) (w'.stepCode P' t S' c') := by
  cases hc with
  | done v e => exact hw.put_returning hS _
  | raise p => exact hw.put_returning hS _
  | act hchange hnext =>
      have hacted := hw.setState (hchange t _ _ hw.state)
      exact hacted.put_running hS (hnext t _ _ hw.state)
  | @inspect r next next' hnext =>
      simp only [World.stepCode, hw.getElem?_registries]
      cases w.registries[r]? with
      | none => exact hw.put_returning hS _
      | some reg => exact hw.put_running hS (hnext reg)
  | @call a next next' hnext =>
      simp only [World.stepCode]
      cases a.insistent with
      | false => exact hw.put_requesting (.caller hnext hS) a _
      | true => exact hw.put_requesting (.again (.caller hnext hS)) a _
  | notify hobs hnext => exact hw.put_running (.resume hnext hS) hobs
  | @await g next next' hopen hnext =>
      simp only [World.stepCode, hopen _ _ hw.state]
      cases P'.isOpen g w'.state with
      | false => exact .none
      | true => exact hw.put_running hS hnext
  | @register bare os next next' hos hnext =>
      simp only [World.stepCode, hw.length_registries]
      have hmade := hw.addRegistry bare os hos
      exact hmade.put_running hS (hnext _)
  | @attach r o next next' ho hnext =>
      simp only [World.stepCode, hw.getElem?_registries]
      cases w.registries[r]? with
      | none => exact hw.put_returning hS _
      | some reg =>
          have hset := hw.setRegistry r (reg.attach o) ho
          exact hset.put_running hS hnext
  | @shared next next' hnext =>
      simp only [World.stepCode, hw.shared, hw.length_registries]
      cases w.shared with
      | some r => exact hw.put_running hS (hnext r)
      | none =>
          have htaken : World.Unobserved P P' R { w with shared := some w.registries.length }
              { w' with shared := some w.registries.length } :=
            ⟨hw.registries, rfl, hw.flights, hw.state, hw.observers, hw.threads⟩
          have hmade := htaken.addRegistry false [] (by simp)
          exact hmade.put_running hS (hnext _)

/-- A request makes the same step without the observer of its registry. Where it would have told
the observer, it is ahead of the request that does. -/
theorem stepRequest (hP : ∀ k, (P.maker k).Unobserved P P' R (P'.maker k)) (a : Accessor)
    {reg : Registry} (hreg : ∀ o, reg.observer = some o → P.IsDiscreet R o) (p : Phase) :
    Option.Rel (World.Unobserved P P' R) (w.stepRequest P t S a reg p)
      (w'.stepRequest P' t S' a (reg.attach none) p) := by
  cases p with
  | check =>
      simp only [World.stepRequest, Registry.attach_store]
      cases reg.store.get? a.slot with
      | none => exact hw.put_requesting hS a _
      | some v => exact hw.put_requesting hS a _
  | identify =>
      have hset := hw.setRegistry a.registry (reg.identify a.slot).2
        (by rwa [reg.observer_identify])
      simp only [World.stepRequest, Registry.identify_attach]
      generalize reg.identify a.slot = x at hset ⊢
      obtain ⟨answer, reg'⟩ := x
      cases answer with
      | ok id => exact hset.put_requesting hS a _
      | error p => exact hset.put_returning hS _
  | board id =>
      simp only [World.stepRequest, Registry.attach_flights, hw.flights]
      cases reg.flights.get? id with
      | some f => exact hw.put_requesting hS a _
      | none =>
          have hoff := hw.takeOff ⟨a.registry, a.slot, id, t, none⟩
          have hgone := hoff.setRegistry a.registry (reg.depart id w.flights.length) hreg
          exact hgone.put_requesting hS a _
  | wait f =>
      simp only [World.stepRequest, hw.landing?_eq]
      cases w.landing? f with
      | none => exact .none
      | some l =>
          cases l with
          | crash p => exact hw.put_returning hS _
          | value | fault => exact hw.put_requesting hS a _
  | recheck f =>
      simp only [World.stepRequest, Registry.attach_store]
      cases reg.store.get? a.slot with
      | none => exact hw.put_requesting hS a _
      | some v => exact hw.put_requesting hS a _
  | build f =>
      exact hw.put_running (.construction hS) (Program.construct_unobserved hP a)
  | keep f v =>
      have hsame : (reg.attach none).writable = reg.writable := rfl
      by_cases hb : reg.writable = true
      · have hkept := hw.setRegistry a.registry (reg.keep a.slot v) hreg
        rw [World.stepRequest, World.stepRequest, if_pos hb, if_pos (hsame.trans hb)]
        exact hkept.put_requesting hS a _
      · rw [World.stepRequest, World.stepRequest, if_neg hb, if_neg (hsame ▸ hb)]
        exact hw.put_requesting hS a _
  | land f l =>
      simp only [World.stepRequest, hw.flights]
      cases w.flights[f]? with
      | none => exact .none
      | some fl =>
          have hlanded := (hw.setLanding f l).setRegistry a.registry (reg.arrive fl.id) hreg
          exact hlanded.put_requesting hS a _
  | settle f l => exact hw.put_returning hS _
  | finish o => exact hw.put_returning hS _
  | announce event fault next =>
      simp only [World.stepRequest, Registry.attach_observer]
      cases ho : reg.observer with
      | none => exact hw.put_requesting hS a _
      | some o =>
          have hth : Thread.Unobserved P P' R
              ⟨.running (P.observer o (a.slot.notice event fault)), [] ++ .observation a next :: S⟩
              ⟨.requesting a next, S'⟩ :=
            .observing (hreg o ho _) (by simp) hS
          exact .some (hw.put hth t)

omit hS in
/-- An outcome is handed on in the same way. -/
theorem stepReturn (hS : Frames.Unobserved P P' R S S') (o : Outcome) :
    Option.Rel (World.Unobserved P P' R) (w.stepReturn t o S) (w'.stepReturn t o S') := by
  cases hS with
  | nil => exact .none
  | resume hnext hS => exact hw.put_running hS (hnext o)
  | caller hnext hS => exact hw.put_running hS (hnext o)
  | again hS =>
      cases o with
      | panicked p => exact hw.put_returning hS _
      | returned v e =>
          cases e with
          | none => exact hw.put_returning hS _
          | some e => exact hw.put_requesting (.again hS) _ _
  | construction hS => exact hw.put_requesting hS _ _

omit hS in
/-- A step of a discreet observer shows nowhere. -/
theorem step_observing {v : World σ} {f : Focus σ} {T : List (Frame σ)} {a : Accessor}
    {next : Phase} (hf : f.Discreet P R) (hT : ∀ fr ∈ T, fr.Discreet P R) (hS : Frames.Unobserved P P' R S S')
    (ht : w.threads[t]? = some ⟨f, T ++ .observation a next :: S⟩)
    (ht' : w'.threads[t]? = some ⟨.requesting a next, S'⟩) (hs : w.step P t = some v) :
    v.Unobserved P P' R w' := by
  rw [World.step, ht] at hs
  cases f with
  | requesting b p => exact hf.elim
  | running c =>
      change c.Discreet P R at hf
      change w.stepCode P t _ c = some v at hs
      cases hf with
      | done x e =>
          obtain rfl := Option.some.inj hs
          exact hw.put_left (.observing ⟨x, e, rfl⟩ hT hS) ht'
      | act hchange hnext =>
          obtain rfl := Option.some.inj hs
          have hacted := hw.setState (hchange t _ _ hw.state)
          exact hacted.put_left (.observing (hnext t _ _ hw.state) hT hS) ht'
      | @notify o n k hobs hnext =>
          obtain rfl := Option.some.inj hs
          have hT' : ∀ fr ∈ .resume k :: T, Frame.Discreet P R fr :=
            List.forall_mem_cons.mpr ⟨hnext, hT⟩
          exact hw.put_left (.observing (T := .resume k :: T) hobs hT' hS) ht'
      | await hnext =>
          simp only [World.stepCode] at hs
          split at hs
          · obtain rfl := Option.some.inj hs
            exact hw.put_left (.observing hnext hT hS) ht'
          · cases hs
  | returning o =>
      obtain ⟨x, e, rfl⟩ := hf
      cases T with
      | nil =>
          -- The observer is through, and its request has caught up.
          obtain rfl := Option.some.inj hs
          exact hw.put_left (.level (.requesting a next) hS) ht'
      | cons fr T =>
          obtain ⟨hfr, hT'⟩ := List.forall_mem_cons.mp hT
          cases fr with
          | resume next =>
              obtain rfl := Option.some.inj hs
              exact hw.put_left (.observing (hfr x e) hT' hS) ht'
          | caller | again | construction | observation => exact hfr.elim

omit hS in
/-- A step without observers shows what the step shows, except that nobody is told. -/
theorem sign?_eq {f : Focus σ} {f' : Focus τ} (hf : f.Unobserved P P' R f')
    (hS : Frames.Unobserved P P' R S S') :
    Thread.sign? w'.observer? ⟨f', S'⟩ =
      (Thread.sign? w.observer? ⟨f, S⟩).filter fun x => !x.2.isTold := by
  cases hf with
  | running hc => cases hc <;> rfl
  | returning o => cases hS <;> rfl
  | requesting a p =>
      cases p with
      | announce event fault next =>
          have hnone : w'.observer? a.registry = none := by
            rw [observer?, hw.getElem?_registries]
            cases w.registries[a.registry]? <;> rfl
          simp only [Thread.sign?, Phase.sign?, hnone]
          cases w.observer? a.registry <;> rfl
      | _ => rfl

end World.Unobserved

/-- No observer runs on a stack that has a counterpart. -/
theorem Frames.Unobserved.any_isObservation {S : List (Frame σ)} {S' : List (Frame τ)}
    (hS : Frames.Unobserved P P' R S S') : S.any Frame.isObservation = false := by
  induction hS with
  | nil => rfl
  | resume _ _ ih | caller _ _ ih | again _ ih | construction _ ih => exact ih

/-- Constructors end in the same way. -/
theorem Frames.Unobserved.concluded?_eq {S : List (Frame σ)} {S' : List (Frame τ)} {f : Focus σ}
    {f' : Focus τ} (hS : Frames.Unobserved P P' R S S') (hf : f.Unobserved P P' R f') :
    Thread.concluded? ⟨f', S'⟩ = Thread.concluded? ⟨f, S⟩ := by
  cases hf with
  | running hc => rfl
  | requesting a p => rfl
  | returning o => cases hS <;> rfl

/-- A thread is through if its counterpart is, and with the same outcome. -/
theorem Thread.Unobserved.outcome?_eq {th : Thread σ} {th' : Thread τ}
    (hth : th.Unobserved P P' R th') : th'.outcome? = th.outcome? := by
  cases hth with
  | level hf hS => cases hf <;> cases hS <;> rfl
  | @observing f T a next S S' hf hT hS => cases f <;> cases T <;> rfl

/-- Threads end with the same outcomes. -/
theorem World.Unobserved.outcome?_eq {w : World σ} {w' : World τ} (hw : w.Unobserved P P' R w')
    (t : ThreadId) :
    w'.threads[t]?.bind Thread.outcome? = w.threads[t]?.bind Thread.outcome? := by
  have hrel := hw.threads t
  generalize w.threads[t]? = x at hrel ⊢
  generalize w'.threads[t]? = x' at hrel ⊢
  cases hrel with
  | none => rfl
  | some hth => exact hth.outcome?_eq

/-- The code of an observer calls nothing, and no call or constructor ends in it. -/
theorem Focus.Discreet.quiet {f : Focus σ} {T : List (Frame σ)} (hf : f.Discreet P R)
    (hT : ∀ fr ∈ T, fr.Discreet P R) (a : Accessor) (next : Phase) (S : List (Frame σ))
    (obs : RegistryId → Option ObserverId) :
    Thread.sign? obs ⟨f, T ++ .observation a next :: S⟩ = none ∧
      Thread.concluded? ⟨f, T ++ .observation a next :: S⟩ = none := by
  cases f with
  | requesting b p => exact hf.elim
  | running c =>
      change c.Discreet P R at hf
      cases hf <;> exact ⟨rfl, rfl⟩
  | returning o =>
      cases T with
      | nil => exact ⟨rfl, rfl⟩
      | cons fr T =>
          have hfr := hT fr (List.mem_cons_self ..)
          cases fr with
          | resume next => exact ⟨rfl, rfl⟩
          | caller | again | construction | observation => exact hfr.elim

theorem conclusions_append_singleton {t : ThreadId} {v w : World σ} {th : Thread σ}
    (ht : v.threads[t]? = some th) (h : List (Move σ)) :
    conclusions (h ++ [⟨t, v, w⟩]) = conclusions h ++ th.concluded?.toList := by
  rw [conclusions, filterMap_append_singleton, Move.actor?, ht]
  rfl

theorem exists_of_rel_some {α β : Type} {r : α → β → Prop} {x : α} {y : Option β}
    (h : Option.Rel r (some x) y) : ∃ z, y = some z ∧ r x z := by
  cases h with
  | some h => exact ⟨_, rfl, h⟩

namespace World

variable {w₀ w v : World σ} {w₀' w' : World τ} {t : ThreadId} {h : List (Move σ)}

/-- A thread on which no observer runs makes the same step as its counterpart. -/
theorem Unobserved.step_level {f : Focus σ} {f' : Focus τ} {S : List (Frame σ)}
    {S' : List (Frame τ)} (hw : w.Unobserved P P' R w')
    (hP : ∀ k, (P.maker k).Unobserved P P' R (P'.maker k))
    (hf : f.Unobserved P P' R f') (hS : Frames.Unobserved P P' R S S')
    (ht : w.threads[t]? = some ⟨f, S⟩) (ht' : w'.threads[t]? = some ⟨f', S'⟩) :
    Option.Rel (World.Unobserved P P' R) (w.step P t) (w'.step P' t) := by
  rw [World.step, World.step, ht, ht']
  cases hf with
  | running hc => exact hw.stepCode hS hc
  | returning o => exact hw.stepReturn hS o
  | requesting a p =>
      simp only [hw.getElem?_registries]
      cases hr : w.registries[a.registry]? with
      | none => exact hw.put_returning hS _
      | some reg => exact hw.stepRequest hS hP a (hw.observers reg (List.mem_of_getElem? hr)) p

/-- A run has a counterpart without observers, in which the threads take turns as in the run. It
shows what the run shows, except that nobody is told. -/
theorem Run.unobserved (run : Run P w₀ h w)
    (hP : ∀ k, (P.maker k).Unobserved P P' R (P'.maker k))
    (hw₀ : w₀.Unobserved P P' R w₀') :
    ∃ h' w', Run P' w₀' h' w' ∧ w.Unobserved P P' R w' ∧ h'.map Move.thread = remainingTurns h ∧
      trace h' = (trace h).filter (fun x => !x.sign.isTold) ∧ conclusions h' = conclusions h := by
  induction run with
  | start => exact ⟨[], w₀', .start, hw₀, rfl, rfl, rfl⟩
  | @step h v t w run hs ih =>
      obtain ⟨h', v', run', hv, hthreads, htrace, hconc⟩ := ih
      obtain ⟨th, -, ht, -, -⟩ := step_turn hs
      obtain ⟨th', ht', hth⟩ := exists_of_rel_some (ht ▸ hv.threads t)
      cases hth with
      | @level f f' S S' hf hS =>
          obtain ⟨w', hs', hw'⟩ := exists_of_rel_some (hs ▸ hv.step_level hP hf hS ht ht')
          have hobs : (⟨t, v, w⟩ : Move σ).isObserving = false := by
            rw [Move.isObserving, Move.actor?, ht]
            exact hS.any_isObservation
          refine ⟨h' ++ [⟨t, v', w'⟩], w', run'.step hs', hw', ?_, ?_, ?_⟩
          · simp [remainingTurns, hobs, hthreads]
          · rw [trace_append, trace_append, List.filter_append, htrace, trace_singleton ht,
              trace_singleton ht', hv.sign?_eq hf hS]
            cases hx : Thread.sign? v.observer? ⟨f, S⟩ with
            | none => rfl
            | some x => cases hx : x.2.isTold <;> simp [Option.filter, hx]
          · rw [conclusions_append_singleton ht, conclusions_append_singleton ht', hconc,
              hS.concluded?_eq hf]
      | @observing f T a next S S' hf hT hS =>
          have hobs : (⟨t, v, w⟩ : Move σ).isObserving = true := by
            simp [Move.isObserving, Move.actor?, ht, Frame.isObservation]
          obtain ⟨hsign, hnone⟩ := hf.quiet hT a next S v.observer?
          refine ⟨h', v', run', hv.step_observing hf hT hS ht ht' hs, ?_, ?_, ?_⟩
          · simp [remainingTurns, hobs, hthreads]
          · rw [trace_append, trace_singleton ht, hsign, htrace]
            simp
          · rw [conclusions_append_singleton ht, hnone, hconc]
            simp

/-- Observers that neither panic nor call into the library do not interfere. Without them, and with
the remaining steps in the same order, every thread can make its steps, the same calls are made and
end in the same way, the same constructors start and end in the same order, every thread ends with
the same outcome, and the registries, but for their observers, and the flights are the same. -/
theorem Run.observers_inert {P : Program σ} {P' : Program τ} {R : σ → τ → Prop}
    {w₀ w : World σ} {w₀' : World τ} {h : List (Move σ)} (run : Run P w₀ h w)
    (hP : ∀ k, (P.maker k).Unobserved P P' R (P'.maker k)) (hw₀ : w₀.Unobserved P P' R w₀') :
    (w₀'.history P' (remainingTurns h)).map Move.thread = remainingTurns h ∧
    trace (w₀'.history P' (remainingTurns h)) = (trace h).filter (fun x => !x.sign.isTold) ∧
    conclusions (w₀'.history P' (remainingTurns h)) = conclusions h ∧
    (∀ t : ThreadId, (w₀'.run P' (remainingTurns h)).threads[t]?.bind Thread.outcome? =
      w.threads[t]?.bind Thread.outcome?) ∧
    (w₀'.run P' (remainingTurns h)).registries = w.registries.map (fun reg => reg.attach none) ∧
    (w₀'.run P' (remainingTurns h)).flights = w.flights ∧
    (w₀'.run P' (remainingTurns h)).shared = w.shared := by
  obtain ⟨h', w', run', hw, hturns, htrace, hconc⟩ := run.unobserved hP hw₀
  obtain ⟨rfl, hh⟩ := run'.eq_of_turns
  rw [hturns] at hh hw
  subst hh
  refine ⟨hturns, htrace, hconc, fun t => ?_, hw.registries, hw.flights, hw.shared⟩
  have hrel := hw.threads t
  generalize w.threads[t]? = x at hrel ⊢
  generalize (w₀'.run P' (remainingTurns h)).threads[t]? = x' at hrel ⊢
  cases hrel with
  | none => rfl
  | some hth => exact hth.outcome?_eq

end World

/-! ### An observer that records what it is told -/

namespace Sample

/-- The observers write down the events that they are told. -/
def recorder : Program (List Event) where
  maker _ := .done (.number 7) none
  observer _ n := .update (fun _ log => log ++ [n.event]) (.done .unit none)
  isOpen _ _ := true

/-- The events that were written down do not count. -/
def Unseen (_ : List Event) (_ : Unit) : Prop := True

/-- Calls the accessor and ends as the call does. -/
def asker : Code (List Event) :=
  .call accessor fun
    | .returned v e => .done v e
    | .panicked p => .raise p

/-- Two threads that call an accessor, and one that attaches another observer. -/
def recorded : World (List Event) where
  registries := [.new [some 0]]
  threads := [.start asker, .start asker, .start (.attach 0 (some 1) (.done .unit none))]
  state := []

/-- The same threads without observers. -/
def unrecorded : World Unit where
  registries := [.new []]
  threads :=
    [.start (caller accessor), .start (caller accessor), .start (.attach 0 none (.done .unit none))]
  state := ()

/-- While the observer of the first request runs, the second thread joins its flight and the third
one attaches the other observer. -/
def recordedSchedule : List ThreadId :=
  List.replicate 7 0 ++ List.replicate 4 1 ++ [2] ++
    (List.replicate 10 0 ++ List.replicate 8 1 ++ [2])

/-- The steps of all threads. -/
def recordedHistory : List (Move (List Event)) := recorded.history recorder recordedSchedule

/-- The world after all calls. -/
def recordedEnd : World (List Event) := recorded.run recorder recordedSchedule

theorem recorder_isDiscreet (o : ObserverId) : recorder.IsDiscreet Unseen o :=
  fun _ => .act (fun _ _ _ _ => trivial) fun _ _ _ _ => .done .unit none

theorem asker_unobserved : asker.Unobserved recorder (program seven) Unseen (caller accessor) := by
  refine .call fun o => ?_
  cases o with
  | returned v e => exact .done v e
  | panicked p => exact .raise p

theorem recorded_unobserved : recorded.Unobserved recorder (program seven) Unseen unrecorded := by
  refine ⟨rfl, rfl, rfl, trivial, fun _ _ o _ => recorder_isDiscreet o, fun t => ?_⟩
  match t with
  | 0 | 1 => exact .some (.level (.running asker_unobserved) .nil)
  | 2 =>
      have hattach : Code.Unobserved recorder (program seven) Unseen
          (.attach 0 (some 1) (.done .unit none)) (.attach 0 none (.done .unit none)) :=
        .attach (fun o _ => recorder_isDiscreet o) (.done .unit none)
      exact .some (.level (.running hattach) .nil)
  | _ + 3 => exact .none

end Sample

/-- The observers have written down a construction and a shared flight. Without them the calls end
in the same way, and the same instance is stored. -/
theorem World.Run.observers_inert_recorder :
    Sample.recordedEnd.state = [.construct, .dedup] ∧
    (remainingTurns Sample.recordedHistory).length + 6 = Sample.recordedHistory.length ∧
    trace (Sample.unrecorded.history (Sample.program Sample.seven)
      (remainingTurns Sample.recordedHistory)) =
        (trace Sample.recordedHistory).filter (fun x => !x.sign.isTold) ∧
    (Sample.unrecorded.run (Sample.program Sample.seven)
      (remainingTurns Sample.recordedHistory)).threads[1]?.bind Thread.outcome? =
        some (.returned (.number 7) none) ∧
    (Sample.unrecorded.run (Sample.program Sample.seven)
      (remainingTurns Sample.recordedHistory)).registries =
        Sample.recordedEnd.registries.map (fun reg => reg.attach none) := by
  obtain ⟨-, htrace, -, houtcome, hregistries, -, -⟩ :=
    Run.observers_inert (World.run_of_schedule Sample.recorder Sample.recorded
      Sample.recordedSchedule) (fun _ => .done (.number 7) none) Sample.recorded_unobserved
  exact ⟨rfl, by decide +kernel, htrace, houtcome 1, hregistries⟩

end InstanceRegistry
