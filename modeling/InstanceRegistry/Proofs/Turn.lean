import InstanceRegistry.Proofs.Run

/-!
# What a step can do

`Turn` lists all that a step can do to the thread that makes it, to the registries
and to the flights, each with the condition under which it happens. Every step is
such a turn of one thread, and no other thread changes. What follows about steps is
derived from this list and does not open the step function again.

## Implementation notes

The shared state and the code that a thread goes on with are left open, since no
property of registries depends on them; the code of a constructor is an exception.
-/

namespace InstanceRegistry

variable {σ : Type}

/-- What the code of a thread does to the registries: nothing, or it makes a new one, or it
attaches an observer to one. -/
inductive Rearranged (regs : List Registry) : List Registry → Prop
  | kept : Rearranged regs regs
  | added (bare : Bool) (observers : List (Option ObserverId)) :
      Rearranged regs (regs ++ [.make bare observers])
  | attached {r reg} (o : Option ObserverId) (hr : regs[r]? = some reg) :
      Rearranged regs (regs.set r (reg.attach o))

/-- The observer that the next step of code attaches to a registry. -/
def Code.attaches? (r : RegistryId) : Code σ → Option (Option ObserverId)
  | .attach r' o _ => if r' = r then some o else none
  | _ => none

namespace World

/-- Registries and flights are the same in both worlds. -/
structure Quiet (w w' : World σ) : Prop where
  registries : w'.registries = w.registries
  flights : w'.flights = w.flights

/-- One registry is replaced, and all else is the same. -/
structure Writes (w w' : World σ) (r : RegistryId) (reg : Registry) : Prop where
  registries : w'.registries = w.registries.set r reg
  flights : w'.flights = w.flights

/-- The turns of a thread. -/
inductive Turn (P : Program σ) (t : ThreadId) (w w' : World σ) : Thread σ → Thread σ → Prop
  /-- Code goes on. -/
  | proceed {c c' S} (hr : Rearranged w.registries w'.registries) (hf : w'.flights = w.flights) :
      Turn P t w w' ⟨.running c, S⟩ ⟨.running c', S⟩
  /-- Code ends. -/
  | stop {c o S} (hq : Quiet w w') : Turn P t w w' ⟨.running c, S⟩ ⟨.returning o, S⟩
  /-- Code hands a notice to an observer. -/
  | notify {c c' next S} (hq : Quiet w w') :
      Turn P t w w' ⟨.running c, S⟩ ⟨.running c', .resume next :: S⟩
  /-- Code calls an accessor. -/
  | call {a next S} (hq : Quiet w w') :
      Turn P t w w' ⟨.running (.call a next), S⟩
        ⟨.requesting a .check,
          if a.insistent then .again a :: .caller a next :: S else .caller a next :: S⟩
  /-- An observer that code called is through. -/
  | resume {o next S} (hq : Quiet w w') :
      Turn P t w w' ⟨.returning o, .resume next :: S⟩ ⟨.running (next o), S⟩
  /-- A call ends. -/
  | answer {o a next S} (hq : Quiet w w') :
      Turn P t w w' ⟨.returning o, .caller a next :: S⟩ ⟨.running (next o), S⟩
  /-- A steadfast accessor got a fault and starts again. -/
  | retry {v e a S} (hq : Quiet w w') :
      Turn P t w w' ⟨.returning (.returned v (some e)), .again a :: S⟩
        ⟨.requesting a .check, .again a :: S⟩
  /-- A steadfast accessor got an instance or a panic. -/
  | pass {o a S} (hq : Quiet w w') (ho : ∀ v e, o ≠ .returned v (some e)) :
      Turn P t w w' ⟨.returning o, .again a :: S⟩ ⟨.returning o, S⟩
  /-- A constructor is through. -/
  | conclude {o a f S} (hq : Quiet w w') :
      Turn P t w w' ⟨.returning o, .construction a f :: S⟩ ⟨.requesting a (o.conclude a.slot f), S⟩
  /-- The observer of a request is through. -/
  | observed {v e a next S} (hq : Quiet w w') :
      Turn P t w w' ⟨.returning (.returned v e), .observation a next :: S⟩ ⟨.requesting a next, S⟩
  /-- The observer of a leader panicked. -/
  | crash {p a next f S} (hq : Quiet w w') (hf : next.flight? = some f) :
      Turn P t w w' ⟨.returning (.panicked p), .observation a next :: S⟩
        ⟨.requesting a (.land f (.crash p)), S⟩
  /-- The observer of a request that leads no flight panicked. -/
  | interrupt {p a next S} (hq : Quiet w w') (hf : next.flight? = none) :
      Turn P t w w' ⟨.returning (.panicked p), .observation a next :: S⟩
        ⟨.returning (.panicked p), S⟩
  /-- There is no such registry. -/
  | lost {a p S} (hq : Quiet w w') (hr : w.registries[a.registry]? = none) :
      Turn P t w w' ⟨.requesting a p, S⟩ ⟨.returning (.panicked .nilDereference), S⟩
  | hit {a S reg v} (hq : Quiet w w') (hr : w.registries[a.registry]? = some reg)
      (hv : reg.store.get? a.slot = some v) :
      Turn P t w w' ⟨.requesting a .check, S⟩
        ⟨.requesting a (.announce .hit none (.finish (.returned (a.slot.type.unbox v) none))), S⟩
  | miss {a S reg} (hq : Quiet w w') (hr : w.registries[a.registry]? = some reg)
      (hv : reg.store.get? a.slot = none) :
      Turn P t w w' ⟨.requesting a .check, S⟩ ⟨.requesting a .identify, S⟩
  | identify {a S reg reg' id} (hr : w.registries[a.registry]? = some reg)
      (hi : reg.identify a.slot = (.ok id, reg')) (hw : Writes w w' a.registry reg') :
      Turn P t w w' ⟨.requesting a .identify, S⟩ ⟨.requesting a (.board id), S⟩
  | refuse {a S reg reg' p} (hr : w.registries[a.registry]? = some reg)
      (hi : reg.identify a.slot = (.error p, reg')) (hw : Writes w w' a.registry reg') :
      Turn P t w w' ⟨.requesting a .identify, S⟩ ⟨.returning (.panicked p), S⟩
  | join {a S reg id f} (hq : Quiet w w') (hr : w.registries[a.registry]? = some reg)
      (hf : reg.flights.get? id = some f) :
      Turn P t w w' ⟨.requesting a (.board id), S⟩ ⟨.requesting a (.wait f), S⟩
  | takeOff {a S reg id} (hr : w.registries[a.registry]? = some reg)
      (hn : reg.flights.get? id = none)
      (hreg : w'.registries = w.registries.set a.registry (reg.depart id w.flights.length))
      (hf : w'.flights = w.flights ++ [⟨a.registry, a.slot, id, t, none⟩]) :
      Turn P t w w' ⟨.requesting a (.board id), S⟩ ⟨.requesting a (.recheck w.flights.length), S⟩
  /-- The flight that was waited for crashed. -/
  | share {a S f p} (hq : Quiet w w') (hl : w.landing? f = some (.crash p)) :
      Turn P t w w' ⟨.requesting a (.wait f), S⟩ ⟨.returning (.panicked (.flight p)), S⟩
  /-- The flight that was waited for landed in another way. -/
  | release {a S f l} (hq : Quiet w w') (hl : w.landing? f = some l) (hn : ∀ p, l ≠ .crash p) :
      Turn P t w w' ⟨.requesting a (.wait f), S⟩
        ⟨.requesting a (.announce .dedup l.fault? (.settle f l)), S⟩
  | find {a S reg f v} (hq : Quiet w w') (hr : w.registries[a.registry]? = some reg)
      (hv : reg.store.get? a.slot = some v) :
      Turn P t w w' ⟨.requesting a (.recheck f), S⟩
        ⟨.requesting a (.announce .hit none (.land f (.value v))), S⟩
  | clear {a S reg f} (hq : Quiet w w') (hr : w.registries[a.registry]? = some reg)
      (hv : reg.store.get? a.slot = none) :
      Turn P t w w' ⟨.requesting a (.recheck f), S⟩
        ⟨.requesting a (.announce .construct none (.build f)), S⟩
  | build {a S f} (hq : Quiet w w') :
      Turn P t w w' ⟨.requesting a (.build f), S⟩
        ⟨.running (P.construct a), .construction a f :: S⟩
  | keep {a S reg f v} (hr : w.registries[a.registry]? = some reg) (hb : reg.writable = true)
      (hw : Writes w w' a.registry (reg.keep a.slot v)) :
      Turn P t w w' ⟨.requesting a (.keep f v), S⟩ ⟨.requesting a (.land f (.value v)), S⟩
  /-- A bare registry keeps nothing. -/
  | spill {a S reg f v} (hq : Quiet w w') (hr : w.registries[a.registry]? = some reg)
      (hb : reg.writable = false) :
      Turn P t w w' ⟨.requesting a (.keep f v), S⟩
        ⟨.requesting a (.land f (.crash (.runtime .nilMapWrite))), S⟩
  | land {a S reg f flight l} (hr : w.registries[a.registry]? = some reg)
      (hf : w.flights[f]? = some flight)
      (hreg : w'.registries = w.registries.set a.registry (reg.arrive flight.id))
      (hfs : w'.flights = (w.setLanding f l).flights) :
      Turn P t w w' ⟨.requesting a (.land f l), S⟩ ⟨.requesting a (.settle f l), S⟩
  | settle {a S f l} (hq : Quiet w w') :
      Turn P t w w' ⟨.requesting a (.settle f l), S⟩ ⟨.returning (l.settle a.slot.type), S⟩
  | finish {a S o} (hq : Quiet w w') :
      Turn P t w w' ⟨.requesting a (.finish o), S⟩ ⟨.returning o, S⟩
  /-- There is no observer. -/
  | skip {a S event fault next reg} (hq : Quiet w w') (hr : w.registries[a.registry]? = some reg)
      (ho : reg.observer = none) :
      Turn P t w w' ⟨.requesting a (.announce event fault next), S⟩ ⟨.requesting a next, S⟩
  | announce {a S event fault next o reg} (hq : Quiet w w')
      (hr : w.registries[a.registry]? = some reg) (ho : reg.observer = some o) :
      Turn P t w w' ⟨.requesting a (.announce event fault next), S⟩
        ⟨.running (P.observer o (a.slot.notice event fault)), .observation a next :: S⟩

variable {P : Program σ} {t : ThreadId} {w w' : World σ}

/-- Every step of code is a turn. -/
theorem stepCode_turn {S : List (Frame σ)} {c : Code σ} (h : w.stepCode P t S c = some w') :
    ∃ th, w'.threads = w.threads.set t th ∧ Turn P t w w' ⟨.running c, S⟩ th := by
  cases c with
  | done v e =>
      obtain rfl := Option.some.inj h
      exact ⟨_, rfl, .stop ⟨rfl, rfl⟩⟩
  | raise p =>
      obtain rfl := Option.some.inj h
      exact ⟨_, rfl, .stop ⟨rfl, rfl⟩⟩
  | act change next =>
      obtain rfl := Option.some.inj h
      exact ⟨_, rfl, .proceed .kept rfl⟩
  | inspect r next =>
      simp only [stepCode] at h
      split at h
      · obtain rfl := Option.some.inj h
        exact ⟨_, rfl, .stop ⟨rfl, rfl⟩⟩
      · obtain rfl := Option.some.inj h
        exact ⟨_, rfl, .proceed .kept rfl⟩
  | call a next =>
      obtain rfl := Option.some.inj h
      exact ⟨_, rfl, .call ⟨rfl, rfl⟩⟩
  | notify o n next =>
      obtain rfl := Option.some.inj h
      exact ⟨_, rfl, .notify ⟨rfl, rfl⟩⟩
  | await g next =>
      simp only [stepCode] at h
      split at h
      · obtain rfl := Option.some.inj h
        exact ⟨_, rfl, .proceed .kept rfl⟩
      · cases h
  | register bare os next =>
      obtain rfl := Option.some.inj h
      exact ⟨_, rfl, .proceed (.added bare os) rfl⟩
  | attach r o next =>
      simp only [stepCode] at h
      split at h
      · obtain rfl := Option.some.inj h
        exact ⟨_, rfl, .stop ⟨rfl, rfl⟩⟩
      · rename_i reg hr
        obtain rfl := Option.some.inj h
        exact ⟨_, rfl, .proceed (.attached o hr) rfl⟩
  | shared next =>
      simp only [stepCode] at h
      split at h
      · obtain rfl := Option.some.inj h
        exact ⟨_, rfl, .proceed .kept rfl⟩
      · obtain rfl := Option.some.inj h
        exact ⟨_, rfl, .proceed (.added false []) rfl⟩

/-- Every step of a request over its registry is a turn. -/
theorem stepRequest_turn {S : List (Frame σ)} {a : Accessor} {reg : Registry} {p : Phase}
    (hr : w.registries[a.registry]? = some reg) (h : w.stepRequest P t S a reg p = some w') :
    ∃ th, w'.threads = w.threads.set t th ∧ Turn P t w w' ⟨.requesting a p, S⟩ th := by
  cases p with
  | check =>
      simp only [stepRequest] at h
      split at h
      · rename_i v hv
        obtain rfl := Option.some.inj h
        exact ⟨_, rfl, .hit ⟨rfl, rfl⟩ hr hv⟩
      · rename_i hv
        obtain rfl := Option.some.inj h
        exact ⟨_, rfl, .miss ⟨rfl, rfl⟩ hr hv⟩
  | identify =>
      simp only [stepRequest] at h
      split at h
      · rename_i id reg' hi
        obtain rfl := Option.some.inj h
        exact ⟨_, rfl, .identify hr hi ⟨rfl, rfl⟩⟩
      · rename_i p reg' hi
        obtain rfl := Option.some.inj h
        exact ⟨_, rfl, .refuse hr hi ⟨rfl, rfl⟩⟩
  | board id =>
      simp only [stepRequest] at h
      split at h
      · rename_i f hf
        obtain rfl := Option.some.inj h
        exact ⟨_, rfl, .join ⟨rfl, rfl⟩ hr hf⟩
      · rename_i hf
        obtain rfl := Option.some.inj h
        exact ⟨_, rfl, .takeOff hr hf rfl rfl⟩
  | wait f =>
      simp only [stepRequest] at h
      split at h
      · cases h
      · rename_i p hl
        obtain rfl := Option.some.inj h
        exact ⟨_, rfl, .share ⟨rfl, rfl⟩ hl⟩
      · rename_i l hn hl
        obtain rfl := Option.some.inj h
        exact ⟨_, rfl, .release ⟨rfl, rfl⟩ hl (fun p hp => hn p hp)⟩
  | recheck f =>
      simp only [stepRequest] at h
      split at h
      · rename_i v hv
        obtain rfl := Option.some.inj h
        exact ⟨_, rfl, .find ⟨rfl, rfl⟩ hr hv⟩
      · rename_i hv
        obtain rfl := Option.some.inj h
        exact ⟨_, rfl, .clear ⟨rfl, rfl⟩ hr hv⟩
  | build f =>
      obtain rfl := Option.some.inj h
      exact ⟨_, rfl, .build ⟨rfl, rfl⟩⟩
  | keep f v =>
      simp only [stepRequest] at h
      split at h
      · rename_i hb
        obtain rfl := Option.some.inj h
        exact ⟨_, rfl, .keep hr hb ⟨rfl, rfl⟩⟩
      · rename_i hb
        obtain rfl := Option.some.inj h
        exact ⟨_, rfl, .spill ⟨rfl, rfl⟩ hr (by simpa using hb)⟩
  | land f l =>
      simp only [stepRequest] at h
      split at h
      · cases h
      · rename_i flight hf
        obtain rfl := Option.some.inj h
        exact ⟨_, rfl, .land hr hf rfl rfl⟩
  | settle f l =>
      obtain rfl := Option.some.inj h
      exact ⟨_, rfl, .settle ⟨rfl, rfl⟩⟩
  | finish o =>
      obtain rfl := Option.some.inj h
      exact ⟨_, rfl, .finish ⟨rfl, rfl⟩⟩
  | announce event fault next =>
      simp only [stepRequest] at h
      split at h
      · rename_i ho
        obtain rfl := Option.some.inj h
        exact ⟨_, rfl, .skip ⟨rfl, rfl⟩ hr ho⟩
      · rename_i o ho
        obtain rfl := Option.some.inj h
        exact ⟨_, rfl, .announce ⟨rfl, rfl⟩ hr ho⟩

/-- Every step that hands an outcome to a frame is a turn. -/
theorem stepReturn_turn {S : List (Frame σ)} {o : Outcome} (h : w.stepReturn t o S = some w') :
    ∃ th, w'.threads = w.threads.set t th ∧ Turn P t w w' ⟨.returning o, S⟩ th := by
  cases S with
  | nil => cases h
  | cons frame S =>
      cases frame with
      | resume next =>
          obtain rfl := Option.some.inj h
          exact ⟨_, rfl, .resume ⟨rfl, rfl⟩⟩
      | caller a next =>
          obtain rfl := Option.some.inj h
          exact ⟨_, rfl, .answer ⟨rfl, rfl⟩⟩
      | again a =>
          simp only [stepReturn] at h
          split at h
          · obtain rfl := Option.some.inj h
            exact ⟨_, rfl, .retry ⟨rfl, rfl⟩⟩
          · rename_i ho
            obtain rfl := Option.some.inj h
            exact ⟨_, rfl, .pass ⟨rfl, rfl⟩ (fun v e he => ho v e he)⟩
      | construction a f =>
          obtain rfl := Option.some.inj h
          exact ⟨_, rfl, .conclude ⟨rfl, rfl⟩⟩
      | observation a next =>
          cases o with
          | returned v e =>
              obtain rfl := Option.some.inj h
              exact ⟨_, rfl, .observed ⟨rfl, rfl⟩⟩
          | panicked p =>
              obtain rfl := Option.some.inj h
              refine ⟨⟨next.interrupt a p, S⟩, rfl, ?_⟩
              unfold Phase.interrupt
              split
              · rename_i f hf
                exact .crash ⟨rfl, rfl⟩ hf
              · rename_i hf
                exact .interrupt ⟨rfl, rfl⟩ hf

/-- Every step is a turn of the thread that makes it, and no other thread changes. -/
theorem step_turn (h : w.step P t = some w') :
    ∃ th th', w.threads[t]? = some th ∧ w'.threads = w.threads.set t th' ∧
      Turn P t w w' th th' := by
  unfold step at h
  split at h
  · cases h
  · rename_i c S ht
    obtain ⟨th', hth, turn⟩ := stepCode_turn h
    exact ⟨_, th', ht, hth, turn⟩
  · rename_i a p S ht
    split at h
    · rename_i hr
      obtain rfl := Option.some.inj h
      exact ⟨_, _, ht, rfl, .lost ⟨rfl, rfl⟩ hr⟩
    · rename_i reg hr
      obtain ⟨th', hth, turn⟩ := stepRequest_turn hr h
      exact ⟨_, th', ht, hth, turn⟩
  · rename_i o S ht
    obtain ⟨th', hth, turn⟩ := stepReturn_turn h
    exact ⟨_, th', ht, hth, turn⟩

/-- Only code changes the shared state. -/
theorem state_step {th : Thread σ} (ht : w.threads[t]? = some th)
    (hc : ∀ c, th.focus ≠ .running c) (h : w.step P t = some w') : w'.state = w.state := by
  obtain ⟨focus, S⟩ := th
  rw [step, ht] at h
  cases focus with
  | running c => exact (hc c rfl).elim
  | requesting a p =>
      dsimp only at h
      split at h
      · obtain rfl := Option.some.inj h
        rfl
      · cases p with
        | check | identify | board | wait | recheck | keep | land | announce =>
            simp only [stepRequest] at h
            split at h <;> cases h <;> rfl
        | build | settle | finish =>
            obtain rfl := Option.some.inj h
            rfl
  | returning o =>
      cases S with
      | nil => cases h
      | cons frame S =>
          cases frame with
          | again a =>
              simp only [stepReturn] at h
              split at h <;> cases h <;> rfl
          | observation a next => cases o <;> cases h <;> rfl
          | resume | caller | construction =>
              obtain rfl := Option.some.inj h
              rfl

/-- Code that does not attach an observer to a registry leaves it its observer. -/
theorem observer_stepCode {S : List (Frame σ)} {c : Code σ} {r : RegistryId} {reg : Registry}
    (hr : w.registries[r]? = some reg) (h : w.stepCode P t S c = some w') :
    (w'.registries[r]?.bind Registry.observer) = (c.attaches? r).getD reg.observer := by
  obtain ⟨hlt, -⟩ := List.getElem?_eq_some_iff.mp hr
  cases c with
  | done | raise | act | call | notify =>
      obtain rfl := Option.some.inj h
      exact congrArg (Option.bind · _) hr
  | inspect r' next =>
      simp only [stepCode] at h
      split at h <;> cases h <;> exact congrArg (Option.bind · _) hr
  | await g next =>
      simp only [stepCode] at h
      split at h
      · cases h
        exact congrArg (Option.bind · _) hr
      · cases h
  | register bare os next =>
      obtain rfl := Option.some.inj h
      simp [addRegistry, put, List.getElem?_append_left hlt, hr, Code.attaches?]
  | attach r' o next =>
      simp only [stepCode] at h
      split at h
      · rename_i hr'
        cases h
        have hne : r' ≠ r := by
          rintro rfl
          cases hr'.symm.trans hr
        simp [put, hr, Code.attaches?, hne]
      · rename_i reg' hr'
        cases h
        by_cases hrr : r' = r
        · subst hrr
          simp [put, setRegistry, hlt, Registry.attach, Code.attaches?]
        · simp [put, setRegistry, List.getElem?_set_ne hrr, hr, Code.attaches?, hrr]
  | shared next =>
      simp only [stepCode] at h
      split at h
      · cases h
        exact congrArg (Option.bind · _) hr
      · cases h
        simp [addRegistry, put, List.getElem?_append_left hlt, hr, Code.attaches?]

/-- The threads that have no step: one that is through, one before a closed gate, one that waits
for a flight in the air, and one that would land a flight that does not exist. -/
inductive Stuck (P : Program σ) (w : World σ) : Thread σ → Prop
  | through {o} : Stuck P w ⟨.returning o, []⟩
  | shut {g next S} (h : P.isOpen g w.state = false) : Stuck P w ⟨.running (.await g next), S⟩
  | waiting {a f S} (h : w.landing? f = none) : Stuck P w ⟨.requesting a (.wait f), S⟩
  | adrift {a f l S} (h : w.flights[f]? = none) : Stuck P w ⟨.requesting a (.land f l), S⟩

/-- A thread that has no step is stuck in one of these ways. -/
theorem stuck_of_step_eq_none {th : Thread σ} (ht : w.threads[t]? = some th)
    (h : w.step P t = none) : Stuck P w th := by
  obtain ⟨focus, S⟩ := th
  rw [step, ht] at h
  cases focus with
  | running c =>
      cases c with
      | await g next =>
          simp only [stepCode] at h
          split at h
          · cases h
          · rename_i hopen
            exact .shut (by simpa using hopen)
      | inspect r next | attach r o next | shared next =>
          simp only [stepCode] at h
          split at h <;> cases h
      | done | raise | act | call | notify | register => cases h
  | returning o =>
      cases S with
      | nil => exact .through
      | cons frame S =>
          cases frame with
          | again a =>
              simp only [stepReturn] at h
              split at h <;> cases h
          | observation a next => cases o <;> cases h
          | resume | caller | construction => cases h
  | requesting a p =>
      dsimp only at h
      split at h
      · cases h
      · cases p with
        | wait f =>
            simp only [stepRequest] at h
            split at h
            · rename_i hl
              exact .waiting hl
            · cases h
            · cases h
        | land f l =>
            simp only [stepRequest] at h
            split at h
            · rename_i hf
              exact .adrift hf
            · cases h
        | check | identify | board | recheck | keep | announce =>
            simp only [stepRequest] at h
            split at h <;> cases h
        | build | settle | finish => cases h

/-- The threads after a turn of one of them. -/
theorem getElem?_threads_set {th th' : Thread σ} (ht : w.threads[t]? = some th)
    (hset : w'.threads = w.threads.set t th') (u : ThreadId) :
    w'.threads[u]? = if u = t then some th' else w.threads[u]? := by
  obtain ⟨hlt, -⟩ := List.getElem?_eq_some_iff.mp ht
  rw [hset]
  by_cases h : u = t
  · subst h
    simp [hlt]
  · simp [List.getElem?_set_ne (Ne.symm h), h]

/-- The turn of a thread that makes a step. -/
theorem exists_turn {th : Thread σ} (ht : w.threads[t]? = some th) (hs : w.step P t = some w') :
    ∃ th', w'.threads = w.threads.set t th' ∧ Turn P t w w' th th' := by
  obtain ⟨x, th', hx, hset, turn⟩ := step_turn hs
  obtain rfl := Option.some.inj (ht.symm.trans hx)
  exact ⟨th', hset, turn⟩

/-- The thread that makes a step, after its turn. -/
theorem turn_of_step {th : Thread σ} (ht : w.threads[t]? = some th) (hs : w.step P t = some w') :
    ∃ th', w'.threads[t]? = some th' ∧ Turn P t w w' th th' := by
  obtain ⟨th', hset, turn⟩ := exists_turn ht hs
  exact ⟨th', by simp [getElem?_threads_set ht hset], turn⟩

/-- A thread of the world after a step is the one that made it or one from before. -/
theorem threads_cases {th' x : Thread σ} {u : ThreadId}
    (hth : ∀ u, w'.threads[u]? = if u = t then some th' else w.threads[u]?)
    (hx : w'.threads[u]? = some x) :
    (u = t ∧ x = th') ∨ (u ≠ t ∧ w.threads[u]? = some x) := by
  rw [hth u] at hx
  by_cases hu : u = t
  · rw [if_pos hu] at hx
    exact Or.inl ⟨hu, (Option.some.inj hx).symm⟩
  · rw [if_neg hu] at hx
    exact Or.inr ⟨hu, hx⟩

end World

end InstanceRegistry
