import InstanceRegistry.Proofs.Flight
import InstanceRegistry.Proofs.Singleton

/-!
# All callers of a flight agree

Those who take part in a flight, its leader and all who waited for it, end in the same
way, and what happened in the flight decides in which. The fault of a constructor is
searched twice for a panic, once by the leader and once, perhaps wrapped, by each caller;
both searches have the same answer. The only caller that may end differently is one who
waited and whose own observer panicked when it was told so.
-/

namespace InstanceRegistry

variable {σ : Type}

namespace Fault

/-- Wrapping a fault as the failure of a construction does not hide a panic in it. -/
@[simp] theorem findPanic_construction (type : Option Ty) (name : String) (e : Fault) :
    (construction type name (some e)).findPanic = e.findPanic := rfl

@[simp] theorem findPanic_constructorPanic (p : Panic) :
    (constructorPanic p).findPanic = .found p := rfl

end Fault

/-- How an incident of a flight for the slot ends the requests of all who take part. -/
def Incident.outcome (s : Slot) : Incident → Outcome
  | .found _ v | .stored _ v => .returned (s.type.unbox v) none
  | .broken _ _ p => .panicked (.flight p)
  | .concluded _ _ (.panicked p) => .panicked p
  | .concluded _ _ (.returned x none) => .returned (s.type.unbox (s.type.box x)) none
  | .concluded _ _ (.returned _ (some e)) =>
    match e.findPanic with
    | .absent => .returned s.type.zero (some (.construction (some s.type) s.name (some e)))
    | .found p => .panicked p
    | .hollow => .panicked .nilDereference
    | .crashed => .panicked (.flight .nilDereference)

/-- The incident decides the flight: no observer broke the flight, unless this is the incident. -/
def Incident.Decides (i : Incident) (f : FlightId) (I : List Incident) : Prop :=
  i ∈ I ∧ ∀ p v, .broken p f v ∈ I → i = .broken p f v

/-- A landing after a constructor that failed is settled as the outcome of the constructor
says. -/
theorem Outcome.settle_conclude {o : Outcome} {s : Slot} {a : Accessor} {f : FlightId}
    {l : Landing} (h : (o.conclude s f).core = .land f l) :
    l.settle s.type = (Incident.concluded a f o).outcome s := by
  cases o with
  | panicked p =>
      obtain ⟨-, rfl⟩ := Phase.land.inj h
      rfl
  | returned v e =>
      cases e with
      | none => cases h
      | some e =>
          simp only [Outcome.conclude] at h
          cases hp : e.findPanic with
          | absent | found | hollow | crashed =>
              rw [hp] at h
              obtain ⟨-, rfl⟩ := Phase.land.inj h
              simp [Landing.settle, Incident.outcome, hp]

namespace Course

variable {a : Accessor} {f : FlightId} {I : List Incident} {l : Landing}

/-- Some incident decides a flight that landed. -/
theorem exists_decides (h : Course a f I l) : ∃ i : Incident, i.Decides f I := by
  cases h with
  | found | stored | failed | refused => exact ⟨_, List.mem_cons_self .., by simp⟩
  | spoilt | dropped => exact ⟨_, List.mem_cons_of_mem _ (List.mem_cons_self ..), by simp⟩

/-- A landing is settled as the incident that decided the flight says. -/
theorem settle_eq (h : Course a f I l) {i : Incident} (hi : i.Decides f I) :
    l.settle a.slot.type = i.outcome a.slot := by
  obtain ⟨hm, hb⟩ := hi
  cases h with
  | found =>
      obtain rfl := List.mem_singleton.mp hm
      rfl
  | stored =>
      rcases List.mem_cons.mp hm with rfl | hm
      · rfl
      · obtain rfl := List.mem_singleton.mp hm
        rfl
  | failed hl =>
      obtain rfl := List.mem_singleton.mp hm
      exact Outcome.settle_conclude hl
  | refused =>
      obtain rfl := List.mem_singleton.mp hm
      rfl
  | @spoilt v q =>
      obtain rfl := hb (.land f (.value v)) q (by simp)
      rfl
  | @dropped o e q =>
      obtain rfl := hb (.land f (.fault e)) q (by simp)
      rfl

end Course

/-! ### Waiting and leading -/

/-- A thread that waits for a flight does so in a request. -/
theorem Thread.requesting_of_waitsFor? {th : Thread σ} {f : FlightId}
    (h : th.waitsFor? = some f) : ∃ a S, th = ⟨.requesting a (.wait f), S⟩ := by
  obtain ⟨focus, S⟩ := th
  simp only [Thread.waitsFor?] at h
  split at h
  · obtain rfl := Option.some.inj h
    exact ⟨_, S, rfl⟩
  · cases h

namespace World

variable {P : Program σ} {t : ThreadId} {w w' : World σ} {th th' : Thread σ} {f : FlightId}

/-- A thread comes to wait for a flight by joining it while it is in the air. -/
theorem Turn.waits (turn : Turn P t w w' th th') (hp : th.Proper) (h : th'.waitsFor? = some f) :
    Quiet w w' ∧ th'.leads = th.leads ∧ ∃ r id, w.inFlight? r id = some f := by
  cases turn with
  | @join a S reg id g hq hr hg =>
      obtain rfl := Option.some.inj h
      exact ⟨hq, rfl, a.registry, id, (inFlight?_of_get hr id).trans hg⟩
  | @conclude o a g S hq =>
      obtain ⟨b, S', heq⟩ := Thread.requesting_of_waitsFor? h
      have hc := congrArg Phase.core (Focus.requesting.inj (Thread.mk.inj heq).1).2
      obtain ⟨v, -, hk⟩ | ⟨l, -, -, hk⟩ := o.conclude_core a.slot g
      · cases hk.symm.trans hc
      · cases hk.symm.trans hc
  | observed hq =>
      cases hp with
      | returning hS =>
          cases hS with
          | observation hn hS => cases hn <;> cases h
  | skip hq hr ho =>
      cases hp with
      | requesting hp hS => cases hp _ _ _ rfl <;> cases h
  | call => split at h <;> cases h
  | _ => cases h

/-- A thread that waits for a flight shares it. -/
theorem Consistent.shares_of_waits (c : w.Consistent) (ht : w.threads[t]? = some th)
    (h : th.waitsFor? = some f) : ∃ a, w.Shares a f := by
  obtain ⟨a, S, rfl⟩ := Thread.requesting_of_waitsFor? h
  exact ⟨a, c.sound ht (q := ⟨a, .wait f⟩) (List.mem_cons_self ..)⟩

/-- A thread that tells of a flight shared it. -/
theorem Consistent.shares_of_told (c : w.Consistent) (ht : w.threads[t]? = some th)
    {l : Landing} (h : th.Announces (.settle f l)) : ∃ a, w.Shares a f := by
  obtain ⟨focus, S⟩ := th
  rcases h with ⟨a, hm⟩ | ⟨a, event, fault, rfl⟩
  · have hq : (⟨a, .settle f l⟩ : Request) ∈ S.filterMap Frame.request? :=
      List.mem_filterMap.mpr ⟨_, hm, rfl⟩
    exact ⟨a, (c.sound ht (List.mem_append_right _ hq)).1⟩
  · exact ⟨a, (c.sound ht (q := ⟨a, .settle f l⟩) (List.mem_cons_self ..)).1⟩

/-- Who waits for a flight of its own is still inside of it, so it never comes to tell of it. -/
structure Apart (w : World σ) : Prop where
  waiting : ∀ {t : ThreadId} {th : Thread σ} {f : FlightId} {fl : Flight},
    w.threads[t]? = some th → th.waitsFor? = some f → w.flights[f]? = some fl → fl.leader = t →
    f ∈ th.leads
  told : ∀ {t : ThreadId} {th : Thread σ} {f : FlightId} {l : Landing} {fl : Flight},
    w.threads[t]? = some th → th.Announces (.settle f l) → w.flights[f]? = some fl →
    fl.leader ≠ t

/-- A step keeps those who wait and those who lead apart. -/
theorem Apart.step (ha : w.Apart) (hw : w.Valid) (hs : w.step P t = some w') : w'.Apart := by
  obtain ⟨th, th', ht, hset, turn⟩ := step_turn hs
  have hth := getElem?_threads_set ht hset
  have hleader {f : FlightId} {a : Accessor} {fl : Flight} (hsh : w.Shares a f)
      (hf : w'.flights[f]? = some fl) :
      ∃ fl₀, w.flights[f]? = some fl₀ ∧ fl₀.leader = fl.leader := by
    obtain ⟨fl₀, hf₀, -⟩ := hsh
    obtain ⟨l, hl⟩ := flight_step hs hf₀
    obtain rfl := Option.some.inj (hl.symm.trans hf)
    exact ⟨fl₀, hf₀, rfl⟩
  constructor
  · intro u x f fl hx hwait hf hl
    obtain ⟨rfl, rfl⟩ | ⟨-, hx⟩ := threads_cases hth hx
    · obtain ⟨hq, hleads, r, id, hin⟩ := turn.waits (hw.proper _ _ ht) hwait
      obtain ⟨fl', hf', -, -, hn⟩ := hw.consistent.listed hin
      rw [hq.flights] at hf
      obtain rfl := Option.some.inj (hf.symm.trans hf')
      obtain ⟨-, y, hy, hfy⟩ := hw.consistent.led hf hn
      rw [hl] at hy
      obtain rfl := Option.some.inj (ht.symm.trans hy)
      exact hleads ▸ hfy
    · obtain ⟨a, hsh⟩ := hw.consistent.shares_of_waits hx hwait
      obtain ⟨fl₀, hf₀, hl₀⟩ := hleader hsh hf
      exact ha.waiting hx hwait hf₀ (hl₀.trans hl)
  · intro u x f l fl hx htold hf
    obtain ⟨rfl, rfl⟩ | ⟨-, hx⟩ := threads_cases hth hx
    · rcases turn.announces ht (hw.proper _ _ ht) htold with htold | hbegin
      · obtain ⟨a, hsh⟩ := hw.consistent.shares_of_told ht htold
        obtain ⟨fl₀, hf₀, hl₀⟩ := hleader hsh hf
        exact hl₀ ▸ ha.told ht htold hf₀
      · cases hbegin with
        | joined hwait hland =>
            -- A thread that led the flight would have it still in the air.
            intro hl
            obtain ⟨a, hsh⟩ := hw.consistent.shares_of_waits ht hwait
            obtain ⟨fl₀, hf₀, hl₀⟩ := hleader hsh hf
            obtain ⟨q, hq, hqf⟩ := mem_leads.mp (ha.waiting ht hwait hf₀ (hl₀.trans hl))
            obtain ⟨fl₁, hf₁, -, -, -, hn⟩ := (hw.consistent.sound ht hq).leads hqf
            obtain ⟨fl₂, hf₂, hl₂⟩ := landing?_eq_some.mp hland
            obtain rfl := Option.some.inj (hf₁.symm.trans hf₂)
            simp [hn] at hl₂
    · obtain ⟨a, hsh⟩ := hw.consistent.shares_of_told hx htold
      obtain ⟨fl₀, hf₀, hl₀⟩ := hleader hsh hf
      exact hl₀ ▸ ha.told hx htold hf₀

/-- Those who wait and those who lead are kept apart in every run of a fresh world. -/
theorem Run.apart {w₀ : World σ} {h : List (Move σ)} (run : Run P w₀ h w) (fresh : w₀.Fresh) :
    w.Apart := by
  refine run.keeps (I := fun _ w => w.Apart) fresh ⟨?_, ?_⟩ fun hw ha hs => ha.step hw hs
  · intro t th f fl ht hwait hf
    simp [fresh.flights] at hf
  · intro t th f l fl ht htold hf
    simp [fresh.flights] at hf

end World

/-! ### The end of a request -/

/-- The flight in which a request takes part, as its leader or as one who waits for it. -/
def Request.party? (q : Request) : Option FlightId :=
  match q.phase with
  | .wait f | .settle f _ => some f
  | p => p.flight?

/-- The request is under way in the thread, on top of the stack. -/
def Thread.IsInside (th : Thread σ) (q : Request) (S : List (Frame σ)) : Prop :=
  (∃ p, th = ⟨.requesting q.accessor p, S⟩ ∧ p.core = q.phase) ∨
    ∃ focus fr, th = ⟨focus, fr :: S⟩ ∧ fr.request? = some q

/-- The move ends a request with an outcome. -/
def Move.Closes (m : Move σ) (q : Request) (o : Outcome) : Prop :=
  ∃ th S, m.actor? = some th ∧ th.IsInside q S ∧
    m.after.threads[m.thread]? = some ⟨.returning o, S⟩

namespace World

variable {P : Program σ} {t : ThreadId} {w w' : World σ} {th th' : Thread σ} {f : FlightId}

/-- A request that takes part in a flight has a registry. -/
theorem Consistent.exists_registry (c : w.Consistent) {q : Request} (hs : w.Sound t q)
    (hf : q.party? = some f) : ∃ reg, w.registries[q.accessor.registry]? = some reg := by
  have hid : ∃ s id, w.id? q.accessor.registry s = some id := by
    obtain ⟨a, p⟩ := q
    cases p with
    | wait g =>
        obtain ⟨fl, -, -, hid⟩ := hs
        exact ⟨_, _, hid⟩
    | settle g l =>
        obtain ⟨⟨fl, -, -, hid⟩, -⟩ := hs
        exact ⟨_, _, hid⟩
    | recheck g | build g | keep g v | land g l =>
        obtain ⟨fl, hfl, -, hr, -⟩ := hs.leads hf
        exact ⟨_, _, hr ▸ c.named hfl⟩
    | check | identify | board | finish => cases hf
    | announce => exact hs.elim
  obtain ⟨s, id, hid⟩ := hid
  obtain ⟨reg, hr, -⟩ := Option.bind_eq_some_iff.mp hid
  exact ⟨reg, hr⟩

/-- A request that took part in a flight ends after the landing, and it settles on the landing
unless its observer panics. -/
theorem Turn.closes {S : List (Frame σ)} {o : Outcome} {q : Request}
    (turn : Turn P t w w' th ⟨.returning o, S⟩) (hw : w.Valid) (ht : w.threads[t]? = some th)
    (hq : th.IsInside q S) (hf : q.party? = some f) :
    w.Shares q.accessor f ∧ ∃ l, w.landing? f = some l ∧
      (o = l.settle q.accessor.slot.type ∨
        ∃ v, th = ⟨.returning (.panicked v), .observation q.accessor (.settle f l) :: S⟩ ∧
          o = .panicked v) := by
  obtain ⟨a, ph⟩ := q
  generalize hth' : (⟨.returning o, S⟩ : Thread σ) = th' at turn
  rcases hq with ⟨p, rfl, rfl⟩ | ⟨focus, fr, rfl, hfr⟩
  · have hs : w.Sound t ⟨a, p.core⟩ := hw.consistent.sound ht (List.mem_cons_self ..)
    cases turn with
    | lost hq hr =>
        obtain ⟨reg, hreg⟩ := hw.consistent.exists_registry hs hf
        cases hr.symm.trans hreg
    | share hq hl =>
        obtain rfl := Option.some.inj hf
        cases hth'
        exact ⟨hs, _, hl, Or.inl rfl⟩
    | settle hq =>
        obtain rfl := Option.some.inj hf
        cases hth'
        exact ⟨hs.1, _, hs.2, Or.inl rfl⟩
    | refuse | finish => cases hf
    | _ => cases hth'
  · cases turn with
    | pass => cases hfr
    | interrupt hq hn =>
        cases hth'
        cases hfr
        cases hw.proper t _ ht with
        | returning hS =>
            cases hS with
            | observation ha hS =>
                cases ha with
                | hit => cases hf
                | join =>
                    obtain rfl := Option.some.inj hf
                    have hs := hw.consistent.sound ht (List.mem_cons_self ..)
                    exact ⟨hs.1, _, hs.2, Or.inr ⟨_, rfl, rfl⟩⟩
                | found | construct | failure => cases hn
    | _ => cases hth'

/-- All who take part in a flight end in the same way. Whatever happened in the flight, their
requests end as the incident that decided it says: with the value of a constructor that panicked,
with the fault of one that returned it as the failure of the slot's construction, with the
instance that was stored or found, or with the panic of the flight around that of an observer or
of the search of the fault. The only exception is a request that waited for the flight and whose
own observer panicked.

A registry numbers its slots with words of 64 bits, and it has not given out all of these
numbers. -/
theorem Run.flight_agreement {w₀ : World σ} {h : List (Move σ)} (run : Run P w₀ h w)
    (fresh : w₀.Fresh) {m : Move σ} (hm : m ∈ h) {q : Request} {o : Outcome}
    (hq : m.Closes q o) (hf : q.party? = some f) (hfit : w.IdsFit q.accessor.registry) :
    ∃ fl, w.flights[f]? = some fl ∧ fl.registry = q.accessor.registry ∧
      fl.slot = q.accessor.slot ∧ (∃ i : Incident, i.Decides f (incidents f h)) ∧
      ((∀ i : Incident, i.Decides f (incidents f h) → o = i.outcome fl.slot) ∨
        m.thread ≠ fl.leader ∧ ∃ l v S, o = .panicked v ∧
          m.actor? =
            some ⟨.returning (.panicked v), .observation q.accessor (.settle f l) :: S⟩) := by
  obtain ⟨h₁, h₂, -, run₁, hstep, run₂⟩ := run.split hm
  obtain ⟨th, S, hactor, hin, hafter⟩ := hq
  have hw := run.valid fresh
  have hw₁ := run₁.valid fresh
  have ht : m.before.threads[m.thread]? = some th := hactor
  obtain ⟨th', hafter', turn⟩ := turn_of_step ht hstep
  obtain rfl := Option.some.inj (hafter.symm.trans hafter')
  obtain ⟨hshares, l, hl, hend⟩ := turn.closes hw₁ ht hin hf
  -- What was known at the end of the request is still known at the end of the run.
  have hrest := (Run.single hstep).append run₂
  have hshares' : w.Shares q.accessor f :=
    hrest.preserves (I := fun w => w.Shares q.accessor f) (fun hsh hs => hsh.step hs) hshares
  obtain ⟨fl, hfl, hland⟩ := landing?_eq_some.mp (hrest.landing? hw₁.consistent hl)
  obtain ⟨hr, hs⟩ := hw.consistent.shares_slot hw.numbered hfit hshares' hfl
  obtain ⟨a, -, ha, hcourse⟩ := (run.charted fresh f).landed hfl hland
  refine ⟨fl, hfl, hr, hs, hcourse.exists_decides, ?_⟩
  rcases hend with rfl | ⟨v, rfl, rfl⟩
  · left
    intro i hi
    rw [← hs, ← ha]
    exact hcourse.settle_eq hi
  · right
    obtain ⟨fl₁, hfl₁, -⟩ := landing?_eq_some.mp hl
    obtain ⟨l', hl'⟩ := hrest.flight hfl₁
    obtain rfl := Option.some.inj (hl'.symm.trans hfl)
    have htold : (⟨.returning (.panicked v),
        .observation q.accessor (.settle f l) :: S⟩ : Thread σ).Announces (.settle f l) :=
      Or.inl ⟨q.accessor, List.mem_cons_self ..⟩
    exact ⟨((run₁.apart fresh).told ht htold hfl₁).symm, l, v, S, rfl, hactor⟩

end World

/-- The request of the second thread, which waited for the flight of the first. -/
def Sample.waiter : Request :=
  ⟨Sample.accessor, .settle 0 (.fault (.constructorPanic (.text "boom")))⟩

/-- A thread that waited for a constructor panics with the value of the constructor. -/
theorem World.Run.flight_agreement_boom :
    ∃ m ∈ Sample.history Sample.boom, m.thread = 1 ∧
      m.Closes Sample.waiter (.panicked (.text "boom")) ∧
      ∃ i : Incident, i.Decides 0 (incidents 0 (Sample.history Sample.boom)) ∧
        .panicked (.text "boom") = i.outcome Sample.slot := by
  obtain ⟨m, hm, ht, S, hactor, hafter⟩ : ∃ m, (Sample.history Sample.boom)[18]? = some m ∧
      m.thread = 1 ∧ ∃ S, m.actor? = some ⟨.requesting Sample.accessor Sample.waiter.phase, S⟩ ∧
        m.after.threads[m.thread]? = some ⟨.returning (.panicked (.text "boom")), S⟩ :=
    ⟨_, rfl, rfl, _, rfl, rfl⟩
  have hmem : m ∈ Sample.history Sample.boom := List.mem_of_getElem? hm
  have hclose : m.Closes Sample.waiter (.panicked (.text "boom")) :=
    ⟨_, S, hactor, Or.inl ⟨_, rfl, rfl⟩, hafter⟩
  have hfit : (Sample.ended Sample.boom).IdsFit Sample.waiter.accessor.registry := by
    decide +kernel
  obtain ⟨fl, -, -, hs, ⟨i, hi⟩, hall | ⟨-, l, v, S', -, hother⟩⟩ :=
    Run.flight_agreement (Sample.run_ended Sample.boom) Sample.world_fresh hmem hclose rfl hfit
  · have hout := hall i hi
    rw [hs] at hout
    exact ⟨m, hmem, ht, hclose, i, hi, hout⟩
  · cases hactor.symm.trans hother

end InstanceRegistry
