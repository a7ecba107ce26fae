import InstanceRegistry.Proofs.Deadlock
import InstanceRegistry.Proofs.Recovery

/-!
# Constructors that call their own slot

A constructor runs inside of the flight of its slot. If it calls an accessor of that slot on
its own thread, itself or through the constructors of other slots, the call finds nothing
stored and the flight still in the air, and comes to wait for it. Only the leader lands a
flight, and the leader is the thread that waits. So the flight never lands, and whoever is on
the way to it or waits for it stays there for ever; those whom an earlier flight of the slot
has released by then are the only ones that can still go on.

## Implementation notes

A request on the slot is heading for the flight if it is in one of the phases that come before
the flight or waits for it. The thread that called its own slot is heading like all others, so
one step lemma serves for it and for them. The identifiers of the slots need not be distinct:
the flight is listed under the identifier of its slot, which the requests look up.
-/

namespace InstanceRegistry

variable {σ : Type}

/-- The phases of a request on its way to the flight, and of one that waits for it. -/
inductive Phase.Heads (f : FlightId) : Phase → Prop
  | check : Heads f .check
  | identify : Heads f .identify
  | board {id} : Heads f (.board id)
  | wait : Heads f (.wait f)

/-- The request is under way in the thread on top of the stack, and other code may run on top of
it. -/
def Thread.Within (th : Thread σ) (q : Request) (B : List (Frame σ)) : Prop :=
  (∃ p, th = ⟨.requesting q.accessor p, B⟩ ∧ p.core = q.phase) ∨
    ∃ fr, fr.request? = some q ∧ fr :: B <:+ th.stack

/-- A request under way is one of the requests of its thread. -/
theorem Thread.Within.mem_requests {th : Thread σ} {q : Request} {B : List (Frame σ)}
    (h : th.Within q B) : q ∈ th.requests := by
  rcases h with ⟨p, rfl, hp⟩ | ⟨fr, hfr, hS⟩
  · apply List.mem_append_left
    simp [Focus.request?, hp]
  · apply List.mem_append_right
    exact List.mem_filterMap.mpr ⟨fr, hS.mem (List.mem_cons_self ..), hfr⟩

/-- What is announced comes after the flight was reached. -/
theorem Announced.not_heads {event : Event} {fault : Option Fault} {next : Phase} {f : FlightId}
    (h : Announced event fault next) : ¬ next.core.Heads f := by
  intro hh
  cases h <;> cases hh

/-- The observers on a stack run before phases that are announced. -/
theorem Stacked.announced {x : Option Accessor} {S : List (Frame σ)} (h : Stacked x S)
    {a : Accessor} {next : Phase} (hm : .observation a next ∈ S) :
    ∃ event fault, Announced event fault next := by
  induction h with
  | bottom => cases hm
  | resume h ih | construction h ih | caller h ih =>
      apply ih
      simpa using hm
  | observation hn h ih =>
      rcases List.mem_cons.mp hm with heq | hm
      · obtain ⟨rfl, rfl⟩ := Frame.observation.inj heq
        exact ⟨_, _, hn⟩
      · exact ih hm
  | again hi h ih =>
      apply ih
      simpa using hm

theorem Thread.Proper.stacked {th : Thread σ} (hp : th.Proper) : ∃ x, Stacked x th.stack := by
  cases hp with
  | running h | requesting hp h | returning h => exact ⟨_, h⟩

/-- A request that is heading for a flight has nothing on top of it. -/
theorem Thread.Proper.eq_of_heads {th : Thread σ} (hp : th.Proper) {q : Request}
    {B : List (Frame σ)} (hin : th.Within q B) {f : FlightId} (hh : q.phase.Heads f) :
    th = ⟨.requesting q.accessor q.phase, B⟩ := by
  rcases hin with ⟨p, rfl, hcore⟩ | ⟨fr, hfr, hS⟩
  · rw [← hcore] at hh ⊢
    cases p with
    | announce event fault next =>
        cases hp with
        | requesting hp hB => exact ((hp _ _ _ rfl).not_heads hh).elim
    | _ => rfl
  · cases fr with
    | construction a g =>
        obtain rfl := Option.some.inj hfr
        cases hh
    | observation a next =>
        obtain rfl := Option.some.inj hfr
        obtain ⟨x, hx⟩ := hp.stacked
        obtain ⟨event, fault, hn⟩ := hx.announced (hS.mem (List.mem_cons_self ..))
        exact (hn.not_heads hh).elim
    | resume | caller | again => cases hfr

namespace World

variable {P : Program σ} {t u : ThreadId} {v w w' : World σ} {th th' : Thread σ}
  {a b : Accessor} {B : List (Frame σ)} {f : FlightId} {h : List (Move σ)}

/-- The thread is heading for the flight with a request of the accessor on top of the stack. -/
def Headed (w : World σ) (f : FlightId) (t : ThreadId) (a : Accessor) (B : List (Frame σ)) : Prop :=
  ∃ p, w.threads[t]? = some ⟨.requesting a p, B⟩ ∧ p.Heads f

/-- The thread leads the flight of a slot, and from inside of the constructor it is heading for this
flight with a request of an accessor of the same slot. -/
structure Reentered (w : World σ) (t : ThreadId) (a : Accessor) (f : FlightId) (b : Accessor)
    (B : List (Frame σ)) : Prop where
  headed : w.Headed f t b B
  inside : .construction a f ∈ B
  registry : b.registry = a.registry
  slot : b.slot = a.slot

/-- The flight of a constructor that called its own slot is in the air, and nothing is stored. -/
theorem Reentered.leads (hre : w.Reentered t a f b B) (hw : w.Valid) :
    w.Leads t a f ∧ w.stored? a.registry a.slot = none := by
  obtain ⟨p, ht, -⟩ := hre.headed
  have hq : (⟨a, .build f⟩ : Request) ∈ B.filterMap Frame.request? :=
    List.mem_filterMap.mpr ⟨_, hre.inside, rfl⟩
  exact hw.consistent.sound ht (List.mem_append_right _ hq)

section Heading

variable (hw : w.Valid) (hlead : w.Leads t a f) (hnone : w.stored? a.registry a.slot = none)
  (hr : b.registry = a.registry) (hs : b.slot = a.slot)
include hw hlead hr hs

/-- A request on the slot finds the flight under the identifier of the slot. -/
theorem Valid.inFlight?_of_leads {id : String} (hid : w.id? b.registry b.slot = some id) :
    w.inFlight? b.registry id = some f := by
  obtain ⟨fl, hfl, -, hfr, hfs, hair⟩ := hlead
  have hnamed := hw.consistent.named hfl
  have hlisted := (hw.consistent.led hfl hair).1
  rw [hfr] at hlisted hnamed
  rw [hfs, ← hr, ← hs, hid] at hnamed
  rw [hr, Option.some.inj hnamed]
  exact hlisted

include hnone

/-- A request on the slot that is heading for the flight still is after its step. -/
theorem Turn.heads {p : Phase} (turn : Turn P u w w' ⟨.requesting b p, B⟩ th')
    (hu : w.threads[u]? = some ⟨.requesting b p, B⟩) (hp : p.Heads f) :
    ∃ p', th' = ⟨.requesting b p', B⟩ ∧ p'.Heads f := by
  obtain ⟨fl, hfl, -, hfr, hfs, hair⟩ := hlead
  have hid : w.id? b.registry b.slot = some fl.id := by
    rw [hr, hs, ← hfr, ← hfs]
    exact hw.consistent.named hfl
  have hin := hw.inFlight?_of_leads ⟨fl, hfl, rfl, hfr, hfs, hair⟩ hr hs hid
  obtain ⟨reg, hreg, -⟩ := Option.bind_eq_some_iff.mp hid
  have hland : w.landing? f = none := by simp [landing?, hfl, hair]
  cases hp with
  | check =>
      cases turn with
      | lost hq hno => cases hno.symm.trans hreg
      | hit hq hreg' hv =>
          rw [← stored?_of_get hreg', hr, hs, hnone] at hv
          cases hv
      | miss => exact ⟨_, rfl, .identify⟩
  | identify =>
      cases turn with
      | lost hq hno => cases hno.symm.trans hreg
      | identify => exact ⟨_, rfl, .board⟩
      | refuse hreg' hi =>
          obtain ⟨hb, -⟩ := Registry.identify_error hi
          simp [hw.numbered.writable hid hreg'] at hb
  | @board id =>
      have hboard : w.id? b.registry b.slot = some id :=
        hw.consistent.sound hu (q := ⟨b, .board id⟩) (List.mem_cons_self ..)
      obtain rfl := Option.some.inj (hid.symm.trans hboard)
      cases turn with
      | lost hq hno => cases hno.symm.trans hreg
      | join hq hreg' hg =>
          rw [← inFlight?_of_get hreg', hin] at hg
          obtain rfl := Option.some.inj hg
          exact ⟨_, rfl, .wait⟩
      | takeOff hreg' hno =>
          rw [← inFlight?_of_get hreg', hin] at hno
          cases hno
  | wait =>
      cases turn with
      | lost hq hno => cases hno.symm.trans hreg
      | share hq hl => cases hland.symm.trans hl
      | release hq hl => cases hland.symm.trans hl

/-- Whoever is heading for the flight still is after a step of any thread. -/
theorem Headed.step (hd : w.Headed f u b B) {x : ThreadId} (hstep : w.step P x = some w') :
    w'.Headed f u b B := by
  obtain ⟨p, hu, hp⟩ := hd
  obtain ⟨th, th', hx, hset, turn⟩ := step_turn hstep
  have hth := getElem?_threads_set hx hset u
  by_cases hux : u = x
  · subst hux
    obtain rfl := Option.some.inj (hu.symm.trans hx)
    obtain ⟨p', rfl, hp'⟩ := turn.heads hw hlead hnone hr hs hu hp
    exact ⟨p', by simpa using hth, hp'⟩
  · rw [if_neg hux] at hth
    exact ⟨p, hth.trans hu, hp⟩

end Heading

/-- A constructor that called its own slot is as before after every step. -/
theorem Reentered.step (hre : w.Reentered t a f b B) (hw : w.Valid) {x : ThreadId}
    (hstep : w.step P x = some w') : w'.Reentered t a f b B := by
  obtain ⟨hlead, hnone⟩ := hre.leads hw
  have hheaded := hre.headed.step hw hlead hnone hre.registry hre.slot hstep
  exact ⟨hheaded, hre.inside, hre.registry, hre.slot⟩

/-- After a constructor called its own slot, everyone who is heading for the flight stays so in
every run. -/
theorem Run.headed (run : Run P v h w) (hv : v.Valid) (hre : v.Reentered t a f b B)
    {c : Accessor} {C : List (Frame σ)} (hr : c.registry = a.registry) (hs : c.slot = a.slot)
    (hd : v.Headed f u c C) : w.Reentered t a f b B ∧ w.Headed f u c C := by
  refine hv.keeps (I := fun _ w => w.Reentered t a f b B ∧ w.Headed f u c C) ⟨hre, hd⟩ ?_ run
  intro h v x w hv ih hstep
  obtain ⟨hlead, hnone⟩ := ih.1.leads hv
  exact ⟨ih.1.step hv hstep, ih.2.step hv hlead hnone hr hs hstep⟩

/-- A request on the slot whose flight has not landed is heading for the flight of the constructor
that called its own slot, or it leads this flight. -/
theorem Reentered.heads_or_leads (hre : w.Reentered t a f b B) (hw : w.Valid)
    (hu : w.threads[u]? = some th) {q : Request} (hq : q ∈ th.requests)
    (hon : q.On a.registry a.slot) (hair : ∀ g, q.party? = some g → w.landing? g = none) :
    q.phase.Heads f ∨ q.flight? = some f ∧ u = t := by
  obtain ⟨hlead, hnone⟩ := hre.leads hw
  have hsound := hw.consistent.sound hu hq
  -- All who lead a flight of the slot lead the same one.
  have leads (g : FlightId) (hg : q.flight? = some g) : q.flight? = some f ∧ u = t := by
    obtain ⟨rfl, hut⟩ := hw.consistent.leads_unique (hsound.leads hg) hlead hon.1 hon.2
    exact ⟨hg, hut⟩
  obtain ⟨c, p⟩ := q
  obtain ⟨hr, hs⟩ := hon
  cases p with
  | check => exact Or.inl .check
  | identify => exact Or.inl .identify
  | board => exact Or.inl .board
  | wait g =>
      obtain ⟨fl, hfl, hfr, hid⟩ := hsound
      have hland := hair g rfl
      rw [landing?, hfl, Option.bind_some] at hland
      have hlisted := (hw.consistent.led hfl hland).1
      rw [hfr, hw.inFlight?_of_leads hlead hr hs hid] at hlisted
      obtain rfl := Option.some.inj hlisted
      exact Or.inl .wait
  | recheck g | build g | keep g x | land g l => exact Or.inr (leads g rfl)
  | settle g l =>
      have hland := hair g rfl
      cases hland.symm.trans hsound.2
  | finish o =>
      obtain ⟨x, hx, -⟩ := hsound
      rw [← hr, ← hs] at hnone
      cases hnone.symm.trans hx
  | announce => exact hsound.elim

/-- A constructor that calls an accessor of its own slot from inside of its flight, itself or
through constructors of other slots, never completes. Whatever the threads do from then on, the call
is never over, nothing is stored under the slot, and no constructor of the slot is started. And
whenever a request on the slot is under way that takes part in no flight which has landed, it stays
under way for ever. -/
theorem Run.reentry_blocks {P : Program σ} {w₀ v : World σ} {h₀ : List (Move σ)}
    (run : Run P w₀ h₀ v) (fresh : w₀.Fresh) {t : ThreadId} {a b : Accessor} {f : FlightId}
    {next : Outcome → Code σ} {S : List (Frame σ)}
    (hcall : v.threads[t]? = some ⟨.requesting b .check, b.frames next S⟩)
    (hinside : .construction a f ∈ S) (hr : b.registry = a.registry) (hs : b.slot = a.slot)
    {h : List (Move σ)} {w : World σ} (run' : Run P v h w) :
    (∃ p, w.threads[t]? = some ⟨.requesting b p, b.frames next S⟩) ∧
    w.stored? a.registry a.slot = none ∧
    (∀ m ∈ h, ¬ m.Constructs a.registry a.slot) ∧
    ∀ (u : ThreadId) (th : Thread σ) (q : Request) (B : List (Frame σ)),
      w.threads[u]? = some th → th.Within q B → q.On a.registry a.slot →
      (∀ g, q.party? = some g → w.landing? g = none) →
      ∀ (h' : List (Move σ)) (w' : World σ), Run P w h' w' →
        ∃ (th' : Thread σ) (q' : Request), w'.threads[u]? = some th' ∧ th'.Within q' B ∧
          q'.accessor = q.accessor := by
  have hv := run.valid fresh
  have hframe : .construction a f ∈ b.frames next S := by
    rw [Accessor.frames]
    split
    · exact List.mem_cons_of_mem _ (List.mem_cons_of_mem _ hinside)
    · exact List.mem_cons_of_mem _ hinside
  have hre : v.Reentered t a f b (b.frames next S) := ⟨⟨_, hcall, .check⟩, hframe, hr, hs⟩
  have stays {h : List (Move σ)} {w : World σ} (run : Run P v h w) :
      w.Reentered t a f b (b.frames next S) := (run.headed hv hre hr hs hre.headed).1
  have hw := hv.run run'
  refine ⟨?_, ((stays run').leads hw).2, ?_, ?_⟩
  · obtain ⟨p, ht, -⟩ := (stays run').headed
    exact ⟨p, ht⟩
  · rintro m hm ⟨c, g, C, hactor, hcr, hcs⟩
    obtain ⟨h₁, -, -, run₁, -, -⟩ := run'.split hm
    have hm := hv.run run₁
    -- The one who starts a constructor leads the flight, so it is the thread that waits.
    have hsound := hm.consistent.sound hactor (q := ⟨c, .build g⟩) (List.mem_cons_self ..)
    obtain ⟨-, rfl⟩ := hm.consistent.leads_unique hsound.1 ((stays run₁).leads hm).1 hcr hcs
    obtain ⟨p, ht, hp⟩ := (stays run₁).headed
    cases Option.some.inj (hactor.symm.trans ht)
    cases hp
  · intro u th q B hu hin hon hair h' w' run''
    rcases (stays run').heads_or_leads hw hu hin.mem_requests hon hair with hh | ⟨-, rfl⟩
    · have hth := (hw.proper u th hu).eq_of_heads hin hh
      have hd : w.Headed f u q.accessor B := ⟨q.phase, hth ▸ hu, hh⟩
      obtain ⟨-, p, hp, -⟩ := run''.headed hw (stays run') hon.1 hon.2 hd
      exact ⟨_, ⟨q.accessor, p.core⟩, hp, Or.inl ⟨p, rfl, rfl⟩, rfl⟩
    · -- The thread that waits for itself keeps all that lies on its stack.
      obtain ⟨p, ht, -⟩ := (stays run').headed
      obtain ⟨p', ht', -⟩ := (stays (run'.append run'')).headed
      obtain rfl := Option.some.inj (hu.symm.trans ht)
      rcases hin with ⟨p₁, heq, hcore⟩ | hframe
      · obtain ⟨hfocus, rfl⟩ := Thread.mk.inj heq
        obtain ⟨hb, -⟩ := Focus.requesting.inj hfocus
        exact ⟨_, ⟨b, p'.core⟩, ht', Or.inl ⟨p', rfl, rfl⟩, hb⟩
      · exact ⟨_, q, ht', Or.inr hframe, rfl⟩

end World

/-! ### Two constructors that call each other's slots -/

namespace Sample

/-- The constructors of two slots call the accessors of each other. -/
def crossed : Program Unit :=
  { program seven with maker := fun k => if k = 0 then caller inner else caller accessor }

/-- The first thread comes from the one constructor to the other and calls the slot that it started
with; meanwhile the second thread has called this slot. -/
def crossing : List ThreadId := [1] ++ List.replicate 15 0

/-- The world in which the slot has called itself. -/
def crossroads : World Unit := world.run crossed crossing

end Sample

/-- A slot whose constructor comes back to it is never stored, and the call of another thread that
has only begun by then stays under way for ever. -/
theorem World.Run.reentry_blocks_crossed :
    ∃ next S, Sample.crossroads.threads[0]? =
        some ⟨.requesting Sample.accessor .check, Sample.accessor.frames next S⟩ ∧
      .construction Sample.accessor 0 ∈ S ∧ .construction Sample.inner 1 ∈ S ∧
      ∀ h w, Run Sample.crossed Sample.crossroads h w →
        w.stored? 0 Sample.slot = none ∧
        ∃ th q B, w.threads[1]? = some th ∧ th.Within q B ∧ q.accessor = Sample.accessor := by
  obtain ⟨next, S, hcall, houter, hinner⟩ : ∃ next S, Sample.crossroads.threads[0]? =
        some ⟨.requesting Sample.accessor .check, Sample.accessor.frames next S⟩ ∧
      S[2]? = some (.construction Sample.accessor 0) ∧
      S[0]? = some (.construction Sample.inner 1) := ⟨_, _, rfl, rfl, rfl⟩
  have houter := List.mem_of_getElem? houter
  have hinner := List.mem_of_getElem? hinner
  obtain ⟨B, hother⟩ : ∃ B, Sample.crossroads.threads[1]? =
      some ⟨.requesting Sample.accessor .check, B⟩ := ⟨_, rfl⟩
  have hrun := World.run_of_schedule Sample.crossed Sample.world Sample.crossing
  refine ⟨next, S, hcall, houter, hinner, fun h w run => ?_⟩
  obtain ⟨-, hstored, -⟩ :=
    Run.reentry_blocks hrun Sample.world_fresh hcall houter rfl rfl run
  obtain ⟨-, -, -, hstays⟩ :=
    Run.reentry_blocks hrun Sample.world_fresh hcall houter rfl rfl .start
  obtain ⟨th, q, ht, hin, hq⟩ := hstays 1 _ ⟨Sample.accessor, .check⟩ B hother
    (Or.inl ⟨_, rfl, rfl⟩) ⟨rfl, rfl⟩ (by intro g hg; cases hg) h w run
  exact ⟨hstored, th, q, B, ht, hin, hq⟩

end InstanceRegistry
