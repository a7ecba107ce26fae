import InstanceRegistry.Proofs.Accounting
import InstanceRegistry.Proofs.SlotView

/-!
# Calls that meet no others

One thread makes steps and all others stand still. A call on a slot that is vacant, without an
instance and without a flight in the air, then takes off with a flight of its own and runs its
constructor. If the constructor fails, the call ends as the outcome of the constructor says, and
the slot is vacant again. What the constructor and the observers do on their way is left open, as
long as they come to an end; they may make calls themselves.

## Implementation notes

A leg is a part of such a run, from one place of the thread to another, in which the thread stays
on top of a stack. It carries along that slots which were vacant at its start are so at its end, so
that nested calls on other slots can be put together. A tour is a leg that also carries along what
was told on it of the slots that count. A request is followed by asking at each phase which turn its
next step can be, and all but one are excluded by what is known of the slot.
-/

namespace InstanceRegistry

variable {σ : Type}

/-- What was told in a history of the slots that count. -/
def tale (K : RegistryId → Slot → Bool) (h : List (Move σ)) : List Told :=
  (h.filterMap Move.told?).filter fun x => K x.accessor.registry x.accessor.slot

theorem tale_append (K : RegistryId → Slot → Bool) (h h' : List (Move σ)) :
    tale K (h ++ h') = tale K h ++ tale K h' := by
  rw [tale, List.filterMap_append, List.filter_append]
  rfl

namespace World

/-- What the next step of a thread tells of the slots that count. -/
def tells (K : RegistryId → Slot → Bool) (w : World σ) (t : ThreadId) : List Told :=
  (w.told? t).toList.filter fun x => K x.accessor.registry x.accessor.slot

theorem tale_singleton (K : RegistryId → Slot → Bool) (t : ThreadId) (w w' : World σ) :
    tale K [⟨t, w, w'⟩] = w.tells K t := by
  rw [tale, tells, ← List.nil_append [_], filterMap_append_singleton]
  rfl

/-- The thread alone makes the steps from one world to the other. -/
def Reaches (P : Program σ) (t : ThreadId) (w w' : World σ) : Prop :=
  ∃ h, Run P w h w' ∧ ∀ m ∈ h, m.thread = t

/-- No flight of the slot is in the air, and its registry was set up. -/
structure Idle (w : World σ) (r : RegistryId) (s : Slot) : Prop where
  isSetUp : w.IsSetUp r
  landed : ∀ fl ∈ w.flights, fl.isOf r s = true → fl.landing ≠ none

/-- A slot of a registry that was set up has no instance, and no flight of it is in the air. -/
structure Vacant (w : World σ) (r : RegistryId) (s : Slot) : Prop where
  isSetUp : w.IsSetUp r
  stored : w.stored? r s = none
  landed : ∀ fl ∈ w.flights, fl.isOf r s = true → fl.landing ≠ none

/-- The thread makes all moves, on top of the stack and without handing an outcome to it. -/
def Atop (t : ThreadId) (B : List (Frame σ)) (h : List (Move σ)) : Prop :=
  ∀ m ∈ h, m.thread = t ∧
    ∃ th, m.actor? = some th ∧ B <:+ th.stack ∧ ∀ o, th ≠ ⟨.returning o, B⟩

/-- The thread alone gets from one world to the other on top of the stack. -/
def Climbs (P : Program σ) (t : ThreadId) (B : List (Frame σ)) (w w' : World σ) : Prop :=
  ∃ h, Run P w h w' ∧ Atop t B h

/-- The thread alone gets on top of the stack from the first world to the second, where it is as
given. Of the slots in `V` those that are vacant stay so. -/
structure Leg (P : Program σ) (t : ThreadId) (V : RegistryId → Slot → Prop) (B : List (Frame σ))
    (w : World σ) (th : Thread σ) (w' : World σ) : Prop where
  way : ∃ h, Run P w h w' ∧ Atop t B h
  thread : w'.threads[t]? = some th
  vacant : ∀ r s, V r s → w.Vacant r s → w'.Vacant r s

/-- A leg on which `E` is told of the slots that count. -/
structure Tour (P : Program σ) (t : ThreadId) (V : RegistryId → Slot → Prop)
    (K : RegistryId → Slot → Bool) (B : List (Frame σ)) (w : World σ) (E : List Told)
    (th : Thread σ) (w' : World σ) : Prop where
  way : ∃ h, Run P w h w' ∧ Atop t B h ∧ tale K h = E
  thread : w'.threads[t]? = some th
  vacant : ∀ r s, V r s → w.Vacant r s → w'.Vacant r s

variable {P : Program σ} {t : ThreadId} {u v w w' : World σ} {th th' : Thread σ} {a b : Accessor}
  {r : RegistryId} {s : Slot} {f : FlightId} {B B' S : List (Frame σ)}
  {V V' : RegistryId → Slot → Prop} {K : RegistryId → Slot → Bool} {E E' : List Told}

theorem run_replicate_succ (P : Program σ) (t : ThreadId) (v : World σ) (n : Nat) :
    v.run P (List.replicate (n + 1) t) =
      ((v.run P (List.replicate n t)).step P t).getD (v.run P (List.replicate n t)) := by
  rw [List.replicate_succ', World.run, List.foldl_append]
  rfl

namespace Reaches

theorem refl (P : Program σ) (t : ThreadId) (w : World σ) : Reaches P t w w :=
  ⟨[], .start, by simp⟩

theorem single (hs : w.step P t = some w') : Reaches P t w w' :=
  ⟨_, .single hs, by simp⟩

theorem trans (h : Reaches P t u v) (h' : Reaches P t v w) : Reaches P t u w := by
  obtain ⟨g, run, hg⟩ := h
  obtain ⟨g', run', hg'⟩ := h'
  exact ⟨g ++ g', run.append run', List.forall_mem_append.mpr ⟨hg, hg'⟩⟩

theorem valid (h : Reaches P t v w) (hv : v.Valid) : w.Valid := by
  obtain ⟨g, run, -⟩ := h
  exact hv.run run

theorem isSetUp (h : Reaches P t v w) (hv : v.IsSetUp r) : w.IsSetUp r := by
  obtain ⟨g, run, -⟩ := h
  exact run.preserves (I := fun w => w.IsSetUp r) (fun hr hs => hr.step hs) hv

/-- What the thread reaches it reaches by making its next steps. -/
theorem eq_run (h : Reaches P t v w) : ∃ n, w = v.run P (List.replicate n t) := by
  obtain ⟨g, run, hg⟩ := h
  induction run with
  | start => exact ⟨0, rfl⟩
  | @step g u x w run hs ih =>
      obtain ⟨hg, hm⟩ := List.forall_mem_append.mp hg
      have hx : x = t := hm _ (List.mem_singleton_self _)
      obtain ⟨n, rfl⟩ := ih hg
      rw [hx] at hs
      exact ⟨n + 1, by rw [run_replicate_succ, hs, Option.getD_some]⟩

/-- A thread that has no step left after some number of steps reaches nothing after more. -/
theorem exists_le {n : Nat} (h : Reaches P t v w)
    (hstop : (v.run P (List.replicate n t)).step P t = none) :
    ∃ k ≤ n, w = v.run P (List.replicate k t) := by
  obtain ⟨k, rfl⟩ := h.eq_run
  clear h
  induction k with
  | zero => exact ⟨0, Nat.zero_le n, rfl⟩
  | succ k ih =>
      obtain ⟨i, hi, heq⟩ := ih
      rw [run_replicate_succ, heq, ← run_replicate_succ]
      by_cases hlt : i < n
      · exact ⟨i + 1, hlt, rfl⟩
      · obtain rfl := Nat.le_antisymm hi (Nat.le_of_not_lt hlt)
        exact ⟨i, hi, by rw [run_replicate_succ, hstop, Option.getD_none]⟩

end Reaches

namespace Climbs

theorem refl (P : Program σ) (t : ThreadId) (B : List (Frame σ)) (w : World σ) : Climbs P t B w w :=
  ⟨[], .start, by simp [Atop]⟩

theorem reaches (h : Climbs P t B v w) : Reaches P t v w := by
  obtain ⟨g, run, hg⟩ := h
  exact ⟨g, run, fun m hm => (hg m hm).1⟩

theorem trans (h : Climbs P t B u v) (h' : Climbs P t B v w) : Climbs P t B u w := by
  obtain ⟨g, run, hg⟩ := h
  obtain ⟨g', run', hg'⟩ := h'
  exact ⟨g ++ g', run.append run', List.forall_mem_append.mpr ⟨hg, hg'⟩⟩

end Climbs

/-- What goes on above some frames goes on above those below. -/
theorem Atop.rebase {h : List (Move σ)} (hatop : Atop t B' h) (hB : B <:+ B') : Atop t B h := by
  intro m hm
  obtain ⟨hm, x, hx, hS, hopen⟩ := hatop m hm
  refine ⟨hm, x, hx, hB.trans hS, fun o ho => ?_⟩
  subst ho
  obtain rfl := hB.eq_of_length_le hS.length_le
  exact hopen o rfl

/-- No outcome is handed to the stack before the end. -/
theorem Atop.going {h : List (Move σ)} (hatop : Atop t B h) :
    ∀ m ∈ h, ∀ o, m.before.threads[t]? ≠ some ⟨.returning o, B⟩ := by
  intro m hm o ho
  obtain ⟨hmt, th, hth, -, hopen⟩ := hatop m hm
  rw [Move.actor?, hmt] at hth
  exact hopen o (Option.some.inj (hth.symm.trans ho))

theorem Climbs.rebase (h : Climbs P t B' v w) (hB : B <:+ B') : Climbs P t B v w := by
  obtain ⟨g, run, hg⟩ := h
  exact ⟨g, run, hg.rebase hB⟩

theorem Vacant.idle (hvac : w.Vacant r s) : w.Idle r s := ⟨hvac.isSetUp, hvac.landed⟩

theorem Idle.vacant (hidle : w.Idle r s) (hn : w.stored? r s = none) : w.Vacant r s :=
  ⟨hidle.isSetUp, hn, hidle.landed⟩

/-- A slot is idle in every world that shows the same landings of it. -/
theorem Idle.of_view (hidle : w.Idle r s) (hset : w'.IsSetUp r)
    (hland : (w'.view r s).landings = (w.view r s).landings) : w'.Idle r s := by
  refine ⟨hset, fun fl hfl hof hn => ?_⟩
  have hmem : none ∈ (w.view r s).landings := by
    rw [← hland, ← hn]
    exact List.mem_map.mpr ⟨fl, List.mem_filter.mpr ⟨hfl, hof⟩, rfl⟩
  obtain ⟨fl', hfl', hn'⟩ := List.mem_map.mp hmem
  obtain ⟨hfl', hof'⟩ := List.mem_filter.mp hfl'
  exact hidle.landed fl' hfl' hof' hn'

/-- A slot is vacant in every world that shows the same instance and landings of it. -/
theorem Vacant.of_view (hvac : w.Vacant r s) (hset : w'.IsSetUp r)
    (hstored : (w'.view r s).stored = (w.view r s).stored)
    (hland : (w'.view r s).landings = (w.view r s).landings) : w'.Vacant r s :=
  (hvac.idle.of_view hset hland).vacant (hstored.trans hvac.stored)

/-- A slot stays vacant while no request on it makes a step. -/
theorem Vacant.step (hvac : w.Vacant r s) (hw : w.Valid) (ht : w.threads[t]? = some th)
    (hs : w.step P t = some w')
    (hoff : ∀ q, th.focus.request? = some q → q.accessor.isOf r s = false) : w'.Vacant r s := by
  have hview := hw.view_step hvac.isSetUp ht hs hoff
  exact hvac.of_view (hvac.isSetUp.step hs) (by rw [hview]) (by rw [hview])

/-- No flight is listed under the identifier of an idle slot, as long as there are numbers left. -/
theorem Idle.inFlight?_eq_none (hidle : w.Idle r s) (hw : w.Valid) (hfit : w.IdsFit r)
    {id : String} (hid : w.id? r s = some id) : w.inFlight? r id = none := by
  cases hin : w.inFlight? r id with
  | none => rfl
  | some f =>
      obtain ⟨fl, hfl, hof, hn⟩ := hw.isOf_of_inFlight? hfit hid hin
      exact (hidle.landed fl (List.mem_of_getElem? hfl) hof hn).elim

/-! ### Legs and tours -/

namespace Tour

theorem leg (h : Tour P t V K B v E th w) : Leg P t V B v th w := by
  obtain ⟨g, run, hg, -⟩ := h.way
  exact ⟨⟨g, run, hg⟩, h.thread, h.vacant⟩

theorem climbs (h : Tour P t V K B v E th w) : Climbs P t B v w := h.leg.way

theorem reaches (h : Tour P t V K B v E th w) : Reaches P t v w := h.climbs.reaches

theorem refl (ht : w.threads[t]? = some th) : Tour P t V K B w [] th w :=
  ⟨⟨[], .start, by simp [Atop], rfl⟩, ht, fun _ _ _ hvac => hvac⟩

theorem trans (h : Tour P t V K B u E th v) (h' : Tour P t V K B v E' th' w) :
    Tour P t V K B u (E ++ E') th' w := by
  obtain ⟨g, run, hg, rfl⟩ := h.way
  obtain ⟨g', run', hg', rfl⟩ := h'.way
  exact ⟨⟨g ++ g', run.append run', List.forall_mem_append.mpr ⟨hg, hg'⟩, tale_append K g g'⟩,
    h'.thread, fun r s hV hu => h'.vacant r s hV (h.vacant r s hV hu)⟩

/-- Nothing more is told. -/
theorem silent (h : Tour P t V K B u E th v) (h' : Tour P t V K B v [] th' w) :
    Tour P t V K B u E th' w := by
  simpa using h.trans h'

theorem mono (h : Tour P t V K B v E th w) (hsub : ∀ r s, V' r s → V r s) :
    Tour P t V' K B v E th w :=
  ⟨h.way, h.thread, fun r s hV => h.vacant r s (hsub r s hV)⟩

theorem rebase (h : Tour P t V K B' v E th w) (hB : B <:+ B') : Tour P t V K B v E th w := by
  obtain ⟨g, run, hg, hE⟩ := h.way
  exact ⟨⟨g, run, hg.rebase hB, hE⟩, h.thread, h.vacant⟩

/-- A step is a tour for the slots other than the one of the request that makes it. -/
theorem single (hw : w.Valid) (ht : w.threads[t]? = some th) (ht' : w'.threads[t]? = some th')
    (hs : w.step P t = some w') (hB : B <:+ th.stack) (hopen : ∀ o, th ≠ ⟨.returning o, B⟩)
    (hoff : ∀ r s, V r s → ∀ q, th.focus.request? = some q → q.accessor.isOf r s = false) :
    Tour P t V K B w (w.tells K t) th' w' := by
  refine ⟨⟨_, .single hs, fun m hm => ?_, tale_singleton K t w w'⟩, ht',
    fun r s hV hvac => hvac.step hw ht hs (hoff r s hV)⟩
  obtain rfl := List.mem_singleton.mp hm
  exact ⟨rfl, th, ht, hB, hopen⟩

/-- A step that is none of a request is a tour for all slots, and tells nothing. -/
theorem plain (hw : w.Valid) (ht : w.threads[t]? = some th) (ht' : w'.threads[t]? = some th')
    (hs : w.step P t = some w') (hB : B <:+ th.stack) (hopen : ∀ o, th ≠ ⟨.returning o, B⟩)
    (hfocus : th.focus.request? = none) : Tour P t V K B w [] th' w' := by
  have hmute : w.tells K t = [] := by
    obtain ⟨focus, S⟩ := th
    cases focus with
    | requesting => cases hfocus
    | running | returning => simp [tells, told?, ht]
  rw [← hmute]
  refine single hw ht ht' hs hB hopen fun r s hV q hq => ?_
  cases hfocus.symm.trans hq

/-- A tour from the start of a request to its outcome is the span of the request. -/
theorem requestSpan {o : Outcome} (h : Tour P t V K B v E ⟨.returning o, B⟩ w)
    (ht : v.threads[t]? = some ⟨.requesting a .check, B⟩) :
    ∃ g, RequestSpan P t a B v g w o ∧ (∀ m ∈ g, m.thread = t) ∧ tale K g = E := by
  obtain ⟨g, run, hg, hE⟩ := h.way
  exact ⟨g, ⟨run, ht, h.thread, hg.going⟩, fun m hm => (hg m hm).1, hE⟩

end Tour

namespace Leg

/-- A leg is a tour on which no slot counts. -/
theorem tour (h : Leg P t V B v th w) : Tour P t V (fun _ _ => false) B v [] th w := by
  obtain ⟨g, run, hg⟩ := h.way
  exact ⟨⟨g, run, hg, by simp [tale]⟩, h.thread, h.vacant⟩

theorem refl (ht : w.threads[t]? = some th) : Leg P t V B w th w :=
  (Tour.refl (K := fun _ _ => false) ht).leg

theorem reaches (h : Leg P t V B v th w) : Reaches P t v w := Climbs.reaches h.way

theorem trans (h : Leg P t V B u th v) (h' : Leg P t V B v th' w) : Leg P t V B u th' w :=
  (h.tour.trans h'.tour).leg

theorem rebase (h : Leg P t V B' v th w) (hB : B <:+ B') : Leg P t V B v th w :=
  (h.tour.rebase hB).leg

/-- A step that is none of a request is a leg for all slots. -/
theorem plain (hw : w.Valid) (ht : w.threads[t]? = some th) (ht' : w'.threads[t]? = some th')
    (hs : w.step P t = some w') (hB : B <:+ th.stack) (hopen : ∀ o, th ≠ ⟨.returning o, B⟩)
    (hfocus : th.focus.request? = none) : Leg P t V B w th' w' :=
  (Tour.plain (K := fun _ _ => false) hw ht ht' hs hB hopen hfocus).leg

/-- A leg from the start of a request to its outcome is the span of the request. -/
theorem requestSpan {o : Outcome} (h : Leg P t V B v ⟨.returning o, B⟩ w)
    (ht : v.threads[t]? = some ⟨.requesting a .check, B⟩) :
    ∃ g, RequestSpan P t a B v g w o ∧ ∀ m ∈ g, m.thread = t := by
  obtain ⟨g, span, halone, -⟩ := h.tour.requestSpan ht
  exact ⟨g, span, halone⟩

end Leg

/-- The slots of the accessors. -/
def SlotsOf (as : List Accessor) (r : RegistryId) (s : Slot) : Prop :=
  ∃ a ∈ as, a.isOf r s = true

/-- The slots of `V` other than the one of the accessor. -/
def Besides (V : RegistryId → Slot → Prop) (a : Accessor) (r : RegistryId) (s : Slot) : Prop :=
  V r s ∧ a.isOf r s = false

/-- A thread that is not stuck has a turn. -/
theorem exists_turn_of_not_stuck (ht : w.threads[t]? = some th) (hn : ¬ Stuck P w th) :
    ∃ w' th', w.step P t = some w' ∧ w'.threads[t]? = some th' ∧ Turn P t w w' th th' := by
  cases hs : w.step P t with
  | none => exact (hn (stuck_of_step_eq_none ht hs)).elim
  | some w' =>
      obtain ⟨th', ht', turn⟩ := turn_of_step ht hs
      exact ⟨w', th', rfl, ht', turn⟩

/-- A step of a request on the accessor is a tour for all other slots. -/
theorem Tour.request {p : Phase} (hw : w.Valid) (ht : w.threads[t]? = some ⟨.requesting a p, B⟩)
    (ht' : w'.threads[t]? = some th') (hs : w.step P t = some w') :
    Tour P t (Besides V a) K B w (w.tells K t) th' w' := by
  refine .single hw ht ht' hs (List.suffix_refl B) (by simp) fun r s hV q hq => ?_
  obtain rfl := Option.some.inj hq
  exact hV.2

theorem Leg.request {p : Phase} (hw : w.Valid) (ht : w.threads[t]? = some ⟨.requesting a p, B⟩)
    (ht' : w'.threads[t]? = some th') (hs : w.step P t = some w') :
    Leg P t (Besides V a) B w th' w' :=
  (Tour.request (K := fun _ _ => false) hw ht ht' hs).leg

/-- It tells nothing unless it makes an announcement. -/
theorem Tour.mute {p : Phase} (hw : w.Valid) (ht : w.threads[t]? = some ⟨.requesting a p, B⟩)
    (ht' : w'.threads[t]? = some th') (hs : w.step P t = some w') (hmute : w.told? t = none) :
    Tour P t (Besides V a) K B w [] th' w' := by
  have htells : w.tells K t = [] := by simp [tells, hmute]
  rw [← htells]
  exact .request hw ht ht' hs

/-- A leg of a request, to another phase of it. -/
abbrev Leg.To (P : Program σ) (t : ThreadId) (V : RegistryId → Slot → Prop) (a : Accessor)
    (B : List (Frame σ)) (w : World σ) (p : Phase) (w' : World σ) : Prop :=
  Leg P t (Besides V a) B w ⟨.requesting a p, B⟩ w'

/-- A tour of a request, to another phase of it. -/
abbrev Tour.To (P : Program σ) (t : ThreadId) (V : RegistryId → Slot → Prop)
    (K : RegistryId → Slot → Bool) (a : Accessor) (B : List (Frame σ)) (w : World σ)
    (E : List Told) (p : Phase) (w' : World σ) : Prop :=
  Tour P t (Besides V a) K B w E ⟨.requesting a p, B⟩ w'

section Code

variable (hw : w.Valid)
include hw

/-- A step of code that changes nothing but its thread. -/
theorem Tour.code {c : Code σ} {focus : Focus σ} {S' : List (Frame σ)}
    (ht : w.threads[t]? = some ⟨.running c, S⟩)
    (hs : w.stepCode P t S c = some (w.put t focus S')) :
    Tour P t V K S w [] ⟨focus, S'⟩ (w.put t focus S') := by
  have hput : (w.put t focus S').threads[t]? = some ⟨focus, S'⟩ := by
    simp [put, (List.getElem?_eq_some_iff.mp ht).1]
  exact .plain hw ht hput (by rw [step, ht]; exact hs) (List.suffix_refl S) (by simp) rfl

theorem Leg.code {c : Code σ} {focus : Focus σ} {S' : List (Frame σ)}
    (ht : w.threads[t]? = some ⟨.running c, S⟩)
    (hs : w.stepCode P t S c = some (w.put t focus S')) :
    Leg P t V S w ⟨focus, S'⟩ (w.put t focus S') :=
  (Tour.code (K := fun _ _ => false) hw ht hs).leg

/-- A call of an accessor starts a request. -/
theorem Tour.call {next : Outcome → Code σ}
    (ht : w.threads[t]? = some ⟨.running (.call b next), S⟩) :
    ∃ w', Tour P t V K S w [] ⟨.requesting b .check, b.frames next S⟩ w' :=
  ⟨_, .code hw ht rfl⟩

/-- A call of an accessor that is not steadfast starts its only request. -/
theorem Leg.call {next : Outcome → Code σ} (hb : b.insistent = false)
    (ht : w.threads[t]? = some ⟨.running (.call b next), S⟩) :
    ∃ w', Leg P t V S w ⟨.requesting b .check, .caller b next :: S⟩ w' :=
  ⟨_, .code hw ht (by rw [stepCode, hb]; rfl)⟩

/-- Code returns. -/
theorem Leg.done {x : Value} {fault : Option Fault}
    (ht : w.threads[t]? = some ⟨.running (.done x fault), S⟩) :
    ∃ w', Leg P t V S w ⟨.returning (.returned x fault), S⟩ w' :=
  ⟨_, .code hw ht rfl⟩

/-- The outcome of a call is handed to its caller. -/
theorem Tour.answer {next : Outcome → Code σ} {o : Outcome}
    (ht : w.threads[t]? = some ⟨.returning o, .caller b next :: S⟩) :
    ∃ w', Tour P t V K S w [] ⟨.running (next o), S⟩ w' := by
  obtain ⟨w', th', hs, ht', turn⟩ := exists_turn_of_not_stuck (P := P) ht (by rintro ⟨⟩)
  cases turn with
  | answer => exact ⟨w', .plain hw ht ht' hs (List.suffix_cons ..) (by simp) rfl⟩

theorem Leg.answer {next : Outcome → Code σ} {o : Outcome}
    (ht : w.threads[t]? = some ⟨.returning o, .caller b next :: S⟩) :
    ∃ w', Leg P t V S w ⟨.running (next o), S⟩ w' := by
  obtain ⟨w', tour⟩ := Tour.answer (P := P) (V := V) (K := fun _ _ => false) hw ht
  exact ⟨w', tour.leg⟩

/-- A call ends as its request does, unless it is steadfast and got a fault. -/
theorem Tour.passes {next : Outcome → Code σ} {o : Outcome}
    (ho : ∀ v e, o ≠ .returned v (some e))
    (ht : w.threads[t]? = some ⟨.returning o, b.frames next S⟩) :
    ∃ w', Tour P t V K (.caller b next :: S) w [] ⟨.returning o, .caller b next :: S⟩ w' := by
  rw [Accessor.frames] at ht
  cases hb : b.insistent with
  | false =>
      simp only [hb, Bool.false_eq_true, if_false] at ht
      exact ⟨w, .refl ht⟩
  | true =>
      simp only [hb, if_true] at ht
      obtain ⟨w', th', hs, ht', turn⟩ := exists_turn_of_not_stuck (P := P) ht (by rintro ⟨⟩)
      cases turn with
      | retry => exact (ho _ _ rfl).elim
      | pass => exact ⟨w', .plain hw ht ht' hs (List.suffix_cons ..) (by simp) rfl⟩

end Code

/-! ### From the start of a request to its constructor -/

section Departure

variable (hw : w.Valid)
include hw

/-- A request on a vacant slot finds nothing. -/
theorem Vacant.misses (hvac : w.Vacant a.registry a.slot)
    (ht : w.threads[t]? = some ⟨.requesting a .check, B⟩) :
    ∃ w', Tour.To P t V K a B w [] .identify w' ∧ w'.Vacant a.registry a.slot := by
  obtain ⟨w', th', hs, ht', turn⟩ := exists_turn_of_not_stuck (P := P) ht (by rintro ⟨⟩)
  cases turn with
  | lost hq hr => exact (hvac.isSetUp.ne_of_lost hr rfl).elim
  | hit hq hr hv => cases hvac.stored.symm.trans ((stored?_of_get hr _).trans hv)
  | miss hq =>
      have hview := hq.view a.registry a.slot
      exact ⟨w', .mute hw ht ht' hs (by rw [told?, ht]),
        hvac.of_view (hvac.isSetUp.step hs) (by rw [hview]) (by rw [hview])⟩

/-- It gets an identifier. -/
theorem Vacant.identifies (hvac : w.Vacant a.registry a.slot)
    (ht : w.threads[t]? = some ⟨.requesting a .identify, B⟩) :
    ∃ w' id, Tour.To P t V K a B w [] (.board id) w' ∧ w'.Vacant a.registry a.slot := by
  obtain ⟨w', th', hs, ht', turn⟩ := exists_turn_of_not_stuck (P := P) ht (by rintro ⟨⟩)
  cases turn with
  | lost hq hr => exact (hvac.isSetUp.ne_of_lost hr rfl).elim
  | refuse hr hi => exact (hvac.isSetUp.ne_of_refused hr hi rfl).elim
  | @identify _ _ _ _ id hr hi hwr =>
      have hview := view_identify (r := a.registry) (s := a.slot) hr hi hwr
      rw [if_pos ⟨rfl, rfl⟩] at hview
      exact ⟨w', id, .mute hw ht ht' hs (by rw [told?, ht]),
        hvac.of_view (hvac.isSetUp.step hs) (by rw [hview]) (by rw [hview])⟩

/-- It takes off with a flight of its own. -/
theorem Vacant.takesOff (hvac : w.Vacant a.registry a.slot) (hfit : w.IdsFit a.registry)
    {id : String} (ht : w.threads[t]? = some ⟨.requesting a (.board id), B⟩) :
    ∃ w' f, Tour.To P t V K a B w [] (.recheck f) w' ∧ w'.stored? a.registry a.slot = none := by
  obtain ⟨w', th', hs, ht', turn⟩ := exists_turn_of_not_stuck (P := P) ht (by rintro ⟨⟩)
  cases turn with
  | lost hq hr => exact (hvac.isSetUp.ne_of_lost hr rfl).elim
  | join hq hr hf =>
      have hid : w.id? a.registry a.slot = some id :=
        hw.consistent.sound ht (q := ⟨a, .board id⟩) (List.mem_cons_self ..)
      have hnone := hvac.idle.inFlight?_eq_none hw hfit hid
      cases hnone.symm.trans ((inFlight?_of_get hr id).trans hf)
  | takeOff hr hn hreg hf =>
      exact ⟨w', _, .mute hw ht ht' hs (by rw [told?, ht]),
        (stored?_of_set hr hreg rfl _ _).trans hvac.stored⟩

/-- It finds nothing again. -/
theorem IsSetUp.clears (hset : w.IsSetUp a.registry) (hn : w.stored? a.registry a.slot = none)
    (ht : w.threads[t]? = some ⟨.requesting a (.recheck f), B⟩) :
    ∃ w', Tour.To P t V K a B w [] (.announce .construct none (.build f)) w' := by
  obtain ⟨w', th', hs, ht', turn⟩ := exists_turn_of_not_stuck (P := P) ht (by rintro ⟨⟩)
  cases turn with
  | lost hq hr => exact (hset.ne_of_lost hr rfl).elim
  | find hq hr hv => cases hn.symm.trans ((stored?_of_get hr _).trans hv)
  | clear hq => exact ⟨w', .mute hw ht ht' hs (by rw [told?, ht])⟩

/-- So a request on a vacant slot comes to the announcement of its construction. -/
theorem Vacant.departs (hvac : w.Vacant a.registry a.slot)
    (ht : w.threads[t]? = some ⟨.requesting a .check, B⟩)
    (hfit : ∀ w', Climbs P t B w w' → w'.IdsFit a.registry) :
    ∃ w' f, Tour.To P t V K a B w [] (.announce .construct none (.build f)) w' := by
  obtain ⟨w₁, tour₁, hvac₁⟩ := hvac.misses (P := P) (V := V) (K := K) hw ht
  have hw₁ := tour₁.reaches.valid hw
  obtain ⟨w₂, id, tour₂, hvac₂⟩ := hvac₁.identifies (P := P) (V := V) (K := K) hw₁ tour₁.thread
  have tour₁₂ := tour₁.trans tour₂
  have hw₂ := tour₁₂.reaches.valid hw
  obtain ⟨w₃, f, tour₃, hn⟩ :=
    hvac₂.takesOff (P := P) (V := V) (K := K) hw₂ (hfit w₂ tour₁₂.climbs) tour₂.thread
  have tour₁₃ := tour₁₂.trans tour₃
  obtain ⟨w₄, tour₄⟩ := IsSetUp.clears (P := P) (V := V) (K := K) (tour₁₃.reaches.valid hw)
    (tour₁₃.reaches.isSetUp hvac.isSetUp) hn tour₃.thread
  exact ⟨w₄, f, tour₁₃.trans tour₄⟩

/-- The constructor starts. -/
theorem IsSetUp.builds (hset : w.IsSetUp a.registry)
    (ht : w.threads[t]? = some ⟨.requesting a (.build f), B⟩) :
    ∃ w', Tour P t (Besides V a) K B w []
      ⟨.running (P.construct a), .construction a f :: B⟩ w' := by
  obtain ⟨w', th', hs, ht', turn⟩ := exists_turn_of_not_stuck (P := P) ht (by rintro ⟨⟩)
  cases turn with
  | lost hq hr => exact (hset.ne_of_lost hr rfl).elim
  | build hq => exact ⟨w', .mute hw ht ht' hs (by rw [told?, ht])⟩

end Departure

/-! ### From the end of a constructor to that of its request -/

section Arrival

variable (hw : w.Valid)
include hw

/-- A leader goes on after its constructor. -/
theorem Tour.concludes {made : Outcome}
    (ht : w.threads[t]? = some ⟨.returning made, .construction a f :: B⟩) :
    ∃ w', Tour.To P t V K a B w [] (made.conclude a.slot f) w' ∧
      w'.stored? a.registry a.slot = none := by
  obtain ⟨w', th', hs, ht', turn⟩ := exists_turn_of_not_stuck (P := P) ht (by rintro ⟨⟩)
  cases turn with
  | conclude hq =>
      have hn := (hw.consistent.sound ht (q := ⟨a, .build f⟩) (List.mem_cons_self ..)).2
      exact ⟨w', .plain hw ht ht' hs (List.suffix_cons ..) (by simp) rfl,
        (hq.agree.stored _ _).trans hn⟩

/-- It stores the instance. -/
theorem IsSetUp.keeps (hset : w.IsSetUp a.registry) {v : Value}
    (ht : w.threads[t]? = some ⟨.requesting a (.keep f v), B⟩) :
    ∃ w', Tour.To P t V K a B w [] (.land f (.value v)) w' := by
  obtain ⟨w', th', hs, ht', turn⟩ := exists_turn_of_not_stuck (P := P) ht (by rintro ⟨⟩)
  cases turn with
  | lost hq hr => exact (hset.ne_of_lost hr rfl).elim
  | keep => exact ⟨w', .mute hw ht ht' hs (by rw [told?, ht])⟩
  | spill hq hr hb =>
      obtain ⟨reg, hreg, hwritable⟩ := hset
      obtain rfl := Option.some.inj (hr.symm.trans hreg)
      cases hb.symm.trans hwritable

/-- It lands, and no flight of the slot is in the air any more. -/
theorem IsSetUp.lands (hset : w.IsSetUp a.registry) {l : Landing}
    (ht : w.threads[t]? = some ⟨.requesting a (.land f l), B⟩) :
    ∃ w', Tour.To P t V K a B w [] (.settle f l) w' ∧ w'.Idle a.registry a.slot ∧
      w'.stored? a.registry a.slot = w.stored? a.registry a.slot := by
  obtain ⟨fl, hfl, -, hr, hsl, -⟩ :=
    (hw.consistent.sound ht (q := ⟨a, .land f l⟩) (List.mem_cons_self ..)).1
  have hnot : ¬ Stuck P w ⟨.requesting a (.land f l), B⟩ := by
    rintro ⟨⟩
    rename_i hno
    cases hno.symm.trans hfl
  obtain ⟨w', th', hs, ht', turn⟩ := exists_turn_of_not_stuck ht hnot
  cases turn with
  | lost hq hno => exact (hset.ne_of_lost hno rfl).elim
  | land =>
      obtain ⟨hstored, hin, hid⟩ := hw.tables_of_landing hs ht hfl
      rw [hr, hsl] at hstored hid
      rw [hr] at hin
      refine ⟨w', .mute hw ht ht' hs (by rw [told?, ht]), ⟨hset.step hs, fun gl hgl hof hgn => ?_⟩,
        hstored⟩
      obtain ⟨g, hg⟩ := List.mem_iff_getElem?.mp hgl
      cases hin.symm.trans ((hw.step hs).consistent.inFlight?_of_isOf hid hg hof hgn)

/-- A request settles on the landing of its flight. -/
theorem Idle.settles (hidle : w.Idle a.registry a.slot) {l : Landing}
    (ht : w.threads[t]? = some ⟨.requesting a (.settle f l), B⟩) :
    ∃ w', Tour P t (Besides V a) K B w [] ⟨.returning (l.settle a.slot.type), B⟩ w' ∧
      w'.Idle a.registry a.slot ∧
      w'.stored? a.registry a.slot = w.stored? a.registry a.slot := by
  obtain ⟨w', th', hs, ht', turn⟩ := exists_turn_of_not_stuck (P := P) ht (by rintro ⟨⟩)
  cases turn with
  | lost hq hr => exact (hidle.isSetUp.ne_of_lost hr rfl).elim
  | settle hq =>
      have hview := hq.view a.registry a.slot
      exact ⟨w', .mute hw ht ht' hs (by rw [told?, ht]),
        hidle.of_view (hidle.isSetUp.step hs) (by rw [hview]), hq.agree.stored _ _⟩

/-- So a leader that is about to land ends as the landing says. -/
theorem IsSetUp.arrives (hset : w.IsSetUp a.registry) {l : Landing}
    (ht : w.threads[t]? = some ⟨.requesting a (.land f l), B⟩) :
    ∃ w', Tour P t (Besides V a) K B w [] ⟨.returning (l.settle a.slot.type), B⟩ w' ∧
      w'.Idle a.registry a.slot ∧
      w'.stored? a.registry a.slot = w.stored? a.registry a.slot := by
  obtain ⟨w₁, tour₁, hidle₁, hstored₁⟩ := hset.lands (P := P) (V := V) (K := K) hw ht
  obtain ⟨w₂, tour₂, hidle₂, hstored₂⟩ :=
    hidle₁.settles (P := P) (V := V) (K := K) (tour₁.reaches.valid hw) tour₁.thread
  exact ⟨w₂, tour₁.trans tour₂, hidle₂, hstored₂.trans hstored₁⟩

end Arrival

end World

/-- The fault of which a leader tells after its constructor. -/
def Outcome.report? : Outcome → Option Fault
  | .returned _ none => none
  | .returned _ (some e) =>
    match e.findPanic with
    | .crashed => none
    | .absent | .found _ | .hollow => some e
  | .panicked p => some (.constructorPanic p)

/-- After its constructor a leader keeps an instance, tells of a failure and lands with a fault, or
crashes its flight. -/
theorem Outcome.conclude_cases (o : Outcome) (s : Slot) (f : FlightId) :
    (∃ x, o = .returned x none ∧ o.conclude s f = .keep f (s.type.box x)) ∨
      (∀ x, o ≠ .returned x none) ∧
        ((∃ e e', o.report? = some e ∧
          o.conclude s f = .announce .failure (some e) (.land f (.fault e'))) ∨
        ∃ p, o.report? = none ∧ o.conclude s f = .land f (.crash p)) := by
  cases o with
  | panicked p => exact Or.inr ⟨by simp, Or.inl ⟨_, _, rfl, rfl⟩⟩
  | returned x e =>
      cases e with
      | none => exact Or.inl ⟨x, rfl, rfl⟩
      | some e =>
          refine Or.inr ⟨by simp, ?_⟩
          simp only [Outcome.report?, Outcome.conclude]
          cases e.findPanic with
          | crashed => exact Or.inr ⟨_, rfl, rfl⟩
          | absent | found | hollow => exact Or.inl ⟨e, _, rfl, rfl⟩

/-- What a leader tells after its constructor, where announcements tell what `N` says. -/
def Outcome.tells (N : Event → Option Fault → List Told) (o : Outcome) : List Told :=
  o.report?.elim [] fun e => N .failure (some e)

namespace World

variable {P : Program σ} {t : ThreadId} {w w' : World σ} {a : Accessor} {f : FlightId}
  {B : List (Frame σ)} {V : RegistryId → Slot → Prop} {K : RegistryId → Slot → Bool}
  {N : Event → Option Fault → List Told}

/-- The announcements of the requests of the accessor on top of the stack go through, and tell what
`N` says of the slots that count. -/
def Announces (P : Program σ) (t : ThreadId) (V : RegistryId → Slot → Prop)
    (K : RegistryId → Slot → Bool) (N : Event → Option Fault → List Told) (a : Accessor)
    (B : List (Frame σ)) (w : World σ) : Prop :=
  ∀ {w' event fault p}, Climbs P t B w w' →
    w'.threads[t]? = some ⟨.requesting a (.announce event fault p), B⟩ →
    ∃ w'', Tour.To P t V K a B w' (N event fault) p w''

/-- The observers that the registry of the accessor has on the way return. -/
def Heeds (P : Program σ) (t : ThreadId) (V : RegistryId → Slot → Prop) (w : World σ)
    (a : Accessor) : Prop :=
  ∀ {v o event fault p S}, Reaches P t w v → v.observer? a.registry = some o →
    v.threads[t]? =
      some ⟨.running (P.observer o (a.slot.notice event fault)), .observation a p :: S⟩ →
    ∃ v' x e, Leg P t V (.observation a p :: S) v
      ⟨.returning (.returned x e), .observation a p :: S⟩ v'

/-- Wherever the thread comes to run the constructor of the accessor, the constructor returns the
fault. -/
def Fails (P : Program σ) (t : ThreadId) (V : RegistryId → Slot → Prop) (w : World σ) (e : Fault)
    (a : Accessor) : Prop :=
  ∀ {v f S}, Reaches P t w v →
    v.threads[t]? = some ⟨.running (P.construct a), .construction a f :: S⟩ →
    ∃ v' x, Leg P t V (.construction a f :: S) v
      ⟨.returning (.returned x (some e)), .construction a f :: S⟩ v'

/-- An announcement goes through if the observer returns, without telling anything that counts by
itself. -/
theorem IsSetUp.announces (hset : w.IsSetUp a.registry) (hw : w.Valid) {event : Event}
    {fault : Option Fault} {p : Phase}
    (ht : w.threads[t]? = some ⟨.requesting a (.announce event fault p), B⟩)
    (hheeds : ∀ {v o}, Climbs P t B w v → v.observer? a.registry = some o →
      v.threads[t]? =
        some ⟨.running (P.observer o (a.slot.notice event fault)), .observation a p :: B⟩ →
      ∃ v' x e, Tour P t V K (.observation a p :: B) v []
        ⟨.returning (.returned x e), .observation a p :: B⟩ v') :
    ∃ w', Tour.To P t V K a B w (w.tells K t) p w' := by
  obtain ⟨w₁, th₁, hs, ht₁, turn⟩ := exists_turn_of_not_stuck (P := P) ht (by rintro ⟨⟩)
  have tour₁ := Tour.request (V := V) (K := K) hw ht ht₁ hs
  cases turn with
  | lost hq hno => exact (hset.ne_of_lost hno rfl).elim
  | skip => exact ⟨w₁, tour₁⟩
  | @announce _ _ _ _ _ o _ hq hreg ho =>
      have hobs : w₁.observer? a.registry = some o := by
        rw [observer?, hq.registries, hreg]
        exact ho
      obtain ⟨w₂, x, e, tour₂⟩ := hheeds tour₁.climbs hobs ht₁
      have tour₁₂ :=
        tour₁.silent ((tour₂.mono fun r s hV => hV.1).rebase (List.suffix_cons ..))
      obtain ⟨w₃, th₃, hs₃, ht₃, turn⟩ :=
        exists_turn_of_not_stuck (P := P) tour₂.thread (by rintro ⟨⟩)
      cases turn with
      | observed =>
          exact ⟨w₃, tour₁₂.silent (.plain (tour₁₂.reaches.valid hw) tour₂.thread ht₃ hs₃
            (List.suffix_cons ..) (by simp) rfl)⟩

/-- The announcements go through if the observers return. -/
theorem Heeds.announces (hheeds : Heeds P t V w a) (hset : w.IsSetUp a.registry) (hw : w.Valid) :
    Announces P t V (fun _ _ => false) (fun _ _ => []) a B w := by
  intro w' event fault p hr ht
  have hnone : w'.tells (fun _ _ => false) t = [] := by simp [tells]
  rw [← hnone]
  refine IsSetUp.announces (hr.reaches.isSetUp hset) (hr.reaches.valid hw) ht fun hv ho hv' => ?_
  obtain ⟨v', x, e, leg⟩ := hheeds (hr.reaches.trans hv.reaches) ho hv'
  exact ⟨v', x, e, leg.tour⟩

/-- After its constructor a request ends as the constructor says. It leaves the slot without an
instance if the constructor failed. -/
theorem IsSetUp.ends (hset : w.IsSetUp a.registry) (hw : w.Valid)
    (hann : Announces P t V K N a B w) {made : Outcome}
    (ht : w.threads[t]? = some ⟨.returning made, .construction a f :: B⟩) :
    ∃ w', Tour P t (Besides V a) K B w (made.tells N)
        ⟨.returning ((Incident.concluded a f made).outcome a.slot), B⟩ w' ∧
      w'.Idle a.registry a.slot ∧
      ((∀ x, made ≠ .returned x none) → w'.stored? a.registry a.slot = none) := by
  obtain ⟨w₁, tour₁, hn⟩ := Tour.concludes (P := P) (V := V) (K := K) hw ht
  have hw₁ := tour₁.reaches.valid hw
  have hset₁ := tour₁.reaches.isSetUp hset
  obtain ⟨x, rfl, hkeep⟩ | ⟨-, hfailed⟩ := made.conclude_cases a.slot f
  · rw [hkeep] at tour₁
    obtain ⟨w₂, tour₂⟩ := hset₁.keeps (P := P) (V := V) (K := K) hw₁ tour₁.thread
    have tour₁₂ := tour₁.trans tour₂
    obtain ⟨w₃, tour₃, hidle, -⟩ := IsSetUp.arrives (P := P) (V := V) (K := K)
      (tour₁₂.reaches.valid hw) (tour₁₂.reaches.isSetUp hset) tour₂.thread
    exact ⟨w₃, tour₁₂.trans tour₃, hidle, fun hno => (hno x rfl).elim⟩
  · obtain ⟨e, e', hreport, hann'⟩ | ⟨p, hreport, hland⟩ := hfailed
    · have hcore : (made.conclude a.slot f).core = .land f (.fault e') := by rw [hann']; rfl
      rw [hann'] at tour₁
      obtain ⟨w₂, tour₂⟩ := hann tour₁.climbs tour₁.thread
      have tour₁₂ := tour₁.trans tour₂
      have hw₂ := tour₁₂.reaches.valid hw
      have hn₂ := (hw₂.consistent.sound tour₂.thread (q := ⟨a, .land f (.fault e')⟩)
        (List.mem_cons_self ..)).2
      obtain ⟨w₃, tour₃, hidle, hstored⟩ := IsSetUp.arrives (P := P) (V := V) (K := K) hw₂
        (tour₁₂.reaches.isSetUp hset) tour₂.thread
      rw [Outcome.settle_conclude (a := a) hcore] at tour₃
      rw [Outcome.tells, hreport]
      exact ⟨w₃, tour₁₂.silent tour₃, hidle, fun _ => hstored.trans hn₂⟩
    · have hcore : (made.conclude a.slot f).core = .land f (.crash p) := by rw [hland]; rfl
      rw [hland] at tour₁
      obtain ⟨w₂, tour₂, hidle, hstored⟩ := IsSetUp.arrives (P := P) (V := V) (K := K) hw₁ hset₁
        tour₁.thread
      rw [Outcome.settle_conclude (a := a) hcore] at tour₂
      rw [Outcome.tells, hreport]
      exact ⟨w₂, tour₁.trans tour₂, hidle, fun _ => hstored.trans hn⟩

/-! ### Whole calls -/

/-- A request on a slot that has an instance ends with the instance. -/
theorem IsSetUp.hits (hset : w.IsSetUp a.registry) (hw : w.Valid)
    (ht : w.threads[t]? = some ⟨.requesting a .check, B⟩) (hann : Announces P t V K N a B w)
    {v : Value} (hv : w.stored? a.registry a.slot = some v) :
    ∃ w', Tour P t (Besides V a) K B w (N .hit none)
      ⟨.returning (.returned (a.slot.type.unbox v) none), B⟩ w' := by
  obtain ⟨w₁, th₁, hs₁, ht₁, turn₁⟩ := exists_turn_of_not_stuck (P := P) ht (by rintro ⟨⟩)
  have tour₁ := Tour.mute (V := V) (K := K) hw ht ht₁ hs₁ (by rw [told?, ht])
  cases turn₁ with
  | lost hq hr => exact (hset.ne_of_lost hr rfl).elim
  | miss hq hr hn => cases hn.symm.trans ((stored?_of_get hr _).symm.trans hv)
  | hit hq hr hv' =>
      obtain rfl := Option.some.inj (hv'.symm.trans ((stored?_of_get hr _).symm.trans hv))
      obtain ⟨w₂, tour₂⟩ := hann tour₁.climbs ht₁
      have tour₁₂ := tour₁.trans tour₂
      have hw₂ := tour₁₂.reaches.valid hw
      obtain ⟨w₃, th₃, hs₃, ht₃, turn₃⟩ :=
        exists_turn_of_not_stuck (P := P) tour₂.thread (by rintro ⟨⟩)
      have tour₃ := Tour.mute (V := V) (K := K) hw₂ tour₂.thread ht₃ hs₃
        (by rw [told?, tour₂.thread])
      cases turn₃ with
      | lost hq hr => exact ((tour₁₂.reaches.isSetUp hset).ne_of_lost hr rfl).elim
      | finish => exact ⟨w₃, tour₁₂.silent tour₃⟩

/-- A call on a vacant slot runs its constructor and ends as the constructor says. -/
theorem Vacant.call_ends (hvac : w.Vacant a.registry a.slot) (hw : w.Valid)
    (ht : w.threads[t]? = some ⟨.requesting a .check, B⟩)
    (hfit : ∀ w', Climbs P t B w w' → w'.IdsFit a.registry) (hann : Announces P t V K N a B w)
    {Q : Outcome → List Told → Prop}
    (hmake : ∀ {w' f}, Tour P t (Besides V a) K B w (N .construct none)
        ⟨.running (P.construct a), .construction a f :: B⟩ w' →
      ∃ w'' made E, Q made E ∧ Tour P t (Besides V a) K (.construction a f :: B) w' E
        ⟨.returning made, .construction a f :: B⟩ w'') :
    ∃ w' f made E, Q made E ∧
      Tour P t (Besides V a) K B w (N .construct none ++ E ++ made.tells N)
        ⟨.returning ((Incident.concluded a f made).outcome a.slot), B⟩ w' ∧
      w'.Idle a.registry a.slot ∧
      ((∀ x, made ≠ .returned x none) → w'.stored? a.registry a.slot = none) := by
  obtain ⟨w₁, f, tour₁⟩ := hvac.departs (P := P) (V := V) (K := K) hw ht hfit
  obtain ⟨w₂, tour₂⟩ := hann tour₁.climbs tour₁.thread
  have tour₁₂ := tour₁.trans tour₂
  obtain ⟨w₃, tour₃⟩ := IsSetUp.builds (P := P) (V := V) (K := K) (tour₁₂.reaches.valid hw)
    (tour₁₂.reaches.isSetUp hvac.isSetUp) tour₂.thread
  have tour₁₃ := tour₁₂.silent tour₃
  obtain ⟨w₄, made, E, hmade, tour₄⟩ := hmake tour₁₃
  have tour₁₄ := tour₁₃.trans (tour₄.rebase (List.suffix_cons ..))
  obtain ⟨w₅, tour₅, hidle, hstored⟩ := IsSetUp.ends (tour₁₄.reaches.isSetUp hvac.isSetUp)
    (tour₁₄.reaches.valid hw) (fun hr => hann (tour₁₄.climbs.trans hr)) tour₄.thread
  exact ⟨w₅, f, made, E, hmade, tour₁₄.trans tour₅, hidle, hstored⟩

/-- If the constructor fails, the slot is vacant again. -/
theorem Vacant.call_fails (hvac : w.Vacant a.registry a.slot) (hw : w.Valid)
    (ht : w.threads[t]? = some ⟨.requesting a .check, B⟩)
    (hfit : ∀ w', Climbs P t B w w' → w'.IdsFit a.registry) (hann : Announces P t V K N a B w)
    {Q : Outcome → List Told → Prop} (hQ : ∀ made E, Q made E → ∀ x, made ≠ .returned x none)
    (hmake : ∀ {w' f}, Tour P t (Besides V a) K B w (N .construct none)
        ⟨.running (P.construct a), .construction a f :: B⟩ w' →
      ∃ w'' made E, Q made E ∧ Tour P t (Besides V a) K (.construction a f :: B) w' E
        ⟨.returning made, .construction a f :: B⟩ w'') :
    ∃ w' f made E, Q made E ∧
      Tour P t V K B w (N .construct none ++ E ++ made.tells N)
        ⟨.returning ((Incident.concluded a f made).outcome a.slot), B⟩ w' ∧
      w'.Vacant a.registry a.slot := by
  obtain ⟨w', f, made, E, hmade, tour, hidle, hstored⟩ := hvac.call_ends hw ht hfit hann hmake
  have hvac' := hidle.vacant (hstored (hQ made E hmade))
  refine ⟨w', f, made, E, hmade, ⟨tour.way, tour.thread, fun r s hV hrs => ?_⟩, hvac'⟩
  by_cases hof : a.isOf r s = true
  · obtain ⟨rfl, rfl⟩ := of_decide_eq_true hof
    exact hvac'
  · exact tour.vacant r s ⟨hV, by simpa using hof⟩ hrs

/-- A call on a vacant slot whose constructor returns a fault ends as the fault says, and the slot
is vacant again. -/
theorem Vacant.call_faulty (hvac : w.Vacant a.registry a.slot) (hw : w.Valid)
    (ht : w.threads[t]? = some ⟨.requesting a .check, B⟩)
    (hfit : ∀ w', Reaches P t w w' → w'.IdsFit a.registry) (hheeds : Heeds P t V w a) {e : Fault}
    (hmake : ∀ {w' f}, Leg P t (Besides V a) B w
        ⟨.running (P.construct a), .construction a f :: B⟩ w' →
      ∃ w'' x, Leg P t V (.construction a f :: B) w'
        ⟨.returning (.returned x (some e)), .construction a f :: B⟩ w'') :
    ∃ w' f x, Leg P t V B w
        ⟨.returning ((Incident.concluded a f (.returned x (some e))).outcome a.slot), B⟩ w' ∧
      w'.Vacant a.registry a.slot := by
  obtain ⟨w', f, made, E, ⟨x, rfl⟩, tour, hvac'⟩ := hvac.call_fails hw ht
    (fun w' hr => hfit w' hr.reaches) (hheeds.announces hvac.isSetUp hw)
    (Q := fun made _ => ∃ x, made = .returned x (some e))
    (by rintro made - ⟨x, rfl⟩ y hy; cases hy) fun tour => by
      obtain ⟨w'', x, leg⟩ := hmake tour.leg
      exact ⟨w'', _, [], ⟨x, rfl⟩, leg.tour.mono fun r s hV => hV.1⟩
  exact ⟨w', f, x, tour.leg, hvac'⟩

end World

end InstanceRegistry
