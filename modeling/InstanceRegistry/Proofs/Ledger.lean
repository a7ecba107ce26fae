import InstanceRegistry.Proofs.Notice

/-!
# Balances of a run

A step changes one thread. If for every step what it pays and what the thread then holds make up
for what the thread held and what falls due, then the payments of a whole run and what all its
threads hold at the end make up for all that fell due. Two such balances are kept here. A request
that is opened falls due, and it is paid when its first event is told; in between its thread holds
it. And a construction that is told falls due, and it is paid when the constructor is started.

## Implementation notes

A request tells its first event before it runs any code, so only the innermost request of a thread
can still owe it. A construction that was told may wait below the code of its observer.
-/

namespace InstanceRegistry

variable {σ : Type}

/-- What the members of a list count together. -/
def total {α : Type} (g : α → Nat) (l : List α) : Nat := l.foldr (fun x n => g x + n) 0

@[simp] theorem total_cons {α : Type} (g : α → Nat) (x : α) (l : List α) :
    total g (x :: l) = g x + total g l := rfl

/-- Replacing a member of a list changes the total by what the two members count. -/
theorem total_set {α : Type} (g : α → Nat) {l : List α} {i : Nat} {x : α} (hx : l[i]? = some x)
    (y : α) : total g (l.set i y) + g x = total g l + g y := by
  induction l generalizing i with
  | nil => cases hx
  | cons z l ih =>
      cases i with
      | zero =>
          obtain rfl := Option.some.inj hx
          simp only [List.set_cons_zero, total_cons]
          omega
      | succ i =>
          have hrest := ih hx
          simp only [List.set_cons_succ, total_cons]
          omega

/-- Members that count nothing have the total zero. -/
theorem total_eq_zero {α : Type} {g : α → Nat} {l : List α} (h : ∀ x ∈ l, g x = 0) :
    total g l = 0 := by
  induction l with
  | nil => rfl
  | cons x l ih =>
      have hx : g x = 0 := h x (List.mem_cons_self ..)
      have hl : total g l = 0 := ih fun y hy => h y (List.mem_cons_of_mem _ hy)
      rw [total_cons, hx, hl]

/-- A total is one at most if only one member counts, and that one. -/
theorem total_le_one {α : Type} {g : α → Nat} {l : List α} (hone : ∀ x ∈ l, g x ≤ 1)
    (hunique : ∀ (i j : Nat) (x y : α), l[i]? = some x → l[j]? = some y → 0 < g x → 0 < g y →
      i = j) : total g l ≤ 1 := by
  induction l with
  | nil => exact Nat.zero_le _
  | cons x l ih =>
      rw [total_cons]
      by_cases hx : 0 < g x
      · have hrest : total g l = 0 := by
          apply total_eq_zero
          intro y hy
          obtain ⟨j, hj⟩ := List.mem_iff_getElem?.mp hy
          apply Nat.eq_zero_of_not_pos
          intro hpos
          cases hunique 0 (j + 1) x y rfl hj hx hpos
        have hle := hone x (List.mem_cons_self ..)
        omega
      · have hrest : total g l ≤ 1 := by
          apply ih fun y hy => hone y (List.mem_cons_of_mem _ hy)
          intro i j y z hi hj hy hz
          exact Nat.succ.inj (hunique (i + 1) (j + 1) y z hi hj hy hz)
        omega

theorem countP_append_singleton {α : Type} (p : α → Bool) (l : List α) (x : α) :
    (l ++ [x]).countP p = l.countP p + (p x).toNat := by
  rw [List.countP_append, List.countP_singleton]
  cases p x <;> rfl

/-- The events with which a request says how it came by its outcome. -/
def Event.isFirst (e : Event) : Bool := e == .hit || e == .construct || e == .dedup

@[simp] theorem Event.isFirst_hit : Event.hit.isFirst = true := rfl

@[simp] theorem Event.isFirst_construct : Event.construct.isFirst = true := rfl

@[simp] theorem Event.isFirst_dedup : Event.dedup.isFirst = true := rfl

@[simp] theorem Event.isFirst_failure : Event.failure.isFirst = false := rfl

/-- The move tells the first event of a request of the registry. -/
def Move.tellsFirst (r : RegistryId) (m : Move σ) : Bool :=
  m.told?.any fun x => x.accessor.registry == r && x.event.isFirst

/-- The thread stands at the start of a request of the registry. -/
def Thread.isOpening (r : RegistryId) : Thread σ → Bool
  | ⟨.requesting a .check, _⟩ => a.registry == r
  | _ => false

/-- The move opens a request of the registry: its thread then stands at the start of one. -/
def Move.opens (r : RegistryId) (m : Move σ) : Bool :=
  m.after.threads[m.thread]?.any (Thread.isOpening r)

/-- The move tells that a constructor of the slot is about to run. -/
def Move.tellsConstruct (r : RegistryId) (s : Slot) (m : Move σ) : Bool :=
  m.told?.any fun x =>
    decide (x.accessor.registry = r ∧ x.accessor.slot = s) && x.event == .construct

/-- A request in the phase runs its constructor next. -/
def Phase.isBuild : Phase → Bool
  | .build _ => true
  | _ => false

/-- The move starts a constructor of the slot. -/
def Move.starts (r : RegistryId) (s : Slot) (m : Move σ) : Bool :=
  match m.actor? with
  | some ⟨.requesting a p, _⟩ => decide (a.registry = r ∧ a.slot = s) && p.isBuild
  | _ => false

/-- A request in the phase has still to tell its first event. -/
def Phase.isUntold : Phase → Bool
  | .check | .identify | .board _ | .wait _ | .recheck _ => true
  | .announce event _ _ => event.isFirst
  | .build _ | .keep _ _ | .land _ _ | .settle _ _ | .finish _ => false

/-- The number of requests of the registry in the thread that have still to tell their first
event. -/
def Thread.untold (r : RegistryId) (th : Thread σ) : Nat :=
  match th.focus with
  | .requesting a p => (a.registry == r && p.isUntold).toNat
  | .running _ | .returning _ => 0

/-- A request of another registry owes nothing. -/
theorem Thread.untold_of_ne {r : RegistryId} {a : Accessor} (h : a.registry ≠ r) (p : Phase)
    (S : List (Frame σ)) : (⟨.requesting a p, S⟩ : Thread σ).untold r = 0 := by
  simp [Thread.untold, beq_eq_false_iff_ne.mpr h]

/-- A constructor of the slot is what a request in the focus runs next. -/
def Focus.isUnstarted (r : RegistryId) (s : Slot) : Focus σ → Bool
  | .requesting a p => decide (a.registry = r ∧ a.slot = s) && p.isBuild
  | .running _ | .returning _ => false

/-- A constructor of the slot is what a request in the frame runs next, after its observer. -/
def Frame.isUnstarted (r : RegistryId) (s : Slot) : Frame σ → Bool
  | .observation a next => decide (a.registry = r ∧ a.slot = s) && next.isBuild
  | .construction _ _ | .resume _ | .caller _ _ | .again _ => false

/-- The number of constructors of the slot that the thread has told of and has still to start. -/
def Thread.unstarted (r : RegistryId) (s : Slot) (th : Thread σ) : Nat :=
  (th.focus.isUnstarted r s).toNat + total (fun fr => (fr.isUnstarted r s).toNat) th.stack

/-- What follows an announcement owes no event. -/
theorem Announced.isUntold_eq {event : Event} {fault : Option Fault} {next : Phase}
    (h : Announced event fault next) : next.isUntold = false := by
  cases h <;> rfl

/-- A thread at the start of a request owes its first event. -/
theorem Thread.isOpening_eq_false {r : RegistryId} {a : Accessor} {p : Phase} {S : List (Frame σ)}
    (h : p.isUntold = false) : (⟨.requesting a p, S⟩ : Thread σ).isOpening r = false := by
  cases p with
  | check => cases h
  | _ => rfl

/-- A request that has run its constructor has told its first event. -/
theorem Outcome.isUntold_conclude (o : Outcome) (s : Slot) (f : FlightId) :
    (o.conclude s f).isUntold = false :=
  o.conclude_induct (K := fun p => p.isUntold = false) s f (fun _ => rfl) (fun _ _ => rfl)
    fun _ => rfl

/-- A request that has run its constructor does not run it again. -/
theorem Outcome.isBuild_conclude (o : Outcome) (s : Slot) (f : FlightId) :
    (o.conclude s f).isBuild = false :=
  o.conclude_induct (K := fun p => p.isBuild = false) s f (fun _ => rfl) (fun _ _ => rfl)
    fun _ => rfl

/-- A thread without a request of the registry owes nothing. -/
theorem Thread.untold_eq_zero {th : Thread σ} {r : RegistryId}
    (h : ∀ q ∈ th.requests, q.accessor.registry ≠ r) : th.untold r = 0 := by
  obtain ⟨focus, S⟩ := th
  cases focus with
  | requesting a p => exact Thread.untold_of_ne (h ⟨a, p.core⟩ (List.mem_cons_self ..)) p S
  | running | returning => rfl

theorem Thread.unstarted_eq_zero {th : Thread σ} {r : RegistryId} {s : Slot}
    (h : ∀ q ∈ th.requests, q.accessor.registry ≠ r) : th.unstarted r s = 0 := by
  obtain ⟨focus, S⟩ := th
  have hfocus : focus.isUnstarted r s = false := by
    cases focus with
    | requesting a p => simp [Focus.isUnstarted, h ⟨a, p.core⟩ (List.mem_cons_self ..)]
    | running | returning => rfl
  have hstack : total (fun fr => (fr.isUnstarted r s).toNat) S = 0 := by
    apply total_eq_zero
    intro fr hfr
    cases fr with
    | observation a next =>
        have hq : (⟨a, next.core⟩ : Request) ∈ (⟨focus, S⟩ : Thread σ).requests :=
          List.mem_append_right _ (List.mem_filterMap.mpr ⟨_, hfr, rfl⟩)
        simp [Frame.isUnstarted, h _ hq]
    | construction | resume | caller | again => rfl
  simp [Thread.unstarted, hfocus, hstack]

/-- What a move tells is counted once among the first events. -/
theorem Move.tellsFirst_eq (r : RegistryId) (m : Move σ) :
    (if (m.told?.bind (Told.slot? r .hit)).isSome then 1 else 0) +
        (if (m.told?.bind (Told.slot? r .construct)).isSome then 1 else 0) +
        (if (m.told?.bind (Told.slot? r .dedup)).isSome then 1 else 0) =
      if m.tellsFirst r then 1 else 0 := by
  rw [Move.tellsFirst]
  cases m.told? with
  | none => rfl
  | some x =>
      simp only [Option.bind_some, Told.slot?, Option.any_some]
      by_cases hr : x.accessor.registry = r
      · by_cases hh : x.event = .hit
        · simp +decide [hr, hh]
        · by_cases hc : x.event = .construct
          · simp +decide [hr, hc]
          · by_cases hd : x.event = .dedup <;> simp +decide [hr, hh, hc, hd, Event.isFirst]
      · simp [hr]

/-- The first events of a registry are its hits, its constructions and its shared flights. -/
theorem length_reports (r : RegistryId) (h : List (Move σ)) :
    (reports r .hit h).length + (reports r .construct h).length + (reports r .dedup h).length =
      h.countP (Move.tellsFirst r) := by
  simp only [reports, List.length_filterMap_eq_countP]
  induction h with
  | nil => rfl
  | cons m h ih =>
      have hm := m.tellsFirst_eq r
      simp only [List.countP_cons]
      omega

/-- The constructions of a slot are counted among its events. -/
theorem count_construct_events (r : RegistryId) (s : Slot) (h : List (Move σ)) :
    (events r s h).count .construct = h.countP (Move.tellsConstruct r s) := by
  rw [events, List.count_filterMap]
  apply List.countP_congr
  intro m _
  rw [Move.tellsConstruct]
  cases m.told? with
  | none => simp
  | some x =>
      by_cases hon : x.accessor.registry = r ∧ x.accessor.slot = s <;> simp [Told.event?, hon]

/-- A request that finds no registry is on another one. -/
theorem World.IsSetUp.ne_of_lost {w : World σ} {r r' : RegistryId} (hreg : w.IsSetUp r)
    (hr : w.registries[r']? = none) : r' ≠ r := by
  rintro rfl
  obtain ⟨reg, hreg, -⟩ := hreg
  cases hr.symm.trans hreg

/-- A request that is refused an identifier is on another registry. -/
theorem World.IsSetUp.ne_of_refused {w : World σ} {r r' : RegistryId} {reg reg' : Registry}
    {s : Slot} {p : Panic} (hreg : w.IsSetUp r) (hr : w.registries[r']? = some reg)
    (hi : reg.identify s = (.error p, reg')) : r' ≠ r := by
  rintro rfl
  obtain ⟨reg₀, hreg, hb⟩ := hreg
  obtain rfl := Option.some.inj (hr.symm.trans hreg)
  obtain ⟨hb', -⟩ := Registry.identify_error hi
  simp [hb] at hb'

/-- The requests of the registry find it set up whenever they make a step. -/
def Served (r : RegistryId) (h : List (Move σ)) : Prop :=
  ∀ m ∈ h, ∀ a p S, m.actor? = some ⟨.requesting a p, S⟩ → a.registry = r → m.before.IsSetUp r

/-- A registry that was set up at the start of a run serves its requests. -/
theorem World.Run.served {P : Program σ} {w₀ w : World σ} {h : List (Move σ)} {r : RegistryId}
    (run : Run P w₀ h w) (hreg : w₀.IsSetUp r) : Served r h := by
  intro m hm _ _ _ _ _
  obtain ⟨h₁, -, -, run₁, -, -⟩ := run.split hm
  exact run₁.preserves (I := fun w => w.IsSetUp r) (fun hi hs => hi.step hs) hreg

namespace World

variable {P : Program σ} {t : ThreadId} {w₀ w w' : World σ} {th th' : Thread σ} {r : RegistryId}
  {s : Slot} {h : List (Move σ)}

/-- A run is balanced if all its steps are. -/
theorem Run.balance {paid due : Move σ → Bool} {φ : Thread σ → Nat} (run : Run P w₀ h w)
    (fresh : w₀.Fresh) (hzero : ∀ c, φ (.start c) = 0)
    (hstep : ∀ m ∈ h, ∀ th th', m.before.Valid → m.actor? = some th →
      m.after.threads[m.thread]? = some th' → Turn P m.thread m.before m.after th th' →
      (paid m).toNat + φ th' = φ th + (due m).toNat) :
    h.countP paid + total φ w.threads = h.countP due := by
  induction run with
  | start =>
      have hnone : total φ w₀.threads = 0 := by
        apply total_eq_zero
        intro th hth
        obtain ⟨c, rfl⟩ := fresh.threads th hth
        exact hzero c
      simp [hnone]
  | @step h v t w run hs ih =>
      have hprev := ih fun m hm => hstep m (List.mem_append_left _ hm)
      obtain ⟨th, th', ht, hset, turn⟩ := step_turn hs
      have ht' : w.threads[t]? = some th' := by simp [getElem?_threads_set ht hset]
      have hlast := hstep ⟨t, v, w⟩ (by simp) th th' (run.valid fresh) ht ht' turn
      have hsum := total_set φ ht th'
      rw [← hset] at hsum
      rw [countP_append_singleton, countP_append_singleton]
      omega

/-- A thread owes the first event of each request that it opens, and of no other, until it tells
it. -/
theorem Turn.balance_untold (turn : Turn P t w w' th th') (hp : th.Proper)
    (ht : w.threads[t]? = some th)
    (hwatch : ∀ reg, w.registries[r]? = some reg → reg.observer ≠ none)
    (hset : ∀ a p S, th = ⟨.requesting a p, S⟩ → a.registry = r → w.IsSetUp r)
    (hcrash : ∀ a f S, th = ⟨.requesting a (.wait f), S⟩ → a.registry = r →
      ∀ p, w.landing? f ≠ some (.crash p)) :
    ((⟨t, w, w'⟩ : Move σ).tellsFirst r).toNat + th'.untold r =
      th.untold r + (th'.isOpening r).toNat := by
  have quiet (hn : w.told? t = none) : (⟨t, w, w'⟩ : Move σ).tellsFirst r = false := by
    rw [Move.tellsFirst, Move.told?, hn]
    rfl
  cases turn with
  | observed =>
      rw [quiet (by rw [told?, ht])]
      cases hp with
      | returning hS =>
          cases hS with
          | observation hn hS =>
              simp [Thread.untold, hn.isUntold_eq, Thread.isOpening_eq_false hn.isUntold_eq]
  | @conclude o a f S hq =>
      have hno := o.isUntold_conclude a.slot f
      simp [quiet (by rw [told?, ht]), Thread.untold, hno, Thread.isOpening_eq_false hno]
  | @lost a p S hq hr =>
      have hne : a.registry ≠ r := fun har => (hset a p S rfl har).ne_of_lost hr har
      have hno : w.told? t = none := by cases p <;> simp [told?, ht, hr]
      rw [quiet hno, Thread.untold_of_ne hne]
      rfl
  | @refuse a S reg reg' p hr hi hw =>
      have hne : a.registry ≠ r := fun har => (hset a _ S rfl har).ne_of_refused hr hi har
      rw [quiet (by rw [told?, ht]), Thread.untold_of_ne hne]
      rfl
  | @share a S f p hq hl =>
      have hne : a.registry ≠ r := fun har => hcrash a f S rfl har p hl
      rw [quiet (by rw [told?, ht]), Thread.untold_of_ne hne]
      rfl
  | @skip a S event fault next reg hq hr ho =>
      have hne : a.registry ≠ r := by
        rintro rfl
        exact hwatch reg hr ho
      have hno : w.told? t = none := by simp [told?, ht, hr, ho]
      cases hp with
      | requesting hp hS =>
          have hnext := (hp _ _ _ rfl).isUntold_eq
          simp [quiet hno, Thread.untold_of_ne hne, Thread.isOpening_eq_false hnext]
  | announce hq hr ho =>
      simp [Move.tellsFirst, Move.told?, told?, ht, hr, ho, Thread.untold, Thread.isOpening,
        Phase.isUntold]
  | proceed | stop | notify | call | resume | answer | retry | pass | crash | interrupt | hit | miss
  | identify | join | takeOff | release | find | clear | build | keep | spill | land | settle
  | finish =>
      simp [quiet (by rw [told?, ht]), Thread.untold, Thread.isOpening, Phase.isUntold]

/-- A thread owes the start of each constructor that it tells of, and of no other, until it starts
it. -/
theorem Turn.balance_unstarted (turn : Turn P t w w' th th') (hp : th.Proper)
    (ht : w.threads[t]? = some th)
    (hwatch : ∀ reg, w.registries[r]? = some reg → reg.observer ≠ none)
    (hset : ∀ a p S, th = ⟨.requesting a p, S⟩ → a.registry = r → w.IsSetUp r)
    (hcalm : ∀ p a next S, th = ⟨.returning (.panicked p), .observation a next :: S⟩ →
      a.registry ≠ r) :
    ((⟨t, w, w'⟩ : Move σ).starts r s).toNat + th'.unstarted r s =
      th.unstarted r s + ((⟨t, w, w'⟩ : Move σ).tellsConstruct r s).toNat := by
  have quiet (hn : w.told? t = none) : (⟨t, w, w'⟩ : Move σ).tellsConstruct r s = false := by
    rw [Move.tellsConstruct, Move.told?, hn]
    rfl
  cases turn with
  | call =>
      rw [quiet (by rw [told?, ht])]
      split <;> simp [Move.starts, Move.actor?, ht, Thread.unstarted, Focus.isUnstarted,
        Frame.isUnstarted, Phase.isBuild]
  | conclude hq =>
      simp [quiet (by rw [told?, ht]), Move.starts, Move.actor?, ht, Thread.unstarted,
        Outcome.isBuild_conclude, Focus.isUnstarted, Frame.isUnstarted]
  | @crash p a next f S hq hf =>
      have hne := hcalm p a next S rfl
      simp [quiet (by rw [told?, ht]), Move.starts, Move.actor?, ht, Thread.unstarted,
        Focus.isUnstarted, Frame.isUnstarted, Phase.isBuild, hne]
  | @interrupt p a next S hq hf =>
      have hne := hcalm p a next S rfl
      simp [quiet (by rw [told?, ht]), Move.starts, Move.actor?, ht, Thread.unstarted,
        Focus.isUnstarted, Frame.isUnstarted, hne]
  | @lost a p S hq hr =>
      have hne : a.registry ≠ r := fun har => (hset a p S rfl har).ne_of_lost hr har
      have hno : w.told? t = none := by cases p <;> simp [told?, ht, hr]
      simp [quiet hno, Move.starts, Move.actor?, ht, Thread.unstarted, Focus.isUnstarted, hne]
  | @skip a S event fault next reg hq hr ho =>
      have hne : a.registry ≠ r := by
        rintro rfl
        exact hwatch reg hr ho
      have hno : w.told? t = none := by simp [told?, ht, hr, ho]
      simp [quiet hno, Move.starts, Move.actor?, ht, Thread.unstarted, Focus.isUnstarted, hne]
  | announce hq hr ho =>
      -- Only the event of a construction comes before the phase in which the constructor is run.
      cases hp with
      | requesting hp hS =>
          cases hp _ _ _ rfl <;> simp +decide [Move.tellsConstruct, Move.told?, told?, ht, hr, ho,
            Move.starts, Move.actor?, Thread.unstarted, Focus.isUnstarted, Frame.isUnstarted,
            Phase.isBuild, Nat.add_comm]
  | proceed | stop | notify | resume | answer | retry | pass | observed | hit | miss | identify
  | refuse | join | takeOff | share | release | find | clear | build | keep | spill | land | settle
  | finish =>
      simp [quiet (by rw [told?, ht]), Move.starts, Move.actor?, ht, Thread.unstarted,
        Focus.isUnstarted, Frame.isUnstarted, Phase.isBuild]

section Balance

variable {o : ObserverId} (run : Run P w₀ h w) (fresh : w₀.Fresh) (hatt : Attended r o h)
  (hset : Served r h)
include run fresh hatt hset

/-- The first events that were told and those that are still owed are as many as the requests that
were opened, as long as no flight was ended by a panic outside of its constructor. -/
theorem Run.count_opens
    (hcrash : ∀ fl ∈ w.flights, fl.registry = r → fl.landing.any Landing.isCrash = false) :
    (reports r .hit h).length + (reports r .construct h).length + (reports r .dedup h).length +
      total (Thread.untold r) w.threads = h.countP (Move.opens r) := by
  rw [length_reports]
  apply run.balance fresh fun _ => rfl
  intro m hm th th' hv ht ht' turn
  have hopens : m.opens r = th'.isOpening r := by rw [Move.opens, ht', Option.any_some]
  rw [hopens]
  refine turn.balance_untold (hv.proper _ _ ht) ht ?_ ?_ ?_
  · intro reg hr hno
    cases hno.symm.trans (hatt.attached m hm reg hr)
  · rintro a p S rfl har
    exact hset m hm a p S ht har
  · -- A flight that was waited for keeps its landing to the end of the run.
    rintro a f S rfl har p hl
    obtain ⟨-, h₂, -, -, hstep, run₂⟩ := run.split hm
    have hland := ((Run.single hstep).append run₂).landing? hv.consistent hl
    obtain ⟨fl, hfl, hl⟩ := landing?_eq_some.mp hland
    obtain ⟨fl₀, hfl₀, hr₀, -⟩ : m.before.Shares a f :=
      hv.consistent.sound ht (q := ⟨a, .wait f⟩) (List.mem_cons_self ..)
    obtain ⟨l, hfl'⟩ := ((Run.single hstep).append run₂).flight hfl₀
    obtain rfl := Option.some.inj (hfl'.symm.trans hfl)
    have hno := hcrash _ (List.mem_of_getElem? hfl) (hr₀.trans har)
    rw [hl] at hno
    cases hno

/-- The constructors of a slot that were started, and those that were told of and are still to be
started, are as many as the constructions that were told. -/
theorem Run.count_starts (s : Slot) :
    h.countP (Move.starts r s) + total (Thread.unstarted r s) w.threads =
      (events r s h).count .construct := by
  rw [count_construct_events]
  apply run.balance fresh fun _ => rfl
  intro m hm th th' hv ht ht' turn
  refine turn.balance_unstarted (hv.proper _ _ ht) ht ?_ ?_ ?_
  · intro reg hr hno
    cases hno.symm.trans (hatt.attached m hm reg hr)
  · rintro a p S rfl har
    exact hset m hm a p S ht har
  · rintro p a next S rfl
    exact hatt.calm m hm p a next S ht

end Balance

end World

end InstanceRegistry
