import InstanceRegistry.Proofs.Failure
import InstanceRegistry.Proofs.Singleton

/-!
# Calls after a failure

A failed flight does not stand in the way of later calls. A call on an empty slot that
meets no other call on the slot takes off with a flight of its own and comes to its own
constructor, unless its observer panics before; if the constructor returns an instance,
the instance is stored and the call returns it. On its way the call never has to wait,
and it makes a bounded number of steps apart from those of the code that it runs.
-/

namespace InstanceRegistry

variable {σ : Type}

/-- The steps that a request which need not wait has still to make, those of the code it runs
apart. -/
def Phase.left : Phase → Nat
  | .check => 9
  | .identify => 8
  | .board _ => 7
  | .recheck _ => 6
  | .build _ => 4
  | .keep _ _ | .wait _ => 3
  | .land _ _ => 2
  | .settle _ _ | .finish _ => 1
  | .announce _ _ next => next.left + 1

/-- Three steps at most are left after a constructor. -/
theorem Outcome.left_conclude (o : Outcome) (s : Slot) (f : FlightId) :
    (o.conclude s f).left ≤ 3 :=
  o.conclude_induct (K := fun p => p.left ≤ 3) s f (fun _ => Nat.le_refl 3)
    (fun _ _ => Nat.le_refl 3) fun _ => Nat.le_succ 2

/-- The request is on the slot. -/
def Request.On (q : Request) (r : RegistryId) (s : Slot) : Prop :=
  q.accessor.registry = r ∧ q.accessor.slot = s

/-- At most one request on the slot is under way. -/
def World.Lone (w : World σ) (r : RegistryId) (s : Slot) : Prop :=
  ∀ (t u : ThreadId) (x y : Thread σ) (i j : Nat) (q q' : Request),
    w.threads[t]? = some x → x.requests[i]? = some q → q.On r s →
    w.threads[u]? = some y → y.requests[j]? = some q' → q'.On r s → t = u ∧ i = j

/-- The move is a step of a request of the thread at the given depth of its stack. -/
def Move.isRequest (m : Move σ) (t : ThreadId) (depth : Nat) : Bool :=
  m.thread == t &&
    match m.actor? with
    | some ⟨.requesting _ _, S⟩ => S.length == depth
    | _ => false

/-- How often a request of the thread at the given depth made a step. -/
def requestMoves (t : ThreadId) (depth : Nat) (h : List (Move σ)) : Nat :=
  h.countP fun m => m.isRequest t depth

/-- Where the request of an accessor on top of a stack stands: its phase, and how many steps it has
still to make. It may run its observer or its constructor meanwhile; it has not waited for the
flight of another. -/
inductive Thread.At (a : Accessor) (S : List (Frame σ)) : Thread σ → Phase → Nat → Prop
  | asking {p} (hp : ∀ event fault f l, p ≠ .announce event fault (.settle f l)) :
      At a S ⟨.requesting a p, S⟩ p p.left
  | observing {th f next} (he : Exposed f next) (h : .observation a next :: S <:+ th.stack) :
      At a S th next next.left
  | making {th f} (h : .construction a f :: S <:+ th.stack) : At a S th (.build f) 3

/-- The request is under way in its thread. -/
theorem Thread.At.mem_requests {a : Accessor} {S : List (Frame σ)} {th : Thread σ} {p : Phase}
    {n : Nat} (h : th.At a S p n) : ⟨a, p.core⟩ ∈ th.requests := by
  have hframe {fr : Frame σ} {q : Request} {th : Thread σ} (hs : fr :: S <:+ th.stack)
      (hq : fr.request? = some q) : q ∈ th.requests :=
    List.mem_append_right _ (List.mem_filterMap.mpr ⟨fr, hs.mem (List.mem_cons_self ..), hq⟩)
  cases h with
  | asking => exact List.mem_cons_self ..
  | observing he h => exact hframe h rfl
  | making h => exact hframe h rfl

/-- A flight in which nothing was found was broken at its start, or ran its constructor and landed
with an instance that this returned. -/
theorem Course.made_of_not_found {a : Accessor} {f : FlightId} {I : List Incident} {l : Landing}
    (h : Course a f I l) (hn : ∀ x, .found f x ∉ I) :
    (∃ p, .broken (.build f) f p ∈ I ∧ l = .crash p) ∨
      ∃ made, .concluded a f made ∈ I ∧
        ∀ x, made = .returned x none → l = .value (a.slot.type.box x) := by
  cases h with
  | found | spoilt => exact (hn _ (List.mem_cons_self ..)).elim
  | refused => exact Or.inl ⟨_, List.mem_cons_self .., rfl⟩
  | stored =>
      refine Or.inr ⟨_, List.mem_cons_self .., ?_⟩
      rintro x ⟨⟩
      rfl
  | failed hk | dropped hk =>
      refine Or.inr ⟨_, List.mem_cons_self .., ?_⟩
      rintro x rfl
      cases hk

namespace World

variable {P : Program σ} {t u : ThreadId} {v w w' : World σ} {th th' : Thread σ} {a : Accessor}
  {S : List (Frame σ)} {f : FlightId} {h : List (Move σ)}

/-- What lies on a stack stays there until an outcome is handed to it. -/
theorem Turn.suffix {fr : Frame σ} (turn : Turn P t w w' th th') (hS : fr :: S <:+ th.stack) :
    fr :: S <:+ th'.stack ∨ ∃ o, th = ⟨.returning o, fr :: S⟩ := by
  cases turn with
  | resume | answer | pass | conclude | observed | crash | interrupt =>
      rcases List.suffix_cons_iff.mp hS with heq | hS
      · exact Or.inr ⟨_, by rw [heq]⟩
      · exact Or.inl hS
  | call =>
      left
      split
      · exact hS.trans ((List.suffix_cons _ _).trans (List.suffix_cons _ _))
      · exact hS.trans (List.suffix_cons _ _)
  | notify | build | announce => exact Or.inl (hS.trans (List.suffix_cons _ _))
  | _ => exact Or.inl hS

/-- The flight took off after the world `v`, and the thread led it from there for the accessor. -/
def Launched (v w : World σ) (t : ThreadId) (a : Accessor) (f : FlightId) : Prop :=
  v.flights[f]? = none ∧ ∃ fl, w.flights[f]? = some fl ∧ fl.leader = t ∧
    fl.registry = a.registry ∧ fl.slot = a.slot

theorem Launched.step (hl : Launched v w t a f) (hs : w.step P u = some w') :
    Launched v w' t a f := by
  obtain ⟨hv, fl, hfl, ht⟩ := hl
  obtain ⟨l, hl⟩ := flight_step hs hfl
  exact ⟨hv, _, hl, ht⟩

/-- What is known of a call that started in the world `v`, by the phase of its request. The
history is that since the start. -/
def OnWay (v : World σ) (h : List (Move σ)) (w : World σ) (t : ThreadId) (a : Accessor) :
    Phase → Prop
  | .check | .identify | .board _ => w.stored? a.registry a.slot = none
  | .recheck f =>
    w.stored? a.registry a.slot = none ∧ Launched v w t a f ∧ ∀ x, .found f x ∉ incidents f h
  | .build f | .keep f _ | .land f _ => Launched v w t a f ∧ ∀ x, .found f x ∉ incidents f h
  | .settle f l =>
    Launched v w t a f ∧ (∀ x, .found f x ∉ incidents f h) ∧ w.landing? f = some l ∧
      Course a f (incidents f h) l
  | .wait _ | .finish _ | .announce _ _ _ => False

/-- Nothing is stored under the slot of a lone request, unless the request stores it. -/
theorem Lone.stored?_step (hlone : w.Lone a.registry a.slot) (ht : w.threads[t]? = some th)
    {p : Phase} (hq : ⟨a, p⟩ ∈ th.requests) (hp : ∀ f x, p ≠ .keep f x)
    (hs : w.step P u = some w') :
    w'.stored? a.registry a.slot = w.stored? a.registry a.slot := by
  obtain ⟨x, x', R, R', hx, hth, hR, hR', i, hi, hsh⟩ := step_shift hs
  cases hsh with
  | idle ha | opens ha | closes ha | advance ha => exact ha.stored _ _
  | identify hs | takeOff hs | land hs => exact hs _ _
  | @keep b f y R hid hii hf hs =>
      rw [hs, if_neg]
      rintro ⟨hr, hsl⟩
      obtain ⟨j, hj⟩ := List.mem_iff_getElem?.mp hq
      obtain ⟨rfl, rfl⟩ := hlone u t x th 0 j ⟨b, .keep f y⟩ ⟨a, p⟩ hx (by simp [hR])
        ⟨hr.symm, hsl.symm⟩ ht hj ⟨rfl, rfl⟩
      obtain rfl := Option.some.inj (hx.symm.trans ht)
      rw [hR] at hj
      exact hp f y (Request.mk.inj (Option.some.inj hj)).2.symm

/-- Only the leader of a flight finds an instance in it, and only when it looks again. -/
theorem found_cases (hs : w.step P u = some w') {x : Value}
    (hi : w.incident? u = some (.found f x)) :
    ∃ y b, w.threads[u]? = some y ∧ ⟨b, .recheck f⟩ ∈ y.requests ∧
      w.stored? b.registry b.slot = some x := by
  obtain ⟨y, y', R, R', hy, hth, hR, hR', j, hj, hsh⟩ := step_shift hs
  obtain rfl := hj.symm.trans hi
  cases hsh with
  | @advance b j p p' R ha hadv =>
      cases hadv with
      | find hv => exact ⟨y, b, hy, by simp [hR], hv⟩

/-- No instance is found in the flight of a request that found none. -/
theorem not_found_step (hw : w.Valid) (ht : w.threads[t]? = some th) {p : Phase}
    (hq : ⟨a, p⟩ ∈ th.requests) (hf : p.flight? = some f)
    (hn : p = .recheck f → w.stored? a.registry a.slot = none) (hs : w.step P u = some w')
    (hh : ∀ x, .found f x ∉ incidents f h) (x : Value) :
    .found f x ∉ incidents f (h ++ [⟨u, w, w'⟩]) := by
  rw [incidents_append, List.mem_append]
  rintro (hm | hm)
  · exact hh x hm
  · obtain ⟨m, hm, hi, -⟩ := mem_incidents.mp hm
    obtain rfl := List.mem_singleton.mp hm
    obtain ⟨y, b, hy, hb, hx⟩ := found_cases hs hi
    obtain ⟨fl, hfl, -, hr, hsl, -⟩ := (hw.consistent.sound ht hq).leads hf
    obtain ⟨fl', hfl', -, hr', hsl', -⟩ := (hw.consistent.sound hy hb).leads rfl
    obtain rfl := Option.some.inj (hfl.symm.trans hfl')
    obtain ⟨-, heq⟩ := hw.consistent.request_unique ht hq hf hy hb rfl (hr.symm.trans hr')
      (hsl.symm.trans hsl')
    obtain ⟨rfl, rfl⟩ := Request.mk.inj heq
    simp [hn rfl] at hx

/-- What is known of a lone call in some phase is known after every step. -/
theorem OnWay.step {p : Phase} (hp : OnWay v h w t a p) (hw : w.Valid)
    (hlone : w.Lone a.registry a.slot) (ht : w.threads[t]? = some th)
    (hq : ⟨a, p⟩ ∈ th.requests) (hs : w.step P u = some w') :
    OnWay v (h ++ [⟨u, w, w'⟩]) w' t a p := by
  cases p with
  | check | identify | board =>
      exact (hlone.stored?_step ht hq (by simp) hs).trans hp
  | recheck f =>
      obtain ⟨hn, hl, hh⟩ := hp
      exact ⟨(hlone.stored?_step ht hq (by simp) hs).trans hn, hl.step hs,
        not_found_step hw ht hq rfl (fun _ => hn) hs hh⟩
  | build f | keep f x | land f l =>
      obtain ⟨hl, hh⟩ := hp
      exact ⟨hl.step hs, not_found_step hw ht hq rfl (by simp) hs hh⟩
  | settle f l =>
      obtain ⟨hl, hh, hland, hc⟩ := hp
      have hI : incidents f (h ++ [⟨u, w, w'⟩]) = incidents f h := by
        rw [incidents_append, (Run.single hs).incidents_of_landed hw.consistent hland,
          List.append_nil]
      exact ⟨hl.step hs, hI ▸ hh, hw.consistent.landing?_step hs hland, hI ▸ hc⟩
  | wait | finish | announce => exact hp.elim

/-- A step adds one at most to the steps of a request. -/
theorem requestMoves_append_le (t : ThreadId) (d : Nat) (h : List (Move σ)) (m : Move σ) :
    requestMoves t d (h ++ [m]) ≤ requestMoves t d h + 1 := by
  rw [requestMoves, List.countP_append, List.countP_singleton]
  split <;> simp [requestMoves]

/-- The steps of other threads, and those of code on top of the request, do not count. -/
theorem requestMoves_append_of_not {d : Nat} {m : Move σ} (hm : m.isRequest t d = false) :
    requestMoves t d (h ++ [m]) = requestMoves t d h := by
  simp [requestMoves, List.countP_append, hm]

theorem isRequest_of_suffix {fr : Frame σ} (ht : w.threads[t]? = some th)
    (hS : fr :: S <:+ th.stack) : (⟨t, w, w'⟩ : Move σ).isRequest t S.length = false := by
  obtain ⟨focus, S'⟩ := th
  have hlen : S.length < S'.length := hS.length_le
  cases focus with
  | requesting b p => simp [Move.isRequest, Move.actor?, ht]; omega
  | running | returning => simp [Move.isRequest, Move.actor?, ht]

/-- A call that started in the world `v`: its request is under way with a bounded number of steps
left, or it is over and was settled on the landing of a flight of its own. -/
inductive Attempt (v : World σ) (t : ThreadId) (a : Accessor) (S : List (Frame σ))
    (h : List (Move σ)) (w : World σ) : Prop
  | underway {th p n} (ht : w.threads[t]? = some th) (hat : th.At a S p n)
      (hp : OnWay v h w t a p.core) (hc : requestMoves t S.length h + n ≤ 9)
  | settled {f l} (ht : w.threads[t]? = some ⟨.returning (l.settle a.slot.type), S⟩)
      (hp : OnWay v h w t a (.settle f l)) (hc : requestMoves t S.length h ≤ 9)

/-- A request that can run its observer next leads a flight that the observer can break. -/
theorem OnWay.exposed {event : Event} {fault : Option Fault} {next : Phase}
    (hp : OnWay v h w t a next.core) (hn : Announced event fault next)
    (hd : ∀ f l, next ≠ .settle f l) : ∃ f, Exposed f next := by
  cases hn with
  | hit => exact hp.elim
  | join => exact (hd _ _ rfl).elim
  | found => exact ⟨_, .found⟩
  | construct => exact ⟨_, .build⟩
  | failure => exact ⟨_, .failed⟩

/-- No other flight of the slot is in the air when a lone request comes to board. -/
theorem Lone.inFlight?_eq_none (hlone : w.Lone a.registry a.slot) (hw : w.Valid)
    (hfit : w.IdsFit a.registry) {id : String}
    (ht : w.threads[t]? = some ⟨.requesting a (.board id), S⟩) :
    w.inFlight? a.registry id = none := by
  cases hin : w.inFlight? a.registry id with
  | none => rfl
  | some g =>
      obtain ⟨fl, hfl, hr, rfl, hn⟩ := hw.consistent.listed hin
      have hid : w.id? a.registry a.slot = some fl.id :=
        hw.consistent.sound ht (q := ⟨a, .board fl.id⟩) (List.mem_cons_self ..)
      have hslot : fl.slot = a.slot :=
        hw.numbered.slot_eq hfit (hr ▸ hw.consistent.named hfl) hid
      -- The leader is inside of the flight with a request on the slot.
      obtain ⟨-, y, hy, hg⟩ := hw.consistent.led hfl hn
      obtain ⟨q, hq, hqg⟩ := mem_leads.mp hg
      obtain ⟨fl', hfl', -, hqr, hqs, -⟩ := (hw.consistent.sound hy hq).leads hqg
      obtain rfl := Option.some.inj (hfl.symm.trans hfl')
      obtain ⟨j, hj⟩ := List.mem_iff_getElem?.mp hq
      obtain ⟨rfl, rfl⟩ := hlone _ t y _ j 0 q ⟨a, .board fl.id⟩ hy hj
        ⟨hqr.symm.trans hr, hqs.symm.trans hslot⟩ ht rfl ⟨rfl, rfl⟩
      obtain rfl := Option.some.inj (hy.symm.trans ht)
      obtain rfl := Option.some.inj hj
      cases hqg

section Attempt

variable {h₀ : List (Move σ)} {id : String} (hw : w.Valid) (hlone : w.Lone a.registry a.slot)
include hw hlone

/-- A lone call goes on with every step of its request. -/
theorem Attempt.ask {p : Phase} (run : Run P v h w) (hch : ∀ f, Charted f (h₀ ++ h) w)
    (hcr : ∀ f, Credited f (h₀ ++ h) w)
    (hold : ∀ f, v.flights[f]? = none → incidents f h₀ = []) (hfit : w.IdsFit a.registry)
    (hid : w.id? a.registry a.slot = some id)
    (ht : w.threads[t]? = some ⟨.requesting a p, S⟩)
    (hd : ∀ event fault f l, p ≠ .announce event fault (.settle f l))
    (hp : OnWay v h w t a p.core) (hc : requestMoves t S.length h + p.left ≤ 9)
    (hs : w.step P t = some w') : Attempt v t a S (h ++ [⟨t, w, w'⟩]) w' := by
  have hp' := hp.step hw hlone ht (List.mem_cons_self ..) hs
  have hcount := requestMoves_append_le t S.length h ⟨t, w, w'⟩
  obtain ⟨reg, hr, -⟩ := Option.bind_eq_some_iff.mp hid
  obtain ⟨x', hx', turn⟩ := turn_of_step ht hs
  -- Where the request goes on, it has fewer steps left than before.
  have goes {q : Phase} (hq' : w'.threads[t]? = some ⟨.requesting a q, S⟩)
      (hd : ∀ event fault f l, q ≠ .announce event fault (.settle f l))
      (hq : OnWay v (h ++ [⟨t, w, w'⟩]) w' t a q.core) (hlt : q.left < p.left) :
      Attempt v t a S (h ++ [⟨t, w, w'⟩]) w' :=
    .underway hq' (.asking hd) hq (by omega)
  cases turn with
  | lost hq hn => cases hn.symm.trans hr
  | hit hq hr' hv =>
      rw [← stored?_of_get hr'] at hv
      cases hv.symm.trans hp
  | miss => exact goes hx' (by simp) hp' (by simp [Phase.left])
  | identify => exact goes hx' (by simp) hp' (by simp [Phase.left])
  | refuse hr' hi =>
      obtain ⟨hb, -⟩ := Registry.identify_error hi
      simp [hw.numbered.writable hid hr'] at hb
  | join hq hr' hf =>
      have hin := hlone.inFlight?_eq_none hw hfit ht
      rw [inFlight?_of_get hr', hf] at hin
      cases hin
  | @takeOff _ _ _ id' hr' hn hset' hfs =>
      have hfl : w'.flights[w.flights.length]? = some ⟨a.registry, a.slot, id', t, none⟩ := by
        simp [hfs]
      refine goes hx' (by simp) ⟨hp', ⟨?_, _, hfl, rfl, rfl, rfl⟩, ?_⟩ (by simp [Phase.left])
      · cases hv : v.flights[w.flights.length]? with
        | none => rfl
        | some fl =>
            obtain ⟨l, hl⟩ := run.flight hv
            simp at hl
      · -- Nothing has happened yet in a flight whose leader looks again.
        have hnil : incidents w.flights.length (h₀ ++ h ++ [⟨t, w, w'⟩]) = [] :=
          ((hch w.flights.length).step hw hcr hs).led hx' (List.mem_cons_self ..) rfl
        rw [List.append_assoc, incidents_append, List.append_eq_nil_iff] at hnil
        simp [hnil.2]
  | share | release | finish => exact hp.elim
  | find hq hr' hv =>
      rw [← stored?_of_get hr'] at hv
      cases hv.symm.trans hp.1
  | clear => exact goes hx' (by simp) hp'.2 (by simp [Phase.left])
  | build =>
      simp only [Phase.left] at hc
      exact .underway hx' (.making (List.suffix_refl _)) hp' (by omega)
  | keep => exact goes hx' (by simp) hp' (by simp [Phase.left])
  | spill hq hr' hb => simp [hw.numbered.writable hid hr'] at hb
  | @land _ _ _ f flight l =>
      obtain ⟨-, -, -, -, -, -, -, hland⟩ := hw.landing_step hs ht
      have hi : w.incident? t = none := by rw [World.incident?, ht]
      have hcourse : Course a f (incidents f (h₀ ++ h)) l :=
        (hch f).led ht (q := ⟨a, .land f l⟩) (List.mem_cons_self ..) rfl
      have hquiet : incidents f (h ++ [⟨t, w, w'⟩]) = incidents f h := Charted.incidents_quiet hi
      rw [incidents_append, hold f hp.1.1, List.nil_append, ← hquiet] at hcourse
      exact goes hx' (by simp) ⟨hp'.1, hp'.2, hland, hcourse⟩ (by simp [Phase.left])
  | settle =>
      simp only [Phase.left] at hc
      exact .settled hx' hp' (by omega)
  | @skip _ _ event fault next =>
      cases hw.proper t _ ht with
      | requesting hn hS =>
          exact goes hx' (fun _ _ _ _ he => (hn _ _ _ rfl).ne_announce he) hp'
            (by simp [Phase.left])
  | @announce _ _ event fault next =>
      cases hw.proper t _ ht with
      | requesting hn hS =>
          have hne (f : FlightId) (l : Landing) : next ≠ .settle f l := by
            rintro rfl
            exact hd event fault f l rfl
          have hnext : OnWay v h w t a next.core := hp
          obtain ⟨f, he⟩ := hnext.exposed (hn _ _ _ rfl) hne
          simp only [Phase.left] at hc
          exact .underway hx' (.observing he (List.suffix_refl _)) hp' (by omega)

/-- A lone call goes on where its observer hands back to it. -/
theorem Attempt.observed {f : FlightId} {next : Phase} {o : Outcome} (he : Exposed f next)
    (ht : w.threads[t]? = some ⟨.returning o, .observation a next :: S⟩)
    (hp : OnWay v h w t a next.core) (hc : requestMoves t S.length h + next.left ≤ 9)
    (hs : w.step P t = some w') : Attempt v t a S (h ++ [⟨t, w, w'⟩]) w' := by
  have hp' := hp.step hw hlone ht (List.mem_cons_self ..) hs
  have hcount : requestMoves t S.length (h ++ [⟨t, w, w'⟩]) = requestMoves t S.length h :=
    requestMoves_append_of_not (isRequest_of_suffix ht (List.suffix_refl _))
  obtain ⟨x', hx', turn⟩ := turn_of_step ht hs
  cases turn with
  | observed => exact .underway hx' (.asking (by cases he <;> simp)) hp' (by omega)
  | crash hq hf =>
      cases he with
      | build | found | failed =>
          obtain rfl := Option.some.inj hf
          simp only [Phase.left] at hc
          exact .underway hx' (.asking (by simp)) hp' (by simp only [Phase.left]; omega)
  | interrupt hq hf => cases he <;> cases hf

/-- A lone call goes on where its constructor hands back to it. -/
theorem Attempt.concluded {f : FlightId} {o : Outcome}
    (ht : w.threads[t]? = some ⟨.returning o, .construction a f :: S⟩)
    (hp : OnWay v h w t a (.build f)) (hc : requestMoves t S.length h + 3 ≤ 9)
    (hs : w.step P t = some w') : Attempt v t a S (h ++ [⟨t, w, w'⟩]) w' := by
  have hp' := hp.step hw hlone ht (List.mem_cons_self ..) hs
  have hcount : requestMoves t S.length (h ++ [⟨t, w, w'⟩]) = requestMoves t S.length h :=
    requestMoves_append_of_not (isRequest_of_suffix ht (List.suffix_refl _))
  obtain ⟨x', hx', turn⟩ := turn_of_step ht hs
  cases turn with
  | conclude =>
      have hleft := o.left_conclude a.slot f
      refine .underway hx' (.asking fun event fault g l heq => ?_) ?_ (by omega)
      · have hcore := congrArg Phase.core heq
        obtain ⟨y, -, hk⟩ | ⟨k, -, -, hk⟩ := o.conclude_core a.slot f
        · cases hk.symm.trans hcore
        · cases hk.symm.trans hcore
      · obtain ⟨y, -, hk⟩ | ⟨k, -, -, hk⟩ := o.conclude_core a.slot f
        · rw [hk]
          exact hp'
        · rw [hk]
          exact hp'

/-- A lone call that is not over goes on with every step. -/
theorem Attempt.step (hA : Attempt v t a S h w) (run : Run P v h w)
    (hch : ∀ f, Charted f (h₀ ++ h) w) (hcr : ∀ f, Credited f (h₀ ++ h) w)
    (hold : ∀ f, v.flights[f]? = none → incidents f h₀ = [])
    (hfit : w.IdsFit a.registry) (hid : w.id? a.registry a.slot = some id)
    (hnot : ∀ o, w.threads[t]? ≠ some ⟨.returning o, S⟩) (hs : w.step P u = some w') :
    Attempt v t a S (h ++ [⟨u, w, w'⟩]) w' := by
  cases hA with
  | settled ht => exact (hnot _ ht).elim
  | @underway th p n ht hat hp hc =>
      have hp' := hp.step hw hlone ht hat.mem_requests hs
      obtain ⟨x, x', hx, hset, turn⟩ := step_turn hs
      have hth := getElem?_threads_set hx hset
      by_cases hu : u = t
      · subst hu
        obtain rfl := Option.some.inj (ht.symm.trans hx)
        have hx' : w'.threads[u]? = some x' := by simp [hth]
        cases hat with
        | asking hd => exact Attempt.ask hw hlone run hch hcr hold hfit hid ht hd hp hc hs
        | observing he hS =>
            rcases turn.suffix hS with hS' | ⟨o, rfl⟩
            · refine .underway hx' (.observing he hS') hp' ?_
              rwa [requestMoves_append_of_not (isRequest_of_suffix ht hS)]
            · exact Attempt.observed hw hlone he ht hp hc hs
        | making hS =>
            rcases turn.suffix hS with hS' | ⟨o, rfl⟩
            · refine .underway hx' (.making hS') hp' ?_
              rwa [requestMoves_append_of_not (isRequest_of_suffix ht hS)]
            · exact Attempt.concluded hw hlone ht hp hc hs
      · refine .underway (by simpa [hth, Ne.symm hu] using ht) hat hp' ?_
        rwa [requestMoves_append_of_not (by simp [Move.isRequest, hu])]

end Attempt

/-- A call that meets no other call on its slot stays a lone call through a run. -/
theorem Run.attempt {w₀ : World σ} {h₀ : List (Move σ)} {id : String} (run₀ : Run P w₀ h₀ v)
    (fresh : w₀.Fresh) (hid : v.id? a.registry a.slot = some id)
    (hn : v.stored? a.registry a.slot = none)
    (ht : v.threads[t]? = some ⟨.requesting a .check, S⟩) (run : Run P v h w)
    (hfit : w.IdsFit a.registry) (hlone : ∀ m ∈ h, m.before.Lone a.registry a.slot)
    (hnot : ∀ m ∈ h, ∀ o, m.before.threads[t]? ≠ some ⟨.returning o, S⟩) :
    Attempt v t a S h w := by
  induction run with
  | start => exact .underway ht (.asking (by simp)) hn (Nat.le_refl 9)
  | @step h w u w' run hs ih =>
      have hA := ih (hfit.of_step hs) (fun m hm => hlone m (List.mem_append_left _ hm))
        (fun m hm => hnot m (List.mem_append_left _ hm))
      have run' := run₀.append run
      have hlast : (⟨u, w, w'⟩ : Move σ) ∈ h ++ [⟨u, w, w'⟩] := by simp
      exact hA.step (run'.valid fresh) (hlone _ hlast) run (run'.charted fresh)
        (run'.credited fresh) (fun f hf => (run₀.charted fresh f).ahead hf) (hfit.of_step hs)
        (run.id? hid) (hnot _ hlast) hs

/-- What a call on an empty slot that meets no other call on the slot comes to. -/
structure LoneCall (P : Program σ) (v : World σ) (t : ThreadId) (a : Accessor)
    (S : List (Frame σ)) (h : List (Move σ)) (w : World σ) : Prop where
  /-- Only code that the call runs can hold it up. -/
  going : (∃ o, w.threads[t]? = some ⟨.returning o, S⟩) ∨ (∃ w', w.step P t = some w') ∨
    ∃ th fr p, w.threads[t]? = some th ∧ fr.request? = some ⟨a, p⟩ ∧ fr :: S <:+ th.stack
  bounded : requestMoves t S.length h ≤ 9
  /-- The call ends in a new flight of its own: the observer broke it at the start, or the
  constructor of the call ran, and an instance that it returned is stored. -/
  ended : ∀ o, w.threads[t]? = some ⟨.returning o, S⟩ → ∃ f, Launched v w t a f ∧
    ((∃ p, .broken (.build f) f p ∈ incidents f h ∧ o = .panicked (.flight p)) ∨
      ∃ made, .concluded a f made ∈ incidents f h ∧ ∀ x, made = .returned x none →
        o = .returned (a.slot.type.unbox (a.slot.type.box x)) none ∧
          w.stored? a.registry a.slot = some (a.slot.type.box x))

/-- A lone request can make its next step. -/
theorem OnWay.exists_step {p : Phase} (hp : OnWay v h w t a p.core)
    (ht : w.threads[t]? = some ⟨.requesting a p, S⟩) : ∃ w', w.step P t = some w' := by
  cases hs : w.step P t with
  | some w' => exact ⟨w', rfl⟩
  | none =>
      cases stuck_of_step_eq_none ht hs with
      | waiting => exact hp.elim
      | adrift hn =>
          obtain ⟨⟨-, fl, hfl, -⟩, -⟩ := hp
          cases hn.symm.trans hfl

/-- What an attempt is known to have come to. -/
theorem Attempt.loneCall (hA : Attempt v t a S h w) (c : w.Consistent) :
    LoneCall P v t a S h w := by
  cases hA with
  | underway ht hat hp hc =>
      refine ⟨Or.inr ?_, by omega, fun o ho => ?_⟩
      · cases hat with
        | asking => exact Or.inl (hp.exists_step ht)
        | observing he hS => exact Or.inr ⟨_, _, _, ht, rfl, hS⟩
        | making hS => exact Or.inr ⟨_, _, _, ht, rfl, hS⟩
      · obtain rfl := Option.some.inj (ht.symm.trans ho)
        cases hat with
        | observing _ hS | making hS => exact absurd hS.length_le (by simp)
  | @settled f l ht hp hc =>
      refine ⟨Or.inl ⟨_, ht⟩, hc, fun o ho => ?_⟩
      cases ht.symm.trans ho
      obtain ⟨hl, hfound, hland, hcourse⟩ := hp
      refine ⟨f, hl, ?_⟩
      rcases hcourse.made_of_not_found hfound with ⟨p, hb, rfl⟩ | ⟨made, hmade, hvalue⟩
      · exact Or.inl ⟨p, hb, rfl⟩
      · refine Or.inr ⟨made, hmade, fun x hx => ?_⟩
        obtain rfl := hvalue x hx
        obtain ⟨-, fl, hfl, -, hr, hs⟩ := hl
        obtain ⟨fl', hfl', hl'⟩ := landing?_eq_some.mp hland
        obtain rfl := Option.some.inj (hfl.symm.trans hfl')
        have hkept := c.kept hfl hl'
        rw [hr, hs] at hkept
        exact ⟨rfl, hkept⟩

/-- A failed flight poisons nothing. When it has landed, nothing is stored under its slot, its
entry in the table of flights is gone and the slot has the identifier that it always had; the
steps of the flight itself changed nothing else in the registries. A later call on the slot that
meets no other call on it, while the slot is still empty, is a call as on a new registry: it runs
its own constructor in a flight of its own, and stores and returns the instance that this makes.

A registry numbers its slots with words of 64 bits, and it has not given out all of these
numbers. -/
theorem Run.no_poisoning {w₀ : World σ} (run : Run P w₀ h w) (fresh : w₀.Fresh) {m : Move σ}
    (hm : m ∈ h) (hl : m.Lands f) {i : Incident} (hi : i ∈ incidents f h) (hf : i.Fails)
    {fl : Flight} (hfl : w.flights[f]? = some fl) :
    (m.after.stored? fl.registry fl.slot = none ∧ m.after.inFlight? fl.registry fl.id = none ∧
      m.after.id? fl.registry fl.slot = some fl.id ∧
      ∀ m' ∈ h, ∀ id, m'.before.id? fl.registry fl.slot = some id → id = fl.id) ∧
    (∀ m' ∈ h, m'.IsOf f → m'.OnlyLists f fl) ∧
    ∀ (t : ThreadId) (a : Accessor) (S : List (Frame σ)) (h' : List (Move σ)) (w' : World σ),
      a.registry = fl.registry → a.slot = fl.slot → w.stored? fl.registry fl.slot = none →
      w.threads[t]? = some ⟨.requesting a .check, S⟩ → Run P w h' w' → w'.IdsFit fl.registry →
      (∀ m' ∈ h', m'.before.Lone fl.registry fl.slot) →
      (∀ m' ∈ h', ∀ o, m'.before.threads[t]? ≠ some ⟨.returning o, S⟩) →
      LoneCall P w t a S h' w' := by
  have htables := run.tables_of_failure fresh hm hl hi hf hfl
  refine ⟨htables, fun m' hm' => run.onlyLists_of_failure fresh hm hl hi hf hfl hm', ?_⟩
  intro t a S h' w' hr hs hn ht run' hfit hlone hnot
  obtain ⟨h₁, h₂, -, run₁, hstep, run₂⟩ := run.split hm
  have hid : w.id? fl.registry fl.slot = some fl.id := run₂.id? htables.2.2.1
  rw [← hr, ← hs] at hn hid hlone
  rw [← hr] at hfit
  have hA := run.attempt fresh hid hn ht run' hfit hlone hnot
  exact hA.loneCall ((run.append run').consistent fresh)

end World

/-- At most one request is under way on any slot if there is at most one at all. -/
theorem World.lone_of_length_le {w : World σ} (r : RegistryId) (s : Slot)
    (h : (w.threads.flatMap Thread.requests).length ≤ 1) : w.Lone r s := by
  intro t u x y i j q q' hx hi _ hy hj _
  generalize w.threads = l at h hx hy
  induction l generalizing t u with
  | nil => simp at hx
  | cons z l ih =>
      rw [List.flatMap_cons, List.length_append] at h
      -- A request of a thread counts for the threads of the list.
      have hpos {k n : Nat} {x : Thread σ} {q : Request} (hx : l[k]? = some x)
          (hq : x.requests[n]? = some q) : 0 < (l.flatMap Thread.requests).length :=
        List.length_pos_of_mem
          (List.mem_flatMap.mpr ⟨x, List.mem_of_getElem? hx, List.mem_of_getElem? hq⟩)
      cases t with
      | zero =>
          obtain rfl := Option.some.inj hx
          have hlen := (List.getElem?_eq_some_iff.mp hi).1
          cases u with
          | zero =>
              obtain rfl := Option.some.inj hy
              have hlen' := (List.getElem?_eq_some_iff.mp hj).1
              exact ⟨rfl, by omega⟩
          | succ u =>
              have := hpos hy hj
              omega
      | succ t =>
          have := hpos hx hi
          cases u with
          | zero =>
              obtain rfl := Option.some.inj hy
              have hlen := (List.getElem?_eq_some_iff.mp hj).1
              omega
          | succ u =>
              obtain ⟨rfl, rfl⟩ := ih t u (by omega) hx hy
              exact ⟨rfl, rfl⟩

namespace Sample

/-- An accessor of the same slot with another constructor. -/
def other : Accessor := { accessor with maker := 1 }

/-- The first constructor panics, the others return an instance. -/
def fickle : Program Unit := { program seven with maker := fun k => if k = 0 then boom else seven }

/-- The call of the first thread is over, and the second thread has called. -/
def early : List ThreadId := List.replicate 14 0 ++ [1]

/-- The second thread goes on to the end of its call. -/
def late : List ThreadId := List.replicate 11 1

/-- The world in which the first call has failed. -/
def failed : World Unit := (callers accessor other).run fickle early

/-- The steps of the second call. -/
def secondCall : List (Move Unit) := failed.history fickle late

/-- The world in which the second call is over as well. -/
def recovered : World Unit := failed.run fickle late

/-- A thread whose only call is over. -/
def isOver : Thread Unit → Bool
  | ⟨.returning _, [_]⟩ => true
  | _ => false

theorem going_of_isOver {h : List (Move Unit)} {t : ThreadId} {fr : Frame Unit}
    (hopen : ∀ m ∈ h, m.before.threads[t]?.any isOver = false) :
    ∀ m ∈ h, ∀ o, m.before.threads[t]? ≠ some ⟨.returning o, [fr]⟩ := by
  intro m hm o ho
  have hover := hopen m hm
  rw [ho] at hover
  cases hover

end Sample

/-- After a constructor that panicked, the next call makes and stores its own instance. -/
theorem World.Run.no_poisoning_boom :
    Sample.failed.stored? 0 Sample.slot = none ∧
      ∃ fr, Sample.failed.threads[1]? = some ⟨.requesting Sample.other .check, [fr]⟩ ∧
        LoneCall Sample.fickle Sample.failed 1 Sample.other [fr] Sample.secondCall
          Sample.recovered ∧
        Sample.recovered.threads[1]? = some ⟨.returning (.returned (.number 7) none), [fr]⟩ := by
  let h := (Sample.callers Sample.accessor Sample.other).history Sample.fickle Sample.early
  obtain ⟨m, hm, hl⟩ : ∃ m, h[10]? = some m ∧ m.Lands 0 := ⟨_, rfl, _, _, _, rfl⟩
  have hi : .concluded Sample.accessor 0 (.panicked (.text "boom")) ∈ incidents 0 h :=
    List.mem_cons_self ..
  obtain ⟨fl, hfl, hr, hs⟩ : ∃ fl, Sample.failed.flights[0]? = some fl ∧ fl.registry = 0 ∧
      fl.slot = Sample.slot := ⟨_, rfl, rfl, rfl⟩
  obtain ⟨fr, ht, hend⟩ : ∃ fr,
      Sample.failed.threads[1]? = some ⟨.requesting Sample.other .check, [fr]⟩ ∧
      Sample.recovered.threads[1]? = some ⟨.returning (.returned (.number 7) none), [fr]⟩ :=
    ⟨_, rfl, rfl⟩
  have hn : Sample.failed.stored? 0 Sample.slot = none := rfl
  have hfit : Sample.recovered.IdsFit 0 := by decide +kernel
  have hone : ∀ m ∈ Sample.secondCall,
      (m.before.threads.flatMap Thread.requests).length ≤ 1 := by decide +kernel
  have hopen : ∀ m ∈ Sample.secondCall, m.before.threads[1]?.any Sample.isOver = false := by
    decide +kernel
  obtain ⟨-, -, hlater⟩ := Run.no_poisoning (World.run_of_schedule _ _ _)
    (Sample.callers_fresh _ _) (List.mem_of_getElem? hm) hl hi trivial hfl
  rw [hr, hs] at hlater
  refine ⟨hn, fr, ht, hlater 1 Sample.other [fr] _ _ rfl rfl hn ht (World.run_of_schedule _ _ _)
    hfit (fun m hm => World.lone_of_length_le 0 Sample.slot (hone m hm))
    (Sample.going_of_isOver hopen), hend⟩

end InstanceRegistry
