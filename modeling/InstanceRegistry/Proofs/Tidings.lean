import InstanceRegistry.Proofs.Sequential

/-!
# What is told of a flight

How the constructor of a flight ended decides what its leader tells as the failure of the flight and
what it lands with, and all who waited are told of the landing. So one failure is told of a flight
that lands with a fault, with the fault that its constructor reported, and whoever waited for the
flight is told of the fault that it landed with.

## Implementation notes

That the failure of a flight is told once is a balance of the run: a failure that is told falls
due, the leader holds it while it stands before its landing, and it is paid when the flight lands.
A flight lands only once.
-/

namespace InstanceRegistry

variable {σ : Type}

/-! ### What is told of a flight -/

/-- The flight that the next step of a thread tells an observer of. -/
def World.subject? (w : World σ) (t : ThreadId) : Option FlightId :=
  match w.threads[t]? with
  | some ⟨.requesting a (.announce _ _ next), _⟩ => Request.party? ⟨a, next⟩
  | _ => none

/-- What the move tells of an event in the flight. -/
def Move.tiding? (f : FlightId) (event : Event) (m : Move σ) : Option Told :=
  m.told?.filter fun x => m.before.subject? m.thread == some f && x.event == event

/-- All that is told of an event in the flight, in the order of a history. -/
def tidings (f : FlightId) (event : Event) (h : List (Move σ)) : List Told :=
  h.filterMap (Move.tiding? f event)

/-- What is told of an event in a flight is an announcement of one who takes part in it. -/
theorem Move.announce_of_tiding? {f : FlightId} {event : Event} {m : Move σ} {x : Told}
    (hx : m.tiding? f event = some x) :
    m.told? = some x ∧ ∃ next S,
      m.actor? = some ⟨.requesting x.accessor (.announce event x.fault next), S⟩ ∧
      Request.party? ⟨x.accessor, next⟩ = some f := by
  simp only [Move.tiding?, Option.filter_eq_some_iff, Bool.and_eq_true, beq_iff_eq] at hx
  obtain ⟨htold, hsubject, rfl⟩ := hx
  obtain ⟨next, S, reg, ht, -, -⟩ := World.announce_of_told? htold
  refine ⟨htold, next, S, ht, ?_⟩
  rwa [World.subject?, ht] at hsubject

/-- A failure is announced before a landing with a fault. -/
theorem Announced.of_failure {fault : Option Fault} {next : Phase}
    (h : Announced .failure fault next) : ∃ f e, next = .land f (.fault e) := by
  cases h with
  | failure => exact ⟨_, _, rfl⟩

/-- A shared flight is announced with the fault of its landing. -/
theorem Announced.of_dedup {fault : Option Fault} {next : Phase} (h : Announced .dedup fault next) :
    ∃ f l, fault = l.fault? ∧ next = .settle f l := by
  cases h with
  | join => exact ⟨_, _, rfl, rfl⟩

/-- What a leader announces after its constructor is the fault that the constructor reported. -/
theorem Outcome.report?_eq {o : Outcome} {s : Slot} {f : FlightId} {event : Event}
    {fault : Option Fault} {next : Phase} (h : o.conclude s f = .announce event fault next) :
    o.report? = fault := by
  obtain ⟨x, -, hk⟩ | ⟨-, ⟨e, e', hr, hk⟩ | ⟨p, -, hk⟩⟩ := o.conclude_cases s f
  · cases hk.symm.trans h
  · obtain ⟨-, rfl, -⟩ := Phase.announce.inj (hk.symm.trans h)
    exact hr
  · cases hk.symm.trans h

namespace World

variable {P : Program σ} {t : ThreadId} {w₀ w w' : World σ} {th : Thread σ} {h : List (Move σ)}
  {a : Accessor} {B : List (Frame σ)}

/-- What a thread is about to tell is what it knows: a failure is the one that its constructor
reported, and a flight that it waited for has not crashed. -/
def Candid (h : List (Move σ)) (w : World σ) : Prop :=
  ∀ (t : ThreadId) (a : Accessor) (event : Event) (fault : Option Fault) (next : Phase)
    (S : List (Frame σ)), w.threads[t]? = some ⟨.requesting a (.announce event fault next), S⟩ →
    (∀ f e, next = .land f (.fault e) →
      ∃ made, .concluded a f made ∈ incidents f h ∧ made.report? = fault) ∧
    ∀ f p, next ≠ .settle f (.crash p)

/-- A thread comes to tell of a failure from its constructor, and of a flight that it waited for
from a landing that is no crash. -/
theorem Turn.candid {event : Event} {fault : Option Fault} {next : Phase}
    (turn : Turn P t w w' th ⟨.requesting a (.announce event fault next), B⟩) (hp : th.Proper) :
    (∀ f e, next = .land f (.fault e) →
      ∃ made, th = ⟨.returning made, .construction a f :: B⟩ ∧ made.report? = fault) ∧
    ∀ f p, next ≠ .settle f (.crash p) := by
  generalize hth' : (⟨.requesting a (.announce event fault next), B⟩ : Thread σ) = th' at turn
  cases turn with
  | @conclude made b g S hq =>
      obtain ⟨hfocus, rfl⟩ := Thread.mk.inj hth'
      obtain ⟨rfl, hann⟩ := Focus.requesting.inj hfocus
      obtain ⟨-, e', rfl⟩ := Outcome.conclude_announce hann.symm
      refine ⟨?_, by simp⟩
      intro f e hnext
      obtain ⟨rfl, -⟩ := Phase.land.inj hnext
      exact ⟨made, rfl, Outcome.report?_eq hann.symm⟩
  | observed hq =>
      cases hp with
      | returning hS =>
          cases hS with
          | observation hn hS =>
              obtain ⟨hfocus, -⟩ := Thread.mk.inj hth'
              obtain ⟨-, hann⟩ := Focus.requesting.inj hfocus
              exact (hn.ne_announce hann.symm).elim
  | skip hq hr ho =>
      cases hp with
      | requesting hp hS =>
          obtain ⟨hfocus, -⟩ := Thread.mk.inj hth'
          obtain ⟨-, hann⟩ := Focus.requesting.inj hfocus
          exact ((hp _ _ _ rfl).ne_announce hann.symm).elim
  | @release b S g l hq hl hn =>
      cases hth'
      refine ⟨by simp, ?_⟩
      intro f p hnext
      obtain ⟨-, rfl⟩ := Phase.settle.inj hnext
      exact hn p rfl
  | hit | find | clear =>
      cases hth'
      exact ⟨by simp, by simp⟩
  | call => split at hth' <;> cases hth'
  | _ => cases hth'

/-- A step keeps what threads are about to tell to what they know. -/
theorem Candid.step (hc : Candid h w) (hw : w.Valid) (hs : w.step P t = some w') :
    Candid (h ++ [⟨t, w, w'⟩]) w' := by
  intro u a event fault next S hu
  obtain ⟨th, th', ht, hset, turn⟩ := step_turn hs
  obtain ⟨rfl, rfl⟩ | ⟨-, hu⟩ := threads_cases (getElem?_threads_set ht hset) hu
  · obtain ⟨hfail, hsettle⟩ := turn.candid (hw.proper _ _ ht)
    refine ⟨?_, hsettle⟩
    intro f e hnext
    obtain ⟨made, rfl, hreport⟩ := hfail f e hnext
    refine ⟨made, mem_incidents.mpr ⟨⟨u, w, w'⟩, by simp, ?_, rfl⟩, hreport⟩
    rw [Move.incident?, incident?, ht]
  · obtain ⟨hfail, hsettle⟩ := hc u a event fault next S hu
    refine ⟨?_, hsettle⟩
    intro f e hnext
    obtain ⟨made, hmade, hreport⟩ := hfail f e hnext
    rw [incidents_append]
    exact ⟨made, List.mem_append_left _ hmade, hreport⟩

theorem Run.candid (run : Run P w₀ h w) (fresh : w₀.Fresh) : Candid h w := by
  refine run.keeps (I := Candid) fresh ?_ fun hw hc hs => hc.step hw hs
  intro t a event fault next S ht
  obtain ⟨c, hstart⟩ := fresh.threads _ (List.mem_of_getElem? ht)
  cases hstart

end World

/-! ### The conclusion of a flight -/

/-- The constructor of a flight that landed ended once. -/
theorem Course.concluded_unique {a b : Accessor} {f : FlightId} {I : List Incident} {l : Landing}
    {made : Outcome} (h : Course a f I l) (hi : .concluded b f made ∈ I) :
    b = a ∧ ∀ c other, .concluded c f other ∈ I → other = made := by
  cases h with
  | found | refused | spoilt => simp at hi
  | stored | failed | dropped =>
      simp only [List.mem_cons, Incident.concluded.injEq, true_and, reduceCtorEq, List.not_mem_nil,
        or_false] at hi
      obtain ⟨rfl, rfl⟩ := hi
      simp

namespace World

variable {P : Program σ} {t : ThreadId} {w₀ w : World σ} {th : Thread σ} {f : FlightId}
  {h : List (Move σ)} {a : Accessor} {r : RegistryId} {o : ObserverId} {fl : Flight} {m : Move σ}

/-- So did that of a flight in the air. -/
theorem Sound.concluded_unique {q : Request} {b : Accessor} {I : List Incident} {made : Outcome}
    (hs : w.Sound t q) (hI : q.Follows f I) (hf : q.flight? = some f)
    (hi : .concluded b f made ∈ I) :
    b = q.accessor ∧ ∀ c other, .concluded c f other ∈ I → other = made := by
  obtain ⟨a, p⟩ := q
  cases p with
  | recheck g | build g =>
      obtain rfl : I = [] := hI
      cases hi
  | keep g v =>
      obtain ⟨x, rfl, -⟩ := hI
      obtain ⟨rfl, rfl⟩ := by simpa using hi
      simp
  | land g l => exact Course.concluded_unique hI hi
  | announce => exact hs.elim
  | check | identify | board | wait | settle | finish => cases hf

/-- Whoever leads a flight is on its registry. -/
theorem Run.registry_of_leads (run : Run P w₀ h w) (fresh : w₀.Fresh) (hm : m ∈ h)
    (hfl : w.flights[f]? = some fl) (ht : m.actor? = some th) {q : Request} (hq : q ∈ th.requests)
    (hf : q.flight? = some f) : q.accessor.registry = fl.registry := by
  obtain ⟨h₁, h₂, -, run₁, hs, run₂⟩ := run.split hm
  obtain ⟨fl₀, hfl₀, -, hr, -, -⟩ := ((run₁.valid fresh).consistent.sound ht hq).leads hf
  obtain ⟨l, hfl'⟩ := ((Run.single hs).append run₂).flight hfl₀
  obtain rfl := Option.some.inj (hfl'.symm.trans hfl)
  exact hr.symm

section Conclusion

variable (run : Run P w₀ h w) (fresh : w₀.Fresh) {made : Outcome}
include run fresh

/-- A constructor that ended was that of a flight, which it ended only once, and which took its
course from there. -/
theorem Run.flight_of_concluded (hi : .concluded a f made ∈ incidents f h) :
    ∃ fl, w.flights[f]? = some fl ∧ fl.registry = a.registry ∧
      (∀ b other, .concluded b f other ∈ incidents f h → other = made) ∧
      ∀ l, fl.landing = some l → Course a f (incidents f h) l := by
  have hch := run.charted fresh f
  have hw := run.valid fresh
  cases hfl : w.flights[f]? with
  | none =>
      rw [hch.ahead hfl] at hi
      cases hi
  | some fl =>
      cases hl : fl.landing with
      | some l =>
          obtain ⟨b, hr, -, hcourse⟩ := hch.landed hfl hl
          obtain ⟨rfl, hunique⟩ := hcourse.concluded_unique hi
          refine ⟨fl, rfl, hr.symm, hunique, ?_⟩
          rintro l' hl'
          obtain rfl := Option.some.inj (hl.symm.trans hl')
          exact hcourse
      | none =>
          obtain ⟨-, th, ht, hleads⟩ := hw.consistent.led hfl hl
          obtain ⟨q, hq, hqf⟩ := mem_leads.mp hleads
          have hs := hw.consistent.sound ht hq
          obtain ⟨rfl, hunique⟩ := hs.concluded_unique (hch.led ht hq hqf) hqf hi
          obtain ⟨fl', hfl', -, hr, -, -⟩ := hs.leads hqf
          obtain rfl := Option.some.inj (hfl.symm.trans hfl')
          refine ⟨fl, rfl, hr, hunique, ?_⟩
          intro l hl'
          cases hl.symm.trans hl'

/-- An observer that never panics breaks no flight. -/
theorem Run.not_broken (hatt : Attended r o h) (hfl : w.flights[f]? = some fl)
    (hr : fl.registry = r) (p : Phase) (v : Panic) : .broken p f v ∉ incidents f h := by
  intro hi
  obtain ⟨m, hm, hmi, -⟩ := mem_incidents.mp hi
  obtain ⟨h₁, -, -, run₁, -, -⟩ := run.split hm
  obtain ⟨⟨event, fault, hn⟩, hf, b, S, ht⟩ := (run₁.valid fresh).proper.announced_of_broken hmi
  have hq : (⟨b, p⟩ : Request) ∈
      (⟨.returning (.panicked v), .observation b p :: S⟩ : Thread σ).requests := by
    simp [Thread.requests, Focus.request?, Frame.request?, hn.core_eq]
  exact hatt.calm m hm v b p S ht ((run.registry_of_leads fresh hm hfl ht hq hf).trans hr)

/-- A flight whose constructor failed lands as the constructor ended. -/
theorem Run.landing_of_concluded (hatt : Attended r o h) (hi : .concluded a f made ∈ incidents f h)
    (ha : a.registry = r) (hfail : ∀ x, made ≠ .returned x none) {l : Landing}
    (hl : w.landing? f = some l) : (made.conclude a.slot f).core = .land f l := by
  obtain ⟨fl, hfl, hr, hunique, hcourse⟩ := run.flight_of_concluded fresh hi
  have hno := run.not_broken fresh hatt hfl (hr.trans ha)
  obtain ⟨fl', hfl', hl⟩ := landing?_eq_some.mp hl
  obtain rfl := Option.some.inj (hfl.symm.trans hfl')
  have hc := hcourse l hl
  generalize incidents f h = I at hi hunique hno hc
  cases hc with
  | found => simp at hi
  | stored => exact (hfail _ (hunique a _ (List.mem_cons_self ..)).symm).elim
  | failed hk => exact hunique a _ (List.mem_singleton_self _) ▸ hk
  | refused => exact (hno _ _ (List.mem_cons_self ..)).elim
  | spoilt | dropped => exact (hno _ _ (List.mem_cons_of_mem _ (List.mem_cons_self ..))).elim

end Conclusion

/-! ### The failure of a flight is told once -/

end World

/-- A leader in the phase lands the flight with a fault next. -/
def Phase.isFailing (f : FlightId) : Phase → Bool
  | .land g (.fault _) => g == f
  | _ => false

/-- The request in the focus has told of the failure of the flight and lands it next. -/
def Focus.isFailing (f : FlightId) : Focus σ → Bool
  | .requesting _ p => p.isFailing f
  | .running _ | .returning _ => false

/-- The request in the frame tells of the failure of the flight and then lands it. -/
def Frame.isFailing (f : FlightId) : Frame σ → Bool
  | .observation _ next => next.isFailing f
  | .construction _ _ | .resume _ | .caller _ _ | .again _ => false

/-- The number of times that the thread has told of the failure of the flight and has still to land
it. -/
def Thread.failing (f : FlightId) (th : Thread σ) : Nat :=
  (th.focus.isFailing f).toNat + total (fun fr => (fr.isFailing f).toNat) th.stack

/-- The move lands the flight with a fault. -/
def Move.landsFault (f : FlightId) (m : Move σ) : Bool :=
  m.actor?.any fun th => th.focus.isFailing f

@[simp] theorem Phase.isFailing_crash (f g : FlightId) (p : Panic) :
    (Phase.land g (.crash p)).isFailing f = false := rfl

@[simp] theorem Phase.isFailing_announce (f : FlightId) (event : Event) (fault : Option Fault)
    (next : Phase) : (Phase.announce event fault next).isFailing f = false := rfl

theorem Phase.flight?_of_isFailing {f : FlightId} {p : Phase} (h : p.isFailing f = true) :
    p.flight? = some f ∧ p.core = p := by
  unfold Phase.isFailing at h
  split at h
  · rw [beq_iff_eq.mp h]
    exact ⟨rfl, rfl⟩
  · cases h

/-- A move that lands a flight with a fault is that of its leader. -/
theorem Move.land_of_landsFault {f : FlightId} {m : Move σ} (h : m.landsFault f = true) :
    ∃ a e S, m.actor? = some ⟨.requesting a (.land f (.fault e)), S⟩ := by
  obtain ⟨⟨focus, S⟩, ht, hfail⟩ := (Option.any_eq_true _ _).mp h
  cases focus with
  | requesting a p =>
      replace hfail : p.isFailing f = true := hfail
      unfold Phase.isFailing at hfail
      split at hfail
      · rw [beq_iff_eq.mp hfail] at ht
        exact ⟨a, _, S, ht⟩
      · cases hfail
  | running | returning => cases hfail

/-- A constructor that is through has told of nothing yet. -/
theorem Outcome.isFailing_conclude (made : Outcome) (s : Slot) (f g : FlightId) :
    (made.conclude s g).isFailing f = false :=
  made.conclude_induct (K := fun p => p.isFailing f = false) s g (fun _ => rfl) (fun _ _ => rfl)
    fun _ => rfl

/-- A thread has told of the failure of a flight only while it leads the flight. -/
theorem Thread.failing_le (f : FlightId) (th : Thread σ) : th.failing f ≤ th.leads.count f := by
  obtain ⟨focus, S⟩ := th
  have hfocus : (focus.isFailing f).toNat ≤
      (focus.request?.toList.filterMap Request.flight?).count f := by
    cases hf : focus.isFailing f with
    | false => exact Nat.zero_le _
    | true =>
        cases focus with
        | requesting a p =>
            obtain ⟨hflight, hcore⟩ := Phase.flight?_of_isFailing hf
            simp [Focus.request?, Request.flight?, hcore, hflight]
        | running | returning => cases hf
  have hstack : total (fun fr => (fr.isFailing f).toNat) S ≤
      ((S.filterMap Frame.request?).filterMap Request.flight?).count f := by
    induction S with
    | nil => exact Nat.le_refl _
    | cons fr S ih =>
        cases hf : fr.isFailing f with
        | false =>
            simp only [total_cons, hf, Bool.toNat_false, Nat.zero_add]
            refine Nat.le_trans ih (List.Sublist.count_le _ ?_)
            exact ((List.sublist_cons_self fr S).filterMap _).filterMap _
        | true =>
            cases fr with
            | observation a next =>
                obtain ⟨hflight, hcore⟩ := Phase.flight?_of_isFailing hf
                simp only [total_cons, hf, Bool.toNat_true, List.filterMap_cons, Frame.request?,
                  Request.flight?, hcore, hflight, List.count_cons_self]
                omega
            | construction | resume | caller | again => cases hf
  simp only [Thread.failing, Thread.leads, Thread.requests, List.filterMap_append,
    List.count_append]
  omega

namespace World

variable {P : Program σ} {t : ThreadId} {w₀ w w' : World σ} {th th' : Thread σ} {f : FlightId}
  {h : List (Move σ)} {a : Accessor} {r : RegistryId} {o : ObserverId} {fl : Flight} {m : Move σ}

/-- A thread owes the landing of each flight whose failure it tells of, and of no other, until it
lands the flight. -/
theorem Turn.balance_failing (turn : Turn P t w w' th th') (hp : th.Proper)
    (ht : w.threads[t]? = some th)
    (hlead : ∀ q ∈ th.requests, q.flight? = some f → q.accessor.registry = r)
    (hwatch : ∀ reg, w.registries[r]? = some reg → reg.observer ≠ none)
    (hcalm : ∀ p a next S, th = ⟨.returning (.panicked p), .observation a next :: S⟩ →
      a.registry ≠ r) :
    ((⟨t, w, w'⟩ : Move σ).landsFault f).toNat + th'.failing f =
      th.failing f + ((⟨t, w, w'⟩ : Move σ).tiding? f .failure).isSome.toNat := by
  have quiet (hn : w.told? t = none) : (⟨t, w, w'⟩ : Move σ).tiding? f .failure = none := by
    rw [Move.tiding?, Move.told?, hn]
    rfl
  cases turn with
  | call =>
      rw [quiet (by rw [told?, ht])]
      split <;> simp [Move.landsFault, Move.actor?, ht, Thread.failing, Focus.isFailing,
        Frame.isFailing, Phase.isFailing]
  | conclude hq =>
      simp [quiet (by rw [told?, ht]), Move.landsFault, Move.actor?, ht, Thread.failing,
        Focus.isFailing, Frame.isFailing, Outcome.isFailing_conclude]
  | @crash p a next g S hq hf =>
      have hno : next.isFailing f = false := by
        cases hfail : next.isFailing f with
        | false => rfl
        | true =>
            obtain ⟨hflight, hcore⟩ := Phase.flight?_of_isFailing hfail
            have hq : (⟨a, next⟩ : Request) ∈
                (⟨.returning (.panicked p), .observation a next :: S⟩ : Thread σ).requests := by
              simp [Thread.requests, Focus.request?, Frame.request?, hcore]
            exact (hcalm p a next S rfl (hlead _ hq hflight)).elim
      simp [quiet (by rw [told?, ht]), Move.landsFault, Move.actor?, ht, Thread.failing,
        Focus.isFailing, Frame.isFailing, hno]
  | @interrupt p a next S hq hf =>
      have hno : next.isFailing f = false := by
        cases hfail : next.isFailing f with
        | false => rfl
        | true => cases hf.symm.trans (Phase.flight?_of_isFailing hfail).1
      simp [quiet (by rw [told?, ht]), Move.landsFault, Move.actor?, ht, Thread.failing,
        Focus.isFailing, Frame.isFailing, hno]
  | @lost a p S hq hr =>
      have hno : w.told? t = none := by cases p <;> simp [told?, ht, hr]
      simp [quiet hno, Move.landsFault, Move.actor?, ht, Thread.failing, Focus.isFailing]
  | @skip a S event fault next reg hq hr ho =>
      have hno : next.isFailing f = false := by
        cases hfail : next.isFailing f with
        | false => rfl
        | true =>
            obtain ⟨hflight, hcore⟩ := Phase.flight?_of_isFailing hfail
            have hq : (⟨a, next⟩ : Request) ∈
                (⟨.requesting a (.announce event fault next), S⟩ : Thread σ).requests := by
              simp [Thread.requests, Focus.request?, Phase.core, hcore]
            exact (hwatch reg (hlead _ hq hflight ▸ hr) ho).elim
      have hmute : w.told? t = none := by simp [told?, ht, hr, ho]
      simp [quiet hmute, Move.landsFault, Move.actor?, ht, Thread.failing, Focus.isFailing, hno]
  | announce hq hr ho =>
      -- Only the event of a failure comes before the phase in which a flight lands with a fault.
      cases hp.announced with
      | @failure g e e' =>
          by_cases hg : g = f <;> simp [Move.tiding?, Move.told?, told?, subject?, ht, hr, ho,
            Move.landsFault, Move.actor?, Thread.failing, Focus.isFailing, Frame.isFailing,
            Phase.isFailing, Request.party?, Phase.flight?, Option.filter, hg, Nat.add_comm]
      | hit | join | found | construct =>
          simp +decide [Move.tiding?, Move.told?, told?, ht, hr, ho, Move.landsFault,
            Move.actor?, Thread.failing, Focus.isFailing, Frame.isFailing, Phase.isFailing]
  | proceed | stop | notify | resume | answer | retry | pass | observed | hit | miss | identify
  | refuse | join | takeOff | share | release | find | clear | build | keep | spill | land | settle
  | finish =>
      simp [quiet (by rw [told?, ht]), Move.landsFault, Move.actor?, ht, Thread.failing,
        Focus.isFailing, Frame.isFailing, Phase.isFailing]

/-- The landing of a flight stays as it is, unless its leader lands it. -/
theorem Valid.landing?_cases (hw : w.Valid) (hs : w.step P t = some w') (f : FlightId) :
    (w'.landing? f = w.landing? f ∧
      ∀ a l S, w.threads[t]? ≠ some ⟨.requesting a (.land f l), S⟩) ∨
    ∃ a l S, w.threads[t]? = some ⟨.requesting a (.land f l), S⟩ ∧ w.landing? f = none ∧
      w'.landing? f = some l := by
  by_cases hland : ∃ a l S, w.threads[t]? = some ⟨.requesting a (.land f l), S⟩
  · obtain ⟨a, l, S, ht⟩ := hland
    obtain ⟨fl, hfl, -, -, -, hn⟩ :=
      (hw.consistent.sound ht (q := ⟨a, .land f l⟩) (List.mem_cons_self ..)).1
    obtain ⟨-, -, -, -, -, -, -, hl⟩ := hw.landing_step hs ht
    exact Or.inr ⟨a, l, S, ht, by rw [landing?, hfl, Option.bind_some, hn], hl⟩
  · refine Or.inl ⟨?_, fun a l S ht => hland ⟨a, l, S, ht⟩⟩
    obtain ⟨th, th', ht, -, turn⟩ := step_turn hs
    cases turn with
    | proceed hr hf => rw [landing?, landing?, hf]
    | identify _ _ hwrites | refuse _ _ hwrites | keep _ _ hwrites =>
        rw [landing?, landing?, hwrites.flights]
    | @takeOff a S reg id hr hn hreg hf =>
        -- The flight that takes off has not landed.
        rw [landing?, landing?, hf]
        rcases Nat.lt_trichotomy f w.flights.length with hlt | rfl | hgt
        · rw [List.getElem?_append_left hlt]
        · simp
        · rw [List.getElem?_append_right (Nat.le_of_lt hgt),
            List.getElem?_eq_none (Nat.le_of_lt hgt), List.getElem?_eq_none]
          simp only [List.length_singleton]
          omega
    | @land a S reg g flight l hr hfl hreg hfs =>
        have hne : g ≠ f := by
          rintro rfl
          exact hland ⟨a, l, S, ht⟩
        simp [landing?, hfs, setLanding, hne]
    | stop hq | notify hq | call hq | resume hq | answer hq | retry hq | pass hq | conclude hq
    | observed hq | crash hq | interrupt hq | lost hq | hit hq | miss hq | join hq | share hq
    | release hq | find hq | clear hq | build hq | spill hq | settle hq | finish hq | skip hq
    | announce hq => rw [landing?, landing?, hq.flights]

/-- A flight lands at most once: with a fault, if that is how it has landed. -/
theorem Run.count_landsFault (run : Run P w₀ h w) (fresh : w₀.Fresh) (f : FlightId) :
    h.countP (Move.landsFault f) = ((w.landing? f).any fun l => l.fault?.isSome).toNat := by
  refine run.keeps (I := fun h w => h.countP (Move.landsFault f) =
    ((w.landing? f).any fun l => l.fault?.isSome).toNat) fresh ?_ ?_
  · simp [World.landing?, fresh.flights]
  · intro h v t w hv ih hs
    rw [countP_append_singleton, ih]
    obtain ⟨hsame, hno⟩ | ⟨a, l, S, ht, hn, hl⟩ := hv.landing?_cases hs f
    · have hquiet : (⟨t, v, w⟩ : Move σ).landsFault f = false := by
        cases hx : (⟨t, v, w⟩ : Move σ).landsFault f with
        | false => rfl
        | true =>
            obtain ⟨a, e, S, ht⟩ := Move.land_of_landsFault hx
            exact (hno a _ S ht).elim
      rw [hquiet, hsame]
      rfl
    · rw [hn, hl]
      cases l with
      | value | crash | fault =>
          simp [Move.landsFault, Move.actor?, ht, Focus.isFailing, Phase.isFailing, Landing.fault?]

/-- Of all threads the leader of a flight alone has told of its failure, and only once. -/
theorem Consistent.total_failing_le (c : w.Consistent) (f : FlightId) :
    total (Thread.failing f) w.threads ≤ 1 := by
  have hleads {i : ThreadId} {x : Thread σ} (hi : w.threads[i]? = some x) (hx : 0 < x.failing f) :
      ∃ a, w.Leads i a f := by
    have hmem : f ∈ x.leads := List.count_pos_iff.mp (Nat.lt_of_lt_of_le hx (x.failing_le f))
    obtain ⟨q, hq, hqf⟩ := mem_leads.mp hmem
    exact ⟨q.accessor, (c.sound hi hq).leads hqf⟩
  apply total_le_one
  · intro x hx
    obtain ⟨i, hi⟩ := List.mem_iff_getElem?.mp hx
    exact Nat.le_trans (x.failing_le f) (List.nodup_iff_count.mp (c.once hi) f)
  · intro i j x y hi hj hx hy
    obtain ⟨a, fl, hfl, hli, -⟩ := hleads hi hx
    obtain ⟨b, fl', hfl', hlj, -⟩ := hleads hj hy
    obtain rfl := Option.some.inj (hfl.symm.trans hfl')
    exact hli.symm.trans hlj

/-- Nobody has still to land a flight that has landed. -/
theorem Consistent.total_failing_eq_zero (c : w.Consistent) {l : Landing}
    (hl : w.landing? f = some l) : total (Thread.failing f) w.threads = 0 := by
  apply total_eq_zero
  intro x hx
  obtain ⟨i, hi⟩ := List.mem_iff_getElem?.mp hx
  have hno : f ∉ x.leads := by
    intro hmem
    obtain ⟨q, hq, hqf⟩ := mem_leads.mp hmem
    obtain ⟨fl, hfl, -, -, -, hn⟩ := (c.sound hi hq).leads hqf
    rw [landing?, hfl, Option.bind_some, hn] at hl
    cases hl
  have hle := x.failing_le f
  rw [List.count_eq_zero.mpr hno] at hle
  exact Nat.le_zero.mp hle

/-- At most one failure is told of a flight, and one was told of a flight that landed if it landed
with a fault. -/
theorem Run.length_failures (run : Run P w₀ h w) (fresh : w₀.Fresh) (hatt : Attended r o h)
    (hfl : w.flights[f]? = some fl) (hr : fl.registry = r) :
    (tidings f .failure h).length ≤ 1 ∧
      ∀ l, w.landing? f = some l → (tidings f .failure h).length = l.fault?.isSome.toNat := by
  have hbalance : h.countP (Move.landsFault f) + total (Thread.failing f) w.threads =
      h.countP fun m => (m.tiding? f .failure).isSome := by
    apply run.balance fresh fun _ => rfl
    intro m hm th th' hv ht ht' turn
    refine turn.balance_failing (r := r) (hv.proper _ _ ht) ht ?_ ?_ ?_
    · intro q hq hqf
      exact (run.registry_of_leads fresh hm hfl ht hq hqf).trans hr
    · intro reg hreg hno
      cases hno.symm.trans (hatt.attached m hm reg hreg)
    · rintro p a next S rfl
      exact hatt.calm m hm p a next S ht
  have hlands := run.count_landsFault fresh f
  have hc := (run.valid fresh).consistent
  rw [tidings, List.length_filterMap_eq_countP, ← hbalance, hlands]
  constructor
  · cases hl : w.landing? f with
    | none =>
        have hle := hc.total_failing_le f
        simpa using hle
    | some l =>
        rw [hc.total_failing_eq_zero hl]
        exact Bool.toNat_le _
  · intro l hl
    rw [hc.total_failing_eq_zero hl, hl]
    rfl

/-- Whoever is told of a flight that it waited for is told of the fault that the flight landed with;
no one is told of a crash. -/
theorem Run.landing_of_shared (run : Run P w₀ h w) (fresh : w₀.Fresh) (hm : m ∈ h) {x : Told}
    (hx : m.tiding? f .dedup = some x) :
    ∃ l S, m.actor? = some ⟨.requesting x.accessor (.announce .dedup x.fault (.settle f l)), S⟩ ∧
      x.fault = l.fault? ∧ w.landing? f = some l ∧ ∀ p, l ≠ .crash p := by
  obtain ⟨-, next, S, ht, hparty⟩ := Move.announce_of_tiding? hx
  obtain ⟨h₁, h₂, -, run₁, hs, run₂⟩ := run.split hm
  have hv := run₁.valid fresh
  obtain ⟨g, l, hfault, rfl⟩ := (hv.proper _ _ ht).announced.of_dedup
  obtain rfl := Option.some.inj hparty
  have hl := (hv.consistent.sound ht (q := ⟨x.accessor, .settle g l⟩) (List.mem_cons_self ..)).2
  refine ⟨l, S, ht, hfault, ((Run.single hs).append run₂).landing? hv.consistent hl, ?_⟩
  rintro p rfl
  exact (run₁.candid fresh _ _ _ _ _ _ ht).2 g p rfl

end World

/-- What is told of a flight with a failure: the failure once, with the one fault, and those who
waited are told of the other. -/
structure Reported (f : FlightId) (h : List (Move σ)) (w : World σ) (e e' : Fault) : Prop where
  once : (tidings f .failure h).length ≤ 1
  told : w.landing? f ≠ none → (tidings f .failure h).length = 1
  failure : ∀ x ∈ tidings f .failure h, x.fault = some e
  shared : ∀ x ∈ tidings f .dedup h, x.fault = some e'

namespace World

variable {P : Program σ} {w₀ w : World σ} {f : FlightId} {h : List (Move σ)} {a : Accessor}
  {r : RegistryId} {o : ObserverId}

/-- The constructor of a flight decides what is told of its failure, and what of its landing. -/
theorem Run.reported (run : Run P w₀ h w) (fresh : w₀.Fresh) (hatt : Attended r o h)
    {made : Outcome} (hi : .concluded a f made ∈ incidents f h) (ha : a.registry = r) {e e' : Fault}
    (hreport : made.report? = some e)
    (hcore : (made.conclude a.slot f).core = .land f (.fault e')) : Reported f h w e e' := by
  have hfail (x : Value) : made ≠ .returned x none := by
    rintro rfl
    cases hreport
  have hland {l : Landing} (hl : w.landing? f = some l) : l = .fault e' := by
    have hl := run.landing_of_concluded fresh hatt hi ha hfail hl
    exact (Phase.land.inj (hl.symm.trans hcore)).2
  obtain ⟨fl, hfl, hr, hunique, -⟩ := run.flight_of_concluded fresh hi
  obtain ⟨honce, hlanded⟩ := run.length_failures fresh hatt hfl (hr.trans ha)
  refine ⟨honce, ?_, ?_, ?_⟩
  · intro hne
    obtain ⟨l, hl⟩ := Option.ne_none_iff_exists'.mp hne
    obtain rfl := hland hl
    exact hlanded _ hl
  · intro x hx
    obtain ⟨m, hm, hx⟩ := List.mem_filterMap.mp hx
    obtain ⟨-, next, S, ht, hparty⟩ := Move.announce_of_tiding? hx
    obtain ⟨h₁, h₂, rfl, run₁, -, -⟩ := run.split hm
    obtain ⟨g, e₂, rfl⟩ := ((run₁.valid fresh).proper _ _ ht).announced.of_failure
    obtain rfl := Option.some.inj hparty
    obtain ⟨made', hmade, hreport'⟩ := (run₁.candid fresh _ _ _ _ _ _ ht).1 g e₂ rfl
    have hsame : made' = made := by
      apply hunique x.accessor
      rw [incidents_append]
      exact List.mem_append_left _ hmade
    rw [← hreport', hsame, hreport]
  · intro x hx
    obtain ⟨m, hm, hx⟩ := List.mem_filterMap.mp hx
    obtain ⟨l, S, -, hfault, hl, -⟩ := run.landing_of_shared fresh hm hx
    rw [hfault, hland hl]
    rfl

end World

end InstanceRegistry
