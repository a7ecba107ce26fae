import InstanceRegistry.Proofs.Ledger
import InstanceRegistry.Proofs.Span
import InstanceRegistry.Proofs.Staleness

/-!
# The events of a request

Every request says in one event how it came by its outcome: it found the instance, it was about
to run the constructor, or it shared the flight of another. A request that ran its constructor in
vain says this in a second event. There is nothing else that a request says, and what it says is
about its own slot. So the events of a registry count its requests, and the constructions that are
told of a slot count the starts of its constructors.

## Implementation notes

A request is found again in its thread by the depth of the stack that it runs on. What it has said
is tied to its phase: each phase knows the events that were told on the way to it and how the
constructor ended, if it was run.
-/

namespace InstanceRegistry

variable {σ : Type}

/-- The events that requests of the thread at the given depth of its stack told. -/
def tellings (t : ThreadId) (depth : Nat) (h : List (Move σ)) : List Event :=
  h.filterMap fun m => if m.isRequest t depth then m.told?.map Told.event else none

/-- The outcome of a constructor that a move hands to a request of the thread at the given depth. -/
def Move.made? (t : ThreadId) (depth : Nat) (m : Move σ) : Option Outcome :=
  match m.actor? with
  | some ⟨.returning o, .construction _ _ :: S⟩ =>
    if m.thread = t ∧ S.length = depth then some o else none
  | _ => none

/-- The outcomes of the constructors that requests of the thread at the given depth ran. -/
def makings (t : ThreadId) (depth : Nat) (h : List (Move σ)) : List Outcome :=
  h.filterMap (Move.made? t depth)

/-- What a request has told when it is over, and how its constructor ended. -/
inductive Account : List Event → List Outcome → Prop
  | hit : Account [.hit] []
  | shared : Account [.dedup] []
  | made {x} : Account [.construct] [.returned x none]
  | failed {o} (ho : ∀ x, o ≠ .returned x none) : Account [.construct, .failure] [o]

/-- What a request in the phase has told, and how its constructor ended. A flight that crashes
leaves this open. -/
def Phase.Books (E : List Event) (O : List Outcome) : Phase → Prop
  | .check | .identify | .board _ | .wait _ | .recheck _ => E = [] ∧ O = []
  | .build _ => E = [.construct] ∧ O = []
  | .keep _ _ => E = [.construct] ∧ ∃ x, O = [.returned x none]
  | .land _ l | .settle _ l => (∀ p, l ≠ .crash p) → Account E O
  | .finish _ => Account E O
  | .announce event _ next => next.Books (E ++ [event]) O

/-- After its constructor a request goes on with the outcome in its books. -/
theorem Outcome.books_conclude (o : Outcome) (s : Slot) (f : FlightId) :
    (o.conclude s f).Books [.construct] [o] := by
  cases o with
  | panicked p => exact fun _ => .failed (by simp)
  | returned v e =>
      cases e with
      | none => exact ⟨rfl, v, rfl⟩
      | some e =>
          simp only [Outcome.conclude]
          cases e.findPanic with
          | crashed => exact fun hl => (hl _ rfl).elim
          | absent | found | hollow => exact fun _ => .failed (by simp)

/-- A request tells one first event. -/
theorem Account.count_first {E : List Event} {O : List Outcome} (h : Account E O) :
    E.count .hit + E.count .construct + E.count .dedup = 1 := by
  cases h <;> rfl

/-- A request tells of a failure if its constructor failed, and then after its first event. -/
theorem Account.failure_iff {E : List Event} {O : List Outcome} (h : Account E O) :
    (.failure ∈ E ↔ ∃ o ∈ O, ∀ x, o ≠ .returned x none) ∧
      (.failure ∈ E → E = [.construct, .failure]) := by
  cases h with
  | hit | shared => simp +decide
  | made => simp +decide
  | failed ho => simp [ho]

section Passing

variable {t : ThreadId} {B : List (Frame σ)} {h : List (Move σ)} {m : Move σ}

/-- A move that passes a request by is not in its books. -/
theorem Move.Passes.quiet (hp : m.Passes t B) :
    m.isRequest t B.length = false ∧ m.made? t B.length = none := by
  by_cases ht : m.thread = t
  · obtain ⟨th, fr, hactor, hS, hret⟩ := hp ht
    constructor
    · obtain ⟨u, v, w⟩ := m
      obtain rfl := ht
      exact World.isRequest_of_suffix hactor hS
    · obtain ⟨focus, stack⟩ := th
      rw [Move.made?, hactor]
      split
      · rename_i o a f S heq
        obtain ⟨rfl, rfl⟩ := Thread.mk.inj (Option.some.inj heq)
        rw [if_neg]
        rintro ⟨-, hlen⟩
        -- The frame would be the one that the request has on top of it.
        have heq := hS.eq_of_length (by simp [hlen])
        exact hret o (by rw [heq])
      · rfl
  · constructor
    · simp [Move.isRequest, ht]
    · rw [Move.made?]
      split
      · simp [ht]
      · rfl

theorem tellings_append_singleton (t : ThreadId) (d : Nat) (h : List (Move σ)) (m : Move σ) :
    tellings t d (h ++ [m]) =
      tellings t d h ++ (if m.isRequest t d then m.told?.map Told.event else none).toList :=
  filterMap_append_singleton _ h m

theorem makings_append_singleton (t : ThreadId) (d : Nat) (h : List (Move σ)) (m : Move σ) :
    makings t d (h ++ [m]) = makings t d h ++ (m.made? t d).toList :=
  filterMap_append_singleton _ h m

end Passing

namespace World

variable {P : Program σ} {t : ThreadId} {a : Accessor} {B : List (Frame σ)} {v w w' : World σ}
  {th' : Thread σ} {h : List (Move σ)} {o : Outcome} {E : List Event} {O : List Outcome}

/-- What a step of a request in the phase does to its books, by the thread after the step. -/
inductive Posted (P : Program σ) (t : ThreadId) (a : Accessor) (B : List (Frame σ)) (w : World σ)
    (p : Phase) (E : List Event) (O : List Outcome) : Thread σ → Prop
  | goes {p'} (hn : w.told? t = none) (hb : p'.Books E O) :
      Posted P t a B w p E O ⟨.requesting a p', B⟩
  | makes {c f} (hn : w.told? t = none) (hE : E = [.construct]) (hO : O = []) :
      Posted P t a B w p E O ⟨.running c, .construction a f :: B⟩
  | tells {x next} (hx : w.told? t = some x) (hb : next.Books (E ++ [x.event]) O) :
      Posted P t a B w p E O
        ⟨.running (P.observer x.observer (a.slot.notice x.event x.fault)), .observation a next :: B⟩
  | ends {x} (hn : w.told? t = none) (hb : Account E O) : Posted P t a B w p E O ⟨.returning x, B⟩
  | crashes {x f q} (hn : w.told? t = none) (hf : Request.party? ⟨a, p⟩ = some f)
      (hl : w.landing? f = some (.crash q)) : Posted P t a B w p E O ⟨.returning x, B⟩

/-- Every step of a request keeps its books. -/
theorem Turn.posted {p : Phase} (turn : Turn P t w w' ⟨.requesting a p, B⟩ th') (hw : w.Valid)
    (ht : w.threads[t]? = some ⟨.requesting a p, B⟩) (hset : w.IsSetUp a.registry)
    (hwatch : ∀ reg, w.registries[a.registry]? = some reg → reg.observer ≠ none)
    (hb : p.Books E O) : Posted P t a B w p E O th' := by
  cases turn with
  | lost hq hno => exact (hset.ne_of_lost hno rfl).elim
  | refuse hr hi => exact (hset.ne_of_refused hr hi rfl).elim
  | skip hq hr' ho => exact (hwatch _ hr' ho).elim
  | hit =>
      obtain ⟨rfl, rfl⟩ := hb
      exact .goes (by rw [told?, ht]) .hit
  | release hq hl hn =>
      obtain ⟨rfl, rfl⟩ := hb
      exact .goes (by rw [told?, ht]) fun _ => .shared
  | find =>
      obtain ⟨rfl, rfl⟩ := hb
      exact .goes (by rw [told?, ht]) fun _ => .hit
  | clear =>
      obtain ⟨rfl, rfl⟩ := hb
      exact .goes (by rw [told?, ht]) ⟨rfl, rfl⟩
  | build => exact .makes (by rw [told?, ht]) hb.1 hb.2
  | keep =>
      obtain ⟨rfl, x, rfl⟩ := hb
      exact .goes (by rw [told?, ht]) fun _ => .made
  | spill => exact .goes (by rw [told?, ht]) fun hl => (hl _ rfl).elim
  | announce hq hr' ho =>
      exact .tells (x := ⟨a, _, _, _⟩) (by simp [told?, ht, hr', ho]) hb
  | share hq hl => exact .crashes (by rw [told?, ht]) rfl hl
  | @settle _ _ f l =>
      have hland := (hw.consistent.sound ht (q := ⟨a, .settle f l⟩) (List.mem_cons_self ..)).2
      cases l with
      | crash q => exact .crashes (by rw [told?, ht]) rfl hland
      | value | fault => exact .ends (by rw [told?, ht]) (hb (by simp))
  | finish => exact .ends (by rw [told?, ht]) hb
  | miss | identify | join | takeOff | land => exact .goes (by rw [told?, ht]) hb

/-- What is known, by its place, of what a request has told and of how its constructor ended. -/
def Booked (t : ThreadId) (a : Accessor) (B : List (Frame σ)) (h : List (Move σ)) (w : World σ) :
    Place → Prop
  | .asking p | .telling p =>
    p.Books (tellings t B.length h) (makings t B.length h)
  | .making _ =>
    tellings t B.length h = [.construct] ∧ makings t B.length h = []
  | .closed o =>
    (∀ f, Draws t a B h o f → ∀ p, w.landing? f ≠ some (.crash p)) →
      Account (tellings t B.length h) (makings t B.length h)

/-- The books of a request are kept while moves pass it by. -/
theorem Booked.pass {m : Move σ} {pl : Place} (hb : Booked t a B h m.before pl)
    (hw : m.before.Valid) (hs : m.before.step P m.thread = some m.after) (hp : m.Passes t B) :
    Booked t a B (h ++ [m]) m.after pl := by
  obtain ⟨hreq, hmade⟩ := hp.quiet
  have hE : tellings t B.length (h ++ [m]) = tellings t B.length h := by
    rw [tellings_append_singleton, hreq]
    exact List.append_nil _
  have hO : makings t B.length (h ++ [m]) = makings t B.length h := by
    rw [makings_append_singleton, hmade]
    exact List.append_nil _
  cases pl with
  | asking p | telling p | making f => simpa only [Booked, hE, hO] using hb
  | closed o =>
      intro hfl
      rw [hE, hO]
      apply hb
      rintro f ⟨m', hm', hd⟩ p hl
      exact hfl f ⟨m', List.mem_append_left _ hm', hd⟩ p (hw.consistent.landing?_step hs hl)

/-- A request ends with its books in order, unless the flight from which it draws crashed. -/
theorem RequestSpan.account (span : RequestSpan P t a B v h w o) (hv : v.Valid) {x : ObserverId}
    (hatt : Attended a.registry x h) (hset : Served a.registry h)
    (hfl : ∀ f, Draws t a B h o f → ∀ p, w.landing? f ≠ some (.crash p)) :
    Account (tellings t B.length h) (makings t B.length h) := by
  refine span.induct (K := fun g w pl => Booked t a B g w pl) hv ⟨rfl, rfl⟩ ⟨?_, ?_, ?_, ?_⟩ hfl
  · intro g w w' u pl _ hw hk hs hp
    exact Booked.pass (m := ⟨u, w, w'⟩) hk hw hs hp
  · intro g w w' p th' hm hw hk hs ht ht' turn
    have hown : (⟨t, w, w'⟩ : Move σ).isRequest t B.length = true := by
      simp [Move.isRequest, Move.actor?, ht]
    have hE : tellings t B.length (g ++ [⟨t, w, w'⟩]) =
        tellings t B.length g ++ ((w.told? t).map Told.event).toList := by
      rw [tellings_append_singleton, if_pos hown]
      rfl
    have hO : makings t B.length (g ++ [⟨t, w, w'⟩]) = makings t B.length g := by
      rw [makings_append_singleton, Move.made?, Move.actor?, ht]
      exact List.append_nil _
    have hwatch (reg : Registry) (hr : w.registries[a.registry]? = some reg) :
        reg.observer ≠ none := by
      rw [hatt.attached _ hm reg hr]
      simp
    cases turn.posted hw ht (hset _ hm a p B ht rfl) hwatch hk with
    | goes hn hb =>
        refine ⟨.asking _, rfl, ?_⟩
        rw [hn, Option.map_none, Option.toList_none, List.append_nil] at hE
        simpa only [Booked, hE, hO] using hb
    | makes hn hbE hbO =>
        refine ⟨.making _, List.suffix_refl _, ?_⟩
        rw [hn, Option.map_none, Option.toList_none, List.append_nil] at hE
        exact ⟨by rw [hE, hbE], by rw [hO, hbO]⟩
    | tells hx hb =>
        refine ⟨.telling _, List.suffix_refl _, ?_⟩
        rw [hx, Option.map_some, Option.toList_some] at hE
        simpa only [Booked, hE, hO] using hb
    | ends hn hb =>
        refine ⟨.closed _, rfl, fun _ => ?_⟩
        rw [hn, Option.map_none, Option.toList_none, List.append_nil] at hE
        rwa [hE, hO]
    | crashes hn hf hl =>
        refine ⟨.closed _, rfl, fun hfl => ?_⟩
        have hlast : (⟨t, w, w'⟩ : Move σ) ∈ g ++ [⟨t, w, w'⟩] := by simp
        have hd : Draws t a B (g ++ [⟨t, w, w'⟩]) _ _ := ⟨_, hlast, rfl, ⟨p, ht, hf⟩, ht'⟩
        exact (hfl _ hd _ (hw.consistent.landing?_step hs hl)).elim
  · intro g w w' f y _ hw hk hs ht
    obtain ⟨hkE, hkO⟩ := hk
    have hE : tellings t B.length (g ++ [⟨t, w, w'⟩]) = tellings t B.length g := by
      rw [tellings_append_singleton, Move.isRequest, Move.actor?, ht]
      simp
    have hO : makings t B.length (g ++ [⟨t, w, w'⟩]) = makings t B.length g ++ [y] := by
      rw [makings_append_singleton, Move.made?, Move.actor?, ht]
      simp
    have hb := y.books_conclude a.slot f
    simpa only [Booked, hE, hO, hkE, hkO, List.nil_append] using hb
  · intro g w w' next y th' hm hw hk hs ht ht' turn
    have hE : tellings t B.length (g ++ [⟨t, w, w'⟩]) = tellings t B.length g := by
      rw [tellings_append_singleton, Move.isRequest, Move.actor?, ht]
      simp
    have hO : makings t B.length (g ++ [⟨t, w, w'⟩]) = makings t B.length g := by
      rw [makings_append_singleton, Move.made?, Move.actor?, ht]
      exact List.append_nil _
    cases turn with
    | observed =>
        refine ⟨.asking _, rfl, ?_⟩
        simpa only [Booked, hE, hO] using hk
    | crash | interrupt => exact (hatt.calm _ hm _ _ _ _ ht rfl).elim

/-- The steps that are in the books of a request are its own. -/
theorem RequestSpan.actor_eq (span : RequestSpan P t a B v h w o) (hv : v.Valid) :
    ∀ m ∈ h, m.isRequest t B.length = true → ∃ p, m.actor? = some ⟨.requesting a p, B⟩ := by
  refine span.induct (K := fun g _ _ =>
    ∀ m ∈ g, m.isRequest t B.length = true → ∃ p, m.actor? = some ⟨.requesting a p, B⟩) hv
    (by simp) ⟨?_, ?_, ?_, ?_⟩
  · intro g w w' u pl _ _ hk _ hp
    refine List.forall_mem_append.mpr ⟨hk, List.forall_mem_singleton.mpr fun hown => ?_⟩
    cases hp.quiet.1.symm.trans hown
  · intro g w w' p th' _ _ hk _ ht _ turn
    obtain ⟨pl, hst⟩ := turn.stands
    exact ⟨pl, hst, List.forall_mem_append.mpr
      ⟨hk, List.forall_mem_singleton.mpr fun _ => ⟨p, ht⟩⟩⟩
  · intro g w w' f x _ _ hk _ ht
    refine List.forall_mem_append.mpr ⟨hk, List.forall_mem_singleton.mpr fun hown => ?_⟩
    simp [Move.isRequest, Move.actor?, ht] at hown
  · intro g w w' next x th' _ _ hk _ ht _ turn
    obtain ⟨pl, hst⟩ := turn.stands_of_observation
    refine ⟨pl, hst, List.forall_mem_append.mpr
      ⟨hk, List.forall_mem_singleton.mpr fun hown => ?_⟩⟩
    simp [Move.isRequest, Move.actor?, ht] at hown

/-- What a request tells is about its own slot: its observer runs with the type and the name of the
slot. -/
theorem RequestSpan.notice (span : RequestSpan P t a B v h w o) (hv : v.Valid) {x : ObserverId}
    (hatt : Attended a.registry x h) {m : Move σ} (hm : m ∈ h)
    (hown : m.isRequest t B.length = true) {y : Told} (hy : m.told? = some y) :
    y.accessor = a ∧ ∃ next, m.after.threads[t]? =
      some ⟨.running (P.observer x ⟨y.event, some a.slot.type, a.slot.name, y.fault⟩),
        .observation a next :: B⟩ := by
  obtain ⟨p, hactor⟩ := span.actor_eq hv m hm hown
  obtain ⟨-, -, -, -, hstep, -⟩ := span.run.split hm
  have hthread : m.thread = t := by
    simp only [Move.isRequest, Bool.and_eq_true, beq_iff_eq] at hown
    exact hown.1
  obtain ⟨next, S, reg, ht, hreg, ho⟩ := announce_of_told? hy
  have hmore := observes_of_told? hstep hy ht
  cases hactor.symm.trans ht
  obtain rfl := Option.some.inj (ho.symm.trans (hatt.attached m hm _ hreg))
  exact ⟨rfl, next, hthread ▸ hmore⟩

/-- The account of a request that is over: its events carry the type and the name of its slot, one
of them says how it came by its outcome, and it told of a failure, as the event after that of its
construction, if it ran a constructor that failed. -/
structure Accounted (P : Program σ) (o : ObserverId) (t : ThreadId) (a : Accessor)
    (B : List (Frame σ)) (h : List (Move σ)) : Prop where
  own : ∀ m ∈ h, m.isRequest t B.length = true → ∀ x, m.told? = some x → x.accessor = a ∧
    ∃ next, m.after.threads[t]? =
      some ⟨.running (P.observer o ⟨x.event, some a.slot.type, a.slot.name, x.fault⟩),
        .observation a next :: B⟩
  first : (tellings t B.length h).count .hit + (tellings t B.length h).count .construct +
    (tellings t B.length h).count .dedup = 1
  failure : .failure ∈ tellings t B.length h ↔
    ∃ made ∈ makings t B.length h, ∀ v, made ≠ .returned v none
  after : .failure ∈ tellings t B.length h → tellings t B.length h = [.construct, .failure]

/-- Every request of an attended registry gives account of itself, unless the flight from which it
drew was ended by a panic outside of its constructor. So when no flight of the registry was and no
request is under way, there are as many first events as there were requests. And when no request is
under way, there are for each slot as many events of a construction as starts of a constructor. -/
theorem Run.event_accounting {P : Program σ} {w₀ w : World σ} {h : List (Move σ)}
    (run : Run P w₀ h w) (fresh : w₀.Fresh) {r : RegistryId} {o : ObserverId}
    (hatt : Attended r o h) (hset : Served r h) :
    (∀ {h₁ h₂ h₃ v v' t a B out}, h = h₁ ++ (h₂ ++ h₃) → Run P w₀ h₁ v → a.registry = r →
      RequestSpan P t a B v h₂ v' out →
      (∀ f, Draws t a B h₂ out f → ∀ p, v'.landing? f ≠ some (.crash p)) →
      Accounted P o t a B h₂) ∧
    ((∀ th ∈ w.threads, ∀ q ∈ th.requests, q.accessor.registry ≠ r) →
      ((∀ fl ∈ w.flights, fl.registry = r → fl.landing.any Landing.isCrash = false) →
        (reports r .hit h).length + (reports r .construct h).length +
          (reports r .dedup h).length = h.countP (Move.opens r)) ∧
      ∀ s, (events r s h).count .construct = h.countP (Move.starts r s)) := by
  constructor
  · rintro h₁ h₂ h₃ v v' t a B out rfl run₁ rfl span hfl
    have hv : v.Valid := run₁.valid fresh
    have hsub {m : Move σ} (hm : m ∈ h₂) : m ∈ h₁ ++ (h₂ ++ h₃) := by simp [hm]
    have hatt₂ : Attended a.registry o h₂ :=
      ⟨fun m hm => hatt.attached m (hsub hm), fun m hm => hatt.calm m (hsub hm)⟩
    have hset₂ : Served a.registry h₂ := fun m hm => hset m (hsub hm)
    have hacc := span.account hv hatt₂ hset₂ hfl
    exact ⟨fun m hm hown x hx => span.notice hv hatt₂ hm hown hx, hacc.count_first,
      hacc.failure_iff.1, hacc.failure_iff.2⟩
  · intro hidle
    constructor
    · intro hcrash
      have hzero : total (Thread.untold r) w.threads = 0 :=
        total_eq_zero fun th hth => Thread.untold_eq_zero (hidle th hth)
      have hcount := run.count_opens fresh hatt hset hcrash
      omega
    · intro s
      have hzero : total (Thread.unstarted r s) w.threads = 0 :=
        total_eq_zero fun th hth => Thread.unstarted_eq_zero (hidle th hth)
      have hcount := run.count_starts fresh hatt hset s
      omega

end World

/-! ### The account of a failure -/

namespace Sample

/-- The first thread has called. -/
def begun : World Unit := observed.run fickle [0]

/-- The request of the first thread has an outcome. -/
def refused : World Unit := begun.run fickle (List.replicate 15 0)

/-- The steps of the request. -/
def refusal : List (Move Unit) := begun.history fickle (List.replicate 15 0)

/-- The steps of both calls that come after the request. -/
def sequel : List (Move Unit) :=
  refused.history fickle (List.replicate 2 0 ++ List.replicate 16 1)

theorem observedHistory_eq : observedHistory = observed.history fickle [0] ++ (refusal ++ sequel) :=
  calc observedHistory
      = observed.history fickle
          ([0] ++ (List.replicate 15 0 ++ (List.replicate 2 0 ++ List.replicate 16 1))) := rfl
    _ = observed.history fickle [0] ++ (refusal ++ sequel) := by
      rw [World.history_append, World.history_append]
      rfl

end Sample

/-- A constructor panics and the request tells of the construction and of the failure. It and the
request that builds the instance are two, and so are the first events and the starts of
constructors. -/
theorem World.Run.event_accounting_retry :
    (∃ next, RequestSpan Sample.fickle 0 Sample.accessor [.caller Sample.accessor next] Sample.begun
        Sample.refusal Sample.refused (.panicked (.text "boom")) ∧
      Accounted Sample.fickle 0 0 Sample.accessor [.caller Sample.accessor next] Sample.refusal) ∧
    tellings 0 1 Sample.refusal = [.construct, .failure] ∧
    makings 0 1 Sample.refusal = [.panicked (.text "boom")] ∧
    Sample.observedHistory.countP (Move.opens 0) = 2 ∧
    (reports 0 .hit Sample.observedHistory).length +
      (reports 0 .construct Sample.observedHistory).length +
      (reports 0 .dedup Sample.observedHistory).length = 2 ∧
    (events 0 Sample.slot Sample.observedHistory).count .construct =
      Sample.observedHistory.countP (Move.starts 0 Sample.slot) := by
  obtain ⟨next, hasked, hended⟩ : ∃ next,
      Sample.begun.threads[0]? =
        some ⟨.requesting Sample.accessor .check, [.caller Sample.accessor next]⟩ ∧
      Sample.refused.threads[0]? =
        some ⟨.returning (.panicked (.text "boom")), [.caller Sample.accessor next]⟩ :=
    ⟨_, rfl, rfl⟩
  have hgoing : ∀ m ∈ Sample.refusal, m.before.threads[0]?.any Sample.isOver = false := by
    decide +kernel
  have hland : ∀ fl ∈ Sample.observedEnd.flights, fl.landing.any Landing.isCrash = false := by
    decide +kernel
  have hland' : ∀ fl ∈ Sample.refused.flights, fl.landing.any Landing.isCrash = false := by
    decide +kernel
  have hover : ∀ th ∈ Sample.observedEnd.threads, th.requests.length = 0 := by decide +kernel
  have hopens : Sample.observedHistory.countP (Move.opens 0) = 2 := by decide +kernel
  have hspan : RequestSpan Sample.fickle 0 Sample.accessor [.caller Sample.accessor next]
      Sample.begun Sample.refusal Sample.refused (.panicked (.text "boom")) :=
    ⟨World.run_of_schedule _ _ _, hasked, hended, Sample.going_of_isOver hgoing⟩
  have run := World.run_of_schedule Sample.fickle Sample.observed Sample.observedSchedule
  obtain ⟨hcalls, hcounts⟩ := Run.event_accounting run Sample.observed_fresh
    Sample.observed_attended (run.served ⟨_, rfl, rfl⟩)
  have hacc := hcalls Sample.observedHistory_eq (World.run_of_schedule _ _ _) rfl hspan
    (fun f _ p hl => by
      obtain ⟨fl, hfl, hl⟩ := landing?_eq_some.mp hl
      have hno := hland' fl (List.mem_of_getElem? hfl)
      rw [hl] at hno
      cases hno)
  obtain ⟨hfirst, hstarts⟩ := hcounts fun th hth q hq => by
    have hnil := List.length_eq_zero_iff.mp (hover th hth)
    rw [hnil] at hq
    cases hq
  have hsum := hfirst fun fl hfl _ => hland fl hfl
  exact ⟨⟨next, hspan, hacc⟩, by decide +kernel, rfl, hopens, hsum.trans hopens,
    hstarts Sample.slot⟩

end InstanceRegistry
