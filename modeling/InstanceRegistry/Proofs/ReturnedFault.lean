import InstanceRegistry.Proofs.Sequential

/-!
# What becomes of a fault that a constructor returns

The leader of a flight searches the whole fault that its constructor returned for the panic of a
constructor. If the search comes to nothing, the call returns the fault as the failure of the
construction. If it finds something or panics itself, the call panics although its constructor did
not: the leader cannot tell a fault that its constructor returned from one that stands for a panic
of its constructor. In both cases the call stores nothing.

## Implementation notes

What the constructor ended with is carried along from phase to phase. A request that still has to
run its constructor owes nothing, and one that lands or settles after a constructor that failed
owes the outcome that the constructor calls for.
-/

namespace InstanceRegistry

variable {σ : Type}

/-- The panic for which a fault is taken that is not searched in vain. -/
def Fault.mistaken (e : Fault) : Panic :=
  match e.findPanic with
  | .found p => p
  | .crashed => .flight .nilDereference
  | .absent | .hollow => .nilDereference

/-- The outcome of a call on the slot whose constructor returned the fault: a fault in which the
panic of a constructor is looked for in vain comes back as the failure of the construction, any
other is taken for a panic. -/
def Outcome.DueTo (o : Outcome) (s : Slot) (e : Fault) : Prop :=
  e.findPanic = .absent ∧
      o = .returned s.type.zero (some (.construction (some s.type) s.name (some e))) ∨
    e.findPanic ≠ .absent ∧ o = .panicked e.mistaken

/-- A constructor that returned a fault ends the requests of its flight in this way. -/
theorem Incident.outcome_dueTo (a : Accessor) (f : FlightId) (x : Value) (e : Fault) (s : Slot) :
    ((Incident.concluded a f (.returned x (some e))).outcome s).DueTo s e := by
  rw [Outcome.DueTo, Fault.mistaken, Incident.outcome]
  cases e.findPanic <;> simp

/-! ### Requests after a constructor that failed -/

/-- The outcome is none of a constructor that returned an instance. -/
def Outcome.IsFailure (o : Outcome) : Prop := ∀ x, o ≠ .returned x none

/-- A request in the phase is on its way to the outcome that the end of its constructor calls for.
The list has the outcome of the constructor, if it was run. -/
def Phase.Owes (a : Accessor) (O : List Outcome) : Phase → Prop
  | .keep _ _ => ∃ x, O = [.returned x none]
  | .land f l | .settle f l => ∀ made ∈ O, made.IsFailure →
    l.settle a.slot.type = (Incident.concluded a f made).outcome a.slot
  | .announce _ _ next => next.Owes a O
  | _ => O = []

/-- A request at the place is on its way to that outcome or has it; no observer runs. -/
def Place.Owes (a : Accessor) (O : List Outcome) : Place → Prop
  | .asking p => p.Owes a O
  | .making _ => O = []
  | .telling _ => False
  | .closed o => ∀ made ∈ O, made.IsFailure →
    ∃ f, o = (Incident.concluded a f made).outcome a.slot

/-- After its constructor a request goes on to the outcome that this one calls for. -/
theorem Outcome.owes_conclude (o : Outcome) (a : Accessor) (f : FlightId) :
    (o.conclude a.slot f).Owes a [o] := by
  have howes {l : Landing} (hk : (o.conclude a.slot f).core = .land f l) :
      (Phase.land f l).Owes a [o] := by
    intro made hmade _
    rw [List.mem_singleton.mp hmade]
    exact Outcome.settle_conclude hk
  obtain ⟨x, rfl, -⟩ | ⟨-, ⟨e, e', -, hann⟩ | ⟨p, -, hland⟩⟩ := o.conclude_cases a.slot f
  · exact ⟨x, rfl⟩
  · rw [hann]
    exact howes (by rw [hann]; rfl)
  · rw [hland]
    exact howes (by rw [hland]; rfl)

namespace World

variable {P : Program σ} {t : ThreadId} {a : Accessor} {B : List (Frame σ)} {v w w' w₀ : World σ}
  {th' : Thread σ} {h h₀ : List (Move σ)} {o : Outcome} {O : List Outcome} {p : Phase}

/-- A step of a request whose registry has no observer keeps what the request owes. -/
theorem Turn.owes (turn : Turn P t w w' ⟨.requesting a p, B⟩ th') (hset : w.IsSetUp a.registry)
    (hsilent : w.observer? a.registry = none) (hp : p.Owes a O) :
    ∃ pl, th'.Stands a B pl ∧ pl.Owes a O := by
  cases turn with
  | lost hq hno => exact (hset.ne_of_lost hno rfl).elim
  | refuse hr hi => exact (hset.ne_of_refused hr hi rfl).elim
  | announce hq hr ho =>
      rw [observer?, hr] at hsilent
      cases hsilent.symm.trans ho
  | build => exact ⟨.making _, List.suffix_refl _, hp⟩
  | skip => exact ⟨.asking _, rfl, hp⟩
  | keep | spill =>
      obtain ⟨x, rfl⟩ := hp
      refine ⟨.asking _, rfl, fun made hmade hfail => ?_⟩
      exact (hfail x (List.mem_singleton.mp hmade)).elim
  | land => exact ⟨.asking _, rfl, hp⟩
  | settle => exact ⟨.closed _, rfl, fun made hmade hfail => ⟨_, hp made hmade hfail⟩⟩
  | hit | miss | identify | join | takeOff | clear => exact ⟨.asking _, rfl, hp⟩
  | release | find =>
      obtain rfl : O = [] := hp
      exact ⟨.asking _, rfl, by rintro made ⟨⟩⟩
  | share | finish =>
      obtain rfl : O = [] := hp
      exact ⟨.closed _, rfl, by rintro made ⟨⟩⟩

/-- The requests of the thread at the given depth stored nothing. -/
def StoresNothing (t : ThreadId) (depth : Nat) (h : List (Move σ)) : Prop :=
  ∀ m ∈ h, m.isRequest t depth = true → ∀ r s, m.after.stored? r s = m.before.stored? r s

/-- The registry is set up, the request owes what its constructor calls for, and it has stored
nothing unless the constructor returned an instance. -/
structure Owing (t : ThreadId) (a : Accessor) (B : List (Frame σ)) (h : List (Move σ))
    (w : World σ) (pl : Place) : Prop where
  isSetUp : w.IsSetUp a.registry
  owes : pl.Owes a (makings t B.length h)
  stores : StoresNothing t B.length h ∨ ∃ x, .returned x none ∈ makings t B.length h

/-- A move that is none of the request stores nothing for it. -/
theorem Owing.stores_append {m : Move σ} {pl : Place} (hk : Owing t a B h w pl)
    (hm : m.isRequest t B.length = false) :
    StoresNothing t B.length (h ++ [m]) ∨
      ∃ x, .returned x none ∈ makings t B.length (h ++ [m]) := by
  rcases hk.stores with hnothing | ⟨x, hx⟩
  · refine Or.inl (List.forall_mem_append.mpr ⟨hnothing, List.forall_mem_singleton.mpr ?_⟩)
    intro hown
    cases hm.symm.trans hown
  · refine Or.inr ⟨x, ?_⟩
    rw [makings_append_singleton]
    exact List.mem_append_left _ hx

/-- What a request owes is tracked as long as its registry has no observer. -/
theorem tracked_owing (hsilent : ∀ m ∈ h, m.before.observer? a.registry = none) :
    Tracked P t a B h (Owing t a B) := by
  refine ⟨?_, ?_, ?_, ?_⟩
  · intro g w w' u pl _ _ hk hs hp
    obtain ⟨hreq, hmade⟩ := hp.quiet
    refine ⟨hk.isSetUp.step hs, ?_, hk.stores_append hreq⟩
    rw [makings_append_singleton, hmade, Option.toList_none, List.append_nil]
    exact hk.owes
  · intro g w w' p th' hm _ hk hs ht _ turn
    have hO : makings t B.length (g ++ [⟨t, w, w'⟩]) = makings t B.length g := by
      rw [makings_append_singleton, Move.made?, Move.actor?, ht]
      exact List.append_nil _
    obtain ⟨pl, hst, howes⟩ := turn.owes hk.isSetUp (hsilent _ hm) hk.owes
    refine ⟨pl, hst, hk.isSetUp.step hs, hO ▸ howes, ?_⟩
    rw [hO]
    obtain hsame | ⟨b, f, x, S, hb, -⟩ := stored?_step_cases hs
    · rcases hk.stores with hnothing | hx
      · exact Or.inl (List.forall_mem_append.mpr
          ⟨hnothing, List.forall_mem_singleton.mpr fun _ => hsame⟩)
      · exact Or.inr hx
    · -- A leader that keeps its instance has it from its constructor.
      cases ht.symm.trans hb
      obtain ⟨y, hy⟩ := hk.owes
      exact Or.inr ⟨y, by simp [hy]⟩
  · intro g w w' f x _ _ hk hs ht
    refine ⟨hk.isSetUp.step hs, ?_, hk.stores_append (by simp [Move.isRequest, Move.actor?, ht])⟩
    have hempty : makings t B.length g = [] := hk.owes
    have hO : makings t B.length (g ++ [⟨t, w, w'⟩]) = [x] := by
      rw [makings_append_singleton, hempty, Move.made?, Move.actor?, ht]
      simp
    rw [hO]
    exact x.owes_conclude a f
  · intro g w w' next x th' _ _ hk
    exact hk.owes.elim

/-- A request whose constructor returned a fault ends as the fault says, and it stores nothing. -/
theorem RequestSpan.due (span : RequestSpan P t a B v h w o) (hv : v.Valid)
    (hset : v.IsSetUp a.registry) (hsilent : ∀ m ∈ h, m.before.observer? a.registry = none)
    {x : Value} {e : Fault} (hmade : makings t B.length h = [.returned x (some e)]) :
    o.DueTo a.slot e ∧ StoresNothing t B.length h := by
  have hstart : Owing t a B [] v (.asking .check) :=
    ⟨hset, rfl, Or.inl fun m hm => by cases hm⟩
  have hend := span.induct hv hstart (tracked_owing hsilent)
  constructor
  · obtain ⟨f, rfl⟩ :=
      hend.owes (.returned x (some e)) (by simp [hmade]) (by simp [Outcome.IsFailure])
    exact Incident.outcome_dueTo a f x e a.slot
  · rcases hend.stores with hnothing | ⟨y, hy⟩
    · exact hnothing
    · simp [hmade] at hy

/-- A call on a vacant slot that meets no others and whose constructor returns a fault comes to its
end, and the slot is vacant again. -/
theorem Vacant.call_due (hvac : v.Vacant a.registry a.slot) (hv : v.Valid)
    (ht : v.threads[t]? = some ⟨.requesting a .check, B⟩) {e : Fault}
    (hfails : Fails P t (SlotsOf []) v e a)
    (hquiet : ∀ w, Reaches P t v w → w.observer? a.registry = none ∧ w.IdsFit a.registry) :
    ∃ h w o, RequestSpan P t a B v h w o ∧ (∀ m ∈ h, m.thread = t) ∧ o.DueTo a.slot e ∧
      w.Vacant a.registry a.slot := by
  have hheeds : Heeds P t (SlotsOf []) v a := by
    intro w o event fault p S hr ho
    cases (hquiet w hr).1.symm.trans ho
  obtain ⟨w, f, x, leg, hvac'⟩ := hvac.call_faulty hv ht (fun w hr => (hquiet w hr).2) hheeds
    fun leg => hfails leg.reaches leg.thread
  obtain ⟨h, span, halone⟩ := leg.requestSpan ht
  exact ⟨h, w, _, span, halone, Incident.outcome_dueTo a f x e a.slot, hvac'⟩

/-- A request on a vacant slot of a registry without observer whose constructor returns a fault. If
the panic of a constructor is looked for in the fault in vain, the request returns a zero value and
the fault as the failure of the slot's construction; if the search ends in any other way, the
request panics although the constructor did not. It stores nothing in either case. This is so
whatever other threads do meanwhile; and a request that meets no others comes to this end and
leaves the slot vacant. A call of an accessor that is not steadfast is one such request.

A registry numbers its slots with words of 64 bits, and it has not given out all of these numbers.
-/
theorem Run.returned_fault (run₀ : Run P w₀ h₀ v) (fresh : w₀.Fresh)
    (hvac : v.Vacant a.registry a.slot) (ht : v.threads[t]? = some ⟨.requesting a .check, B⟩) :
    (∀ h w o x e, RequestSpan P t a B v h w o →
      (∀ m ∈ h, m.before.observer? a.registry = none) →
      makings t B.length h = [.returned x (some e)] →
      o.DueTo a.slot e ∧ StoresNothing t B.length h) ∧
    ∀ e, Fails P t (SlotsOf []) v e a →
      (∀ w, Reaches P t v w → w.observer? a.registry = none ∧ w.IdsFit a.registry) →
      ∃ h w o, RequestSpan P t a B v h w o ∧ (∀ m ∈ h, m.thread = t) ∧ o.DueTo a.slot e ∧
        w.Vacant a.registry a.slot := by
  have hv := run₀.valid fresh
  constructor
  · intro h w o x e span hsilent hmade
    exact span.due hv hvac.isSetUp hsilent hmade
  · intro e hfails hquiet
    exact hvac.call_due hv ht hfails hquiet

end World

namespace Sample

/-- A fault of two parts, one of which passes for every form. -/
def odd : Fault := .joined [.plain "again", .convertsToAll "odd"]

/-- All constructors return that fault. -/
def erring : Program Unit := program (.done .unit (some odd))

/-- The world in which the first thread has called the accessor. -/
def erringCalled : World Unit := world.run erring [0]

/-- The second thread joins the flight of the first one, which then goes on to the end of its
request. -/
def erringSchedule : List ThreadId := List.replicate 3 0 ++ List.replicate 4 1 ++ List.replicate 8 0

end Sample

/-- A call whose constructor returns a fault with such a part panics, with and without others. -/
theorem World.Run.returned_fault_odd :
    ∃ fr, Sample.erringCalled.threads[0]? = some ⟨.requesting Sample.accessor .check, [fr]⟩ ∧
      RequestSpan Sample.erring 0 Sample.accessor [fr] Sample.erringCalled
        (Sample.erringCalled.history Sample.erring Sample.erringSchedule)
        (Sample.erringCalled.run Sample.erring Sample.erringSchedule) (.panicked .nilDereference) ∧
      StoresNothing 0 1 (Sample.erringCalled.history Sample.erring Sample.erringSchedule) ∧
      ∃ h w, RequestSpan Sample.erring 0 Sample.accessor [fr] Sample.erringCalled h w
        (.panicked .nilDereference) ∧ w.Vacant 0 Sample.slot := by
  have hodd : Sample.odd.findPanic ≠ .absent := by rintro ⟨⟩
  obtain ⟨next, ht, hend⟩ : ∃ next, Sample.erringCalled.threads[0]? =
        some ⟨.requesting Sample.accessor .check, [.caller Sample.accessor next]⟩ ∧
      (Sample.erringCalled.run Sample.erring Sample.erringSchedule).threads[0]? =
        some ⟨.returning (.panicked .nilDereference), [.caller Sample.accessor next]⟩ :=
    ⟨_, rfl, rfl⟩
  have hvac : Sample.erringCalled.Vacant 0 Sample.slot :=
    ⟨⟨_, rfl, rfl⟩, rfl, fun fl hfl => by cases hfl⟩
  have run₀ : Run Sample.erring Sample.world _ Sample.erringCalled := run_of_schedule _ _ _
  have hv := run₀.valid Sample.world_fresh
  obtain ⟨hany, halone⟩ :=
    Run.returned_fault (a := Sample.accessor) run₀ Sample.world_fresh hvac ht
  have hopen : ∀ m ∈ Sample.erringCalled.history Sample.erring Sample.erringSchedule,
      m.before.threads[0]?.any Sample.isOver = false := by decide +kernel
  have hspan : RequestSpan Sample.erring 0 Sample.accessor [.caller Sample.accessor next]
      Sample.erringCalled (Sample.erringCalled.history Sample.erring Sample.erringSchedule)
      (Sample.erringCalled.run Sample.erring Sample.erringSchedule)
      (.panicked .nilDereference) :=
    ⟨run_of_schedule _ _ _, ht, hend, Sample.going_of_isOver hopen⟩
  obtain ⟨-, hnothing⟩ := hany _ _ _ .unit Sample.odd hspan (by decide +kernel) rfl
  have hstop : ((Sample.erringCalled.run Sample.erring (List.replicate 16 0)).step
      Sample.erring 0).isNone := by decide +kernel
  have hquiet : ∀ n ≤ 16, (Sample.erringCalled.run Sample.erring
      (List.replicate n 0)).observer? 0 = none ∧
      (Sample.erringCalled.run Sample.erring (List.replicate n 0)).IdsFit 0 := by decide +kernel
  obtain ⟨h, w, o, span, -, hdue, hvac'⟩ := halone Sample.odd
    (fun hr ht => by
      obtain ⟨v', leg⟩ := Leg.done (hr.valid hv) ht
      exact ⟨v', _, leg⟩)
    (fun w hr => by
      obtain ⟨n, hn, rfl⟩ := hr.exists_le (Option.isNone_iff_eq_none.mp hstop)
      exact hquiet n hn)
  rcases hdue with ⟨habsent, -⟩ | ⟨-, rfl⟩
  · exact (hodd habsent).elim
  · exact ⟨_, ht, hspan, hnothing, h, w, span, hvac'⟩

/-- A constructor that returns an old report of a panic: the call panics as if its constructor had.
-/
theorem World.Run.returned_fault_echo :
    let echo : Fault := .constructorPanic (.text "boom")
    makings 0 1 (Sample.history (.done .unit (some echo))) = [.returned .unit (some echo)] ∧
      (Sample.ended (.done .unit (some echo))).CallEnds 0 Sample.accessor
        (.panicked (.text "boom")) :=
  ⟨rfl, _, _, rfl⟩

end InstanceRegistry
