import InstanceRegistry.Journal
import InstanceRegistry.Proofs.Sequential
import InstanceRegistry.Proofs.Unobserved

/-!
# Log observers

A log observer makes an entry of everything that it is told, and asks the fault of a failure for its
message and its fields before it looks at the severity. A fault that cannot be asked for them makes
it panic. This happens inside of the flight, so the flight crashes, and its callers get this panic
in place of the fault. There is nothing else by which a log observer shows: as long as all faults
that constructors return are legible, the calls end as they do without it.

## Implementation notes

Observers do not interfere if they are discreet, whatever they are told. A log observer is not, but
it is in the lenient program, where observers do nothing if they are told what cannot be logged. A
run in which nobody is told such a thing is a run of the lenient program as well.
-/

namespace InstanceRegistry

variable {σ τ : Type}

/-! ### What can be logged -/

/-- A log can read the fault: asking for its message and for its fields does not fail. -/
def Fault.isLegible (e : Fault) : Bool := e.message.isSome && e.fields.isSome

/-- The notice can be logged: its type is known, and if it tells of a failure, the fault is
legible. -/
def Notice.isLoggable (n : Notice) : Bool :=
  n.type.isSome && (if n.event = .failure then n.fault.all Fault.isLegible else true)

/-- The failure of a constructor with the fault can be logged: the fault is legible, or nobody is
told, since the leader already panics when it searches the fault. -/
def Fault.Loggable (e : Fault) : Prop := e.isLegible = true ∨ e.findPanic = .crashed

theorem Fault.isLegible_iff (e : Fault) :
    e.isLegible = true ↔ ∃ message own, e.message = some message ∧ e.fields = some own := by
  simp [isLegible, Option.isSome_iff_exists]

/-- A log gets the fields of legible faults. -/
theorem Fields.ofFault_of_isLegible {e : Fault} (h : e.isLegible = true) :
    ∃ own, ofFault e = .ok own := by
  obtain ⟨message, own, hm, ho⟩ := e.isLegible_iff.mp h
  exact ⟨_, by rw [ofFault, hm, ho]⟩

/-- A log panics on a fault that is not legible. -/
theorem Fields.ofFault_of_not_isLegible {e : Fault} (h : e.isLegible = false) :
    ofFault e = .error .nilDereference := by
  rw [ofFault]
  split
  · rename_i message own hm ho
    simp [Fault.isLegible, hm, ho] at h
  · rfl

namespace Logger

variable (l : Logger) {n : Notice}

theorem compose_of_isLoggable (h : n.isLoggable = true) : ∃ entry, l.compose n = .ok entry := by
  obtain ⟨event, type, name, fault⟩ := n
  cases type with
  | none => cases h
  | some type =>
      cases fault with
      | none => exact ⟨_, rfl⟩
      | some e =>
          by_cases hevent : event = .failure
          · have he : e.isLegible = true := by simpa [Notice.isLoggable, hevent] using h
            obtain ⟨own, hown⟩ := Fields.ofFault_of_isLegible he
            simp [compose, hevent, hown, Except.map]
          · simp [compose, hevent]

theorem compose_of_not_isLoggable (h : n.isLoggable = false) :
    l.compose n = .error .nilDereference := by
  obtain ⟨event, type, name, fault⟩ := n
  cases type with
  | none => rfl
  | some type =>
      by_cases hevent : event = .failure
      · cases fault with
        | none => simp [Notice.isLoggable, hevent] at h
        | some e =>
            have he : e.isLegible = false := by simpa [Notice.isLoggable, hevent] using h
            simp [compose, hevent, Fields.ofFault_of_not_isLegible he, Except.map]
      · simp [Notice.isLoggable, hevent] at h

/-- A log observer panics if it is told what cannot be logged, whatever its threshold. -/
theorem observe_of_not_isLoggable (handle : LogEntry → ThreadId → σ → σ)
    (h : n.isLoggable = false) : l.observe handle n = .raise .nilDereference := by
  rw [observe, log, l.compose_of_not_isLoggable h]
  rfl

/-- It is discreet if it is told what can be logged, and its handler writes nothing that other code
can see. -/
theorem observe_discreet {P : Program σ} {R : σ → τ → Prop} {handle : LogEntry → ThreadId → σ → σ}
    (hhandle : ∀ entry t s s', R s s' → R (handle entry t s) s') (h : n.isLoggable = true) :
    (l.observe handle n).Discreet P R := by
  obtain ⟨entry, hentry⟩ := l.compose_of_isLoggable h
  rw [observe, log, hentry]
  by_cases hlevel : l.level ≤ entry.level
  · simp only [Except.map, if_pos hlevel]
    exact .act (fun t s s' => hhandle entry t s s') fun _ _ _ _ => .done .unit none
  · simp only [Except.map, if_neg hlevel]
    exact .done .unit none

end Logger

namespace Program

variable {P : Program σ} {R : σ → τ → Prop}

/-- All observers are log observers, and their handlers write nothing that other code can see. -/
def Logs (P : Program σ) (R : σ → τ → Prop) : Prop :=
  ∀ o, ∃ (l : Logger) (handle : LogEntry → ThreadId → σ → σ),
    P.observer o = l.observe handle ∧ ∀ entry t s s', R s s' → R (handle entry t s) s'

/-- The program with observers that do nothing if they are told what cannot be logged. -/
def lenient (P : Program σ) : Program σ :=
  { P with observer := fun o n => if n.isLoggable then P.observer o n else .done .unit none }

theorem lenient_observer {n : Notice} (hn : n.isLoggable = true) (o : ObserverId) :
    P.lenient.observer o n = P.observer o n :=
  if_pos hn

/-- Log observers are discreet in the lenient program. -/
theorem Logs.isDiscreet (logs : P.Logs R) (o : ObserverId) : P.lenient.IsDiscreet R o := by
  intro n
  obtain ⟨l, handle, ho, hhandle⟩ := logs o
  cases hn : n.isLoggable with
  | true =>
      rw [lenient_observer hn, ho]
      exact l.observe_discreet hhandle hn
  | false =>
      have hnothing : P.lenient.observer o n = .done .unit none := if_neg (by simp [hn])
      rw [hnothing]
      exact .done .unit none

end Program

/-- What a leader tells after its constructor can be logged if the fault of the constructor can. -/
theorem Outcome.isLoggable_conclude {o : Outcome} {s : Slot} {f : FlightId}
    (ho : ∀ x e, o = .returned x (some e) → e.Loggable) {event : Event} {fault : Option Fault}
    {next : Phase} (h : o.conclude s f = .announce event fault next) :
    (s.notice event fault).isLoggable = true := by
  cases o with
  | panicked p =>
      obtain ⟨rfl, rfl, -⟩ := Phase.announce.inj h
      rfl
  | returned x e =>
      cases e with
      | none => cases h
      | some e =>
          have he := ho x e rfl
          simp only [Outcome.conclude] at h
          cases hp : e.findPanic with
          | crashed =>
              rw [hp] at h
              cases h
          | absent | found | hollow =>
              rw [hp] at h
              obtain ⟨rfl, rfl, -⟩ := Phase.announce.inj h
              exact he.resolve_right (by simp [hp])

namespace World

variable {P : Program σ} {t : ThreadId} {w w' w₀ : World σ} {th : Thread σ} {a : Accessor}
  {h : List (Move σ)} {S B : List (Frame σ)} {V : RegistryId → Slot → Prop}

/-- What the requests are about to tell can be logged. -/
def TellsLoggable (w : World σ) : Prop :=
  ∀ (t : ThreadId) (a : Accessor) (event : Event) (fault : Option Fault) (next : Phase)
    (S : List (Frame σ)), w.threads[t]? = some ⟨.requesting a (.announce event fault next), S⟩ →
    (a.slot.notice event fault).isLoggable = true

/-- A turn leads to an announcement that can be logged. -/
theorem Turn.isLoggable {event : Event} {fault : Option Fault} {next : Phase}
    (turn : Turn P t w w' th ⟨.requesting a (.announce event fault next), S⟩) (hp : th.Proper)
    (hmade : ∀ a x e, th.concluded? = some (a, .returned x (some e)) → e.Loggable) :
    (a.slot.notice event fault).isLoggable = true := by
  generalize hth' : (⟨.requesting a (.announce event fault next), S⟩ : Thread σ) = th' at turn
  cases turn with
  | hit | release | find | clear =>
      cases hth'
      rfl
  | @conclude o b f S hq =>
      obtain ⟨hfocus, rfl⟩ := Thread.mk.inj hth'
      obtain ⟨rfl, hk⟩ := Focus.requesting.inj hfocus
      exact Outcome.isLoggable_conclude (fun x e ho => hmade a x e (ho ▸ rfl)) hk.symm
  | observed =>
      cases hth'
      cases hp with
      | returning hS =>
          cases hS with
          | observation hn hS => exact (hn.ne_announce rfl).elim
  | skip =>
      cases hth'
      cases hp with
      | requesting hp hS => exact ((hp _ _ _ rfl).ne_announce rfl).elim
  | call => split at hth' <;> cases hth'
  | _ => cases hth'

theorem TellsLoggable.step (htells : w.TellsLoggable) (hw : w.Valid) (hs : w.step P t = some w')
    (hmade : ∀ a x e, w.threads[t]?.bind Thread.concluded? = some (a, .returned x (some e)) →
      e.Loggable) : w'.TellsLoggable := by
  intro u a event fault next S hu
  obtain ⟨th, th', ht, hset, turn⟩ := step_turn hs
  obtain ⟨rfl, rfl⟩ | ⟨-, hu⟩ := threads_cases (getElem?_threads_set ht hset) hu
  · refine turn.isLoggable (hw.proper _ _ ht) fun a x e he => hmade a x e ?_
    rw [ht]
    exact he
  · exact htells u a event fault next S hu

/-- If all faults that constructors returned can be logged, so can all that requests tell. -/
theorem Run.tellsLoggable (run : Run P w₀ h w) (fresh : w₀.Fresh)
    (hmade : ∀ a x e, (a, .returned x (some e)) ∈ conclusions h → e.Loggable) :
    w.TellsLoggable := by
  refine run.keeps (I := fun g w => (∀ a x e, (a, .returned x (some e)) ∈ conclusions g →
    e.Loggable) → w.TellsLoggable) fresh (fun _ => ?_) (fun {g v t w} hv ih hs hmade => ?_) hmade
  · intro t a event fault next S ht
    obtain ⟨c, hc⟩ := fresh.threads _ (List.mem_of_getElem? ht)
    cases hc
  · rw [conclusions, filterMap_append_singleton] at hmade
    refine (ih fun a x e he => hmade a x e (List.mem_append_left _ he)).step hv hs
      fun a x e he => hmade a x e (List.mem_append_right _ ?_)
    rw [Move.actor?, he]
    exact List.mem_singleton_self _

/-- A step is one of the lenient program as well if nobody is handed what cannot be logged. -/
theorem step_lenient (htells : w.TellsLoggable)
    (hdirect : ∀ o n next S, w.threads[t]? = some ⟨.running (.notify o n next), S⟩ →
      n.isLoggable = true) : w.step P.lenient t = w.step P t := by
  rw [step, step]
  cases ht : w.threads[t]? with
  | none => rfl
  | some th =>
      obtain ⟨focus, S⟩ := th
      cases focus with
      | returning o => rfl
      | running c =>
          cases c with
          | notify o n next =>
              simp only [stepCode, Program.lenient_observer (hdirect o n next S ht)]
          | _ => rfl
      | requesting a p =>
          cases p with
          | announce event fault next =>
              have hn := htells t a event fault next S ht
              simp only [stepRequest, Program.lenient_observer hn]
          | _ => rfl

/-- A run in which constructors return only faults that can be logged is a run of the lenient
program. -/
theorem Run.lenient (run : Run P w₀ h w) (fresh : w₀.Fresh)
    (hmade : ∀ a x e, (a, .returned x (some e)) ∈ conclusions h → e.Loggable)
    (hdirect : ∀ m ∈ h, ∀ o n next S, m.actor? = some ⟨.running (.notify o n next), S⟩ →
      n.isLoggable = true) : Run P.lenient w₀ h w := by
  refine run.congr fun m hm => step_lenient ?_ (hdirect m hm)
  obtain ⟨h₁, h₂, rfl, run₁, -, -⟩ := run.split hm
  refine run₁.tellsLoggable fresh fun a x e he => hmade a x e ?_
  rw [conclusions, List.filterMap_append]
  exact List.mem_append_left _ he

/-! ### Faults that cannot be logged -/

/-- A log observer that is told a fault that is not legible panics, and the leader is about to crash
its flight. -/
theorem Valid.crashes {R : σ → τ → Prop} (hw : w.Valid) (logs : P.Logs R)
    {o : ObserverId} (ho : w.observer? a.registry = some o) {e : Fault} (he : e.isLegible = false)
    {f : FlightId} {l : Landing} (hn : w.stored? a.registry a.slot = none)
    (ht : w.threads[t]? = some ⟨.requesting a (.announce .failure (some e) (.land f l)), B⟩) :
    ∃ w', Leg.To P t V a B w (.land f (.crash .nilDereference)) w' ∧
      w'.stored? a.registry a.slot = none := by
  obtain ⟨logger, handle, hobs, -⟩ := logs o
  have hraise : P.observer o (a.slot.notice .failure (some e)) = .raise .nilDereference := by
    rw [hobs]
    exact logger.observe_of_not_isLoggable handle (by simp [Notice.isLoggable, Slot.notice, he])
  obtain ⟨w₁, th₁, hs₁, ht₁, turn⟩ := exists_turn_of_not_stuck (P := P) ht (by rintro ⟨⟩)
  have leg₁ := Leg.request (V := V) hw ht ht₁ hs₁
  cases turn with
  | lost hq hr => simp [observer?, hr] at ho
  | skip hq hr hno => simp [observer?, hr, hno] at ho
  | @announce _ _ _ _ _ o' reg hq hr ho' =>
      have hsame : o' = o := by simpa [observer?, hr, ho'] using ho
      rw [hsame, hraise] at ht₁ leg₁
      have hw₁ := hw.step hs₁
      have leg₂ : Leg P t (Besides V a) (.observation a (.land f l) :: B) w₁
          ⟨.returning (.panicked .nilDereference), .observation a (.land f l) :: B⟩ _ :=
        .code hw₁ ht₁ rfl
      have leg₁₂ := leg₁.trans (leg₂.rebase (List.suffix_cons ..))
      obtain ⟨w₃, th₃, hs₃, ht₃, turn⟩ :=
        exists_turn_of_not_stuck (P := P) leg₂.thread (by rintro ⟨⟩)
      cases turn with
      | interrupt hq hf => cases hf
      | crash hq₃ hf =>
          obtain rfl := Option.some.inj hf
          refine ⟨w₃, leg₁₂.trans (.plain (leg₁₂.reaches.valid hw) leg₂.thread ht₃ hs₃
            (List.suffix_cons ..) (by simp) rfl), ?_⟩
          exact (hq₃.agree.stored _ _).trans ((hq.agree.stored _ _).trans hn)

/-- A leader whose constructor returned a fault that cannot be logged crashes its flight, if its
registry has a log observer. -/
theorem Valid.crash_of_not_loggable {R : σ → τ → Prop} (hw : w.Valid) (logs : P.Logs R)
    (hset : w.IsSetUp a.registry) {o : ObserverId} (ho : w.observer? a.registry = some o)
    {e : Fault} (he : ¬ e.Loggable) {x : Value} {f : FlightId}
    (ht : w.threads[t]? = some ⟨.returning (.returned x (some e)), .construction a f :: B⟩) :
    ∃ w', Reaches P t w w' ∧
      w'.threads[t]? = some ⟨.returning (.panicked (.flight .nilDereference)), B⟩ ∧
      w'.landing? f = some (.crash .nilDereference) := by
  have hconclude : ∃ l, (Outcome.returned x (some e)).conclude a.slot f =
      .announce .failure (some e) (.land f l) := by
    simp only [Outcome.conclude]
    cases hp : e.findPanic with
    | crashed => exact (he (Or.inr hp)).elim
    | absent | found | hollow => exact ⟨_, rfl⟩
  obtain ⟨l, hl⟩ := hconclude
  have hlegible : e.isLegible = false := Bool.eq_false_iff.mpr fun hl => he (Or.inl hl)
  obtain ⟨w₁, th₁, hs₁, ht₁, turn⟩ := exists_turn_of_not_stuck (P := P) ht (by rintro ⟨⟩)
  have hn := (hw.consistent.sound ht (q := ⟨a, .build f⟩) (List.mem_cons_self ..)).2
  cases turn with
  | conclude hq =>
      rw [hl] at ht₁
      have ho₁ : w₁.observer? a.registry = some o := by rw [observer?, hq.registries]; exact ho
      have hr₁ : Reaches P t w w₁ := .single hs₁
      obtain ⟨w₂, leg₂, hn₂⟩ := (hw.step hs₁).crashes (V := SlotsOf []) logs ho₁ hlegible
        ((hq.agree.stored _ _).trans hn) ht₁
      have hr₂ := hr₁.trans leg₂.reaches
      obtain ⟨w₃, leg₃, hidle, -⟩ := IsSetUp.lands (P := P) (V := SlotsOf [])
        (K := fun _ _ => false) (hr₂.valid hw) (hr₂.isSetUp hset) leg₂.thread
      have hr₃ := hr₂.trans leg₃.reaches
      have hland := ((hr₃.valid hw).consistent.sound leg₃.thread
        (q := ⟨a, .settle f (.crash .nilDereference)⟩) (List.mem_cons_self ..)).2
      obtain ⟨w₄, leg₄, -⟩ := hidle.settles (P := P) (V := SlotsOf []) (K := fun _ _ => false)
        (hr₃.valid hw) leg₃.thread
      obtain ⟨g, run, -⟩ := leg₄.way
      exact ⟨w₄, hr₃.trans leg₄.reaches, leg₄.thread,
        run.landing? (hr₃.valid hw).consistent hland⟩

/-- Log observers do not interfere as long as all faults that constructors return can be logged. A
run without them, in which the remaining steps are made in the same order, has the same calls,
which end in the same way, the same constructors start and end in the same order, every thread
ends with the same outcome, and the registries, but for their observers, and the flights are the
same. The threshold and the fields of the loggers do not matter. But where a constructor returns
a fault that cannot be logged, and the registry has a log observer, the flight crashes on the
panic of the observer: its leader and all who wait for it get this panic in place of the fault.

Code that hands notices to observers by itself hands on only what can be logged. -/
theorem Run.log_observers_inert {P : Program σ} {P' : Program τ} {R : σ → τ → Prop}
    {w₀ w : World σ} {w₀' : World τ} {h : List (Move σ)} (run : Run P w₀ h w) (fresh : w₀.Fresh)
    (logs : P.Logs R) (hP : ∀ k, (P.maker k).Unobserved P.lenient P' R (P'.maker k))
    (hw₀ : w₀.Unobserved P.lenient P' R w₀')
    (hdirect : ∀ m ∈ h, ∀ o n next S, m.actor? = some ⟨.running (.notify o n next), S⟩ →
      n.isLoggable = true) :
    ((∀ a x e, (a, .returned x (some e)) ∈ conclusions h → e.Loggable) →
      (w₀'.history P' (remainingTurns h)).map Move.thread = remainingTurns h ∧
      trace (w₀'.history P' (remainingTurns h)) = (trace h).filter (fun x => !x.sign.isTold) ∧
      conclusions (w₀'.history P' (remainingTurns h)) = conclusions h ∧
      (∀ t : ThreadId, (w₀'.run P' (remainingTurns h)).threads[t]?.bind Thread.outcome? =
        w.threads[t]?.bind Thread.outcome?) ∧
      (w₀'.run P' (remainingTurns h)).registries = w.registries.map (fun reg => reg.attach none) ∧
      (w₀'.run P' (remainingTurns h)).flights = w.flights) ∧
    ∀ t a f x e B o, ¬ e.Loggable → w.IsSetUp a.registry → w.observer? a.registry = some o →
      w.threads[t]? = some ⟨.returning (.returned x (some e)), .construction a f :: B⟩ →
      ∃ w', Reaches P t w w' ∧
        w'.threads[t]? = some ⟨.returning (.panicked (.flight .nilDereference)), B⟩ ∧
        w'.landing? f = some (.crash .nilDereference) := by
  constructor
  · intro hmade
    obtain ⟨h', w', run', hw, hturns, htrace, hconc⟩ :=
      (run.lenient fresh hmade hdirect).unobserved hP hw₀
    obtain ⟨rfl, hh⟩ := run'.eq_of_turns
    rw [hturns] at hh hw
    subst hh
    exact ⟨hturns, htrace, hconc, hw.outcome?_eq, hw.registries, hw.flights⟩
  · intro t a f x e B o he hset ho ht
    exact (run.valid fresh).crash_of_not_loggable logs hset ho he ht

end World

/-! ### A journal of failures -/

namespace Sample

/-- A label around an absent pointer, which has a message. -/
def vague : Fault := .labelled "disk" (some .absentPointer)

/-- The first constructor returns a fault with a message, the others return one without. -/
def failing {σ : Type} (k : ConstructorId) : Code σ :=
  .done .unit (some (if k = 0 then vague else .absentPointer))

/-- All observers write their entries to a journal. -/
def journalling (level : Level) : Program (List LogEntry) where
  maker := failing
  observer _ := Logger.observe ⟨level, {}⟩ fun entry _ journal => journal ++ [entry]
  isOpen _ _ := true

/-- The same constructors without a journal. -/
def unjournalled : Program Unit := { program seven with maker := failing }

/-- Calls an accessor and ends as the call does. -/
def asking {σ : Type} (a : Accessor) : Code σ :=
  .call a fun
    | .returned v e => .done v e
    | .panicked p => .raise p

/-- Two threads that call accessors with different constructors. -/
def journalled : World (List LogEntry) where
  registries := [.new [some 0]]
  threads := [.start (asking accessor), .start (asking inner)]
  state := []

/-- The same threads without an observer. -/
def unwritten : World Unit where
  registries := [.new []]
  threads := [.start (asking accessor), .start (asking inner)]
  state := ()

/-- What was written does not count. -/
def Unread (_ : List LogEntry) (_ : Unit) : Prop := True

theorem journalled_fresh : journalled.Fresh := by
  refine ⟨fun reg h => ⟨false, [some 0], List.mem_singleton.mp h⟩, rfl, fun th h => ?_⟩
  rcases List.mem_cons.mp h with rfl | h
  · exact ⟨_, rfl⟩
  · exact ⟨_, List.mem_singleton.mp h⟩

theorem journalling_logs (level : Level) : (journalling level).Logs Unread :=
  fun _ => ⟨_, _, rfl, fun _ _ _ _ _ => trivial⟩

theorem asking_unobserved (level : Level) (a : Accessor) :
    (asking a).Unobserved (journalling level).lenient unjournalled Unread (asking a) := by
  refine .call fun o => ?_
  cases o with
  | returned v e => exact .done v e
  | panicked p => exact .raise p

theorem journalled_unobserved (level : Level) :
    journalled.Unobserved (journalling level).lenient unjournalled Unread unwritten := by
  refine ⟨rfl, rfl, rfl, trivial, fun _ _ o _ => (journalling_logs level).isDiscreet o,
    fun t => ?_⟩
  match t with
  | 0 | 1 => exact .some (.level (.running (asking_unobserved level _)) .nil)
  | _ + 2 => exact .none

/-- The first call is over, and the constructor of the second has returned. -/
def journalSchedule : List ThreadId :=
  List.replicate 5 1 ++ List.replicate 20 0 ++ List.replicate 6 1

/-- The steps up to there. -/
def journalHistory : List (Move (List LogEntry)) :=
  journalled.history (journalling .debug) journalSchedule

/-- The world after them. -/
def journalEnd : World (List LogEntry) := journalled.run (journalling .debug) journalSchedule

/-- The thread hands a notice to an observer by its own code. -/
def isNotifying {σ : Type} : Thread σ → Bool
  | ⟨.running (.notify _ _ _), _⟩ => true
  | _ => false

end Sample

/-- The journal has the failure of the first call, which ends as it does without a journal. The
fault of the second constructor has no message, and its flight is going to crash. -/
theorem World.Run.log_observers_inert_journal :
    Sample.journalEnd.state.map LogEntry.message =
      ["constructing singleton", "singleton construction failed", "constructing singleton"] ∧
    trace (Sample.unwritten.history Sample.unjournalled (remainingTurns Sample.journalHistory)) =
      (trace Sample.journalHistory).filter (fun x => !x.sign.isTold) ∧
    (Sample.unwritten.run Sample.unjournalled
      (remainingTurns Sample.journalHistory)).threads[0]?.bind Thread.outcome? =
        some (.returned (.number 0)
          (some (.construction (some Sample.slot.type) "" (some Sample.vague)))) ∧
    ∃ w' B, Reaches (Sample.journalling .debug) 1 Sample.journalEnd w' ∧
      w'.threads[1]? = some ⟨.returning (.panicked (.flight .nilDereference)), B⟩ ∧
      w'.landing? 0 = some (.crash .nilDereference) := by
  have hnotify : ∀ m ∈ Sample.journalHistory, m.actor?.any Sample.isNotifying = false := by
    decide +kernel
  obtain ⟨hinert, hcrash⟩ := Run.log_observers_inert
    (run_of_schedule (Sample.journalling .debug) Sample.journalled Sample.journalSchedule)
    Sample.journalled_fresh (Sample.journalling_logs .debug) (fun _ => .done _ _)
    (Sample.journalled_unobserved .debug) fun m hm o n next S hactor => by
      have hmute := hnotify m hm
      rw [hactor] at hmute
      cases hmute
  obtain ⟨-, htrace, -, houtcome, -, -⟩ := hinert fun a x e he => by
    obtain ⟨⟩ : (a, .returned x (some e)) =
      (Sample.accessor, Outcome.returned .unit (some Sample.vague)) := List.mem_singleton.mp he
    exact Or.inl rfl
  have hodd : ¬ Fault.absentPointer.Loggable := by
    rintro (hm | hp)
    · cases hm
    · cases hp
  obtain ⟨w', hr, ht, hl⟩ := hcrash 1 Sample.inner 0 .unit .absentPointer _ 0 hodd
    ⟨_, rfl, rfl⟩ rfl rfl
  exact ⟨rfl, htrace, houtcome 0, w', _, hr, ht, hl⟩

/-- With a log observer that lets hardly anything through, the call of a constructor whose fault has
no message panics; without it, the call returns the fault as the failure of its construction. -/
theorem World.Run.log_observers_interfere :
    (Sample.journalled.run (Sample.journalling .fatal)
      (List.replicate 18 1)).threads[1]?.bind Thread.outcome? =
        some (.panicked (.flight .nilDereference)) ∧
    (Sample.unwritten.run Sample.unjournalled
      (List.replicate 14 1)).threads[1]?.bind Thread.outcome? =
        some (.returned (.number 0)
          (some (.construction (some Sample.slot.type) "inner" (some .absentPointer)))) :=
  ⟨rfl, rfl⟩

end InstanceRegistry
