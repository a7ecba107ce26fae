import InstanceRegistry.Proofs.Identifier
import InstanceRegistry.Proofs.Stack

/-!
# Requests under way

A thread is inside several requests at once: a constructor may call accessors, and
while it does, its own request is still under way further down the stack. Seen as
the list of its requests, innermost first, a step of a thread opens a request,
closes the innermost one or moves it to another phase. `Shift` lists these changes
together with what they do to the tables of the registries and to the flights; only
getting an identifier, taking off, storing and landing show there at all.

## Implementation notes

An announcement is left aside: a request that tells its observer something is in the
phase that it goes on with afterwards. A request whose constructor runs is in the
phase in which it started the constructor.
-/

namespace InstanceRegistry

variable {σ : Type}

/-- The phase that a request goes on with after its announcements. -/
def Phase.core : Phase → Phase
  | .announce _ _ next => next.core
  | .check => .check
  | .identify => .identify
  | .board id => .board id
  | .wait f => .wait f
  | .recheck f => .recheck f
  | .build f => .build f
  | .keep f v => .keep f v
  | .land f l => .land f l
  | .settle f l => .settle f l
  | .finish o => .finish o

/-- The phase after an announcement is no announcement itself. -/
theorem Announced.core_eq {event : Event} {fault : Option Fault} {next : Phase}
    (h : Announced event fault next) : next.core = next := by
  cases h <;> rfl

@[simp] theorem Phase.flight?_core (p : Phase) : p.core.flight? = p.flight? := by
  induction p with
  | announce _ _ next ih => simpa [Phase.core, Phase.flight?] using ih
  | _ => rfl

/-- After its constructor the leader keeps the instance, if there is one without a fault, and
otherwise lands the flight without an instance. -/
theorem Outcome.conclude_core (o : Outcome) (s : Slot) (f : FlightId) :
    (∃ v, o = .returned v none ∧ (o.conclude s f).core = .keep f (s.type.box v)) ∨
      ∃ l, (∀ v, o ≠ .returned v none) ∧ (∀ v, l ≠ .value v) ∧
        (o.conclude s f).core = .land f l := by
  cases o with
  | panicked p => exact Or.inr ⟨_, by simp, by simp, rfl⟩
  | returned v e =>
      cases e with
      | none => exact Or.inl ⟨v, rfl, rfl⟩
      | some e =>
          right
          simp only [Outcome.conclude]
          cases e.findPanic <;> exact ⟨_, by simp, by simp, rfl⟩

/-- A request under way. -/
structure Request where
  accessor : Accessor
  phase : Phase

/-- The flight that a request leads. -/
def Request.flight? (q : Request) : Option FlightId := q.phase.flight?

/-- The request that is under way in a focus. -/
def Focus.request? : Focus σ → Option Request
  | .requesting a p => some ⟨a, p.core⟩
  | .running _ | .returning _ => none

/-- The request that is under way in a frame. -/
def Frame.request? : Frame σ → Option Request
  | .construction a f => some ⟨a, .build f⟩
  | .observation a next => some ⟨a, next.core⟩
  | .resume _ | .caller _ _ | .again _ => none

/-- The requests that a thread is inside of, the innermost first. -/
def Thread.requests (th : Thread σ) : List Request :=
  th.focus.request?.toList ++ th.stack.filterMap Frame.request?

/-- The flights that a thread leads, the innermost first. -/
def Thread.leads (th : Thread σ) : List FlightId :=
  th.requests.filterMap Request.flight?

namespace World

/-- The instance that a registry stores under a slot. -/
def stored? (w : World σ) (r : RegistryId) (s : Slot) : Option Value :=
  w.registries[r]?.bind fun reg => reg.store.get? s

/-- The identifier that a registry gave to a slot. -/
def id? (w : World σ) (r : RegistryId) (s : Slot) : Option String :=
  w.registries[r]?.bind fun reg => reg.ids.get? s

/-- The flight that a registry has under an identifier. -/
def inFlight? (w : World σ) (r : RegistryId) (id : String) : Option FlightId :=
  w.registries[r]?.bind fun reg => reg.flights.get? id

/-- Tables and flights are the same in both worlds. -/
structure Agree (w w' : World σ) : Prop where
  stored : ∀ r s, w'.stored? r s = w.stored? r s
  id : ∀ r s, w'.id? r s = w.id? r s
  inFlight : ∀ r id, w'.inFlight? r id = w.inFlight? r id
  flights : w'.flights = w.flights

end World

/-- What can happen in a flight on the way to its landing. -/
inductive Incident where
  /-- The leader found an instance. -/
  | found (f : FlightId) (v : Value)
  /-- The constructor ended. -/
  | concluded (a : Accessor) (f : FlightId) (o : Outcome)
  /-- The leader stored an instance. -/
  | stored (f : FlightId) (v : Value)
  /-- The observer panicked before the leader was in the given phase. -/
  | broken (p : Phase) (f : FlightId) (value : Panic)

/-- The flight that an incident belongs to. -/
def Incident.flight : Incident → FlightId
  | .found f _ | .concluded _ f _ | .stored f _ | .broken _ f _ => f

/-- What the next step of a thread means for a flight that it leads. -/
def World.incident? (w : World σ) (t : ThreadId) : Option Incident :=
  match w.threads[t]? with
  | some ⟨.requesting a (.recheck f), _⟩ => (w.stored? a.registry a.slot).map (.found f)
  | some ⟨.requesting a (.keep f v), _⟩ =>
    if (w.registries[a.registry]?).any Registry.writable then some (.stored f v) else none
  | some ⟨.returning o, .construction a f :: _⟩ => some (.concluded a f o)
  | some ⟨.returning (.panicked p), .observation _ next :: _⟩ =>
    next.flight?.map fun f => .broken next.core f p
  | _ => none

/-- The incident of a move. -/
def Move.incident? (m : Move σ) : Option Incident := m.before.incident? m.thread

namespace World

/-- The changes of phase that leave all tables and flights as they are. -/
inductive Advance (w : World σ) (a : Accessor) : Option Incident → Phase → Phase → Prop
  | hit {v} (hv : w.stored? a.registry a.slot = some v) :
      Advance w a none .check (.finish (.returned (a.slot.type.unbox v) none))
  | miss (hv : w.stored? a.registry a.slot = none) : Advance w a none .check .identify
  | join {id f} (hf : w.inFlight? a.registry id = some f) :
      Advance w a none (.board id) (.wait f)
  | release {f l} (hl : w.landing? f = some l) : Advance w a none (.wait f) (.settle f l)
  | find {f v} (hv : w.stored? a.registry a.slot = some v) :
      Advance w a (some (.found f v)) (.recheck f) (.land f (.value v))
  | clear {f} (hv : w.stored? a.registry a.slot = none) :
      Advance w a none (.recheck f) (.build f)
  | conclude {f o} :
      Advance w a (some (.concluded a f o)) (.build f) (o.conclude a.slot f).core
  | spill {f v reg} (hr : w.registries[a.registry]? = some reg) (hb : reg.writable = false) :
      Advance w a none (.keep f v) (.land f (.crash (.runtime .nilMapWrite)))
  | crash {p f v} (hp : p.flight? = some f) :
      Advance w a (some (.broken p f v)) p (.land f (.crash v))

/-- What a step of a thread does to the requests that it is inside of. -/
inductive Shift (t : ThreadId) (w w' : World σ) :
    Option Incident → List Request → List Request → Prop
  | idle {R} (ha : Agree w w') : Shift t w w' none R R
  | opens {a R} (ha : Agree w w') : Shift t w w' none R (⟨a, .check⟩ :: R)
  /-- A request that leads a flight is closed only if its registry has no flights at all. -/
  | closes {a p R} (ha : Agree w w')
      (hp : ∀ f, p.flight? = some f → ∀ id, w.inFlight? a.registry id = none) :
      Shift t w w' none (⟨a, p⟩ :: R) R
  | advance {a i p p' R} (ha : Agree w w') (h : Advance w a i p p') :
      Shift t w w' i (⟨a, p⟩ :: R) (⟨a, p'⟩ :: R)
  | identify {a id R} (hs : ∀ r s, w'.stored? r s = w.stored? r s)
      (hi : ∀ r i, w'.inFlight? r i = w.inFlight? r i) (hf : w'.flights = w.flights)
      (hn : w.id? a.registry a.slot = none ∨ w.id? a.registry a.slot = some id)
      (hid : ∀ r s, w'.id? r s = if r = a.registry ∧ s = a.slot then some id else w.id? r s) :
      Shift t w w' none (⟨a, .identify⟩ :: R) (⟨a, .board id⟩ :: R)
  | takeOff {a id R} (hs : ∀ r s, w'.stored? r s = w.stored? r s)
      (hid : ∀ r s, w'.id? r s = w.id? r s) (hn : w.inFlight? a.registry id = none)
      (hi : ∀ r i, w'.inFlight? r i =
        if r = a.registry ∧ i = id then some w.flights.length else w.inFlight? r i)
      (hf : ∀ g, w'.flights[g]? =
        if g = w.flights.length then some ⟨a.registry, a.slot, id, t, none⟩ else w.flights[g]?) :
      Shift t w w' none (⟨a, .board id⟩ :: R) (⟨a, .recheck w.flights.length⟩ :: R)
  | keep {a f v R} (hid : ∀ r s, w'.id? r s = w.id? r s)
      (hi : ∀ r i, w'.inFlight? r i = w.inFlight? r i) (hf : w'.flights = w.flights)
      (hs : ∀ r s, w'.stored? r s =
        if r = a.registry ∧ s = a.slot then some v else w.stored? r s) :
      Shift t w w' (some (.stored f v)) (⟨a, .keep f v⟩ :: R) (⟨a, .land f (.value v)⟩ :: R)
  | land {a f flight l R} (hs : ∀ r s, w'.stored? r s = w.stored? r s)
      (hid : ∀ r s, w'.id? r s = w.id? r s) (hfl : w.flights[f]? = some flight)
      (hi : ∀ r i, w'.inFlight? r i =
        if r = a.registry ∧ i = flight.id then none else w.inFlight? r i)
      (hf : ∀ g, w'.flights[g]? =
        if g = f then some { flight with landing := some l } else w.flights[g]?) :
      Shift t w w' none (⟨a, .land f l⟩ :: R) (⟨a, .settle f l⟩ :: R)

section Views

variable {α : Type} {regs regs' : List Registry} {r : RegistryId} {reg reg' : Registry}

/-- Looking into registries of which one was replaced. -/
theorem bind_getElem?_set (hr : regs[r]? = some reg) (view : Registry → Option α)
    (r' : RegistryId) :
    (regs.set r reg')[r']?.bind view = if r' = r then view reg' else regs[r']?.bind view := by
  obtain ⟨hlt, -⟩ := List.getElem?_eq_some_iff.mp hr
  by_cases h : r' = r
  · subst h
    simp [hlt]
  · simp [List.getElem?_set_ne (Ne.symm h), h]

/-- What code does to the registries does not show in a table that is empty at first and does
not depend on the observer. -/
theorem bind_getElem?_rearranged (h : Rearranged regs regs') {view : Registry → Option α}
    (hmake : ∀ bare observers, view (.make bare observers) = none)
    (hattach : ∀ reg o, view (Registry.attach reg o) = view reg) (r' : RegistryId) :
    regs'[r']?.bind view = regs[r']?.bind view := by
  cases h with
  | kept => rfl
  | added bare observers =>
      rcases Nat.lt_trichotomy r' regs.length with hlt | heq | hgt
      · rw [List.getElem?_append_left hlt]
      · subst heq
        simp [hmake]
      · simp only [List.getElem?_append_right (Nat.le_of_lt hgt),
          List.getElem?_eq_none (Nat.le_of_lt hgt)]
        rw [List.getElem?_eq_none (by simp; omega)]
  | attached o hr =>
      rw [bind_getElem?_set hr, hattach]
      split
      · rename_i h
        rw [h, hr]
        rfl
      · rfl

end Views

section Agreement

variable {w w' : World σ} {r : RegistryId} {reg reg' : Registry}

theorem stored?_of_get (hr : w.registries[r]? = some reg) (s : Slot) :
    w.stored? r s = reg.store.get? s := by
  simp [stored?, hr]

theorem id?_of_get (hr : w.registries[r]? = some reg) (s : Slot) :
    w.id? r s = reg.ids.get? s := by
  simp [id?, hr]

theorem inFlight?_of_get (hr : w.registries[r]? = some reg) (id : String) :
    w.inFlight? r id = reg.flights.get? id := by
  simp [inFlight?, hr]

/-- Replacing a registry by one with the same store does not show in what is stored. -/
theorem stored?_of_set (hr : w.registries[r]? = some reg)
    (hw : w'.registries = w.registries.set r reg') (hs : reg'.store = reg.store)
    (r' : RegistryId) (s : Slot) : w'.stored? r' s = w.stored? r' s := by
  rw [stored?, hw, bind_getElem?_set hr, hs]
  split
  · rename_i h
    rw [h, stored?_of_get hr]
  · rfl

/-- Replacing a registry by one with the same identifiers does not show in them. -/
theorem id?_of_set (hr : w.registries[r]? = some reg)
    (hw : w'.registries = w.registries.set r reg') (hs : reg'.ids = reg.ids)
    (r' : RegistryId) (s : Slot) : w'.id? r' s = w.id? r' s := by
  rw [id?, hw, bind_getElem?_set hr, hs]
  split
  · rename_i h
    rw [h, id?_of_get hr]
  · rfl

/-- Replacing a registry by one with the same flights does not show in them. -/
theorem inFlight?_of_set (hr : w.registries[r]? = some reg)
    (hw : w'.registries = w.registries.set r reg') (hs : reg'.flights = reg.flights)
    (r' : RegistryId) (id : String) : w'.inFlight? r' id = w.inFlight? r' id := by
  rw [inFlight?, hw, bind_getElem?_set hr, hs]
  split
  · rename_i h
    rw [h, inFlight?_of_get hr]
  · rfl

theorem Quiet.agree (hq : Quiet w w') : Agree w w' := by
  constructor <;> simp [stored?, id?, inFlight?, hq.registries, hq.flights]

/-- What code does to the registries does not show in their tables. -/
theorem agree_of_rearranged (hr : Rearranged w.registries w'.registries)
    (hf : w'.flights = w.flights) : Agree w w' := by
  refine ⟨fun r s => ?_, fun r s => ?_, fun r id => ?_, hf⟩
  · exact bind_getElem?_rearranged hr (fun b _ => by cases b <;> rfl) (fun _ _ => rfl) r
  · exact bind_getElem?_rearranged hr (fun b _ => by cases b <;> rfl) (fun _ _ => rfl) r
  · exact bind_getElem?_rearranged hr (fun b _ => by cases b <;> rfl) (fun _ _ => rfl) r

/-- Getting an identifier does not show in what is stored. -/
theorem stored?_of_identify {s : Slot} {result : Except Panic String}
    (hr : w.registries[r]? = some reg) (hi : reg.identify s = (result, reg'))
    (hw : Writes w w' r reg') (r' : RegistryId) (s' : Slot) :
    w'.stored? r' s' = w.stored? r' s' := by
  obtain ⟨ids, last, rfl⟩ := Registry.identify_frame hi
  exact stored?_of_set hr hw.registries rfl r' s'

/-- The identifiers after one was got. -/
theorem id?_of_identify {s : Slot} {id : String} (hr : w.registries[r]? = some reg)
    (hi : reg.identify s = (.ok id, reg')) (hw : Writes w w' r reg') (r' : RegistryId)
    (s' : Slot) : w'.id? r' s' = if r' = r ∧ s' = s then some id else w.id? r' s' := by
  rw [id?, hw.registries, bind_getElem?_set hr]
  by_cases hrr : r' = r
  · obtain ⟨hs, rfl⟩ | ⟨-, -, -, rfl⟩ := Registry.identify_ok hi
    · by_cases hss : s' = s <;> simp [hrr, hss, hs, id?_of_get hr]
    · by_cases hss : s' = s <;> simp [hrr, hss, id?_of_get hr]
  · simp [hrr, id?]

/-- What is stored after an instance was kept. -/
theorem stored?_of_keep {s : Slot} {v : Value} (hr : w.registries[r]? = some reg)
    (hw : Writes w w' r (reg.keep s v)) (r' : RegistryId) (s' : Slot) :
    w'.stored? r' s' = if r' = r ∧ s' = s then some v else w.stored? r' s' := by
  rw [stored?, hw.registries, bind_getElem?_set hr]
  by_cases hrr : r' = r
  · by_cases hs : s' = s <;> simp [hrr, hs, Registry.keep, stored?_of_get hr]
  · simp [hrr, stored?]

/-- Giving no identifier does not show in the tables. -/
theorem agree_of_refuse {s : Slot} {p : Panic} (hr : w.registries[r]? = some reg)
    (hi : reg.identify s = (.error p, reg')) (hw : Writes w w' r reg') : Agree w w' := by
  obtain ⟨_, rfl⟩ := Registry.identify_error hi
  exact ⟨stored?_of_set hr hw.registries rfl, id?_of_set hr hw.registries rfl,
    inFlight?_of_set hr hw.registries rfl, hw.flights⟩

end Agreement

variable {P : Program σ} {t : ThreadId} {w w' : World σ} {th th' : Thread σ}

/-- The shift in which a slot gets its identifier. -/
theorem shift_identify {a : Accessor} {reg reg' : Registry} {id : String} (R : List Request)
    (hr : w.registries[a.registry]? = some reg) (hi : reg.identify a.slot = (.ok id, reg'))
    (hw : Writes w w' a.registry reg') :
    Shift t w w' none (⟨a, .identify⟩ :: R) (⟨a, .board id⟩ :: R) := by
  have hflights : reg'.flights = reg.flights := by
    obtain ⟨ids, last, rfl⟩ := Registry.identify_frame hi
    rfl
  refine .identify (stored?_of_identify hr hi hw)
    (inFlight?_of_set hr hw.registries hflights) hw.flights ?_ (id?_of_identify hr hi hw)
  rw [id?_of_get hr]
  obtain ⟨hs, -⟩ | ⟨hn, -⟩ := Registry.identify_ok hi
  · exact Or.inr hs
  · exact Or.inl hn

/-- The shift in which a request takes off. -/
theorem shift_takeOff {a : Accessor} {reg : Registry} {id : String} (R : List Request)
    (hr : w.registries[a.registry]? = some reg) (hn : reg.flights.get? id = none)
    (hreg : w'.registries = w.registries.set a.registry (reg.depart id w.flights.length))
    (hf : w'.flights = w.flights ++ [⟨a.registry, a.slot, id, t, none⟩]) :
    Shift t w w' none (⟨a, .board id⟩ :: R) (⟨a, .recheck w.flights.length⟩ :: R) := by
  refine .takeOff (stored?_of_set hr hreg rfl) (id?_of_set hr hreg rfl) ?_ (fun r i => ?_)
    (fun g => ?_)
  · rw [inFlight?_of_get hr, hn]
  · rw [inFlight?, hreg, bind_getElem?_set hr]
    by_cases hra : r = a.registry
    · by_cases hi : i = id <;> simp [hra, hi, Registry.depart, inFlight?_of_get hr]
    · simp [hra, inFlight?]
  · rw [hf]
    by_cases hg : g = w.flights.length
    · simp [hg]
    · rw [if_neg hg, List.getElem?_append]
      split
      · rfl
      · rename_i hlt
        rw [List.getElem?_eq_none (by simp; omega), List.getElem?_eq_none (by omega)]

/-- The shift in which a request lands its flight. -/
theorem shift_land {a : Accessor} {reg : Registry} {f : FlightId} {flight : Flight} {l : Landing}
    (R : List Request) (hr : w.registries[a.registry]? = some reg)
    (hf : w.flights[f]? = some flight)
    (hreg : w'.registries = w.registries.set a.registry (reg.arrive flight.id))
    (hfs : w'.flights = (w.setLanding f l).flights) :
    Shift t w w' none (⟨a, .land f l⟩ :: R) (⟨a, .settle f l⟩ :: R) := by
  refine .land (stored?_of_set hr hreg rfl) (id?_of_set hr hreg rfl) hf (fun r i => ?_)
    (fun g => ?_)
  · rw [inFlight?, hreg, bind_getElem?_set hr]
    by_cases hra : r = a.registry
    · by_cases hi : i = flight.id <;> simp [hra, hi, Registry.arrive, inFlight?_of_get hr]
    · simp [hra, inFlight?]
  · rw [hfs, setLanding]
    by_cases hg : g = f
    · subst hg
      simp [hf]
    · simp [List.getElem?_modify_ne _ _ (Ne.symm hg), hg]

/-- The shift in which a request stores its instance. -/
theorem shift_keep {a : Accessor} {reg : Registry} (f : FlightId) {v : Value} (R : List Request)
    (hr : w.registries[a.registry]? = some reg)
    (hw : Writes w w' a.registry (reg.keep a.slot v)) :
    Shift t w w' (some (.stored f v)) (⟨a, .keep f v⟩ :: R) (⟨a, .land f (.value v)⟩ :: R) := by
  exact .keep (id?_of_set hr hw.registries rfl) (inFlight?_of_set hr hw.registries rfl) hw.flights
    (stored?_of_keep hr hw)

/-- Every turn of a thread is a shift of its requests. -/
theorem Turn.shift (turn : Turn P t w w' th th') (ht : w.threads[t]? = some th) :
    Shift t w w' (w.incident? t) th.requests th'.requests := by
  rw [incident?, ht]
  -- Only four kinds of turn have an incident; elsewhere it reduces to none.
  cases turn with
  | proceed hr hf => exact .idle (agree_of_rearranged hr hf)
  | stop hq => exact .idle hq.agree
  | notify hq => exact .idle hq.agree
  | call hq =>
      change Shift t w w' none _ _
      split
      · exact .opens hq.agree
      · exact .opens hq.agree
  | resume hq => exact .idle hq.agree
  | answer hq => exact .idle hq.agree
  | retry hq => exact .opens hq.agree
  | pass hq ho => exact .idle hq.agree
  | conclude hq => exact .advance hq.agree .conclude
  | observed hq => exact .idle hq.agree
  | crash hq hf =>
      simp only [hf, Option.map_some]
      exact .advance hq.agree (.crash (by rw [Phase.flight?_core, hf]))
  | interrupt hq hf =>
      simp only [hf, Option.map_none]
      exact .closes hq.agree (fun f h => by simp [hf] at h)
  | @lost a p S hq hr =>
      have hi : w.incident? t = none := by
        rw [incident?, ht]
        cases p <;> simp [stored?, hr]
      rw [incident?, ht] at hi
      rw [hi]
      exact .closes hq.agree (fun f _ id => by simp [inFlight?, hr])
  | hit hq hr hv => exact .advance hq.agree (.hit (by rw [stored?_of_get hr, hv]))
  | miss hq hr hv => exact .advance hq.agree (.miss (by rw [stored?_of_get hr, hv]))
  | identify hr hi hw => exact shift_identify _ hr hi hw
  | refuse hr hi hw => exact .closes (agree_of_refuse hr hi hw) (fun f h => by cases h)
  | join hq hr hf => exact .advance hq.agree (.join (by rw [inFlight?_of_get hr, hf]))
  | takeOff hr hn hreg hf => exact shift_takeOff _ hr hn hreg hf
  | share hq hl => exact .closes hq.agree (fun f h => by cases h)
  | release hq hl hn => exact .advance hq.agree (.release hl)
  | find hq hr hv =>
      have hs := (stored?_of_get hr _).trans hv
      simp only [hs, Option.map_some]
      exact .advance hq.agree (.find hs)
  | clear hq hr hv =>
      have hs := (stored?_of_get hr _).trans hv
      simp only [hs, Option.map_none]
      exact .advance hq.agree (.clear hs)
  | build hq => exact .idle hq.agree
  | keep hr hb hw =>
      simp only [hr, Option.any_some, hb, if_true]
      exact shift_keep _ _ hr hw
  | spill hq hr hb =>
      simp only [hr, Option.any_some, hb]
      exact .advance hq.agree (.spill hr hb)
  | land hr hf hreg hfs => exact shift_land _ hr hf hreg hfs
  | settle hq => exact .closes hq.agree (fun f h => by cases h)
  | finish hq => exact .closes hq.agree (fun f h => by cases h)
  | skip hq hr ho => exact .idle hq.agree
  | announce hq hr ho => exact .idle hq.agree

/-- Every step is a shift of the requests of one thread, and no other thread changes. -/
theorem step_shift (hs : w.step P t = some w') :
    ∃ th th' R R', w.threads[t]? = some th ∧
      (∀ u, w'.threads[u]? = if u = t then some th' else w.threads[u]?) ∧
      th.requests = R ∧ th'.requests = R' ∧ ∃ i, w.incident? t = i ∧ Shift t w w' i R R' := by
  obtain ⟨th, th', ht, hset, turn⟩ := step_turn hs
  exact ⟨th, th', _, _, ht, getElem?_threads_set ht hset, rfl, rfl, _, rfl, turn.shift ht⟩

/-- A constructor ends where the thread hands its outcome to the leader. -/
theorem returning_of_concluded {a : Accessor} {f : FlightId} {o : Outcome}
    (hi : w.incident? t = some (.concluded a f o)) :
    ∃ S, w.threads[t]? = some ⟨.returning o, .construction a f :: S⟩ := by
  unfold incident? at hi
  split at hi
  · obtain ⟨_, -, hi⟩ := Option.map_eq_some_iff.mp hi
    cases hi
  · split at hi <;> cases hi
  · rename_i S ht
    cases hi
    exact ⟨S, ht⟩
  · obtain ⟨_, -, hi⟩ := Option.map_eq_some_iff.mp hi
    cases hi
  · cases hi

/-- An observer breaks a flight where the leader has made an announcement. -/
theorem Proper.announced_of_broken (hp : w.Proper) {p : Phase} {f : FlightId} {v : Panic}
    (hi : w.incident? t = some (.broken p f v)) :
    (∃ event fault, Announced event fault p) ∧ p.flight? = some f ∧
      ∃ a S, w.threads[t]? = some ⟨.returning (.panicked v), .observation a p :: S⟩ := by
  unfold incident? at hi
  split at hi
  · obtain ⟨_, -, hi⟩ := Option.map_eq_some_iff.mp hi
    cases hi
  · split at hi <;> cases hi
  · cases hi
  · rename_i q a next S ht
    obtain ⟨g, hg, hi⟩ := Option.map_eq_some_iff.mp hi
    cases hi
    cases hp _ _ ht with
    | returning h =>
        cases h with
        | observation hn h =>
            rw [hn.core_eq]
            exact ⟨⟨_, _, hn⟩, hg, a, S, ht⟩
  · cases hi

/-- The leader of a flight that breaks was exposed to its observer. -/
theorem Proper.exposed (hp : w.Proper) {p : Phase} {f : FlightId} {v : Panic}
    (hi : w.incident? t = some (.broken p f v)) : Exposed f p := by
  obtain ⟨⟨event, fault, hn⟩, hf, -⟩ := hp.announced_of_broken hi
  exact hn.exposed hf

end World

/-- The thread tells an observer something, or is about to, and goes on with the phase after
that. -/
def Thread.Announces (th : Thread σ) (next : Phase) : Prop :=
  (∃ a, .observation a next ∈ th.stack) ∨
    ∃ a event fault, th.focus = .requesting a (.announce event fault next)

namespace World

/-- The ways in which a thread comes to an announcement, by the phase after it. -/
inductive Begins (w : World σ) (t : ThreadId) (th : Thread σ) : Phase → Prop
  | hit {o} : Begins w t th (.finish o)
  | joined {f l} (hf : th.waitsFor? = some f) (hl : w.landing? f = some l) :
      Begins w t th (.settle f l)
  | found {f v} (hi : w.incident? t = some (.found f v)) : Begins w t th (.land f (.value v))
  | construct {f} : Begins w t th (.build f)
  | failure {f e} : Begins w t th (.land f (.fault e))

variable {P : Program σ} {t : ThreadId} {w w' : World σ} {th th' : Thread σ} {next : Phase}

/-- A thread that announces something did so before, or has just come to it. -/
theorem Turn.announces (turn : Turn P t w w' th th') (ht : w.threads[t]? = some th)
    (hp : th.Proper) (h : th'.Announces next) : th.Announces next ∨ w.Begins t th next := by
  have hstack {focus focus' : Focus σ} {S S' : List (Frame σ)}
      (hf : ∀ a event fault, focus' ≠ .requesting a (.announce event fault next))
      (hS : ∀ a, .observation a next ∈ S' → .observation a next ∈ S)
      (h : (⟨focus', S'⟩ : Thread σ).Announces next) :
      (⟨focus, S⟩ : Thread σ).Announces next := by
    rcases h with ⟨a, hm⟩ | ⟨a, event, fault, he⟩
    · exact Or.inl ⟨a, hS a hm⟩
    · exact (hf a event fault he).elim
  cases turn with
  | hit hq hr hv =>
      rcases h with h | ⟨b, event, fault, he⟩
      · exact Or.inl (Or.inl h)
      · cases he
        exact Or.inr .hit
  | release hq hl hn =>
      rcases h with h | ⟨b, event, fault, he⟩
      · exact Or.inl (Or.inl h)
      · cases he
        exact Or.inr (.joined rfl hl)
  | find hq hr hv =>
      rcases h with h | ⟨b, event, fault, he⟩
      · exact Or.inl (Or.inl h)
      · cases he
        refine Or.inr (.found ?_)
        rw [incident?, ht]
        simp [stored?_of_get hr, hv]
  | clear hq hr hv =>
      rcases h with h | ⟨b, event, fault, he⟩
      · exact Or.inl (Or.inl h)
      · cases he
        exact Or.inr .construct
  | @conclude o a g S hq =>
      rcases h with ⟨b, hm⟩ | ⟨b, event, fault, he⟩
      · exact Or.inl (Or.inl ⟨b, List.mem_cons_of_mem _ hm⟩)
      · obtain ⟨-, e, rfl⟩ := Outcome.conclude_announce (Focus.requesting.inj he).2
        exact Or.inr .failure
  | @announce a S event fault next' o reg hq hr ho =>
      left
      rcases h with ⟨b, hm⟩ | ⟨b, event, fault, he⟩
      · rcases List.mem_cons.mp hm with he | hm
        · cases he
          exact Or.inr ⟨a, event, fault, rfl⟩
        · exact Or.inl ⟨b, hm⟩
      · cases he
  | observed hq =>
      cases hp with
      | returning hS =>
          cases hS with
          | observation hn hS =>
              exact Or.inl (hstack (fun _ _ _ he => hn.ne_announce (Focus.requesting.inj he).2)
                (by simp +contextual) h)
  | skip hq hr ho =>
      cases hp with
      | requesting hp hS =>
          exact Or.inl (hstack
            (fun _ _ _ he => (hp _ _ _ rfl).ne_announce (Focus.requesting.inj he).2) (by simp) h)
  | call hq =>
      split at h
      · exact Or.inl (hstack (by simp) (by simp) h)
      · exact Or.inl (hstack (by simp) (by simp) h)
  | proceed | stop | notify | resume | answer | retry | pass | crash | interrupt | lost | miss
  | identify | refuse | join | takeOff | share | build | keep | spill | land | settle | finish =>
      exact Or.inl (hstack (by simp) (by simp +contextual) h)

end World

end InstanceRegistry
