import InstanceRegistry.Proofs.Span
import InstanceRegistry.Proofs.Staleness

/-!
# What is stored fits the type of its slot

A registry keeps values of all types side by side and reads each back at the type of its slot.
Reading gives the zero value where a stored value does not fit, and nothing tells this from a
stored zero value. So it matters that it never happens: what is stored under a slot, what a
flight lands with and what a request carries on its way is always a value of the slot's type,
and reading it gives the very value that the constructor returned.

## Implementation notes

Values are written without their static types, so a constructor could return anything. That the
constructors of a slot return values of its type is the only assumption, and it says something
for interface types alone.
-/

namespace InstanceRegistry

variable {σ : Type}

/-- The type that a dynamic value carries. -/
def Value.dynamicType? : Value → Option Ty
  | .dynamic d _ => some d
  | _ => none

namespace Ty

/-- The dynamic value can be stored under a slot of the type. If the type is an interface, the value
is missing or carries a type that implements it; otherwise it carries the type itself. -/
def Admits (t : Ty) (u : Value) : Prop :=
  if t.isInterface then u = .nothing ∨ ∃ d, u.dynamicType? = some d ∧ d.implements t = true
  else u.dynamicType? = some t

variable {t : Ty} {u v : Value}

theorem zero_of_isInterface (h : t.isInterface = true) : t.zero = .nothing := by
  cases t with
  | pointer t => cases h
  | base b =>
      have hc : b.content = .dynamic := by simpa [isInterface] using h
      rw [zero, hc]
      rfl

/-- A value of a type can be stored under the slots of the type. -/
theorem admits_box (h : t.Holds v) : t.Admits (t.box v) := by
  rw [Admits, box]
  split
  · rename_i hi
    rcases h hi with rfl | ⟨d, x, rfl, hd⟩
    · exact Or.inl rfl
    · exact Or.inr ⟨d, rfl, hd⟩
  · rfl

/-- Reading a dynamic value at a type that admits it loses nothing. -/
theorem Admits.box_unbox (h : t.Admits u) : t.box (t.unbox u) = u := by
  rw [Admits] at h
  split at h
  · rename_i hi
    rcases h with rfl | ⟨d, hd, himp⟩
    · simp [box, unbox, hi, zero_of_isInterface hi]
    · cases u with
      | dynamic d' x =>
          obtain rfl := Option.some.inj hd
          simp [box, unbox, hi, himp]
      | _ => cases hd
  · rename_i hi
    cases u with
    | dynamic d' x =>
        obtain rfl := Option.some.inj h
        simp [box, unbox, hi]
    | _ => cases h

/-- Only the zero value of a type that admits it is read as the zero value. -/
theorem Admits.eq_zero (h : t.Admits u) (hz : t.unbox u = t.zero) : u = t.box t.zero := by
  calc u = t.box (t.unbox u) := h.box_unbox.symm
    _ = t.box t.zero := by rw [hz]

end Ty

/-- The dynamic value that a request carries in a phase: it is about to store it, to land with it or
to end with it. -/
def Phase.carried? : Phase → Option Value
  | .keep _ u | .land _ (.value u) | .settle _ (.value u) => some u
  | _ => none

namespace World

variable {P : Program σ} {t : ThreadId} {w₀ w : World σ} {th : Thread σ} {a : Accessor}
  {B : List (Frame σ)} {h : List (Move σ)} {r : RegistryId} {s : Slot} {o : Outcome}

/-- What a request carries is the instance of its slot, as long as there are numbers left. -/
theorem Valid.made_of_carried (hw : w.Valid) {q : Request} {u : Value}
    (hfit : w.IdsFit q.accessor.registry) (ht : w.threads[t]? = some th) (hq : q ∈ th.requests)
    (hu : q.phase.carried? = some u) : w.Made q.accessor.registry q.accessor.slot u := by
  have hsound := hw.consistent.sound ht hq
  obtain ⟨a, p⟩ := q
  cases p with
  | keep f x =>
      obtain rfl := Option.some.inj hu
      exact Or.inr ⟨t, th, _, ht, hq, rfl, rfl, f, rfl⟩
  | land f l =>
      cases l with
      | value x =>
          obtain rfl := Option.some.inj hu
          exact Or.inl hsound.2
      | fault | crash => cases hu
  | settle f l =>
      cases l with
      | value x =>
          obtain rfl := Option.some.inj hu
          obtain ⟨hshares, hl⟩ := hsound
          obtain ⟨fl, hfl, hl⟩ := landing?_eq_some.mp hl
          obtain ⟨hr, hs⟩ := hw.consistent.shares_slot hw.numbered hfit hshares hfl
          have hkept := hw.consistent.kept hfl hl
          rw [hr, hs] at hkept
          exact Or.inl hkept
      | fault | crash => cases hu
  | _ => cases hu

/-- What is known, by its place, of a request that started when the instance of its slot was
stored. -/
def Serves (t : ThreadId) (a : Accessor) (B : List (Frame σ)) (x : Value) (h : List (Move σ)) :
    Place → Prop
  | .asking p =>
    p = .check ∨ p = .announce .hit none (.finish (.returned x none)) ∨
      p = .finish (.returned x none)
  | .making _ => False
  | .telling next => next = .finish (.returned x none)
  | .closed o => o = .returned x none ∨ Upset t a B h o

theorem Serves.append {x : Value} {pl : Place} (hk : Serves t a B x h pl)
    (h' : List (Move σ)) : Serves t a B x (h ++ h') pl := by
  cases pl with
  | asking | making | telling => exact hk
  | closed o =>
      rcases hk with ho | ⟨m, hm, hu⟩
      · exact Or.inl ho
      · exact Or.inr ⟨m, List.mem_append_left _ hm, hu⟩

/-- A request that starts when the instance of its slot is stored ends with it, unless its own
observer panics. -/
theorem RequestSpan.served {v : World σ} (span : RequestSpan P t a B v h w o) (hv : v.Valid)
    {u : Value} (hu : v.stored? a.registry a.slot = some u) :
    o = .returned (a.slot.type.unbox u) none ∨ Upset t a B h o := by
  suffices hend : w.stored? a.registry a.slot = some u ∧
      Serves t a B (a.slot.type.unbox u) h (.closed o) from hend.2
  refine span.induct (K := fun h w pl => w.stored? a.registry a.slot = some u ∧
    Serves t a B (a.slot.type.unbox u) h pl) hv ⟨hu, Or.inl rfl⟩ ⟨?_, ?_, ?_, ?_⟩
  · intro g w w' t' pl _ hw hk hs hpass
    exact ⟨hw.consistent.stored?_step hs hk.1, hk.2.append _⟩
  · intro g w w' p th' _ hw hk hs ht ht' turn
    have hu' := hw.consistent.stored?_step hs hk.1
    obtain ⟨reg, hr, hreg⟩ := Option.bind_eq_some_iff.mp hk.1
    rcases hk.2 with rfl | rfl | rfl
    · cases turn with
      | lost hq hn => cases hn.symm.trans hr
      | hit hq hr' hx =>
          obtain rfl := Option.some.inj (hr.symm.trans hr')
          obtain rfl := Option.some.inj (hreg.symm.trans hx)
          exact ⟨.asking _, rfl, hu', Or.inr (Or.inl rfl)⟩
      | miss hq hr' hx =>
          obtain rfl := Option.some.inj (hr.symm.trans hr')
          cases hreg.symm.trans hx
    · cases turn with
      | lost hq hn => cases hn.symm.trans hr
      | skip => exact ⟨.asking _, rfl, hu', Or.inr (Or.inr rfl)⟩
      | announce => exact ⟨.telling _, List.suffix_refl _, hu', rfl⟩
    · cases turn with
      | lost hq hn => cases hn.symm.trans hr
      | finish => exact ⟨.closed _, rfl, hu', Or.inl rfl⟩
  · intro g w w' f x _ hw hk hs ht
    exact hk.2.elim
  · intro g w w' next x th' _ hw hk hs ht ht' turn
    have hu' := hw.consistent.stored?_step hs hk.1
    obtain rfl := hk.2
    cases turn with
    | observed => exact ⟨.asking _, rfl, hu', Or.inr (Or.inr rfl)⟩
    | crash hq hf => cases hf
    | interrupt =>
        have hlast : (⟨t, w, w'⟩ : Move σ) ∈ g ++ [⟨t, w, w'⟩] := by simp
        exact ⟨.closed _, rfl, hu', Or.inr ⟨_, hlast, rfl, _, _, rfl, ht, ht'⟩⟩

/-- The store is well typed, and reading it loses nothing. If the constructors of a slot return
values of its type, then what is stored under the slot, what a flight of the slot landed with and
what a request on the slot carries is admitted by the type. Making a stored value dynamic again
after reading it gives it back, so only the zero value is read as the zero value. And once a
constructor returned a value without a fault, this is what every call on the slot returns if it
returns without a fault, and what a look at the slot shows as soon as it is stored; from then on,
every request ends with it unless its own observer panics.

A registry numbers its slots with words of 64 bits. The parts about requests and calls under way
are for registries that have not given out all of these numbers. -/
theorem Run.store_typed {P : Program σ} {w₀ w : World σ} {h : List (Move σ)}
    (run : Run P w₀ h w) (fresh : w₀.Fresh) (r : RegistryId) (s : Slot)
    (hmade : ∀ x ∈ results r s h, s.type.Holds x) :
    (∀ u, w.stored? r s = some u →
      s.type.Admits u ∧ s.type.box (s.type.unbox u) = u ∧
        (s.type.unbox u = s.type.zero → u = s.type.box s.type.zero)) ∧
    (∀ fl ∈ w.flights, fl.registry = r → fl.slot = s → ∀ u, fl.landing = some (.value u) →
      s.type.Admits u) ∧
    (w.IdsFit r → ∀ th ∈ w.threads, ∀ q ∈ th.requests, q.On r s → ∀ u,
      q.phase.carried? = some u → s.type.Admits u) ∧
    ∀ x ∈ results r s h,
      (w.IdsFit r → ∀ t a v, a.registry = r → a.slot = s → w.CallEnds t a (.returned v none) →
        v = x) ∧
      (∀ reg, w.registries[r]? = some reg →
        reg.lookup s = if (w.stored? r s).isSome then some x else none) ∧
      ((w.stored? r s).isSome → ∀ t a B h' w' o, a.registry = r → a.slot = s →
        RequestSpan P t a B w h' w' o → o = .returned x none ∨ Upset t a B h' o) := by
  have hw := run.valid fresh
  have hrec := run.recorded fresh r s
  have hadmits (u : Value) (hu : w.Made r s u) : s.type.Admits u := by
    obtain ⟨x, hx, rfl⟩ := hrec.result hu
    exact Ty.admits_box (hmade x (by simp [hx]))
  -- What is stored reads as the value that the constructor returned.
  have hread (x : Value) (hx : x ∈ results r s h) (u : Value) (hu : w.stored? r s = some u) :
      s.type.unbox u = x := by
    obtain ⟨y, hy, rfl⟩ := hrec.result (Or.inl hu)
    rw [hy] at hx
    obtain rfl := List.mem_singleton.mp hx
    exact Ty.unbox_box (hmade x (by simp [hy]))
  refine ⟨?_, ?_, ?_, ?_⟩
  · intro u hu
    have hfits := hadmits u (Or.inl hu)
    exact ⟨hfits, hfits.box_unbox, hfits.eq_zero⟩
  · rintro fl hfl rfl rfl u hl
    obtain ⟨f, hf⟩ := List.mem_iff_getElem?.mp hfl
    exact hadmits u (Or.inl (hw.consistent.kept hf hl))
  · rintro hfit th hth q hq ⟨rfl, rfl⟩ u hu
    obtain ⟨t, ht⟩ := List.mem_iff_getElem?.mp hth
    exact hadmits u (hw.made_of_carried hfit ht hq hu)
  · intro x hx
    refine ⟨?_, ?_, ?_⟩
    · rintro hfit t a v rfl rfl ⟨next, S, ht⟩
      have hstack := (hw.proper t _ ht).stacked_caller
      obtain ⟨u, hu, rfl⟩ := (run.answered fresh t a v _ ht hstack).stored hw hfit
      exact hread x hx u hu
    · intro reg hr
      rw [stored?_of_get hr, Registry.lookup]
      cases hu : reg.store.get? s with
      | none => rfl
      | some u => simp [hread x hx u ((stored?_of_get hr s).trans hu)]
    · rintro hsome t a B h' w' o rfl rfl span
      obtain ⟨u, hu⟩ := Option.isSome_iff_exists.mp hsome
      rw [← hread x hx u hu]
      exact span.served hw hu

end World

/-! ### A typed reference to nothing under an interface -/

namespace Sample

/-- A type whose pointers print themselves. -/
def counter : Ty :=
  .base { id := "Counter", text := "main.Counter", kind := .record, content := .number,
          pointerMethods := ["String"] }

/-- The interface of all that prints itself. -/
def printer : Ty :=
  .base { id := "stringer", text := "fmt.Stringer", kind := .interface, content := .dynamic,
          methods := ["String"] }

/-- A pointer to no counter, as a value of the interface. -/
def noCounter : Value := .dynamic (.pointer counter) (.reference none)

/-- An accessor of the interface. -/
def printerAccessor : Accessor := ⟨0, ⟨printer, ""⟩, 0, false⟩

/-- Two threads that ask for the instance of the interface. -/
def printers : World Unit := callers printerAccessor printerAccessor

/-- All constructors return the pointer to no counter. -/
def noCounters : Program Unit := program (.done noCounter none)

end Sample

/-- A typed reference to nothing is stored with its type, and the caller that shared the flight of
its constructor gets it as it is; it is not the value that is missing. -/
theorem World.Run.store_typed_reference :
    results 0 ⟨Sample.printer, ""⟩ (Sample.printers.history Sample.noCounters Sample.schedule) =
        [Sample.noCounter] ∧
      (Sample.printers.run Sample.noCounters Sample.schedule).CallEnds 1 Sample.printerAccessor
        (.returned Sample.noCounter none) ∧
      Sample.printer.Admits Sample.noCounter ∧ Sample.printer.unbox Sample.noCounter ≠ .nothing ∧
      ∃ reg, (Sample.printers.run Sample.noCounters Sample.schedule).registries[0]? = some reg ∧
        reg.lookup ⟨Sample.printer, ""⟩ = some Sample.noCounter := by
  have hres : results 0 ⟨Sample.printer, ""⟩
      (Sample.printers.history Sample.noCounters Sample.schedule) = [Sample.noCounter] := rfl
  have hwaiter : (Sample.printers.run Sample.noCounters Sample.schedule).CallEnds 1
      Sample.printerAccessor (.returned Sample.noCounter none) := ⟨_, _, rfl⟩
  have hstored : (Sample.printers.run Sample.noCounters Sample.schedule).stored? 0
      ⟨Sample.printer, ""⟩ = some Sample.noCounter := rfl
  have hholds : ∀ x ∈ results 0 ⟨Sample.printer, ""⟩
      (Sample.printers.history Sample.noCounters Sample.schedule), Sample.printer.Holds x := by
    intro x hx _
    rw [hres] at hx
    obtain rfl := List.mem_singleton.mp hx
    exact Or.inr ⟨_, _, rfl, by decide⟩
  obtain ⟨hstore, -, -, hread⟩ := Run.store_typed
    (World.run_of_schedule Sample.noCounters Sample.printers Sample.schedule)
    (Sample.callers_fresh _ _) 0 ⟨Sample.printer, ""⟩ hholds
  obtain ⟨-, hlook, -⟩ := hread Sample.noCounter (by rw [hres]; exact List.mem_singleton_self _)
  refine ⟨hres, hwaiter, (hstore _ hstored).1, ?_, _, rfl, ?_⟩
  · intro h
    cases h
  · rw [hlook _ rfl, hstored]
    rfl

end InstanceRegistry
