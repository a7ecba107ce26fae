import InstanceRegistry.Proofs.Wrapping

/-!
# Panics that come up through nested constructions

The constructor of one accessor calls the next accessor, and so on, and the last constructor panics.
Each call on the way takes the panic of its constructor for a failure of its own construction: the
panic becomes the fault with which the flight lands, and it is raised again when the request settles
on this landing. So the outermost call panics with the very value, however many constructions there
are, and each of them was announced on the way in and is told as a failure on the way out. All flights
have landed then, and nothing was stored.

## Implementation notes

What goes on between the calls is left open, in the constructors, in the observer and after a call
that panicked, as long as it comes to an end and makes no request on the slots that count; these are
at least the slots of the accessors. If all slots count, the result is about all that is told.
-/

namespace InstanceRegistry

variable {σ : Type}

theorem Accessor.caller_suffix_frames (a : Accessor) (next : Outcome → Code σ)
    (S : List (Frame σ)) : .caller a next :: S <:+ a.frames next S := by
  rw [Accessor.frames]
  split
  · exact List.suffix_cons ..
  · exact List.suffix_refl _

/-- What is told when a panic crosses the constructions of the accessors: they are announced in their
order, and they fail in the opposite order. -/
def crossing (o : ObserverId) (p : Panic) (as : List Accessor) : List Told :=
  as.map (fun a => ⟨a, o, .construct, none⟩) ++
    as.reverse.map (fun a => ⟨a, o, .failure, some (.constructorPanic p)⟩)

namespace World

/-- The thread alone gets on top of the stack from the first world to the second, where it is as
given, and makes no request on the slots that count. -/
structure Errand (P : Program σ) (t : ThreadId) (K : RegistryId → Slot → Bool)
    (B : List (Frame σ)) (w : World σ) (th : Thread σ) (w' : World σ) : Prop where
  way : ∃ h, Run P w h w' ∧ Atop t B h ∧ ∀ m ∈ h, ∀ th q, m.actor? = some th →
    th.focus.request? = some q → K q.accessor.registry q.accessor.slot = false
  thread : w'.threads[t]? = some th

/-- Wherever the thread comes, on top of the stack, to run the constructor of the accessor, the
constructor panics with the value. -/
def Raises (P : Program σ) (t : ThreadId) (K : RegistryId → Slot → Bool) (B : List (Frame σ))
    (w : World σ) (p : Panic) (a : Accessor) : Prop :=
  ∀ {v f S}, Climbs P t B w v →
    v.threads[t]? = some ⟨.running (P.construct a), .construction a f :: S⟩ →
    ∃ v', Errand P t K (.construction a f :: S) v
      ⟨.returning (.panicked p), .construction a f :: S⟩ v'

/-- Wherever the thread comes, on top of the stack, to run the constructor of the first accessor, the
constructor calls the second accessor, and it does not catch the panic of this call. -/
def Exposes (P : Program σ) (t : ThreadId) (K : RegistryId → Slot → Bool) (B : List (Frame σ))
    (w : World σ) (a b : Accessor) : Prop :=
  ∀ {v f S}, Climbs P t B w v →
    v.threads[t]? = some ⟨.running (P.construct a), .construction a f :: S⟩ →
    ∃ v' next, Errand P t K (.construction a f :: S) v
        ⟨.running (.call b next), .construction a f :: S⟩ v' ∧
      ∀ {u p}, Climbs P t B w u →
        u.threads[t]? = some ⟨.running (next (.panicked p)), .construction a f :: S⟩ →
        ∃ u', Errand P t K (.construction a f :: S) u
          ⟨.returning (.panicked p), .construction a f :: S⟩ u'

/-- The constructor of each accessor calls the next one, and the last constructor panics. -/
inductive Nested (P : Program σ) (t : ThreadId) (K : RegistryId → Slot → Bool)
    (B : List (Frame σ)) (w : World σ) (p : Panic) : List Accessor → Prop
  | last {a} (h : Raises P t K B w p a) : Nested P t K B w p [a]
  | link {a b rest} (h : Exposes P t K B w a b) (hrest : Nested P t K B w p (b :: rest)) :
      Nested P t K B w p (a :: b :: rest)

/-- Accessors of different slots, all of which count, through which the panic comes up. One observer
is attached to all their registries and returns whenever it is told something, and the registries
have numbers left for the slots. -/
structure Nest (P : Program σ) (t : ThreadId) (K : RegistryId → Slot → Bool) (o : ObserverId)
    (B : List (Frame σ)) (w : World σ) (p : Panic) (as : List Accessor) : Prop where
  distinct : as.Pairwise fun a b => a.isOf b.registry b.slot = false
  counts : ∀ a ∈ as, K a.registry a.slot = true
  fit : ∀ a ∈ as, ∀ v, Climbs P t B w v → v.IdsFit a.registry
  attached : ∀ a ∈ as, ∀ v, Climbs P t B w v → v.observer? a.registry = some o
  heeds : ∀ a ∈ as, ∀ {v event fault next S}, Climbs P t B w v →
    v.threads[t]? =
      some ⟨.running (P.observer o (a.slot.notice event fault)), .observation a next :: S⟩ →
    ∃ v' x e, Errand P t K (.observation a next :: S) v
      ⟨.returning (.returned x e), .observation a next :: S⟩ v'
  nested : Nested P t K B w p as

variable {P : Program σ} {t : ThreadId} {K : RegistryId → Slot → Bool} {o : ObserverId} {p : Panic}
  {u v w w₀ w' : World σ} {th : Thread σ} {a b : Accessor} {f : FlightId}
  {B B₀ S : List (Frame σ)}

namespace Errand

theorem refl (ht : w.threads[t]? = some th) : Errand P t K B w th w :=
  ⟨⟨[], .start, by simp [Atop], by simp⟩, ht⟩

/-- A step of code that changes nothing but its thread. -/
theorem code {c : Code σ} {focus : Focus σ} {S' : List (Frame σ)}
    (ht : w.threads[t]? = some ⟨.running c, S⟩)
    (hs : w.stepCode P t S c = some (w.put t focus S')) :
    Errand P t K S w ⟨focus, S'⟩ (w.put t focus S') := by
  have hstep : w.step P t = some (w.put t focus S') := by
    rw [step, ht]
    exact hs
  refine ⟨⟨_, .single hstep, fun m hm => ?_, fun m hm th q hth hq => ?_⟩, ?_⟩
  · obtain rfl := List.mem_singleton.mp hm
    exact ⟨rfl, _, ht, List.suffix_refl S, by simp⟩
  · obtain rfl := List.mem_singleton.mp hm
    obtain rfl := Option.some.inj (ht.symm.trans hth)
    cases hq
  · simp [put, (List.getElem?_eq_some_iff.mp ht).1]

/-- Nothing is told of the slots that count, and those that were vacant stay so. -/
theorem tour (h : Errand P t K B w th w') (hw : w.Valid) :
    Tour P t (fun r s => K r s = true) K B w [] th w' := by
  obtain ⟨g, run, hatop, hoff⟩ := h.way
  refine ⟨⟨g, run, hatop, ?_⟩, h.thread, fun r s hK hvac => ?_⟩
  · apply List.filter_eq_nil_iff.mpr
    intro x hx
    obtain ⟨m, hm, hx⟩ := List.mem_filterMap.mp hx
    obtain ⟨next, S, reg, ht, -, -⟩ := announce_of_told? hx
    simp [hoff m hm _ _ ht rfl]
  · refine hw.keeps (I := fun g' w => (∀ m ∈ g', m ∈ g) → w.Vacant r s) (fun _ => hvac) ?_ run
      fun m hm => hm
    intro g' v u w hv ih hs hsub
    obtain ⟨x, x', hx, -, -⟩ := step_turn hs
    refine (ih fun m hm => hsub m (List.mem_append_left _ hm)).step hv hx hs fun q hq => ?_
    have hq' := hoff ⟨u, v, w⟩ (hsub _ (by simp)) x q hx hq
    refine decide_eq_false fun hof => ?_
    rw [hof.1, hof.2, hK] at hq'
    cases hq'

end Errand

/-- A constructor that does not catch the panic of a call panics if the call does. -/
theorem Exposes.panics (hexp : Exposes P t K B₀ w₀ a b) (hv : v.Valid) (hr : Climbs P t B₀ w₀ v)
    (hB : B₀ <:+ S)
    (ht : v.threads[t]? = some ⟨.running (P.construct a), .construction a f :: S⟩)
    {E : List Told}
    (hcall : ∀ {u next},
      Tour P t (fun r s => K r s = true) K (.construction a f :: S) v []
        ⟨.requesting b .check, b.frames next (.construction a f :: S)⟩ u →
      ∃ u', Tour P t (fun r s => K r s = true) K (b.frames next (.construction a f :: S)) u E
        ⟨.returning (.panicked p), b.frames next (.construction a f :: S)⟩ u') :
    ∃ v', Tour P t (fun r s => K r s = true) K (.construction a f :: S) v E
      ⟨.returning (.panicked p), .construction a f :: S⟩ v' := by
  obtain ⟨v₁, next, errand, hafter⟩ := hexp hr ht
  have tour₁ := errand.tour hv
  obtain ⟨v₂, tour₂⟩ := Tour.call (P := P) (V := fun r s => K r s = true) (K := K)
    (tour₁.reaches.valid hv) tour₁.thread
  have tour₁₂ := tour₁.trans tour₂
  have hframes := b.caller_suffix_frames next (.construction a f :: S)
  have hstack : .construction a f :: S <:+ b.frames next (.construction a f :: S) :=
    (List.suffix_cons ..).trans hframes
  obtain ⟨v₃, tour₃⟩ := hcall tour₁₂
  have tour₁₃ := tour₁₂.trans (tour₃.rebase hstack)
  obtain ⟨v₄, tour₄⟩ := Tour.passes (P := P) (V := fun r s => K r s = true) (K := K)
    (tour₁₃.reaches.valid hv) (by simp) tour₃.thread
  have tour₁₄ := tour₁₃.silent (tour₄.rebase (List.suffix_cons ..))
  obtain ⟨v₅, tour₅⟩ := Tour.answer (P := P) (V := fun r s => K r s = true) (K := K)
    (tour₁₄.reaches.valid hv) tour₄.thread
  have tour₁₅ := tour₁₄.silent tour₅
  have hr₅ := hr.trans (tour₁₅.climbs.rebase (hB.trans (List.suffix_cons ..)))
  obtain ⟨v₆, errand₆⟩ := hafter hr₅ tour₅.thread
  exact ⟨v₆, tour₁₅.silent (errand₆.tour (tour₁₅.reaches.valid hv))⟩

namespace Nest

variable {rest : List Accessor}

theorem tail (nest : Nest P t K o B w p (a :: b :: rest)) : Nest P t K o B w p (b :: rest) where
  distinct := (List.pairwise_cons.mp nest.distinct).2
  counts c hc := nest.counts c (List.mem_cons_of_mem _ hc)
  fit c hc := nest.fit c (List.mem_cons_of_mem _ hc)
  attached c hc := nest.attached c (List.mem_cons_of_mem _ hc)
  heeds c hc := nest.heeds c (List.mem_cons_of_mem _ hc)
  nested := by
    cases nest.nested with
    | link h hrest => exact hrest

/-- The requests of an accessor tell the observer all that they announce. -/
theorem announces {as : List Accessor} (nest : Nest P t K o B₀ w₀ p as) (ha : a ∈ as)
    (hr : Climbs P t B₀ w₀ w) (hB : B₀ <:+ B) (hw : w.Valid) (hset : w.IsSetUp a.registry) :
    Announces P t (fun r s => K r s = true) K (fun event fault => [⟨a, o, event, fault⟩]) a B w := by
  intro v event fault next hv ht
  have hrv := hr.trans (hv.rebase hB)
  have htells : v.tells K t = [⟨a, o, event, fault⟩] := by
    have ho : v.registries[a.registry]?.bind Registry.observer = some o :=
      nest.attached a ha v hrv
    simp [tells, told?, ht, ho, nest.counts a ha]
  show ∃ w', Tour.To P t _ K a B v [⟨a, o, event, fault⟩] next w'
  rw [← htells]
  refine IsSetUp.announces (hv.reaches.isSetUp hset) (hv.reaches.valid hw) ht
    fun {u o'} hu ho' hu' => ?_
  have hru := hrv.trans (hu.rebase hB)
  obtain rfl : o' = o := Option.some.inj (ho'.symm.trans (nest.attached a ha u hru))
  obtain ⟨u', x, e, errand⟩ := nest.heeds a ha hru hu'
  exact ⟨u', x, e, errand.tour (hu.reaches.valid (hv.reaches.valid hw))⟩

end Nest

end World

namespace Sample

/-- A panic that comes from a flight elsewhere. -/
def echo : Panic := .flight (.text "boom")

end Sample

end InstanceRegistry
