import InstanceRegistry.Proofs.FaultTree
import InstanceRegistry.Proofs.Sequential

/-!
# Faults that come up through nested constructions

The constructor of one accessor calls the next accessor, and so on along a chain. The last
constructor returns a fault, and each of the others returns the fault that its call gave it. Every
call on the way wraps what it gets as the failure of its own construction. So the fault of the
outermost call can be unwrapped slot by slot down to the fault that started it, it reports the
outermost slot, and apart from being a failed construction it answers all questions as the fault
inside does. No slot of the chain has an instance afterwards.

Two things can get in the way of this. A call searches the fault for the panic of a constructor and
panics if a part of the fault cannot be looked into. And an observer that is told of a construction
can fill a slot further in, so that the last constructor is not run.

## Implementation notes

All flights of the chain are in the air when the last constructor returns. That none of them gets in
the way of another is carried by the slots that are still vacant: a leg of one call keeps the slots
of the calls further in vacant, as it is no request on them.
-/

namespace InstanceRegistry

variable {σ : Type}

namespace World

/-- Wherever the thread comes to run the constructor of the first accessor, the constructor calls
the second accessor, and it returns the fault that it gets. -/
def Relays (P : Program σ) (t : ThreadId) (V : RegistryId → Slot → Prop) (w : World σ)
    (a b : Accessor) : Prop :=
  ∀ {v f S}, Reaches P t w v →
    v.threads[t]? = some ⟨.running (P.construct a), .construction a f :: S⟩ →
    ∃ v' next, Leg P t V (.construction a f :: S) v
        ⟨.running (.call b next), .construction a f :: S⟩ v' ∧
      ∀ {u x e}, Reaches P t w u →
        u.threads[t]? = some ⟨.running (next (.returned x (some e))), .construction a f :: S⟩ →
        ∃ u' x', Leg P t V (.construction a f :: S) u
          ⟨.returning (.returned x' (some e)), .construction a f :: S⟩ u'

/-- The constructor of each accessor relays the fault of the next, and the last one fails with the
fault. -/
inductive Linked (P : Program σ) (t : ThreadId) (V : RegistryId → Slot → Prop) (w : World σ)
    (e : Fault) : List Accessor → Prop
  | last {a} (h : Fails P t V w e a) : Linked P t V w e [a]
  | link {a b rest} (h : Relays P t V w a b) (hrest : Linked P t V w e (b :: rest)) :
      Linked P t V w e (a :: b :: rest)

/-- A chain of accessors of different slots, none of them steadfast, through which the fault comes
up when the thread calls the first of them. The observers on the way return and leave the slots
vacant, and the registries have numbers left for the slots. -/
structure Chain (P : Program σ) (t : ThreadId) (V : RegistryId → Slot → Prop) (w : World σ)
    (e : Fault) (as : List Accessor) : Prop where
  fallible : ∀ a ∈ as, a.insistent = false
  distinct : as.Pairwise fun a b => a.isOf b.registry b.slot = false
  within : ∀ a ∈ as, V a.registry a.slot
  fit : ∀ a ∈ as, ∀ v, Reaches P t w v → v.IdsFit a.registry
  heeds : ∀ a ∈ as, Heeds P t V w a
  linked : Linked P t V w e as

variable {P : Program σ} {t : ThreadId} {V : RegistryId → Slot → Prop} {u v w w₀ : World σ}
  {a b : Accessor} {B S : List (Frame σ)} {e : Fault} {f : FlightId}

/-- A constructor that relays the fault of a call returns the fault if the call does so. -/
theorem Relays.returns (hrel : Relays P t V w₀ a b) (hb : b.insistent = false)
    (hv : v.Valid) (hr : Reaches P t w₀ v)
    (ht : v.threads[t]? = some ⟨.running (P.construct a), .construction a f :: S⟩)
    (hcall : ∀ {u next}, Leg P t V (.construction a f :: S) v
        ⟨.requesting b .check, .caller b next :: .construction a f :: S⟩ u →
      ∃ u' x, Leg P t V (.caller b next :: .construction a f :: S) u
        ⟨.returning (.returned x (some e)), .caller b next :: .construction a f :: S⟩ u') :
    ∃ v' x, Leg P t V (.construction a f :: S) v
      ⟨.returning (.returned x (some e)), .construction a f :: S⟩ v' := by
  obtain ⟨v₁, next, leg₁, hafter⟩ := hrel hr ht
  obtain ⟨v₂, leg₂⟩ := Leg.call (P := P) (V := V) (leg₁.reaches.valid hv) hb leg₁.thread
  have leg₁₂ := leg₁.trans leg₂
  obtain ⟨v₃, x, leg₃⟩ := hcall leg₁₂
  have leg₁₃ := leg₁₂.trans (leg₃.rebase (List.suffix_cons ..))
  obtain ⟨v₄, leg₄⟩ := Leg.answer (P := P) (V := V) (leg₁₃.reaches.valid hv) leg₃.thread
  have leg₁₄ := leg₁₃.trans leg₄
  obtain ⟨v₅, x', leg₅⟩ := hafter (hr.trans leg₁₄.reaches) leg₄.thread
  exact ⟨v₅, x', leg₁₄.trans leg₅⟩

namespace Chain

variable {rest : List Accessor}

theorem tail (chain : Chain P t V w e (a :: b :: rest)) : Chain P t V w e (b :: rest) where
  fallible c hc := chain.fallible c (List.mem_cons_of_mem _ hc)
  distinct := (List.pairwise_cons.mp chain.distinct).2
  within c hc := chain.within c (List.mem_cons_of_mem _ hc)
  fit c hc := chain.fit c (List.mem_cons_of_mem _ hc)
  heeds c hc := chain.heeds c (List.mem_cons_of_mem _ hc)
  linked := by
    cases chain.linked with
    | link h hrest => exact hrest

/-- A leg for all slots but that of the first accessor keeps those of the others vacant. -/
theorem vacant_tail {th : Thread σ} (chain : Chain P t V w₀ e (a :: rest))
    (hvac : ∀ c ∈ rest, w.Vacant c.registry c.slot) (leg : Leg P t (Besides V a) B w th v) :
    ∀ c ∈ rest, v.Vacant c.registry c.slot := by
  intro c hc
  have hother := (List.pairwise_cons.mp chain.distinct).1 c hc
  exact leg.vacant _ _ ⟨chain.within c (List.mem_cons_of_mem _ hc), hother⟩ (hvac c hc)

/-- A call of the first accessor wraps the fault that its constructor returns. -/
theorem first_wraps (chain : Chain P t V w₀ e (a :: rest)) (hw : w.Valid) (hr : Reaches P t w₀ w)
    (hvac : w.Vacant a.registry a.slot) (ht : w.threads[t]? = some ⟨.requesting a .check, B⟩)
    {e' : Fault} (he : e'.Ordinary)
    (hmake : ∀ {w' f}, Leg P t (Besides V a) B w
        ⟨.running (P.construct a), .construction a f :: B⟩ w' →
      ∃ w'' x, Leg P t V (.construction a f :: B) w'
        ⟨.returning (.returned x (some e')), .construction a f :: B⟩ w'') :
    ∃ w', Leg P t V B w
      ⟨.returning (.returned a.slot.type.zero (some (e'.wrap [a.slot]))), B⟩ w' := by
  have ha : a ∈ a :: rest := List.mem_cons_self ..
  have hfit v (hv : Reaches P t w v) : v.IdsFit a.registry := chain.fit a ha v (hr.trans hv)
  have hheeds : Heeds P t V w a := fun hv => chain.heeds a ha (hr.trans hv)
  obtain ⟨w', f, x, leg, -⟩ := hvac.call_faulty hw ht hfit hheeds hmake
  rw [Incident.outcome, (Fault.findPanic_eq_absent_iff e').mpr he] at leg
  exact ⟨w', leg⟩

/-- A call of the first accessor returns the fault as the cause of one failed construction after the
other. -/
theorem call_wraps (chain : Chain P t V w₀ e (a :: rest)) (he : e.Ordinary) (hw₀ : w₀.Valid)
    (hr : Reaches P t w₀ w) (hvac : ∀ c ∈ a :: rest, w.Vacant c.registry c.slot)
    (ht : w.threads[t]? = some ⟨.requesting a .check, B⟩) :
    ∃ w', Leg P t V B w ⟨.returning (.returned a.slot.type.zero
      (some (e.wrap ((a :: rest).map Accessor.slot)))), B⟩ w' := by
  -- The induction is on the length of the chain: the call on the next slot is made in the
  -- constructor, where the slots further in are still vacant.
  induction rest generalizing a w B with
  | nil =>
      refine chain.first_wraps (hr.valid hw₀) hr (hvac a (List.mem_cons_self ..)) ht he
        fun leg => ?_
      cases chain.linked with
      | last hfails => exact hfails (hr.trans leg.reaches) leg.thread
  | cons b rest ih =>
      obtain ⟨hvaca, hvacs⟩ := List.forall_mem_cons.mp hvac
      have hinner : (e.wrap ((b :: rest).map Accessor.slot)).Ordinary := by
        rwa [← Fault.findPanic_eq_absent_iff, Fault.findPanic_wrap, Fault.findPanic_eq_absent_iff]
      refine chain.first_wraps (hr.valid hw₀) hr hvaca ht hinner fun {v f} leg => ?_
      have hr₁ := hr.trans leg.reaches
      have hvacs₁ := chain.vacant_tail hvacs leg
      cases chain.linked with
      | link hrelays hrest =>
          refine hrelays.returns (chain.fallible b (by simp)) (hr₁.valid hw₀) hr₁ leg.thread
            fun leg' => ?_
          obtain ⟨u', leg''⟩ := ih chain.tail (hr₁.trans leg'.reaches)
            (fun c hc => leg'.vacant _ _ (chain.tail.within c hc) (hvacs₁ c hc)) leg'.thread
          exact ⟨u', _, leg''⟩

end Chain

/-- Faults come up through any number of nested constructions, and wrapping them is transparent. The
thread calls the first accessor of a chain whose slots are vacant, and the last constructor returns
an ordinary fault. The call returns a fault that can be unwrapped slot by slot, and after that gives
the fault of the last constructor. The failed construction found in it is that of the first slot, it
matches the sentinel of failed constructions, and it matches any other sentinel just if the fault of
the last constructor does. No slot of the chain has an instance. -/
theorem Run.wrapping_transparent {h₀ : List (Move σ)} (run₀ : Run P w₀ h₀ w) (fresh : w₀.Fresh)
    {as : List Accessor} {next : Outcome → Code σ}
    (chain : Chain P t (SlotsOf (a :: as)) w e (a :: as)) (he : e.Ordinary)
    (hvac : ∀ b ∈ a :: as, w.Vacant b.registry b.slot)
    (ht : w.threads[t]? = some ⟨.requesting a .check, .caller a next :: S⟩) :
    ∃ h w' err, RequestSpan P t a (.caller a next :: S) w h w'
        (.returned a.slot.type.zero (some err)) ∧ (∀ m ∈ h, m.thread = t) ∧
      (∀ i b, (a :: as)[i]? = some b → ∃ cause,
        err.unwrap i = some (.construction (some b.slot.type) b.slot.name cause)) ∧
      err.unwrap (a :: as).length = some e ∧
      (∃ cause, err.findConstruction = .found (some ⟨some a.slot.type, a.slot.name, cause⟩)) ∧
      err.is .constructionFailed = true ∧
      (∀ x, x ≠ .constructionFailed → err.is x = e.is x) ∧
      ∀ b ∈ a :: as, w'.stored? b.registry b.slot = none := by
  obtain ⟨w', leg⟩ := chain.call_wraps he (run₀.valid fresh) (.refl P t w) hvac ht
  obtain ⟨h, span, halone⟩ := leg.requestSpan ht
  refine ⟨h, w', _, span, halone, fun i b hb => ?_, ?_, ⟨_, rfl⟩, rfl, fun x hx => ?_,
    fun b hb => ?_⟩
  · apply Fault.unwrap_wrap_of_getElem?
    rw [List.getElem?_map, hb]
    rfl
  · rw [← List.length_map (f := Accessor.slot)]
    exact Fault.unwrap_length_wrap
  · exact Fault.is_wrap hx
  · exact (leg.vacant _ _ (chain.within b hb) (hvac b hb)).stored

end World

namespace Sample

/-- The fault of a constructor: a label around a sentinel. -/
def outage : Fault := .labelled "disk" (some (.sentinel (.named "boom")))

/-- The first constructor calls the inner accessor and returns as the call does, the others return
the fault. -/
def relaying (e : Fault) : Program Unit :=
  { program seven with maker := fun k => if k = 0 then caller inner else .done .unit (some e) }

/-- A thread that calls an accessor of a registry with an observer. -/
def relayed : World Unit where
  registries := [.new [some 0]]
  threads := [.start (caller accessor)]
  state := ()

theorem relayed_fresh : relayed.Fresh := by
  refine ⟨fun reg h => ⟨false, [some 0], List.mem_singleton.mp h⟩, rfl, fun th h => ?_⟩
  exact ⟨_, List.mem_singleton.mp h⟩

/-- The world in which the thread has called the accessor. -/
def relayCalled (P : Program Unit) : World Unit := relayed.run P [0]

variable {P : Program Unit} {e : Fault} {V : RegistryId → Slot → Prop}

theorem relayCalled_valid : (relayCalled P).Valid :=
  (World.run_of_schedule P relayed [0]).valid relayed_fresh

theorem relayCalled_vacant {as : List Accessor} (has : ∀ b ∈ as, b.registry = 0) :
    ∀ b ∈ as, (relayCalled P).Vacant b.registry b.slot := by
  intro b hb
  rw [has b hb]
  exact ⟨⟨_, rfl, rfl⟩, rfl, fun fl hfl => by cases hfl⟩

/-- The fault of the inner constructor comes up through a constructor that calls the inner accessor,
whatever is observed. -/
theorem relay_linked (houter : P.maker 0 = caller inner)
    (hinner : P.maker 1 = .done .unit (some e)) :
    World.Linked P 0 V (relayCalled P) e [accessor, inner] := by
  have houter' : P.construct accessor = caller inner := houter
  have hinner' : P.construct inner = .done .unit (some e) := hinner
  refine .link (fun hv ht => ?_) (.last fun hv ht => ?_)
  · rw [houter'] at ht
    refine ⟨_, _, .refl ht, fun hu ht => ?_⟩
    obtain ⟨u', leg⟩ := World.Leg.done (hu.valid relayCalled_valid) ht
    exact ⟨u', _, leg⟩
  · rw [hinner'] at ht
    obtain ⟨v', leg⟩ := World.Leg.done (hv.valid relayCalled_valid) ht
    exact ⟨v', _, leg⟩

/-- A fault for which the call comes to an end, with numbers left, has its chain. -/
theorem relay_chain {n : Nat}
    (hstop : (((relayCalled (relaying e)).run (relaying e) (List.replicate n 0)).step
      (relaying e) 0).isNone)
    (hfit : ∀ k ≤ n, ((relayCalled (relaying e)).run (relaying e) (List.replicate k 0)).IdsFit 0) :
    World.Chain (relaying e) 0 (World.SlotsOf [accessor, inner]) (relayCalled (relaying e)) e
      [accessor, inner] where
  fallible := by decide
  distinct := by decide
  within a ha := ⟨a, ha, a.isOf_self⟩
  fit := by
    intro a ha v hv
    obtain ⟨k, hk, rfl⟩ := hv.exists_le (Option.isNone_iff_eq_none.mp hstop)
    have hreg : ∀ a ∈ [accessor, inner], a.registry = 0 := by decide
    exact hreg a ha ▸ hfit k hk
  heeds a ha v o event fault p S hv ho ht := by
    obtain ⟨v', leg⟩ := World.Leg.done (hv.valid relayCalled_valid) ht
    exact ⟨v', _, _, leg⟩
  linked := relay_linked rfl rfl

end Sample

/-- A fault that comes up through two constructions. -/
theorem World.Run.wrapping_transparent_twice :
    ∃ fr h w' err, (Sample.relayCalled (Sample.relaying Sample.outage)).threads[0]? =
        some ⟨.requesting Sample.accessor .check, [fr]⟩ ∧
      RequestSpan (Sample.relaying Sample.outage) 0 Sample.accessor [fr]
        (Sample.relayCalled (Sample.relaying Sample.outage)) h w'
        (.returned (.number 0) (some err)) ∧
      err.unwrap 2 = some Sample.outage ∧
      (∃ cause, err.unwrap 1 = some (.construction (some Sample.slot.type) "inner" cause)) ∧
      err.is .constructionFailed = true ∧ err.is (.named "boom") = true ∧
      w'.stored? 0 Sample.slot = none := by
  obtain ⟨next, ht⟩ : ∃ next,
      (Sample.relayCalled (Sample.relaying Sample.outage)).threads[0]? =
        some ⟨.requesting Sample.accessor .check, [.caller Sample.accessor next]⟩ := ⟨_, rfl⟩
  have hord : Sample.outage.Ordinary := (Fault.findPanic_eq_absent_iff _).mp rfl
  have hchain := Sample.relay_chain (e := Sample.outage) (n := 34) (by decide +kernel)
    (by decide +kernel)
  obtain ⟨h, w', err, span, -, hunwrap, hlast, -, hfailed, hsame, hstored⟩ :=
    Run.wrapping_transparent (run_of_schedule _ _ _) Sample.relayed_fresh hchain hord
      (Sample.relayCalled_vacant (by decide)) ht
  refine ⟨_, h, w', err, ht, span, hlast, hunwrap 1 _ rfl, hfailed, ?_,
    hstored _ (List.mem_cons_self ..)⟩
  rw [hsame _ (by decide)]
  rfl

namespace Sample

/-- A fault behind an absent pointer. -/
def lost : Fault := .absentCause none

/-- Another accessor of the inner slot. -/
def filler : Accessor := { inner with maker := 2 }

/-- The constructors relay a fault, but the observer fills the inner slot as soon as it is told of
the outer construction. -/
def intruding : Program Unit where
  maker k := if k = 0 then caller inner else if k = 1 then .done .unit (some outage) else seven
  observer _ n := if n.event = .construct ∧ n.name = "" then caller filler else .done .unit none
  isOpen _ _ := true

/-- A thread whose observer panicked. -/
def isDisturbed : Thread Unit → Bool
  | ⟨.returning (.panicked _), .observation _ _ :: _⟩ => true
  | _ => false

end Sample

/-- Two conditions cannot be left out. A fault that neither reports the panic of a constructor, nor
passes for such a report, nor is an absent construction failure makes the outermost call of a chain
panic if it cannot be asked what it wraps. And observers that all return make it return without a
fault if one of them fills a slot of the chain on the way, as the last constructor is not run. -/
theorem World.Run.wrapping_opaque :
    (∀ p, Fault.Part p Sample.lost → (∀ x, p ≠ .constructorPanic x) ∧
      (∀ text, p ≠ .convertsToAll text) ∧ p ≠ .absentConstruction) ∧
    Chain (Sample.relaying Sample.lost) 0 (SlotsOf [Sample.accessor, Sample.inner])
      (Sample.relayCalled (Sample.relaying Sample.lost)) Sample.lost
      [Sample.accessor, Sample.inner] ∧
    (∀ b ∈ [Sample.accessor, Sample.inner],
      (Sample.relayCalled (Sample.relaying Sample.lost)).Vacant b.registry b.slot) ∧
    (∃ fr h w', RequestSpan (Sample.relaying Sample.lost) 0 Sample.accessor [fr]
      (Sample.relayCalled (Sample.relaying Sample.lost)) h w'
      (.panicked (.flight .nilDereference))) ∧
    Sample.outage.Ordinary ∧
    Linked Sample.intruding 0 (SlotsOf []) (Sample.relayCalled Sample.intruding) Sample.outage
      [Sample.accessor, Sample.inner] ∧
    (∀ b ∈ [Sample.accessor, Sample.inner],
      (Sample.relayCalled Sample.intruding).Vacant b.registry b.slot) ∧
    (∀ v, Reaches Sample.intruding 0 (Sample.relayCalled Sample.intruding) v →
      v.IdsFit 0 ∧ v.threads[0]?.any Sample.isDisturbed = false) ∧
    ∃ fr h w' x, RequestSpan Sample.intruding 0 Sample.accessor [fr]
      (Sample.relayCalled Sample.intruding) h w' (.returned x none) ∧
      ∀ b ∈ [Sample.accessor, Sample.inner], (w'.stored? b.registry b.slot).isSome = true := by
  have hstop : (((Sample.relayCalled Sample.intruding).run Sample.intruding
      (List.replicate 37 0)).step Sample.intruding 0).isNone := by decide +kernel
  have hway : ∀ n ≤ 37, ((Sample.relayCalled Sample.intruding).run Sample.intruding
        (List.replicate n 0)).IdsFit 0 ∧
      ((Sample.relayCalled Sample.intruding).run Sample.intruding
        (List.replicate n 0)).threads[0]?.any Sample.isDisturbed = false := by decide +kernel
  refine ⟨fun p hp => ?_, Sample.relay_chain (n := 31) (by decide +kernel) (by decide +kernel),
    Sample.relayCalled_vacant (by decide), ?_, (Fault.findPanic_eq_absent_iff _).mp rfl,
    Sample.relay_linked rfl rfl, Sample.relayCalled_vacant (by decide), fun v hv => ?_, ?_⟩
  · cases hp
    exact ⟨nofun, nofun, nofun⟩
  · have hopen : ∀ m ∈ (Sample.relayCalled (Sample.relaying Sample.lost)).history
        (Sample.relaying Sample.lost) (List.replicate 29 0),
        m.before.threads[0]?.any Sample.isOver = false := by decide +kernel
    exact ⟨_, _, _, run_of_schedule _ _ _, rfl, rfl, Sample.going_of_isOver hopen⟩
  · obtain ⟨n, hn, rfl⟩ := hv.exists_le (Option.isNone_iff_eq_none.mp hstop)
    exact hway n hn
  · have hopen : ∀ m ∈ (Sample.relayCalled Sample.intruding).history Sample.intruding
        (List.replicate 35 0), m.before.threads[0]?.any Sample.isOver = false := by
      decide +kernel
    exact ⟨_, _, _, _, ⟨run_of_schedule _ _ _, rfl, rfl, Sample.going_of_isOver hopen⟩,
      by decide +kernel⟩

end InstanceRegistry
