import InstanceRegistry.Proofs.Answer

/-!
# One instance per slot

A slot has at most one running constructor at a time, and at most one of all its
constructors ever returns an instance without a fault. That instance is stored, stays
stored, and is what every call on the slot returns from then on.

## Implementation notes

Between the end of its constructor and the write to the store the leader holds the
instance alone, so the count of successful constructors cannot be read off the store.
`Made` covers both: an instance that is stored, or one that its leader is about to
store.
-/

namespace InstanceRegistry

variable {σ : Type}

/-- The instance with which a constructor of the slot ended, if that is what happened. -/
def Incident.result? (r : RegistryId) (s : Slot) : Incident → Option Value
  | .concluded a _ (.returned x none) => if a.registry = r ∧ a.slot = s then some x else none
  | _ => none

/-- The instances with which constructors of a slot ended, in the order of a history. -/
def results (r : RegistryId) (s : Slot) (h : List (Move σ)) : List Value :=
  h.filterMap fun m => m.incident?.bind (Incident.result? r s)

/-- A request is about to store an instance of the slot. -/
def Request.Keeps (q : Request) (r : RegistryId) (s : Slot) (v : Value) : Prop :=
  q.accessor.registry = r ∧ q.accessor.slot = s ∧ ∃ f, q.phase = .keep f v

namespace World

/-- A leader is about to store an instance of the slot. -/
def Pending (w : World σ) (r : RegistryId) (s : Slot) (v : Value) : Prop :=
  ∃ (t : ThreadId) (th : Thread σ) (q : Request),
    w.threads[t]? = some th ∧ q ∈ th.requests ∧ q.Keeps r s v

/-- The slot has an instance, stored or about to be. -/
def Made (w : World σ) (r : RegistryId) (s : Slot) (v : Value) : Prop :=
  w.stored? r s = some v ∨ w.Pending r s v

variable {P : Program σ} {t : ThreadId} {w w' : World σ} {th th' : Thread σ} {r : RegistryId}
  {s : Slot}

section Step

variable (ht : w.threads[t]? = some th)
  (hth : ∀ u, w'.threads[u]? = if u = t then some th' else w.threads[u]?)
include ht hth

/-- An instance that is about to be stored was so before, or the request is new to its thread. -/
theorem Pending.cases {v : Value} (h : w'.Pending r s v) :
    w.Pending r s v ∨ ∃ q ∈ th'.requests, q ∉ th.requests ∧ q.Keeps r s v := by
  obtain ⟨u, x, q, hx, hq, hk⟩ := h
  obtain ⟨rfl, rfl⟩ | ⟨-, hx⟩ := threads_cases hth hx
  · by_cases hold : q ∈ th.requests
    · exact Or.inl ⟨u, th, q, ht, hold, hk⟩
    · exact Or.inr ⟨q, hq, hold, hk⟩
  · exact Or.inl ⟨u, x, q, hx, hq, hk⟩

/-- An instance that is about to be stored still is, unless its request is gone. -/
theorem Pending.mono {v : Value} (h : w.Pending r s v)
    (hq : ∀ q ∈ th.requests, q.Keeps r s v → q ∈ th'.requests) : w'.Pending r s v := by
  obtain ⟨u, x, q, hx, hm, hk⟩ := h
  by_cases hu : u = t
  · subst hu
    obtain rfl := Option.some.inj (ht.symm.trans hx)
    exact ⟨u, th', q, by simp [hth], hq q hm hk, hk⟩
  · exact ⟨u, x, q, by simpa [hth, hu] using hx, hm, hk⟩

/-- No instance comes or goes where nothing is stored and the requests that are about to store
stay the same. -/
theorem made_congr (hs : ∀ r s, w'.stored? r s = w.stored? r s)
    (hq : ∀ q v, q.Keeps r s v → (q ∈ th'.requests ↔ q ∈ th.requests)) (v : Value) :
    w'.Made r s v ↔ w.Made r s v := by
  constructor
  · rintro (h | h)
    · exact Or.inl ((hs r s).symm.trans h)
    · rcases h.cases ht hth with h | ⟨q, hm, hn, hk⟩
      · exact Or.inr h
      · exact (hn ((hq q v hk).mp hm)).elim
  · rintro (h | h)
    · exact Or.inl ((hs r s).trans h)
    · exact Or.inr (h.mono ht hth fun q hm hk => (hq q v hk).mpr hm)

/-- No instance comes or goes where the innermost request moves between phases other than the
one in which it stores. -/
theorem made_congr_head (hs : ∀ r s, w'.stored? r s = w.stored? r s) {q₀ q₁ : Request}
    {R : List Request} (hR : th.requests = q₀ :: R) (hR' : th'.requests = q₁ :: R)
    (h₀ : ∀ v, ¬ q₀.Keeps r s v) (h₁ : ∀ v, ¬ q₁.Keeps r s v) (v : Value) :
    w'.Made r s v ↔ w.Made r s v := by
  refine made_congr ht hth hs (fun q v hk => ?_) v
  have hq₀ : q ≠ q₀ := by rintro rfl; exact h₀ v hk
  have hq₁ : q ≠ q₁ := by rintro rfl; exact h₁ v hk
  simp [hR, hR', hq₀, hq₁]

end Step

/-- A request in another phase than that in which it stores is not about to. -/
theorem not_keeps {q : Request} {v : Value} (h : ∀ f u, q.phase ≠ .keep f u) :
    ¬ q.Keeps r s v :=
  fun ⟨_, _, f, hf⟩ => h f v hf

/-- While the constructor of a slot runs, there is no instance of the slot. -/
theorem Consistent.not_made (c : w.Consistent) {a : Accessor} {f : FlightId} {v : Value}
    (ht : w.threads[t]? = some th) (hq : ⟨a, .build f⟩ ∈ th.requests) :
    ¬ w.Made a.registry a.slot v := by
  rintro (h | ⟨u, x, q, hx, hm, hr, hs, g, hg⟩)
  · have hn := (c.sound ht hq).2
    simp [hn] at h
  · have hqg : q.flight? = some g := by rw [Request.flight?, hg]; rfl
    obtain ⟨-, rfl⟩ := c.request_unique ht hq rfl hx hm hqg hr.symm hs.symm
    cases hg

/-- A request comes to the phase in which it stores only from its constructor, with the instance
that the constructor returned, and leaves it only by storing. -/
theorem Advance.keeps_cases {a : Accessor} {i : Option Incident} {p p' : Phase}
    (h : Advance w a i p p') (hw : w.Valid) (hs : w.Sound t ⟨a, p⟩) (hi : w.incident? t = i) :
    (∃ f x, i = some (.concluded a f (.returned x none)) ∧ p = .build f ∧
        p' = .keep f (a.slot.type.box x)) ∨
      (∀ r s, i.bind (Incident.result? r s) = none) ∧ (∀ f v, p ≠ .keep f v) ∧
        ∀ f v, p' ≠ .keep f v := by
  cases h with
  | hit | miss | join | release | find | clear =>
      exact Or.inr ⟨fun _ _ => rfl, by simp, by simp⟩
  | @conclude f o =>
      obtain ⟨x, rfl, hk⟩ | ⟨l, ho, -, hk⟩ := o.conclude_core a.slot f
      · exact Or.inl ⟨f, x, rfl, rfl, hk⟩
      · refine Or.inr ⟨fun r s => ?_, by simp, by simp [hk]⟩
        cases o with
        | panicked q => rfl
        | returned x e =>
            cases e with
            | none => exact (ho x rfl).elim
            | some e => rfl
  | spill hr hb =>
      -- The leader has an identifier, so its registry was set up.
      simp [hw.writable hs.1 hr] at hb
  | crash hp =>
      refine Or.inr ⟨fun _ _ => rfl, fun f v hk => ?_, by simp⟩
      subst hk
      cases hw.proper.exposed hi

section Step

variable (ht : w.threads[t]? = some th)
  (hth : ∀ u, w'.threads[u]? = if u = t then some th' else w.threads[u]?)
include ht hth

/-- After a constructor returned an instance, that is the instance of the slot. -/
theorem made_of_conclude (c : w.Consistent) (ha : Agree w w') {a : Accessor} {f : FlightId}
    {u : Value} {R : List Request} (hR : th.requests = ⟨a, .build f⟩ :: R)
    (hR' : th'.requests = ⟨a, .keep f u⟩ :: R) (v : Value) :
    w'.Made a.registry a.slot v ↔ v = u := by
  have hnot : ¬ w.Made a.registry a.slot v := c.not_made (f := f) ht (by simp [hR])
  constructor
  · rintro (h | h)
    · exact (hnot (Or.inl ((ha.stored _ _).symm.trans h))).elim
    · rcases h.cases ht hth with h | ⟨q, hm, hn, -, -, g, hg⟩
      · exact (hnot (Or.inr h)).elim
      · rw [hR', List.mem_cons] at hm
        rcases hm with rfl | hm
        · exact (Phase.keep.inj hg).2.symm
        · exact (hn (by simp [hR, hm])).elim
  · rintro rfl
    have hq : (⟨a, .keep f v⟩ : Request) ∈ th'.requests := by simp [hR']
    exact Or.inr ⟨t, th', _, by simp [hth], hq, rfl, rfl, f, rfl⟩

/-- Storing an instance changes no slot's instance. -/
theorem made_of_keep {a : Accessor} {f : FlightId} {u : Value} {R : List Request}
    (hR : th.requests = ⟨a, .keep f u⟩ :: R) (hR' : th'.requests = ⟨a, .land f (.value u)⟩ :: R)
    (hs : ∀ r s, w'.stored? r s =
      if r = a.registry ∧ s = a.slot then some u else w.stored? r s) :
    (∀ v, w'.Made r s v → w.Made r s v) ∧ ((∃ v, w.Made r s v) → ∃ v, w'.Made r s v) := by
  constructor
  · rintro v (h | h)
    · rw [hs] at h
      split at h
      · rename_i hrs
        obtain ⟨rfl, rfl⟩ := hrs
        obtain rfl := Option.some.inj h
        have hq : (⟨a, .keep f u⟩ : Request) ∈ th.requests := by simp [hR]
        exact Or.inr ⟨t, th, _, ht, hq, rfl, rfl, f, rfl⟩
      · exact Or.inl h
    · rcases h.cases ht hth with h | ⟨q, hm, hn, hk⟩
      · exact Or.inr h
      · rw [hR', List.mem_cons] at hm
        rcases hm with rfl | hm
        · exact (not_keeps (by simp) hk).elim
        · exact (hn (by simp [hR, hm])).elim
  · rintro ⟨v, h⟩
    by_cases hrs : r = a.registry ∧ s = a.slot
    · exact ⟨u, Or.inl (by rw [hs, if_pos hrs])⟩
    · rcases h with h | h
      · exact ⟨v, Or.inl (by rw [hs, if_neg hrs, h])⟩
      · refine ⟨v, Or.inr (h.mono ht hth fun q hm hk => ?_)⟩
        rw [hR, List.mem_cons] at hm
        rcases hm with rfl | hm
        · exact (hrs ⟨hk.1.symm, hk.2.1.symm⟩).elim
        · simp [hR', hm]

end Step

/-- What a step does to the instance of a slot: it leaves it as it is or stores it, unless it is
the end of a constructor that returned an instance, of which there was none before. -/
theorem made_step (hw : w.Valid) (hs : w.step P t = some w') (r : RegistryId) (s : Slot) :
    ((w.incident? t).bind (Incident.result? r s) = none ∧
        (∀ v, w'.Made r s v → w.Made r s v) ∧ ((∃ v, w.Made r s v) → ∃ v, w'.Made r s v)) ∨
      ∃ x, (w.incident? t).bind (Incident.result? r s) = some x ∧ (∀ v, ¬ w.Made r s v) ∧
        ∀ v, w'.Made r s v ↔ v = s.type.box x := by
  obtain ⟨th, th', R, R', ht, hth, hR, hR', i, hi, hsh⟩ := step_shift hs
  have hsame (hres : i.bind (Incident.result? r s) = none)
      (hm : ∀ v, w'.Made r s v ↔ w.Made r s v) :
      (w.incident? t).bind (Incident.result? r s) = none ∧
        (∀ v, w'.Made r s v → w.Made r s v) ∧ ((∃ v, w.Made r s v) → ∃ v, w'.Made r s v) :=
    ⟨hi ▸ hres, fun v => (hm v).mp, fun ⟨v, hv⟩ => ⟨v, (hm v).mpr hv⟩⟩
  cases hsh with
  | idle ha =>
      exact Or.inl (hsame rfl (made_congr ht hth ha.stored fun q v _ => by rw [hR, hR']))
  | opens ha =>
      refine Or.inl (hsame rfl (made_congr ht hth ha.stored fun q v hk => ?_))
      rw [hR, hR', List.mem_cons, or_iff_right]
      rintro rfl
      exact not_keeps (by simp) hk
  | closes ha hp =>
      have hn := hw.consistent.flight?_of_closes (hw.consistent.sound ht (by simp [hR])) hp
      refine Or.inl (hsame rfl (made_congr ht hth ha.stored fun q v hk => ?_))
      rw [hR, hR', List.mem_cons, or_iff_right]
      rintro rfl
      obtain ⟨-, -, f, rfl⟩ := hk
      cases hn
  | @advance a i p p' R ha hadv =>
      have hsound : w.Sound t ⟨a, p⟩ := hw.consistent.sound ht (by simp [hR])
      obtain ⟨f, x, rfl, rfl, rfl⟩ | ⟨hres, hp, hp'⟩ := hadv.keeps_cases hw hsound hi
      · by_cases hrs : a.registry = r ∧ a.slot = s
        · obtain ⟨rfl, rfl⟩ := hrs
          exact Or.inr ⟨x, by simp [hi, Incident.result?],
            fun v => hw.consistent.not_made (f := f) ht (by simp [hR]),
            made_of_conclude ht hth hw.consistent ha hR hR'⟩
        · refine Or.inl (hsame (by simp [Incident.result?, hrs])
            (made_congr_head ht hth ha.stored hR hR' (fun v => not_keeps (by simp)) fun v h => ?_))
          exact hrs ⟨h.1, h.2.1⟩
      · exact Or.inl (hsame (hres r s) (made_congr_head ht hth ha.stored hR hR'
          (fun v => not_keeps hp) fun v => not_keeps hp'))
  | keep hid hii hf hs =>
      exact Or.inl ⟨by rw [hi]; rfl, made_of_keep ht hth hR hR' hs⟩
  | identify hs | takeOff hs | land hs =>
      exact Or.inl (hsame rfl (made_congr_head ht hth hs hR hR'
        (fun v => not_keeps (by simp)) fun v => not_keeps (by simp)))

/-- The history knows the instance of the slot. -/
structure Recorded (r : RegistryId) (s : Slot) (h : List (Move σ)) (w : World σ) : Prop where
  /-- An instance came out of the only constructor that returned one. -/
  result : ∀ {v}, w.Made r s v → ∃ x, results r s h = [x] ∧ v = s.type.box x
  /-- The instance that a constructor returned is not lost. -/
  made : results r s h ≠ [] → ∃ v, w.Made r s v

/-- A step keeps the record of a slot. -/
theorem Recorded.step {h : List (Move σ)} (hrec : Recorded r s h w) (hw : w.Valid)
    (hs : w.step P t = some w') : Recorded r s (h ++ [⟨t, w, w'⟩]) w' := by
  have happ : results r s (h ++ [⟨t, w, w'⟩]) =
      results r s h ++ ((w.incident? t).bind (Incident.result? r s)).toList :=
    filterMap_append_singleton _ h _
  obtain ⟨hres, hback, hforth⟩ | ⟨x, hres, hnot, hmade⟩ := made_step hw hs r s
  · rw [hres, Option.toList_none, List.append_nil] at happ
    constructor
    · intro v hv
      rw [happ]
      exact hrec.result (hback v hv)
    · intro hne
      rw [happ] at hne
      exact hforth (hrec.made hne)
  · have hnil : results r s h = [] := by
      apply Decidable.byContradiction
      intro hne
      obtain ⟨v, hv⟩ := hrec.made hne
      exact hnot v hv
    rw [hres, hnil, Option.toList_some, List.nil_append] at happ
    exact ⟨fun hv => ⟨x, happ, (hmade _).mp hv⟩, fun _ => ⟨_, (hmade _).mpr rfl⟩⟩

/-- The history knows the instance of every slot, in every run of a fresh world. -/
theorem Run.recorded {w₀ : World σ} {h : List (Move σ)} (run : Run P w₀ h w) (fresh : w₀.Fresh)
    (r : RegistryId) (s : Slot) : Recorded r s h w := by
  refine run.keeps fresh ⟨?_, fun hne => (hne rfl).elim⟩ fun hw hrec hs => hrec.step hw hs
  rintro v (hv | ⟨t, th, q, ht, hq, -⟩)
  · obtain ⟨reg, hr, hv⟩ := Option.bind_eq_some_iff.mp hv
    obtain ⟨bare, observers, rfl⟩ := fresh.registries reg (List.mem_of_getElem? hr)
    cases bare <;> cases hv
  · obtain ⟨c, rfl⟩ := fresh.threads th (List.mem_of_getElem? ht)
    cases hq

/-- A constructor of the slot runs at the given place of the thread's stack. -/
def Constructing (w : World σ) (r : RegistryId) (s : Slot) (t : ThreadId) (i : Nat) : Prop :=
  ∃ th a f, w.threads[t]? = some th ∧ th.stack[i]? = some (.construction a f) ∧
    a.registry = r ∧ a.slot = s

/-- A slot has at most one running constructor. -/
theorem Consistent.constructing_unique (c : w.Consistent) {u : ThreadId} {i j : Nat}
    (hi : w.Constructing r s t i) (hj : w.Constructing r s u j) : t = u ∧ i = j := by
  obtain ⟨x, a, f, hx, hxi, har, has⟩ := hi
  obtain ⟨y, b, g, hy, hyj, hbr, hbs⟩ := hj
  have mem_requests {z : Thread σ} {k : Nat} {b : Accessor} {g : FlightId}
      (hz : z.stack[k]? = some (.construction b g)) : ⟨b, .build g⟩ ∈ z.requests :=
    List.mem_append_right _ (List.mem_filterMap.mpr ⟨_, List.mem_of_getElem? hz, rfl⟩)
  obtain ⟨rfl, hq⟩ := c.request_unique hx (mem_requests hxi) rfl hy (mem_requests hyj) rfl
    (har.trans hbr.symm) (has.trans hbs.symm)
  obtain ⟨rfl, hph⟩ := Request.mk.inj hq
  obtain rfl := Phase.build.inj hph
  obtain rfl := Option.some.inj (hx.symm.trans hy)
  have hnd : (x.stack.filterMap fun fr => fr.request?.bind Request.flight?).Nodup := by
    have h := c.once hx
    rw [Thread.leads, Thread.requests, List.filterMap_append, List.filterMap_filterMap] at h
    exact (List.nodup_append.mp h).2.1
  exact ⟨rfl, getElem?_inj_of_filterMap hnd hxi hyj rfl rfl⟩

end World

/-- A move that starts a constructor of the slot. -/
def Move.Constructs (m : Move σ) (r : RegistryId) (s : Slot) : Prop :=
  ∃ a f S, m.actor? = some ⟨.requesting a (.build f), S⟩ ∧ a.registry = r ∧ a.slot = s

/-- No constructor of a slot is started once an instance is stored. -/
theorem World.Run.not_constructs {P : Program σ} {w w' : World σ} {h : List (Move σ)}
    (run : Run P w h w') (c : w.Consistent) {r : RegistryId} {s : Slot} {v : Value}
    (hv : w.stored? r s = some v) {m : Move σ} (hm : m ∈ h) : ¬ m.Constructs r s := by
  rintro ⟨a, f, S, hactor, rfl, rfl⟩
  obtain ⟨h₁, -, -, run₁, -, -⟩ := run.split hm
  have hc : m.before.Consistent := run₁.preserves (fun c hs => c.step hs) c
  have hn := (hc.sound hactor (q := ⟨a, .build f⟩) (List.mem_cons_self ..)).2
  have hv' := run₁.stored? c hv
  simp [hn] at hv'

namespace Ty

/-- The value can be one of the type. Only interface types ask for something: their values are
missing, or of a type that implements the interface. -/
def Holds (t : Ty) (v : Value) : Prop :=
  t.isInterface = true → v = .nothing ∨ ∃ d u, v = .dynamic d u ∧ d.implements t = true

/-- A value of a type is read back as it was stored. -/
theorem unbox_box {t : Ty} {v : Value} (h : t.Holds v) : t.unbox (t.box v) = v := by
  by_cases hi : t.isInterface = true
  · rcases h hi with rfl | ⟨d, u, rfl, hd⟩
    · cases t with
      | pointer t => cases hi
      | base b => simp_all [box, unbox, zero, isInterface, Content.zero]
    · simp [box, unbox, hi, hd]
  · simp [box, unbox, hi]

end Ty

namespace World

/-- A call of the accessor by the thread ends with the outcome. -/
def CallEnds (w : World σ) (t : ThreadId) (a : Accessor) (o : Outcome) : Prop :=
  ∃ next S, w.threads[t]? = some ⟨.returning o, .caller a next :: S⟩

/-- Every slot has one instance. At no point do two constructors of the slot run; once an instance
is stored it stays, and no further constructor is started; and every call that returns without a
fault returns the stored instance, which is the one that the only successful constructor returned.

A registry numbers its slots with words of 64 bits. The part about calls is for registries that
have not given out all of these numbers. -/
theorem Run.one_instance {P : Program σ} {w₀ w : World σ} {h : List (Move σ)}
    (run : Run P w₀ h w) (fresh : w₀.Fresh) (r : RegistryId) (s : Slot) :
    (∀ t u i j, w.Constructing r s t i → w.Constructing r s u j → t = u ∧ i = j) ∧
    (∀ v, w.stored? r s = some v → ∀ h' w', Run P w h' w' →
      w'.stored? r s = some v ∧ ∀ m ∈ h', ¬ m.Constructs r s) ∧
    (w.IdsFit r → ∀ t a v, a.registry = r → a.slot = s → w.CallEnds t a (.returned v none) →
      ∃ x, results r s h = [x] ∧ w.stored? r s = some (s.type.box x) ∧
        v = s.type.unbox (s.type.box x) ∧ (s.type.Holds x → v = x)) := by
  have hw := run.valid fresh
  refine ⟨?_, ?_, ?_⟩
  · intro t u i j hi hj
    exact hw.consistent.constructing_unique hi hj
  · intro v hv h' w' run'
    exact ⟨run'.stored? hw.consistent hv, fun m hm => run'.not_constructs hw.consistent hv hm⟩
  · rintro hfit t a v rfl rfl ⟨next, S, ht⟩
    have hstack : Stacked (some a) (.caller a next :: S) := by
      cases hw.proper t _ ht with
      | returning hS =>
          cases hS with
          | caller hS => exact .caller hS
    obtain ⟨u, hu, rfl⟩ := (run.answered fresh t a v _ ht hstack).stored hw hfit
    obtain ⟨x, hx, rfl⟩ := (run.recorded fresh a.registry a.slot).result (Or.inl hu)
    exact ⟨x, hx, hu, rfl, fun hold => Ty.unbox_box hold⟩

end World

/-! ### Two callers of one slot -/

namespace Sample

/-- The default slot of whole numbers. -/
def slot : Slot := ⟨.base { id := "int", text := "int", kind := .int, content := .number }, ""⟩

/-- An accessor of the slot in the first registry. -/
def accessor : Accessor := ⟨0, slot, 0, false⟩

/-- Calls an accessor and ends as the call does. -/
def caller (a : Accessor) : Code Unit :=
  .call a fun
    | .returned v e => .done v e
    | .panicked p => .raise p

/-- All constructors do the same, and nothing is observed. -/
def program (maker : Code Unit) : Program Unit where
  maker _ := maker
  observer _ _ := .done .unit none
  isOpen _ _ := true

/-- A constructor that returns an instance. -/
def seven : Code Unit := .done (.number 7) none

/-- A constructor that panics. -/
def boom : Code Unit := .raise (.text "boom")

/-- Two threads that call accessors. -/
def callers (a b : Accessor) : World Unit where
  registries := [.new []]
  threads := [.start (caller a), .start (caller b)]
  state := ()

theorem callers_fresh (a b : Accessor) : (callers a b).Fresh := by
  refine ⟨fun reg h => ⟨false, [], ?_⟩, rfl, fun th h => ?_⟩
  · simpa [callers, Registry.make] using h
  · rcases List.mem_cons.mp h with rfl | h
    · exact ⟨_, rfl⟩
    · exact ⟨_, List.mem_singleton.mp h⟩

/-- Two threads that call the same accessor. -/
def world : World Unit := callers accessor accessor

theorem world_fresh : world.Fresh := callers_fresh accessor accessor

/-- The second thread joins the flight of the first, which then lands it; both calls end. -/
def schedule : List ThreadId :=
  [0, 0, 0, 0, 1, 1, 1, 1] ++ List.replicate 8 0 ++ List.replicate 3 1

/-- The world in which both calls have ended. -/
def ended (maker : Code Unit) : World Unit := world.run (program maker) schedule

/-- The steps up to the end of both calls. -/
def history (maker : Code Unit) : List (Move Unit) := world.history (program maker) schedule

theorem run_ended (maker : Code Unit) :
    World.Run (program maker) world (history maker) (ended maker) :=
  World.run_of_schedule _ _ _

end Sample

/-- Both callers of a flight get the instance of its constructor. -/
theorem World.Run.one_instance_shared :
    (Sample.ended Sample.seven).CallEnds 0 Sample.accessor (.returned (.number 7) none) ∧
      (Sample.ended Sample.seven).CallEnds 1 Sample.accessor (.returned (.number 7) none) ∧
      ∃ x, results 0 Sample.slot (Sample.history Sample.seven) = [x] ∧
        (Sample.ended Sample.seven).stored? 0 Sample.slot = some (Sample.slot.type.box x) ∧
        .number 7 = x := by
  have hfit : (Sample.ended Sample.seven).IdsFit 0 := by decide +kernel
  have hleader : (Sample.ended Sample.seven).CallEnds 0 Sample.accessor
      (.returned (.number 7) none) := ⟨_, _, rfl⟩
  have hwaiter : (Sample.ended Sample.seven).CallEnds 1 Sample.accessor
      (.returned (.number 7) none) := ⟨_, _, rfl⟩
  obtain ⟨-, -, hcalls⟩ :=
    Run.one_instance (Sample.run_ended Sample.seven) Sample.world_fresh 0 Sample.slot
  obtain ⟨x, hx, hs, -, hv⟩ := hcalls hfit 1 Sample.accessor _ rfl rfl hwaiter
  have hholds : Sample.slot.type.Holds x := fun h => by cases h
  exact ⟨hleader, hwaiter, x, hx, hs, hv hholds⟩

end InstanceRegistry
