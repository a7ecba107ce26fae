import InstanceRegistry.Proofs.Consistency

/-!
# What no run changes

A slot keeps its identifier and its instance, a flight keeps its slot and its leader,
and a landing is final. Each of these is first shown for a step and then for a run.
The numbering of slots is kept as well; as long as a registry has numbers left, two
slots of it never have the same identifier.
-/

namespace InstanceRegistry

variable {σ : Type}

namespace World

variable {P : Program σ} {t : ThreadId} {w w' : World σ} {r : RegistryId} {s : Slot} {f : FlightId}

/-- A step keeps the identifier of a slot. -/
theorem id?_step (hs : w.step P t = some w') {id : String} (h : w.id? r s = some id) :
    w'.id? r s = some id := by
  obtain ⟨-, -, R, R', -, -, -, -, i, -, hsh⟩ := step_shift hs
  cases hsh with
  | idle ha | opens ha | closes ha hp | advance ha hadv => exact (ha.id r s).trans h
  | identify hs hi hf hn hid =>
      rw [hid]
      split
      · rename_i heq
        rw [heq.1, heq.2] at h
        rcases hn with hn | hn
        · simp [hn] at h
        · exact hn.symm.trans h
      · exact h
  | takeOff hs hid hn hi hf => exact (hid r s).trans h
  | keep hid hi hf hs => exact (hid r s).trans h
  | land hs hid hfl hi hf => exact (hid r s).trans h

/-- A step keeps a flight, its landing apart. -/
theorem flight_step (hs : w.step P t = some w') {fl : Flight} (h : w.flights[f]? = some fl) :
    ∃ l, w'.flights[f]? = some { fl with landing := l } := by
  obtain ⟨-, -, R, R', -, -, -, -, i, -, hsh⟩ := step_shift hs
  cases hsh with
  | idle ha | opens ha | closes ha hp | advance ha hadv =>
      exact ⟨fl.landing, by rw [ha.flights, h]⟩
  | identify hs hi hf hn hid => exact ⟨fl.landing, by rw [hf, h]⟩
  | takeOff hs hid hn hi hf =>
      refine ⟨fl.landing, ?_⟩
      rw [hf, if_neg, h]
      rintro rfl
      simp at h
  | keep hid hi hf hs => exact ⟨fl.landing, by rw [hf, h]⟩
  | @land a g flight l R hs hid hfl hi hf =>
      by_cases hg : f = g
      · subst hg
        obtain rfl := Option.some.inj (hfl.symm.trans h)
        exact ⟨some l, by simp [hf]⟩
      · exact ⟨fl.landing, by rw [hf, if_neg hg, h]⟩

namespace Consistent

/-- A step keeps what is stored. -/
theorem stored?_step (c : w.Consistent) (hs : w.step P t = some w') {v : Value}
    (h : w.stored? r s = some v) : w'.stored? r s = some v := by
  obtain ⟨th, -, R, R', ht, -, hR, -, i, -, hsh⟩ := step_shift hs
  cases hsh with
  | idle ha | opens ha | closes ha hp | advance ha hadv => exact (ha.stored r s).trans h
  | identify hs hi hf hn hid => exact (hs r s).trans h
  | takeOff hs hid hn hi hf => exact (hs r s).trans h
  | @keep a f v R hid hi hf hs =>
      have hn : w.stored? a.registry a.slot = none :=
        (c.sound ht (q := ⟨a, .keep f v⟩) (by simp [hR])).2
      rw [hs, if_neg, h]
      rintro ⟨rfl, rfl⟩
      simp [hn] at h
  | land hs hid hfl hi hf => exact (hs r s).trans h

/-- A step keeps a landing. -/
theorem landing?_step (c : w.Consistent) (hs : w.step P t = some w') {l : Landing}
    (h : w.landing? f = some l) : w'.landing? f = some l := by
  obtain ⟨th, -, R, R', ht, -, hR, -, i, -, hsh⟩ := step_shift hs
  obtain ⟨fl, hfl', hl⟩ := landing?_eq_some.mp h
  cases hsh with
  | idle ha | opens ha | closes ha hp | advance ha hadv =>
      exact landing?_eq_some.mpr ⟨fl, by rw [ha.flights, hfl'], hl⟩
  | identify hs hi hf hn hid => exact landing?_eq_some.mpr ⟨fl, by rw [hf, hfl'], hl⟩
  | takeOff hs hid hn hi hf =>
      refine landing?_eq_some.mpr ⟨fl, ?_, hl⟩
      rw [hf, if_neg, hfl']
      rintro rfl
      simp at hfl'
  | keep hid hi hf hs => exact landing?_eq_some.mpr ⟨fl, by rw [hf, hfl'], hl⟩
  | @land a g flight l' R hs hid hfl hi hf =>
      refine landing?_eq_some.mpr ⟨fl, ?_, hl⟩
      rw [hf, if_neg, hfl']
      rintro rfl
      -- The flight of a leader is still in the air.
      obtain ⟨fl', hg, -, -, -, hn⟩ := (c.sound ht (q := ⟨a, .land f l'⟩) (by simp [hR])).1
      obtain rfl := Option.some.inj (hfl'.symm.trans hg)
      simp [hn] at hl

end Consistent

namespace Run

variable {u : World σ} {h : List (Move σ)} (run : Run P u h w)
include run

theorem id? {id : String} (hid : u.id? r s = some id) : w.id? r s = some id :=
  run.preserves (I := fun w => w.id? r s = some id) (fun hi hs => id?_step hs hi) hid

theorem flight {fl : Flight} (hf : u.flights[f]? = some fl) :
    ∃ l, w.flights[f]? = some { fl with landing := l } :=
  run.preserves (I := fun w => ∃ l, w.flights[f]? = some { fl with landing := l })
    (fun ⟨_, hl⟩ hs => by simpa using flight_step hs hl) ⟨fl.landing, hf⟩

theorem stored? (c : u.Consistent) {v : Value} (hv : u.stored? r s = some v) :
    w.stored? r s = some v :=
  (run.preserves (I := fun w => w.Consistent ∧ w.stored? r s = some v)
    (fun hi hs => ⟨hi.1.step hs, hi.1.stored?_step hs hi.2⟩) ⟨c, hv⟩).2

theorem landing? (c : u.Consistent) {l : Landing} (hl : u.landing? f = some l) :
    w.landing? f = some l :=
  (run.preserves (I := fun w => w.Consistent ∧ w.landing? f = some l)
    (fun hi hs => ⟨hi.1.step hs, hi.1.landing?_step hs hi.2⟩) ⟨c, hl⟩).2

end Run

/-- What a step does to the registries: nothing, or it adds a new one, or it changes one. -/
inductive Changed (regs : List Registry) : List Registry → Prop
  | kept : Changed regs regs
  | added (bare : Bool) (observers : List (Option ObserverId)) :
      Changed regs (regs ++ [.make bare observers])
  | replaced {r reg reg'} (hr : regs[r]? = some reg) (h : reg.Change reg') :
      Changed regs (regs.set r reg')

theorem step_changed (hs : w.step P t = some w') : Changed w.registries w'.registries := by
  obtain ⟨th, th', -, -, turn⟩ := step_turn hs
  cases turn with
  | proceed hr hf =>
      generalize w'.registries = regs at hr
      cases hr with
      | kept => exact .kept
      | added bare observers => exact .added bare observers
      | attached o hr => exact .replaced hr (.attach o)
  | identify hr hi hw | refuse hr hi hw =>
      rw [hw.registries]
      exact .replaced hr (.identify hi)
  | keep hr hb hw =>
      rw [hw.registries]
      exact .replaced hr (.keep _ _)
  | takeOff hr hno hreg hf =>
      rw [hreg]
      exact .replaced hr (.depart _ _)
  | land hr hf hreg hfs =>
      rw [hreg]
      exact .replaced hr (.arrive _)
  | stop hq | notify hq | call hq | resume hq | answer hq | retry hq | pass hq _ | conclude hq
  | observed hq | crash hq _ | interrupt hq _ | lost hq _ | hit hq _ _ | miss hq _ _
  | join hq _ _ | share hq _ | release hq _ _ | find hq _ _ | clear hq _ _ | build hq
  | spill hq _ _ | settle hq | finish hq | skip hq _ _ | announce hq _ _ =>
      rw [hq.registries]
      exact .kept

/-- A registry is still there after a step, perhaps changed. -/
theorem Changed.getElem? {regs regs' : List Registry} (hc : Changed regs regs') {reg : Registry}
    (hr : regs[r]? = some reg) :
    ∃ reg', regs'[r]? = some reg' ∧ (reg' = reg ∨ reg.Change reg') := by
  obtain ⟨hlt, -⟩ := List.getElem?_eq_some_iff.mp hr
  cases hc with
  | kept => exact ⟨reg, hr, Or.inl rfl⟩
  | added bare observers => exact ⟨reg, by rw [List.getElem?_append_left hlt, hr], Or.inl rfl⟩
  | @replaced r₀ reg₀ reg' hr₀ h =>
      by_cases hrr : r = r₀
      · subst hrr
        obtain rfl := Option.some.inj (hr.symm.trans hr₀)
        exact ⟨reg', by simp [hlt], Or.inr h⟩
      · exact ⟨reg, by rw [List.getElem?_set_ne (Ne.symm hrr), hr], Or.inl rfl⟩

/-- The registry exists and was set up. -/
def IsSetUp (w : World σ) (r : RegistryId) : Prop :=
  ∃ reg, w.registries[r]? = some reg ∧ reg.writable = true

theorem IsSetUp.step {r : RegistryId} (hreg : w.IsSetUp r) (hs : w.step P t = some w') :
    w'.IsSetUp r := by
  obtain ⟨reg, hr, hb⟩ := hreg
  obtain ⟨reg', hr', rfl | hc⟩ := (step_changed hs).getElem? hr
  · exact ⟨reg', hr', hb⟩
  · exact ⟨reg', hr', hc.writable_eq.trans hb⟩

/-- What holds of a registry when it is made, and is kept by every change, holds after a step. -/
theorem Changed.forall {I : Registry → Prop} (hmake : ∀ bare observers, I (.make bare observers))
    (hchange : ∀ {reg reg'}, I reg → reg.Change reg' → I reg') {regs regs' : List Registry}
    (hc : Changed regs regs') (hI : ∀ reg ∈ regs, I reg) : ∀ reg ∈ regs', I reg := by
  intro x hx
  cases hc with
  | kept => exact hI x hx
  | added bare observers =>
      rcases List.mem_append.mp hx with hx | hx
      · exact hI x hx
      · obtain rfl := List.mem_singleton.mp hx
        exact hmake bare observers
  | replaced hr h =>
      rcases List.mem_or_eq_of_mem_set hx with hx | rfl
      · exact hI x hx
      · exact hchange (hI _ (List.mem_of_getElem? hr)) h

/-- What holds of a registry when it is made, and is kept by every change, holds of all registries
in every run of a fresh world. -/
theorem Run.forall_registries {w₀ : World σ} {h : List (Move σ)} {I : Registry → Prop}
    (run : Run P w₀ h w) (fresh : w₀.Fresh) (hmake : ∀ bare observers, I (.make bare observers))
    (hchange : ∀ {reg reg'}, I reg → reg.Change reg' → I reg') : ∀ reg ∈ w.registries, I reg := by
  refine run.preserves (I := fun w => ∀ reg ∈ w.registries, I reg)
    (fun hI hs => (step_changed hs).forall hmake hchange hI) ?_
  intro reg hreg
  obtain ⟨bare, observers, rfl⟩ := fresh.registries reg hreg
  exact hmake bare observers

/-- The identifiers of every registry are numbered. -/
def Numbered (w : World σ) : Prop := ∀ reg ∈ w.registries, reg.Numbered

/-- The identifiers are numbered after every step. -/
theorem Numbered.step (hn : w.Numbered) (hs : w.step P t = some w') : w'.Numbered :=
  (step_changed hs).forall Registry.numbered_make (fun h hc => h.change hc) hn

/-- The identifiers of every registry are numbered in every run of a fresh world. -/
theorem Run.numbered {w₀ : World σ} {h : List (Move σ)} (run : Run P w₀ h w)
    (fresh : w₀.Fresh) : w.Numbered :=
  run.forall_registries fresh Registry.numbered_make fun h hc => h.change hc

/-- The registry has numbers left: its table has fewer entries than there are words of 64 bits. -/
def IdsFit (w : World σ) (r : RegistryId) : Prop :=
  ∀ reg, w.registries[r]? = some reg → reg.ids.size < UInt64.size

instance (w : World σ) (r : RegistryId) : Decidable (w.IdsFit r) :=
  match h : w.registries[r]? with
  | none => .isTrue (by simp [IdsFit, h])
  | some reg => decidable_of_iff (reg.ids.size < UInt64.size) (by simp [IdsFit, h])

/-- A registry that has numbers left had some before. -/
theorem IdsFit.of_step (h : w'.IdsFit r) (hs : w.step P t = some w') : w.IdsFit r := by
  intro reg hr
  obtain ⟨reg', hr', rfl | hc⟩ := (step_changed hs).getElem? hr
  · exact h _ hr'
  · exact Nat.lt_of_le_of_lt hc.size_le (h reg' hr')

theorem IdsFit.of_run {h : List (Move σ)} (hfit : w'.IdsFit r) (run : Run P w h w') :
    w.IdsFit r := by
  induction run with
  | start => exact hfit
  | step run hs ih => exact ih (hfit.of_step hs)

/-- Two slots with one identifier are the same slot, as long as there are numbers left. -/
theorem Numbered.slot_eq (hn : w.Numbered) (hfit : w.IdsFit r) {s s' : Slot} {id : String}
    (hs : w.id? r s = some id) (hs' : w.id? r s' = some id) : s = s' := by
  obtain ⟨reg, hr, hs⟩ := Option.bind_eq_some_iff.mp hs
  rw [id?_of_get hr] at hs'
  exact (hn reg (List.mem_of_getElem? hr)).slot_eq (hfit reg hr) hs hs'

/-- A registry that gave an identifier was set up. -/
theorem Numbered.writable (hn : w.Numbered) {id : String} (hs : w.id? r s = some id)
    {reg : Registry} (hr : w.registries[r]? = some reg) : reg.writable = true := by
  rw [id?_of_get hr] at hs
  exact (hn reg (List.mem_of_getElem? hr)).writable_of_get? hs

/-- A request that shares a flight has the slot of the flight, as long as there are numbers
left. -/
theorem Consistent.shares_slot (c : w.Consistent) (hn : w.Numbered) {a : Accessor}
    (hfit : w.IdsFit a.registry) {fl : Flight} (hs : w.Shares a f) (hf : w.flights[f]? = some fl) :
    fl.registry = a.registry ∧ fl.slot = a.slot := by
  obtain ⟨fl', hf', hr, hid⟩ := hs
  obtain rfl := Option.some.inj (hf.symm.trans hf')
  have hnamed := c.named hf
  rw [hr] at hnamed
  exact ⟨hr, hn.slot_eq hfit hnamed hid⟩

/-- A step keeps the flights that a request shares. -/
theorem Shares.step {a : Accessor} (h : w.Shares a f) (hs : w.step P t = some w') :
    w'.Shares a f := by
  obtain ⟨fl, hf, hr, hid⟩ := h
  obtain ⟨l, hl⟩ := flight_step hs hf
  exact ⟨{ fl with landing := l }, hl, hr, id?_step hs hid⟩

/-- What is known of every world that a run of a fresh world leads to. -/
structure Valid (w : World σ) : Prop where
  consistent : w.Consistent
  proper : w.Proper
  numbered : w.Numbered

/-- A registry in which a flight is led was set up. -/
theorem Valid.writable (v : w.Valid) {a : Accessor} {reg : Registry} (hl : w.Leads t a f)
    (hr : w.registries[a.registry]? = some reg) : reg.writable = true := by
  obtain ⟨fl, hfl, -, hfr, -, -⟩ := hl
  have hid := v.consistent.named hfl
  rw [hfr] at hid
  exact v.numbered.writable hid hr

theorem Valid.step (v : w.Valid) (hs : w.step P t = some w') : w'.Valid :=
  ⟨v.consistent.step hs, v.proper.step hs, v.numbered.step hs⟩

theorem Valid.run {v : World σ} {h : List (Move σ)} (hv : v.Valid) (run : Run P v h w) : w.Valid :=
  run.preserves (fun hv hs => hv.step hs) hv

/-- What is kept of a history and its world by every step holds after every run of a valid world. -/
theorem Valid.keeps {I : List (Move σ) → World σ → Prop} {v : World σ} {h : List (Move σ)}
    (hv : v.Valid) (h₀ : I [] v)
    (hI : ∀ {h v t w}, v.Valid → I h v → v.step P t = some w → I (h ++ [⟨t, v, w⟩]) w)
    (run : Run P v h w) : I h w := by
  induction run with
  | start => exact h₀
  | step run hs ih => exact hI (hv.run run) ih hs

namespace Run

variable {w₀ : World σ} {h : List (Move σ)}

theorem valid (run : Run P w₀ h w) (fresh : w₀.Fresh) : w.Valid :=
  ⟨run.consistent fresh, run.proper fresh, run.numbered fresh⟩

/-- What is kept of a history and its world by every step holds after every run of a fresh world. -/
theorem keeps {I : List (Move σ) → World σ → Prop} (fresh : w₀.Fresh) (h₀ : I [] w₀)
    (hI : ∀ {h v t w}, v.Valid → I h v → v.step P t = some w → I (h ++ [⟨t, v, w⟩]) w)
    (run : Run P w₀ h w) : I h w :=
  (Run.start (P := P).valid fresh).keeps h₀ hI run

end Run

end World

end InstanceRegistry
