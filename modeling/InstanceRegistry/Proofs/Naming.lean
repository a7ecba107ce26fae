import InstanceRegistry.Proofs.Deadlock
import InstanceRegistry.Proofs.Refinement

/-!
# Identifiers as names of slots

Flights are listed under the identifiers of their slots, so all that keeps two slots apart is that
no identifier ever stands for both. The identifiers of a registry are the decimal texts of the
numbers up to the last one, and each belongs to one slot. Over a run they are a naming: whoever asks
for the identifier of a slot gets the same one, in whatever order the slots ask and whatever becomes
of the requests, and a slot that asks for the first time gets one that no slot has got before.

## Implementation notes

The table of a registry holds what was given out, so the naming over a run is read off the table at
its end: `Run.mem_grants_iff`. The numbers are words of 64 bits. The last slot for which there is a
word gets the number zero, which is still new; only then do they begin again.
-/

namespace InstanceRegistry

variable {σ : Type}

namespace Keyed

variable {α β : Type} [DecidableEq α]

/-- In a table without a key twice every entry is looked up by its key. -/
theorem get?_of_mem {m : Keyed α β} (h : m.keys.Nodup) {k : α} {v : β} (hm : (k, v) ∈ m.entries) :
    m.get? k = some v := by
  obtain ⟨entries⟩ := m
  change find k entries = some v
  induction entries with
  | nil => cases hm
  | cons entry rest ih =>
      obtain ⟨hnot, hrest⟩ := List.nodup_cons.mp h
      rcases List.mem_cons.mp hm with rfl | hm
      · simp [find]
      · have hne : entry.1 ≠ k := by
          rintro rfl
          exact hnot (List.mem_map.mpr ⟨_, hm, rfl⟩)
        simpa [find, hne] using ih hrest hm

end Keyed

namespace Registry

/-- The identifiers are the decimal texts of the numbers from one to the last, and each is that of
one slot. -/
structure NamesSlots (reg : Registry) : Prop where
  count : reg.lastId.toNat = reg.ids.size
  texts : ∀ id, (∃ s, reg.ids.get? s = some id) ↔
    ∃ n, 1 ≤ n ∧ n ≤ reg.lastId.toNat ∧ id = toString n
  unique : ∀ s s' id, reg.ids.get? s = some id → reg.ids.get? s' = some id → s = s'

variable {reg reg' : Registry}

namespace Numbered

/-- The identifier of a slot is the text of a number up to the size of the table. -/
theorem exists_number (h : reg.Numbered) (hlt : reg.ids.size < UInt64.size) {s : Slot}
    {id : String} (hid : reg.ids.get? s = some id) :
    ∃ n, 1 ≤ n ∧ n ≤ reg.ids.size ∧ id = toString n := by
  obtain ⟨i, -, hi, rfl⟩ := h.exists_place hid
  have hword : (i + 1) % UInt64.size = i + 1 := Nat.mod_eq_of_lt (by omega)
  exact ⟨i + 1, by omega, by omega, by rw [hword]⟩

/-- Every number up to the size of the table was given to a slot. -/
theorem exists_slot (h : reg.Numbered) (hlt : reg.ids.size < UInt64.size) {n : Nat} (hpos : 1 ≤ n)
    (hle : n ≤ reg.ids.size) : ∃ s, reg.ids.get? s = some (toString n) := by
  have hplace : n - 1 < reg.ids.entries.length := by
    change n ≤ reg.ids.entries.length at hle
    omega
  have hword : (n - 1 + 1) % UInt64.size = n := by
    rw [Nat.sub_add_cancel hpos]
    exact Nat.mod_eq_of_lt (by omega)
  obtain ⟨entry, hentry⟩ : ∃ entry, reg.ids.entries[n - 1]? = some entry :=
    ⟨_, List.getElem?_eq_getElem hplace⟩
  have htext : (reg.ids.entries.map Prod.snd)[n - 1]? = some entry.2 := by simp [hentry]
  rw [h.texts, List.getElem?_map, List.getElem?_range (by exact hplace), Option.map_some,
    hword] at htext
  refine ⟨entry.1, Keyed.get?_of_mem h.keys ?_⟩
  rw [Option.some.inj htext]
  exact List.mem_of_getElem? hentry

/-- A numbered registry that was set up and has numbers left names its slots. -/
theorem namesSlots (h : reg.Numbered) (hset : reg.writable = true)
    (hlt : reg.ids.size < UInt64.size) : reg.NamesSlots := by
  have hcount : reg.lastId.toNat = reg.ids.size := by
    rw [h.last hset]
    exact Nat.mod_eq_of_lt hlt
  refine ⟨hcount, fun id => ?_, fun s s' id hs hs' => h.slot_eq hlt hs hs'⟩
  rw [hcount]
  constructor
  · rintro ⟨s, hs⟩
    exact h.exists_number hlt hs
  · rintro ⟨n, hpos, hle, rfl⟩
    exact h.exists_slot hlt hpos hle

/-- A slot that asks for the first time gets an identifier that no slot has. -/
theorem identify_ne (h : reg.Numbered) (hlt : reg.ids.size < UInt64.size) {s s' : Slot}
    {id id' : String} (hnew : reg.ids.get? s = none) (hi : reg.identify s = (.ok id, reg'))
    (hs' : reg.ids.get? s' = some id') : id' ≠ id := by
  obtain ⟨hold, -⟩ | ⟨-, hw, rfl, -⟩ := identify_ok hi
  · cases hnew.symm.trans hold
  · obtain ⟨n, hpos, hle, rfl⟩ := h.exists_number hlt hs'
    intro heq
    have hn : n = (reg.ids.size + 1) % UInt64.size := (toString_inj heq).trans (h.next_toNat hw)
    -- The next number is one more than all that were given, or zero after the greatest word.
    rcases Nat.lt_or_ge (reg.ids.size + 1) UInt64.size with hroom | hfull
    · rw [Nat.mod_eq_of_lt hroom] at hn
      omega
    · have hlast : reg.ids.size + 1 = UInt64.size := by omega
      rw [hlast, Nat.mod_self] at hn
      omega

end Numbered

/-- A slot that has an identifier gets it again, and the registry stays as it is. -/
theorem identify_of_get? {s : Slot} {id : String} (hid : reg.ids.get? s = some id) :
    reg.identify s = (.ok id, reg) := by
  simp [identify, hid]

end Registry

/-! ### What was given out in a run -/

/-- The slot of the registry that asks for its identifier in a move, and the identifier it gets. -/
def Move.grant? (r : RegistryId) (m : Move σ) : Option (Slot × String) :=
  match m.actor? with
  | some ⟨.requesting a .identify, _⟩ =>
    if a.registry = r then
      m.before.registries[r]?.bind fun reg =>
        (reg.identify a.slot).1.toOption.map fun id => (a.slot, id)
    else none
  | _ => none

/-- The slots of a registry that got an identifier, with the identifiers, in the order of a
history. -/
def grants (r : RegistryId) (h : List (Move σ)) : List (Slot × String) :=
  h.filterMap (Move.grant? r)

/-- The slots of a registry that got an identifier, each once. -/
def usedSlots (r : RegistryId) (h : List (Move σ)) : List Slot :=
  ((grants r h).map Prod.fst).eraseDups

namespace World

variable {P : Program σ} {t : ThreadId} {w w' w₀ : World σ} {r : RegistryId} {s : Slot}
  {id : String} {h : List (Move σ)}

/-- After a step a slot has the identifier that it had before or that the step gave to it. -/
theorem id?_step_iff (hs : w.step P t = some w') :
    w'.id? r s = some id ↔
      w.id? r s = some id ∨ Move.grant? r ⟨t, w, w'⟩ = some (s, id) := by
  obtain ⟨th, th', ht, -, turn⟩ := step_turn hs
  have same (hid : w'.id? r s = w.id? r s) (hg : Move.grant? r ⟨t, w, w'⟩ = none) :
      w'.id? r s = some id ↔
        w.id? r s = some id ∨ Move.grant? r ⟨t, w, w'⟩ = some (s, id) := by
    simp [hid, hg]
  have hactor : (⟨t, w, w'⟩ : Move σ).actor? = some th := ht
  cases turn with
  | @identify a S reg reg' id' hr hi hw =>
      rw [id?_of_identify hr hi hw, Move.grant?, hactor]
      by_cases hra : a.registry = r
      · subst hra
        have hold : w.id? a.registry a.slot = some id → id' = id := by
          rw [id?_of_get hr]
          intro hid
          obtain ⟨hget, -⟩ | ⟨hnone, -⟩ := Registry.identify_ok hi
          · exact Option.some.inj (hget.symm.trans hid)
          · cases hnone.symm.trans hid
        by_cases hsa : s = a.slot
        · subst hsa
          simpa [hr, hi, Except.toOption] using hold
        · simp [hr, hi, Except.toOption, hsa, Ne.symm hsa]
      · simp [hra, Ne.symm hra]
  | @refuse a S reg reg' p hr hi hw =>
      refine same ((agree_of_refuse hr hi hw).id r s) ?_
      rw [Move.grant?, hactor]
      by_cases hra : a.registry = r
      · subst hra
        simp [hr, hi, Except.toOption]
      · simp [hra]
  | @lost a p S hq hr =>
      refine same (hq.agree.id r s) ?_
      rw [Move.grant?, hactor]
      cases p with
      | identify =>
          by_cases hra : a.registry = r
          · subst hra
            simp [hr]
          · simp [hra]
      | _ => rfl
  | proceed hr hf =>
      exact same ((agree_of_rearranged hr hf).id r s) (by rw [Move.grant?, hactor])
  | takeOff hr hn hreg hf =>
      exact same (id?_of_set hr hreg rfl r s) (by rw [Move.grant?, hactor])
  | keep hr hb hw =>
      exact same (id?_of_set hr hw.registries rfl r s) (by rw [Move.grant?, hactor])
  | land hr hf hreg hfs =>
      exact same (id?_of_set hr hreg rfl r s) (by rw [Move.grant?, hactor])
  | stop hq | notify hq | call hq | resume hq | answer hq | retry hq | pass hq | conclude hq
  | observed hq | crash hq | interrupt hq | hit hq | miss hq | join hq | share hq | release hq
  | find hq | clear hq | build hq | spill hq | settle hq | finish hq | skip hq | announce hq =>
      exact same (hq.agree.id r s) (by rw [Move.grant?, hactor])

/-- The table of a registry holds what it gave out. -/
theorem Run.mem_grants_iff (run : Run P w₀ h w) (fresh : w₀.Fresh) :
    (s, id) ∈ grants r h ↔ w.id? r s = some id := by
  induction run with
  | start =>
      have hnone : w₀.id? r s = none := by
        rw [World.id?, Option.bind_eq_none_iff]
        intro reg hr
        obtain ⟨bare, observers, rfl⟩ := fresh.registries reg (List.mem_of_getElem? hr)
        cases bare <;> rfl
      simp [grants, hnone]
  | @step h v t w run hs ih =>
      rw [id?_step_iff hs, ← ih, grants, filterMap_append_singleton, List.mem_append,
        Option.mem_toList]
      rfl

/-- A slot that holds an instance has an identifier. -/
theorem Run.exists_id_of_stored (run : Run P w₀ h w) (fresh : w₀.Fresh) {v : Value}
    (hv : w.stored? r s = some v) : ∃ id, w.id? r s = some id := by
  refine run.keeps (I := fun _ w => ∀ v, w.stored? r s = some v → ∃ id, w.id? r s = some id) fresh
    ?_ ?_ v hv
  · intro v hv
    obtain ⟨reg, hr, hv⟩ := Option.bind_eq_some_iff.mp hv
    obtain ⟨bare, observers, rfl⟩ := fresh.registries reg (List.mem_of_getElem? hr)
    cases bare <;> cases hv
  · intro h u t w hu ih hs v hv
    obtain hsame | ⟨a, f, x, S, ht, hstored⟩ := stored?_step_cases hs
    · obtain ⟨id, hid⟩ := ih v ((hsame r s).symm.trans hv)
      exact ⟨id, id?_step hs hid⟩
    · rw [hstored] at hv
      split at hv
      · -- The leader that stores has taken off under the identifier of its slot.
        rename_i hrs
        obtain ⟨rfl, rfl⟩ := hrs
        obtain ⟨fl, hfl, -, hr, hslot, -⟩ :=
          (hu.consistent.sound ht (q := ⟨a, .keep f x⟩) (List.mem_cons_self ..)).1
        have hid := hu.consistent.named hfl
        rw [hr, hslot] at hid
        exact ⟨fl.id, id?_step hs hid⟩
      · obtain ⟨id, hid⟩ := ih v hv
        exact ⟨id, id?_step hs hid⟩

/-- A registry has no more identifiers than slots that got one. -/
theorem Run.size_ids_le (run : Run P w₀ h w) (fresh : w₀.Fresh) {reg : Registry}
    (hr : w.registries[r]? = some reg) : reg.ids.size ≤ (usedSlots r h).length := by
  have hkeys := (run.numbered fresh reg (List.mem_of_getElem? hr)).keys
  have hsub : reg.ids.keys ⊆ usedSlots r h := by
    intro s hs
    obtain ⟨id, hid⟩ := (Keyed.mem_keys_iff reg.ids s).mp hs
    rw [← id?_of_get hr, ← run.mem_grants_iff fresh] at hid
    exact List.mem_eraseDups.mpr (List.mem_map.mpr ⟨_, hid, rfl⟩)
  calc reg.ids.size
      = reg.ids.keys.length := (List.length_map Prod.fst).symm
    _ ≤ (usedSlots r h).length := hkeys.length_le_of_subset hsub

/-- Identifiers are a stable naming of the slots of a registry, as long as fewer slots have asked
for one than there are words of 64 bits. They are the decimal texts of the numbers up to the last
one, which is the number of entries, and each is that of one slot. The table holds just what was
given out in the run. A slot that has an identifier gets it again without any change, and one that
asks for the first time gets one that was never given out before. No continuation of the run changes
an identifier. And every slot that holds an instance or has a flight has one, and flights are listed
under the identifiers of their slots. -/
theorem Run.slots_named {P : Program σ} {w₀ w : World σ} {h : List (Move σ)} (run : Run P w₀ h w)
    (fresh : w₀.Fresh) {r : RegistryId} {reg : Registry} (hr : w.registries[r]? = some reg)
    (hset : reg.writable = true) (hfew : (usedSlots r h).length < UInt64.size) :
    reg.NamesSlots ∧
    (∀ s id, (s, id) ∈ grants r h ↔ reg.ids.get? s = some id) ∧
    (∀ s id, reg.ids.get? s = some id → reg.identify s = (.ok id, reg)) ∧
    (∀ s, reg.ids.get? s = none → ∃ id reg', reg.identify s = (.ok id, reg') ∧
      reg'.ids.get? s = some id ∧ ∀ s' id', (s', id') ∈ grants r h → id' ≠ id) ∧
    (∀ s id, reg.ids.get? s = some id → ∀ h' w', Run P w h' w' → w'.id? r s = some id) ∧
    (∀ s v, reg.store.get? s = some v → ∃ id, reg.ids.get? s = some id) ∧
    (∀ fl ∈ w.flights, fl.registry = r → reg.ids.get? fl.slot = some fl.id) ∧
    ∀ id f, reg.flights.get? id = some f →
      ∃ fl, w.flights[f]? = some fl ∧ fl.registry = r ∧ fl.id = id := by
  have hnumbered := run.numbered fresh reg (List.mem_of_getElem? hr)
  have hlt : reg.ids.size < UInt64.size := Nat.lt_of_le_of_lt (run.size_ids_le fresh hr) hfew
  have hgrants (s : Slot) (id : String) : (s, id) ∈ grants r h ↔ reg.ids.get? s = some id := by
    rw [run.mem_grants_iff fresh, id?_of_get hr]
  have c := run.consistent fresh
  refine ⟨hnumbered.namesSlots hset hlt, hgrants, fun s id => Registry.identify_of_get?, ?_, ?_, ?_,
    ?_, ?_⟩
  · intro s hnew
    obtain ⟨id, reg', hi⟩ := Registry.identify_of_writable hset s
    refine ⟨id, reg', hi, ?_, fun s' id' hs' => ?_⟩
    · obtain ⟨hold, -⟩ | ⟨-, -, -, rfl⟩ := Registry.identify_ok hi
      · cases hnew.symm.trans hold
      · simp
    · exact hnumbered.identify_ne hlt hnew hi ((hgrants s' id').mp hs')
  · intro s id hid h' w' run'
    exact run'.id? ((id?_of_get hr s).trans hid)
  · intro s v hv
    obtain ⟨id, hid⟩ := run.exists_id_of_stored fresh ((stored?_of_get hr s).trans hv)
    exact ⟨id, (id?_of_get hr s).symm.trans hid⟩
  · rintro fl hmem rfl
    obtain ⟨f, hfl⟩ := List.mem_iff_getElem?.mp hmem
    exact (id?_of_get hr fl.slot).symm.trans (c.named hfl)
  · intro id f hf
    obtain ⟨fl, hfl, hr', hid, -⟩ := c.listed ((inFlight?_of_get hr id).trans hf)
    exact ⟨fl, hfl, hr', hid⟩

end World

/-! ### Two slots that ask in turn -/

namespace Sample

/-- The second thread gets the identifier of the inner slot. Then the first thread takes off, and
its constructor asks for the inner slot too. -/
def namingSchedule : List ThreadId := List.replicate 3 1 ++ List.replicate 10 0

/-- The steps up to there. -/
def namingHistory : List (Move Unit) := (callers accessor inner).history nested namingSchedule

/-- The world after them. -/
def namingEnd : World Unit := (callers accessor inner).run nested namingSchedule

end Sample

/-- The inner slot gets the same identifier twice, the outer slot is in flight under another one,
and a third slot would get one that is new. -/
theorem World.Run.slots_named_inner :
    grants 0 Sample.namingHistory =
      [(Sample.inner.slot, "1"), (Sample.slot, "2"), (Sample.inner.slot, "1")] ∧
    ∃ reg, Sample.namingEnd.registries[0]? = some reg ∧ reg.NamesSlots ∧ reg.lastId = 2 ∧
      (∃ fl, Sample.namingEnd.flights[0]? = some fl ∧ reg.ids.get? fl.slot = some "2") ∧
      ∃ id reg', reg.identify ⟨Sample.slot.type, "third"⟩ = (.ok id, reg') ∧
        id ≠ "1" ∧ id ≠ "2" := by
  have hgrants : grants 0 Sample.namingHistory =
      [(Sample.inner.slot, "1"), (Sample.slot, "2"), (Sample.inner.slot, "1")] := by decide +kernel
  obtain ⟨hnames, -, -, hnew, -, -, hflight, hlisted⟩ := Run.slots_named
    (run_of_schedule Sample.nested (Sample.callers Sample.accessor Sample.inner)
      Sample.namingSchedule)
    (Sample.callers_fresh _ _) (r := 0) rfl rfl (by decide +kernel)
  obtain ⟨fl, hfl, hr, hid⟩ := hlisted "2" 0 (by decide +kernel)
  have hnamed : _ = some fl.id := hflight fl (List.mem_of_getElem? hfl) hr
  obtain ⟨id, reg', hi, -, hne⟩ := hnew ⟨Sample.slot.type, "third"⟩ (by decide +kernel)
  have hgranted {s : Slot} {id' : String} (hs : (s, id') ∈ grants 0 Sample.namingHistory) :
      id ≠ id' := Ne.symm (hne s id' hs)
  refine ⟨hgrants, _, rfl, hnames, by decide +kernel, ⟨fl, hfl, hid ▸ hnamed⟩, id, reg', hi,
    ?_, ?_⟩
  · exact hgranted (s := Sample.inner.slot) (by simp [hgrants])
  · exact hgranted (s := Sample.slot) (by simp [hgrants])

end InstanceRegistry
