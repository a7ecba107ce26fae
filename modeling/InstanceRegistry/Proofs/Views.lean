import InstanceRegistry.Proofs.Notice

/-!
# The views of a registry

A registry can be asked for the number of its instances, for the list of the slots that hold one,
and for the instance of a slot. The three answers agree at every moment, also while constructors run
and whoever asks, and they are told by the history of the run: a slot holds an instance just if a
constructor of the slot returned one and its flight stored it. Each such store is one more instance,
and nothing else changes their number; asking is not such a store, since it changes nothing at all.

## Implementation notes

A store is the step by which a leader writes its instance to the table. `stores` lists the slots of
a registry in the order of these steps. The order in which the registry itself lists its slots is
left open, so the two lists are compared by their members and their lengths.
-/

namespace InstanceRegistry

variable {σ : Type}

/-- The slot of the registry under which a move stores an instance. -/
def Move.stores? (r : RegistryId) (m : Move σ) : Option Slot :=
  match m.actor?, m.incident? with
  | some ⟨.requesting a _, _⟩, some (.stored _ _) => if a.registry = r then some a.slot else none
  | _, _ => none

/-- The slots of a registry under which an instance was stored, in the order of a history. -/
def stores (r : RegistryId) (h : List (Move σ)) : List Slot := h.filterMap (Move.stores? r)

theorem stores_append (r : RegistryId) (h h' : List (Move σ)) :
    stores r (h ++ h') = stores r h ++ stores r h' :=
  List.filterMap_append

/-- A constructor of the slot returned an instance without a fault, and then its flight stored that
instance. -/
def Completed (r : RegistryId) (s : Slot) (h : List (Move σ)) : Prop :=
  ∃ a f x, a.registry = r ∧ a.slot = s ∧
    [.concluded a f (.returned x none), .stored f (s.type.box x)] <+: incidents f h

namespace World

variable {P : Program σ} {t : ThreadId} {w w' w₀ : World σ} {r : RegistryId} {s : Slot}
  {h : List (Move σ)} {m : Move σ}

/-- A move that stores an instance is that of a leader which keeps it. -/
theorem stores?_eq_some :
    m.stores? r = some s ↔ ∃ a f v S, m.actor? = some ⟨.requesting a (.keep f v), S⟩ ∧
      m.incident? = some (.stored f v) ∧ a.registry = r ∧ a.slot = s := by
  constructor
  · intro hstores
    unfold Move.stores? at hstores
    split at hstores
    · rename_i a p S f v hactor hi
      obtain ⟨b, S', hb⟩ := requesting_of_incident_stored hi
      cases hactor.symm.trans hb
      split at hstores
      · exact ⟨a, f, v, S, hactor, hi, ‹_›, Option.some.inj hstores⟩
      · cases hstores
    · cases hstores
  · rintro ⟨a, f, v, S, hactor, hi, rfl, rfl⟩
    simp [Move.stores?, hactor, hi]

/-- What a step does to the slots that hold an instance: it leaves them as they are, or it stores an
instance under a slot that held none. -/
theorem Valid.stores_step (hw : w.Valid) (hs : w.step P t = some w') :
    (Move.stores? r ⟨t, w, w'⟩ = none ∧ ∀ s, w'.stored? r s = w.stored? r s) ∨
      ∃ s v, Move.stores? r ⟨t, w, w'⟩ = some s ∧ w.stored? r s = none ∧
        ∀ s', w'.stored? r s' = if s' = s then some v else w.stored? r s' := by
  obtain ⟨th, -, R, R', ht, -, hR, -, i, hi, hsh⟩ := step_shift hs
  have keeps (hn : ∀ f v, i ≠ some (.stored f v)) (hst : ∀ s, w'.stored? r s = w.stored? r s) :
      Move.stores? r ⟨t, w, w'⟩ = none ∧ ∀ s, w'.stored? r s = w.stored? r s := by
    refine ⟨Option.eq_none_iff_forall_ne_some.mpr fun s hstores => ?_, hst⟩
    obtain ⟨a, f, v, S, -, hstored, -, -⟩ := stores?_eq_some.mp hstores
    exact hn f v (hi.symm.trans hstored)
  cases hsh with
  | idle ha | opens ha | closes ha _ => exact Or.inl (keeps (by simp) (ha.stored r))
  | identify hs | takeOff hs | land hs => exact Or.inl (keeps (by simp) (hs r))
  | advance ha hadv =>
      refine Or.inl (keeps (fun f v hstored => ?_) (ha.stored r))
      cases hadv <;> cases hstored
  | @keep b f v R hid hin hf hs =>
      obtain ⟨a, S, hactor⟩ := requesting_of_incident_stored hi
      obtain rfl := Option.some.inj (ht.symm.trans hactor)
      obtain rfl : a = b := congrArg Request.accessor (List.cons.inj hR).1
      by_cases hr : a.registry = r
      · subst hr
        refine Or.inr ⟨a.slot, v, stores?_eq_some.mpr ⟨a, f, v, S, hactor, hi, rfl, rfl⟩, ?_, ?_⟩
        · exact (hw.consistent.sound ht (q := ⟨a, .keep f v⟩) (List.mem_cons_self ..)).2
        · intro s'
          simp [hs]
      · refine Or.inl ⟨Option.eq_none_iff_forall_ne_some.mpr fun s hstores => ?_, fun s => ?_⟩
        · obtain ⟨b, g, u, S', hb, -, hbr, -⟩ := stores?_eq_some.mp hstores
          cases hactor.symm.trans hb
          exact hr hbr
        · rw [hs, if_neg fun hrs => hr hrs.1.symm]

/-- The slots under which an instance was stored are different, and they are those that hold one. -/
theorem Run.stores_spec (run : Run P w₀ h w) (fresh : w₀.Fresh) (r : RegistryId) :
    (stores r h).Nodup ∧ ∀ s, s ∈ stores r h ↔ ∃ v, w.stored? r s = some v := by
  refine run.keeps (I := fun h w => (stores r h).Nodup ∧
    ∀ s, s ∈ stores r h ↔ ∃ v, w.stored? r s = some v) fresh ⟨List.nodup_nil, fun s => ?_⟩ ?_
  · constructor
    · intro hs
      cases hs
    · rintro ⟨v, hv⟩
      exact (fresh.not_busy (r := r) (s := s) (Or.inl (by simp [hv]))).elim
  · intro h u t w hu ih hs
    obtain ⟨hnodup, hmem⟩ := ih
    rw [stores, filterMap_append_singleton, ← stores]
    obtain ⟨hnone, hst⟩ | ⟨s, v, hsome, hvacant, hst⟩ := hu.stores_step (r := r) hs
    · rw [hnone, Option.toList_none, List.append_nil]
      exact ⟨hnodup, fun s => by rw [hmem, hst]⟩
    · rw [hsome, Option.toList_some]
      have hnew : s ∉ stores r h := by
        rw [hmem, hvacant]
        simp
      refine ⟨?_, fun s' => ?_⟩
      · rw [List.nodup_append]
        refine ⟨hnodup, by simp, fun x hx y hy hxy => ?_⟩
        obtain rfl := List.mem_singleton.mp hy
        exact hnew (hxy ▸ hx)
      · rw [List.mem_append, hmem, List.mem_singleton, hst]
        by_cases hs' : s' = s
        · simp [hs']
        · simp [hs']

/-- A registry holds as many instances as were stored. -/
theorem Run.size_eq (run : Run P w₀ h w) (fresh : w₀.Fresh) {reg : Registry}
    (hr : w.registries[r]? = some reg) : reg.size = (stores r h).length := by
  obtain ⟨hnodup, hmem⟩ := run.stores_spec fresh r
  have hshows := run.shows fresh hr
  have hsame (s : Slot) : s ∈ reg.slots ↔ s ∈ stores r h := by
    rw [hmem, Registry.slots, Keyed.mem_keys_iff, ← stored?_of_get hr]
  rw [hshows.size]
  apply Nat.le_antisymm
  · exact hshows.nodup_slots.length_le_of_subset fun s hs => (hsame s).mp hs
  · exact hnodup.length_le_of_subset fun s hs => (hsame s).mpr hs

/-- The flight whose leader stores an instance has just got it from its constructor. -/
theorem Run.incidents_of_stored (run : Run P w₀ h w) (fresh : w₀.Fresh) (hm : m ∈ h)
    {a : Accessor} {f : FlightId} {v : Value} {S : List (Frame σ)}
    (hactor : m.actor? = some ⟨.requesting a (.keep f v), S⟩)
    (hi : m.incident? = some (.stored f v)) :
    ∃ x, v = a.slot.type.box x ∧
      [.concluded a f (.returned x none), .stored f v] <+: incidents f h := by
  obtain ⟨h₁, h₂, rfl, run₁, -, -⟩ := run.split hm
  obtain ⟨x, hx, rfl⟩ : ∃ x, incidents f h₁ = [.concluded a f (.returned x none)] ∧
      v = a.slot.type.box x :=
    (run₁.charted fresh f).led hactor (q := ⟨a, .keep f v⟩) (List.mem_cons_self ..) rfl
  refine ⟨x, rfl, incidents f h₂, ?_⟩
  have hone : incidents f [m] = [.stored f (a.slot.type.box x)] := by
    simp [incidents_singleton, hi, Option.filter, Incident.flight]
  rw [← List.singleton_append (x := m), incidents_append, incidents_append, hx, hone]
  rfl

/-- An instance was stored under a slot just if a constructor of the slot returned it and its flight
stored it. -/
theorem Run.mem_stores_iff (run : Run P w₀ h w) (fresh : w₀.Fresh) :
    s ∈ stores r h ↔ Completed r s h := by
  constructor
  · intro hs
    obtain ⟨m, hm, hstores⟩ := List.mem_filterMap.mp hs
    obtain ⟨a, f, v, S, hactor, hi, rfl, rfl⟩ := stores?_eq_some.mp hstores
    obtain ⟨x, rfl, hpre⟩ := run.incidents_of_stored fresh hm hactor hi
    exact ⟨a, f, x, rfl, rfl, hpre⟩
  · rintro ⟨a, f, x, rfl, rfl, hpre⟩
    have hlast : .stored f (a.slot.type.box x) ∈ incidents f h := hpre.subset (by simp)
    obtain ⟨m, hm, hi, -⟩ := mem_incidents.mp hlast
    obtain ⟨b, S, hactor⟩ := requesting_of_incident_stored hi
    obtain ⟨y, -, hpre'⟩ := run.incidents_of_stored fresh hm hactor hi
    -- Both begin the incidents of the flight, so the leader that stores is the one that built.
    obtain ⟨rest, hrest⟩ := List.prefix_of_prefix_length_le hpre hpre' (Nat.le_refl _)
    obtain ⟨hconc, -⟩ := List.cons.inj hrest
    obtain ⟨rfl, -, -⟩ := Incident.concluded.inj hconc
    exact List.mem_filterMap.mpr ⟨m, hm, stores?_eq_some.mpr ⟨a, f, _, S, hactor, hi, rfl, rfl⟩⟩

/-- The views of a registry agree. It lists no slot twice, and as many as it counts. It gives an
instance for a slot just if the slot is in the list, which is just if a constructor of the slot
returned an instance without a fault and its flight stored it. Whatever run follows, the count grows
by one with each store and in no other way. And whoever looks at a registry, wherever its code runs,
does so in one step that leaves all registries and flights as they are, tells no observer anything
and starts no constructor. -/
theorem Run.views_agree {P : Program σ} {w₀ w : World σ} {h : List (Move σ)} (run : Run P w₀ h w)
    (fresh : w₀.Fresh) {r : RegistryId} {reg : Registry} (hr : w.registries[r]? = some reg) :
    reg.slots.Nodup ∧ reg.slots.length = reg.size ∧
    (∀ s, (∃ v, reg.lookup s = some v) ↔ s ∈ reg.slots) ∧
    (∀ s, s ∈ reg.slots ↔ Completed r s h) ∧
    (∀ h' w' reg', Run P w h' w' → w'.registries[r]? = some reg' →
      reg'.size = reg.size + (stores r h').length) ∧
    ∀ t next S, w.threads[t]? = some ⟨.running (.inspect r next), S⟩ →
      ∃ w', w.step P t = some w' ∧ w'.threads[t]? = some ⟨.running (next reg), S⟩ ∧
        w'.registries = w.registries ∧ w'.flights = w.flights ∧
        Move.told? ⟨t, w, w'⟩ = none ∧ ∀ r' s, ¬ Move.Constructs ⟨t, w, w'⟩ r' s := by
  have hshows := run.shows fresh hr
  refine ⟨hshows.nodup_slots, hshows.size.symm, fun s => ?_, fun s => ?_, ?_, ?_⟩
  · rw [Registry.slots, Keyed.mem_keys_iff, Registry.lookup]
    cases reg.store.get? s <;> simp
  · rw [← run.mem_stores_iff fresh, (run.stores_spec fresh r).2, Registry.slots, Keyed.mem_keys_iff,
      ← stored?_of_get hr]
  · intro h' w' reg' run' hr'
    calc reg'.size
        = (stores r (h ++ h')).length := (run.append run').size_eq fresh hr'
      _ = (stores r h).length + (stores r h').length := by rw [stores_append, List.length_append]
      _ = reg.size + (stores r h').length := by rw [run.size_eq fresh hr]
  · intro t next S ht
    have hset : (w.put t (.running (next reg)) S).threads =
        w.threads.set t ⟨.running (next reg), S⟩ := rfl
    refine ⟨_, step_inspect ht hr, by simp [getElem?_threads_set ht hset], rfl, rfl, ?_, ?_⟩
    · simp [Move.told?, told?, ht]
    · rintro r' s ⟨a, f, S', hactor, -⟩
      cases ht.symm.trans hactor

end World

/-- Before the instance is stored the registry is empty, although the constructor has returned. One
step later a reader finds the instance by each of the views. -/
theorem World.Run.views_agree_library :
    (∃ reg, (Sample.libraryAfter 9).registries[0]? = some reg ∧ reg.size = 0 ∧
      ∀ reg', (Sample.libraryAfter 10).registries[0]? = some reg' → reg'.size = reg.size + 1) ∧
    ∃ reg, (Sample.libraryAfter 10).registries[0]? = some reg ∧
      Completed 0 Sample.slot
        (Sample.library.history (Sample.program Sample.seven) (Sample.librarySchedule.take 10)) ∧
      (∃ v, reg.lookup Sample.slot = some v) ∧ reg.slots.length = 1 ∧
      ∃ w', (Sample.libraryAfter 10).step (Sample.program Sample.seven) 1 = some w' ∧
        w'.threads[1]? = some ⟨.running (.done (.number 1) none), []⟩ ∧
        w'.registries = (Sample.libraryAfter 10).registries := by
  obtain ⟨-, -, -, -, hgrows, -⟩ :=
    Run.views_agree (Sample.run_library 9) Sample.library_fresh (r := 0) rfl
  obtain ⟨-, hlength, hlookup, hmem, -, hreads⟩ :=
    Run.views_agree (Sample.run_library 10) Sample.library_fresh (r := 0) rfl
  have hslot : Sample.slot ∈ [Sample.slot] := List.mem_singleton_self _
  obtain ⟨w', hs, ht, hregs, -⟩ := hreads 1 _ [] rfl
  refine ⟨⟨_, rfl, rfl, fun reg' hr' => ?_⟩, _, rfl, (hmem Sample.slot).mp hslot,
    (hlookup Sample.slot).mpr hslot, hlength, w', hs, ht, hregs⟩
  exact hgrows _ _ reg' (Run.single (t := 0) rfl) hr'

end InstanceRegistry
