import InstanceRegistry.Registry

/-!
# Identifiers of slots

A registry numbers its slots in the order in which they first ask for an identifier.
The entries of the table keep that order, so the invariant `Numbered` gives each
identifier in closed form: the text of its place in the table, counted from one, as
a word of 64 bits. As long as the table has fewer entries than there are words, the
identifiers are distinct, and the flights of two slots never meet.
-/

namespace InstanceRegistry

namespace Keyed

variable {α β : Type} [DecidableEq α]

/-- A key has no value exactly if it is not among the keys. -/
theorem get?_eq_none_iff (m : Keyed α β) (k : α) : m.get? k = none ↔ k ∉ m.keys := by
  obtain ⟨entries⟩ := m
  change find k entries = none ↔ k ∉ entries.map Prod.fst
  induction entries with
  | nil => simp [find]
  | cons entry rest ih =>
      obtain ⟨k', v⟩ := entry
      by_cases hk : k' = k
      · simp [find, hk]
      · simpa [find, hk, Ne.symm hk] using ih

/-- A value that is looked up stands in an entry. -/
theorem mem_of_get? {m : Keyed α β} {k : α} {v : β} (h : m.get? k = some v) :
    (k, v) ∈ m.entries := by
  obtain ⟨entries⟩ := m
  change find k entries = some v at h
  induction entries with
  | nil => simp [find] at h
  | cons entry rest ih =>
      obtain ⟨k', v'⟩ := entry
      by_cases hk : k' = k
      · simp_all [find]
      · simp only [find, hk, if_false] at h
        exact List.mem_cons_of_mem _ (ih h)

/-- A new key gets its entry at the end. -/
theorem entries_insert_of_get?_none {m : Keyed α β} {k : α} (h : m.get? k = none) (v : β) :
    (m.insert k v).entries = m.entries ++ [(k, v)] := by
  obtain ⟨entries⟩ := m
  change replace k v entries = entries ++ [(k, v)]
  change find k entries = none at h
  induction entries with
  | nil => rfl
  | cons entry rest ih =>
      obtain ⟨k', v'⟩ := entry
      by_cases hk : k' = k
      · simp [find, hk] at h
      · simp only [find, hk, if_false] at h
        simp [replace, hk, ih h]

end Keyed

/-- The decimal text tells a number. -/
theorem toString_inj {m n : Nat} (h : toString m = toString n) : m = n := by
  have hd : Nat.toDigits 10 m = Nat.toDigits 10 n := by
    rw [← Nat.toList_repr, ← Nat.toList_repr]
    exact congrArg String.toList h
  rw [← Nat.ofDigitChars_ten_toDigits (n := m), hd, Nat.ofDigitChars_ten_toDigits]

namespace Registry

/-- The identifiers are the texts of the places of their slots, counted from one as words of 64
bits, and the last number given out is that of the last place. A registry that was never set up
gives none. -/
structure Numbered (reg : Registry) : Prop where
  keys : reg.ids.keys.Nodup
  texts : reg.ids.entries.map Prod.snd =
    (List.range reg.ids.size).map fun i => toString ((i + 1) % UInt64.size)
  last : reg.writable = true → reg.lastId.toNat = reg.ids.size % UInt64.size
  bare : reg.writable = false → reg.ids.entries = []

/-- A registry is numbered when it is made. -/
theorem numbered_make (bare : Bool) (observers : List (Option ObserverId)) :
    (make bare observers).Numbered := by
  cases bare <;> constructor <;> simp [make, new, Registry.bare, Keyed.keys, Keyed.size]

/-- What it means that a slot got an identifier: it had it before, or it took the next number. -/
theorem identify_ok {reg reg' : Registry} {s : Slot} {id : String}
    (h : reg.identify s = (.ok id, reg')) :
    (reg.ids.get? s = some id ∧ reg' = reg) ∨
      (reg.ids.get? s = none ∧ reg.writable = true ∧
        id = toString (reg.lastId + 1).toNat ∧
        reg' = { reg with lastId := reg.lastId + 1, ids := reg.ids.insert s id }) := by
  unfold identify at h
  split at h
  · rename_i id' hid
    obtain ⟨h₁, rfl⟩ := Prod.mk.inj h
    obtain rfl := Except.ok.inj h₁
    exact Or.inl ⟨hid, rfl⟩
  · rename_i hid
    dsimp only at h
    split at h
    · rename_i hw
      obtain ⟨h₁, rfl⟩ := Prod.mk.inj h
      obtain rfl := Except.ok.inj h₁
      exact Or.inr ⟨hid, hw, rfl, rfl⟩
    · cases h

/-- What it means that a slot got no identifier: the registry was never set up. -/
theorem identify_error {reg reg' : Registry} {s : Slot} {p : Panic}
    (h : reg.identify s = (.error p, reg')) :
    reg.writable = false ∧ reg' = { reg with lastId := reg.lastId + 1 } := by
  unfold identify at h
  split at h
  · cases h
  · dsimp only at h
    split at h
    · cases h
    · rename_i hw
      obtain ⟨_, rfl⟩ := Prod.mk.inj h
      exact ⟨by simpa using hw, rfl⟩

/-- A registry that was set up gives every slot an identifier. -/
theorem identify_of_writable {reg : Registry} (hw : reg.writable = true) (s : Slot) :
    ∃ id reg', reg.identify s = (.ok id, reg') := by
  cases hi : reg.identify s with
  | mk result reg' =>
      cases result with
      | ok id => exact ⟨id, reg', rfl⟩
      | error p =>
          have hbare := (identify_error hi).1
          rw [hw] at hbare
          cases hbare

/-- Getting an identifier changes nothing of a registry but its numbering. -/
theorem identify_frame {reg reg' : Registry} {s : Slot} {result : Except Panic String}
    (h : reg.identify s = (result, reg')) :
    ∃ ids last, reg' = { reg with ids := ids, lastId := last } := by
  cases result with
  | error p => exact ⟨reg.ids, _, (identify_error h).2⟩
  | ok id =>
      obtain ⟨-, rfl⟩ | ⟨-, -, -, rfl⟩ := identify_ok h
      · exact ⟨reg'.ids, reg'.lastId, rfl⟩
      · exact ⟨_, _, rfl⟩

/-- The next number is that of the next place. -/
theorem Numbered.next_toNat {reg : Registry} (h : reg.Numbered) (hw : reg.writable = true) :
    (reg.lastId + 1).toNat = (reg.ids.size + 1) % UInt64.size := by
  have hl := h.last hw
  rw [UInt64.toNat_add, hl]
  simp only [UInt64.size, UInt64.toNat_one]
  omega

/-- Getting an identifier keeps a registry numbered. -/
theorem Numbered.identify {reg reg' : Registry} {s : Slot} {result : Except Panic String}
    (h : reg.Numbered) (hi : reg.identify s = (result, reg')) : reg'.Numbered := by
  cases result with
  | error p =>
      obtain ⟨hw, rfl⟩ := identify_error hi
      exact ⟨h.keys, h.texts, fun hw' => by simp [hw] at hw', h.bare⟩
  | ok id =>
      obtain ⟨_, rfl⟩ | ⟨hn, hw, hid, rfl⟩ := identify_ok hi
      · exact h
      · have he := Keyed.entries_insert_of_get?_none hn id
        have hs : (reg.ids.insert s id).size = reg.ids.size + 1 := by simp [Keyed.size, he]
        refine ⟨?_, ?_, fun _ => ?_, fun hw' => by simp [hw] at hw'⟩
        · change ((reg.ids.insert s id).entries.map Prod.fst).Nodup
          rw [he, List.map_append, List.nodup_append]
          refine ⟨h.keys, by simp, ?_⟩
          intro k hk k' hk' hkk
          obtain rfl := List.mem_singleton.mp hk'
          exact (Keyed.get?_eq_none_iff _ _).mp hn (hkk ▸ hk)
        · change (reg.ids.insert s id).entries.map Prod.snd =
            (List.range (reg.ids.insert s id).size).map _
          rw [hs, he, List.map_append, h.texts, List.range_succ, List.map_append, hid,
            h.next_toNat hw]
          rfl
        · change (reg.lastId + 1).toNat = (reg.ids.insert s id).size % UInt64.size
          rw [hs, h.next_toNat hw]

/-- The table of identifiers never shrinks. -/
theorem size_le_identify {reg reg' : Registry} {s : Slot} {result : Except Panic String}
    (hi : reg.identify s = (result, reg')) : reg.ids.size ≤ reg'.ids.size := by
  cases result with
  | error p =>
      obtain ⟨-, rfl⟩ := identify_error hi
      exact Nat.le_refl _
  | ok id =>
      obtain ⟨-, rfl⟩ | ⟨hn, -, -, rfl⟩ := identify_ok hi
      · exact Nat.le_refl _
      · simp [Keyed.size, Keyed.entries_insert_of_get?_none hn id]

/-- The tables of a registry other than that of the identifiers do not matter for its numbering. -/
theorem Numbered.congr {reg reg' : Registry} (h : reg.Numbered) (hw : reg'.writable = reg.writable)
    (hi : reg'.ids = reg.ids) (hl : reg'.lastId = reg.lastId) : reg'.Numbered := by
  refine ⟨hi ▸ h.keys, hi ▸ h.texts, fun hb => ?_, fun hb => hi ▸ h.bare (hw ▸ hb)⟩
  rw [hl, hi]
  exact h.last (hw ▸ hb)

/-- The changes of a registry. -/
inductive Change (reg : Registry) : Registry → Prop
  | attach (o : Option ObserverId) : Change reg (reg.attach o)
  | identify {reg' s result} (hi : reg.identify s = (result, reg')) : Change reg reg'
  | keep (s : Slot) (v : Value) : Change reg (reg.keep s v)
  | depart (id : String) (f : FlightId) : Change reg (reg.depart id f)
  | arrive (id : String) : Change reg (reg.arrive id)

/-- Every change keeps a registry numbered. -/
theorem Numbered.change {reg reg' : Registry} (h : reg.Numbered) (hc : reg.Change reg') :
    reg'.Numbered := by
  cases hc with
  | identify hi => exact h.identify hi
  | attach | keep | depart | arrive => exact h.congr rfl rfl rfl

theorem Change.size_le {reg reg' : Registry} (hc : reg.Change reg') :
    reg.ids.size ≤ reg'.ids.size := by
  cases hc with
  | identify hi => exact size_le_identify hi
  | attach | keep | depart | arrive => exact Nat.le_refl _

/-- No change sets a registry up. -/
theorem Change.writable_eq {reg reg' : Registry} (hc : reg.Change reg') :
    reg'.writable = reg.writable := by
  cases hc with
  | identify hi =>
      obtain ⟨ids, last, rfl⟩ := identify_frame hi
      rfl
  | attach | keep | depart | arrive => rfl

/-- The identifier of a slot is the text of its place. -/
theorem Numbered.exists_place {reg : Registry} (h : reg.Numbered) {s : Slot} {id : String}
    (hid : reg.ids.get? s = some id) :
    ∃ i, reg.ids.keys[i]? = some s ∧ i < reg.ids.size ∧
      id = toString ((i + 1) % UInt64.size) := by
  obtain ⟨i, hi⟩ := List.mem_iff_getElem?.mp (Keyed.mem_of_get? hid)
  have hlt : i < reg.ids.entries.length := (List.getElem?_eq_some_iff.mp hi).1
  refine ⟨i, by simp [Keyed.keys, hi], hlt, ?_⟩
  have ht : (reg.ids.entries.map Prod.snd)[i]? = some id := by simp [hi]
  rw [h.texts] at ht
  simpa [Keyed.size, hlt, eq_comm] using ht

/-- With fewer entries than words, two slots with one identifier are the same slot. -/
theorem Numbered.slot_eq {reg : Registry} (h : reg.Numbered) (hlt : reg.ids.size < UInt64.size)
    {s s' : Slot} {id : String} (hs : reg.ids.get? s = some id) (hs' : reg.ids.get? s' = some id) :
    s = s' := by
  obtain ⟨i, hi, hil, rfl⟩ := h.exists_place hs
  obtain ⟨j, hj, hjl, hij⟩ := h.exists_place hs'
  have hmod := toString_inj hij
  -- Only the last place, if the table is full, counts as word zero.
  rw [Nat.mod_eq_of_lt (by omega), Nat.mod_eq_of_lt (by omega)] at hmod
  obtain rfl : i = j := by omega
  exact Option.some.inj (hi.symm.trans hj)

/-- A registry that gave an identifier was set up. -/
theorem Numbered.writable_of_get? {reg : Registry} (h : reg.Numbered) {s : Slot} {id : String}
    (hid : reg.ids.get? s = some id) : reg.writable = true := by
  by_cases hw : reg.writable = true
  · exact hw
  · have hm := Keyed.mem_of_get? hid
    rw [h.bare (by simpa using hw)] at hm
    cases hm

end Registry

end InstanceRegistry
