import InstanceRegistry.Proofs.Turn

/-!
# Code that runs by itself

`Code.alone` says how code ends if no other thread makes a step before it does. It is what
the steps of one thread come to when they are made in a row. A program is steady if all its
constructors and observers run by themselves, where what a constructor ends with depends on
nothing but how often that constructor has ended before.
-/

namespace InstanceRegistry

variable {σ : Type}

/-- How code ends by itself, and the shared state that it leaves. There is no such end for code
that calls an accessor, hands on a notice, changes registries or stands before a closed gate. -/
def Code.alone (P : Program σ) (regs : List Registry) (t : ThreadId) :
    Code σ → σ → Option (Outcome × σ)
  | .done v e, x => some (.returned v e, x)
  | .raise p, x => some (.panicked p, x)
  | .act change next, x => (next t x).alone P regs t (change t x)
  | .inspect r next, x =>
    match regs[r]? with
    | none => some (.panicked .nilDereference, x)
    | some reg => (next reg).alone P regs t x
  | .await g next, x => if P.isOpen g x then next.alone P regs t x else none
  | .call _ _, _ | .notify _ _ _, _ | .register _ _ _, _ | .attach _ _ _, _ | .shared _, _ => none

/-- The outcome without its fault. -/
def Outcome.unfailing : Outcome → Outcome
  | .returned v _ => .returned v none
  | .panicked p => .panicked p

/-- Code that returns no fault ends as it does otherwise, but for the fault. -/
theorem Code.alone_unfailing {P : Program σ} {regs : List Registry} {t : ThreadId} {c : Code σ}
    {o : Outcome} {x y : σ} (h : c.alone P regs t x = some (o, y)) :
    c.unfailing.alone P regs t x = some (o.unfailing, y) := by
  rw [unfailing]
  induction c generalizing x with
  | done v e =>
      cases h
      rfl
  | raise p =>
      cases h
      rfl
  | act change next ih => exact ih t x h
  | inspect r next ih =>
      simp only [bind, alone] at h ⊢
      cases hr : regs[r]? with
      | none =>
          rw [hr] at h
          cases h
          rfl
      | some reg =>
          rw [hr] at h
          exact ih reg h
  | await g next ih =>
      simp only [bind, alone] at h ⊢
      split at h
      · rename_i hopen
        rw [if_pos hopen]
        exact ih h
      · cases h
  | call | notify | register | attach | shared => cases h

/-- What a constructor ends with by itself is what its accessor gets, unless that is a fault and the
accessor is steadfast. -/
theorem Program.alone_construct {P : Program σ} {regs : List Registry} {t : ThreadId} {a : Accessor}
    {o : Outcome} {x y : σ} (h : (P.maker a.maker).alone P regs t x = some (o, y))
    (ho : a.insistent = true → ∀ v e, o ≠ .returned v (some e)) :
    (P.construct a).alone P regs t x = some (o, y) := by
  rw [construct]
  split
  · rename_i hi
    rw [Code.alone_unfailing h]
    cases o with
    | panicked p => rfl
    | returned v e =>
        cases e with
        | none => rfl
        | some e => exact (ho hi v e rfl).elim
  · exact h

/-- All moves are steps of the thread's code on top of the stack, and none is a call. -/
def Solo (t : ThreadId) (S : List (Frame σ)) (h : List (Move σ)) : Prop :=
  ∀ m ∈ h, m.thread = t ∧ ∃ c, m.actor? = some ⟨.running c, S⟩ ∧ ∀ a next, c ≠ .call a next

theorem Solo.cons {t : ThreadId} {S : List (Frame σ)} {h : List (Move σ)} {w w' : World σ}
    {c : Code σ} (hs : Solo t S h) (ht : w.threads[t]? = some ⟨.running c, S⟩)
    (hc : ∀ a next, c ≠ .call a next) : Solo t S (⟨t, w, w'⟩ :: h) := by
  intro m hm
  rcases List.mem_cons.mp hm with rfl | hm
  · exact ⟨rfl, c, ht, hc⟩
  · exact hs m hm

/-- Code that ends by itself is run to its end by the steps of its thread. -/
theorem World.run_alone {P : Program σ} {t : ThreadId} {S : List (Frame σ)} {c : Code σ}
    {w : World σ} {o : Outcome} {x : σ} (ht : w.threads[t]? = some ⟨.running c, S⟩)
    (h : c.alone P w.registries t w.state = some (o, x)) :
    ∃ g, Run P w g { w with threads := w.threads.set t ⟨.returning o, S⟩, state := x } ∧
      Solo t S g := by
  have hempty : Solo t S ([] : List (Move σ)) := by simp [Solo]
  induction c generalizing w with
  | done v e =>
      cases h
      exact ⟨_, Run.single (by rw [step, ht]; rfl), hempty.cons ht (by simp)⟩
  | raise p =>
      cases h
      exact ⟨_, Run.single (by rw [step, ht]; rfl), hempty.cons ht (by simp)⟩
  | act change next ih =>
      obtain ⟨hlt, -⟩ := List.getElem?_eq_some_iff.mp ht
      let w₁ := { w with state := change t w.state }.put t (.running (next t w.state)) S
      have hs : w.step P t = some w₁ := by rw [step, ht]; rfl
      obtain ⟨g, run, hg⟩ := ih t w.state (w := w₁) (by simp [w₁, put, hlt]) h
      refine ⟨_, (Run.single hs).append (by simpa [w₁, put] using run), hg.cons ht (by simp)⟩
  | inspect r next ih =>
      obtain ⟨hlt, -⟩ := List.getElem?_eq_some_iff.mp ht
      simp only [Code.alone] at h
      cases hr : w.registries[r]? with
      | none =>
          rw [hr] at h
          cases h
          exact ⟨_, Run.single (by simp [step, ht, stepCode, hr]; rfl), hempty.cons ht (by simp)⟩
      | some reg =>
          rw [hr] at h
          have hs : w.step P t = some (w.put t (.running (next reg)) S) := by
            simp [step, ht, stepCode, hr]
          obtain ⟨g, run, hg⟩ :=
            ih reg (w := w.put t (.running (next reg)) S) (by simp [put, hlt]) h
          refine ⟨_, (Run.single hs).append (by simpa [put] using run), hg.cons ht (by simp)⟩
  | await g next ih =>
      obtain ⟨hlt, -⟩ := List.getElem?_eq_some_iff.mp ht
      simp only [Code.alone] at h
      split at h
      · rename_i hopen
        have hs : w.step P t = some (w.put t (.running next) S) := by
          simp [step, ht, stepCode, hopen]
        obtain ⟨g, run, hg⟩ := ih (w := w.put t (.running next) S) (by simp [put, hlt]) h
        refine ⟨_, (Run.single hs).append (by simpa [put] using run), hg.cons ht (by simp)⟩
      · cases h
  | call | notify | register | attach | shared => cases h

/-- All constructors and observers run by themselves. What a constructor ends with is planned for
the number of times that it ended before, which the shared state keeps; an observer returns. -/
structure Program.Steady (P : Program σ) (plan : ConstructorId → Nat → Outcome)
    (tally : σ → ConstructorId → Nat) : Prop where
  maker : ∀ regs t k x, ∃ y, (P.maker k).alone P regs t x = some (plan k (tally x k), y) ∧
    ∀ k', tally y k' = tally x k' + if k' = k then 1 else 0
  observer : ∀ regs t o n x, ∃ v e y, (P.observer o n).alone P regs t x = some (.returned v e, y) ∧
    ∀ k, tally y k = tally x k

/-- The program whose constructors end as planned; the state lists the constructors that ended. -/
def Program.ofPlan (plan : ConstructorId → Nat → Outcome) : Program (List ConstructorId) where
  maker k := .act (fun _ log => k :: log) fun _ log =>
    match plan k (log.count k) with
    | .returned v e => .done v e
    | .panicked p => .raise p
  observer _ _ := .done .unit none
  isOpen _ _ := true

/-- There is a steady program for every plan. -/
theorem Program.steady_ofPlan (plan : ConstructorId → Nat → Outcome) :
    (ofPlan plan).Steady plan fun log k => log.count k where
  maker regs t k log := by
    refine ⟨k :: log, ?_, fun k' => ?_⟩
    · simp only [ofPlan, Code.alone]
      cases plan k (log.count k) <;> rfl
    · rw [List.count_cons]
      by_cases hk : k' = k
      · simp [hk]
      · simp [hk, Ne.symm hk]
  observer regs t o n log := ⟨.unit, none, log, rfl, fun _ => rfl⟩

end InstanceRegistry
