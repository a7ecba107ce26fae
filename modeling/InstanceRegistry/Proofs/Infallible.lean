import InstanceRegistry.Proofs.Recovery

/-!
# Constructors that return no fault

The constructor of a steadfast accessor gives a value or panics. Whatever it runs on its way, and
whatever faults it gets to see there, it hands none of them to its flight.

## Implementation notes

That code returns no fault is read off the code, over all that it may get to know. In a run the code
of a constructor is taken apart step by step, so a thread is said to spare a part of its stack: the
code that runs directly on top of this part returns no fault to it, or that code waits in a frame
and returns none later.
-/

namespace InstanceRegistry

variable {σ : Type}

/-- The code returns no fault, whatever it gets to know on its way. -/
def Code.Infallible : Code σ → Prop
  | .done _ e => e = none
  | .raise _ => True
  | .act _ next => ∀ t s, (next t s).Infallible
  | .inspect _ next => ∀ reg, (next reg).Infallible
  | .call _ next => ∀ o, (next o).Infallible
  | .notify _ _ next => ∀ o, (next o).Infallible
  | .await _ next => next.Infallible
  | .register _ _ next => ∀ r, (next r).Infallible
  | .attach _ _ next => next.Infallible
  | .shared next => ∀ r, (next r).Infallible

/-- Code that goes on with infallible code is infallible, whatever it returned itself. -/
theorem Code.Infallible.bind (c : Code σ) {rest : Value → Option Fault → Code σ}
    (h : ∀ v e, (rest v e).Infallible) : (c.bind rest).Infallible := by
  induction c with
  | done v e => exact h v e
  | raise p => trivial
  | act change next ih => exact fun t s => ih t s
  | inspect r next ih => exact fun reg => ih reg
  | call a next ih => exact fun o => ih o
  | notify o n next ih => exact fun x => ih x
  | await g next ih => exact ih
  | register bare os next ih => exact fun r => ih r
  | attach r o next ih => exact ih
  | shared next ih => exact fun r => ih r

/-- The constructor of a steadfast accessor is infallible. -/
theorem Program.construct_infallible (P : Program σ) {a : Accessor} (ha : a.insistent = true) :
    (P.construct a).Infallible := by
  rw [construct, if_pos ha]
  exact .bind _ fun _ _ => rfl

/-- The focus hands no fault to the frame below it. -/
def Focus.Infallible : Focus σ → Prop
  | .running c => c.Infallible
  | .returning o => ∀ v e, o ≠ .returned v (some e)
  | .requesting _ _ => False

/-- The frame is one of code that hands no fault to the frame below it. -/
def Frame.Infallible : Frame σ → Prop
  | .resume next | .caller _ next => ∀ o, (next o).Infallible
  | .again _ | .construction _ _ | .observation _ _ => False

/-- The code that runs directly on top of the stack hands no fault to it. -/
def Thread.Spares (th : Thread σ) (B : List (Frame σ)) : Prop :=
  (th.stack = B ∧ th.focus.Infallible) ∨ ∃ fr, fr :: B <:+ th.stack ∧ fr.Infallible

namespace World

variable {P : Program σ} {t : ThreadId} {w w' : World σ} {th th' : Thread σ} {a b : Accessor}
  {f : FlightId} {B S : List (Frame σ)} {h : List (Move σ)}

/-- A step of infallible code leaves infallible code on top of the stack. -/
theorem stepCode_spares {c : Code σ} (hs : w.stepCode P t B c = some w') (hc : c.Infallible) :
    ∃ th', w'.threads = w.threads.set t th' ∧ th'.Spares B := by
  cases c with
  | done v e =>
      obtain rfl := Option.some.inj hs
      obtain rfl : e = none := hc
      exact ⟨_, rfl, Or.inl ⟨rfl, fun x e he => by cases he⟩⟩
  | raise p =>
      obtain rfl := Option.some.inj hs
      exact ⟨_, rfl, Or.inl ⟨rfl, fun x e he => by cases he⟩⟩
  | act change next =>
      obtain rfl := Option.some.inj hs
      exact ⟨_, rfl, Or.inl ⟨rfl, hc t w.state⟩⟩
  | inspect r next =>
      simp only [stepCode] at hs
      split at hs
      · obtain rfl := Option.some.inj hs
        exact ⟨_, rfl, Or.inl ⟨rfl, fun x e he => by cases he⟩⟩
      · obtain rfl := Option.some.inj hs
        exact ⟨_, rfl, Or.inl ⟨rfl, hc _⟩⟩
  | call a next =>
      obtain rfl := Option.some.inj hs
      refine ⟨_, rfl, Or.inr ⟨.caller a next, ?_, hc⟩⟩
      dsimp only
      split
      · exact List.suffix_cons _ _
      · exact List.suffix_refl _
  | notify o n next =>
      obtain rfl := Option.some.inj hs
      exact ⟨_, rfl, Or.inr ⟨.resume next, List.suffix_refl _, hc⟩⟩
  | await g next =>
      simp only [stepCode] at hs
      split at hs
      · obtain rfl := Option.some.inj hs
        exact ⟨_, rfl, Or.inl ⟨rfl, hc⟩⟩
      · cases hs
  | register bare os next =>
      obtain rfl := Option.some.inj hs
      exact ⟨_, rfl, Or.inl ⟨rfl, hc _⟩⟩
  | attach r o next =>
      simp only [stepCode] at hs
      split at hs
      · obtain rfl := Option.some.inj hs
        exact ⟨_, rfl, Or.inl ⟨rfl, fun x e he => by cases he⟩⟩
      · obtain rfl := Option.some.inj hs
        exact ⟨_, rfl, Or.inl ⟨rfl, hc⟩⟩
  | shared next =>
      simp only [stepCode] at hs
      split at hs
      · obtain rfl := Option.some.inj hs
        exact ⟨_, rfl, Or.inl ⟨rfl, hc _⟩⟩
      · obtain rfl := Option.some.inj hs
        exact ⟨_, rfl, Or.inl ⟨rfl, hc _⟩⟩

/-- The code on top of the stack hands no fault to it after a step either, unless it is through. -/
theorem spares_step (hsp : th.Spares B) (ht : w.threads[t]? = some th)
    (hs : w.step P t = some w') (hret : ∀ o, th ≠ ⟨.returning o, B⟩) :
    ∃ th', w'.threads[t]? = some th' ∧ th'.Spares B := by
  rcases hsp with ⟨rfl, hf⟩ | ⟨fr, hS, hfr⟩
  · obtain ⟨focus, B⟩ := th
    cases focus with
    | requesting a p => exact hf.elim
    | returning o => exact (hret o rfl).elim
    | running c =>
        have hcode : w.stepCode P t B c = some w' := by rwa [step, ht] at hs
        obtain ⟨th', hset, hsp⟩ := stepCode_spares hcode hf
        exact ⟨th', by simp [getElem?_threads_set ht hset], hsp⟩
  · obtain ⟨th', ht', turn⟩ := turn_of_step ht hs
    refine ⟨th', ht', ?_⟩
    rcases turn.suffix hS with hS' | ⟨o, rfl⟩
    · exact Or.inr ⟨fr, hS', hfr⟩
    · cases turn with
      | resume => exact Or.inl ⟨rfl, hfr o⟩
      | answer => exact Or.inl ⟨rfl, hfr o⟩
      | retry | pass | conclude | observed | crash | interrupt => exact hfr.elim

/-- A constructor whose flight is on the stack was there before the step, or it has just started. -/
theorem Turn.construction_cases (turn : Turn P t w w' th th')
    (hS : .construction b f :: S <:+ th'.stack) :
    .construction b f :: S <:+ th.stack ∨
      th' = ⟨.running (P.construct b), .construction b f :: S⟩ := by
  -- A frame of another kind on top is not the one of the constructor.
  have below {fr : Frame σ} {T : List (Frame σ)} (hfr : fr ≠ .construction b f)
      (hT : .construction b f :: S <:+ fr :: T) : .construction b f :: S <:+ T := by
    rcases List.suffix_cons_iff.mp hT with heq | hT
    · exact (hfr (List.cons.inj heq).1.symm).elim
    · exact hT
  cases turn with
  | build =>
      rcases List.suffix_cons_iff.mp hS with heq | hS
      · obtain ⟨hfr, rfl⟩ := List.cons.inj heq
        cases hfr
        exact Or.inr rfl
      · exact Or.inl hS
  | call =>
      left
      split at hS
      · exact below (by simp) (below (by simp) hS)
      · exact below (by simp) hS
  | notify | announce => exact Or.inl (below (by simp) hS)
  | resume | answer | pass | conclude | observed | crash | interrupt =>
      exact Or.inl (hS.trans (List.suffix_cons _ _))
  | _ => exact Or.inl hS

/-- The constructors of steadfast accessors hand no fault to their flights. -/
def Upheld (w : World σ) : Prop :=
  ∀ (t : ThreadId) (th : Thread σ) (b : Accessor) (f : FlightId) (S : List (Frame σ)),
    w.threads[t]? = some th → .construction b f :: S <:+ th.stack →
    b.insistent = true → th.Spares (.construction b f :: S)

theorem Fresh.upheld {w₀ : World σ} (fresh : w₀.Fresh) : w₀.Upheld := by
  intro t th b f S ht hS
  obtain ⟨c, rfl⟩ := fresh.threads th (List.mem_of_getElem? ht)
  cases List.suffix_nil.mp hS

theorem Upheld.step (hup : w.Upheld) (hs : w.step P t = some w') : w'.Upheld := by
  intro u x b f S hx hS hb
  obtain ⟨th, th', ht, hset, turn⟩ := step_turn hs
  obtain ⟨rfl, rfl⟩ | ⟨-, hx⟩ := threads_cases (getElem?_threads_set ht hset) hx
  · rcases turn.construction_cases hS with hS₀ | rfl
    · by_cases hret : ∃ o, th = ⟨.returning o, .construction b f :: S⟩
      · -- The constructor is through, and its frame is gone.
        obtain ⟨o, rfl⟩ := hret
        cases turn with
        | conclude => exact (Nat.not_succ_le_self _ hS.length_le).elim
      · obtain ⟨y, hy, hsp⟩ := spares_step (hup u th b f S ht hS₀ hb) ht hs
          fun o ho => hret ⟨o, ho⟩
        obtain rfl := Option.some.inj (hx.symm.trans hy)
        exact hsp
    · exact Or.inl ⟨rfl, P.construct_infallible hb⟩
  · exact hup u x b f S hx hS hb

/-- The constructor of a steadfast accessor ends without a fault. -/
theorem Upheld.ne_fault (hup : w.Upheld) {o : Outcome}
    (ht : w.threads[t]? = some ⟨.returning o, .construction b f :: S⟩) (hb : b.insistent = true)
    (x : Value) (e : Fault) : o ≠ .returned x (some e) := by
  rcases hup _ _ b f S ht (List.suffix_refl _) hb with ⟨-, hf⟩ | ⟨fr, hS, -⟩
  · exact hf x e
  · exact (Nat.not_succ_le_self _ hS.length_le).elim

/-- No flight of a steadfast accessor has a constructor that returned a fault. -/
theorem Run.not_concluded {w₀ : World σ} (run : Run P w₀ h w) (fresh : w₀.Fresh)
    (hb : b.insistent = true) (x : Value) (e : Fault) :
    .concluded b f (.returned x (some e)) ∉ incidents f h := by
  intro hmem
  obtain ⟨m, hm, hi, -⟩ := mem_incidents.mp hmem
  obtain ⟨h₁, h₂, -, run₁, -, -⟩ := run.split hm
  have hup : m.before.Upheld :=
    run₁.preserves (I := fun w => w.Upheld) (fun hup hs => hup.step hs) fresh.upheld
  obtain ⟨S, ht⟩ := returning_of_concluded hi
  exact hup.ne_fault ht hb x e rfl

end World

end InstanceRegistry
