import InstanceRegistry.Proofs.Asking
import InstanceRegistry.Proofs.Infallible
import InstanceRegistry.Proofs.Singleton

/-!
# Slots do not depend on each other

A run in which no constructor and no observer calls an accessor can be restricted to a slot:
the calls on that slot alone, made by the same threads in a fresh world, have a run that shows
just what the whole run shows of the slot.
-/

namespace InstanceRegistry

variable {σ τ : Type}

/-- If the thread is about to call an accessor, neither a constructor nor an observer makes the
call. -/
def Thread.isOutermost : Thread σ → Bool
  | ⟨.running (.call _ _), S⟩ => (activity? S).isNone
  | _ => true

/-- The thread does not hand the panic of an observer to a request. -/
def Thread.isCalm : Thread σ → Bool
  | ⟨.returning (.panicked _), .observation _ _ :: _⟩ => false
  | _ => true

/-- A call that neither a constructor nor an observer makes is outside of all calls. -/
theorem Thread.Proper.calls_of_isOutermost {a : Accessor} {next : Outcome → Code σ}
    {S : List (Frame σ)} (hp : (⟨.running (.call a next), S⟩ : Thread σ).Proper)
    (ho : (⟨.running (.call a next), S⟩ : Thread σ).isOutermost = true) :
    S.filterMap Frame.caller? = [] := by
  cases hp with
  | running h =>
      rcases h.activity_cases rfl with hnil | ⟨fr, q, rest, hact, -⟩
      · exact hnil
      · simp [isOutermost, hact] at ho

/-- What shows of a thread shows of one of its calls, or it is a new call. -/
theorem Thread.Proper.sign?_cases {th : Thread σ} (hp : th.Proper)
    {observers : RegistryId → Option ObserverId} {x : Accessor × Sign}
    (hx : th.sign? observers = some x) :
    x.1 ∈ th.calls ∨ ∃ next S, th = ⟨.running (.call x.1 next), S⟩ := by
  unfold Thread.sign? at hx
  split at hx
  · cases hx
    exact Or.inr ⟨_, _, rfl⟩
  · obtain ⟨_, -, rfl⟩ := Option.map_eq_some_iff.mp hx
    exact Or.inl (hp.mem_calls (List.mem_cons_self ..))
  · cases hx
    exact Or.inl (List.mem_cons_self ..)
  · cases hx

/-- A constructor ends in one of the calls of a thread. -/
theorem Thread.Proper.mem_calls_of_concluded? {th : Thread σ} (hp : th.Proper)
    {x : Accessor × Outcome} (hx : th.concluded? = some x) : x.1 ∈ th.calls := by
  unfold Thread.concluded? at hx
  split at hx
  · cases hx
    exact hp.mem_calls (List.mem_cons_self ..)
  · cases hx

/-- Only code shows that an accessor is called. -/
theorem Thread.eq_of_sign?_asked {th : Thread σ} {observers : RegistryId → Option ObserverId}
    {a : Accessor} (hx : th.sign? observers = some (a, .asked)) :
    ∃ next S, th = ⟨.running (.call a next), S⟩ := by
  unfold Thread.sign? at hx
  split at hx
  · cases hx
    exact ⟨_, _, rfl⟩
  · obtain ⟨x, hsign, heq⟩ := Option.map_eq_some_iff.mp hx
    cases heq
    unfold Phase.sign? at hsign
    split at hsign
    · obtain ⟨_, -, heq⟩ := Option.map_eq_some_iff.mp hsign
      cases heq
    · cases hsign
    · cases hsign
  · cases hx
  · cases hx

/-- A thread calls no accessor of the slot in a move that is no such call. -/
theorem asked_singleton {r : RegistryId} {s : Slot} {t : ThreadId} {v w : World σ}
    {th : Thread σ} (ht : v.threads[t]? = some th)
    (hn : ∀ a next S, th = ⟨.running (.call a next), S⟩ → a.isOf r s = false) :
    asked r s t [(⟨t, v, w⟩ : Move σ)] = [] := by
  apply List.filterMap_eq_nil_iff.mpr
  intro x hx
  obtain ⟨hmem, hof⟩ := List.mem_filter.mp hx
  rw [trace_singleton ht, Option.mem_toList, Option.map_eq_some_iff] at hmem
  obtain ⟨⟨a, sign⟩, hsign, rfl⟩ := hmem
  cases sign with
  | asked =>
      obtain ⟨next, S, hth⟩ := Thread.eq_of_sign?_asked hsign
      cases (hn a next S hth).symm.trans hof
  | told | started | answered => rfl

/-- Neither a constructor nor an observer is about to call an accessor, if all calls are
outermost. -/
theorem Activity.ne_call {P' : Program τ} {ρ : FlightId → FlightId} {a : Accessor} {fr : Frame σ}
    {fr' : Frame τ} {c : Code τ} (hact : Activity P' ρ a fr fr' c) {focus : Focus σ}
    {R S : List (Frame σ)} (ho : Thread.isOutermost ⟨focus, R ++ fr :: S⟩ = true) (b : Accessor)
    (next : Outcome → Code σ) (S₁ : List (Frame σ)) :
    (⟨focus, R ++ fr :: S⟩ : Thread σ) ≠ ⟨.running (.call b next), S₁⟩ := by
  intro hth
  obtain ⟨rfl, -⟩ := Thread.mk.inj hth
  have hnone : activity? (R ++ fr :: S) = none := by simpa [Thread.isOutermost] using ho
  have hfr := List.find?_eq_none.mp hnone fr (by simp)
  cases hact with
  | construction | observation => exact hfr rfl

namespace Mirror

open World

variable {P : Program σ} {P' : Program τ} {plan : ConstructorId → Nat → Outcome}
  {tally : τ → ConstructorId → Nat} {ρ : FlightId → FlightId} {r : RegistryId} {s : Slot}
  {h : List (Move σ)} {t : ThreadId} {v w : World σ} {v' : World τ} {th : Thread σ}

section Answer

variable (M : Mirror P' plan tally ρ r s (⟨t, v, w⟩ :: h) v v') (hs : v.step P t = some w)
  {a : Accessor} {o : Outcome} {next : Outcome → Code σ} {S : List (Frame σ)}
  (ha : a.isOf r s = true) (hS : S.filterMap Frame.caller? = [])
include M hs ha hS

/-- The end of a call on the slot is followed by the end of the same call. -/
theorem step_ended (ht : v.threads[t]? = some ⟨.returning o, .caller a next :: S⟩)
    (ht' : v'.threads[t]? = some ⟨.returning o, [.caller a fun _ => .script (asked r s t h)]⟩) :
    Follows P' plan tally ρ r s h ⟨t, v, w⟩ v' := by
  have hs' : v'.step P' t = some (v'.put t (.running (.script (asked r s t h))) []) := by
    rw [step, ht']
    rfl
  obtain ⟨th₁, hset, turn⟩ := exists_turn ht hs
  cases turn with
  | answer hq =>
      refine M.matched_quiet hs ht hset hq rfl ht' hs' rfl ?_ (.away ?_) rfl
      · rintro x ⟨⟩
        exact ha
      · simp [Thread.calls, hS]

/-- The outcome of a request on the slot is followed by the same outcome: it ends the call, or a
steadfast accessor starts again. -/
theorem step_closed (hi : a.insistent = true)
    (ht : v.threads[t]? = some ⟨.returning o, .again a :: .caller a next :: S⟩)
    (ht' : v'.threads[t]? =
      some ⟨.returning o, .again a :: [.caller a fun _ => .script (asked r s t h)]⟩) :
    Follows P' plan tally ρ r s h ⟨t, v, w⟩ v' := by
  obtain ⟨th₁, hset, turn⟩ := exists_turn ht hs
  cases turn with
  | retry hq =>
      have hshadow : Shadow P' ρ r s (asked r s t h) ⟨.requesting a .check, a.frames next S⟩
          ⟨.requesting a .check, a.frames (fun _ => .script (asked r s t h)) []⟩ :=
        .asking ha hS .check
      simp only [Accessor.frames, hi, if_true] at hshadow
      exact M.matched_quiet hs ht hset hq rfl ht' (by rw [step, ht']; rfl) rfl (by rintro x ⟨⟩)
        hshadow rfl
  | pass hq ho =>
      refine M.matched_quiet hs ht hset hq rfl ht' ?_ rfl (by rintro x ⟨⟩) (.ended ha hS) rfl
      rw [step, ht']
      cases o with
      | panicked p => rfl
      | returned x e =>
          cases e with
          | none => rfl
          | some e => exact (ho x e rfl).elim

end Answer

/-- Code that runs by itself is run to its end, and its outcome is handed to the frame below. -/
theorem run_frame {c : Code τ} {o : Outcome} {fr : Frame τ} {S : List (Frame τ)} {focus : Focus τ}
    {y : τ} (ht' : v'.threads[t]? = some ⟨.running c, fr :: S⟩)
    (halone : c.alone P' v'.registries t v'.state = some (o, y)) (hfr : fr.caller? = none)
    (hret : ∀ u : World τ, u.stepReturn t o (fr :: S) = some (u.put t focus S)) :
    ∃ g, Run P' v' g { v' with threads := v'.threads.set t ⟨focus, S⟩, state := y } ∧
      trace g = [] := by
  obtain ⟨hlt, -⟩ := List.getElem?_eq_some_iff.mp ht'
  obtain ⟨g, run, hsolo⟩ := run_alone ht' halone
  let w₁ : World τ :=
    { v' with threads := v'.threads.set t ⟨.returning o, fr :: S⟩, state := y }
  have ht₁ : w₁.threads[t]? = some ⟨.returning o, fr :: S⟩ := by simp [w₁, hlt]
  have hs₁ : w₁.step P' t = some (w₁.put t focus S) := by
    rw [step, ht₁]
    exact hret w₁
  refine ⟨g ++ [⟨t, w₁, w₁.put t focus S⟩], ?_, ?_⟩
  · have hset : w₁.put t focus S =
        { v' with threads := v'.threads.set t ⟨focus, S⟩, state := y } := by simp [w₁, put]
    exact hset ▸ run.append (Run.single hs₁)
  · rw [trace_append, hsolo.trace_eq_nil, trace_singleton ht₁]
    cases fr with
    | caller => cases hfr
    | resume | again | construction | observation => rfl

/-- A call on the slot is followed by the same call. -/
theorem step_call (M : Mirror P' plan tally ρ r s (⟨t, v, w⟩ :: h) v v')
    (hs : v.step P t = some w) {a : Accessor} {next : Outcome → Code σ} {S : List (Frame σ)}
    (ha : a.isOf r s = true) (hS : S.filterMap Frame.caller? = [])
    (ht : v.threads[t]? = some ⟨.running (.call a next), S⟩)
    (ht' : v'.threads[t]? = some ⟨.running (.script (asked r s t (⟨t, v, w⟩ :: h))), []⟩) :
    Follows P' plan tally ρ r s h ⟨t, v, w⟩ v' := by
  have hasked : asked r s t [(⟨t, v, w⟩ : Move σ)] = [a] := by
    simp [asked, traceOf, trace_singleton ht, Thread.sign?, Entry.asked?, ha]
  rw [asked_cons, hasked] at ht'
  have hs' : v'.step P' t = some (v'.put t (.requesting a .check)
      (a.frames (fun _ => .script (asked r s t h)) [])) := by
    rw [step, ht']
    rfl
  have hstep := hs
  rw [step, ht] at hstep
  obtain rfl := Option.some.inj hstep
  refine M.matched_quiet hs ht rfl ⟨rfl, rfl⟩ rfl ht' hs' rfl ?_ (.asking ha hS .check) rfl
  rintro x ⟨⟩
  exact ha

/-- A thread outside of all calls on the slot stays outside unless it makes such a call. -/
theorem step_away (M : Mirror P' plan tally ρ r s (⟨t, v, w⟩ :: h) v v') (hv : v.Valid)
    (hs : v.step P t = some w) (ht : v.threads[t]? = some th)
    (hoff : ∀ a ∈ th.calls, a.isOf r s = false)
    (hcall : ∀ a next S, th = ⟨.running (.call a next), S⟩ → a.isOf r s = false)
    (ht' : v'.threads[t]? = some ⟨.running (.script (asked r s t (⟨t, v, w⟩ :: h))), []⟩) :
    Follows P' plan tally ρ r s h ⟨t, v, w⟩ v' := by
  have hp := hv.proper t th ht
  have hfocus : ∀ q, th.focus.request? = some q → q.accessor.isOf r s = false := by
    intro q hq
    apply hoff
    apply hp.mem_calls
    rw [Thread.requests, hq]
    exact List.mem_cons_self ..
  obtain ⟨th₁, hset, turn⟩ := exists_turn ht hs
  rw [asked_cons, asked_singleton ht hcall] at ht'
  refine M.idle hs ht hset (hv.view_step M.setUp ht hs hfocus) ?_ ?_ ht' (.away ?_)
  · intro x hx
    rcases hp.sign?_cases hx with hmem | ⟨next, S, hth⟩
    · exact hoff _ hmem
    · exact hcall _ _ _ hth
  · intro x hx
    exact hoff _ (hp.mem_calls_of_concluded? hx)
  · intro a hmem
    rcases turn.calls with heq | ⟨b, heq⟩ | ⟨b, next, S, rfl, heq⟩
    · exact hoff a (heq ▸ hmem)
    · exact hoff a (heq ▸ List.mem_cons_of_mem _ hmem)
    · rw [heq] at hmem
      rcases List.mem_cons.mp hmem with rfl | hmem
      · exact hcall _ _ _ rfl
      · exact hoff a hmem

/-- The step in which a constructor or an observer ends is followed by steps that run it to its end
in the restricted world. -/
theorem catch_up {th₁ : Thread σ} {th' th₁' : Thread τ} {g : List (Move τ)} {y : τ}
    (M : Mirror P' plan tally ρ r s (⟨t, v, w⟩ :: h) v v') (hs : v.step P t = some w)
    (ht : v.threads[t]? = some th) (hset : w.threads = v.threads.set t th₁) (hq : Quiet v w)
    (hatt : th.attaches? r = none) (hsign : th.sign? v.observer? = none)
    (ht' : v'.threads[t]? = some th')
    (run : Run P' v' g { v' with threads := v'.threads.set t th₁', state := y })
    (htrace : trace g = []) (hshadow : Shadow P' ρ r s (asked r s t h) th₁ th₁')
    (hplan : OnPlan plan tally r s h y) : Follows P' plan tally ρ r s h ⟨t, v, w⟩ v' := by
  refine M.follow hs ht hset hatt ht' run rfl ?_ ?_ M.solely hshadow hplan
  · rw [htrace, traceOf, trace_singleton ht, hsign]
    rfl
  · rw [hq.view, ← M.view]
    exact Quiet.view ⟨rfl, rfl⟩ r s

section Inside

variable (M : Mirror P' plan tally ρ r s (⟨t, v, w⟩ :: h) v v') (hs : v.step P t = some w)
  {a : Accessor} {next : Outcome → Code σ} {S : List (Frame σ)}
  (ha : a.isOf r s = true) (hS : S.filterMap Frame.caller? = []) (hP' : P'.Steady plan tally)
include M hs ha hS hP'

/-- The end of a constructor of the slot is followed by a run of the constructor to the same
end. -/
theorem step_conclude (hup : v.Upheld) {o : Outcome} {f : FlightId}
    (ht : v.threads[t]? = some ⟨.returning o, .construction a f :: a.frames next S⟩)
    (ht' : v'.threads[t]? = some ⟨.running (P'.construct a),
      .construction a (ρ f) :: a.frames (fun _ => .script (asked r s t h)) []⟩) :
    Follows P' plan tally ρ r s h ⟨t, v, w⟩ v' := by
  obtain ⟨y, halone, htally⟩ := hP'.maker v'.registries t a.maker v'.state
  obtain ⟨ho, hplan⟩ := M.planned.conclude ht rfl ha htally
  rw [← ho] at halone
  have hconstruct := Program.alone_construct halone fun hi => hup.ne_fault ht hi
  obtain ⟨g, run, htrace⟩ := run_frame ht' hconstruct rfl (fun u => rfl)
  obtain ⟨th₁, hset, turn⟩ := exists_turn ht hs
  cases turn with
  | conclude hq =>
      exact M.catch_up hs ht hset hq rfl rfl ht' run htrace
        (.asking ha hS (o.renamed_conclude ρ a.slot f)) hplan

/-- The end of an observer that was told of the slot is followed by a run of the observer. -/
theorem step_observed {x : Value} {e : Option Fault} {q q' : Phase} {obs : ObserverId} {n : Notice}
    (hq : q.Renamed ρ q')
    (ht : v.threads[t]? = some ⟨.returning (.returned x e), .observation a q :: a.frames next S⟩)
    (ht' : v'.threads[t]? = some ⟨.running (P'.observer obs n),
      .observation a q' :: a.frames (fun _ => .script (asked r s t h)) []⟩) :
    Follows P' plan tally ρ r s h ⟨t, v, w⟩ v' := by
  obtain ⟨x', e', y, halone, htally⟩ := hP'.observer v'.registries t obs n v'.state
  obtain ⟨g, run, htrace⟩ := run_frame ht' halone rfl (fun u => rfl)
  obtain ⟨th₁, hset, turn⟩ := exists_turn ht hs
  cases turn with
  | observed hquiet =>
      exact M.catch_up hs ht hset hquiet rfl rfl ht' run htrace (.asking ha hS hq)
        (M.planned.tail ht (by rintro x ⟨⟩) htally)

/-- A step of a constructor or an observer of the slot is followed by no step until it ends. -/
theorem step_inside (hv : v.Valid) (hup : v.Upheld) {focus : Focus σ} {R : List (Frame σ)}
    {fr : Frame σ} {fr' : Frame τ} {c : Code τ} (hf : focus.request? = none)
    (hR : ∀ x ∈ R, ∃ next, x = .resume next) (hact : Activity P' ρ a fr fr' c)
    (hcall : ∀ b next₁ S₁,
      (⟨focus, R ++ fr :: a.frames next S⟩ : Thread σ) ≠ ⟨.running (.call b next₁), S₁⟩)
    (ht : v.threads[t]? = some ⟨focus, R ++ fr :: a.frames next S⟩)
    (hc : Thread.isCalm ⟨focus, R ++ fr :: a.frames next S⟩ = true)
    (ht' : v'.threads[t]? =
      some ⟨.running c, fr' :: a.frames (fun _ => .script (asked r s t h)) []⟩) :
    Follows P' plan tally ρ r s h ⟨t, v, w⟩ v' := by
  have hview := hv.view_step (s := s) M.setUp ht hs (by simp [hf])
  obtain ⟨th₁, hset, turn⟩ := exists_turn ht hs
  cases focus with
  | requesting a p => cases hf
  | running c₀ =>
      have hcall : ∀ b next, c₀ ≠ .call b next := by
        rintro b next₁ rfl
        exact hcall b next₁ _ rfl
      -- The restricted run keeps its code at the start until the constructor or observer ends.
      refine M.idle hs ht hset hview (by simp [Thread.sign?_running hcall]) (by rintro x ⟨⟩) ht' ?_
      cases turn with
      | proceed | stop => exact .inside ha hS rfl hR hact
      | @notify _ _ n =>
          refine .inside (R := .resume n :: R) ha hS rfl (fun x hx => ?_) hact
          rcases List.mem_cons.mp hx with rfl | hx
          · exact ⟨n, rfl⟩
          · exact hR x hx
      | call => exact (hcall _ _ rfl).elim
  | returning o =>
      cases R with
      | nil =>
          cases hact with
          | construction => exact M.step_conclude hs ha hS hP' hup ht ht'
          | observation hq =>
              cases o with
              | returned x e => exact M.step_observed hs ha hS hP' hq ht ht'
              | panicked p => cases hc
      | cons x R =>
          obtain ⟨n, rfl⟩ := hR x (List.mem_cons_self ..)
          refine M.idle hs ht hset hview (by rintro x ⟨⟩) (by rintro x ⟨⟩) ht' ?_
          cases turn with
          | resume =>
              exact .inside ha hS rfl (fun x hx => hR x (List.mem_cons_of_mem _ hx)) hact

end Inside

/-- Every step is followed by steps of the restricted run that show what it shows of the slot. -/
theorem step (M : Mirror P' plan tally ρ r s (⟨t, v, w⟩ :: h) v v') (hv : v.Valid)
    (hup : v.Upheld) (hv' : v'.Valid) (hfit : v.IdsFit r)
    (hρ : ∀ f ≤ v.flights.length, ρ f = v.rank r s f)
    (hP' : P'.Steady plan tally) (hs : v.step P t = some w)
    (ho : ∀ th, v.threads[t]? = some th → th.isOutermost = true)
    (hc : ∀ th, v.threads[t]? = some th → th.isCalm = true) :
    Follows P' plan tally ρ r s h ⟨t, v, w⟩ v' := by
  obtain ⟨th, -, ht, -, -⟩ := step_turn hs
  obtain ⟨th', ht', hshadow⟩ := M.threads t th ht
  have ho := ho th ht
  have hc := hc th ht
  cases hshadow with
  | away hoff =>
      by_cases hcall : ∃ a next S, th = ⟨.running (.call a next), S⟩ ∧ a.isOf r s = true
      · obtain ⟨a, next, S, rfl, ha⟩ := hcall
        exact M.step_call hs ha ((hv.proper _ _ ht).calls_of_isOutermost ho) ht ht'
      · refine M.step_away hv hs ht hoff (fun a next S hth => ?_) ht'
        exact Bool.eq_false_iff.mpr fun ha => hcall ⟨a, next, S, hth, ha⟩
  | asking ha hS hp =>
      obtain ⟨rfl, rfl⟩ := of_decide_eq_true ha
      rw [asked_cons, asked_singleton ht (by rintro _ _ _ ⟨⟩)] at ht'
      exact Asking.follows ⟨M, hv, hv', hfit, hρ, hs, hS, ht, ht', hp⟩
  | inside ha hS hf hR hact =>
      have hcall := hact.ne_call ho
      rw [asked_cons, asked_singleton ht fun b next S hth => (hcall b next S hth).elim] at ht'
      exact M.step_inside hs ha hS hP' hv hup hf hR hact hcall ht hc ht'
  | @closed a o next S ha hS =>
      rw [asked_cons, asked_singleton ht (by rintro _ _ _ ⟨⟩)] at ht'
      cases hi : a.insistent with
      | true =>
          simp only [Accessor.frames, hi, if_true] at ht ht'
          exact M.step_closed hs ha hS hi ht ht'
      | false =>
          simp only [Accessor.frames, hi, Bool.false_eq_true, if_false] at ht ht'
          exact M.step_ended hs ha hS ht ht'
  | ended ha hS =>
      rw [asked_cons, asked_singleton ht (by rintro _ _ _ ⟨⟩)] at ht'
      exact M.step_ended hs ha hS ht ht'

/-- Every run is followed by a run of the restricted world that shows what it shows of the slot. -/
theorem run (M : Mirror P' plan tally ρ r s h v v') (run : Run P v h w) (hv : v.Valid)
    (hup : v.Upheld) (hv' : v'.Valid) (hfit : w.IdsFit r) (hρ : ρ = w.rank r s)
    (hP' : P'.Steady plan tally) (ho : ∀ m ∈ h, m.actor?.all Thread.isOutermost = true)
    (hc : ∀ m ∈ h, m.actor?.all Thread.isCalm = true) :
    ∃ h' w', Run P' v' h' w' ∧ trace h' = traceOf r s h ∧
      Mirror P' plan tally ρ r s [] w w' := by
  induction h generalizing v v' with
  | nil =>
      obtain rfl := run.eq_of_nil
      exact ⟨[], v', .start, rfl, M⟩
  | cons m h ih =>
      obtain ⟨t, v₀, w₁⟩ := m
      obtain ⟨rfl, hs, run₁⟩ := run.uncons
      -- Flights are named by their ranks at the end, which are settled when they take off.
      have hrank : ∀ f ≤ v₀.flights.length, ρ f = v₀.rank r s f := by
        intro f hf
        rw [hρ]
        exact run.rank_eq hf
      have hfollows := M.step hv hup hv' (hfit.of_run run) hrank hP' hs
        (fun th ht => by simpa [Move.actor?, ht] using ho _ (List.mem_cons_self ..))
        (fun th ht => by simpa [Move.actor?, ht] using hc _ (List.mem_cons_self ..))
      obtain ⟨g, w₁', run', htrace, M₁⟩ := hfollows
      obtain ⟨h', w', run'', htrace', M'⟩ := ih M₁ run₁ (hv.step hs) (hup.step hs) (hv'.run run')
        (fun m hm => ho m (List.mem_cons_of_mem _ hm))
        (fun m hm => hc m (List.mem_cons_of_mem _ hm))
      exact ⟨g ++ h', w', run'.append run'',
        by rw [trace_append, htrace, htrace', ← traceOf_cons], M'⟩

end Mirror

/-- Constructions by one constructor are constructions of one slot. -/
def OwnConstructors (h : List (Move σ)) : Prop :=
  ∀ x ∈ conclusions h, ∀ y ∈ conclusions h, x.1.maker = y.1.maker →
    x.1.registry = y.1.registry ∧ x.1.slot = y.1.slot

/-- Every constructor ends as it is planned for the number of times that it ended before. -/
def Planned (plan : ConstructorId → Nat → Outcome) (h : List (Move σ)) : Prop :=
  ∀ k i o, (outcomes (fun a => a.maker == k) h)[i]? = some o → o = plan k i

/-- A constructor that is used for the slot is used for no other. -/
theorem OwnConstructors.outcomes_eq {h : List (Move σ)} (hown : OwnConstructors h)
    {r : RegistryId} {s : Slot} {k : ConstructorId}
    (hne : outcomes (fun a => a.isOf r s && a.maker == k) h ≠ []) :
    outcomes (fun a => a.isOf r s && a.maker == k) h = outcomes (fun a => a.maker == k) h := by
  obtain ⟨o, ho⟩ := List.exists_mem_of_ne_nil _ hne
  obtain ⟨x, hx, -⟩ := List.mem_map.mp ho
  obtain ⟨hx, hk⟩ := List.mem_filter.mp hx
  obtain ⟨hof, hk⟩ := Bool.and_eq_true_iff.mp hk
  obtain ⟨hr, hs⟩ := of_decide_eq_true hof
  rw [outcomes, outcomes]
  congr 1
  apply List.filter_congr
  intro y hy
  by_cases hy' : y.1.maker = k
  · obtain ⟨hyr, hys⟩ := hown x hx y hy ((beq_iff_eq.mp hk).trans hy'.symm)
    simp [Accessor.isOf, ← hyr, ← hys, hr, hs]
  · simp [hy']

namespace World

/-- At the start of a run, the restricted world mirrors the whole one. -/
theorem Fresh.mirror {w₀ : World σ} (fresh : w₀.Fresh) {r : RegistryId}
    {observers : List (Option ObserverId)} (hr : w₀.registries[r]? = some (.new observers))
    {h : List (Move σ)} (hown : OwnConstructors h) {plan : ConstructorId → Nat → Outcome}
    (hplan : Planned plan h) (P' : Program τ) {tally : τ → ConstructorId → Nat}
    (ρ : FlightId → FlightId) {x : τ} (hx : ∀ k, tally x k = 0) (s : Slot) :
    Mirror P' plan tally ρ r s h w₀ (w₀.restrict r s h x) where
  setUp := ⟨_, hr, rfl⟩
  setUp' := ⟨_, hr, rfl⟩
  view := by simp [view, World.restrict, observer?, stored?, id?, fresh.flights]
  solely := by simp [World.restrict]
  threads := by
    intro t th ht
    obtain ⟨hlt, -⟩ := List.getElem?_eq_some_iff.mp ht
    obtain ⟨c, rfl⟩ := fresh.threads th (List.mem_of_getElem? ht)
    refine ⟨.start (.script (asked r s t h)), ?_, .away (by simp [Thread.calls, Thread.start])⟩
    simp [World.restrict, List.getElem?_append_left, hlt]
  keeper := by simp [World.restrict, Thread.start]
  planned := by
    intro k i o ho
    have hne : outcomes (fun a => a.isOf r s && a.maker == k) h ≠ [] := by
      intro hnil
      simp [hnil] at ho
    rw [hown.outcomes_eq hne] at ho
    change o = plan k (tally x k + i)
    rw [hx, Nat.zero_add]
    exact hplan k i o ho

/-- Slots do not depend on each other. Take any run over a registry that was set up, in which
neither constructors nor observers call accessors, no observer panics, each constructor is used for
one slot, and what it ends with depends only on how often it ended before. The calls on one slot
alone, made by the same threads in a fresh world with constructors of the same plan, have a run
that shows exactly what the whole run shows of the slot, in the same order: the calls and their
outcomes, the starts of constructors and what observers are told. It leaves the same instance under
the slot.

A slot is a type and a name, so this holds of slots that print alike. The registry numbers its
slots with words of 64 bits, and it has not given out all of these numbers. -/
theorem Run.slot_independence {P : Program σ} {w₀ w : World σ} {h : List (Move σ)}
    (run : Run P w₀ h w) (fresh : w₀.Fresh) {r : RegistryId}
    {observers : List (Option ObserverId)} (hr : w₀.registries[r]? = some (.new observers))
    (hfit : w.IdsFit r) (houter : ∀ m ∈ h, m.actor?.all Thread.isOutermost = true)
    (hcalm : ∀ m ∈ h, m.actor?.all Thread.isCalm = true) (hown : OwnConstructors h)
    {plan : ConstructorId → Nat → Outcome} (hplan : Planned plan h) {P' : Program τ}
    {tally : τ → ConstructorId → Nat} (hP' : P'.Steady plan tally) {x : τ}
    (hx : ∀ k, tally x k = 0) (s : Slot) :
    (w₀.restrict r s h x).Fresh ∧
      ∃ h' w', Run P' (w₀.restrict r s h x) h' w' ∧ trace h' = traceOf r s h ∧
        w'.stored? r s = w.stored? r s := by
  have fresh' := fresh.restrict r s h x
  have M := fresh.mirror hr hown hplan P' (w.rank r s) hx s
  have hv := (Run.start (P := P)).valid fresh
  have hv' := (Run.start (P := P')).valid fresh'
  obtain ⟨h', w', run', htrace, M'⟩ := M.run run hv fresh.upheld hv' hfit rfl hP' houter hcalm
  exact ⟨fresh', h', w', run', htrace, congrArg SlotView.stored M'.view⟩

end World

/-! ### Two slots that print alike -/

namespace Sample

/-- Another slot whose type prints like that of whole numbers. -/
def twin : Slot := ⟨.base { id := "twin", text := "int", kind := .int, content := .number }, ""⟩

/-- An accessor of the other slot. -/
def twinAccessor : Accessor := ⟨0, twin, 1, false⟩

/-- The first constructor panics when it is first called; else constructors return an instance. -/
def plan (k : ConstructorId) (n : Nat) : Outcome :=
  if k = 0 ∧ n = 0 then .panicked (.text "boom") else .returned (.number 7) none

/-- Two threads, one of which calls accessors of both slots. -/
def twins : World (List ConstructorId) where
  registries := [.new [some 0]]
  threads := [[twinAccessor, accessor], [accessor, accessor]].map fun l => .start (.script l)
  state := []

/-- The first thread leads a flight of the other slot when the second takes off, and it joins the
flight of the second thread later. -/
def twinsSchedule : List ThreadId :=
  List.replicate 4 0 ++ List.replicate 4 1 ++ List.replicate 21 0 ++ List.replicate 30 1 ++
    List.replicate 10 0

/-- The steps of both threads. -/
def twinsHistory : List (Move (List ConstructorId)) := twins.history (.ofPlan plan) twinsSchedule

/-- The world after these steps. -/
def twinsEnd : World (List ConstructorId) := twins.run (.ofPlan plan) twinsSchedule

theorem twins_fresh : twins.Fresh :=
  World.fresh_start [some 0] [.script [twinAccessor, accessor], .script [accessor, accessor]] []

theorem twins_planned : Planned plan twinsHistory := by
  have houts (k : ConstructorId) : ∃ n, outcomes (fun a => a.maker == k) twinsHistory =
      (List.range n).map (plan k) := by
    match k with
    | 0 => exact ⟨2, rfl⟩
    | 1 => exact ⟨1, rfl⟩
    | k + 2 => exact ⟨0, rfl⟩
  intro k i o ho
  obtain ⟨n, hn⟩ := houts k
  rw [hn, List.getElem?_map, Option.map_eq_some_iff] at ho
  obtain ⟨j, hj, rfl⟩ := ho
  obtain ⟨hlt, hget⟩ := List.getElem?_eq_some_iff.mp hj
  rw [← hget, List.getElem_range]

end Sample

/-- The calls on one of two slots that print alike, with a panic that two calls share, a second
construction and flights that get other names. -/
theorem World.Run.slot_independence_alike :
    Sample.slot ≠ Sample.twin ∧ Sample.slot.text = Sample.twin.text ∧
      (traceOf 0 Sample.slot Sample.twinsHistory).length = 12 ∧
      (Sample.twinsEnd.stored? 0 Sample.slot).isSome = true ∧
      ∃ h' w', Run (.ofPlan Sample.plan)
          (Sample.twins.restrict 0 Sample.slot Sample.twinsHistory ([] : List ConstructorId))
          h' w' ∧
        trace h' = traceOf 0 Sample.slot Sample.twinsHistory ∧
        w'.stored? 0 Sample.slot = Sample.twinsEnd.stored? 0 Sample.slot := by
  have houter : ∀ m ∈ Sample.twinsHistory, m.actor?.all Thread.isOutermost = true := by
    decide +kernel
  have hcalm : ∀ m ∈ Sample.twinsHistory, m.actor?.all Thread.isCalm = true := by decide +kernel
  have hown : OwnConstructors Sample.twinsHistory := by
    unfold OwnConstructors
    decide +kernel
  have hfit : Sample.twinsEnd.IdsFit 0 := by decide +kernel
  have hslot := Run.slot_independence (World.run_of_schedule _ _ _) Sample.twins_fresh rfl hfit
    houter hcalm hown Sample.twins_planned (Program.steady_ofPlan _) (x := []) (fun _ => rfl)
    Sample.slot
  exact ⟨by decide, by decide, by decide +kernel, by decide +kernel, hslot.2⟩

end InstanceRegistry
