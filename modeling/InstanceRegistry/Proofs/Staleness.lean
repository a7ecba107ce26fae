import InstanceRegistry.Proofs.Agreement
import InstanceRegistry.Proofs.Recovery

/-!
# No call gets an old failure

A call ends with the stored instance, with what a flight landed with, or with a panic of
its own observer. A flight from which it draws its outcome was listed at some moment of the
call: the call joined it there or took off with it. Landing and leaving the list are one
step, so a call that starts after another has ended never gets the failure of the other; the
flight from which it draws had not landed when the other ended.

## Implementation notes

A call of a steadfast accessor makes one request after the other. The outcome of the call is
that of the last one, and this is the request whose source is looked for. A request is found
again in its thread by the number of requests below it.
-/

namespace InstanceRegistry

variable {σ : Type}

/-- The request of a thread that has the given number of requests below it. -/
def Thread.requestAt? (th : Thread σ) (k : Nat) : Option Request := th.requests.reverse[k]?

namespace World

/-- The flight is listed under the identifier of the accessor's slot. -/
def Lists (w : World σ) (a : Accessor) (f : FlightId) : Prop :=
  ∃ id, w.id? a.registry a.slot = some id ∧ w.inFlight? a.registry id = some f

end World

/-- The flight is listed before or after a move of the history. -/
def ListedIn (h : List (Move σ)) (a : Accessor) (f : FlightId) : Prop :=
  ∃ m ∈ h, m.before.Lists a f ∨ m.after.Lists a f

theorem ListedIn.mono {h h' : List (Move σ)} {a : Accessor} {f : FlightId} (hl : ListedIn h a f)
    (hsub : h ⊆ h') : ListedIn h' a f := by
  obtain ⟨m, hm, hl⟩ := hl
  exact ⟨m, hsub hm, hl⟩

/-- A request of the thread on top of the stack ends with the outcome of a flight. -/
def Draws (t : ThreadId) (a : Accessor) (B : List (Frame σ)) (h : List (Move σ)) (o : Outcome)
    (f : FlightId) : Prop :=
  ∃ m ∈ h, m.thread = t ∧
    (∃ p, m.actor? = some ⟨.requesting a p, B⟩ ∧ Request.party? ⟨a, p⟩ = some f) ∧
    m.after.threads[t]? = some ⟨.returning o, B⟩

/-- A request of the thread on top of the stack ends with a panic of its own observer. -/
def Upset (t : ThreadId) (a : Accessor) (B : List (Frame σ)) (h : List (Move σ)) (o : Outcome) :
    Prop :=
  ∃ m ∈ h, m.thread = t ∧ ∃ p next, o = .panicked p ∧
    m.actor? = some ⟨.returning (.panicked p), .observation a next :: B⟩ ∧
    m.after.threads[t]? = some ⟨.returning o, B⟩

namespace World

/-- A call of the accessor by the thread: it started in the world `v` and has now, in the world `w`,
an outcome for its caller. -/
structure CallSpan (P : Program σ) (t : ThreadId) (a : Accessor) (next : Outcome → Code σ)
    (S : List (Frame σ)) (v : World σ) (h : List (Move σ)) (w : World σ) (o : Outcome) : Prop where
  run : Run P v h w
  called : v.threads[t]? = some ⟨.requesting a .check, a.frames next S⟩
  ended : w.threads[t]? = some ⟨.returning o, .caller a next :: S⟩
  going : ∀ m ∈ h, ∀ o', m.before.threads[t]? ≠ some ⟨.returning o', .caller a next :: S⟩

/-- Where the outcome of a call comes from: the store, a flight or the call's own observer. -/
inductive Source (t : ThreadId) (a : Accessor) (B : List (Frame σ)) (h : List (Move σ))
    (w : World σ) : Outcome → Prop
  | stored {x} (hx : w.stored? a.registry a.slot = some x) :
      Source t a B h w (.returned (a.slot.type.unbox x) none)
  | flight {o f} (hd : Draws t a B h o f) : Source t a B h w o
  | observer {o} (hu : Upset t a B h o) : Source t a B h w o

/-- Where a call stands: one of its requests is under way, asking itself or with its constructor or
its observer on top, or the request has an outcome, or the call has. -/
inductive CallStage (t : ThreadId) (a : Accessor) (next : Outcome → Code σ) (S : List (Frame σ))
    (h : List (Move σ)) (w : World σ) : Thread σ → Prop
  | asking {p} : CallStage t a next S h w ⟨.requesting a p, a.frames next S⟩
  | inside {th fr q} (hfr : fr.request? = some q) (hq : q.accessor = a)
      (hS : fr :: a.frames next S <:+ th.stack) : CallStage t a next S h w th
  | closed {o} (hsrc : Source t a (a.frames next S) h w o) :
      CallStage t a next S h w ⟨.returning o, a.frames next S⟩
  | ended {o} (hsrc : Source t a (a.frames next S) h w o) :
      CallStage t a next S h w ⟨.returning o, .caller a next :: S⟩

end World

/-! ### The flights of a request were listed -/

theorem getElem?_reverse_cons {α : Type} (x : α) (l : List α) (k : Nat) :
    (x :: l).reverse[k]? = if k = l.length then some x else l.reverse[k]? := by
  rw [List.reverse_cons]
  by_cases hk : k = l.length
  · simp [hk]
  · rw [if_neg hk, List.getElem?_append]
    split
    · rfl
    · rename_i hlt
      rw [List.length_reverse] at hlt
      rw [List.getElem?_eq_none (by simp; omega), List.getElem?_eq_none (by simp; omega)]

theorem Request.party?_of_flight? {q : Request} {f : FlightId} (h : q.flight? = some f) :
    q.party? = some f := by
  obtain ⟨a, p⟩ := q
  cases p with
  | wait | settle => cases h
  | _ => exact h

namespace World

variable {P : Program σ} {t u : ThreadId} {v w w' : World σ} {th th' : Thread σ} {a : Accessor}
  {f : FlightId} {h : List (Move σ)} {k : Nat}

/-- An advance brings a request to a flight only where the flight is listed. -/
theorem Advance.party {i : Option Incident} {p p' : Phase} (hadv : Advance w a i p p')
    (hs : w.Sound t ⟨a, p⟩) (hf : Request.party? ⟨a, p'⟩ = some f) :
    Request.party? ⟨a, p⟩ = some f ∨ w.Lists a f := by
  cases hadv with
  | hit | miss => cases hf
  | @join id g hg =>
      obtain rfl := Option.some.inj hf
      exact Or.inr ⟨id, hs, hg⟩
  | release | find | clear | spill => exact Or.inl hf
  | @conclude g o =>
      left
      obtain ⟨x, -, hk⟩ | ⟨l, -, -, hk⟩ := o.conclude_core a.slot g
      · rw [hk] at hf
        exact hf
      · rw [hk] at hf
        exact hf
  | crash hp =>
      obtain rfl := Option.some.inj hf
      exact Or.inl (Request.party?_of_flight? hp)

/-- A step brings a request to a flight only where the flight is listed. -/
theorem Shift.party {i : Option Incident} {R R' : List Request} {q' : Request}
    (hsh : Shift t w w' i R R') (hsound : ∀ q ∈ R, w.Sound t q) (hq' : R'.reverse[k]? = some q')
    (hf : q'.party? = some f) :
    (∃ q, R.reverse[k]? = some q ∧ q.accessor = q'.accessor ∧ q.party? = some f) ∨
      w.Lists q'.accessor f ∨ w'.Lists q'.accessor f := by
  -- Where only the innermost request moves to another phase, the others are as before.
  have head {a : Accessor} {p p' : Phase} {R : List Request}
      (hq' : (⟨a, p'⟩ :: R : List Request).reverse[k]? = some q')
      (hmove : Request.party? ⟨a, p'⟩ = some f →
        Request.party? ⟨a, p⟩ = some f ∨ w.Lists a f ∨ w'.Lists a f) :
      (∃ q, (⟨a, p⟩ :: R : List Request).reverse[k]? = some q ∧ q.accessor = q'.accessor ∧
        q.party? = some f) ∨ w.Lists q'.accessor f ∨ w'.Lists q'.accessor f := by
    rw [getElem?_reverse_cons] at hq'
    rw [getElem?_reverse_cons]
    by_cases hk : k = R.length
    · rw [if_pos hk] at hq' ⊢
      obtain rfl := Option.some.inj hq'
      rcases hmove hf with hp | hl
      · exact Or.inl ⟨⟨a, p⟩, rfl, rfl, hp⟩
      · exact Or.inr hl
    · rw [if_neg hk] at hq' ⊢
      exact Or.inl ⟨q', hq', rfl, hf⟩
  cases hsh with
  | idle ha => exact Or.inl ⟨q', hq', rfl, hf⟩
  | opens ha =>
      rw [getElem?_reverse_cons] at hq'
      split at hq'
      · obtain rfl := Option.some.inj hq'
        cases hf
      · exact Or.inl ⟨q', hq', rfl, hf⟩
  | closes ha hp =>
      obtain ⟨hlt, -⟩ := List.getElem?_eq_some_iff.mp hq'
      rw [List.length_reverse] at hlt
      exact Or.inl ⟨q', by rw [getElem?_reverse_cons, if_neg (by omega), hq'], rfl, hf⟩
  | advance ha hadv =>
      apply head hq'
      intro hp
      rcases hadv.party (hsound _ (List.mem_cons_self ..)) hp with hp | hl
      · exact Or.inl hp
      · exact Or.inr (Or.inl hl)
  | identify => exact head hq' (fun hp => by cases hp)
  | @takeOff a id R hs hid hn hi hfl =>
      apply head hq'
      intro hp
      obtain rfl := Option.some.inj hp
      have hsome : w.id? a.registry a.slot = some id := hsound _ (List.mem_cons_self ..)
      exact Or.inr (Or.inr ⟨id, (hid _ _).trans hsome, by simp [hi]⟩)
  | keep | land => exact head hq' Or.inl

/-- The flight in which a request takes part was listed in the history. -/
def PartyListed (t : ThreadId) (k : Nat) (h : List (Move σ)) (w : World σ) : Prop :=
  ∀ th q f, w.threads[t]? = some th → th.requestAt? k = some q → q.party? = some f →
    ListedIn h q.accessor f

theorem PartyListed.step (hp : PartyListed t k h w) (c : w.Consistent)
    (hs : w.step P u = some w') : PartyListed t k (h ++ [⟨u, w, w'⟩]) w' := by
  obtain ⟨th, th', R, R', ht, hth, rfl, rfl, i, -, hsh⟩ := step_shift hs
  intro x q f hx hq hf
  obtain ⟨rfl, rfl⟩ | ⟨-, hx⟩ := threads_cases hth hx
  · rcases hsh.party (fun q hq => c.sound ht hq) hq hf with ⟨q₀, hq₀, ha, hf₀⟩ | hl
    · exact ha ▸ (hp th q₀ f ht hq₀ hf₀).mono (List.subset_append_left ..)
    · exact ⟨_, List.mem_append_right _ (List.mem_singleton_self _), hl⟩
  · exact (hp x q f hx hq hf).mono (List.subset_append_left ..)

/-! ### Where the outcome of a call comes from -/

variable {next : Outcome → Code σ} {B S : List (Frame σ)} {o : Outcome}

theorem Source.step (hsrc : Source t a B h w o) (c : w.Consistent) (hs : w.step P u = some w') :
    Source t a B (h ++ [⟨u, w, w'⟩]) w' o := by
  cases hsrc with
  | stored hx => exact .stored (c.stored?_step hs hx)
  | flight hd =>
      obtain ⟨m, hm, hd⟩ := hd
      exact .flight ⟨m, List.mem_append_left _ hm, hd⟩
  | observer hu =>
      obtain ⟨m, hm, hu⟩ := hu
      exact .observer ⟨m, List.mem_append_left _ hm, hu⟩

/-- A call stays where it is while other threads make steps. -/
theorem CallStage.step_other (hst : CallStage t a next S h w th) (c : w.Consistent)
    (hs : w.step P u = some w') : CallStage t a next S (h ++ [⟨u, w, w'⟩]) w' th := by
  cases hst with
  | asking => exact .asking
  | inside hfr hq hS => exact .inside hfr hq hS
  | closed hsrc => exact .closed (hsrc.step c hs)
  | ended hsrc => exact .ended (hsrc.step c hs)

/-- The request of a call goes on, or it has its outcome from the store or from a flight. -/
theorem Turn.stage_of_asking {p : Phase}
    (turn : Turn P t w w' ⟨.requesting a p, a.frames next S⟩ th') (hw : w.Valid)
    (ht : w.threads[t]? = some ⟨.requesting a p, a.frames next S⟩)
    (ht' : w'.threads[t]? = some th') (hreg : w.IsSetUp a.registry) :
    CallStage t a next S (h ++ [⟨t, w, w'⟩]) w' th' := by
  obtain ⟨reg, hr, hb⟩ := hreg
  have hlast : (⟨t, w, w'⟩ : Move σ) ∈ h ++ [⟨t, w, w'⟩] := by simp
  cases turn with
  | lost hq hn => cases hn.symm.trans hr
  | refuse hr' hi =>
      obtain ⟨hb', -⟩ := Registry.identify_error hi
      obtain rfl := Option.some.inj (hr.symm.trans hr')
      simp [hb] at hb'
  | share hq hl => exact .closed (.flight ⟨_, hlast, rfl, ⟨_, ht, rfl⟩, ht'⟩)
  | settle hq => exact .closed (.flight ⟨_, hlast, rfl, ⟨_, ht, rfl⟩, ht'⟩)
  | @finish _ _ o hq =>
      obtain ⟨x, hx, ho⟩ : ∃ x, w.stored? a.registry a.slot = some x ∧
          o = .returned (a.slot.type.unbox x) none :=
        hw.consistent.sound ht (q := ⟨a, .finish o⟩) (List.mem_cons_self ..)
      subst ho
      exact .closed (.stored ((hq.agree.stored _ _).trans hx))
  | build => exact .inside rfl rfl (List.suffix_refl _)
  | announce => exact .inside rfl rfl (List.suffix_refl _)
  | hit | miss | identify | join | takeOff | release | find | clear | keep | spill | land | skip =>
      exact .asking

/-- The constructor or observer of a call hands its outcome to the request, which goes on unless
the observer panicked. -/
theorem Turn.stage_of_inside {fr : Frame σ} {q : Request} (hfr : fr.request? = some q)
    (turn : Turn P t w w' ⟨.returning o, fr :: q.accessor.frames next S⟩ th')
    (ht : w.threads[t]? = some ⟨.returning o, fr :: q.accessor.frames next S⟩)
    (ht' : w'.threads[t]? = some th') :
    CallStage t q.accessor next S (h ++ [⟨t, w, w'⟩]) w' th' := by
  have hlast : (⟨t, w, w'⟩ : Move σ) ∈ h ++ [⟨t, w, w'⟩] := by simp
  cases fr with
  | construction b f =>
      cases hfr
      cases turn with
      | conclude => exact .asking
  | observation b n =>
      cases hfr
      cases turn with
      | observed => exact .asking
      | crash => exact .asking
      | interrupt => exact .closed (.observer ⟨_, hlast, rfl, _, _, rfl, ht, ht'⟩)
  | resume | caller | again => cases hfr

/-- A call goes on from stage to stage until it has ended. -/
theorem CallStage.step_self (hst : CallStage t a next S h w th) (hw : w.Valid)
    (hreg : w.IsSetUp a.registry) (ht : w.threads[t]? = some th)
    (hgoing : ∀ o', th ≠ ⟨.returning o', .caller a next :: S⟩) (hs : w.step P t = some w') :
    ∃ th', w'.threads[t]? = some th' ∧ CallStage t a next S (h ++ [⟨t, w, w'⟩]) w' th' := by
  obtain ⟨th', ht', turn⟩ := turn_of_step ht hs
  refine ⟨th', ht', ?_⟩
  cases hst with
  | asking => exact turn.stage_of_asking hw ht ht' hreg
  | inside hfr hq hS =>
      rcases turn.suffix hS with hS' | ⟨o, rfl⟩
      · exact .inside hfr hq hS'
      · subst hq
        exact turn.stage_of_inside hfr ht ht'
  | @closed o hsrc =>
      have hsrc' := hsrc.step hw.consistent hs
      by_cases hi : a.insistent = true
      · have hB : a.frames next S = .again a :: .caller a next :: S := by
          rw [Accessor.frames, if_pos hi]
        generalize hx : (⟨.returning o, a.frames next S⟩ : Thread σ) = x at turn
        rw [hB] at hx
        cases turn with
        | retry =>
            cases hx
            exact hB ▸ .asking
        | pass =>
            cases hx
            exact .ended hsrc'
        | _ => cases hx
      · have hB : a.frames next S = .caller a next :: S := by
          rw [Accessor.frames, if_neg hi]
        exact (hgoing o (by rw [hB])).elim
  | ended => exact (hgoing _ rfl).elim

namespace CallSpan

variable (call : CallSpan P t a next S v h w o) (hv : v.Valid)
include call hv

/-- The call is at one of its stages after every step. -/
theorem stage (hreg : v.IsSetUp a.registry) :
    ∃ th, w.threads[t]? = some th ∧ CallStage t a next S h w th := by
  have hkeeps := hv.keeps (I := fun h w =>
    (∀ m ∈ h, ∀ o', m.before.threads[t]? ≠ some ⟨.returning o', .caller a next :: S⟩) →
      w.IsSetUp a.registry ∧ ∃ th, w.threads[t]? = some th ∧ CallStage t a next S h w th)
    (fun _ => ⟨hreg, _, call.called, .asking⟩) ?_ call.run
  · exact (hkeeps call.going).2
  · intro h v u w hv ih hs hgoing
    obtain ⟨hreg, th, ht, hst⟩ := ih fun m hm => hgoing m (List.mem_append_left _ hm)
    refine ⟨hreg.step hs, ?_⟩
    by_cases hu : u = t
    · subst hu
      have hlast : (⟨u, v, w⟩ : Move σ) ∈ h ++ [⟨u, v, w⟩] := by simp
      exact hst.step_self hv hreg ht (fun o' he => hgoing _ hlast o' (he ▸ ht)) hs
    · obtain ⟨x, x', hx, hset, -⟩ := step_turn hs
      refine ⟨th, ?_, hst.step_other hv.consistent hs⟩
      rw [getElem?_threads_set hx hset, if_neg (Ne.symm hu), ht]

/-- The outcome of a call has a source. -/
theorem source (hreg : v.IsSetUp a.registry) : Source t a (a.frames next S) h w o := by
  obtain ⟨th, ht, hst⟩ := call.stage hv hreg
  obtain rfl := Option.some.inj (call.ended.symm.trans ht)
  generalize hx : (⟨.returning o, .caller a next :: S⟩ : Thread σ) = x at hst
  cases hst with
  | asking => cases hx
  | inside hfr hq hS =>
      -- The frames of the call alone are as many as those on the stack.
      subst hx
      have hlen := hS.length_le
      have hframes : S.length + 1 ≤ (a.frames next S).length := by
        rw [Accessor.frames]
        split <;> simp
      simp only [List.length_cons] at hlen
      omega
  | closed hsrc =>
      obtain ⟨ho, -⟩ := Thread.mk.inj hx
      rwa [Focus.returning.inj ho]
  | ended hsrc =>
      obtain ⟨ho, -⟩ := Thread.mk.inj hx
      rwa [Focus.returning.inj ho]

/-- A flight from which a call draws was listed during the call, and its landing decided the
outcome. -/
theorem listed_of_draws (hd : Draws t a (a.frames next S) h o f) :
    ListedIn h a f ∧ ∃ l, w.landing? f = some l ∧ o = l.settle a.slot.type := by
  obtain ⟨m, hm, rfl, ⟨p, hactor, hf⟩, hafter⟩ := hd
  obtain ⟨h₁, h₂, rfl, run₁, hstep, run₂⟩ := call.run.split hm
  have hw₁ := hv.run run₁
  have hf' : Request.party? ⟨a, p.core⟩ = some f := by
    cases p with
    | announce event fault n =>
        apply Request.party?_of_flight?
        rw [Request.flight?, Phase.flight?_core]
        exact hf
    | _ => exact hf
  constructor
  · have hlisted := hv.keeps (I := PartyListed m.thread
      ((a.frames next S).filterMap Frame.request?).length) ?_
      (fun hw hp hs => hp.step hw.consistent hs) run₁
    · apply (hlisted _ ⟨a, p.core⟩ f hactor _ hf').mono (List.subset_append_left ..)
      exact (getElem?_reverse_cons _ _ _).trans (if_pos rfl)
    · intro th q g ht hq hg
      obtain rfl := Option.some.inj (call.called.symm.trans ht)
      have hcheck : q = ⟨a, .check⟩ :=
        Option.some.inj (hq.symm.trans ((getElem?_reverse_cons _ _ _).trans (if_pos rfl)))
      subst hcheck
      cases hg
  · obtain ⟨th', ht', turn⟩ := turn_of_step hactor hstep
    obtain rfl := Option.some.inj (hafter.symm.trans ht')
    obtain ⟨-, l, hl, hend⟩ :=
      turn.closes (q := ⟨a, p.core⟩) hw₁ hactor (Or.inl ⟨p, rfl, rfl⟩) hf'
    rcases hend with ho | ⟨x, hth, -⟩
    · exact ⟨l, ((Run.single hstep).append run₂).landing? hw₁.consistent hl, ho⟩
    · cases hth

end CallSpan

/-- A listed flight has not landed. -/
theorem Consistent.not_landed (c : w.Consistent) (hl : w.Lists a f) : w.landing? f = none := by
  obtain ⟨id, -, hin⟩ := hl
  obtain ⟨fl, hfl, -, -, hn⟩ := c.listed hin
  simp [landing?, hfl, hn]

/-- A flight that is listed after a moment had not landed at that moment. -/
theorem Run.not_landed_of_listedIn (run : Run P v h w) (hv : v.Valid) (hl : ListedIn h a f) :
    v.landing? f = none := by
  obtain ⟨m, hm, hl⟩ := hl
  obtain ⟨h₁, h₂, -, run₁, hstep, -⟩ := run.split hm
  have hw₁ := hv.run run₁
  cases hland : v.landing? f with
  | none => rfl
  | some l =>
      have hbefore := run₁.landing? hv.consistent hland
      rcases hl with hl | hl
      · cases hbefore.symm.trans (hw₁.consistent.not_landed hl)
      · have hafter := hw₁.consistent.landing?_step hstep hbefore
        cases hafter.symm.trans ((hw₁.step hstep).consistent.not_landed hl)

/-- Failures are never served stale. A flight from which a call draws its outcome was listed at some
moment of the call, and its landing is the outcome; a call that fails draws from a flight or has a
panic of its own observer. A call that starts after another has ended draws only from flights that
had not landed when the other ended, so from none of those that the other drew from; it ends with
the stored instance, with the outcome of such a flight, or with a panic of its own observer. -/
theorem Run.no_stale_failure {P : Program σ} {w₀ v w : World σ} {h₀ h : List (Move σ)}
    (run : Run P w₀ h₀ v) (fresh : w₀.Fresh) {t : ThreadId} {a : Accessor}
    {next : Outcome → Code σ} {S : List (Frame σ)} {o : Outcome}
    (call : CallSpan P t a next S v h w o) (hreg : v.IsSetUp a.registry) :
    (∀ f, Draws t a (a.frames next S) h o f →
      ListedIn h a f ∧ ∃ l, w.landing? f = some l ∧ o = l.settle a.slot.type) ∧
    ((∀ x, o ≠ .returned x none) →
      (∃ f, Draws t a (a.frames next S) h o f) ∨ Upset t a (a.frames next S) h o) ∧
    ∀ (h' : List (Move σ)) (v' : World σ) (t' : ThreadId) (a' : Accessor)
      (next' : Outcome → Code σ) (S' : List (Frame σ)) (h'' : List (Move σ)) (w' : World σ)
      (o' : Outcome), Run P w h' v' → CallSpan P t' a' next' S' v' h'' w' o' →
      a'.registry = a.registry →
      (∀ f', Draws t' a' (a'.frames next' S') h'' o' f' →
        ListedIn h'' a' f' ∧ w.landing? f' = none ∧
          ∀ f, Draws t a (a.frames next S) h o f → f' ≠ f) ∧
      ((∃ x, w'.stored? a'.registry a'.slot = some x ∧
          o' = .returned (a'.slot.type.unbox x) none) ∨
        (∃ f', Draws t' a' (a'.frames next' S') h'' o' f') ∨
        Upset t' a' (a'.frames next' S') h'' o') := by
  have hv := run.valid fresh
  have hw := hv.run call.run
  refine ⟨fun f hd => call.listed_of_draws hv hd, ?_, ?_⟩
  · intro hfail
    cases call.source hv hreg with
    | stored hx => exact (hfail _ rfl).elim
    | flight hd => exact Or.inl ⟨_, hd⟩
    | observer hu => exact Or.inr hu
  · intro h' v' t' a' next' S' h'' w' o' run' call' hr
    have hv' := hw.run run'
    have hreg' : v'.IsSetUp a'.registry :=
      hr ▸ (call.run.append run').preserves (I := fun w => w.IsSetUp a.registry)
        (fun hset hs => hset.step hs) hreg
    constructor
    · intro f' hd'
      obtain ⟨hlisted, -⟩ := call'.listed_of_draws hv' hd'
      have hnot : w.landing? f' = none :=
        (run'.append call'.run).not_landed_of_listedIn hw
          (hlisted.mono (List.subset_append_right ..))
      refine ⟨hlisted, hnot, ?_⟩
      rintro f hd rfl
      obtain ⟨-, l, hl, -⟩ := call.listed_of_draws hv hd
      cases hnot.symm.trans hl
    · cases call'.source hv' hreg' with
      | stored hx => exact Or.inl ⟨_, hx, rfl⟩
      | flight hd => exact Or.inr (Or.inl ⟨_, hd⟩)
      | observer hu => exact Or.inr (Or.inr hu)

end World

/-! ### Two calls, one after the other -/

namespace Sample

/-- The first thread has called. -/
def asked : World Unit := world.run (program boom) [0]

/-- The call of the first thread has an outcome. -/
def denied : World Unit := asked.run (program boom) (List.replicate 11 0)

/-- Then the second thread has called. -/
def askedAgain : World Unit := denied.run (program boom) [1]

/-- The call of the second thread has an outcome. -/
def deniedAgain : World Unit := askedAgain.run (program boom) (List.replicate 11 1)

/-- The steps of the first call. -/
def firstDenial : List (Move Unit) := asked.history (program boom) (List.replicate 11 0)

/-- The steps of the second call. -/
def secondDenial : List (Move Unit) := askedAgain.history (program boom) (List.replicate 11 1)

/-- A schedule from the start of a call to its end, at which no more than its caller is left. -/
theorem callSpan_of_schedule {v : World Unit} {schedule : List ThreadId} {t : ThreadId}
    {next : Outcome → Code Unit} {o : Outcome}
    (hcalled : v.threads[t]? = some ⟨.requesting accessor .check, accessor.frames next []⟩)
    (hended : (v.run (program boom) schedule).threads[t]? =
      some ⟨.returning o, [.caller accessor next]⟩)
    (hopen : ∀ m ∈ v.history (program boom) schedule, m.before.threads[t]?.any isOver = false) :
    World.CallSpan (program boom) t accessor next [] v (v.history (program boom) schedule)
      (v.run (program boom) schedule) o :=
  ⟨World.run_of_schedule _ _ _, hcalled, hended, going_of_isOver hopen⟩

end Sample

/-- Of two calls whose constructors panic, the second draws from a flight of its own, which had not
landed when the first call ended. -/
theorem World.Run.no_stale_failure_boom :
    ∃ next, CallSpan (Sample.program Sample.boom) 0 Sample.accessor next [] Sample.asked
        Sample.firstDenial Sample.denied (.panicked (.text "boom")) ∧
      CallSpan (Sample.program Sample.boom) 1 Sample.accessor next [] Sample.askedAgain
        Sample.secondDenial Sample.deniedAgain (.panicked (.text "boom")) ∧
      ListedIn Sample.firstDenial Sample.accessor 0 ∧
      ListedIn Sample.secondDenial Sample.accessor 1 ∧ Sample.denied.landing? 1 = none := by
  let landed (f : FlightId) : Phase := .settle f (.fault (.constructorPanic (.text "boom")))
  obtain ⟨next, m, m', hcalled, hended, hm, hactor, hcalled', hended', hm', hactor'⟩ :
      ∃ next m m',
        Sample.asked.threads[0]? =
          some ⟨.requesting Sample.accessor .check, Sample.accessor.frames next []⟩ ∧
        Sample.denied.threads[0]? =
          some ⟨.returning (.panicked (.text "boom")), [.caller Sample.accessor next]⟩ ∧
        Sample.firstDenial[10]? = some m ∧
        (m.thread = 0 ∧ m.after = Sample.denied ∧ m.actor? =
          some ⟨.requesting Sample.accessor (landed 0), Sample.accessor.frames next []⟩) ∧
        Sample.askedAgain.threads[1]? =
          some ⟨.requesting Sample.accessor .check, Sample.accessor.frames next []⟩ ∧
        Sample.deniedAgain.threads[1]? =
          some ⟨.returning (.panicked (.text "boom")), [.caller Sample.accessor next]⟩ ∧
        Sample.secondDenial[10]? = some m' ∧
        (m'.thread = 1 ∧ m'.after = Sample.deniedAgain ∧ m'.actor? =
          some ⟨.requesting Sample.accessor (landed 1), Sample.accessor.frames next []⟩) :=
    ⟨_, _, _, rfl, rfl, rfl, ⟨rfl, rfl, rfl⟩, rfl, rfl, rfl, rfl, rfl, rfl⟩
  have hcall := Sample.callSpan_of_schedule hcalled hended (by decide +kernel)
  have hcall' := Sample.callSpan_of_schedule hcalled' hended' (by decide +kernel)
  have hdraws : Draws 0 Sample.accessor (Sample.accessor.frames next []) Sample.firstDenial
      (.panicked (.text "boom")) 0 :=
    ⟨m, List.mem_of_getElem? hm, hactor.1, ⟨_, hactor.2.2, rfl⟩, hactor.2.1 ▸ hended⟩
  have hdraws' : Draws 1 Sample.accessor (Sample.accessor.frames next []) Sample.secondDenial
      (.panicked (.text "boom")) 1 :=
    ⟨m', List.mem_of_getElem? hm', hactor'.1, ⟨_, hactor'.2.2, rfl⟩, hactor'.2.1 ▸ hended'⟩
  obtain ⟨hfirst, -, hlater⟩ := Run.no_stale_failure (World.run_of_schedule _ Sample.world [0])
    Sample.world_fresh hcall ⟨_, rfl, rfl⟩
  obtain ⟨hsecond, -⟩ := hlater _ Sample.askedAgain 1 Sample.accessor next [] _ _ _
    (World.run_of_schedule _ Sample.denied [1]) hcall' rfl
  obtain ⟨hlisted, hnot, -⟩ := hsecond 1 hdraws'
  exact ⟨next, hcall, hcall', (hfirst 0 hdraws).1, hlisted, hnot⟩

end InstanceRegistry
