import InstanceRegistry.Proofs.Recovery

/-!
# From the start of a request to its end

A request starts on top of the stack of its thread, and it is over when the thread has an
outcome for that stack. Between the two the request makes steps of its own, or its constructor
or its observer runs on top of it. All other moves pass it by: those of other threads, and
those of code further up. So what is known of a request by its place has to be shown only
where the request makes a step and where it gets an outcome back: `Tracked` collects these, and
`RequestSpan.induct` puts them together for a whole run.

## Implementation notes

A steadfast accessor makes one request after the other in the same call. Each of them has a
span of its own, and so has the only request of any other call.
-/

namespace InstanceRegistry

variable {σ : Type}

/-- The place of a request in its thread: it makes steps in some phase, its constructor runs, its
observer runs before some phase, or the request has its outcome. -/
inductive Place
  | asking (p : Phase)
  | making (f : FlightId)
  | telling (next : Phase)
  | closed (o : Outcome)

/-- The request of the accessor on top of the stack is at the place in the thread. -/
def Thread.Stands (th : Thread σ) (a : Accessor) (B : List (Frame σ)) : Place → Prop
  | .asking p => th = ⟨.requesting a p, B⟩
  | .making f => .construction a f :: B <:+ th.stack
  | .telling next => .observation a next :: B <:+ th.stack
  | .closed o => th = ⟨.returning o, B⟩

/-- A request whose outcome is handed to the stack that it runs on is closed. -/
theorem Thread.Stands.eq_closed {a : Accessor} {B : List (Frame σ)} {o : Outcome} {pl : Place}
    (h : (⟨.returning o, B⟩ : Thread σ).Stands a B pl) : pl = .closed o := by
  cases pl with
  | asking p => cases h
  | making f | telling next =>
      -- A frame above the request would make the stack longer than it is.
      exact (Nat.not_succ_le_self _ (List.IsSuffix.length_le h)).elim
  | closed o' =>
      obtain ⟨ho, -⟩ := Thread.mk.inj h
      rw [Focus.returning.inj ho]

/-- The move passes by the request of the thread on top of the stack: another thread makes it, or
code above the frame that the request left. -/
def Move.Passes (m : Move σ) (t : ThreadId) (B : List (Frame σ)) : Prop :=
  m.thread = t →
    ∃ th fr, m.actor? = some th ∧ fr :: B <:+ th.stack ∧ ∀ o, th ≠ ⟨.returning o, fr :: B⟩

namespace World

/-- A request of the accessor by the thread on top of the stack: it started in the world `v` and has
now, in the world `w`, an outcome. -/
structure RequestSpan (P : Program σ) (t : ThreadId) (a : Accessor) (B : List (Frame σ))
    (v : World σ) (h : List (Move σ)) (w : World σ) (o : Outcome) : Prop where
  run : Run P v h w
  asked : v.threads[t]? = some ⟨.requesting a .check, B⟩
  ended : w.threads[t]? = some ⟨.returning o, B⟩
  going : ∀ m ∈ h, ∀ o', m.before.threads[t]? ≠ some ⟨.returning o', B⟩

variable {P : Program σ} {t : ThreadId} {a : Accessor} {B : List (Frame σ)} {v w : World σ}
  {h : List (Move σ)} {o : Outcome}

/-- What lies on a stack with a request below it stays there until the request gets an outcome. -/
theorem Turn.passes {w' : World σ} {th th' : Thread σ} {fr : Frame σ}
    (turn : Turn P t w w' th th') (ht : w.threads[t]? = some th) (hS : fr :: B <:+ th.stack) :
    fr :: B <:+ th'.stack ∧ (⟨t, w, w'⟩ : Move σ).Passes t B ∨
      ∃ x, th = ⟨.returning x, fr :: B⟩ := by
  by_cases hret : ∃ x, th = ⟨.returning x, fr :: B⟩
  · exact Or.inr hret
  · rcases turn.suffix hS with hS' | hret'
    · exact Or.inl ⟨hS', fun _ => ⟨th, fr, ht, hS, fun x hx => hret ⟨x, hx⟩⟩⟩
    · exact Or.inr hret'

/-- A step of a request leads to a place of the request. -/
theorem Turn.stands {w' : World σ} {p : Phase} {th' : Thread σ}
    (turn : Turn P t w w' ⟨.requesting a p, B⟩ th') : ∃ pl, th'.Stands a B pl := by
  cases turn with
  | build => exact ⟨.making _, List.suffix_refl _⟩
  | announce => exact ⟨.telling _, List.suffix_refl _⟩
  | lost | refuse | share | settle | finish => exact ⟨.closed _, rfl⟩
  | hit | miss | identify | join | takeOff | release | find | clear | keep | spill | land | skip =>
      exact ⟨.asking _, rfl⟩

/-- So does the outcome of its observer. -/
theorem Turn.stands_of_observation {w' : World σ} {next : Phase} {x : Outcome} {th' : Thread σ}
    (turn : Turn P t w w' ⟨.returning x, .observation a next :: B⟩ th') :
    ∃ pl, th'.Stands a B pl := by
  cases turn with
  | observed | crash => exact ⟨.asking _, rfl⟩
  | interrupt => exact ⟨.closed _, rfl⟩

/-- What is known of a request by its place is kept by the moves of the history: by those that pass
the request by, by its own steps, and where its constructor or its observer hands it an outcome. -/
structure Tracked (P : Program σ) (t : ThreadId) (a : Accessor) (B : List (Frame σ))
    (h : List (Move σ)) (K : List (Move σ) → World σ → Place → Prop) : Prop where
  pass : ∀ {g w w' u pl}, (⟨u, w, w'⟩ : Move σ) ∈ h → w.Valid → K g w pl →
    w.step P u = some w' → (⟨u, w, w'⟩ : Move σ).Passes t B → K (g ++ [⟨u, w, w'⟩]) w' pl
  ask : ∀ {g w w' p th'}, (⟨t, w, w'⟩ : Move σ) ∈ h → w.Valid → K g w (.asking p) →
    w.step P t = some w' → w.threads[t]? = some ⟨.requesting a p, B⟩ →
    w'.threads[t]? = some th' → Turn P t w w' ⟨.requesting a p, B⟩ th' →
    ∃ pl, th'.Stands a B pl ∧ K (g ++ [⟨t, w, w'⟩]) w' pl
  made : ∀ {g w w' f x}, (⟨t, w, w'⟩ : Move σ) ∈ h → w.Valid → K g w (.making f) →
    w.step P t = some w' → w.threads[t]? = some ⟨.returning x, .construction a f :: B⟩ →
    K (g ++ [⟨t, w, w'⟩]) w' (.asking (x.conclude a.slot f))
  told : ∀ {g w w' next x th'}, (⟨t, w, w'⟩ : Move σ) ∈ h → w.Valid → K g w (.telling next) →
    w.step P t = some w' → w.threads[t]? = some ⟨.returning x, .observation a next :: B⟩ →
    w'.threads[t]? = some th' → Turn P t w w' ⟨.returning x, .observation a next :: B⟩ th' →
    ∃ pl, th'.Stands a B pl ∧ K (g ++ [⟨t, w, w'⟩]) w' pl

/-- A move leads a request from place to place, unless its thread is at its end. -/
theorem Tracked.step {K : List (Move σ) → World σ → Place → Prop} (hK : Tracked P t a B h K)
    {g : List (Move σ)} {w' : World σ} {u : ThreadId} {th : Thread σ} {pl : Place}
    (hm : (⟨u, w, w'⟩ : Move σ) ∈ h) (hw : w.Valid) (hs : w.step P u = some w')
    (ht : w.threads[t]? = some th) (hst : th.Stands a B pl) (hk : K g w pl)
    (hopen : u = t → ∀ o, th ≠ ⟨.returning o, B⟩) :
    ∃ th' pl', w'.threads[t]? = some th' ∧ th'.Stands a B pl' ∧ K (g ++ [⟨u, w, w'⟩]) w' pl' := by
  by_cases hu : u = t
  · subst hu
    obtain ⟨th', ht', turn⟩ := turn_of_step ht hs
    cases pl with
    | asking p =>
        subst hst
        obtain ⟨pl, hst', hk'⟩ := hK.ask hm hw hk hs ht ht' turn
        exact ⟨th', pl, ht', hst', hk'⟩
    | making f =>
        rcases turn.passes ht hst with ⟨hst', hp⟩ | ⟨x, rfl⟩
        · exact ⟨th', .making f, ht', hst', hK.pass hm hw hk hs hp⟩
        · cases turn with
          | conclude => exact ⟨_, .asking _, ht', rfl, hK.made hm hw hk hs ht⟩
    | telling next =>
        rcases turn.passes ht hst with ⟨hst', hp⟩ | ⟨x, rfl⟩
        · exact ⟨th', .telling next, ht', hst', hK.pass hm hw hk hs hp⟩
        · obtain ⟨pl, hst', hk'⟩ := hK.told hm hw hk hs ht ht' turn
          exact ⟨th', pl, ht', hst', hk'⟩
    | closed o => exact (hopen rfl o hst).elim
  · obtain ⟨x, x', hx, hset, -⟩ := step_turn hs
    refine ⟨th, pl, ?_, hst, hK.pass hm hw hk hs fun hut => (hu hut).elim⟩
    rw [getElem?_threads_set hx hset, if_neg (Ne.symm hu), ht]

/-- What holds of a request at its start, and is tracked through its span, holds of its outcome. -/
theorem RequestSpan.induct {K : List (Move σ) → World σ → Place → Prop}
    (span : RequestSpan P t a B v h w o) (hv : v.Valid) (hstart : K [] v (.asking .check))
    (hK : Tracked P t a B h K) : K h w (.closed o) := by
  have hkeeps := hv.keeps (I := fun g w => (∀ m ∈ g, m ∈ h) →
    ∃ th pl, w.threads[t]? = some th ∧ th.Stands a B pl ∧ K g w pl)
    (fun _ => ⟨_, .asking .check, span.asked, rfl, hstart⟩) ?_ span.run
  · obtain ⟨th, pl, ht, hst, hk⟩ := hkeeps fun m hm => hm
    obtain rfl := Option.some.inj (span.ended.symm.trans ht)
    exact hst.eq_closed ▸ hk
  · intro g v u w hv ih hs hsub
    have hm : (⟨u, v, w⟩ : Move σ) ∈ h := hsub _ (by simp)
    obtain ⟨th, pl, ht, hst, hk⟩ := ih fun m hm => hsub m (List.mem_append_left _ hm)
    exact hK.step hm hv hs ht hst hk fun _ o' hth => span.going _ hm o' (hth ▸ ht)

end World

end InstanceRegistry
