import InstanceRegistry.Proofs.Agreement

/-!
# Deadlock freedom

Constructors may call accessors, so a thread can be inside of several flights at once
and wait for the flight of another thread on top of them. If the slots are ranked and
every constructor calls only accessors of a smaller rank than its own, the ranks grow
from the innermost call of a thread outwards. A thread that waits for a flight waits
for a leader that has a call of the same rank; if that leader waits as well, it waits
in a call of a smaller rank. So the chain of those who wait ends with a thread that has
a step.
-/

namespace InstanceRegistry

variable {σ : Type}

/-- The accessor that code called. -/
def Frame.caller? : Frame σ → Option Accessor
  | .caller a _ => some a
  | _ => none

/-- The accessors whose calls are unfinished, the innermost first. -/
def Thread.calls (th : Thread σ) : List Accessor :=
  th.stack.filterMap Frame.caller?

/-- The constructor or the observer whose code runs on top of the stack. -/
def activity? (S : List (Frame σ)) : Option (Frame σ) :=
  S.find? fun fr => fr.request?.isSome

/-- A constructor may call accessors of a smaller rank than its own, an observer none. -/
def Frame.admits (rank : RegistryId → Slot → Nat) (a : Accessor) : Frame σ → Bool
  | .construction b _ => rank a.registry a.slot < rank b.registry b.slot
  | _ => false

/-- If the move is a call, the constructor or the observer that makes it may make it. -/
def Move.descends (rank : RegistryId → Slot → Nat) (m : Move σ) : Bool :=
  match m.actor? with
  | some ⟨.running (.call a _), S⟩ => (activity? S).all fun fr => fr.admits rank a
  | _ => true

/-- No constructor and no observer stands before a closed gate. -/
def World.Unblocked (P : Program σ) (w : World σ) : Prop :=
  ∀ (t : ThreadId) (th : Thread σ) (g : Gate), w.threads[t]? = some th → th.gate? = some g →
    activity? th.stack ≠ none → P.isOpen g w.state = true

namespace Stacked

variable {S : List (Frame σ)} {x : Option Accessor} {a : Accessor}

/-- Where an outcome is asked for, the innermost call asks for it. -/
theorem exists_calls (h : Stacked (some a) S) : ∃ rest, S.filterMap Frame.caller? = a :: rest := by
  cases h with
  | caller | again => exact ⟨_, rfl⟩

/-- The requests of a stack belong to calls on the stack, and to outer ones where an outcome is
asked for. -/
theorem mem_calls (h : Stacked x S) {q : Request} (hq : q ∈ S.filterMap Frame.request?) :
    q.accessor ∈ (S.filterMap Frame.caller?).drop (if x.isSome then 1 else 0) := by
  induction h with
  | bottom => cases hq
  | resume h ih | caller h ih | again hi h ih => exact ih hq
  | construction h ih | observation hn h ih =>
      obtain ⟨rest, hrest⟩ := h.exists_calls
      rcases List.mem_cons.mp hq with rfl | hq
      · exact hrest ▸ List.mem_cons_self ..
      · exact List.mem_of_mem_drop (ih hq)

/-- Code on a stack runs outside of all calls, or in the constructor or the observer of the
innermost one. -/
theorem activity_cases (h : Stacked x S) (hx : x = none) :
    S.filterMap Frame.caller? = [] ∨ ∃ fr q rest, activity? S = some fr ∧
      fr.request? = some q ∧ S.filterMap Frame.caller? = q.accessor :: rest := by
  induction h with
  | bottom => exact Or.inl rfl
  | resume h ih => exact ih rfl
  | construction h | observation hn h =>
      obtain ⟨rest, hrest⟩ := h.exists_calls
      exact Or.inr ⟨_, _, rest, rfl, rfl, hrest⟩
  | caller | again => cases hx

end Stacked

/-- A request of a thread belongs to one of its calls. -/
theorem Thread.Proper.mem_calls {th : Thread σ} (hp : th.Proper) {q : Request}
    (hq : q ∈ th.requests) : q.accessor ∈ th.calls := by
  cases hp with
  | running h | returning h => exact List.mem_of_mem_drop (h.mem_calls hq)
  | requesting hp h =>
      rcases List.mem_cons.mp hq with rfl | hq
      · obtain ⟨rest, hrest⟩ := h.exists_calls
        rw [Thread.calls, hrest]
        exact List.mem_cons_self ..
      · exact List.mem_of_mem_drop (h.mem_calls hq)

namespace World

variable {P : Program σ} {t : ThreadId} {w w' : World σ} {th th' : Thread σ} {f : FlightId}
  {rank : RegistryId → Slot → Nat}

/-- The calls of a thread change only when code calls an accessor and when a call ends. -/
theorem Turn.calls (turn : Turn P t w w' th th') :
    th'.calls = th.calls ∨ (∃ a, th.calls = a :: th'.calls) ∨
      ∃ a next S, th = ⟨.running (.call a next), S⟩ ∧ th'.calls = a :: th.calls := by
  cases turn with
  | call =>
      refine Or.inr (Or.inr ⟨_, _, _, rfl, ?_⟩)
      dsimp only [Thread.calls]
      split <;> rfl
  | answer => exact Or.inr (Or.inl ⟨_, rfl⟩)
  | _ => exact Or.inl rfl

/-- The ranks of the calls of a thread grow from the innermost call outwards. -/
def Descending (rank : RegistryId → Slot → Nat) (w : World σ) : Prop :=
  ∀ (t : ThreadId) (th : Thread σ), w.threads[t]? = some th →
    th.calls.Pairwise fun a b => rank a.registry a.slot < rank b.registry b.slot

/-- A step keeps the calls ranked if it is not a call against the ranks. -/
theorem Descending.step (hd : w.Descending rank) (hp : w.Proper) (hs : w.step P t = some w')
    (hm : (⟨t, w, w'⟩ : Move σ).descends rank = true) : w'.Descending rank := by
  obtain ⟨th, th', ht, hset, turn⟩ := step_turn hs
  intro u x hx
  obtain ⟨rfl, rfl⟩ | ⟨-, hx⟩ := threads_cases (getElem?_threads_set ht hset) hx
  · have hcalls := hd u th ht
    rcases turn.calls with heq | ⟨a, heq⟩ | ⟨a, next, S, rfl, heq⟩
    · rwa [heq]
    · rw [heq] at hcalls
      exact hcalls.of_cons
    · rw [heq]
      refine List.pairwise_cons.mpr ⟨fun c hc => ?_, hcalls⟩
      rw [Move.descends, Move.actor?, ht] at hm
      cases hp _ _ ht with
      | running h =>
          rcases h.activity_cases rfl with hnil | ⟨fr, q, rest, hact, hq, hrest⟩
          · rw [Thread.calls, hnil] at hc
            cases hc
          · rw [Thread.calls, hrest] at hc hcalls
            simp only [hact, Option.all_some] at hm
            cases fr with
            | construction b f =>
                obtain rfl := Option.some.inj hq
                have hlt : rank a.registry a.slot < rank b.registry b.slot := by
                  simpa [Frame.admits] using hm
                rcases List.mem_cons.mp hc with rfl | hc
                · exact hlt
                · exact Nat.lt_trans hlt (List.rel_of_pairwise_cons hcalls hc)
            | resume | caller | again | observation => cases hm
  · exact hd u x hx

/-- The calls stay ranked in a run without calls against the ranks. -/
theorem Run.descending {w₀ : World σ} {h : List (Move σ)} (run : Run P w₀ h w) (fresh : w₀.Fresh)
    (hm : ∀ m ∈ h, m.descends rank = true) : w.Descending rank := by
  induction run with
  | start =>
      intro t th ht
      obtain ⟨c, rfl⟩ := fresh.threads th (List.mem_of_getElem? ht)
      exact .nil
  | step run hs ih =>
      exact (ih fun m h => hm m (List.mem_append_left _ h)).step (run.proper fresh) hs
        (hm _ (by simp))

/-- A thread inside of a call that has no step waits for a flight in the air. -/
theorem Valid.waits_of_step_eq_none (hw : w.Valid) (hopen : w.Unblocked P)
    (ht : w.threads[t]? = some th) (hc : th.calls ≠ []) (hs : w.step P t = none) :
    ∃ a f S, th = ⟨.requesting a (.wait f), S⟩ ∧ w.landing? f = none := by
  cases stuck_of_step_eq_none ht hs with
  | through => exact (hc rfl).elim
  | waiting hl => exact ⟨_, _, _, rfl, hl⟩
  | shut hg =>
      cases hw.proper _ _ ht with
      | running h =>
          rcases h.activity_cases rfl with hnil | ⟨fr, q, rest, hact, -⟩
          · exact (hc hnil).elim
          · have hopen := hopen t _ _ ht rfl (by simp [hact])
            simp [hg] at hopen
  | adrift hn =>
      obtain ⟨⟨fl, hfl, -⟩, -⟩ := hw.consistent.sound ht (List.mem_cons_self ..)
      cases hn.symm.trans hfl

/-- The leader of a flight that has not landed is inside of it. -/
theorem Consistent.leader_inside (c : w.Consistent) {fl : Flight} (hfl : w.flights[f]? = some fl)
    (hl : w.landing? f = none) : ∃ x, w.threads[fl.leader]? = some x ∧ f ∈ x.leads := by
  rw [landing?, hfl] at hl
  exact (c.led hfl hl).2

section Waiting

variable {a : Accessor} {S : List (Frame σ)} (hw : w.Valid)
  (ht : w.threads[t]? = some ⟨.requesting a (.wait f), S⟩)
include hw ht

/-- A flight that is waited for in a call is one of the same slot. -/
theorem Valid.flight_of_waits (hfit : w.IdsFit a.registry) :
    ∃ fl, w.flights[f]? = some fl ∧ fl.registry = a.registry ∧ fl.slot = a.slot := by
  have hshares : w.Shares a f :=
    hw.consistent.sound ht (q := ⟨a, .wait f⟩) (List.mem_cons_self ..)
  have ⟨fl, hfl, _⟩ := hshares
  exact ⟨fl, hfl, hw.consistent.shares_slot hw.numbered hfit hshares hfl⟩

/-- The flights that a waiting thread leads belong to outer calls, which have a greater rank. -/
theorem Descending.lt_of_leads (hd : w.Descending rank) {g : FlightId}
    (hg : g ∈ Thread.leads ⟨.requesting a (.wait f), S⟩) {gl : Flight}
    (hgl : w.flights[g]? = some gl) : rank a.registry a.slot < rank gl.registry gl.slot := by
  obtain ⟨q, hq, hqg⟩ := mem_leads.mp hg
  obtain ⟨gl', hgl', -, hr, hs, -⟩ := (hw.consistent.sound ht hq).leads hqg
  obtain rfl := Option.some.inj (hgl.symm.trans hgl')
  rw [hr, hs]
  rcases List.mem_cons.mp hq with rfl | hq
  · cases hqg
  · cases hw.proper _ _ ht with
    | requesting hp h =>
        obtain ⟨rest, hrest⟩ := h.exists_calls
        have hcalls := hd t _ ht
        have hmem := h.mem_calls hq
        rw [Thread.calls, hrest] at hcalls
        rw [hrest] at hmem
        exact List.rel_of_pairwise_cons hcalls hmem

end Waiting

/-- Where a thread waits for a flight in the air, some thread inside of a call has a step. -/
theorem Descending.exists_step (hd : w.Descending rank) (hw : w.Valid) (hopen : w.Unblocked P)
    (hfit : ∀ r, w.IdsFit r) {a : Accessor} {S : List (Frame σ)}
    (ht : w.threads[t]? = some ⟨.requesting a (.wait f), S⟩) (hl : w.landing? f = none) :
    ∃ u x w', w.threads[u]? = some x ∧ x.calls ≠ [] ∧ w.step P u = some w' := by
  -- The induction is on the rank of the call that waits; the leader's is smaller if it waits too.
  induction hn : rank a.registry a.slot using Nat.strongRecOn generalizing t a f S with
  | ind n ih =>
      obtain ⟨fl, hfl, hr, hs⟩ := hw.flight_of_waits ht (hfit _)
      obtain ⟨x, hx, hlead⟩ := hw.consistent.leader_inside hfl hl
      obtain ⟨q, hq, -⟩ := mem_leads.mp hlead
      have hc : x.calls ≠ [] := List.ne_nil_of_mem ((hw.proper _ _ hx).mem_calls hq)
      cases hstep : w.step P fl.leader with
      | some w' => exact ⟨fl.leader, x, w', hx, hc, hstep⟩
      | none =>
          obtain ⟨b, g, S', rfl, hg⟩ := hw.waits_of_step_eq_none hopen hx hc hstep
          have hlt := hd.lt_of_leads hw hx hlead hfl
          rw [hr, hs, hn] at hlt
          exact ih _ hlt hx hg rfl

/-- Ranked slots keep calls from waiting for each other for ever. If no constructor calls an
accessor of the same or a greater rank than its own, if observers call no accessor, and if neither
of them stands before a closed gate, then some thread with an unfinished call has a step whenever
there is an unfinished call. A thread that waits for a flight waits for that of another thread,
which is still inside of the flight until the wait can end.

A registry numbers its slots with words of 64 bits, and no registry has given out all of these
numbers. -/
theorem Run.deadlock_free {w₀ : World σ} {h : List (Move σ)} (run : Run P w₀ h w)
    (fresh : w₀.Fresh) (hm : ∀ m ∈ h, m.descends rank = true) (hopen : w.Unblocked P)
    (hfit : ∀ r, w.IdsFit r) :
    ((∃ (t : ThreadId) (th : Thread σ), w.threads[t]? = some th ∧ th.calls ≠ []) →
      ∃ u x w', w.threads[u]? = some x ∧ x.calls ≠ [] ∧ w.step P u = some w') ∧
    ∀ (t : ThreadId) (th : Thread σ) (f : FlightId), w.threads[t]? = some th →
      th.waitsFor? = some f → ∃ fl, w.flights[f]? = some fl ∧ fl.leader ≠ t ∧
        ((∃ x, w.threads[fl.leader]? = some x ∧ f ∈ x.leads) ∨ ∃ w', w.step P t = some w') := by
  have hw := run.valid fresh
  have hd := run.descending fresh hm
  refine ⟨?_, ?_⟩
  · rintro ⟨t, th, ht, hc⟩
    cases hstep : w.step P t with
    | some w' => exact ⟨t, th, w', ht, hc, hstep⟩
    | none =>
        obtain ⟨a, f, S, rfl, hl⟩ := hw.waits_of_step_eq_none hopen ht hc hstep
        exact hd.exists_step hw hopen hfit ht hl
  · intro t th f ht hwait
    obtain ⟨a, S, rfl⟩ := Thread.requesting_of_waitsFor? hwait
    obtain ⟨fl, hfl, hr, hs⟩ := hw.flight_of_waits ht (hfit _)
    refine ⟨fl, hfl, fun hl => ?_, ?_⟩
    · -- Its own flight would belong to an outer call of the same slot.
      have hlt := hd.lt_of_leads hw ht ((run.apart fresh).waiting ht hwait hfl hl) hfl
      rw [hr, hs] at hlt
      exact Nat.lt_irrefl _ hlt
    · cases hstep : w.step P t with
      | some w' => exact Or.inr ⟨w', rfl⟩
      | none =>
          cases stuck_of_step_eq_none ht hstep with
          | waiting hair => exact Or.inl (hw.consistent.leader_inside hfl hair)

end World

namespace Sample

/-- An accessor of another slot, which has a smaller rank. -/
def inner : Accessor := ⟨0, { slot with name := "inner" }, 1, false⟩

/-- The first constructor calls the inner accessor, the others return an instance. -/
def nested : Program Unit :=
  { program seven with maker := fun k => if k = 0 then caller inner else seven }

/-- The default slot is above all others. -/
def rank (_ : RegistryId) (s : Slot) : Nat := if s.name = "" then 1 else 0

/-- The second thread leads a flight of the inner slot when the first thread, inside of the
flight of its own slot, comes to wait for it. -/
def nesting : List ThreadId := List.replicate 4 1 ++ List.replicate 11 0

/-- The world in which the constructor of the first thread waits. -/
def waiting : World Unit := (callers accessor inner).run nested nesting

end Sample

/-- A constructor that waits for the flight of another thread finds it under way. -/
theorem World.Run.deadlock_free_nested :
    (∃ th, Sample.waiting.threads[0]? = some th ∧ th.waitsFor? = some 0 ∧
      th.calls = [Sample.inner, Sample.accessor] ∧ th.leads = [1]) ∧
    Sample.waiting.step Sample.nested 0 = none ∧
    ∃ u x w', Sample.waiting.threads[u]? = some x ∧ x.calls ≠ [] ∧
      Sample.waiting.step Sample.nested u = some w' := by
  obtain ⟨th, ht, hwait, hcalls, hleads⟩ : ∃ th, Sample.waiting.threads[0]? = some th ∧
      th.waitsFor? = some 0 ∧ th.calls = [Sample.inner, Sample.accessor] ∧ th.leads = [1] :=
    ⟨_, rfl, rfl, rfl, rfl⟩
  have hrank : ∀ m ∈ (Sample.callers Sample.accessor Sample.inner).history Sample.nested
      Sample.nesting, m.descends Sample.rank = true := by decide +kernel
  have hids : ∀ reg ∈ Sample.waiting.registries, reg.ids.size < UInt64.size := by decide +kernel
  obtain ⟨hstep, -⟩ := Run.deadlock_free (World.run_of_schedule _ _ _)
    (Sample.callers_fresh _ _) hrank (fun _ _ _ _ _ _ => rfl)
    (fun _ reg hr => hids reg (List.mem_of_getElem? hr))
  exact ⟨⟨th, ht, hwait, hcalls, hleads⟩, rfl, hstep ⟨0, th, ht, by simp [hcalls]⟩⟩

end InstanceRegistry
