import InstanceRegistry.Proofs.Restriction

/-!
# A run and its restriction to a slot

A run is followed by a run of the restricted world, in which the flights of the slot have other
names: a flight is named by its rank among the flights of the slot. `Mirror` relates the two
worlds. They show the same of the slot, and each thread is in the same place of the same call on
the slot, or outside of such calls in both worlds. A step on another slot is followed by no step
at all, and a step of a constructor or an observer neither; when one of these ends, the restricted
world runs its own to the same end.
-/

namespace InstanceRegistry

variable {σ τ : Type}

/-- Two phases are the same, but for identifiers and the names of flights. -/
inductive Phase.Renamed (ρ : FlightId → FlightId) : Phase → Phase → Prop
  | check : Renamed ρ .check .check
  | identify : Renamed ρ .identify .identify
  | board {id id'} : Renamed ρ (.board id) (.board id')
  | wait {f} : Renamed ρ (.wait f) (.wait (ρ f))
  | recheck {f} : Renamed ρ (.recheck f) (.recheck (ρ f))
  | build {f} : Renamed ρ (.build f) (.build (ρ f))
  | keep {f v} : Renamed ρ (.keep f v) (.keep (ρ f) v)
  | land {f l} : Renamed ρ (.land f l) (.land (ρ f) l)
  | settle {f l} : Renamed ρ (.settle f l) (.settle (ρ f) l)
  | finish {o} : Renamed ρ (.finish o) (.finish o)
  | announce {event fault p p'} (h : Renamed ρ p p') :
      Renamed ρ (.announce event fault p) (.announce event fault p')

theorem Phase.Renamed.sign? {ρ : FlightId → FlightId} {p p' : Phase} (h : p.Renamed ρ p')
    (o : Option ObserverId) : p'.sign? o = p.sign? o := by
  cases h <;> rfl

/-- The name of the flight does not matter for how its leader goes on after the constructor. -/
theorem Outcome.renamed_conclude (ρ : FlightId → FlightId) (o : Outcome) (s : Slot)
    (f : FlightId) : (o.conclude s f).Renamed ρ (o.conclude s (ρ f)) := by
  cases o with
  | panicked p => exact .announce .land
  | returned v e =>
      cases e with
      | none => exact .keep
      | some e =>
          simp only [Outcome.conclude]
          cases e.findPanic with
          | crashed => exact .land
          | absent | found | hollow => exact .announce .land

/-- In the history, the constructors of the slot end as it is planned from a state on that counts
the earlier ends. -/
def OnPlan (plan : ConstructorId → Nat → Outcome) (tally : τ → ConstructorId → Nat)
    (r : RegistryId) (s : Slot) (h : List (Move σ)) (x : τ) : Prop :=
  ∀ k i o, (outcomes (fun a => a.isOf r s && a.maker == k) h)[i]? = some o →
    o = plan k (tally x k + i)

section Plan

variable {plan : ConstructorId → Nat → Outcome} {tally : τ → ConstructorId → Nat}
  {r : RegistryId} {s : Slot} {h : List (Move σ)} {t : ThreadId} {v w : World σ} {th : Thread σ}
  {x y : τ} (hx : OnPlan plan tally r s (⟨t, v, w⟩ :: h) x) (ht : v.threads[t]? = some th)
include hx ht

/-- A move in which no constructor of the slot ends leaves the plan as it is. -/
theorem OnPlan.tail (hc : ∀ z, th.concluded? = some z → z.1.isOf r s = false)
    (hy : ∀ k, tally y k = tally x k) : OnPlan plan tally r s h y := by
  intro k i o ho
  have hnone : (th.concluded?.filter fun z => z.1.isOf r s && z.1.maker == k) = none := by
    cases hz : th.concluded? with
    | none => rfl
    | some z => simp [Option.filter, hc z hz]
  rw [hy]
  apply hx k i o
  rw [outcomes_cons, outcomes_singleton ht, hnone]
  exact ho

/-- A constructor of the slot ends as planned, and the plan goes on after it. -/
theorem OnPlan.conclude {a : Accessor} {o : Outcome} (hc : th.concluded? = some (a, o))
    (ha : a.isOf r s = true)
    (hy : ∀ k, tally y k = tally x k + if k = a.maker then 1 else 0) :
    o = plan a.maker (tally x a.maker) ∧ OnPlan plan tally r s h y := by
  have hout (k : ConstructorId) : outcomes (fun a => a.isOf r s && a.maker == k)
      (⟨t, v, w⟩ :: h) = (if k = a.maker then [o] else []) ++
        outcomes (fun a => a.isOf r s && a.maker == k) h := by
    rw [outcomes_cons, outcomes_singleton ht, hc]
    by_cases hk : k = a.maker
    · simp [Option.filter, ha, hk]
    · simp [Option.filter, ha, hk, Ne.symm hk]
  refine ⟨hx a.maker 0 o (by simp [hout]), fun k i o' ho' => ?_⟩
  rw [hy]
  by_cases hk : k = a.maker
  · rw [if_pos hk, Nat.add_assoc, Nat.add_comm 1 i]
    exact hx k (i + 1) o' (by simpa [hout, hk] using ho')
  · rw [if_neg hk]
    exact hx k i o' (by simpa [hout, hk] using ho')

end Plan

/-- A constructor or an observer of a request in one world, and the code for it in another. -/
inductive Activity (P' : Program τ) (ρ : FlightId → FlightId) (a : Accessor) :
    Frame σ → Frame τ → Code τ → Prop
  | construction {f} :
      Activity P' ρ a (.construction a f) (.construction a (ρ f)) (P'.construct a)
  | observation {next next' o n} (h : next.Renamed ρ next') :
      Activity P' ρ a (.observation a next) (.observation a next') (P'.observer o n)

/-- The threads of a run and of its restriction to a slot, with the calls that are left. -/
inductive Shadow (P' : Program τ) (ρ : FlightId → FlightId) (r : RegistryId) (s : Slot)
    (rest : List Accessor) : Thread σ → Thread τ → Prop
  /-- The thread is outside of all calls on the slot. -/
  | away {th} (h : ∀ a ∈ th.calls, a.isOf r s = false) :
      Shadow P' ρ r s rest th ⟨.running (.script rest), []⟩
  /-- A request on the slot is under way. -/
  | asking {a : Accessor} {p p' : Phase} {next : Outcome → Code σ} {S : List (Frame σ)}
      (ha : a.isOf r s = true) (hS : S.filterMap Frame.caller? = []) (hp : p.Renamed ρ p') :
      Shadow P' ρ r s rest ⟨.requesting a p, a.frames next S⟩
        ⟨.requesting a p', a.frames (fun _ => .script rest) []⟩
  /-- The constructor or the observer of a request on the slot runs. -/
  | inside {a : Accessor} {focus : Focus σ} {R S : List (Frame σ)} {fr fr' c}
      {next : Outcome → Code σ} (ha : a.isOf r s = true)
      (hS : S.filterMap Frame.caller? = []) (hf : focus.request? = none)
      (hR : ∀ x ∈ R, ∃ next, x = .resume next) (hact : Activity P' ρ a fr fr' c) :
      Shadow P' ρ r s rest ⟨focus, R ++ fr :: a.frames next S⟩
        ⟨.running c, fr' :: a.frames (fun _ => .script rest) []⟩
  /-- A request on the slot has its outcome. -/
  | closed {a : Accessor} {o : Outcome} {next : Outcome → Code σ} {S : List (Frame σ)}
      (ha : a.isOf r s = true) (hS : S.filterMap Frame.caller? = []) :
      Shadow P' ρ r s rest ⟨.returning o, a.frames next S⟩
        ⟨.returning o, a.frames (fun _ => .script rest) []⟩
  /-- A call on the slot has its outcome. -/
  | ended {a : Accessor} {o : Outcome} {next : Outcome → Code σ} {S : List (Frame σ)}
      (ha : a.isOf r s = true) (hS : S.filterMap Frame.caller? = []) :
      Shadow P' ρ r s rest ⟨.returning o, .caller a next :: S⟩
        ⟨.returning o, [.caller a fun _ => .script rest]⟩

/-- The world after part of a run, and that after the same part of the restricted run; the
remaining history of the run is given. -/
structure Mirror (P' : Program τ) (plan : ConstructorId → Nat → Outcome)
    (tally : τ → ConstructorId → Nat) (ρ : FlightId → FlightId) (r : RegistryId) (s : Slot)
    (h : List (Move σ)) (v : World σ) (v' : World τ) : Prop where
  setUp : v.IsSetUp r
  setUp' : v'.IsSetUp r
  view : v'.view r s = v.view r s
  /-- The restricted run has flights of the slot only. -/
  solely : ∀ fl ∈ v'.flights, fl.isOf r s = true
  threads : ∀ (t : ThreadId) (th : Thread σ), v.threads[t]? = some th →
    ∃ th', v'.threads[t]? = some th' ∧ Shadow P' ρ r s (asked r s t h) th th'
  /-- The last thread has the remaining observers to attach. -/
  keeper : v'.threads[v.threads.length]? =
    some ⟨.running (.attachments r (attached r h)), []⟩
  /-- The constructors of the restricted run will end as those of the run do. -/
  planned : OnPlan plan tally r s h v'.state

/-- The restricted run goes on with what a move shows of the slot. -/
def Follows (P' : Program τ) (plan : ConstructorId → Nat → Outcome)
    (tally : τ → ConstructorId → Nat) (ρ : FlightId → FlightId) (r : RegistryId) (s : Slot)
    (h : List (Move σ)) (m : Move σ) (v' : World τ) : Prop :=
  ∃ g w', World.Run P' v' g w' ∧ trace g = traceOf r s [m] ∧
    Mirror P' plan tally ρ r s h m.after w'

namespace Mirror

open World

variable {P : Program σ} {P' : Program τ} {plan : ConstructorId → Nat → Outcome}
  {tally : τ → ConstructorId → Nat} {ρ : FlightId → FlightId} {r : RegistryId} {s : Slot}
  {h : List (Move σ)} {t : ThreadId} {v w : World σ} {v' w' : World τ} {th th₁ : Thread σ}
  {th' th₁' : Thread τ}

/-- All flights of the restricted run are shown. -/
theorem landings (M : Mirror P' plan tally ρ r s h v v') :
    (v.view r s).landings = v'.flights.map Flight.landing := by
  rw [← M.view, World.view, List.filter_eq_self.mpr M.solely]

/-- The restricted run has a flight of the slot under its rank. -/
theorem flight (M : Mirror P' plan tally ρ r s h v v') {f : FlightId} {fl : Flight}
    (hρ : ρ f = v.rank r s f) (hfl : v.flights[f]? = some fl) (hof : fl.isOf r s = true) :
    ∃ fl', v'.flights[ρ f]? = some fl' ∧ fl'.isOf r s = true ∧ fl'.landing = fl.landing := by
  have hl := getElem?_landings hfl hof
  rw [M.landings, ← hρ, List.getElem?_map] at hl
  obtain ⟨fl', hfl', hl⟩ := Option.map_eq_some_iff.mp hl
  exact ⟨fl', hfl', M.solely fl' (List.mem_of_getElem? hfl'), hl⟩

/-- Both runs name the next flight of the slot alike. -/
theorem length_flights (M : Mirror P' plan tally ρ r s h v v')
    (hρ : ρ v.flights.length = v.rank r s v.flights.length) :
    v'.flights.length = ρ v.flights.length := by
  rw [hρ, rank_length, M.landings, List.length_map]

/-- A flight of the restricted run is its own rank. -/
theorem rank_eq (M : Mirror P' plan tally ρ r s h v v') {f : Nat} (hf : f < v'.flights.length) :
    v'.rank r s f = f := by
  have hall : (v'.flights.take f).countP (Flight.isOf r s) = (v'.flights.take f).length :=
    List.countP_eq_length.mpr fun fl hfl => M.solely fl (List.mem_of_mem_take hfl)
  rw [rank, hall, List.length_take]
  omega

/-- What follows a move mirrors the world after it. -/
theorem next (M : Mirror P' plan tally ρ r s (⟨t, v, w⟩ :: h) v v') (hs : v.step P t = some w)
    (ht : v.threads[t]? = some th) (hset : w.threads = v.threads.set t th₁)
    {g : List (Move τ)} (run : Run P' v' g w')
    (hth : ∀ u < v.threads.length, w'.threads[u]? = if u = t then some th₁' else v'.threads[u]?)
    (hkeep : w'.threads[v.threads.length]? =
      some ⟨.running (.attachments r (attached r h)), []⟩)
    (hview : w'.view r s = w.view r s) (hsolely : ∀ fl ∈ w'.flights, fl.isOf r s = true)
    (hshadow : Shadow P' ρ r s (asked r s t h) th₁ th₁')
    (hplan : OnPlan plan tally r s h w'.state) :
    Mirror P' plan tally ρ r s h w w' where
  setUp := M.setUp.step hs
  setUp' := run.preserves (I := fun w => w.IsSetUp r) (fun hi hs => hi.step hs) M.setUp'
  view := hview
  solely := hsolely
  threads := by
    intro u x hx
    obtain ⟨rfl, rfl⟩ | ⟨hne, hx⟩ := threads_cases (getElem?_threads_set ht hset) hx
    · obtain ⟨hlt, -⟩ := List.getElem?_eq_some_iff.mp ht
      exact ⟨th₁', by simp [hth u hlt], hshadow⟩
    · obtain ⟨hlt, -⟩ := List.getElem?_eq_some_iff.mp hx
      obtain ⟨x', hx', hsh⟩ := M.threads u x hx
      rw [asked_cons, asked_of_ne (Ne.symm hne)] at hsh
      exact ⟨x', by simp [hth u hlt, hne, hx'], hsh⟩
  keeper := by rw [hset, List.length_set, hkeep]
  planned := hplan

/-- A step that shows nothing of the slot is followed by the observer that it attaches, if any. -/
theorem idle (M : Mirror P' plan tally ρ r s (⟨t, v, w⟩ :: h) v v') (hs : v.step P t = some w)
    (ht : v.threads[t]? = some th) (hset : w.threads = v.threads.set t th₁)
    (hview : w.view r s = { v.view r s with observer := (th.attaches? r).getD (v.observer? r) })
    (hsign : ∀ x, th.sign? v.observer? = some x → x.1.isOf r s = false)
    (hconc : ∀ x, th.concluded? = some x → x.1.isOf r s = false)
    (ht' : v'.threads[t]? = some th') (hshadow : Shadow P' ρ r s (asked r s t h) th₁ th') :
    Follows P' plan tally ρ r s h ⟨t, v, w⟩ v' := by
  obtain ⟨hlt, -⟩ := List.getElem?_eq_some_iff.mp ht
  have htrace : traceOf r s [(⟨t, v, w⟩ : Move σ)] = [] := by
    rw [traceOf, trace_singleton ht]
    cases hx : th.sign? v.observer? with
    | none => rfl
    | some x => simp [hsign x hx]
  have hself (u : ThreadId) : v'.threads[u]? = if u = t then some th' else v'.threads[u]? := by
    split
    · rename_i hu
      rw [hu, ht']
    · rfl
  have hkeeper := M.keeper
  rw [attached_cons, attached_singleton ht] at hkeeper
  rw [Follows, htrace]
  cases hatt : th.attaches? r with
  | none =>
      rw [hatt] at hview hkeeper
      refine ⟨[], v', .start, rfl, M.next hs ht hset .start ?_ hkeeper ?_ M.solely
        hshadow (M.planned.tail ht hconc fun _ => rfl)⟩
      · exact fun u _ => hself u
      · rw [M.view, hview]
        rfl
  | some o =>
      rw [hatt] at hview hkeeper
      -- The last thread attaches the observer, whichever thread does so in the run.
      obtain ⟨reg', hr', -⟩ := M.setUp'
      obtain ⟨hlt', -⟩ := List.getElem?_eq_some_iff.mp hkeeper
      let w₁ := (v'.setRegistry r (reg'.attach o)).put v.threads.length
        (.running (.attachments r (attached r h))) []
      have hwrites : Writes v' w₁ r (reg'.attach o) := ⟨rfl, rfl⟩
      have hs' : v'.step P' v.threads.length = some w₁ := by
        rw [step, hkeeper]
        simp [Code.attachments, stepCode, hr', w₁]
      refine ⟨_, w₁, Run.single hs', ?_, M.next hs ht hset (Run.single hs') ?_ ?_ ?_
        M.solely hshadow (M.planned.tail ht hconc fun _ => rfl)⟩
      · rw [trace_singleton hkeeper]
        rfl
      · intro u hu
        simp only [w₁, put, setRegistry, List.getElem?_set_ne (Nat.ne_of_gt hu)]
        exact hself u
      · simp [w₁, put, setRegistry, hlt']
      · rw [view_attach hr' hwrites, if_pos rfl, M.view, hview]
        rfl

/-- A step is followed by steps of the same thread that show the same and lead to the same
place. -/
theorem follow (M : Mirror P' plan tally ρ r s (⟨t, v, w⟩ :: h) v v') (hs : v.step P t = some w)
    (ht : v.threads[t]? = some th) (hset : w.threads = v.threads.set t th₁)
    (hatt : th.attaches? r = none) (ht' : v'.threads[t]? = some th') {g : List (Move τ)}
    (run : Run P' v' g w') (hset' : w'.threads = v'.threads.set t th₁')
    (htrace : trace g = traceOf r s [⟨t, v, w⟩]) (hview : w'.view r s = w.view r s)
    (hsolely : ∀ fl ∈ w'.flights, fl.isOf r s = true)
    (hshadow : Shadow P' ρ r s (asked r s t h) th₁ th₁')
    (hplan : OnPlan plan tally r s h w'.state) :
    Follows P' plan tally ρ r s h ⟨t, v, w⟩ v' := by
  obtain ⟨hlt, -⟩ := List.getElem?_eq_some_iff.mp ht
  have hkeeper := M.keeper
  rw [attached_cons, attached_singleton ht, hatt] at hkeeper
  refine ⟨g, w', run, htrace, M.next hs ht hset run ?_ ?_ hview hsolely hshadow hplan⟩
  · intro u _
    exact getElem?_threads_set ht' hset' u
  · rw [getElem?_threads_set ht' hset', if_neg (Nat.ne_of_gt hlt)]
    exact hkeeper

/-- A step of a call on the slot is followed by the same step. -/
theorem matched (M : Mirror P' plan tally ρ r s (⟨t, v, w⟩ :: h) v v') (hs : v.step P t = some w)
    (ht : v.threads[t]? = some th) (hset : w.threads = v.threads.set t th₁)
    (hatt : th.attaches? r = none) (ht' : v'.threads[t]? = some th')
    (hs' : v'.step P' t = some w') (hset' : w'.threads = v'.threads.set t th₁')
    (hsign : th'.sign? v'.observer? = th.sign? v.observer?)
    (hon : ∀ x, th.sign? v.observer? = some x → x.1.isOf r s = true)
    (hview : w'.view r s = w.view r s) (hsolely : ∀ fl ∈ w'.flights, fl.isOf r s = true)
    (hshadow : Shadow P' ρ r s (asked r s t h) th₁ th₁')
    (hconc : th.concluded? = none) (hstate : w'.state = v'.state) :
    Follows P' plan tally ρ r s h ⟨t, v, w⟩ v' := by
  refine M.follow hs ht hset hatt ht' (Run.single hs') hset' ?_ hview hsolely hshadow ?_
  · rw [traceOf, trace_singleton ht', trace_singleton ht, hsign]
    cases hx : th.sign? v.observer? with
    | none => rfl
    | some x => simp [hon x hx]
  · rw [hstate]
    exact M.planned.tail ht (by simp [hconc]) fun _ => rfl

/-- The case in which neither step changes registries or flights. -/
theorem matched_quiet (M : Mirror P' plan tally ρ r s (⟨t, v, w⟩ :: h) v v')
    (hs : v.step P t = some w) (ht : v.threads[t]? = some th)
    (hset : w.threads = v.threads.set t th₁) (hq : Quiet v w) (hatt : th.attaches? r = none)
    (ht' : v'.threads[t]? = some th') {focus : Focus τ} {S' : List (Frame τ)}
    (hs' : v'.step P' t = some (v'.put t focus S'))
    (hsign : th'.sign? v'.observer? = th.sign? v.observer?)
    (hon : ∀ x, th.sign? v.observer? = some x → x.1.isOf r s = true)
    (hshadow : Shadow P' ρ r s (asked r s t h) th₁ ⟨focus, S'⟩)
    (hconc : th.concluded? = none) : Follows P' plan tally ρ r s h ⟨t, v, w⟩ v' := by
  have hq' : Quiet v' (v'.put t focus S') := ⟨rfl, rfl⟩
  exact M.matched hs ht hset hatt ht' hs' rfl hsign hon (by rw [hq'.view, hq.view, M.view])
    M.solely hshadow hconc rfl

end Mirror

end InstanceRegistry
