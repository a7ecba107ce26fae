import InstanceRegistry.Proofs.Accounting
import InstanceRegistry.Proofs.Infallible

/-!
# Steadfast accessors

A steadfast accessor asks again as long as its requests end with a fault. Its constructor returns no
faults, so a request that leads a flight of its own ends with an instance or a panic. What can end
with a fault is a request that waited for the flight of another thread whose constructor returned
one. A flight is joined while it is in the air and has landed when the request is over, so no
flight is counted twice: there is at most one request more than there are failed flights that the
call joined.

## Implementation notes

The phases from which the requests of a call make their steps tell all that is counted here: a
request begins with looking for a stored instance, a constructor is started in the phase in which
the leader runs it, and a request that joined a flight has waited for it.
-/

namespace InstanceRegistry

variable {σ : Type}

/-- A flight on which callers settle with a fault had a constructor that returned one. -/
theorem Course.concluded_of_settle {a : Accessor} {f : FlightId} {I : List Incident} {l : Landing}
    {x : Value} {e : Fault} (h : Course a f I l)
    (hl : l.settle a.slot.type = .returned x (some e)) :
    ∃ x' e', .concluded a f (.returned x' (some e')) ∈ I := by
  cases h with
  | found | stored | refused | spoilt | dropped => cases hl
  | @failed o l hk =>
      rw [Outcome.settle_conclude (a := a) hk] at hl
      cases o with
      | panicked p => cases hl
      | returned x' e' =>
          cases e' with
          | none => cases hk
          | some e' => exact ⟨x', e', List.mem_singleton_self _⟩

/-! ### The phases of a call -/

/-- A request in the phase looks for a stored instance first. -/
def Phase.isCheck : Phase → Bool
  | .check => true
  | _ => false

/-- The phase from which the move is made, if it is a step of a request of the thread at the given
depth of its stack. -/
def Move.phase? (t : ThreadId) (depth : Nat) (m : Move σ) : Option Phase :=
  match m.actor? with
  | some ⟨.requesting _ p, S⟩ => if m.thread = t ∧ S.length = depth then some p else none
  | _ => none

/-- The phases from which the requests of the thread at the given depth make their steps. -/
def phases (t : ThreadId) (depth : Nat) (h : List (Move σ)) : List Phase :=
  h.filterMap (Move.phase? t depth)

/-- No step was made as the leader of a flight. -/
def Unled (L : List Phase) : Prop := ∀ p ∈ L, p.flight? = none

section Phases

variable {t : ThreadId} {d : Nat} {h : List (Move σ)} {m : Move σ} {L : List Phase} {p : Phase}

theorem phases_append_of_none (hm : m.phase? t d = none) :
    phases t d (h ++ [m]) = phases t d h := by
  rw [phases, filterMap_append_singleton, hm]
  exact List.append_nil _

/-- A step of a request adds its phase. -/
theorem phases_append_of_requesting {w w' : World σ} {a : Accessor} {B : List (Frame σ)}
    (ht : w.threads[t]? = some ⟨.requesting a p, B⟩) :
    phases t B.length (h ++ [⟨t, w, w'⟩]) = phases t B.length h ++ [p] := by
  have hp : (⟨t, w, w'⟩ : Move σ).phase? t B.length = some p := by
    simp [Move.phase?, Move.actor?, ht]
  rw [phases, filterMap_append_singleton, hp]
  rfl

/-- A step that hands on an outcome adds none. -/
theorem Move.phase?_of_returning {u : ThreadId} {w w' : World σ} {o : Outcome}
    {S : List (Frame σ)} (ht : w.threads[u]? = some ⟨.returning o, S⟩) :
    (⟨u, w, w'⟩ : Move σ).phase? t d = none := by
  simp [Move.phase?, Move.actor?, ht]

/-- Nor does a move that passes the request by. -/
theorem Move.Passes.phase?_eq {B : List (Frame σ)} (hp : m.Passes t B) :
    m.phase? t B.length = none := by
  have hquiet := hp.quiet.1
  rw [Move.isRequest] at hquiet
  rw [Move.phase?]
  split
  · rename_i a p S hactor
    rw [hactor] at hquiet
    simpa using hquiet
  · rfl

theorem Unled.append (hL : Unled L) (hp : p.flight? = none) : Unled (L ++ [p]) :=
  List.forall_mem_append.mpr ⟨hL, List.forall_mem_singleton.mpr hp⟩

/-- Who leads no flight starts no constructor. -/
theorem Unled.countP_isBuild (hL : Unled L) : L.countP Phase.isBuild = 0 := by
  rw [List.countP_eq_zero]
  intro p hp hb
  have hf := hL p hp
  cases p with
  | build f => cases hf
  | _ => cases hb

end Phases

/-! ### What the requests of a call have met -/

/-- The accessor shares the flight, and another thread leads it. -/
def World.Foreign (w : World σ) (t : ThreadId) (a : Accessor) (f : FlightId) : Prop :=
  w.Shares a f ∧ ∀ fl, w.flights[f]? = some fl → fl.leader ≠ t

/-- The requests waited for the flight of another thread, and it ends them with a fault. -/
structure Suffered (t : ThreadId) (a : Accessor) (L : List Phase) (w : World σ) (f : FlightId) :
    Prop where
  waited : .wait f ∈ L
  foreign : w.Foreign t a f
  landed : ∃ l x e, w.landing? f = some l ∧ l.settle a.slot.type = .returned x (some e)

/-- The failed flights that the requests of a call have met so far, each of them once. There was one
request for each of them, and there may be one more. -/
structure Tally (t : ThreadId) (a : Accessor) (L : List Phase) (w : World σ)
    (fs : List FlightId) : Prop where
  nodup : fs.Nodup
  suffered : ∀ f ∈ fs, Suffered t a L w f
  checks : L.countP Phase.isCheck ≤ fs.length + 1

/-- What is known of a call whose request is in the phase. A request that may yet end with a fault
has not led a flight. -/
def Phase.Tallied (t : ThreadId) (a : Accessor) (L : List Phase) (w : World σ)
    (fs : List FlightId) : Phase → Prop
  | .check => Unled L ∧ L.countP Phase.isCheck ≤ fs.length
  | .identify | .board _ | .finish _ => Unled L
  | .wait f => Unled L ∧ f ∉ fs
  | .recheck _ | .build _ => L.countP Phase.isBuild = 0
  | .keep _ _ | .land _ _ => L.countP Phase.isBuild ≤ 1
  | .settle f l =>
    (L.countP Phase.isBuild ≤ 1 ∧ ∀ x e, l.settle a.slot.type ≠ .returned x (some e)) ∨
      Unled L ∧ f ∉ fs ∧ .wait f ∈ L ∧ w.Foreign t a f
  | .announce _ _ next => next.Tallied t a L w fs

/-- What is known of a call by the place of its request. -/
def Place.Tallied (t : ThreadId) (a : Accessor) (L : List Phase) (w : World σ)
    (fs : List FlightId) : Place → Prop
  | .asking p | .telling p => p.Tallied t a L w fs
  | .making _ => L.countP Phase.isBuild ≤ 1
  | .closed o =>
    L.countP Phase.isBuild ≤ 1 ∧
      ∀ x e, o = .returned x (some e) → Unled L ∧ ∃ f, f ∉ fs ∧ Suffered t a L w f

/-- What is known of a call by its history and the place of its request. -/
def Counted (t : ThreadId) (a : Accessor) (B : List (Frame σ)) (h : List (Move σ)) (w : World σ)
    (pl : Place) : Prop :=
  ∃ fs, Tally t a (phases t B.length h) w fs ∧ pl.Tallied t a (phases t B.length h) w fs

section Tallied

variable {P : Program σ} {t u : ThreadId} {w w' : World σ} {a : Accessor} {f : FlightId}
  {fs : List FlightId} {L : List Phase} {p : Phase} {pl : Place}

theorem World.Foreign.step (hf : w.Foreign t a f) (hs : w.step P u = some w') :
    w'.Foreign t a f := by
  refine ⟨hf.1.step hs, fun fl' hfl' => ?_⟩
  obtain ⟨fl, hfl, -⟩ := hf.1
  obtain ⟨l, hl⟩ := World.flight_step hs hfl
  obtain rfl := Option.some.inj (hl.symm.trans hfl')
  exact hf.2 fl hfl

theorem Suffered.step (hf : Suffered t a L w f) (hw : w.Valid) (hs : w.step P u = some w') :
    Suffered t a L w' f := by
  obtain ⟨l, x, e, hl, he⟩ := hf.landed
  exact ⟨hf.waited, hf.foreign.step hs, l, x, e, hw.consistent.landing?_step hs hl, he⟩

/-- Steps of others leave the failed flights as they are. -/
theorem Tally.step (hT : Tally t a L w fs) (hw : w.Valid) (hs : w.step P u = some w') :
    Tally t a L w' fs :=
  ⟨hT.nodup, fun f hf => (hT.suffered f hf).step hw hs, hT.checks⟩

theorem Phase.Tallied.step (hp : p.Tallied t a L w fs) (hs : w.step P u = some w') :
    p.Tallied t a L w' fs := by
  induction p with
  | announce event fault next ih => exact ih hp
  | settle f l =>
      rcases hp with hp | ⟨hL, hf, hwait, hfor⟩
      · exact Or.inl hp
      · exact Or.inr ⟨hL, hf, hwait, hfor.step hs⟩
  | _ => exact hp

theorem Place.Tallied.step (hp : pl.Tallied t a L w fs) (hw : w.Valid)
    (hs : w.step P u = some w') : pl.Tallied t a L w' fs := by
  cases pl with
  | asking p | telling p => exact Phase.Tallied.step hp hs
  | making f => exact hp
  | closed o =>
      refine ⟨hp.1, fun x e ho => ?_⟩
      obtain ⟨hL, f, hf, hsuf⟩ := hp.2 x e ho
      exact ⟨hL, f, hf, hsuf.step hw hs⟩

/-- One constructor at most was started, whatever the phase. -/
theorem Phase.Tallied.starts_le (hp : p.Tallied t a L w fs) : L.countP Phase.isBuild ≤ 1 := by
  induction p with
  | announce event fault next ih => exact ih hp
  | check | wait => exact hp.1.countP_isBuild ▸ Nat.zero_le 1
  | identify | board | finish => exact hp.countP_isBuild ▸ Nat.zero_le 1
  | recheck | build => exact hp ▸ Nat.zero_le 1
  | keep | land => exact hp
  | settle f l =>
      rcases hp with hp | hp
      · exact hp.1
      · exact hp.1.countP_isBuild ▸ Nat.zero_le 1

theorem Place.Tallied.starts_le (hp : pl.Tallied t a L w fs) : L.countP Phase.isBuild ≤ 1 := by
  cases pl with
  | asking p | telling p => exact Phase.Tallied.starts_le hp
  | making f => exact hp
  | closed o => exact hp.1

/-- So it is after the next step of the request. -/
theorem Phase.Tallied.starts_append_le (hp : p.Tallied t a L w fs) :
    (L ++ [p]).countP Phase.isBuild ≤ 1 := by
  rw [List.countP_append]
  cases p with
  | build f =>
      rw [show L.countP Phase.isBuild = 0 from hp]
      exact Nat.le_refl 1
  | _ => exact hp.starts_le

/-- The step of a request adds its phase; where the request begins, there was none for it before. -/
theorem Tally.append (hT : Tally t a L w fs) (hp : p.Tallied t a L w fs) :
    Tally t a (L ++ [p]) w fs := by
  refine ⟨hT.nodup, fun f hf => ?_, ?_⟩
  · obtain ⟨hwait, hfor, hland⟩ := hT.suffered f hf
    exact ⟨List.mem_append_left _ hwait, hfor, hland⟩
  · rw [List.countP_append]
    cases p with
    | check => exact Nat.succ_le_succ hp.2
    | _ => exact hT.checks

/-- An announcement adds nothing but itself. -/
theorem Phase.Tallied.announce {event : Event} {fault : Option Fault} {next : Phase}
    (hn : Announced event fault next) (hp : next.Tallied t a L w fs) :
    next.Tallied t a (L ++ [.announce event fault next]) w fs := by
  have hstarts : (L ++ [Phase.announce event fault next]).countP Phase.isBuild =
      L.countP Phase.isBuild := by
    rw [List.countP_append]
    rfl
  cases hn with
  | hit => exact hp.append rfl
  | found | failure => exact Nat.le_trans (Nat.le_of_eq hstarts) hp
  | construct => exact hstarts.trans hp
  | join =>
      rcases hp with ⟨hle, hl⟩ | ⟨hL, hf, hwait, hfor⟩
      · exact Or.inl ⟨Nat.le_trans (Nat.le_of_eq hstarts) hle, hl⟩
      · exact Or.inr ⟨hL.append rfl, hf, List.mem_append_left _ hwait, hfor⟩

/-- A flight in the air is none of those that failed. -/
theorem Tally.not_mem (hT : Tally t a L w fs) (hw : w.Valid) {r : RegistryId} {id : String}
    (hin : w.inFlight? r id = some f) : f ∉ fs := by
  intro hf
  obtain ⟨l, -, -, hl, -⟩ := (hT.suffered f hf).landed
  obtain ⟨fl, hfl, -, -, hn⟩ := hw.consistent.listed hin
  obtain ⟨fl', hfl', hl'⟩ := World.landing?_eq_some.mp hl
  obtain rfl := Option.some.inj (hfl.symm.trans hfl')
  cases hn.symm.trans hl'

end Tallied

namespace World

variable {P : Program σ} {t u : ThreadId} {w₀ v w w' : World σ} {th' : Thread σ} {a : Accessor}
  {f : FlightId} {B S : List (Frame σ)} {h₀ h : List (Move σ)} {fs : List FlightId}
  {L : List Phase} {p : Phase}

/-- A leader for a steadfast accessor lands its flight with no fault for its callers. -/
theorem Run.settle_ne_of_land (run : Run P w₀ h w) (fresh : w₀.Fresh)
    (hi : a.insistent = true) {l : Landing}
    (ht : w.threads[t]? = some ⟨.requesting a (.land f l), B⟩) (x : Value) (e : Fault) :
    l.settle a.slot.type ≠ .returned x (some e) := by
  intro hl
  have hcourse : Course a f (incidents f h) l :=
    (run.charted fresh f).led ht (q := ⟨a, .land f l⟩) (List.mem_cons_self ..) rfl
  obtain ⟨x', e', hmem⟩ := hcourse.concluded_of_settle hl
  exact run.not_concluded fresh hi x' e' hmem

/-- A step of a request adds its phase, and the request is known to be where it leads. -/
theorem Turn.tallied (turn : Turn P t w w' ⟨.requesting a p, B⟩ th') (run : Run P w₀ h w)
    (fresh : w₀.Fresh) (hi : a.insistent = true) (hs : w.step P t = some w')
    (ht : w.threads[t]? = some ⟨.requesting a p, B⟩) (ht' : w'.threads[t]? = some th')
    (hT : Tally t a L w fs) (hp : p.Tallied t a L w fs) :
    ∃ pl, th'.Stands a B pl ∧ pl.Tallied t a (L ++ [p]) w' fs := by
  have hw := run.valid fresh
  have hstarts := hp.starts_append_le
  -- A panic ends the request, and it is no fault.
  have panics {q : Panic} : ∃ pl, (⟨.returning (.panicked q), B⟩ : Thread σ).Stands a B pl ∧
      pl.Tallied t a (L ++ [p]) w' fs :=
    ⟨.closed (.panicked q), rfl, hstarts, fun _ _ ho => by cases ho⟩
  cases turn with
  | lost | refuse | share => exact panics
  | hit => exact ⟨.asking _, rfl, hp.1.append rfl⟩
  | miss => exact ⟨.asking _, rfl, hp.1.append rfl⟩
  | identify => exact ⟨.asking _, rfl, hp.append rfl⟩
  | join hq hr hf =>
      have hin := (inFlight?_of_get hr _).trans hf
      exact ⟨.asking _, rfl, hp.append rfl, hT.not_mem hw hin⟩
  | takeOff => exact ⟨.asking _, rfl, (hp.append rfl).countP_isBuild⟩
  | @release _ _ f l hq hl hn =>
      obtain ⟨hL, hf⟩ := hp
      have hshares : w'.Shares a f :=
        (hw.consistent.sound ht (q := ⟨a, .wait f⟩) (List.mem_cons_self ..)).step hs
      have htold : (⟨.requesting a (.announce .dedup l.fault? (.settle f l)), B⟩ :
          Thread σ).Announces (.settle f l) :=
        Or.inr ⟨a, .dedup, l.fault?, rfl⟩
      have hled : ∀ fl, w'.flights[f]? = some fl → fl.leader ≠ t := fun fl hfl =>
        ((run.step hs).apart fresh).told ht' htold hfl
      exact ⟨.asking _, rfl, Or.inr ⟨hL.append rfl, hf, by simp, hshares, hled⟩⟩
  | find => exact ⟨.asking _, rfl, hstarts⟩
  | clear =>
      refine ⟨.asking _, rfl, ?_⟩
      change (L ++ [Phase.recheck _]).countP Phase.isBuild = 0
      rw [List.countP_append, show L.countP Phase.isBuild = 0 from hp]
      rfl
  | build => exact ⟨.making _, List.suffix_refl _, hstarts⟩
  | keep | spill => exact ⟨.asking _, rfl, hstarts⟩
  | land => exact ⟨.asking _, rfl, Or.inl ⟨hstarts, run.settle_ne_of_land fresh hi ht⟩⟩
  | @settle _ _ f l hq =>
      refine ⟨.closed _, rfl, hstarts, fun x e ho => ?_⟩
      have hland := (hw.consistent.sound ht (q := ⟨a, .settle f l⟩) (List.mem_cons_self ..)).2
      rcases hp with ⟨-, hne⟩ | ⟨hL, hf, hwait, hfor⟩
      · exact (hne x e ho).elim
      · exact ⟨hL.append rfl, f, hf, List.mem_append_left _ hwait, hfor.step hs, l, x, e,
          hw.consistent.landing?_step hs hland, ho⟩
  | @finish _ _ o hq =>
      obtain ⟨y, -, hy⟩ : ∃ y, w.stored? a.registry a.slot = some y ∧
          o = .returned (a.slot.type.unbox y) none :=
        hw.consistent.sound ht (q := ⟨a, .finish o⟩) (List.mem_cons_self ..)
      refine ⟨.closed _, rfl, hstarts, fun x e ho => ?_⟩
      cases hy.symm.trans ho
  | @skip _ _ event fault next reg hq hr ho =>
      cases hw.proper t _ ht with
      | requesting hn hS =>
          exact ⟨.asking _, rfl, (Phase.Tallied.announce (hn _ _ _ rfl) hp).step hs⟩
  | @announce _ _ event fault next o reg hq hr ho =>
      cases hw.proper t _ ht with
      | requesting hn hS =>
          exact ⟨.telling _, List.suffix_refl _,
            (Phase.Tallied.announce (hn _ _ _ rfl) hp).step hs⟩

/-- The counts of a steadfast call are kept by all moves that are made until one of its requests is
over. -/
theorem tracked_counted (run₀ : Run P w₀ h₀ v) (fresh : w₀.Fresh) (run : Run P v h w)
    (hi : a.insistent = true) : Tracked P t a B h (Counted t a B) := by
  refine ⟨?_, ?_, ?_, ?_⟩
  · rintro g w w' u pl - hw ⟨fs, hT, hpl⟩ hs hpass
    rw [Counted, phases_append_of_none hpass.phase?_eq]
    exact ⟨fs, hT.step hw hs, hpl.step hw hs⟩
  · rintro g w w' p th' hm hw ⟨fs, hT, hpl⟩ hs ht ht' turn
    obtain ⟨h₁, -, -, run₁, -, -⟩ := run.split hm
    obtain ⟨pl, hst, hpl'⟩ := turn.tallied (run₀.append run₁) fresh hi hs ht ht' hT hpl
    refine ⟨pl, hst, fs, ?_⟩
    rw [phases_append_of_requesting ht]
    exact ⟨(hT.append hpl).step hw hs, hpl'⟩
  · rintro g w w' f x - hw ⟨fs, hT, hpl⟩ hs ht
    rw [Counted, phases_append_of_none (Move.phase?_of_returning ht)]
    refine ⟨fs, hT.step hw hs, ?_⟩
    exact x.conclude_induct (K := fun p => p.Tallied t a _ w' fs) a.slot f (fun _ => hpl)
      (fun _ _ => hpl) fun _ => hpl
  · rintro g w w' next x th' - hw ⟨fs, hT, hpl⟩ hs ht ht' turn
    simp only [Counted, phases_append_of_none (Move.phase?_of_returning ht)]
    have hstarts := Phase.Tallied.starts_le hpl
    cases turn with
    | observed => exact ⟨.asking _, rfl, fs, hT.step hw hs, Phase.Tallied.step hpl hs⟩
    | crash => exact ⟨.asking _, rfl, fs, hT.step hw hs, hstarts⟩
    | interrupt =>
        exact ⟨.closed _, rfl, fs, hT.step hw hs, hstarts, fun _ _ ho => by cases ho⟩

/-! ### Calls of a steadfast accessor -/

/-- A call of the accessor by the thread that started in the world `v`. In the world `w` it is under
way, or it has just got an outcome for its caller. -/
structure Calling (P : Program σ) (t : ThreadId) (a : Accessor) (next : Outcome → Code σ)
    (S : List (Frame σ)) (v : World σ) (h : List (Move σ)) (w : World σ) : Prop where
  run : Run P v h w
  called : v.threads[t]? = some ⟨.requesting a .check, a.frames next S⟩
  going : ∀ m ∈ h, ∀ o, m.before.threads[t]? ≠ some ⟨.returning o, .caller a next :: S⟩

/-- What is known of a steadfast call by its history: it is so by the place of its last request, or
the request is over and its outcome is that of the call. -/
inductive Calling.Known (t : ThreadId) (a : Accessor) (next : Outcome → Code σ)
    (S : List (Frame σ)) (K : List (Move σ) → World σ → Place → Prop) (h : List (Move σ))
    (w : World σ) : Prop
  | underway {th p} (ht : w.threads[t]? = some th) (hst : th.Stands a (a.frames next S) p)
      (hk : K h w p)
  | ended {o} (ht : w.threads[t]? = some ⟨.returning o, .caller a next :: S⟩)
      (hk : K h w (.closed o)) (ho : ∀ x e, o ≠ .returned x (some e))

/-- What holds of a steadfast call at its start, is tracked through each of its requests and is kept
where the call asks again and where it ends, is known of the call. -/
theorem Calling.induct {K : List (Move σ) → World σ → Place → Prop} {next : Outcome → Code σ}
    (call : Calling P t a next S v h w) (hi : a.insistent = true) (hv : v.Valid)
    (hstart : K [] v (.asking .check)) (hK : Tracked P t a (a.frames next S) h K)
    (hretry : ∀ {g w w' x e}, w.Valid → K g w (.closed (.returned x (some e))) →
      w.step P t = some w' →
      w.threads[t]? = some ⟨.returning (.returned x (some e)), a.frames next S⟩ →
      K (g ++ [⟨t, w, w'⟩]) w' (.asking .check))
    (hleave : ∀ {g w w' o}, w.Valid → K g w (.closed o) → w.step P t = some w' →
      w.threads[t]? = some ⟨.returning o, a.frames next S⟩ →
      K (g ++ [⟨t, w, w'⟩]) w' (.closed o)) :
    Known t a next S K h w := by
  have hB : a.frames next S = .again a :: .caller a next :: S := by rw [Accessor.frames, if_pos hi]
  have hkeeps := hv.keeps (I := fun g w => (∀ m ∈ g, m ∈ h) → Known t a next S K g w)
    (fun _ => .underway call.called (p := .asking .check) rfl hstart) ?_ call.run
  · exact hkeeps fun m hm => hm
  · intro g v u w hv ih hs hsub
    have hm : (⟨u, v, w⟩ : Move σ) ∈ h := hsub _ (by simp)
    cases ih fun m hm => hsub m (List.mem_append_left _ hm) with
    | ended ht => exact (call.going _ hm _ ht).elim
    | @underway th pl ht hst hk =>
        by_cases hover : u = t ∧ ∃ o, th = ⟨.returning o, a.frames next S⟩
        · obtain ⟨rfl, o, rfl⟩ := hover
          rw [hst.eq_closed] at hk
          obtain ⟨th', ht', turn⟩ := turn_of_step ht hs
          generalize hx : (⟨.returning o, a.frames next S⟩ : Thread σ) = x at turn
          rw [hB] at hx
          cases turn with
          | retry =>
              cases hx
              exact .underway ht' (p := .asking .check) (by rw [hB]; rfl) (hretry hv hk hs ht)
          | pass hq ho =>
              cases hx
              exact .ended ht' (hleave hv hk hs ht) ho
          | _ => cases hx
        · obtain ⟨th', pl', ht', hst', hk'⟩ := hK.step hm hv hs ht hst hk fun hu o ho =>
            hover ⟨hu, o, ho⟩
          exact .underway ht' hst' hk'

/-- Nothing is counted yet when a call starts. -/
theorem counted_nil (t : ThreadId) (a : Accessor) (B : List (Frame σ)) (w : World σ) :
    Counted t a B [] w (.asking .check) := by
  refine ⟨[], ⟨List.nodup_nil, fun f hf => ?_, Nat.zero_le _⟩, fun p hp => ?_, Nat.le_refl 0⟩
  · cases hf
  · cases hp

/-- What is counted of a request when it is over. -/
theorem RequestSpan.counted {o : Outcome} (span : RequestSpan P t a B v h w o)
    (run₀ : Run P w₀ h₀ v) (fresh : w₀.Fresh) (hi : a.insistent = true) :
    Counted t a B h w (.closed o) :=
  span.induct (run₀.valid fresh) (counted_nil t a B v)
    (tracked_counted run₀ fresh span.run hi)

/-- What is counted of a steadfast call at any time. -/
theorem Calling.counted {next : Outcome → Code σ} (call : Calling P t a next S v h w)
    (run₀ : Run P w₀ h₀ v) (fresh : w₀.Fresh) (hi : a.insistent = true) :
    Known t a next S (Counted t a (a.frames next S)) h w := by
  refine call.induct hi (run₀.valid fresh) (counted_nil t a _ v)
    (tracked_counted run₀ fresh call.run hi) ?_ ?_
  · -- The flight that the last request joined is one more that failed.
    rintro g w w' x e hw ⟨fs, hT, -, hfault⟩ hs ht
    obtain ⟨hL, f, hf, hsuf⟩ := hfault x e rfl
    rw [Counted, phases_append_of_none (Move.phase?_of_returning ht)]
    refine ⟨f :: fs, ⟨List.nodup_cons.mpr ⟨hf, hT.nodup⟩, ?_, ?_⟩, hL, hT.checks⟩
    · exact List.forall_mem_cons.mpr
        ⟨hsuf.step hw hs, fun g hg => (hT.suffered g hg).step hw hs⟩
    · exact Nat.le_succ_of_le hT.checks
  · rintro g w w' o hw ⟨fs, hT, hpl⟩ hs ht
    rw [Counted, phases_append_of_none (Move.phase?_of_returning ht)]
    exact ⟨fs, hT.step hw hs, hpl.step hw hs⟩

theorem Calling.Known.exists_place {next : Outcome → Code σ}
    {K : List (Move σ) → World σ → Place → Prop} (hk : Calling.Known t a next S K h w) :
    ∃ pl, K h w pl := by
  cases hk with
  | underway ht hst hk => exact ⟨_, hk⟩
  | ended ht hk ho => exact ⟨_, hk⟩

/-- A steadfast call hands no fault to its caller. -/
theorem Calling.Known.ne_fault {next : Outcome → Code σ}
    {K : List (Move σ) → World σ → Place → Prop} (hk : Calling.Known t a next S K h w)
    (hi : a.insistent = true) {o : Outcome}
    (ht : w.threads[t]? = some ⟨.returning o, .caller a next :: S⟩) (x : Value) (e : Fault) :
    o ≠ .returned x (some e) := by
  cases hk with
  | @underway th pl ht' hst hk =>
      -- The frames of the call are more than those on the stack.
      obtain rfl := Option.some.inj (ht.symm.trans ht')
      have hB : a.frames next S = .again a :: .caller a next :: S := by
        rw [Accessor.frames, if_pos hi]
      rw [hB] at hst
      have hlen {fr : Frame σ} (hS : fr :: .again a :: .caller a next :: S <:+
          .caller a next :: S) : False := by
        have := hS.length_le
        simp only [List.length_cons] at this
        omega
      cases pl with
      | asking p => cases hst
      | making f => exact (hlen hst).elim
      | telling n => exact (hlen hst).elim
      | closed o' => cases (Thread.mk.inj hst).2
  | ended ht' hk ho =>
      obtain ⟨ho', -⟩ := Thread.mk.inj (Option.some.inj (ht.symm.trans ht'))
      rw [Focus.returning.inj ho']
      exact ho x e

/-- The call joined the flight as one who waits for it. Another thread led the flight, for the slot
of the accessor, and its constructor returned a fault. -/
structure JoinedFailure (t : ThreadId) (a : Accessor) (L : List Phase) (h : List (Move σ))
    (w : World σ) (f : FlightId) : Prop where
  waited : .wait f ∈ L
  foreign : ∃ fl, w.flights[f]? = some fl ∧ fl.leader ≠ t ∧ fl.registry = a.registry ∧
    fl.slot = a.slot
  failed : ∃ b x e, .concluded b f (.returned x (some e)) ∈ incidents f h

/-- A flight of another thread that ends requests with a fault has a constructor that returned one,
and it is a flight of the slot as long as there are numbers left. -/
theorem Run.joinedFailure (run : Run P w₀ h w) (fresh : w₀.Fresh) (hfit : w.IdsFit a.registry)
    (hf : Suffered t a L w f) : JoinedFailure t a L h w f := by
  have hw := run.valid fresh
  obtain ⟨l, x, e, hl, he⟩ := hf.landed
  obtain ⟨fl, hfl, hland⟩ := landing?_eq_some.mp hl
  obtain ⟨hr, hs⟩ := hw.consistent.shares_slot hw.numbered hfit hf.foreign.1 hfl
  obtain ⟨b, -, hb, hcourse⟩ := (run.charted fresh f).landed hfl hland
  rw [← hs, ← hb] at he
  obtain ⟨x', e', hmem⟩ := hcourse.concluded_of_settle he
  exact ⟨hf.waited, ⟨fl, hfl, hf.foreign.2 fl hfl, hr, hs⟩, b, x', e', hmem⟩

/-- An outcome for an accessor that is no fault is the stored instance or a panic. -/
theorem Run.instance_or_panic (run : Run P w₀ h w) (fresh : w₀.Fresh) (hfit : w.IdsFit a.registry)
    {o : Outcome} (ht : w.threads[t]? = some ⟨.returning o, B⟩) (hB : Stacked (some a) B)
    (ho : ∀ x e, o ≠ .returned x (some e)) :
    (∃ x, w.stored? a.registry a.slot = some x ∧ o = .returned (a.slot.type.unbox x) none) ∨
      ∃ p, o = .panicked p := by
  cases o with
  | panicked p => exact Or.inr ⟨p, rfl⟩
  | returned y e =>
      cases e with
      | some e => exact (ho y e rfl).elim
      | none =>
          left
          obtain ⟨x, hx, rfl⟩ :=
            (run.answered fresh t a y B ht hB).stored (run.valid fresh) hfit
          exact ⟨x, hx, rfl⟩

/-- A steadfast accessor repeats no failure of its own. Its call asks again only after a request
that joined, as one who waits, a flight of another thread whose constructor returned a fault; a
request that led a flight of its own ends with the stored instance or a panic. So the call starts
its own constructor at most once, it makes at most one request more than there are such failed
flights that it joined, and it ends with the stored instance or with a panic.

A registry numbers its slots with words of 64 bits, and it has not given out all of these numbers.
-/
theorem Run.steadfast_retries {P : Program σ} {w₀ v w : World σ} {h₀ h : List (Move σ)}
    (run₀ : Run P w₀ h₀ v) (fresh : w₀.Fresh) {t : ThreadId} {a : Accessor}
    {next : Outcome → Code σ} {S : List (Frame σ)} (call : Calling P t a next S v h w)
    (hi : a.insistent = true)
    (hfit : w.IdsFit a.registry) :
    (∀ g₁ g g₂ u u' o, h = g₁ ++ (g ++ g₂) → Run P v g₁ u →
      RequestSpan P t a (a.frames next S) u g u' o →
      (∀ x e, o = .returned x (some e) →
        ∃ f, JoinedFailure t a (phases t (a.frames next S).length g) (h₀ ++ h) w f) ∧
      ((∃ p ∈ phases t (a.frames next S).length g, ∃ f, p.flight? = some f) →
        (∃ x, u'.stored? a.registry a.slot = some x ∧
          o = .returned (a.slot.type.unbox x) none) ∨ ∃ p, o = .panicked p)) ∧
    (phases t (a.frames next S).length h).countP Phase.isBuild ≤ 1 ∧
    (∃ fs : List FlightId, fs.Nodup ∧
      (∀ f ∈ fs, JoinedFailure t a (phases t (a.frames next S).length h) (h₀ ++ h) w f) ∧
      (phases t (a.frames next S).length h).countP Phase.isCheck ≤ fs.length + 1) ∧
    ∀ o, w.threads[t]? = some ⟨.returning o, .caller a next :: S⟩ →
      (∃ x, w.stored? a.registry a.slot = some x ∧ o = .returned (a.slot.type.unbox x) none) ∨
        ∃ p, o = .panicked p := by
  have run := run₀.append call.run
  have hcount := call.counted run₀ fresh hi
  have hB : Stacked (some a) (a.frames next S) := by
    cases (run₀.valid fresh).proper t _ call.called with
    | requesting hp hS => exact hS
  refine ⟨?_, ?_, ?_, ?_⟩
  · rintro g₁ g g₂ u u' o rfl run₁ span
    have run₂ : Run P u' g₂ w := (call.run.rest run₁).rest span.run
    have hu' := ((run₀.append run₁).append span.run).valid fresh
    obtain ⟨fs, -, -, hfault⟩ := span.counted (run₀.append run₁) fresh hi
    constructor
    · intro x e ho
      obtain ⟨-, f, -, hf⟩ := hfault x e ho
      have hfw : Suffered t a (phases t (a.frames next S).length g) w f :=
        hu'.keeps (I := fun _ w => Suffered t a _ w f) hf (fun hw hf hs => hf.step hw hs) run₂
      exact ⟨f, run.joinedFailure fresh hfit hfw⟩
    · rintro ⟨p, hp, f, hpf⟩
      refine Run.instance_or_panic ((run₀.append run₁).append span.run) fresh (hfit.of_run run₂)
        span.ended hB fun x e ho => ?_
      cases hpf.symm.trans ((hfault x e ho).1 p hp)
  · obtain ⟨pl, fs, -, hpl⟩ := hcount.exists_place
    exact hpl.starts_le
  · obtain ⟨pl, fs, hT, -⟩ := hcount.exists_place
    exact ⟨fs, hT.nodup, fun f hf => run.joinedFailure fresh hfit (hT.suffered f hf), hT.checks⟩
  · intro o ht
    have hS := ((run.valid fresh).proper t _ ht).stacked_caller
    exact run.instance_or_panic fresh hfit ht hS (hcount.ne_fault hi ht)

end World

/-! ### A call that waits for a failure and then makes its own instance -/

namespace Sample

/-- A steadfast accessor of the same slot with another constructor. -/
def steadfast : Accessor := { accessor with maker := 1, insistent := true }

/-- The first constructor returns a fault, the others return none. -/
def faulty : Program Unit :=
  { program seven with
    maker := fun k => if k = 0 then .done (.number 0) (some (.plain "broken")) else seven }

/-- The first thread has taken off, and the second has called. -/
def aboard : World Unit := (callers accessor steadfast).run faulty [0, 0, 0, 0, 1]

/-- The second thread joins the flight of the first, which fails, and then asks again. -/
def insistence : List ThreadId := List.replicate 3 1 ++ List.replicate 7 0 ++ List.replicate 16 1

/-- The world in which the second call has ended. -/
def contented : World Unit := aboard.run faulty insistence

end Sample

/-- The second request of a steadfast call, after one that joined a flight that failed, makes and
stores an instance. -/
theorem World.Run.steadfast_retries_once :
    ∃ next, Calling Sample.faulty 1 Sample.steadfast next [] Sample.aboard
        (Sample.aboard.history Sample.faulty Sample.insistence) Sample.contented ∧
      Sample.contented.threads[1]? =
        some ⟨.returning (.returned (.number 7) none), [.caller Sample.steadfast next]⟩ ∧
      ∃ fs : List FlightId, fs.Nodup ∧
        (∀ f ∈ fs, JoinedFailure 1 Sample.steadfast
          (phases 1 2 (Sample.aboard.history Sample.faulty Sample.insistence))
          ((Sample.callers Sample.accessor Sample.steadfast).history Sample.faulty
            [0, 0, 0, 0, 1] ++ Sample.aboard.history Sample.faulty Sample.insistence)
          Sample.contented f) ∧
        2 ≤ fs.length + 1 ∧
      ∃ x, Sample.contented.stored? 0 Sample.slot = some x ∧
        .returned (.number 7) none = Outcome.returned (Sample.slot.type.unbox x) none := by
  obtain ⟨next, hcalled, hended⟩ : ∃ next,
      Sample.aboard.threads[1]? =
        some ⟨.requesting Sample.steadfast .check, Sample.steadfast.frames next []⟩ ∧
      Sample.contented.threads[1]? =
        some ⟨.returning (.returned (.number 7) none), [.caller Sample.steadfast next]⟩ :=
    ⟨_, rfl, rfl⟩
  have hopen : ∀ m ∈ Sample.aboard.history Sample.faulty Sample.insistence,
      m.before.threads[1]?.any Sample.isOver = false := by decide +kernel
  have hcall : Calling Sample.faulty 1 Sample.steadfast next [] Sample.aboard
      (Sample.aboard.history Sample.faulty Sample.insistence) Sample.contented :=
    ⟨World.run_of_schedule _ _ _, hcalled, Sample.going_of_isOver hopen⟩
  have hchecks : (phases 1 2 (Sample.aboard.history Sample.faulty Sample.insistence)).countP
      Phase.isCheck = 2 := by decide +kernel
  obtain ⟨-, -, ⟨fs, hnodup, hjoined, hle⟩, hend⟩ :=
    Run.steadfast_retries (World.run_of_schedule Sample.faulty _ [0, 0, 0, 0, 1])
      (Sample.callers_fresh _ _) hcall rfl (by decide +kernel)
  rcases hend _ hended with hstored | ⟨p, hp⟩
  · exact ⟨next, hcall, hended, fs, hnodup, hjoined, hchecks ▸ hle, hstored⟩
  · cases hp

end InstanceRegistry
