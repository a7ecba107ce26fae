import InstanceRegistry.Proofs.Tidings

/-!
# Faults that are told and faults that are returned

An observer that is told of every event of a registry, and never panics, learns of the same faults
as the callers. What it is told of the failure of a flight is what the constructor reported, and
what a request tells of a flight that it waited for is what the request then ends with: the fault
that the flight landed with, or none and the instance.

## Implementation notes

A request that tells of a flight has the landing of the flight in its next phase, so its outcome is
fixed from there on, as long as its observer does not panic. `Promised` follows this through the
span of the request.
-/

namespace InstanceRegistry

variable {σ : Type}

/-- Hits and constructions are announced without a fault. -/
theorem Announced.fault_eq_none {event : Event} {fault : Option Fault} {next : Phase}
    (h : Announced event fault next) (hevent : event = .hit ∨ event = .construct) :
    fault = none := by
  cases h with
  | hit | found | construct => rfl
  | join | failure => rcases hevent with hevent | hevent <;> cases hevent

/-! ### What a request that waited ends with -/

/-- The request at the place is to settle on the landing of the flight, or has done so. -/
def Place.Settles (type : Ty) (f : FlightId) (l : Landing) : Place → Prop
  | .asking p | .telling p => p = .settle f l
  | .making _ => False
  | .closed out => out = l.settle type

namespace World

variable {P : Program σ} {t : ThreadId} {w₀ v w w' : World σ} {f : FlightId} {h : List (Move σ)}
  {a : Accessor} {B S : List (Frame σ)} {r : RegistryId} {o : ObserverId} {out : Outcome}
  {next : Outcome → Code σ} {m : Move σ} {l : Landing}

/-- A request that settles on a landing has a registry. -/
theorem Valid.exists_registry_of_settle (hw : w.Valid) {p : Phase}
    (ht : w.threads[t]? = some ⟨.requesting a p, B⟩) (hp : p.core = .settle f l) :
    w.registries[a.registry]? ≠ none := by
  have hs : w.Sound t ⟨a, .settle f l⟩ :=
    hw.consistent.sound ht (by simp [Thread.requests, Focus.request?, hp])
  obtain ⟨reg, hreg⟩ := hw.consistent.exists_registry hs rfl
  rw [hreg]
  simp

/-- The moves tell of no flight that the request waited for, but those on whose landing the request
at the place is to settle. -/
def Promised (t : ThreadId) (a : Accessor) (B : List (Frame σ)) (g : List (Move σ)) (pl : Place) :
    Prop :=
  ∀ m ∈ g, m.thread = t → ∀ fault f l,
    m.actor? = some ⟨.requesting a (.announce .dedup fault (.settle f l)), B⟩ →
    pl.Settles a.slot.type f l

/-- A promise is kept by a move that leads on to the landing. -/
theorem Promised.append {g : List (Move σ)} {pl pl' : Place} (hk : Promised t a B g pl)
    (hold : ∀ f l, pl.Settles a.slot.type f l → pl'.Settles a.slot.type f l)
    (hnew : m.thread = t → ∀ fault f l,
      m.actor? = some ⟨.requesting a (.announce .dedup fault (.settle f l)), B⟩ →
      pl'.Settles a.slot.type f l) : Promised t a B (g ++ [m]) pl' := by
  refine List.forall_mem_append.mpr ⟨?_, List.forall_mem_singleton.mpr hnew⟩
  intro m hm hthread fault f l hactor
  exact hold f l (hk m hm hthread fault f l hactor)

/-- A step of a request leads on to the landing that it told of. -/
theorem Turn.promised {g : List (Move σ)} {p : Phase} {th' : Thread σ}
    (turn : Turn P t w w' ⟨.requesting a p, B⟩ th') (hw : w.Valid)
    (ht : w.threads[t]? = some ⟨.requesting a p, B⟩) (hk : Promised t a B g (.asking p)) :
    ∃ pl, th'.Stands a B pl ∧ Promised t a B (g ++ [⟨t, w, w'⟩]) pl := by
  have hlast {pl : Place} (hold : ∀ f l, p = .settle f l → pl.Settles a.slot.type f l)
      (hnew : ∀ fault f l, p = .announce .dedup fault (.settle f l) →
        pl.Settles a.slot.type f l) : Promised t a B (g ++ [⟨t, w, w'⟩]) pl := by
    apply hk.append hold
    intro _ fault f l hactor
    obtain ⟨hfocus, -⟩ := Thread.mk.inj (Option.some.inj (ht.symm.trans hactor))
    exact hnew fault f l (Focus.requesting.inj hfocus).2
  cases p with
  | settle g' l' =>
      cases turn with
      | lost hq hr => exact (hw.exists_registry_of_settle ht rfl hr).elim
      | settle hq =>
          refine ⟨.closed _, rfl, hlast ?_ (by simp)⟩
          intro f l hp
          obtain ⟨-, rfl⟩ := Phase.settle.inj hp
          rfl
  | announce event fault next =>
      have hnew (fault' : Option Fault) (f : FlightId) (l : Landing)
          (hp : Phase.announce event fault next = .announce .dedup fault' (.settle f l)) :
          next = .settle f l := (Phase.announce.inj hp).2.2
      cases turn with
      | lost hq hr =>
          refine ⟨.closed _, rfl, hlast (by simp) ?_⟩
          intro fault' f l hp
          obtain rfl := hnew fault' f l hp
          exact (hw.exists_registry_of_settle ht rfl hr).elim
      | skip => exact ⟨.asking next, rfl, hlast (by simp) hnew⟩
      | announce => exact ⟨.telling next, List.suffix_refl _, hlast (by simp) hnew⟩
  | check | identify | board | wait | recheck | build | keep | land | finish =>
      obtain ⟨pl, hst⟩ := turn.stands
      exact ⟨pl, hst, hlast (by simp) (by simp)⟩

/-- A request that tells of a flight that it waited for settles on the landing of the flight. -/
theorem RequestSpan.settles (span : RequestSpan P t a B v h w out) (hv : v.Valid)
    (hatt : Attended a.registry o h) (hm : m ∈ h) (hthread : m.thread = t) {fault : Option Fault}
    (hactor : m.actor? = some ⟨.requesting a (.announce .dedup fault (.settle f l)), B⟩) :
    out = l.settle a.slot.type := by
  refine span.induct (K := fun g _ pl => Promised t a B g pl) hv (by simp [Promised])
    ⟨?_, ?_, ?_, ?_⟩ m hm hthread fault f l hactor
  · intro g w w' u pl _ _ hk _ hpass
    apply hk.append fun _ _ hl => hl
    -- A move that passes the request by is not made on its stack.
    intro hu fault f l hactor
    obtain ⟨th, fr, hth, hS, -⟩ := hpass hu
    obtain rfl := Option.some.inj (hth.symm.trans hactor)
    exact (Nat.not_succ_le_self _ hS.length_le).elim
  · intro g w w' p th' _ hw hk _ ht _ turn
    exact turn.promised hw ht hk
  · intro g w w' f x _ _ hk _ ht
    apply hk.append fun _ _ hl => hl.elim
    intro _ fault f l hactor
    cases ht.symm.trans hactor
  · intro g w w' next x th' hmem _ hk _ ht _ turn
    have hlast {pl : Place} (hold : ∀ f l, next = .settle f l → pl.Settles a.slot.type f l) :
        Promised t a B (g ++ [⟨t, w, w'⟩]) pl := by
      apply hk.append hold
      intro _ fault f l hactor
      cases ht.symm.trans hactor
    cases turn with
    | observed => exact ⟨.asking next, rfl, hlast fun _ _ hnext => hnext⟩
    | crash hq hf =>
        refine ⟨.asking _, rfl, hlast ?_⟩
        rintro f l rfl
        cases hf
    | interrupt => exact (hatt.calm _ hmem _ a next B ht rfl).elim

/-- The call ends as its request did, or makes a request again if it is steadfast and got a fault. -/
structure HandsOn (P : Program σ) (t : ThreadId) (a : Accessor) (next : Outcome → Code σ)
    (S : List (Frame σ)) (w : World σ) (out : Outcome) : Prop where
  ends : (a.insistent = true → ∀ x e, out ≠ .returned x (some e)) →
    ∃ w', Reaches P t w w' ∧ w'.threads[t]? = some ⟨.returning out, .caller a next :: S⟩
  retries : a.insistent = true → ∀ x e, out = .returned x (some e) →
    ∃ w', w.step P t = some w' ∧ w'.threads[t]? = some ⟨.requesting a .check, a.frames next S⟩

/-- What a call does with the outcome of its request. -/
theorem Valid.handsOn (hw : w.Valid) (ht : w.threads[t]? = some ⟨.returning out, a.frames next S⟩) :
    HandsOn P t a next S w out := by
  constructor
  · intro hout
    cases ha : a.insistent with
    | false =>
        simp only [Accessor.frames, ha, Bool.false_eq_true, if_false] at ht
        exact ⟨w, .refl P t w, ht⟩
    | true =>
        obtain ⟨w', tour⟩ := Tour.passes (P := P) (V := fun _ _ => False) (K := fun _ _ => false)
          hw (hout ha) ht
        exact ⟨w', tour.reaches, tour.thread⟩
  · rintro ha x e rfl
    simp only [Accessor.frames, ha, if_true] at ht ⊢
    obtain ⟨w', th', hs, ht', turn⟩ := exists_turn_of_not_stuck (P := P) ht (by rintro ⟨⟩)
    cases turn with
    | retry => exact ⟨w', hs, ht'⟩
    | pass hq ho => exact (ho x e rfl).elim

/-- A request that waited settles on the landing as soon as its observer is through. -/
theorem Valid.settles_of_observed (hw : w.Valid) {x : Value} {e : Option Fault}
    (ht : w.threads[t]? = some ⟨.returning (.returned x e), .observation a (.settle f l) :: B⟩) :
    ∃ w', Reaches P t w w' ∧ w'.threads[t]? = some ⟨.returning (l.settle a.slot.type), B⟩ := by
  obtain ⟨w₁, th₁, hs₁, ht₁, turn₁⟩ := exists_turn_of_not_stuck (P := P) ht (by rintro ⟨⟩)
  cases turn₁ with
  | observed =>
      obtain ⟨w₂, th₂, hs₂, ht₂, turn₂⟩ := exists_turn_of_not_stuck (P := P) ht₁ (by rintro ⟨⟩)
      cases turn₂ with
      | lost hq hr => exact ((hw.step hs₁).exists_registry_of_settle ht₁ rfl hr).elim
      | settle => exact ⟨w₂, (Reaches.single hs₁).trans (.single hs₂), ht₂⟩

/-- What a request that waited for the flight was told agrees with how it ended: with an instance of
the flight if it was told of no fault, and else with the fault, unless that is of a panic. The call
makes use of it. -/
structure Waited (P : Program σ) (t : ThreadId) (a : Accessor) (next : Outcome → Code σ)
    (S : List (Frame σ)) (f : FlightId) (w v : World σ) (fault : Option Fault) (out : Outcome) :
    Prop where
  value : fault = none ↔
    ∃ u, w.landing? f = some (.value u) ∧ out = .returned (a.slot.type.unbox u) none
  fault : ∀ e, fault = some e → e.findPanic = .absent → out = .returned a.slot.type.zero (some e)
  handed : HandsOn P t a next S v out

/-- **Faults that are told and returned.** On a registry whose observer is always there and never
panics, hits and constructions are told without a fault. If the constructor of a flight returned a
fault that reports no panic, then the one failure that is told of the flight carries this fault, and
whoever waited is told of the fault of the construction, with this fault in it; if it panicked, then
both are told of the same fault. A request that waited is told of no fault exactly if it ends with
the instance that the flight landed with; else it ends with the very fault that it was told of, and
its call returns that or, if it is steadfast, makes a request again. -/
theorem Run.faults_correspond (run : Run P w₀ h w) (fresh : w₀.Fresh) (hatt : Attended r o h) :
    (∀ m ∈ h, ∀ x, m.told? = some x → x.event = .hit ∨ x.event = .construct → x.fault = none) ∧
    (∀ f a x e, .concluded a f (.returned x (some e)) ∈ incidents f h → a.registry = r →
      e.findPanic = .absent →
      Reported f h w e (.construction (some a.slot.type) a.slot.name (some e))) ∧
    (∀ f a p, .concluded a f (.panicked p) ∈ incidents f h → a.registry = r →
      Reported f h w (.constructorPanic p) (.constructorPanic p)) ∧
    (∀ {h₁ h₂ h₃ : List (Move σ)} {v v' : World σ} {t : ThreadId} {a : Accessor}
      {next : Outcome → Code σ} {S : List (Frame σ)} {out : Outcome}, h = h₁ ++ (h₂ ++ h₃) →
      Run P w₀ h₁ v → a.registry = r → RequestSpan P t a (a.frames next S) v h₂ v' out →
      ∀ m ∈ h₂, m.isRequest t (a.frames next S).length = true → ∀ f x,
      m.tiding? f .dedup = some x → Waited P t a next S f w v' x.fault out) ∧
    ∀ {t : ThreadId} {a : Accessor} {f : FlightId} {l : Landing} {B : List (Frame σ)} {x : Value}
      {e : Option Fault},
      w.threads[t]? = some ⟨.returning (.returned x e), .observation a (.settle f l) :: B⟩ →
      ∃ w', Reaches P t w w' ∧ w'.threads[t]? = some ⟨.returning (l.settle a.slot.type), B⟩ := by
  refine ⟨?_, ?_, ?_, ?_, fun ht => (run.valid fresh).settles_of_observed ht⟩
  · intro m hm x hx hevent
    obtain ⟨next, S, -, ht, -, -⟩ := announce_of_told? hx
    obtain ⟨h₁, -, -, run₁, -, -⟩ := run.split hm
    exact ((run₁.valid fresh).proper _ _ ht).announced.fault_eq_none hevent
  · intro f a x e hi ha hn
    exact run.reported fresh hatt hi ha (by simp [Outcome.report?, hn])
      (by simp [Outcome.conclude, hn, Phase.core])
  · intro f a p hi ha
    exact run.reported fresh hatt hi ha rfl rfl
  · rintro h₁ h₂ h₃ v v' t a next S out rfl run₁ rfl span m hm hown f x hx
    have hv : v.Valid := run₁.valid fresh
    have hsub {m : Move σ} (hm : m ∈ h₂) : m ∈ h₁ ++ (h₂ ++ h₃) := by simp [hm]
    have hatt₂ : Attended a.registry o h₂ :=
      ⟨fun m hm => hatt.attached m (hsub hm), fun m hm => hatt.calm m (hsub hm)⟩
    obtain ⟨l, S', hactor, hfault, hl, hcrash⟩ := run.landing_of_shared fresh (hsub hm) hx
    obtain ⟨p, hactor'⟩ := span.actor_eq hv m hm hown
    have hthread : m.thread = t := by
      simp only [Move.isRequest, Bool.and_eq_true, beq_iff_eq] at hown
      exact hown.1
    obtain ⟨hfocus, rfl⟩ := Thread.mk.inj (Option.some.inj (hactor.symm.trans hactor'))
    obtain ⟨haccessor, -⟩ := Focus.requesting.inj hfocus
    rw [haccessor] at hactor
    obtain rfl := span.settles hv hatt₂ hm hthread hactor
    refine ⟨?_, ?_, (hv.run span.run).handsOn span.ended⟩
    · rw [hfault, hl]
      cases l with
      | value u => simp [Landing.fault?, Landing.settle]
      | fault e => simp [Landing.fault?]
      | crash p => exact (hcrash p rfl).elim
    · intro e he hn
      cases l with
      | value | crash => cases hfault.symm.trans he
      | fault e' =>
          obtain rfl := Option.some.inj (hfault.symm.trans he)
          simp [Landing.settle, hn]

end World

/-! ### A fault that is shared -/

namespace Sample

/-- All constructors return a fault. -/
def broken : Program Unit := program (.done (.number 0) (some (.plain "broken")))

/-- The fault of a construction that failed so. -/
def wrapped : Fault := .construction (some slot.type) slot.name (some (.plain "broken"))

/-- The first thread leads a flight, and the second has called. -/
def joining : World Unit := observed.run broken [0, 0, 0, 0, 1]

/-- The second thread joins the flight, the first lands it, and the second ends its request. -/
def sharingSchedule : List ThreadId :=
  List.replicate 3 1 ++ List.replicate 11 0 ++ List.replicate 5 1

/-- The steps from the call of the second thread to the end of its request. -/
def sharing : List (Move Unit) := joining.history broken sharingSchedule

/-- The world in which the second request has ended. -/
def shared : World Unit := joining.run broken sharingSchedule

/-- The steps from the start to the end of the second request. -/
def sharingHistory : List (Move Unit) :=
  observed.history broken [0, 0, 0, 0, 1] ++ (sharing ++ [])

theorem run_shared : World.Run broken observed sharingHistory shared := by
  rw [sharingHistory, List.append_nil]
  exact (World.run_of_schedule _ _ _).append (World.run_of_schedule _ _ _)

theorem shared_attended : Attended 0 0 sharingHistory :=
  attended_of_isCalm (by decide +kernel) (by decide +kernel)

end Sample

/-- The observer is told of the fault of the constructor, and the one who shared of the fault of the
construction, which its request returns. -/
theorem World.Run.faults_correspond_shared :
    ∃ next, RequestSpan Sample.broken 1 Sample.other (Sample.other.frames next []) Sample.joining
        Sample.sharing Sample.shared (.returned (.number 0) (some Sample.wrapped)) ∧
      Reported 0 Sample.sharingHistory Sample.shared (.plain "broken") Sample.wrapped ∧
      (tidings 0 .failure Sample.sharingHistory).map Told.fault = [some (.plain "broken")] ∧
      (tidings 0 .dedup Sample.sharingHistory).map Told.fault = [some Sample.wrapped] ∧
      ∀ m ∈ Sample.sharing, m.isRequest 1 1 = true → ∀ f x, m.tiding? f .dedup = some x →
        Waited Sample.broken 1 Sample.other next [] f Sample.shared Sample.shared x.fault
          (.returned (.number 0) (some Sample.wrapped)) := by
  obtain ⟨next, hasked, hended⟩ : ∃ next,
      Sample.joining.threads[1]? =
        some ⟨.requesting Sample.other .check, Sample.other.frames next []⟩ ∧
      Sample.shared.threads[1]? =
        some ⟨.returning (.returned (.number 0) (some Sample.wrapped)),
          Sample.other.frames next []⟩ :=
    ⟨_, rfl, rfl⟩
  have hgoing : ∀ m ∈ Sample.sharing, m.before.threads[1]?.any Sample.isOver = false := by
    decide +kernel
  have hspan : RequestSpan Sample.broken 1 Sample.other (Sample.other.frames next [])
      Sample.joining Sample.sharing Sample.shared
      (.returned (.number 0) (some Sample.wrapped)) :=
    ⟨World.run_of_schedule _ _ _, hasked, hended, Sample.going_of_isOver hgoing⟩
  obtain ⟨-, hreturned, -, hwaited, -⟩ := Run.faults_correspond Sample.run_shared
    Sample.observed_fresh Sample.shared_attended
  refine ⟨next, hspan, ?_, rfl, rfl, hwaited rfl (World.run_of_schedule _ _ _) rfl hspan⟩
  exact hreturned 0 Sample.accessor (.number 0) (.plain "broken") (.head _) rfl rfl

end InstanceRegistry
