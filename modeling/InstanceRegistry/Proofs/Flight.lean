import InstanceRegistry.Proofs.Persistence

/-!
# The course of a flight

What happens in a flight, read off the history of a run, decides how it lands. The
leader finds an instance, or runs its constructor and stores what that returned, or
lands without an instance; where the leader tells an observer, the observer can break
the flight instead. `Course` lists these ways, and every flight that landed took one
of them.
-/

namespace InstanceRegistry

variable {σ : Type}

/-- The incidents of a flight, in the order of a history. -/
def incidents (f : FlightId) (h : List (Move σ)) : List Incident :=
  h.filterMap fun m => m.incident?.filter fun i => i.flight == f

theorem incidents_append (f : FlightId) (h h' : List (Move σ)) :
    incidents f (h ++ h') = incidents f h ++ incidents f h' :=
  List.filterMap_append

theorem incidents_singleton (f : FlightId) (m : Move σ) :
    incidents f [m] = (m.incident?.filter fun i => i.flight == f).toList := by
  cases hx : m.incident?.filter fun i => i.flight == f with
  | none => exact List.filterMap_cons_none hx
  | some i => exact List.filterMap_cons_some hx

/-- The incidents of a flight are those of the moves of the history. -/
theorem mem_incidents {f : FlightId} {h : List (Move σ)} {i : Incident} :
    i ∈ incidents f h ↔ ∃ m ∈ h, m.incident? = some i ∧ i.flight = f := by
  simp [incidents, List.mem_filterMap, Option.filter_eq_some_iff]

/-- The ways of a flight to its landing, for an accessor. -/
inductive Course (a : Accessor) (f : FlightId) : List Incident → Landing → Prop
  | found {v} : Course a f [.found f v] (.value v)
  | stored {x} :
      Course a f [.concluded a f (.returned x none), .stored f (a.slot.type.box x)]
        (.value (a.slot.type.box x))
  | failed {o l} (hl : (o.conclude a.slot f).core = .land f l) : Course a f [.concluded a f o] l
  /-- The observer panicked before the constructor. -/
  | refused {q} : Course a f [.broken (.build f) f q] (.crash q)
  /-- The observer panicked over the instance that was found. -/
  | spoilt {v q} : Course a f [.found f v, .broken (.land f (.value v)) f q] (.crash q)
  /-- The observer panicked over the failure of the constructor. -/
  | dropped {o e q} (hl : (o.conclude a.slot f).core = .land f (.fault e)) :
      Course a f [.concluded a f o, .broken (.land f (.fault e)) f q] (.crash q)

/-- The incidents so far are those of a leader in the phase of the request. -/
def Request.Follows (q : Request) (f : FlightId) (I : List Incident) : Prop :=
  match q.phase with
  | .recheck _ | .build _ => I = []
  | .keep _ v =>
    ∃ x, I = [.concluded q.accessor f (.returned x none)] ∧ v = q.accessor.slot.type.box x
  | .land _ l => Course q.accessor f I l
  | _ => True

namespace World

variable {P : Program σ} {t : ThreadId} {w w' : World σ} {th th' : Thread σ} {f : FlightId}
  {h : List (Move σ)}

/-- The incidents of the flight fit to where the flight stands. -/
structure Charted (f : FlightId) (h : List (Move σ)) (w : World σ) : Prop where
  ahead : w.flights[f]? = none → incidents f h = []
  led : ∀ {t : ThreadId} {th : Thread σ} {q : Request}, w.threads[t]? = some th →
    q ∈ th.requests → q.flight? = some f → q.Follows f (incidents f h)
  landed : ∀ {fl : Flight} {l : Landing}, w.flights[f]? = some fl → fl.landing = some l →
    ∃ a, a.registry = fl.registry ∧ a.slot = fl.slot ∧ Course a f (incidents f h) l

/-- An instance that the leader lands and tells of was found. -/
def Credited (f : FlightId) (h : List (Move σ)) (w : World σ) : Prop :=
  ∀ (t : ThreadId) (th : Thread σ) (v : Value), w.threads[t]? = some th →
    th.Announces (.land f (.value v)) → .found f v ∈ incidents f h

/-- A step keeps what the leader tells of to what was found. -/
theorem Credited.step (hc : Credited f h w) (hp : w.Proper) (hs : w.step P t = some w') :
    Credited f (h ++ [⟨t, w, w'⟩]) w' := by
  intro u x v hx ha
  rw [incidents_append, List.mem_append]
  obtain ⟨th, th', ht, hset, turn⟩ := step_turn hs
  obtain ⟨rfl, rfl⟩ | ⟨-, hx⟩ := threads_cases (getElem?_threads_set ht hset) hx
  · rcases turn.announces ht (hp _ _ ht) ha with ha | hb
    · exact Or.inl (hc u th v ht ha)
    · cases hb with
      | found hi => exact Or.inr (mem_incidents.mpr ⟨_, List.mem_singleton_self _, hi, rfl⟩)
  · exact Or.inl (hc u x v hx ha)

/-- An advance of a request that leads no flight is no incident. -/
theorem Advance.incident_eq_none {a : Accessor} {i : Option Incident} {p p' : Phase}
    (hadv : Advance w a i p p') (hp : p.flight? = none) : i = none := by
  cases hadv with
  | hit | miss | join | release | clear | spill => rfl
  | find | conclude => cases hp
  | crash hg => cases hg.symm.trans hp

/-- An advance of a leader is an incident of its flight, or none. -/
theorem Advance.incident_flight {a : Accessor} {i : Option Incident} {p p' : Phase}
    (hadv : Advance w a i p p') (hp : p.flight? = some f) : ∀ j ∈ i, j.flight = f := by
  intro j hj
  cases hadv with
  | hit | miss | join | release | clear | spill => cases hj
  | find | conclude =>
      obtain rfl := Option.some.inj hj
      exact Option.some.inj hp
  | crash hg =>
      obtain rfl := Option.some.inj hj
      exact Option.some.inj (hg.symm.trans hp)

/-- The incidents of a leader that advances fit to its new phase if they did to the old one. -/
theorem Advance.follows {a : Accessor} {i : Option Incident} {p p' : Phase} {I : List Incident}
    (hadv : Advance w a i p p') (hw : w.Valid) (hs : w.Sound t ⟨a, p⟩) (hi : w.incident? t = i)
    (hp : p.flight? = some f) (hI : Request.Follows ⟨a, p⟩ f I)
    (hcr : ∀ q v, w.incident? t = some (.broken (.land f (.value v)) f q) → .found f v ∈ I) :
    Request.Follows ⟨a, p'⟩ f (I ++ i.toList) := by
  cases hadv with
  | hit | miss | join | release => cases hp
  | find hv =>
      obtain rfl := Option.some.inj hp
      obtain rfl : I = [] := hI
      exact .found
  | clear hv =>
      obtain rfl : I = [] := hI
      rfl
  | @conclude g o =>
      obtain rfl := Option.some.inj hp
      obtain rfl : I = [] := hI
      obtain ⟨x, rfl, hk⟩ | ⟨l, -, -, hk⟩ := o.conclude_core a.slot g
      · exact ⟨x, rfl, rfl⟩
      · rw [hk]
        exact .failed hk
  | spill hr hb => simp [hw.writable hs.1 hr] at hb
  | @crash p g q hg =>
      obtain rfl := Option.some.inj (hg.symm.trans hp)
      cases hw.proper.exposed hi with
      | build =>
          obtain rfl : I = [] := hI
          exact .refused
      | @found v =>
          have hv : .found g v ∈ I := hcr q v hi
          have hI : Course a g I (.value v) := hI
          cases hI with
          | found => exact .spoilt
          | stored | failed => simp at hv
      | @failed e =>
          have hI : Course a g I (.fault e) := hI
          cases hI with
          | failed hl => exact .dropped hl

/-- An incident belongs to a flight that the thread leads. -/
theorem exists_leads_of_incident (hs : w.step P t = some w') {i : Incident}
    (hi : w.incident? t = some i) :
    ∃ th q, w.threads[t]? = some th ∧ q ∈ th.requests ∧ q.flight? = some i.flight := by
  obtain ⟨th, th', R, R', ht, hth, hR, hR', j, hj, hsh⟩ := step_shift hs
  obtain rfl := hj.symm.trans hi
  cases hsh with
  | @advance a i p p' R ha hadv =>
      refine ⟨th, ⟨a, p⟩, ht, by simp [hR], ?_⟩
      cases hp : p.flight? with
      | none => cases hadv.incident_eq_none hp
      | some g =>
          rw [hadv.incident_flight hp _ rfl]
          exact hp
  | @keep a f v R =>
      exact ⟨th, ⟨a, .keep f v⟩, ht, by simp [hR], rfl⟩

/-- Nothing happens any more in a flight that has landed. -/
theorem Run.incidents_of_landed {h : List (Move σ)} (run : Run P w h w') (c : w.Consistent)
    {l : Landing} (hl : w.landing? f = some l) : incidents f h = [] := by
  rw [List.eq_nil_iff_forall_not_mem]
  intro i hi
  obtain ⟨m, hm, hmi, rfl⟩ := mem_incidents.mp hi
  obtain ⟨h₁, -, -, run₁, hs, -⟩ := run.split hm
  have hc : m.before.Consistent := run₁.preserves (fun c hs => c.step hs) c
  obtain ⟨th, q, ht, hq, hqf⟩ := exists_leads_of_incident hs hmi
  obtain ⟨fl, hfl, -, -, -, hn⟩ := (hc.sound ht hq).leads hqf
  obtain ⟨fl', hfl', hl'⟩ := landing?_eq_some.mp (run₁.landing? c hl)
  obtain rfl := Option.some.inj (hfl.symm.trans hfl')
  simp [hn] at hl'

namespace Charted

/-- A step without an incident leaves the incidents as they are. -/
theorem incidents_quiet (hi : w.incident? t = none) :
    incidents f (h ++ [⟨t, w, w'⟩]) = incidents f h := by
  rw [incidents_append, incidents_singleton, Move.incident?, hi]
  exact List.append_nil _

section Step

variable (ht : w.threads[t]? = some th)
  (hth : ∀ u, w'.threads[u]? = if u = t then some th' else w.threads[u]?)
include ht hth

/-- The chart is kept where nothing happens in a flight and no leader is new. -/
theorem of_quiet (hc : Charted f h w) (hi : w.incident? t = none) (hfl : w'.flights = w.flights)
    (hq : ∀ q ∈ th'.requests, q.flight? = some f → q ∈ th.requests) :
    Charted f (h ++ [⟨t, w, w'⟩]) w' := by
  constructor
  · intro hn
    rw [incidents_quiet hi]
    exact hc.ahead (hfl ▸ hn)
  · intro u x q hx hm hf
    rw [incidents_quiet hi]
    obtain ⟨rfl, rfl⟩ | ⟨-, hx⟩ := threads_cases hth hx
    · exact hc.led ht (hq q hm hf) hf
    · exact hc.led hx hm hf
  · intro fl l hf hl
    rw [incidents_quiet hi]
    exact hc.landed (hfl ▸ hf) hl

/-- The chart is kept where a leader goes on in its flight. -/
theorem of_head (hc : Charted f h w) (c : w.Consistent) {q₀ q₁ : Request} {g : FlightId}
    {R : List Request} (hR : th.requests = q₀ :: R) (hR' : th'.requests = q₁ :: R)
    (h₀ : q₀.flight? = some g) (h₁ : q₁.flight? = some g) (hfl : w'.flights = w.flights)
    (hi : ∀ i ∈ w.incident? t, i.flight = g)
    (hq : q₀.Follows g (incidents g h) →
      q₁.Follows g (incidents g h ++ (w.incident? t).toList)) :
    Charted f (h ++ [⟨t, w, w'⟩]) w' := by
  have hlead := (c.sound ht (q := q₀) (by simp [hR])).leads h₀
  obtain ⟨gl, hgl, -, -, -, hgn⟩ := hlead
  by_cases hgf : g = f
  · subst hgf
    have hI : incidents g (h ++ [⟨t, w, w'⟩]) = incidents g h ++ (w.incident? t).toList := by
      rw [incidents_append, incidents_singleton, Move.incident?]
      cases hx : w.incident? t with
      | none => rfl
      | some i => simp [Option.filter, hi i hx]
    constructor
    · intro hn
      rw [hfl, hgl] at hn
      cases hn
    · intro u x q hx hm hf
      rcases c.not_leads ht hth hR hR' h₀ hx hm with ⟨-, rfl⟩ | ⟨-, hne⟩
      · rw [hI]
        exact hq (hc.led ht (by simp [hR]) h₀)
      · exact (hne hf).elim
    · intro fl l hf hl
      rw [hfl, hgl] at hf
      obtain rfl := Option.some.inj hf
      simp [hgn] at hl
  · have hI : incidents f (h ++ [⟨t, w, w'⟩]) = incidents f h := by
      rw [incidents_append, incidents_singleton, Move.incident?]
      cases hx : w.incident? t with
      | none => exact List.append_nil _
      | some i => simp [Option.filter, hi i hx, hgf]
    constructor
    · intro hn
      rw [hI]
      exact hc.ahead (hfl ▸ hn)
    · intro u x q hx hm hf
      rw [hI]
      obtain ⟨rfl, rfl⟩ | ⟨-, hx⟩ := threads_cases hth hx
      · rw [hR', List.mem_cons] at hm
        rcases hm with rfl | hm
        · exact (hgf (Option.some.inj (h₁.symm.trans hf))).elim
        · exact hc.led ht (by simp [hR, hm]) hf
      · exact hc.led hx hm hf
    · intro fl l hf hl
      rw [hI]
      exact hc.landed (hfl ▸ hf) hl

/-- The chart is kept when a flight takes off: nothing has happened in it yet. -/
theorem takeOff (hc : Charted f h w) {a : Accessor} {id : String} {R : List Request}
    (hi : w.incident? t = none) (hR : th.requests = ⟨a, .board id⟩ :: R)
    (hR' : th'.requests = ⟨a, .recheck w.flights.length⟩ :: R)
    (hf : ∀ g, w'.flights[g]? =
      if g = w.flights.length then some ⟨a.registry, a.slot, id, t, none⟩ else w.flights[g]?) :
    Charted f (h ++ [⟨t, w, w'⟩]) w' := by
  constructor
  · intro hn
    rw [incidents_quiet hi]
    rw [hf] at hn
    split at hn
    · cases hn
    · exact hc.ahead hn
  · intro u x q hx hm hqf
    rw [incidents_quiet hi]
    obtain ⟨rfl, rfl⟩ | ⟨-, hx⟩ := threads_cases hth hx
    · rw [hR', List.mem_cons] at hm
      rcases hm with rfl | hm
      · obtain rfl := Option.some.inj hqf
        exact hc.ahead (by simp)
      · exact hc.led ht (by simp [hR, hm]) hqf
    · exact hc.led hx hm hqf
  · intro fl l hfl hl
    rw [incidents_quiet hi]
    rw [hf] at hfl
    split at hfl
    · obtain rfl := Option.some.inj hfl
      cases hl
    · exact hc.landed hfl hl

/-- The chart is kept when a flight lands: the leader came to it on its course. -/
theorem land (hc : Charted f h w) (c : w.Consistent) {a : Accessor} {g : FlightId}
    {flight : Flight} {l : Landing} {R : List Request} (hi : w.incident? t = none)
    (hR : th.requests = ⟨a, .land g l⟩ :: R) (hR' : th'.requests = ⟨a, .settle g l⟩ :: R)
    (hfl : w.flights[g]? = some flight)
    (hf : ∀ k, w'.flights[k]? =
      if k = g then some { flight with landing := some l } else w.flights[k]?) :
    Charted f (h ++ [⟨t, w, w'⟩]) w' := by
  constructor
  · intro hn
    rw [incidents_quiet hi]
    rw [hf] at hn
    split at hn
    · cases hn
    · exact hc.ahead hn
  · intro u x q hx hm hqf
    rw [incidents_quiet hi]
    obtain ⟨rfl, rfl⟩ | ⟨-, hx⟩ := threads_cases hth hx
    · rw [hR', List.mem_cons] at hm
      rcases hm with rfl | hm
      · cases hqf
      · exact hc.led ht (by simp [hR, hm]) hqf
    · exact hc.led hx hm hqf
  · intro fl l' hfl' hl
    rw [incidents_quiet hi]
    rw [hf] at hfl'
    split at hfl'
    · rename_i hfg
      subst hfg
      obtain rfl := Option.some.inj hfl'
      obtain rfl := Option.some.inj hl
      have hq : (⟨a, .land f l⟩ : Request) ∈ th.requests := by simp [hR]
      obtain ⟨fl', hfl', -, hr, hs, -⟩ := (c.sound ht hq).leads rfl
      obtain rfl := Option.some.inj (hfl.symm.trans hfl')
      exact ⟨a, hr.symm, hs.symm, hc.led ht hq rfl⟩
    · exact hc.landed hfl' hl

end Step

/-- A step keeps the chart of a flight. -/
theorem step (hc : Charted f h w) (hw : w.Valid) (hcr : ∀ g, Credited g h w)
    (hs : w.step P t = some w') : Charted f (h ++ [⟨t, w, w'⟩]) w' := by
  obtain ⟨th, th', R, R', ht, hth, hR, hR', i, hi, hsh⟩ := step_shift hs
  cases hsh with
  | idle ha =>
      exact hc.of_quiet ht hth hi ha.flights fun q hm _ => by rwa [hR, ← hR']
  | opens ha =>
      refine hc.of_quiet ht hth hi ha.flights fun q hm hf => ?_
      rw [hR', List.mem_cons] at hm
      rcases hm with rfl | hm
      · cases hf
      · rwa [hR]
  | closes ha hp =>
      exact hc.of_quiet ht hth hi ha.flights fun q hm _ => by simp [hR, ← hR', hm]
  | identify hs hii hf hn hid =>
      refine hc.of_quiet ht hth hi hf fun q hm hqf => ?_
      rw [hR', List.mem_cons] at hm
      rcases hm with rfl | hm
      · cases hqf
      · simp [hR, hm]
  | @advance a i p p' R ha hadv =>
      have hsound : w.Sound t ⟨a, p⟩ := hw.consistent.sound ht (by simp [hR])
      obtain ⟨-, hp'⟩ := hw.consistent.advance hadv hsound
      cases hp : p.flight? with
      | none =>
          obtain rfl := hadv.incident_eq_none hp
          refine hc.of_quiet ht hth hi ha.flights fun q hm hqf => ?_
          rw [hR', List.mem_cons] at hm
          rcases hm with rfl | hm
          · cases (hp'.trans hp).symm.trans hqf
          · simp [hR, hm]
      | some g =>
          refine hc.of_head ht hth hw.consistent hR hR' hp (hp'.trans hp) ha.flights ?_ ?_
          · rw [hi]
            exact hadv.incident_flight hp
          · intro hI
            rw [hi]
            refine hadv.follows hw hsound hi hp hI fun q v hb => ?_
            obtain ⟨-, -, b, S, ht⟩ := hw.proper.announced_of_broken hb
            exact hcr g t _ v ht (Or.inl ⟨b, List.mem_cons_self ..⟩)
  | takeOff hs hid hn hii hf => exact hc.takeOff ht hth hi hR hR' hf
  | @keep a g v R hid hii hf hs =>
      refine hc.of_head ht hth hw.consistent hR hR' (g := g) rfl rfl hf ?_ ?_
      · simp [hi, Incident.flight]
      · rintro ⟨x, hI, hv⟩
        obtain rfl : v = a.slot.type.box x := hv
        rw [hi, hI]
        exact .stored
  | land hs hid hfl hii hf => exact hc.land ht hth hw.consistent hi hR hR' hfl hf

end Charted

/-- In every run the leaders tell only of instances that were found. -/
theorem Run.credited {w₀ : World σ} (run : Run P w₀ h w) (fresh : w₀.Fresh) (f : FlightId) :
    Credited f h w := by
  refine run.keeps fresh ?_ fun hw hc hs => hc.step hw.proper hs
  rintro t th v ht (⟨a, hm⟩ | ⟨a, event, fault, he⟩)
  · obtain ⟨c, rfl⟩ := fresh.threads th (List.mem_of_getElem? ht)
    cases hm
  · obtain ⟨c, rfl⟩ := fresh.threads th (List.mem_of_getElem? ht)
    cases he

/-- Every flight of a run took one of the courses. -/
theorem Run.charted {w₀ : World σ} (run : Run P w₀ h w) (fresh : w₀.Fresh) (f : FlightId) :
    Charted f h w := by
  induction run with
  | start =>
      refine ⟨fun _ => rfl, ?_, ?_⟩
      · intro t th q ht hq
        obtain ⟨c, rfl⟩ := fresh.threads th (List.mem_of_getElem? ht)
        cases hq
      · intro fl l hf
        simp [fresh.flights] at hf
  | step run hs ih => exact ih.step (run.valid fresh) (run.credited fresh) hs

end World

end InstanceRegistry
