import InstanceRegistry.Proofs.Flight

/-!
# What a failed flight leaves behind

A flight fails when its constructor returns a fault or panics, when the search of that
fault crashes, or when an observer panics at the start of the construction or at its
failure. From then on the leader is on its way to land and nothing is stored under the
slot: a slot has one leader at a time, so nobody else can store there. When the flight
has landed, its registry is as if it had never taken off.
-/

namespace InstanceRegistry

variable {σ : Type}

/-- The incident makes the flight fail. An observer that panics over an instance that was found
does not: the instance is there. -/
def Incident.Fails : Incident → Prop
  | .concluded _ _ (.returned _ none) => False
  | .concluded _ _ _ => True
  | .broken (.land _ (.value _)) _ _ => False
  | .broken _ _ _ => True
  | .found _ _ | .stored _ _ => False

/-- The move lands the flight. -/
def Move.Lands (m : Move σ) (f : FlightId) : Prop :=
  ∃ a l S, m.actor? = some ⟨.requesting a (.land f l), S⟩

/-- The move is a step of the flight itself, and not of code that the flight runs: the flight
takes off, its leader goes on with it, or a constructor or an observer hands back to it. -/
def Move.IsOf (m : Move σ) (f : FlightId) : Prop :=
  (∃ a id S, m.actor? = some ⟨.requesting a (.board id), S⟩ ∧ m.before.flights.length = f ∧
    f < m.after.flights.length) ∨
  (∃ a p S, m.actor? = some ⟨.requesting a p, S⟩ ∧ p.flight? = some f) ∨
  ∃ o fr q S, m.actor? = some ⟨.returning o, fr :: S⟩ ∧ fr.request? = some q ∧
    q.flight? = some f

/-- The move changes nothing in the registries but the entry of the flight in the table of
flights. -/
def Move.OnlyLists (m : Move σ) (f : FlightId) (fl : Flight) : Prop :=
  m.after.registries = m.before.registries ∨
    ∃ reg, m.before.registries[fl.registry]? = some reg ∧
      (m.after.registries = m.before.registries.set fl.registry (reg.depart fl.id f) ∨
        m.after.registries = m.before.registries.set fl.registry (reg.arrive fl.id))

/-- A flight that stored an instance did not fail. -/
theorem Course.not_fails {a : Accessor} {f : FlightId} {I : List Incident} {l : Landing}
    (h : Course a f I l) {v : Value} (hv : .stored f v ∈ I) {i : Incident} (hi : i ∈ I) :
    ¬ i.Fails := by
  cases h with
  | found | failed | refused | spoilt | dropped => simp at hv
  | stored =>
      rcases List.mem_cons.mp hi with rfl | hi
      · exact id
      · obtain rfl := List.mem_singleton.mp hi
        exact id

namespace World

variable {P : Program σ} {t : ThreadId} {w w' : World σ} {th th' : Thread σ} {f : FlightId}

/-- The leader of the flight is about to land it, and nothing is stored under the slot. -/
def Grounded (w : World σ) (f : FlightId) : Prop :=
  ∃ (t : ThreadId) (th : Thread σ) (a : Accessor) (l : Landing), w.threads[t]? = some th ∧
    ⟨a, .land f l⟩ ∈ th.requests ∧ w.stored? a.registry a.slot = none

/-- A failure grounds the flight. -/
theorem grounded_of_fails (hw : w.Valid) (hs : w.step P t = some w') {i : Incident}
    (hi : w.incident? t = some i) (hf : i.Fails) : w'.Grounded i.flight := by
  obtain ⟨th, th', R, R', ht, hth, hR, hR', j, hj, hsh⟩ := step_shift hs
  obtain rfl := hj.symm.trans hi
  have ht' : w'.threads[t]? = some th' := by simp [hth]
  cases hsh with
  | keep => exact hf.elim
  | @advance a j p p' R ha hadv =>
      have hsound : w.Sound t ⟨a, p⟩ := hw.consistent.sound ht (by simp [hR])
      cases hadv with
      | find => exact hf.elim
      | @conclude f o =>
          obtain ⟨x, rfl, -⟩ | ⟨l, -, -, hk⟩ := o.conclude_core a.slot f
          · exact hf.elim
          · rw [hk] at hR'
            exact ⟨t, th', a, l, ht', by simp [hR', Incident.flight],
              (ha.stored _ _).trans hsound.2⟩
      | @crash p f q hp =>
          refine ⟨t, th', a, .crash q, ht', by simp [hR', Incident.flight],
            (ha.stored _ _).trans ?_⟩
          cases hw.proper.exposed hi with
          | build => exact hsound.2
          | found => exact hf.elim
          | failed => exact hsound.2

/-- A flight that is grounded stays so until it lands. -/
theorem Grounded.step (hg : w.Grounded f) (hw : w.Valid) (hs : w.step P t = some w') :
    w'.Grounded f ∨ ∃ l, w'.landing? f = some l := by
  obtain ⟨u, x, a, l, hx, hq, hn⟩ := hg
  obtain ⟨th, th', R, R', ht, hth, hR, hR', i, hi, hsh⟩ := step_shift hs
  -- The request itself: it stays where it is unless it is the innermost one of the thread.
  have hstay (hs : w'.stored? a.registry a.slot = none)
      (hin : u = t → (⟨a, .land f l⟩ : Request) ∈ th'.requests) : w'.Grounded f := by
    by_cases hu : u = t
    · exact ⟨t, th', a, l, by simp [hth], hin hu, hs⟩
    · exact ⟨u, x, a, l, by simpa [hth, hu] using hx, hq, hs⟩
  have hmem (hu : u = t) : (⟨a, .land f l⟩ : Request) ∈ th.requests := by
    subst hu
    obtain rfl := Option.some.inj (ht.symm.trans hx)
    exact hq
  have htail {q₀ : Request} {R : List Request} (hR : th.requests = q₀ :: R)
      (hne : q₀ ≠ ⟨a, .land f l⟩) (hu : u = t) : (⟨a, .land f l⟩ : Request) ∈ R := by
    have hm := hmem hu
    rw [hR, List.mem_cons] at hm
    exact hm.resolve_left (Ne.symm hne)
  cases hsh with
  | idle ha =>
      exact Or.inl (hstay ((ha.stored _ _).trans hn) fun hu => by rw [hR', ← hR]; exact hmem hu)
  | opens ha =>
      refine Or.inl (hstay ((ha.stored _ _).trans hn) fun hu => ?_)
      rw [hR', ← hR]
      exact List.mem_cons_of_mem _ (hmem hu)
  | @closes b p R ha hp =>
      have hne : (⟨b, p⟩ : Request) ≠ ⟨a, .land f l⟩ := by
        intro heq
        have hnone := hw.consistent.flight?_of_closes (hw.consistent.sound ht (by simp [hR])) hp
        rw [(Request.mk.inj heq).2] at hnone
        cases hnone
      exact Or.inl (hstay ((ha.stored _ _).trans hn) fun hu => hR' ▸ htail hR hne hu)
  | @advance b i p p' R ha hadv =>
      by_cases heq : u = t ∧ (⟨b, p⟩ : Request) = ⟨a, .land f l⟩
      · -- The leader can only be thrown off its way by its observer, and lands then as well.
        obtain ⟨rfl, heq⟩ := heq
        obtain ⟨rfl, rfl⟩ := Request.mk.inj heq
        cases hadv with
        | @crash p g q hg =>
            obtain rfl := Option.some.inj hg
            exact Or.inl ⟨u, th', b, .crash q, by simp [hth], by simp [hR'],
              (ha.stored _ _).trans hn⟩
      · refine Or.inl (hstay ((ha.stored _ _).trans hn) fun hu => ?_)
        rw [hR']
        exact List.mem_cons_of_mem _ (htail hR (fun h => heq ⟨hu, h⟩) hu)
  | identify hs =>
      refine Or.inl (hstay ((hs _ _).trans hn) fun hu => ?_)
      rw [hR']
      exact List.mem_cons_of_mem _ (htail hR (by simp) hu)
  | takeOff hs =>
      refine Or.inl (hstay ((hs _ _).trans hn) fun hu => ?_)
      rw [hR']
      exact List.mem_cons_of_mem _ (htail hR (by simp) hu)
  | @keep b g v R hid hii hf hs =>
      have hne : ¬ (a.registry = b.registry ∧ a.slot = b.slot) := by
        rintro ⟨hr, hsl⟩
        have hq' : (⟨b, .keep g v⟩ : Request) ∈ th.requests := by simp [hR]
        obtain ⟨-, heq⟩ := hw.consistent.request_unique hx hq rfl ht hq' rfl hr hsl
        cases heq
      refine Or.inl (hstay ?_ fun hu => ?_)
      · rw [hs, if_neg hne, hn]
      · rw [hR']
        exact List.mem_cons_of_mem _ (htail hR (by simp) hu)
  | @land b g flight k R hs hid hfl hii hf =>
      by_cases hgf : f = g
      · subst hgf
        refine Or.inr ⟨k, landing?_eq_some.mpr ⟨{ flight with landing := some k }, ?_, rfl⟩⟩
        simp [hf]
      · refine Or.inl (hstay ((hs _ _).trans hn) fun hu => ?_)
        rw [hR']
        refine List.mem_cons_of_mem _ (htail hR (fun heq => hgf ?_) hu)
        exact (Phase.land.inj (Request.mk.inj heq).2).1.symm

/-- What a landing does: the flight has its landing, and its entry in the table is gone. -/
theorem Valid.landing_step (hw : w.Valid) (hs : w.step P t = some w') {a : Accessor}
    {l : Landing} {S : List (Frame σ)} (ht : w.threads[t]? = some ⟨.requesting a (.land f l), S⟩) :
    ∃ fl reg, w.flights[f]? = some fl ∧ fl.registry = a.registry ∧ fl.slot = a.slot ∧
      w.registries[fl.registry]? = some reg ∧
      w'.registries = w.registries.set fl.registry (reg.arrive fl.id) ∧
      w'.landing? f = some l := by
  obtain ⟨fl, hfl, -, hr, hsl, -⟩ :=
    (hw.consistent.sound ht (q := ⟨a, .land f l⟩) (List.mem_cons_self ..)).1
  obtain ⟨th', -, turn⟩ := turn_of_step ht hs
  cases turn with
  | lost hq hn =>
      have hid := hw.consistent.named hfl
      rw [hr, id?, hn] at hid
      cases hid
  | land hreg hfl' hset hfs =>
      obtain rfl := Option.some.inj (hfl.symm.trans hfl')
      refine ⟨fl, _, hfl, hr, hsl, hr ▸ hreg, hr ▸ hset, ?_⟩
      rw [landing?, hfs, setLanding]
      simp [hfl]

/-- The store and the tables of a registry after a landing. -/
theorem Valid.tables_of_landing (hw : w.Valid) (hs : w.step P t = some w') {a : Accessor}
    {l : Landing} {S : List (Frame σ)} (ht : w.threads[t]? = some ⟨.requesting a (.land f l), S⟩)
    {fl : Flight} (hfl : w.flights[f]? = some fl) :
    w'.stored? fl.registry fl.slot = w.stored? fl.registry fl.slot ∧
      w'.inFlight? fl.registry fl.id = none ∧ w'.id? fl.registry fl.slot = some fl.id := by
  obtain ⟨fl', reg, hfl', -, -, hreg, hset, -⟩ := hw.landing_step hs ht
  obtain rfl := Option.some.inj (hfl.symm.trans hfl')
  refine ⟨stored?_of_set hreg hset rfl _ _, ?_, ?_⟩
  · rw [inFlight?, hset, bind_getElem?_set hreg, if_pos rfl]
    simp [Registry.arrive]
  · rw [id?_of_set hreg hset rfl]
    exact hw.consistent.named hfl

/-- Nothing happens in a flight from its landing on. -/
theorem Valid.incidents_of_landing {m : Move σ} {h : List (Move σ)} (hw : m.before.Valid)
    (hs : m.before.step P m.thread = some m.after) (run : Run P m.after h w) (hl : m.Lands f) :
    incidents f (m :: h) = [] := by
  obtain ⟨a, l, S, ht⟩ := hl
  obtain ⟨-, -, -, -, -, -, -, hland⟩ := hw.landing_step hs ht
  have hm : m.incident? = none := by
    change m.before.threads[m.thread]? = _ at ht
    rw [Move.incident?, World.incident?, ht]
  have hrest := run.incidents_of_landed (hw.consistent.step hs) hland
  rw [← List.singleton_append, incidents_append, incidents_singleton, hm, hrest]
  rfl

namespace Run

variable {w₀ : World σ} {h : List (Move σ)} {m : Move σ} {i : Incident}

/-- A flight that failed is grounded when it comes to land. -/
theorem grounded (run : Run P w₀ h w) (fresh : w₀.Fresh) (hm : m ∈ h) (hl : m.Lands f)
    (hi : i ∈ incidents f h) (hf : i.Fails) : m.before.Grounded f := by
  obtain ⟨h₁, h₂, rfl, run₁, hs, run₂⟩ := run.split hm
  have hw := run₁.valid fresh
  rw [incidents_append, hw.incidents_of_landing hs run₂ hl, List.append_nil] at hi
  obtain ⟨m', hm', hmi, rfl⟩ := mem_incidents.mp hi
  obtain ⟨h₃, h₄, -, run₃, hs', run₄⟩ := run₁.split hm'
  have hw' := run₃.valid fresh
  have hkeep := run₄.preserves
    (I := fun v => v.Valid ∧ (v.Grounded i.flight ∨ ∃ l, v.landing? i.flight = some l))
    (fun {v t v'} ⟨hv, hg⟩ hs => by
      refine ⟨hv.step hs, ?_⟩
      rcases hg with hg | ⟨l, hl⟩
      · exact hg.step hv hs
      · exact Or.inr ⟨l, hv.consistent.landing?_step hs hl⟩)
    ⟨hw'.step hs', Or.inl (grounded_of_fails hw' hs' hmi hf)⟩
  rcases hkeep.2 with hg | ⟨l, hland⟩
  · exact hg
  · obtain ⟨a, l', S, ht⟩ := hl
    obtain ⟨fl, hfl, -, -, -, hn⟩ :=
      (hw.consistent.sound ht (q := ⟨a, .land i.flight l'⟩) (List.mem_cons_self ..)).1
    obtain ⟨fl', hfl', hl'⟩ := landing?_eq_some.mp hland
    obtain rfl := Option.some.inj (hfl.symm.trans hfl')
    simp [hn] at hl'

/-- After the landing of a flight that failed, nothing is stored under its slot, its entry in the
table of flights is gone, and the slot has the identifier that it always had. -/
theorem tables_of_failure (run : Run P w₀ h w) (fresh : w₀.Fresh) (hm : m ∈ h) (hl : m.Lands f)
    (hi : i ∈ incidents f h) (hf : i.Fails) {fl : Flight} (hfl : w.flights[f]? = some fl) :
    m.after.stored? fl.registry fl.slot = none ∧ m.after.inFlight? fl.registry fl.id = none ∧
      m.after.id? fl.registry fl.slot = some fl.id ∧
      ∀ m' ∈ h, ∀ id, m'.before.id? fl.registry fl.slot = some id → id = fl.id := by
  obtain ⟨h₁, h₂, -, run₁, hs, run₂⟩ := run.split hm
  have hw := run₁.valid fresh
  obtain ⟨u, x, b, l', hx, hq, hn⟩ := run.grounded fresh hm hl hi hf
  obtain ⟨fl₁, hfl₁, -, hr, hsl, -⟩ := (hw.consistent.sound hx hq).1
  obtain ⟨k, hk⟩ := ((Run.single hs).append run₂).flight hfl₁
  obtain rfl := Option.some.inj (hk.symm.trans hfl)
  obtain ⟨a, l, S, ht⟩ := hl
  obtain ⟨hstored, hin, hid⟩ := hw.tables_of_landing hs ht hfl₁
  refine ⟨hstored.trans ?_, hin, hid, fun m' hm' id hid' => ?_⟩
  · rw [hr, hsl]
    exact hn
  · obtain ⟨-, h₄, -, -, hs', run₄⟩ := run.split hm'
    have hend := ((Run.single hs').append run₄).id? hid'
    exact Option.some.inj (hend.symm.trans (run₂.id? hid))

/-- The leader of a flight that failed never comes to store. -/
theorem not_keep_of_failure (run : Run P w₀ h w) (fresh : w₀.Fresh) (hm : m ∈ h) (hl : m.Lands f)
    (hi : i ∈ incidents f h) (hf : i.Fails) {m' : Move σ} (hm' : m' ∈ h) (v : Value) :
    m'.incident? ≠ some (.stored f v) := by
  intro hstore
  obtain ⟨h₁, h₂, -, run₁, hs, run₂⟩ := run.split hm
  have hw := run₁.valid fresh
  obtain ⟨a, l, S, ht⟩ := hl
  obtain ⟨-, -, -, -, -, -, -, hland⟩ := hw.landing_step hs ht
  obtain ⟨fl, hfl, hl⟩ := landing?_eq_some.mp (run₂.landing? (hw.step hs).consistent hland)
  obtain ⟨b, -, -, hcourse⟩ := (run.charted fresh f).landed hfl hl
  exact hcourse.not_fails (mem_incidents.mpr ⟨m', hm', hstore, rfl⟩) hi hf

/-- The steps of a flight that failed change nothing in the registries but the entry of the
flight in the table of flights. -/
theorem onlyLists_of_failure (run : Run P w₀ h w) (fresh : w₀.Fresh) (hm : m ∈ h) (hl : m.Lands f)
    (hi : i ∈ incidents f h) (hf : i.Fails) {fl : Flight} (hfl : w.flights[f]? = some fl)
    {m' : Move σ} (hm' : m' ∈ h) (hof : m'.IsOf f) : m'.OnlyLists f fl := by
  obtain ⟨h₁, h₂, -, run₁, hs, run₂⟩ := run.split hm'
  have hw := run₁.valid fresh
  obtain ⟨th, th', ht, -, turn⟩ := step_turn hs
  rcases hof with ⟨a, id, S, hactor, hlen, -⟩ | ⟨a, p, S, hactor, hp⟩ |
      ⟨o, fr, q, S, hactor, -, -⟩
  · obtain rfl := Option.some.inj (ht.symm.trans hactor)
    cases turn with
    | lost hq | join hq => exact Or.inl hq.registries
    | takeOff hr hn hreg hfs =>
        have hfl₀ : m'.after.flights[f]? = some ⟨a.registry, a.slot, id, m'.thread, none⟩ := by
          rw [hfs, ← hlen]
          simp
        obtain ⟨k, hk⟩ := run₂.flight hfl₀
        obtain rfl := Option.some.inj (hk.symm.trans hfl)
        exact Or.inr ⟨_, hr, Or.inl (hlen ▸ hreg)⟩
  · obtain rfl := Option.some.inj (ht.symm.trans hactor)
    cases turn with
    | lost hq | find hq | clear hq | build hq | spill hq | skip hq | announce hq =>
        exact Or.inl hq.registries
    | hit | miss | identify | refuse | join | takeOff | share | release | settle | finish =>
        cases hp
    | @keep a S reg g v hr hb hwr =>
        obtain rfl := Option.some.inj hp
        refine (run.not_keep_of_failure fresh hm hl hi hf hm' v ?_).elim
        rw [Move.incident?, World.incident?, ht]
        simp [hr, hb]
    | @land a S reg g flight l hr hfl₀ hreg hfs =>
        obtain rfl := Option.some.inj hp
        obtain ⟨fl₁, reg₁, hfl₁, -, -, hr₁, hset, -⟩ := hw.landing_step hs ht
        obtain ⟨k, hk⟩ := ((Run.single hs).append run₂).flight hfl₁
        obtain rfl := Option.some.inj (hk.symm.trans hfl)
        exact Or.inr ⟨reg₁, hr₁, Or.inr hset⟩
  · obtain rfl := Option.some.inj (ht.symm.trans hactor)
    cases turn with
    | resume hq | answer hq | retry hq | pass hq | conclude hq | observed hq | crash hq
    | interrupt hq => exact Or.inl hq.registries

end Run

end World

end InstanceRegistry
