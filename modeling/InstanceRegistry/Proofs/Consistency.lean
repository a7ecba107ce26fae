import InstanceRegistry.Proofs.Request

/-!
# Consistency of a world

`Consistent` ties the tables of the registries, the flights and the requests of all
threads together. Its core is that a flight in the air has exactly one leader, which
is inside of it, and is listed under the identifier of its slot; so a slot has at
most one flight in the air, and of all requests only its leader can store.

## Implementation notes

Nothing here needs the identifiers of two slots to be distinct: it is enough that a
slot keeps its own. Only a request that waited may have shared the flight of another
slot with the same identifier, and this is what `Shares` leaves open.
-/

namespace InstanceRegistry

variable {σ : Type}

namespace World

/-- The thread leads the flight for the accessor, and the flight is in the air. -/
def Leads (w : World σ) (t : ThreadId) (a : Accessor) (f : FlightId) : Prop :=
  ∃ fl, w.flights[f]? = some fl ∧ fl.leader = t ∧ fl.registry = a.registry ∧
    fl.slot = a.slot ∧ fl.landing = none

/-- The flight was listed under the identifier of the accessor's slot. -/
def Shares (w : World σ) (a : Accessor) (f : FlightId) : Prop :=
  ∃ fl, w.flights[f]? = some fl ∧ fl.registry = a.registry ∧
    w.id? a.registry a.slot = some fl.id

/-- The store fits to a landing for the accessor: it has the instance, or none after a fault. -/
def Fits (w : World σ) (a : Accessor) : Landing → Prop
  | .value v => w.stored? a.registry a.slot = some v
  | .fault _ => w.stored? a.registry a.slot = none
  | .crash _ => True

/-- What holds of a request under way, by its phase. -/
def Sound (w : World σ) (t : ThreadId) (q : Request) : Prop :=
  match q.phase with
  | .check | .identify => True
  | .board id => w.id? q.accessor.registry q.accessor.slot = some id
  | .wait f => w.Shares q.accessor f
  | .recheck f => w.Leads t q.accessor f
  | .build f | .keep f _ =>
    w.Leads t q.accessor f ∧ w.stored? q.accessor.registry q.accessor.slot = none
  | .land f l => w.Leads t q.accessor f ∧ w.Fits q.accessor l
  | .settle f l => w.Shares q.accessor f ∧ w.landing? f = some l
  | .finish o =>
    ∃ v, w.stored? q.accessor.registry q.accessor.slot = some v ∧
      o = .returned (q.accessor.slot.type.unbox v) none
  | .announce _ _ _ => False

/-- The invariant of all runs. -/
structure Consistent (w : World σ) : Prop where
  /-- A listed flight is in the air. -/
  listed : ∀ {r : RegistryId} {id : String} {f : FlightId}, w.inFlight? r id = some f →
    ∃ fl, w.flights[f]? = some fl ∧ fl.registry = r ∧ fl.id = id ∧ fl.landing = none
  /-- A flight has the identifier of its slot. -/
  named : ∀ {f : FlightId} {fl : Flight}, w.flights[f]? = some fl →
    w.id? fl.registry fl.slot = some fl.id
  /-- A flight in the air is listed, and its leader is inside of it. -/
  led : ∀ {f : FlightId} {fl : Flight}, w.flights[f]? = some fl → fl.landing = none →
    w.inFlight? fl.registry fl.id = some f ∧
      ∃ th, w.threads[fl.leader]? = some th ∧ f ∈ th.leads
  /-- A flight that landed with an instance landed with the stored one. -/
  kept : ∀ {f : FlightId} {fl : Flight} {v : Value}, w.flights[f]? = some fl →
    fl.landing = some (.value v) →
    w.stored? fl.registry fl.slot = some v
  sound : ∀ {t : ThreadId} {th : Thread σ} {q : Request}, w.threads[t]? = some th →
    q ∈ th.requests → w.Sound t q
  /-- A thread leads a flight only once. -/
  once : ∀ {t : ThreadId} {th : Thread σ}, w.threads[t]? = some th → th.leads.Nodup

variable {P : Program σ} {t u : ThreadId} {w w' : World σ} {th th' : Thread σ}

/-- A request that leads a flight does so in the sense of the flight. -/
theorem Sound.leads {q : Request} {f : FlightId} (h : w.Sound t q) (hf : q.flight? = some f) :
    w.Leads t q.accessor f := by
  obtain ⟨a, p⟩ := q
  cases p with
  | recheck g =>
      obtain rfl := Option.some.inj hf
      exact h
  | build g | keep g v | land g l =>
      obtain rfl := Option.some.inj hf
      exact h.1
  | announce => exact h.elim
  | check | identify | board | wait | settle | finish => cases hf

/-- The flights that a thread leads are those of its requests. -/
theorem mem_leads {f : FlightId} :
    f ∈ th.leads ↔ ∃ q ∈ th.requests, q.flight? = some f := by
  simp [Thread.leads, List.mem_filterMap]

/-- Two members of a list with the same image are at the same place, if no image occurs twice. -/
theorem getElem?_inj_of_filterMap {α β : Type} {g : α → Option β} {l : List α}
    (h : (l.filterMap g).Nodup) {i j : Nat} {x y : α} {z : β} (hi : l[i]? = some x)
    (hj : l[j]? = some y) (hx : g x = some z) (hy : g y = some z) : i = j := by
  obtain ⟨hil, rfl⟩ := List.getElem?_eq_some_iff.mp hi
  obtain ⟨hjl, rfl⟩ := List.getElem?_eq_some_iff.mp hj
  have hp := List.pairwise_iff_getElem.mp (List.pairwise_filterMap.mp h)
  rcases Nat.lt_trichotomy i j with hlt | heq | hgt
  · exact (hp i j hil hjl hlt z hx z hy rfl).elim
  · exact heq
  · exact (hp j i hjl hil hgt z hy z hx rfl).elim

/-- The flights that a thread leads, by its innermost request. -/
theorem leads_of_requests {q : Request} {R : List Request} (h : th.requests = q :: R) :
    th.leads = q.flight?.toList ++ R.filterMap Request.flight? := by
  rw [Thread.leads, h]
  cases hq : q.flight? with
  | none => rw [List.filterMap_cons_none hq]; rfl
  | some f => rw [List.filterMap_cons_some hq]; rfl

namespace Consistent

/-- A slot has at most one flight in the air, and it has one leader. -/
theorem leads_unique (c : w.Consistent) {a b : Accessor} {f g : FlightId} (hf : w.Leads t a f)
    (hg : w.Leads u b g) (hr : a.registry = b.registry) (hs : a.slot = b.slot) :
    f = g ∧ t = u := by
  obtain ⟨fl, hfl, hft, hfr, hfs, hfn⟩ := hf
  obtain ⟨gl, hgl, hgt, hgr, hgs, hgn⟩ := hg
  have hid : fl.id = gl.id := by
    have hf := c.named hfl
    have hg := c.named hgl
    rw [hfr, hfs, hr, hs] at hf
    rw [hgr, hgs, hf] at hg
    exact Option.some.inj hg
  have heq : f = g := by
    have hf := (c.led hfl hfn).1
    have hg := (c.led hgl hgn).1
    rw [hfr, hr, hid] at hf
    rw [hgr, hf] at hg
    exact Option.some.inj hg
  subst heq
  obtain rfl := Option.some.inj (hfl.symm.trans hgl)
  exact ⟨rfl, hft.symm.trans hgt⟩

/-- Of all requests on a slot, one at most leads a flight. -/
theorem request_unique (c : w.Consistent) {x y : Thread σ} {q q' : Request} {f g : FlightId}
    (hx : w.threads[t]? = some x) (hq : q ∈ x.requests) (hf : q.flight? = some f)
    (hy : w.threads[u]? = some y) (hq' : q' ∈ y.requests) (hg : q'.flight? = some g)
    (hr : q.accessor.registry = q'.accessor.registry)
    (hs : q.accessor.slot = q'.accessor.slot) : t = u ∧ q = q' := by
  obtain ⟨rfl, rfl⟩ :=
    c.leads_unique ((c.sound hx hq).leads hf) ((c.sound hy hq').leads hg) hr hs
  obtain rfl := Option.some.inj (hx.symm.trans hy)
  obtain ⟨i, hi⟩ := List.mem_iff_getElem?.mp hq
  obtain ⟨j, hj⟩ := List.mem_iff_getElem?.mp hq'
  obtain rfl := getElem?_inj_of_filterMap (c.once hx) hi hj hf hg
  exact ⟨rfl, Option.some.inj (hi.symm.trans hj)⟩

/-- A request that leads a flight is not closed. -/
theorem flight?_of_closes (c : w.Consistent) {a : Accessor} {p : Phase}
    (hs : w.Sound t ⟨a, p⟩)
    (hp : ∀ f, p.flight? = some f → ∀ id, w.inFlight? a.registry id = none) :
    p.flight? = none := by
  cases hf : p.flight? with
  | none => rfl
  | some f =>
      obtain ⟨fl, hfl, -, hr, -, hn⟩ := hs.leads hf
      have hin := (c.led hfl hn).1
      rw [hr, hp f hf] at hin
      cases hin

end Consistent

section Step

variable (ht : w.threads[t]? = some th)
  (hth : ∀ u, w'.threads[u]? = if u = t then some th' else w.threads[u]?)
include ht hth

/-- A leader that was inside of a flight still is, if the thread that made the step still leads
what it led. -/
theorem exists_leader_of_subset {f : FlightId} {l : ThreadId}
    (h : ∃ x, w.threads[l]? = some x ∧ f ∈ x.leads) (hsub : l = t → f ∈ th.leads → f ∈ th'.leads) :
    ∃ x, w'.threads[l]? = some x ∧ f ∈ x.leads := by
  obtain ⟨x, hx, hf⟩ := h
  by_cases hl : l = t
  · subst hl
    obtain rfl := Option.some.inj (ht.symm.trans hx)
    exact ⟨th', by simp [hth], hsub rfl hf⟩
  · exact ⟨x, by simpa [hth, hl] using hx, hf⟩

end Step

/-- What is known of a landing is known of the flight. -/
theorem landing?_eq_some {f : FlightId} {l : Landing} :
    w.landing? f = some l ↔ ∃ fl, w.flights[f]? = some fl ∧ fl.landing = some l := by
  simp [landing?, Option.bind_eq_some_iff]

theorem Fits.congr {a : Accessor} {l : Landing} (h : w.Fits a l)
    (hs : w'.stored? a.registry a.slot = w.stored? a.registry a.slot) : w'.Fits a l := by
  cases l with
  | value v => exact hs.trans h
  | fault e => exact hs.trans h
  | crash p => trivial

/-- What holds of a request still does if what is stored is the same and identifiers and flights
were only added. -/
theorem Sound.mono {q : Request} (h : w.Sound t q) (hs : ∀ r s, w'.stored? r s = w.stored? r s)
    (hf : ∀ (f : FlightId) (fl : Flight), w.flights[f]? = some fl → w'.flights[f]? = some fl)
    (hid : ∀ r s id, w.id? r s = some id → w'.id? r s = some id) : w'.Sound t q := by
  obtain ⟨a, p⟩ := q
  cases p with
  | check | identify => trivial
  | board id => exact hid _ _ _ h
  | wait f =>
      obtain ⟨fl, hfl, hr, hi⟩ := h
      exact ⟨fl, hf _ _ hfl, hr, hid _ _ _ hi⟩
  | recheck f =>
      obtain ⟨fl, hfl, h⟩ := h
      exact ⟨fl, hf _ _ hfl, h⟩
  | build f | keep f v =>
      obtain ⟨⟨fl, hfl, h⟩, hn⟩ := h
      exact ⟨⟨fl, hf _ _ hfl, h⟩, (hs _ _).trans hn⟩
  | land f l =>
      obtain ⟨⟨fl, hfl, h⟩, hv⟩ := h
      exact ⟨⟨fl, hf _ _ hfl, h⟩, hv.congr (hs _ _)⟩
  | settle f l =>
      obtain ⟨⟨fl, hfl, hr, hi⟩, hl⟩ := h
      obtain ⟨fl', hfl', hl⟩ := landing?_eq_some.mp hl
      exact ⟨⟨fl, hf _ _ hfl, hr, hid _ _ _ hi⟩, landing?_eq_some.mpr ⟨fl', hf _ _ hfl', hl⟩⟩
  | finish o =>
      obtain ⟨v, hv, ho⟩ := h
      exact ⟨v, (hs _ _).trans hv, ho⟩
  | announce => exact h.elim

/-- What holds of a request still does after an instance was stored under a slot that was empty,
unless the request leads a flight of that slot. -/
theorem Sound.store {q : Request} {r : RegistryId} {s : Slot} {v : Value} (h : w.Sound t q)
    (hn : w.stored? r s = none)
    (hs : ∀ r' s', w'.stored? r' s' = if r' = r ∧ s' = s then some v else w.stored? r' s')
    (hf : w'.flights = w.flights) (hid : ∀ r s, w'.id? r s = w.id? r s)
    (hne : ∀ f, q.flight? = some f →
      ¬ (q.accessor.registry = r ∧ q.accessor.slot = s)) : w'.Sound t q := by
  have hmono (r' : RegistryId) (s' : Slot) (v' : Value) (hv : w.stored? r' s' = some v') :
      w'.stored? r' s' = some v' := by
    rw [hs, if_neg, hv]
    rintro ⟨rfl, rfl⟩
    simp [hn] at hv
  obtain ⟨a, p⟩ := q
  cases p with
  | check | identify => trivial
  | board id => exact (hid _ _).trans h
  | wait f =>
      obtain ⟨fl, hfl, hr, hi⟩ := h
      exact ⟨fl, by rw [hf, hfl], hr, (hid _ _).trans hi⟩
  | recheck f =>
      obtain ⟨fl, hfl, h⟩ := h
      exact ⟨fl, by rw [hf, hfl], h⟩
  | build f | keep f v =>
      obtain ⟨⟨fl, hfl, h⟩, hn⟩ := h
      refine ⟨⟨fl, by rw [hf, hfl], h⟩, ?_⟩
      change w'.stored? a.registry a.slot = none
      rw [hs, if_neg (hne f rfl)]
      exact hn
  | land f l =>
      obtain ⟨⟨fl, hfl, h⟩, hv⟩ := h
      refine ⟨⟨fl, by rw [hf, hfl], h⟩, hv.congr ?_⟩
      rw [hs, if_neg (hne f rfl)]
  | settle f l =>
      obtain ⟨⟨fl, hfl, hr, hi⟩, hl⟩ := h
      exact ⟨⟨fl, by rw [hf, hfl], hr, (hid _ _).trans hi⟩, by rw [landing?, hf]; exact hl⟩
  | finish o =>
      obtain ⟨v, hv, ho⟩ := h
      exact ⟨v, hmono _ _ _ hv, ho⟩
  | announce => exact h.elim

/-- What holds of a request still does after a flight landed, unless the request leads it. -/
theorem Sound.land {q : Request} {f : FlightId} {flight : Flight} {l : Landing} (h : w.Sound t q)
    (hfl : w.flights[f]? = some flight) (hn : flight.landing = none)
    (hf : ∀ g, w'.flights[g]? =
      if g = f then some { flight with landing := some l } else w.flights[g]?)
    (hs : ∀ r s, w'.stored? r s = w.stored? r s) (hid : ∀ r s, w'.id? r s = w.id? r s)
    (hne : q.flight? ≠ some f) : w'.Sound t q := by
  have hshares (a : Accessor) (g : FlightId) (h : w.Shares a g) : w'.Shares a g := by
    obtain ⟨fl, hg, hr, hi⟩ := h
    by_cases hgf : g = f
    · subst hgf
      obtain rfl := Option.some.inj (hfl.symm.trans hg)
      exact ⟨{ flight with landing := some l }, by simp [hf], hr, (hid _ _).trans hi⟩
    · exact ⟨fl, by simpa [hf, hgf] using hg, hr, (hid _ _).trans hi⟩
  have hleads (a : Accessor) (g : FlightId) (hgf : g ≠ f) (h : w.Leads t a g) :
      w'.Leads t a g := by
    obtain ⟨fl, hg, h⟩ := h
    exact ⟨fl, by simpa [hf, hgf] using hg, h⟩
  obtain ⟨a, p⟩ := q
  cases p with
  | check | identify => trivial
  | board id => exact (hid _ _).trans h
  | wait g => exact hshares a g h
  | recheck g => exact hleads a g (fun hg => hne (congrArg some hg)) h
  | build g | keep g v =>
      exact ⟨hleads a g (fun hg => hne (congrArg some hg)) h.1, (hs _ _).trans h.2⟩
  | land g l' =>
      exact ⟨hleads a g (fun hg => hne (congrArg some hg)) h.1, h.2.congr (hs _ _)⟩
  | settle g l' =>
      refine ⟨hshares a g h.1, ?_⟩
      obtain ⟨fl, hg, hl⟩ := landing?_eq_some.mp h.2
      have hgf : g ≠ f := by
        rintro rfl
        obtain rfl := Option.some.inj (hfl.symm.trans hg)
        simp [hn] at hl
      exact landing?_eq_some.mpr ⟨fl, by simpa [hf, hgf] using hg, hl⟩
  | finish o =>
      obtain ⟨v, hv, ho⟩ := h
      exact ⟨v, (hs _ _).trans hv, ho⟩
  | announce => exact h.elim

namespace Consistent

section Step

variable (ht : w.threads[t]? = some th)
  (hth : ∀ u, w'.threads[u]? = if u = t then some th' else w.threads[u]?)
include ht hth

/-- Consistency is kept if nothing is stored, no flight takes off or lands, and the requests that
are new to the thread are sound. -/
theorem of_same (c : w.Consistent) (hs : ∀ r s, w'.stored? r s = w.stored? r s)
    (hi : ∀ r i, w'.inFlight? r i = w.inFlight? r i) (hf : w'.flights = w.flights)
    (hid : ∀ r s id, w.id? r s = some id → w'.id? r s = some id) (hl : th'.leads = th.leads)
    (hq : ∀ q ∈ th'.requests, q ∈ th.requests ∨ w'.Sound t q) : w'.Consistent where
  listed h := by
    rw [hf]
    exact c.listed ((hi _ _).symm.trans h)
  named h := by
    rw [hf] at h
    exact hid _ _ _ (c.named h)
  led h hn := by
    rw [hf] at h
    obtain ⟨hin, hx⟩ := c.led h hn
    exact ⟨(hi _ _).trans hin, exists_leader_of_subset ht hth hx fun _ hm => hl ▸ hm⟩
  kept h hv := by
    rw [hf] at h
    exact (hs _ _).trans (c.kept h hv)
  sound hx hm := by
    obtain ⟨rfl, rfl⟩ | ⟨-, hx⟩ := threads_cases hth hx
    · rcases hq _ hm with hm | hm
      · exact (c.sound ht hm).mono hs (fun _ _ h => by rw [hf, h]) hid
      · exact hm
    · exact (c.sound hx hm).mono hs (fun _ _ h => by rw [hf, h]) hid
  once hx := by
    obtain ⟨rfl, rfl⟩ | ⟨-, hx⟩ := threads_cases hth hx
    · exact hl ▸ c.once ht
    · exact c.once hx

/-- Consistency is kept when a flight takes off. -/
theorem takeOff (c : w.Consistent) {a : Accessor} {id : String} {R : List Request}
    (hR : th.requests = ⟨a, .board id⟩ :: R)
    (hR' : th'.requests = ⟨a, .recheck w.flights.length⟩ :: R)
    (hs : ∀ r s, w'.stored? r s = w.stored? r s) (hid : ∀ r s, w'.id? r s = w.id? r s)
    (hn : w.inFlight? a.registry id = none)
    (hi : ∀ r i, w'.inFlight? r i =
      if r = a.registry ∧ i = id then some w.flights.length else w.inFlight? r i)
    (hf : ∀ g, w'.flights[g]? =
      if g = w.flights.length then some ⟨a.registry, a.slot, id, t, none⟩ else w.flights[g]?) :
    w'.Consistent := by
  have hold (g : FlightId) (fl : Flight) (hg : w.flights[g]? = some fl) :
      w'.flights[g]? = some fl := by
    rw [hf, if_neg, hg]
    rintro rfl
    simp at hg
  have hleads : th'.leads = w.flights.length :: th.leads := by
    rw [leads_of_requests hR, leads_of_requests hR']
    rfl
  have hboard : w.id? a.registry a.slot = some id :=
    c.sound ht (q := ⟨a, .board id⟩) (by simp [hR])
  refine ⟨?_, ?_, ?_, ?_, ?_, ?_⟩
  · intro r i f h
    rw [hi] at h
    split at h
    · rename_i hri
      obtain rfl := Option.some.inj h
      exact ⟨_, by rw [hf, if_pos rfl], hri.1.symm, hri.2.symm, rfl⟩
    · obtain ⟨fl, hfl, h⟩ := c.listed h
      exact ⟨fl, hold _ _ hfl, h⟩
  · intro f fl h
    rw [hid]
    rw [hf] at h
    split at h
    · obtain rfl := Option.some.inj h
      exact hboard
    · exact c.named h
  · intro f fl h hl
    rw [hf] at h
    split at h
    · rename_i hfn
      subst hfn
      obtain rfl := Option.some.inj h
      exact ⟨by simp [hi], th', by simp [hth], by simp [hleads]⟩
    · obtain ⟨hin, hx⟩ := c.led h hl
      refine ⟨?_, exists_leader_of_subset ht hth hx fun _ hm => by simp [hleads, hm]⟩
      rw [hi, if_neg, hin]
      rintro ⟨hr, hd⟩
      simp [hr, hd, hn] at hin
  · intro f fl v h hv
    rw [hs]
    rw [hf] at h
    split at h
    · obtain rfl := Option.some.inj h
      cases hv
    · exact c.kept h hv
  · intro u x q hx hm
    have hmono (u : ThreadId) (q : Request) (h : w.Sound u q) : w'.Sound u q :=
      h.mono hs hold fun r s id h => (hid r s).trans h
    obtain ⟨rfl, rfl⟩ | ⟨-, hx⟩ := threads_cases hth hx
    · rw [hR', List.mem_cons] at hm
      rcases hm with rfl | hm
      · exact ⟨_, by rw [hf, if_pos rfl], rfl, rfl, rfl, rfl⟩
      · exact hmono _ _ (c.sound ht (by simp [hR, hm]))
    · exact hmono _ _ (c.sound hx hm)
  · intro u x hx
    obtain ⟨rfl, rfl⟩ | ⟨-, hx⟩ := threads_cases hth hx
    · rw [hleads, List.nodup_cons]
      refine ⟨fun hm => ?_, c.once ht⟩
      obtain ⟨q, hq, hqf⟩ := mem_leads.mp hm
      obtain ⟨fl, hfl, -⟩ := (c.sound ht hq).leads hqf
      simp at hfl
    · exact c.once hx

/-- No request but the innermost one of its leader leads a flight. -/
theorem not_leads (c : w.Consistent) {q₀ q₁ : Request} {f : FlightId} {R : List Request}
    (hR : th.requests = q₀ :: R) (hR' : th'.requests = q₁ :: R)
    (hq₀ : q₀.flight? = some f) {x : Thread σ} {q : Request}
    (hx : w'.threads[u]? = some x) (hq : q ∈ x.requests) :
    (u = t ∧ q = q₁) ∨ (w.Sound u q ∧ q.flight? ≠ some f) := by
  obtain ⟨rfl, rfl⟩ | ⟨hu, hx⟩ := threads_cases hth hx
  · rw [hR', List.mem_cons] at hq
    rcases hq with rfl | hq
    · exact Or.inl ⟨rfl, rfl⟩
    · refine Or.inr ⟨c.sound ht (by simp [hR, hq]), fun hqf => ?_⟩
      have hnd := c.once ht
      rw [leads_of_requests hR, hq₀, Option.toList_some, List.singleton_append,
        List.nodup_cons] at hnd
      exact hnd.1 (List.mem_filterMap.mpr ⟨q, hq, hqf⟩)
  · refine Or.inr ⟨c.sound hx hq, fun hqf => hu ?_⟩
    obtain ⟨fl, hfl, hl, -⟩ := (c.sound hx hq).leads hqf
    obtain ⟨fl', hfl', hl', -⟩ := (c.sound ht (q := q₀) (by simp [hR])).leads hq₀
    obtain rfl := Option.some.inj (hfl.symm.trans hfl')
    exact hl.symm.trans hl'

/-- Consistency is kept when the leader of a flight stores an instance. -/
theorem keep (c : w.Consistent) {a : Accessor} {f : FlightId} {v : Value} {R : List Request}
    (hR : th.requests = ⟨a, .keep f v⟩ :: R) (hR' : th'.requests = ⟨a, .land f (.value v)⟩ :: R)
    (hid : ∀ r s, w'.id? r s = w.id? r s) (hi : ∀ r i, w'.inFlight? r i = w.inFlight? r i)
    (hf : w'.flights = w.flights)
    (hs : ∀ r s, w'.stored? r s =
      if r = a.registry ∧ s = a.slot then some v else w.stored? r s) : w'.Consistent := by
  obtain ⟨hlead, hn⟩ : w.Leads t a f ∧ w.stored? a.registry a.slot = none :=
    c.sound ht (q := ⟨a, .keep f v⟩) (by simp [hR])
  have hleads : th'.leads = th.leads := by
    rw [leads_of_requests hR, leads_of_requests hR']
    rfl
  refine ⟨?_, ?_, ?_, ?_, ?_, ?_⟩
  · intro r i g h
    rw [hf]
    exact c.listed ((hi r i).symm.trans h)
  · intro g gl h
    rw [hf] at h
    exact (hid _ _).trans (c.named h)
  · intro g gl h hl
    rw [hf] at h
    obtain ⟨hin, hx⟩ := c.led h hl
    exact ⟨(hi _ _).trans hin, exists_leader_of_subset ht hth hx fun _ hm => hleads ▸ hm⟩
  · intro g gl v' h hv
    rw [hf] at h
    have hv := c.kept h hv
    rw [hs, if_neg, hv]
    rintro ⟨hr, hsl⟩
    simp [hr, hsl, hn] at hv
  · intro u x q hx hm
    rcases c.not_leads ht hth hR hR' rfl hx hm with ⟨rfl, rfl⟩ | ⟨hq, hne⟩
    · obtain ⟨fl, hfl, h⟩ := hlead
      exact ⟨⟨fl, by rw [hf, hfl], h⟩, by simp [Fits, hs]⟩
    · -- Another leader of the slot would lead the same flight.
      refine hq.store hn hs hf hid fun g hg heq => hne ?_
      obtain ⟨rfl, -⟩ := c.leads_unique (hq.leads hg) hlead heq.1 heq.2
      exact hg
  · intro u x hx
    obtain ⟨rfl, rfl⟩ | ⟨-, hx⟩ := threads_cases hth hx
    · exact hleads ▸ c.once ht
    · exact c.once hx

/-- Consistency is kept when the leader of a flight lands it. -/
theorem land (c : w.Consistent) {a : Accessor} {f : FlightId} {flight : Flight} {l : Landing}
    {R : List Request} (hR : th.requests = ⟨a, .land f l⟩ :: R)
    (hR' : th'.requests = ⟨a, .settle f l⟩ :: R)
    (hs : ∀ r s, w'.stored? r s = w.stored? r s) (hid : ∀ r s, w'.id? r s = w.id? r s)
    (hfl : w.flights[f]? = some flight)
    (hi : ∀ r i, w'.inFlight? r i =
      if r = a.registry ∧ i = flight.id then none else w.inFlight? r i)
    (hf : ∀ g, w'.flights[g]? =
      if g = f then some { flight with landing := some l } else w.flights[g]?) :
    w'.Consistent := by
  obtain ⟨hlead, hval⟩ : w.Leads t a f ∧ w.Fits a l :=
    c.sound ht (q := ⟨a, .land f l⟩) (by simp [hR])
  obtain ⟨fl, hfl', hft, hfr, hfs, hfn⟩ := hlead
  obtain rfl := Option.some.inj (hfl.symm.trans hfl')
  have hleads : th.leads = f :: th'.leads := by
    rw [leads_of_requests hR, leads_of_requests hR']
    rfl
  have hlisted := (c.led hfl hfn).1
  have hnamed := c.named hfl
  refine ⟨?_, ?_, ?_, ?_, ?_, ?_⟩
  · intro r i g h
    rw [hi] at h
    split at h
    · cases h
    · rename_i hne
      obtain ⟨gl, hgl, hgr, hgi, hgn⟩ := c.listed h
      refine ⟨gl, ?_, hgr, hgi, hgn⟩
      rw [hf, if_neg, hgl]
      rintro rfl
      obtain rfl := Option.some.inj (hfl.symm.trans hgl)
      exact hne ⟨hgr.symm.trans hfr, hgi.symm⟩
  · intro g gl h
    rw [hid]
    rw [hf] at h
    split at h
    · obtain rfl := Option.some.inj h
      exact hnamed
    · exact c.named h
  · intro g gl h hl
    rw [hf] at h
    split at h
    · obtain rfl := Option.some.inj h
      cases hl
    · rename_i hgf
      obtain ⟨hin, hx⟩ := c.led h hl
      refine ⟨?_, exists_leader_of_subset ht hth hx fun _ hm => ?_⟩
      · rw [hi, if_neg, hin]
        rintro ⟨hr, hd⟩
        rw [hr, hd, ← hfr, hlisted] at hin
        exact hgf (Option.some.inj hin).symm
      · rw [hleads, List.mem_cons] at hm
        exact hm.resolve_left hgf
  · intro g gl v h hv
    rw [hs]
    rw [hf] at h
    split at h
    · obtain rfl := Option.some.inj h
      obtain rfl := Option.some.inj hv
      rw [hfr, hfs]
      exact hval
    · exact c.kept h hv
  · intro u x q hx hm
    rcases c.not_leads ht hth hR hR' rfl hx hm with ⟨rfl, rfl⟩ | ⟨hq, hne⟩
    · rw [hfr, hfs] at hnamed
      exact ⟨⟨{ flight with landing := some l }, by simp [hf], hfr, (hid _ _).trans hnamed⟩,
        landing?_eq_some.mpr ⟨{ flight with landing := some l }, by simp [hf], rfl⟩⟩
    · exact hq.land hfl hfn hf hs hid hne
  · intro u x hx
    obtain ⟨rfl, rfl⟩ | ⟨-, hx⟩ := threads_cases hth hx
    · have hnd := c.once ht
      rw [hleads, List.nodup_cons] at hnd
      exact hnd.2
    · exact c.once hx

/-- Consistency is kept by a move of the innermost request to a phase that leads the same
flight. -/
theorem of_head (c : w.Consistent) (ha : Agree w w') {q₀ q₁ : Request} {R : List Request}
    (hR : th.requests = q₀ :: R) (hR' : th'.requests = q₁ :: R) (hl : q₁.flight? = q₀.flight?)
    (hq : w.Sound t q₁) : w'.Consistent := by
  have hid (r : RegistryId) (s : Slot) (id : String) (h : w.id? r s = some id) :
      w'.id? r s = some id := (ha.id r s).trans h
  refine c.of_same ht hth ha.stored ha.inFlight ha.flights hid ?_ fun q hm => ?_
  · rw [leads_of_requests hR, leads_of_requests hR', hl]
  · rw [hR', List.mem_cons] at hm
    rcases hm with rfl | hm
    · exact Or.inr (hq.mono ha.stored (fun _ _ h => by rw [ha.flights, h]) hid)
    · exact Or.inl (by simp [hR, hm])

end Step

/-- A request that advances is sound in its new phase and leads the same flight. -/
theorem advance (c : w.Consistent) {a : Accessor} {i : Option Incident} {p p' : Phase}
    (h : Advance w a i p p') (hp : w.Sound t ⟨a, p⟩) :
    w.Sound t ⟨a, p'⟩ ∧ p'.flight? = p.flight? := by
  cases h with
  | hit hv => exact ⟨⟨_, hv, rfl⟩, rfl⟩
  | miss hv => exact ⟨trivial, rfl⟩
  | join hf =>
      obtain ⟨fl, hfl, hr, rfl, -⟩ := c.listed hf
      exact ⟨⟨fl, hfl, hr, hp⟩, rfl⟩
  | release hl => exact ⟨⟨hp, hl⟩, rfl⟩
  | find hv => exact ⟨⟨hp, hv⟩, rfl⟩
  | clear hv => exact ⟨⟨hp, hv⟩, rfl⟩
  | @conclude f o =>
      obtain ⟨v, -, hk⟩ | ⟨l, -, hv, hk⟩ := o.conclude_core a.slot f
      · rw [hk]
        exact ⟨hp, rfl⟩
      · rw [hk]
        refine ⟨⟨hp.1, ?_⟩, rfl⟩
        cases l with
        | value v => exact (hv v rfl).elim
        | fault e => exact hp.2
        | crash p => trivial
  | spill hr hb => exact ⟨⟨hp.1, trivial⟩, rfl⟩
  | crash hf => exact ⟨⟨hp.leads hf, trivial⟩, hf.symm⟩

/-- Consistency is kept by every shift. -/
theorem shift (c : w.Consistent) (ht : w.threads[t]? = some th)
    (hth : ∀ u, w'.threads[u]? = if u = t then some th' else w.threads[u]?) {i : Option Incident}
    {R R' : List Request} (hR : th.requests = R) (hR' : th'.requests = R')
    (hsh : Shift t w w' i R R') : w'.Consistent := by
  have hsound {q : Request} {R : List Request} (hR : th.requests = q :: R) : w.Sound t q :=
    c.sound ht (by simp [hR])
  cases hsh with
  | idle ha =>
      refine c.of_same ht hth ha.stored ha.inFlight ha.flights
        (fun r s _ h => (ha.id r s).trans h) ?_ fun q hm => Or.inl ?_
      · rw [Thread.leads, Thread.leads, hR, hR']
      · rwa [hR, ← hR']
  | opens ha =>
      refine c.of_same ht hth ha.stored ha.inFlight ha.flights
        (fun r s _ h => (ha.id r s).trans h) ?_ fun q hm => ?_
      · rw [leads_of_requests hR', Thread.leads, hR]
        rfl
      · rw [hR', List.mem_cons] at hm
        rcases hm with rfl | hm
        · exact Or.inr trivial
        · exact Or.inl (hR ▸ hm)
  | @closes a p R ha hp =>
      refine c.of_same ht hth ha.stored ha.inFlight ha.flights
        (fun r s _ h => (ha.id r s).trans h) ?_ fun q hm => Or.inl (by simp [hR, ← hR', hm])
      rw [leads_of_requests hR, Thread.leads, hR', Request.flight?,
        c.flight?_of_closes (hsound hR) hp]
      rfl
  | advance ha h =>
      obtain ⟨hs, hf⟩ := c.advance h (hsound hR)
      exact c.of_head ht hth ha hR hR' hf hs
  | @identify a id R hs hi hf hn hid =>
      have hmono (r : RegistryId) (s : Slot) (id' : String) (h : w.id? r s = some id') :
          w'.id? r s = some id' := by
        rw [hid]
        split
        · rename_i heq
          rw [heq.1, heq.2] at h
          rcases hn with hn | hn
          · simp [hn] at h
          · rw [← hn, h]
        · exact h
      refine c.of_same ht hth hs hi hf hmono ?_ fun q hm => ?_
      · rw [leads_of_requests hR, leads_of_requests hR']
        rfl
      · rw [hR', List.mem_cons] at hm
        rcases hm with rfl | hm
        · exact Or.inr (by simp [Sound, hid])
        · exact Or.inl (by simp [hR, hm])
  | takeOff hs hid hn hi hf => exact c.takeOff ht hth hR hR' hs hid hn hi hf
  | keep hid hi hf hs => exact c.keep ht hth hR hR' hid hi hf hs
  | land hs hid hfl hi hf => exact c.land ht hth hR hR' hs hid hfl hi hf

/-- Consistency is kept by every step. -/
theorem step (c : w.Consistent) (hs : w.step P t = some w') : w'.Consistent := by
  obtain ⟨th, th', R, R', ht, hth, hR, hR', i, -, hsh⟩ := step_shift hs
  exact c.shift ht hth hR hR' hsh

end Consistent

/-- A world in which nothing has happened is consistent. -/
theorem Fresh.consistent (h : w.Fresh) : w.Consistent := by
  have hin (r : RegistryId) (id : String) : w.inFlight? r id = none := by
    rw [inFlight?, Option.bind_eq_none_iff]
    intro reg hr
    obtain ⟨bare, observers, rfl⟩ := h.registries reg (List.mem_of_getElem? hr)
    cases bare <;> rfl
  have hreq {t : ThreadId} {th : Thread σ} (ht : w.threads[t]? = some th) : th.requests = [] := by
    obtain ⟨c, rfl⟩ := h.threads th (List.mem_of_getElem? ht)
    rfl
  refine ⟨?_, ?_, ?_, ?_, ?_, ?_⟩
  · intro r id f hf
    simp [hin] at hf
  · intro f fl hf
    simp [h.flights] at hf
  · intro f fl hf
    simp [h.flights] at hf
  · intro f fl v hf
    simp [h.flights] at hf
  · intro t th q ht hq
    simp [hreq ht] at hq
  · intro t th ht
    simp [Thread.leads, hreq ht]

/-- Every run of a fresh world leads to a consistent one. -/
theorem Run.consistent {w₀ : World σ} {h : List (Move σ)} (run : Run P w₀ h w)
    (fresh : w₀.Fresh) : w.Consistent :=
  run.preserves (fun c hs => c.step hs) fresh.consistent

end World

end InstanceRegistry
