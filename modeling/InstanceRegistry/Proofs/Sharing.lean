import InstanceRegistry.Proofs.Restriction
import InstanceRegistry.Proofs.Sequential

/-!
# When two accessors share an instance

The settings of an accessor are applied in order, so its last name and its last registry count, and
a registry that is left open, perhaps by the last setting, is the shared one. The shared registry is
made when it is first taken, and it is the same one ever after. So two accessors are of the same slot
if their types, their last names and the registries they come to are the same, and where every
constructor returns a new object, they give the same object exactly in this case.

## Implementation notes

That accessors of different slots give different objects rests on the history: an object that is
stored came out of a constructor of its slot, and no other constructor returned the same one.
-/

namespace InstanceRegistry

variable {σ : Type}

/-! ### What settings come to -/

/-- The registry of a setting that sets one, which may be absent. -/
def Setting.registry? : Setting → Option (Option RegistryId)
  | .registry r => some r
  | .name _ | .absent => none

/-- The name of a setting that sets one. -/
def Setting.name? : Setting → Option String
  | .name s => some s
  | .registry _ | .absent => none

namespace Binding

/-- The registry that was set last. -/
def lastRegistry (settings : List Setting) : Option RegistryId :=
  (settings.filterMap Setting.registry?).getLast?.getD none

/-- The name that was set last, or the empty one. -/
def lastName (settings : List Setting) : String :=
  (settings.filterMap Setting.name?).getLast?.getD ""

/-- Of two settings that say the same thing the later one counts. -/
theorem foldlM_apply {settings : List Setting} (hs : .absent ∉ settings) (b : Binding) :
    settings.foldlM apply b =
      .ok ⟨(settings.filterMap Setting.registry?).getLast?.getD b.registry,
        (settings.filterMap Setting.name?).getLast?.getD b.name⟩ := by
  induction settings generalizing b with
  | nil => rfl
  | cons setting rest ih =>
      obtain ⟨hne, hrest⟩ := List.ne_and_not_mem_of_not_mem_cons hs
      rw [List.foldlM_cons]
      cases setting with
      | registry r =>
          change rest.foldlM apply { b with registry := r } = _
          rw [ih hrest]
          simp [Setting.registry?, Setting.name?, List.getLast?_cons]
      | name s =>
          change rest.foldlM apply { b with name := s } = _
          rw [ih hrest]
          simp [Setting.registry?, Setting.name?, List.getLast?_cons]
      | absent => exact (hne rfl).elim

theorem ofSettings_eq {settings : List Setting} (hs : .absent ∉ settings) :
    ofSettings settings = .ok ⟨lastRegistry settings, lastName settings⟩ :=
  foldlM_apply hs {}

end Binding

namespace Accessor

/-- With a constructor and no absent setting, the settings alone decide the registry and the name. -/
theorem design_some {settings : List Setting} (hs : .absent ∉ settings) (insistent : Bool)
    (type : Ty) (k : ConstructorId) :
    design insistent type (some k) settings =
      .ok ⟨Binding.lastRegistry settings, ⟨type, Binding.lastName settings⟩, k, insistent⟩ := by
  rw [design, Binding.ofSettings_eq hs]
  rfl

/-- The forms of accessors. -/
inductive Form
  | fallible (type : Ty)
  | steadfast (type : Ty)
  /-- Gives a pointer to a zero value of the target. -/
  | blank (target : Ty)

namespace Form

/-- The type of the instances that accessors of the form give. -/
def type : Form → Ty
  | .fallible type | .steadfast type => type
  | .blank target => .pointer target

/-- The design of an accessor of the form. -/
def design (k : ConstructorId) (settings : List Setting) : Form → Except Panic Design
  | .fallible type => Accessor.fallible type (some k) settings
  | .steadfast type => Accessor.steadfast type (some k) settings
  | .blank target => Accessor.blank target k settings

/-- An accessor is designed for the slot of its type and its last name, and for its last registry. -/
theorem design_eq {settings : List Setting} (hs : .absent ∉ settings) (form : Form)
    (k : ConstructorId) :
    ∃ insistent, form.design k settings =
      .ok ⟨Binding.lastRegistry settings, ⟨form.type, Binding.lastName settings⟩, k, insistent⟩ := by
  cases form with
  | fallible type => exact ⟨false, Accessor.design_some hs false type k⟩
  | steadfast type => exact ⟨true, Accessor.design_some hs true type k⟩
  | blank target => exact ⟨true, Accessor.design_some hs true (.pointer target) k⟩

end Form

end Accessor

namespace World

/-- The accessor was made in the form, with settings of registries and names. If they leave the
registry open, it is bound to the shared registry of the world. -/
structure Offers (w : World σ) (form : Accessor.Form) (settings : List Setting) (a : Accessor) :
    Prop where
  present : .absent ∉ settings
  made : ∃ k d s, form.design k settings = .ok d ∧ a = d.bind s ∧
    (d.registry = none → w.shared = some s)

/-- The types and the last names are the same, and so are the last registries, where one that is
left open is the shared one. -/
def Coincide (w : World σ) (form : Accessor.Form) (settings : List Setting)
    (form' : Accessor.Form) (settings' : List Setting) : Prop :=
  form.type = form'.type ∧ Binding.lastName settings = Binding.lastName settings' ∧
    (Binding.lastRegistry settings).or w.shared = (Binding.lastRegistry settings').or w.shared

variable {P : Program σ} {t : ThreadId} {v w w' : World σ} {h : List (Move σ)} {a b : Accessor}
  {r : RegistryId} {form form' : Accessor.Form} {settings settings' : List Setting}

/-- The slot and the registry of an accessor that was made with settings. -/
theorem Offers.binding (ha : w.Offers form settings a) :
    a.slot = ⟨form.type, Binding.lastName settings⟩ ∧
      some a.registry = (Binding.lastRegistry settings).or w.shared := by
  obtain ⟨k, d, s, hd, rfl, hs⟩ := ha.made
  obtain ⟨insistent, heq⟩ := form.design_eq ha.present k
  obtain rfl := Except.ok.inj (heq.symm.trans hd)
  refine ⟨rfl, ?_⟩
  cases hr : Binding.lastRegistry settings with
  | some r => simp [Accessor.Design.bind]
  | none => simp [Accessor.Design.bind, hs hr]

/-- Two accessors are of the same slot if their settings come to the same. -/
theorem Offers.same_iff (ha : w.Offers form settings a) (hb : w.Offers form' settings' b) :
    a.registry = b.registry ∧ a.slot = b.slot ↔ w.Coincide form settings form' settings' := by
  obtain ⟨has, har⟩ := ha.binding
  obtain ⟨hbs, hbr⟩ := hb.binding
  rw [Coincide, ← har, ← hbr, has, hbs, Slot.mk.injEq, Option.some.injEq]
  constructor
  · rintro ⟨hr, ht, hn⟩
    exact ⟨ht, hn, hr⟩
  · rintro ⟨ht, hn, hr⟩
    exact ⟨hr, ht, hn⟩

/-! ### The shared registry -/

/-- A step of code keeps the shared registry. -/
theorem stepCode_shared {S : List (Frame σ)} {c : Code σ} (hs : w.stepCode P t S c = some w')
    (hr : w.shared = some r) : w'.shared = some r := by
  cases c with
  | inspect | attach =>
      simp only [stepCode] at hs
      split at hs <;> (obtain rfl := Option.some.inj hs; exact hr)
  | await =>
      simp only [stepCode] at hs
      split at hs
      · obtain rfl := Option.some.inj hs
        exact hr
      · cases hs
  | shared =>
      simp only [stepCode, hr] at hs
      obtain rfl := Option.some.inj hs
      exact hr
  | done | raise | act | call | notify | register =>
      obtain rfl := Option.some.inj hs
      exact hr

/-- So does a step of a request. -/
theorem stepRequest_shared {S : List (Frame σ)} {reg : Registry} {p : Phase}
    (hs : w.stepRequest P t S a reg p = some w') : w'.shared = w.shared := by
  cases p with
  | check | identify | board | recheck | announce | keep =>
      simp only [stepRequest] at hs
      split at hs <;> (obtain rfl := Option.some.inj hs; rfl)
  | wait =>
      simp only [stepRequest] at hs
      split at hs
      · cases hs
      · obtain rfl := Option.some.inj hs
        rfl
      · obtain rfl := Option.some.inj hs
        rfl
  | land =>
      simp only [stepRequest] at hs
      split at hs
      · cases hs
      · obtain rfl := Option.some.inj hs
        rfl
  | build | settle | finish =>
      obtain rfl := Option.some.inj hs
      rfl

/-- The shared registry stays the same once it is made. -/
theorem shared_step (hs : w.step P t = some w') (hr : w.shared = some r) : w'.shared = some r := by
  unfold step at hs
  split at hs
  · cases hs
  · exact stepCode_shared hs hr
  · split at hs
    · obtain rfl := Option.some.inj hs
      exact hr
    · exact (stepRequest_shared hs).trans hr
  · rename_i o S _
    cases S with
    | nil => cases hs
    | cons fr S =>
        cases fr with
        | again | observation =>
            simp only [stepReturn] at hs
            split at hs <;> (obtain rfl := Option.some.inj hs; exact hr)
        | resume | caller | construction =>
            obtain rfl := Option.some.inj hs
            exact hr

theorem Run.shared (run : Run P v h w) (hr : v.shared = some r) : w.shared = some r :=
  run.preserves (I := fun w => w.shared = some r) (fun hr hs => shared_step hs hr) hr

/-- Code that takes the shared registry gets the one that the world has from then on. -/
theorem takes_shared {next : RegistryId → Code σ} {S : List (Frame σ)}
    (ht : w.threads[t]? = some ⟨.running (.shared next), S⟩) (hs : w.step P t = some w') :
    ∃ r, w'.shared = some r ∧ w'.threads[t]? = some ⟨.running (next r), S⟩ := by
  have hlt := (List.getElem?_eq_some_iff.mp ht).1
  simp only [step, ht, stepCode] at hs
  split at hs
  · rename_i r hr
    obtain rfl := Option.some.inj hs
    exact ⟨r, hr, by simp [put, hlt]⟩
  · obtain rfl := Option.some.inj hs
    exact ⟨w.registries.length, rfl, by simp [put, addRegistry, hlt]⟩

end World

/-! ### New objects -/

/-- A pointer is read back as it was stored. -/
theorem Ty.unbox_box_of_pointer {t : Ty} (ht : ∃ target, t = .pointer target) (v : Value) :
    t.unbox (t.box v) = v := by
  obtain ⟨target, rfl⟩ := ht
  exact unbox_box fun hi => by cases hi

/-- The object that a constructor returned without a fault. -/
def Outcome.object? : Outcome → Option Address
  | .returned (.reference (some n)) none => some n
  | _ => none

/-- All constructors that ended in the history returned objects, for accessors of pointer types, and
each of them a new one. -/
structure NewObjects (h : List (Move σ)) : Prop where
  made : ∀ c ∈ conclusions h, (∃ target, c.1.slot.type = .pointer target) ∧
    ∃ n, c.2 = .returned (.reference (some n)) none
  distinct : ((conclusions h).filterMap fun c => c.2.object?).Nodup

/-- An object came out of one constructor only. -/
theorem NewObjects.unique {h : List (Move σ)} (hnew : NewObjects h) {a b : Accessor} {n : Address}
    (ha : (a, .returned (.reference (some n)) none) ∈ conclusions h)
    (hb : (b, .returned (.reference (some n)) none) ∈ conclusions h) : a = b := by
  obtain ⟨i, hi⟩ := List.mem_iff_getElem?.mp ha
  obtain ⟨j, hj⟩ := List.mem_iff_getElem?.mp hb
  obtain rfl := World.getElem?_inj_of_filterMap hnew.distinct hi hj rfl rfl
  exact (Prod.mk.inj (Option.some.inj (hi.symm.trans hj))).1

/-- What a constructor of the slot returned is among the ends of constructors. -/
theorem mem_conclusions_of_results {h : List (Move σ)} {r : RegistryId} {s : Slot} {x : Value}
    (hx : x ∈ results r s h) :
    ∃ a : Accessor, a.registry = r ∧ a.slot = s ∧ (a, .returned x none) ∈ conclusions h := by
  obtain ⟨m, hm, hres⟩ := List.mem_filterMap.mp hx
  obtain ⟨i, hi, hres⟩ := Option.bind_eq_some_iff.mp hres
  unfold Incident.result? at hres
  split at hres
  · rename_i a f y
    split at hres
    · rename_i hof
      obtain rfl := Option.some.inj hres
      obtain ⟨S, ht⟩ := World.returning_of_concluded hi
      refine ⟨a, hof.1, hof.2, List.mem_filterMap.mpr ⟨m, hm, ?_⟩⟩
      rw [Move.actor?, ht]
      rfl
    · cases hres
  · cases hres

namespace World

variable {P : Program σ} {t : ThreadId} {w₀ v w w' : World σ} {h : List (Move σ)} {a b : Accessor}
  {r : RegistryId} {s : Slot} {form form' : Accessor.Form} {settings settings' : List Setting}
  {S : List (Frame σ)} {next : Outcome → Code σ}

/-- Every constructor that is run from the world on returns a new object. -/
def MakesObjects (P : Program σ) (w₀ : World σ) : Prop :=
  ∀ {h w}, Run P w₀ h w → NewObjects h

/-- On the way to the world a call of the accessor returned the value, at a time when its registry
had identifiers left. -/
def Gave (P : Program σ) (w₀ w : World σ) (a : Accessor) (x : Value) : Prop :=
  ∃ h v h' t, Run P w₀ h v ∧ Run P v h' w ∧ v.IdsFit a.registry ∧
    v.CallEnds t a (.returned x none)

/-- What is stored under a slot is an object that a constructor of the slot returned. -/
theorem Run.object_of_stored (run : Run P w₀ h w) (fresh : w₀.Fresh) (hnew : NewObjects h)
    {u : Value} (hu : w.stored? r s = some u) :
    ∃ c n, c.registry = r ∧ c.slot = s ∧
      (c, .returned (.reference (some n)) none) ∈ conclusions h ∧
      s.type.unbox u = .reference (some n) := by
  obtain ⟨x, hx, rfl⟩ := (run.recorded fresh r s).result (Or.inl hu)
  obtain ⟨c, hr, rfl, hc⟩ := mem_conclusions_of_results (hx ▸ List.mem_singleton_self x)
  obtain ⟨htype, n, hn⟩ := hnew.made _ hc
  obtain ⟨rfl, -⟩ := Outcome.returned.inj hn
  exact ⟨c, n, hr, rfl, hc, Ty.unbox_box_of_pointer htype _⟩

/-- What a call returned without a fault is stored under the slot. -/
theorem Gave.stored (fresh : w₀.Fresh) {x : Value} (hgave : Gave P w₀ w a x) :
    ∃ u, w.stored? a.registry a.slot = some u ∧ x = a.slot.type.unbox u := by
  obtain ⟨h, v, h', t, run, run', hfit, next, S, ht⟩ := hgave
  have hv := run.valid fresh
  have hanswer := run.answered fresh t a x _ ht (hv.proper t _ ht).stacked_caller
  obtain ⟨u, hu, rfl⟩ := hanswer.stored hv hfit
  exact ⟨u, run'.stored? hv.consistent hu, rfl⟩

/-- Two calls gave objects, and the same one exactly if their accessors are of the same slot. -/
theorem Run.same_object_iff (run : Run P w₀ h w) (fresh : w₀.Fresh) (hnew : NewObjects h)
    {x y : Value} (hx : Gave P w₀ w a x) (hy : Gave P w₀ w b y) :
    (∃ n, x = .reference (some n)) ∧ (∃ n, y = .reference (some n)) ∧
      (x = y ↔ a.registry = b.registry ∧ a.slot = b.slot) := by
  obtain ⟨u, hu, rfl⟩ := hx.stored fresh
  obtain ⟨u', hu', rfl⟩ := hy.stored fresh
  obtain ⟨c, n, hcr, hcs, hc, hn⟩ := run.object_of_stored fresh hnew hu
  obtain ⟨c', n', hcr', hcs', hc', hn'⟩ := run.object_of_stored fresh hnew hu'
  refine ⟨⟨n, hn⟩, ⟨n', hn'⟩, ?_⟩
  constructor
  · intro heq
    rw [hn, hn'] at heq
    obtain rfl := Option.some.inj (Value.reference.inj heq)
    obtain rfl := hnew.unique hc hc'
    exact ⟨hcr.symm.trans hcr', hcs.symm.trans hcs'⟩
  · rintro ⟨hr, hs⟩
    rw [hr, hs] at hu
    obtain rfl := Option.some.inj (hu.symm.trans hu')
    rw [hs]

/-! ### One call after the other -/

/-- A call of the accessor by the thread can be made: the accessor is of a pointer type, no flight
of its slot is in the air, its registry has identifiers left and its observers return, and wherever
the thread comes to run its constructor, the constructor returns an object. -/
structure Ready (P : Program σ) (t : ThreadId) (w : World σ) (a : Accessor) : Prop where
  pointer : ∃ target, a.slot.type = .pointer target
  idle : w.Idle a.registry a.slot
  fits : ∀ w', Reaches P t w w' → w'.IdsFit a.registry
  heeds : Heeds P t (fun _ _ => False) w a
  brings : ∀ {v f S}, Reaches P t w v →
    v.threads[t]? = some ⟨.running (P.construct a), .construction a f :: S⟩ →
    ∃ v' n, Leg P t (fun _ _ => False) (.construction a f :: S) v
      ⟨.returning (.returned (.reference (some n)) none), .construction a f :: S⟩ v'

/-- A request on a slot without an instance ends with the object that its constructor returns. -/
theorem Ready.request_gives (hready : Ready P t w a) (hw : w.Valid) (hv : Reaches P t w v)
    (hn : v.Vacant a.registry a.slot)
    (ht : v.threads[t]? = some ⟨.requesting a .check, S⟩) :
    ∃ v' n, Reaches P t v v' ∧
      v'.threads[t]? = some ⟨.returning (.returned (.reference (some n)) none), S⟩ := by
  have hheeds : Heeds P t (fun _ _ => False) v a := fun hr => hready.heeds (hv.trans hr)
  obtain ⟨v', f, made, E, ⟨n, rfl⟩, tour, -⟩ := hn.call_ends (hv.valid hw) ht
    (fun v' hr => hready.fits v' (hv.trans hr.reaches)) (hheeds.announces hn.isSetUp (hv.valid hw))
    (Q := fun made _ => ∃ n, made = .returned (.reference (some n)) none) fun tour => by
      obtain ⟨v'', n, leg⟩ := hready.brings (hv.trans tour.reaches) tour.thread
      exact ⟨v'', _, [], ⟨n, rfl⟩, leg.tour.mono fun r s hV => hV.1⟩
  refine ⟨v', n, tour.reaches, ?_⟩
  rw [tour.thread, Incident.outcome, Ty.unbox_box_of_pointer hready.pointer]

/-- A call that can be made gives an object. -/
theorem Ready.call_gives (hready : Ready P t w a) (run : Run P w₀ h w) (fresh : w₀.Fresh)
    (hnew : NewObjects h) (ht : w.threads[t]? = some ⟨.running (.call a next), S⟩) :
    ∃ w' n, Reaches P t w w' ∧
      w'.threads[t]? =
        some ⟨.returning (.returned (.reference (some n)) none), .caller a next :: S⟩ := by
  have hw := run.valid fresh
  obtain ⟨w₁, hs, hq, ht₁⟩ : ∃ w₁, w.step P t = some w₁ ∧ Quiet w w₁ ∧
      w₁.threads[t]? = some ⟨.requesting a .check, a.frames next S⟩ := by
    refine ⟨w.put t (.requesting a .check) (a.frames next S), by rw [step, ht]; rfl, ⟨rfl, rfl⟩, ?_⟩
    simp [put, (List.getElem?_eq_some_iff.mp ht).1]
  have hr₁ := Reaches.single hs
  have hw₁ := hw.step hs
  have hset₁ := hready.idle.isSetUp.step hs
  have hanswers : ∃ w₂ n, Reaches P t w₁ w₂ ∧
      w₂.threads[t]? =
        some ⟨.returning (.returned (.reference (some n)) none), a.frames next S⟩ := by
    cases hstored : w₁.stored? a.registry a.slot with
    | none =>
        have hidle := hready.idle.of_view hset₁ (by rw [hq.view a.registry a.slot])
        exact hready.request_gives hw hr₁ (hidle.vacant hstored) ht₁
    | some u =>
        have hheeds : Heeds P t (fun _ _ => False) w₁ a := fun hr => hready.heeds (hr₁.trans hr)
        obtain ⟨w₂, tour⟩ := hset₁.hits hw₁ ht₁ (hheeds.announces hset₁ hw₁) hstored
        rw [hq.agree.stored] at hstored
        obtain ⟨-, n, -, -, -, hn⟩ := run.object_of_stored fresh hnew hstored
        exact ⟨w₂, n, tour.reaches, hn ▸ tour.thread⟩
  obtain ⟨w₂, n, hr₂, ht₂⟩ := hanswers
  obtain ⟨w₃, tour⟩ := Tour.passes (P := P) (V := fun _ _ => False) (K := fun _ _ => false)
    (hr₂.valid hw₁) (by simp) ht₂
  exact ⟨w₃, n, hr₁.trans (hr₂.trans tour.reaches), tour.thread⟩

/-- Whoever calls the first accessor, and whoever calls the second at any later time, gets an object,
and these are the same exactly if it is said so. -/
def CallsBoth (P : Program σ) (w : World σ) (a b : Accessor) (same : Prop) : Prop :=
  ∀ {t next S}, w.threads[t]? = some ⟨.running (.call a next), S⟩ → Ready P t w a →
    ∃ w₁ n, Reaches P t w w₁ ∧
      w₁.threads[t]? =
        some ⟨.returning (.returned (.reference (some n)) none), .caller a next :: S⟩ ∧
      ∀ {h w₂ t' next' S'}, Run P w₁ h w₂ →
        w₂.threads[t']? = some ⟨.running (.call b next'), S'⟩ → Ready P t' w₂ b →
        ∃ w₃ m, Reaches P t' w₂ w₃ ∧
          w₃.threads[t']? =
            some ⟨.returning (.returned (.reference (some m)) none), .caller b next' :: S'⟩ ∧
          (n = m ↔ same)

/-- Two calls, one after the other, give the same object exactly if their accessors are of the same
slot. -/
theorem Run.callsBoth (run : Run P w₀ h w) (fresh : w₀.Fresh) (hnew : MakesObjects P w₀) :
    CallsBoth P w a b (a.registry = b.registry ∧ a.slot = b.slot) := by
  intro t next S ht hready
  obtain ⟨w₁, n, hr₁, ht₁⟩ := hready.call_gives run fresh (hnew run) ht
  refine ⟨w₁, n, hr₁, ht₁, ?_⟩
  intro g w₂ t' next' S' run₂ ht₂ hready'
  obtain ⟨g₁, run₁, hg₁⟩ := hr₁
  have run₀₁ := run.append run₁
  have run₀₂ := run₀₁.append run₂
  obtain ⟨w₃, m, hr₃, ht₃⟩ := hready'.call_gives run₀₂ fresh (hnew run₀₂) ht₂
  refine ⟨w₃, m, hr₃, ht₃, ?_⟩
  obtain ⟨g₃, run₃, hg₃⟩ := hr₃
  have run₀₃ := run₀₂.append run₃
  have hfirst : Gave P w₀ w₃ a (.reference (some n)) :=
    ⟨_, w₁, _, t, run₀₁, run₂.append run₃, hready.fits w₁ ⟨g₁, run₁, hg₁⟩, next, S, ht₁⟩
  have hsecond : Gave P w₀ w₃ b (.reference (some m)) :=
    ⟨_, w₃, [], t', run₀₃, .start, hready'.fits w₃ ⟨g₃, run₃, hg₃⟩, next', S', ht₃⟩
  obtain ⟨-, -, hsame⟩ := run₀₃.same_object_iff fresh (hnew run₀₃) hfirst hsecond
  rw [← hsame]
  simp

/-- **When two accessors share an instance.** Two accessors were made, in any of the forms and with
any settings of registries and names, and every constructor returns a new object. Whatever is run
from there on, calls of the two that return without a fault give objects, and they give the same one
exactly if the types, the last names and the last registries are the same, where a registry that is
left open is the shared one. One call after the other, in either order, gives such objects. The
shared registry is the same whenever it is taken. -/
theorem Run.instances_shared (run : Run P w₀ h w) (fresh : w₀.Fresh) (hnew : MakesObjects P w₀)
    (ha : w.Offers form settings a) (hb : w.Offers form' settings' b) :
    (∀ {g w' x y}, Run P w g w' → Gave P w₀ w' a x → Gave P w₀ w' b y →
      (∃ n, x = .reference (some n)) ∧ (∃ n, y = .reference (some n)) ∧
        (x = y ↔ w.Coincide form settings form' settings')) ∧
    CallsBoth P w a b (w.Coincide form settings form' settings') ∧
    CallsBoth P w b a (w.Coincide form settings form' settings') ∧
    ∀ m ∈ h, ∀ next S, m.actor? = some ⟨.running (.shared next), S⟩ →
      ∃ r, m.after.threads[m.thread]? = some ⟨.running (next r), S⟩ ∧
        ∀ {g w'}, Run P w g w' → w'.shared = some r := by
  have hsame := ha.same_iff hb
  refine ⟨?_, ?_, ?_, ?_⟩
  · intro g w' x y run' hx hy
    have run₀ := run.append run'
    rw [← hsame]
    exact run₀.same_object_iff fresh (hnew run₀) hx hy
  · rw [← hsame]
    exact run.callsBoth fresh hnew
  · rw [← hsame, eq_comm (a := a.registry), eq_comm (a := a.slot)]
    exact run.callsBoth fresh hnew
  · intro m hm next S ht
    obtain ⟨h₁, h₂, -, -, hs, run₂⟩ := run.split hm
    obtain ⟨r, hr, ht'⟩ := takes_shared ht hs
    exact ⟨r, ht', fun run' => (run₂.append run').shared hr⟩

end World

/-! ### A registry that is taken back -/

/-- What holds of the objects of a history holds of those of its beginning. -/
theorem NewObjects.of_isPrefix {h h' : List (Move σ)} (hnew : NewObjects h') (hp : h <+: h') :
    NewObjects h := by
  have hc : conclusions h <+: conclusions h' := hp.filterMap _
  exact ⟨fun c hmem => hnew.made c (hc.subset hmem),
    (hc.sublist.filterMap _).nodup hnew.distinct⟩

namespace World

variable {P : Program σ} {t : ThreadId} {v w : World σ} {h : List (Move σ)}

/-- A thread that has no step left makes no move. -/
theorem history_replicate_of_stop (hstop : v.step P t = none) (n : Nat) :
    v.history P (List.replicate n t) = [] := by
  induction n with
  | zero => rfl
  | succ n ih => rw [List.replicate_succ, history, hstop, ih]

/-- What a thread does alone is the beginning of all that it does. -/
theorem Run.isPrefix_history (run : Run P v h w) (halone : ∀ m ∈ h, m.thread = t) {n : Nat}
    (hstop : (v.run P (List.replicate n t)).step P t = none) :
    h <+: v.history P (List.replicate n t) := by
  have hturns : h.map Move.thread = List.replicate h.length t := by
    rw [List.eq_replicate_iff]
    refine ⟨List.length_map .., ?_⟩
    intro u hu
    obtain ⟨m, hm, rfl⟩ := List.mem_map.mp hu
    exact halone m hm
  have heq : h = v.history P (List.replicate h.length t) := hturns ▸ run.eq_of_turns.2
  rcases Nat.le_total h.length n with hle | hle
  · obtain ⟨d, rfl⟩ := Nat.exists_eq_add_of_le hle
    rw [← List.replicate_append_replicate, history_append, ← heq]
    exact List.prefix_append ..
  · obtain ⟨d, hd⟩ := Nat.exists_eq_add_of_le hle
    rw [hd, ← List.replicate_append_replicate, history_append,
      history_replicate_of_stop hstop, List.append_nil] at heq
    exact heq ▸ List.prefix_refl _

/-- In a world with one thread all moves are made by it. -/
theorem Run.thread_eq_zero (run : Run P v h w) (hone : v.threads.length = 1) :
    ∀ m ∈ h, m.thread = 0 := by
  intro m hm
  obtain ⟨h₁, -, -, run₁, hs, -⟩ := run.split hm
  have hlen : m.before.threads.length = 1 := by
    refine run₁.preserves (I := fun w => w.threads.length = 1) (fun hlen hs => ?_) hone
    obtain ⟨th, th', -, hset, -⟩ := step_turn hs
    rw [hset, List.length_set, hlen]
  obtain ⟨th, th', ht, -, -⟩ := step_turn hs
  have hlt := (List.getElem?_eq_some_iff.mp ht).1
  rw [hlen] at hlt
  exact Nat.lt_one_iff.mp hlt

end World

namespace Sample

/-- Every constructor returns a new object. -/
def minting : Program Nat where
  maker _ := .act (fun _ n => n + 1) fun _ n => .done (.reference (some n)) none
  observer _ _ := .done .unit none
  isOpen _ _ := true

/-- Settings of which the last ones are a name and no registry. -/
def revised : List Setting := [.name "draft", .registry (some 0), .name "main", .registry none]

/-- An accessor for a pointer to a zero value. -/
def blank (r : RegistryId) : Accessor := ⟨r, ⟨.pointer slot.type, "main"⟩, 0, true⟩

/-- An accessor of the same slot. -/
def named (r : RegistryId) : Accessor := ⟨r, ⟨.pointer slot.type, "main"⟩, 1, false⟩

/-- An accessor of the same type under another name. -/
def draft (r : RegistryId) : Accessor := ⟨r, ⟨.pointer slot.type, "draft"⟩, 2, false⟩

/-- Calls the three accessors of the shared registry. -/
def client : Code Nat :=
  .shared fun r => .call (blank r) fun _ => .call (named r) fun _ => .call (draft r) fun _ =>
    .done .unit none

/-- A thread that is about to call them. -/
def opened : World Nat := { registries := [.new []], threads := [.start client], state := 0 }

theorem opened_fresh : opened.Fresh := World.fresh_start [] [client] 0

/-- The thread has taken the shared registry. -/
def taken : World Nat := opened.run minting [0]

theorem opened_makesObjects : World.MakesObjects minting opened := by
  intro h w run
  have hstop : ((opened.run minting (List.replicate 40 0)).step minting 0).isNone := by
    decide +kernel
  have hconclusions : conclusions (opened.history minting (List.replicate 40 0)) =
      [(blank 1, .returned (.reference (some 0)) none),
        (draft 1, .returned (.reference (some 1)) none)] := rfl
  have hall : NewObjects (opened.history minting (List.replicate 40 0)) := by
    constructor
    · rw [hconclusions]
      refine List.forall_mem_cons.mpr ⟨⟨⟨_, rfl⟩, 0, rfl⟩, List.forall_mem_singleton.mpr ?_⟩
      exact ⟨⟨_, rfl⟩, 1, rfl⟩
    · rw [hconclusions]
      decide
  exact hall.of_isPrefix (run.isPrefix_history (run.thread_eq_zero rfl)
    (Option.isNone_iff_eq_none.mp hstop))

/-- The constructors return no fault, so they are the same for steadfast accessors. -/
theorem minting_construct (a : Accessor) : minting.construct a = minting.maker a.maker := by
  rw [Program.construct]
  split <;> rfl

/-- A constructor returns the object wherever it is run. -/
theorem minting_brings {w : World Nat} (hw : w.Valid) {k : ConstructorId} {S : List (Frame Nat)}
    (ht : w.threads[0]? = some ⟨.running (minting.maker k), S⟩) :
    ∃ w' n, World.Leg minting 0 (fun _ _ => False) S w
      ⟨.returning (.returned (.reference (some n)) none), S⟩ w' := by
  have hlt := (List.getElem?_eq_some_iff.mp ht).1
  obtain ⟨w₁, hs, ht₁⟩ : ∃ w₁, w.step minting 0 = some w₁ ∧
      w₁.threads[0]? = some ⟨.running (.done (.reference (some w.state)) none), S⟩ := by
    refine ⟨_, by rw [World.step, ht]; rfl, ?_⟩
    simp [World.put, hlt]
  have leg₁ : World.Leg minting 0 (fun _ _ => False) S w _ w₁ :=
    .plain hw ht ht₁ hs (List.suffix_refl S) (by simp) rfl
  obtain ⟨w₂, leg₂⟩ := World.Leg.done (P := minting) (V := fun _ _ => False) (hw.step hs) ht₁
  exact ⟨w₂, w.state, leg₁.trans leg₂⟩

/-- The thread stands before a call. -/
def isCalling : Thread Nat → Bool
  | ⟨.running (.call _ _), _⟩ => true
  | _ => false

/-- The accessors of the shared registry can be called whenever the thread stands before a call. -/
theorem taken_ready {a : Accessor} (htype : ∃ target, a.slot.type = .pointer target)
    (hr : a.registry = 1) {w : World Nat} (hw : World.Reaches minting 0 taken w)
    {next : Outcome → Code Nat} {S : List (Frame Nat)}
    (ht : w.threads[0]? = some ⟨.running (.call a next), S⟩) : World.Ready minting 0 w a := by
  have hvalid := hw.valid ((World.run_of_schedule minting opened [0]).valid opened_fresh)
  have hstop : ((taken.run minting (List.replicate 40 0)).step minting 0).isNone := by
    decide +kernel
  have hall : ∀ n ≤ 40, (taken.run minting (List.replicate n 0)).IdsFit 1 ∧
      (taken.run minting (List.replicate n 0)).observer? 1 = none ∧
      ((taken.run minting (List.replicate n 0)).threads[0]?.any isCalling = true →
        ∀ fl ∈ (taken.run minting (List.replicate n 0)).flights, fl.landing.isSome = true) := by
    decide +kernel
  have hway {v : World Nat} (hv : World.Reaches minting 0 taken v) :
      v.IdsFit 1 ∧ v.observer? 1 = none ∧
        (v.threads[0]?.any isCalling = true → ∀ fl ∈ v.flights, fl.landing.isSome = true) := by
    obtain ⟨n, hn, rfl⟩ := hv.exists_le (Option.isNone_iff_eq_none.mp hstop)
    exact hall n hn
  constructor
  case pointer => exact htype
  case idle =>
    refine ⟨hw.isSetUp (hr ▸ ⟨_, rfl, rfl⟩), fun fl hfl _ hn => ?_⟩
    have hlanded := (hway hw).2.2 (by rw [ht]; rfl) fl hfl
    rw [hn] at hlanded
    cases hlanded
  case fits => exact fun v hv => hr ▸ (hway (hw.trans hv)).1
  case heeds =>
    intro v o event fault p S hv ho
    rw [hr, (hway (hw.trans hv)).2.1] at ho
    cases ho
  case brings => exact fun hv ht => minting_brings (hv.valid hvalid) (minting_construct a ▸ ht)

/-- The first call has ended. -/
def given : World Nat := taken.run minting (List.replicate 14 0)

/-- The third call has ended. -/
def givenAll : World Nat := given.run minting (List.replicate 19 0)

theorem run_given : ∃ h, World.Run minting taken h given := ⟨_, World.run_of_schedule _ _ _⟩

theorem run_givenAll : ∃ h, World.Run minting given h givenAll := ⟨_, World.run_of_schedule _ _ _⟩

theorem givenAll_gave_blank :
    World.Gave minting opened givenAll (blank 1) (.reference (some 0)) := by
  obtain ⟨h, run⟩ := run_given
  obtain ⟨h', run'⟩ := run_givenAll
  exact ⟨_, given, h', 0, (World.run_of_schedule minting opened [0]).append run, run',
    by decide +kernel, _, _, rfl⟩

theorem givenAll_gave_draft :
    World.Gave minting opened givenAll (draft 1) (.reference (some 1)) := by
  obtain ⟨h, run⟩ := run_given
  obtain ⟨h', run'⟩ := run_givenAll
  exact ⟨_, givenAll, [], 0, ((World.run_of_schedule minting opened [0]).append run).append run',
    .start, by decide +kernel, _, _, rfl⟩

theorem taken_offers_blank : taken.Offers (.blank slot.type) revised (blank 1) :=
  ⟨by simp [revised], 0, _, 1, rfl, rfl, fun _ => rfl⟩

theorem taken_offers_named :
    taken.Offers (.fallible (.pointer slot.type)) [.name "main"] (named 1) :=
  ⟨by simp, 1, _, 1, rfl, rfl, fun _ => rfl⟩

theorem taken_offers_draft :
    taken.Offers (.fallible (.pointer slot.type)) [.name "draft"] (draft 1) :=
  ⟨by simp, 2, _, 1, rfl, rfl, fun _ => rfl⟩

end Sample

/-- The call of an accessor that has its registry taken back and that of one which never had any
give the same object; a call under another name gave another object. -/
theorem World.Run.instances_shared_revised :
    (∃ w₁ w₂ n, Reaches Sample.minting 0 Sample.taken w₁ ∧
      w₁.CallEnds 0 (Sample.blank 1) (.returned (.reference (some n)) none) ∧
      Reaches Sample.minting 0 w₁ w₂ ∧
      w₂.CallEnds 0 (Sample.named 1) (.returned (.reference (some n)) none)) ∧
    Gave Sample.minting Sample.opened Sample.givenAll (Sample.blank 1) (.reference (some 0)) ∧
    Gave Sample.minting Sample.opened Sample.givenAll (Sample.draft 1) (.reference (some 1)) ∧
    ¬ Sample.taken.Coincide (.blank Sample.slot.type) Sample.revised
      (.fallible (.pointer Sample.slot.type)) [.name "draft"] := by
  have run := run_of_schedule Sample.minting Sample.opened [0]
  refine ⟨?_, Sample.givenAll_gave_blank, Sample.givenAll_gave_draft, ?_⟩
  · obtain ⟨-, hboth, -, -⟩ := Run.instances_shared run Sample.opened_fresh
      Sample.opened_makesObjects Sample.taken_offers_blank Sample.taken_offers_named
    obtain ⟨w₁, n, hr₁, ht₁, hsecond⟩ :=
      hboth rfl (Sample.taken_ready ⟨_, rfl⟩ rfl (.refl _ _ _) rfl)
    obtain ⟨w₂, tour⟩ := Tour.answer (P := Sample.minting) (V := fun _ _ => False)
      (K := fun _ _ => false) (hr₁.valid (run.valid Sample.opened_fresh)) ht₁
    have hr₂ := tour.reaches
    obtain ⟨g, run₂, -⟩ := tour.reaches
    obtain ⟨w₃, m, hr₃, ht₃, hsame⟩ := hsecond run₂ tour.thread
      (Sample.taken_ready ⟨_, rfl⟩ rfl (hr₁.trans hr₂) tour.thread)
    obtain rfl := hsame.mpr ⟨rfl, by decide, rfl⟩
    exact ⟨w₁, w₃, n, hr₁, ⟨_, _, ht₁⟩, hr₂.trans hr₃, _, _, ht₃⟩
  · obtain ⟨hcalls, -⟩ := Run.instances_shared run Sample.opened_fresh
      Sample.opened_makesObjects Sample.taken_offers_blank Sample.taken_offers_draft
    obtain ⟨h, run₁⟩ := Sample.run_given
    obtain ⟨h', run₂⟩ := Sample.run_givenAll
    obtain ⟨-, -, hsame⟩ :=
      hcalls (run₁.append run₂) Sample.givenAll_gave_blank Sample.givenAll_gave_draft
    intro hcoincide
    cases hsame.mpr hcoincide

end InstanceRegistry
