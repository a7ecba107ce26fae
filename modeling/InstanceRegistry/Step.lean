import InstanceRegistry.World

/-!
# Steps of a world

`World.step` lets one thread make its next step; it gives nothing if the thread is
through or has to wait. A step is what no other thread can interrupt: reading or
writing the store, getting an identifier, boarding or landing a flight, or one
step of the code of a constructor, an observer or a caller. A run is a sequence of
such steps of any threads in any order.

A request looks whether its registry has an observer, and looks again to hand a notice to
it, both without a lock. Here the two are one step (`Phase.announce`), so no other thread
attaches an observer in between.

Where a request of the leader panics, the flight crashes: it is landed with that
panic, and all of its callers panic with it as a flight's panic. A panic of the
constructor is different, since it lands as a fault from which every caller takes
the panic value out again.
-/

namespace InstanceRegistry

/-- How a request that settles on a landing ends for an accessor of the given type. -/
def Landing.settle (type : Ty) : Landing → Outcome
  | .value v => .returned (type.unbox v) none
  | .crash p => .panicked (.flight p)
  | .fault e =>
    match e.findPanic with
    | .found p => .panicked p
    | .hollow | .crashed => .panicked .nilDereference
    | .absent => .returned type.zero (some e)

/-- How the leader of a flight goes on after its constructor. An instance is kept. A fault
that reports a panicking constructor lands as it is, any other as the failed construction of
the slot; a fault that cannot be searched crashes the flight. -/
def Outcome.conclude (slot : Slot) (f : FlightId) : Outcome → Phase
  | .returned v none => .keep f (slot.type.box v)
  | .returned _ (some e) =>
    match e.findPanic with
    | .found _ | .hollow => .announce .failure (some e) (.land f (.fault e))
    | .absent =>
      .announce .failure (some e)
        (.land f (.fault (.construction (some slot.type) slot.name (some e))))
    | .crashed => .land f (.crash .nilDereference)
  | .panicked p =>
    .announce .failure (some (.constructorPanic p)) (.land f (.fault (.constructorPanic p)))

/-- How a request goes on after a panic of its observer. -/
def Phase.interrupt {σ : Type} (a : Accessor) (next : Phase) (p : Panic) : Focus σ :=
  match next.flight? with
  | some f => .requesting a (.land f (.crash p))
  | none => .returning (.panicked p)

namespace World

variable {σ : Type}

/-- One step of code. -/
def stepCode (P : Program σ) (w : World σ) (t : ThreadId) (stack : List (Frame σ)) :
    Code σ → Option (World σ)
  | .done v e => some (w.put t (.returning (.returned v e)) stack)
  | .raise p => some (w.put t (.returning (.panicked p)) stack)
  | .act change next =>
    some ({ w with state := change t w.state }.put t (.running (next t w.state)) stack)
  | .inspect r next =>
    match w.registries[r]? with
    | none => some (w.put t (.returning (.panicked .nilDereference)) stack)
    | some reg => some (w.put t (.running (next reg)) stack)
  | .call a next =>
    let stack := .caller a next :: stack
    some (w.put t (.requesting a .check) (if a.insistent then .again a :: stack else stack))
  | .notify o n next => some (w.put t (.running (P.observer o n)) (.resume next :: stack))
  | .await g next => if P.isOpen g w.state then some (w.put t (.running next) stack) else none
  | .register bare os next =>
    some ((w.addRegistry (.make bare os)).put t (.running (next w.registries.length)) stack)
  | .attach r o next =>
    match w.registries[r]? with
    | none => some (w.put t (.returning (.panicked .nilDereference)) stack)
    | some reg => some ((w.setRegistry r (reg.attach o)).put t (.running next) stack)
  | .shared next =>
    match w.shared with
    | some r => some (w.put t (.running (next r)) stack)
    | none =>
      let r := w.registries.length
      some (({ w with shared := some r }.addRegistry (.new [])).put t (.running (next r)) stack)

/-- One step of a request over its registry. -/
def stepRequest (P : Program σ) (w : World σ) (t : ThreadId) (stack : List (Frame σ))
    (a : Accessor) (reg : Registry) : Phase → Option (World σ)
  | .check =>
    match reg.store.get? a.slot with
    | some v =>
      some (w.put t (.requesting a
        (.announce .hit none (.finish (.returned (a.slot.type.unbox v) none)))) stack)
    | none => some (w.put t (.requesting a .identify) stack)
  | .identify =>
    match reg.identify a.slot with
    | (.ok id, reg) => some ((w.setRegistry a.registry reg).put t (.requesting a (.board id)) stack)
    | (.error p, reg) => some ((w.setRegistry a.registry reg).put t (.returning (.panicked p)) stack)
  | .board id =>
    match reg.flights.get? id with
    | some f => some (w.put t (.requesting a (.wait f)) stack)
    | none =>
      let f := w.flights.length
      some (((w.takeOff ⟨a.registry, a.slot, id, t, none⟩).setRegistry a.registry
        (reg.depart id f)).put t (.requesting a (.recheck f)) stack)
  | .wait f =>
    match w.landing? f with
    | none => none
    | some (.crash p) => some (w.put t (.returning (.panicked (.flight p))) stack)
    | some landing =>
      some (w.put t (.requesting a (.announce .dedup landing.fault? (.settle f landing))) stack)
  | .recheck f =>
    match reg.store.get? a.slot with
    | some v => some (w.put t (.requesting a (.announce .hit none (.land f (.value v)))) stack)
    | none => some (w.put t (.requesting a (.announce .construct none (.build f))) stack)
  | .build f => some (w.put t (.running (P.construct a)) (.construction a f :: stack))
  | .keep f v =>
    if reg.writable then
      some ((w.setRegistry a.registry (reg.keep a.slot v)).put t
        (.requesting a (.land f (.value v))) stack)
    else some (w.put t (.requesting a (.land f (.crash (.runtime .nilMapWrite)))) stack)
  | .land f landing =>
    match w.flights[f]? with
    | none => none
    | some flight =>
      some (((w.setLanding f landing).setRegistry a.registry (reg.arrive flight.id)).put t
        (.requesting a (.settle f landing)) stack)
  | .settle _ landing => some (w.put t (.returning (landing.settle a.slot.type)) stack)
  | .finish o => some (w.put t (.returning o) stack)
  | .announce event fault next =>
    match reg.observer with
    | none => some (w.put t (.requesting a next) stack)
    | some o =>
      some (w.put t (.running (P.observer o (a.slot.notice event fault)))
        (.observation a next :: stack))

/-- One step of a thread that hands an outcome to its topmost frame. -/
def stepReturn (w : World σ) (t : ThreadId) (o : Outcome) :
    List (Frame σ) → Option (World σ)
  | [] => none
  | .resume next :: stack | .caller _ next :: stack => some (w.put t (.running (next o)) stack)
  | .again a :: stack =>
    match o with
    | .returned _ (some _) => some (w.put t (.requesting a .check) (.again a :: stack))
    | o => some (w.put t (.returning o) stack)
  | .construction a f :: stack => some (w.put t (.requesting a (o.conclude a.slot f)) stack)
  | .observation a next :: stack =>
    match o with
    | .returned _ _ => some (w.put t (.requesting a next) stack)
    | .panicked p => some (w.put t (next.interrupt a p) stack)

/-- The next step of a thread, if it has one. -/
def step (P : Program σ) (w : World σ) (t : ThreadId) : Option (World σ) :=
  match w.threads[t]? with
  | none => none
  | some ⟨.running c, stack⟩ => w.stepCode P t stack c
  | some ⟨.requesting a p, stack⟩ =>
    match w.registries[a.registry]? with
    | none => some (w.put t (.returning (.panicked .nilDereference)) stack)
    | some reg => w.stepRequest P t stack a reg p
  | some ⟨.returning o, stack⟩ => w.stepReturn t o stack

/-- The world after the steps of a schedule; a thread that has no step is passed over. -/
def run (P : Program σ) (w : World σ) (schedule : List ThreadId) : World σ :=
  schedule.foldl (fun w t => (w.step P t).getD w) w

end World

end InstanceRegistry
