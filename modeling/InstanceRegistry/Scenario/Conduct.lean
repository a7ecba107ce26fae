import InstanceRegistry.Scenario.Environment

/-!
# How the acts of a scenario run

Each act is code that leaves an entry in the trace and goes on. The program of a
scenario reads the bodies of constructors and observers from the environment, so
an accessor that is defined again, or in the body of another constructor, is a new
constructor with a count of its own.
-/

namespace InstanceRegistry.Scenario

/-- Code over the state of a scenario. -/
abbrev Conduct := Code Environment

/-- Adds an entry to the trace. -/
def note (h : Happening) (next : Conduct) : Conduct :=
  .update (fun t env => env.record t h) next

/-- Takes a thing by its name; with a name that stands for nothing the scenario has no report. -/
def resolve {α : Type} (sort name : String) (table : Environment → Keyed String α)
    (next : Option α → Conduct) : Conduct :=
  .perform
    (fun _ env =>
      match (table env).get? name with
      | some a => (env, some a)
      | none => (env.unknown sort name, none))
    next

namespace RegistryName

/-- Takes a registry by its name. -/
def resolve : RegistryName → (Option RegistryId → Conduct) → Conduct
  | .absent, next => next none
  | .shared, next => .shared fun r => next (some r)
  | .named name, next => Scenario.resolve "registry" name Environment.registries next

/-- Uses a registry in an act; with an absent one the act panics. -/
def use (r : RegistryName) (word : String) (after : Conduct) (body : RegistryId → Conduct) :
    Conduct :=
  r.resolve fun
    | none => note (.panicked word Panic.nilDereference.report) after
    | some id => body id

end RegistryName

/-- Takes an observer by its name, if one is named. -/
def resolveObserver : Option String → (Option ObserverId → Conduct) → Conduct
  | none, next => next none
  | some name, next => resolve "observer" name Environment.observers next

/-- Takes observers by their names, in order. -/
def resolveObservers : List (Option String) → (List (Option ObserverId) → Conduct) → Conduct
  | [], next => next []
  | name :: rest, next =>
    resolveObserver name fun o => resolveObservers rest fun os => next (o :: os)

/-- Takes the registries in settings by their names, in order. -/
def resolveSettings : List SettingSpec → (List Setting → Conduct) → Conduct
  | [], next => next []
  | .registry r :: rest, next =>
    r.resolve fun id => resolveSettings rest fun settings => next (.registry id :: settings)
  | .name s :: rest, next => resolveSettings rest fun settings => next (.name s :: settings)
  | .absent :: rest, next => resolveSettings rest fun settings => next (.absent :: settings)

/-- Adds a constructor, if there is one. -/
def addMaker : Option Builder → (Option ConstructorId → Conduct) → Conduct
  | none, next => next none
  | some b, next => .perform (fun _ env => env.addBuilder b) fun m => next (some m)

/-- The body of the constructor of an accessor. -/
def Make.builder (make : Make) (name : String) (type : Ty) (plans : Option (List Plan)) :
    Option Builder :=
  match make with
  | .blank => some (.blank type)
  | .fallible | .steadfast => plans.map fun plans => .planned name type plans 0

/-- The design of an accessor. -/
def Make.design (make : Make) (type : Ty) (maker : Option ConstructorId) (settings : List Setting) :
    Except Panic Accessor.Design :=
  match make, maker with
  | .fallible, maker => Accessor.fallible type maker settings
  | .steadfast, maker => Accessor.steadfast type maker settings
  | .blank, some maker => Accessor.blank type maker settings
  | .blank, none => Accessor.steadfast (.pointer type) none settings

/-- Binds a design to its registry and gives the accessor its name, unless the design panicked. -/
def bindAccessor (name : String) (next : Conduct) : Except Panic Accessor.Design → Conduct
  | .error p => note (.panicked "accessor" p.report) next
  | .ok d =>
    let define (shared : RegistryId) : Conduct :=
      .update
        (fun t env =>
          { env with accessors := env.accessors.insert name (d.bind shared) }.record t
            (.did "accessor"))
        next
    match d.registry with
    | some r => define r
    | none => .shared define

/-- Notes what a call returned. -/
def Environment.conclude (env : Environment) (t : ThreadId) (name : String) (a : Accessor)
    (save : Option String) (v : Value) (e : Option Fault) : Environment :=
  let (env, shown) := env.display a.slot.type v
  let env := { env with lastCalls := env.lastCalls.insert t e }
  (env.save save a.slot.type v).record t (.returned name shown (e.map Fault.report))

/-- Calls an accessor by its name. -/
def callAccessor (name : String) (save : Option String) (next : Conduct)
    (onPanic : Panic → Conduct) : Conduct :=
  resolve "accessor" name Environment.accessors fun
    | none => next
    | some a => .call a fun
      | .returned v e => .update (fun t env => env.conclude t name a save v e) next
      | .panicked p => note (.raised name p.report) (onPanic p)

/-- The sum of two numbers as a word of 64 bits. -/
def addWords (a b : Int) : Int := (Int64.ofInt (a + b)).toInt

namespace Environment

/-- Replaces a shared object. -/
def setCell (env : Environment) (a : Address) (c : Cell) : Environment :=
  { env with memory := { env.memory with cells := env.memory.cells.set a c } }

/-- The shared object at an address. -/
def cell? (env : Environment) (a : Address) : Option Cell := env.memory.cells[a]?

/-- Carries out an act on a variable. -/
def alter (env : Environment) (t : ThreadId) (word var : String)
    (change : Environment → Ty → Value → Except Panic Environment) : Environment :=
  match env.vars.get? var with
  | none => env.unknown "variable" var
  | some (type, v) =>
    match change env type v with
    | .ok env => env.record t (.did word)
    | .error p => env.record t (.panicked word p.report)

/-- Adds to the number that a value is or points to. Only a number that the variable itself
holds changes the variable. -/
def add (var : String) (amount : Int) (env : Environment) (type : Ty) :
    Value → Except Panic Environment
  | .number n => .ok (env.save (some var) type (.number (addWords n amount)))
  | .dynamic d (.number n) => .ok (env.save (some var) type (.dynamic d (.number (addWords n amount))))
  | .reference (some a) | .dynamic _ (.reference (some a)) =>
    match env.cell? a with
    | some (.value (.number n)) => .ok (env.setCell a (.value (.number (addWords n amount))))
    | _ => .ok (env.unknown "number in variable" var)
  | .reference none | .dynamic _ (.reference none) => .error .nilDereference
  | _ => .ok (env.unknown "number in variable" var)

/-- Sets an entry of a table. -/
def put (var key : String) (n : Int) (env : Environment) (_ : Ty) :
    Value → Except Panic Environment
  | .reference (some a) | .dynamic _ (.reference (some a)) =>
    match env.cell? a with
    | some (.table entries) => .ok (env.setCell a (.table (entries.insert key n)))
    | _ => .ok (env.unknown "table in variable" var)
  | .reference none | .dynamic _ (.reference none) => .error (.runtime .nilMapWrite)
  | _ => .ok (env.unknown "table in variable" var)

/-- Sets an element of a run of numbers. -/
def assign (var : String) (i n : Int) (env : Environment) (_ : Ty) :
    Value → Except Panic Environment
  | .reference (some a) | .dynamic _ (.reference (some a)) =>
    match env.cell? a with
    | some (.numbers ns) =>
      if 0 ≤ i ∧ i < ns.length then .ok (env.setCell a (.numbers (ns.set i.toNat n)))
      else .error (.runtime (.indexOutOfRange i ns.length))
    | _ => .ok (env.unknown "numbers in variable" var)
  | .reference none | .dynamic _ (.reference none) => .error (.runtime (.indexOutOfRange i 0))
  | _ => .ok (env.unknown "numbers in variable" var)

end Environment

/-- The code of an act, followed by more. -/
def Act.conduct (act : Act) (next : Conduct) : Conduct :=
  match act with
  | .observer name style rules =>
    .update
      (fun _ env => env.addWatcher { name, style, rules := rules.map fun r => ⟨r, r.times⟩ })
      (note (.did act.word) next)
  | .registry name watched bare =>
    resolveObservers watched fun os =>
    .register bare os fun id =>
    .update (fun _ env => { env with registries := env.registries.insert name id })
      (note (.did act.word) next)
  | .attach place watching =>
    place.use act.word next fun id =>
    resolveObserver watching fun o =>
    .attach id o (note (.did act.word) next)
  | .accessor name make type plans settings =>
    resolveSettings settings fun settings =>
    addMaker (make.builder name type plans) fun maker =>
    bindAccessor name next (make.design type maker settings)
  | .lookup place type name save =>
    place.use act.word next fun id =>
    .inspect id fun reg =>
    .update
      (fun t env =>
        let found := reg.lookup ⟨type, name⟩
        let v := found.getD type.zero
        let (env, shown) := env.display type v
        (env.save save type v).record t (.lookup found.isSome shown))
      next
  | .size place =>
    place.use act.word next fun id =>
    .inspect id fun reg => note (.size reg.size) next
  | .entries place =>
    place.use act.word next fun id =>
    .inspect id fun reg => note (.entries (sortSlots reg.slots)) next
  | .shared =>
    .shared fun first => .shared fun second =>
    .inspect first fun reg => note (.shared (first == second) reg.size) next
  | .observe watching event type name fault =>
    resolve "observer" watching Environment.observers fun
      | none => next
      | some o =>
        .read fun t env =>
        .notify o ⟨event, type, name, fault.eval env t⟩ fun
          | .returned _ _ => note (.did act.word) next
          | .panicked p => note (.panicked act.word p.report) next
  | .display var =>
    .update
      (fun t env =>
        match env.vars.get? var with
        | none => env.record t (.display .null)
        | some (type, v) =>
          let (env, shown) := env.display type v
          env.record t (.display shown))
      next
  | .add var amount => .update (fun t env => env.alter t act.word var (Environment.add var amount)) next
  | .put var key n => .update (fun t env => env.alter t act.word var (Environment.put var key n)) next
  | .assign var i n => .update (fun t env => env.alter t act.word var (Environment.assign var i n)) next
  | .call name save catches =>
    callAccessor name save next fun p => if catches then next else .raise p
  | .pass gate => .await gate next
  | .unlock gate => .update (fun _ env => env.unlock gate) (note (.did act.word) next)
  | .race name _ _ =>
    .update (fun _ env => env.unknown "place for a race of" name) next

/-- The code of several acts, followed by more. -/
def conductAll (acts : List Act) (next : Conduct) : Conduct :=
  acts.foldr Act.conduct next

/-- Raises a panic, if there is one, and goes on otherwise. -/
def raiseOr (panic : Option PanicSpec) (next : Conduct) : Conduct :=
  match panic with
  | none => next
  | some spec => .read fun t env => .raise (spec.eval env t)

/-- The code of a constructor of the given type that follows a plan. -/
def Plan.conduct (type : Ty) : Plan → Conduct
  | .mk acts panic result fault =>
    conductAll acts <| raiseOr panic <|
    .perform
      (fun t env =>
        let (env, v) := result.eval t type env
        (env, (v, fault.eval env t)))
      fun (v, e) => .done v e

/-- The plan of an invocation: the last one is followed again and again. -/
def planOf (plans : List Plan) (invocation : Nat) : Plan :=
  (plans[min invocation (plans.length - 1)]?).getD .zero

namespace Environment

/-- Counts an invocation of a constructor and gives its body as it was before. -/
def invoke (env : Environment) (t : ThreadId) (m : ConstructorId) : Environment × Option Builder :=
  match env.builders[m]? with
  | none => (env, none)
  | some (.blank target) => (env, some (.blank target))
  | some (.planned name type plans n) =>
    ({ env with builders := env.builders.set m (.planned name type plans (n + 1)) }.record t
      (.maker name (n + 1)), some (.planned name type plans n))

/-- Lets an observer remember the fault of a notice. -/
def remember (env : Environment) (o : ObserverId) (n : Notice) : Environment × Option Watcher :=
  match env.watchers[o]?, n.fault with
  | some w, some e =>
    ({ env with watchers := env.watchers.set o { w with lastFault := some e } }, some w)
  | w, _ => (env, w)

end Environment

/-- The first rule that is about a notice and may be used, and the rules after its use. -/
def useRule (n : Notice) : List ActiveRule → Option (Rule × List ActiveRule)
  | [] => none
  | r :: rest =>
    if r.rule.applies n ∧ r.left ≠ some 0 then
      some (r.rule, { r with left := r.left.map (· - 1) } :: rest)
    else (useRule n rest).map fun (rule, rest) => (rule, r :: rest)

/-- Uses up a rule of an observer. -/
def Environment.useRule (env : Environment) (o : ObserverId) (n : Notice) :
    Environment × Option Rule :=
  match env.watchers[o]? with
  | none => (env, none)
  | some w =>
    match Scenario.useRule n w.rules with
    | none => (env, none)
    | some (rule, rules) =>
      ({ env with watchers := env.watchers.set o { w with rules } }, some rule)

/-- The code of a rule. -/
def Rule.conduct : Rule → Conduct
  | .mk _ _ _ acts panic => conductAll acts (raiseOr panic (.done .unit none))

/-- What an observer does with a notice before its rules are looked at. -/
def Watcher.attend (w : Watcher) (n : Notice) : Conduct :=
  match w.style with
  | .recorder => note (.notice w.name n (.ofOption n.fault)) (.done .unit none)
  | .journal logger => logger.observe (fun entry t env => env.record t (.log w.name entry)) n

/-- What a constructor does. -/
def makeInstance (m : ConstructorId) : Conduct :=
  .perform (fun t env => env.invoke t m) fun
    | none => .raise .nilDereference
    | some (.blank target) =>
      .perform (fun _ env => env.allocate (.value target.zero)) fun v => .done v none
    | some (.planned _ type plans n) => (planOf plans n).conduct type

/-- What an observer does. -/
def observeNotice (o : ObserverId) (n : Notice) : Conduct :=
  .perform (fun _ env => env.remember o n) fun
    | none => .raise .nilDereference
    | some w =>
      (w.attend n).andThen <|
      .perform (fun _ env => env.useRule o n) fun
        | none => .done .unit none
        | some rule => rule.conduct

/-- The program of all scenarios. -/
def program : Program Environment where
  maker := makeInstance
  observer := observeNotice
  isOpen g env := env.openGates.contains g

end InstanceRegistry.Scenario
