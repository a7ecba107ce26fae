import InstanceRegistry.Proofs.LogEntry

/-!
# The stream of log entries

A log observer that is told one thing after another hands its entries to the handler in the same
order. It makes one entry of each notice that is as severe as the threshold, and none of the others.
An entry is made of the base fields and of its own notice, and of nothing that was told before.

## Implementation notes

The notices are those which the observer can log and whose faults bring no fields to the log. For
them the observer is given by two plain functions: the entry of a notice, and the stream of a list
of notices. The code that delivers a list runs one delivery after the other. What one of them does
is read off from how the observer runs by itself, and the whole list is an induction on it.
-/

namespace InstanceRegistry

variable {σ : Type}

/-! ### The entry of a notice -/

namespace Notice

/-- The notice can be logged, and the fault of a failure brings no fields to the log. -/
def isPlain (n : Notice) : Bool :=
  n.isLoggable &&
    (if n.event = .failure then (n.fault.bind Fault.fields).all (·.entries.isEmpty) else true)

/-- The fields that a log lays over the base fields: the event, the type and the name of a notice,
and the message of the fault of a failure. -/
def fields (n : Notice) : Fields :=
  ⟨["event", "type", "name", "error"].filterMap fun key =>
    ((n.message? key).or (n.mark? key)).map fun text => (key, text)⟩

variable {n : Notice}

/-- The fault of a plain failure has a message and brings no fields. -/
theorem fault_of_isPlain (h : n.isPlain = true) (hfail : n.event = .failure) {e : Fault}
    (he : n.fault = some e) : (∃ message, e.message = some message) ∧ e.fields = some {} := by
  obtain ⟨hloggable, hempty⟩ := Bool.and_eq_true_iff.mp h
  have hlegible : e.isLegible = true := by
    have hall := (Bool.and_eq_true_iff.mp hloggable).2
    rwa [if_pos hfail, he] at hall
  obtain ⟨message, own, hm, hown⟩ := e.isLegible_iff.mp hlegible
  rw [if_pos hfail, he, Option.bind_some, hown] at hempty
  exact ⟨⟨message, hm⟩, hown.trans (congrArg (some ∘ Keyed.mk) (List.isEmpty_iff.mp hempty))⟩

theorem brought?_of_isPlain (h : n.isPlain = true) (key : String) : n.brought? key = none := by
  rw [brought?]
  split
  · rename_i hfail
    cases he : n.fault with
    | none => rfl
    | some e =>
        rw [Option.bind_some, (fault_of_isPlain h hfail he).2]
        rfl
  · rfl

end Notice

namespace Logger

variable {l : Logger} {n : Notice}

/-- The entry of a plain notice. -/
def entry (l : Logger) (n : Notice) : LogEntry :=
  ⟨n.event.level, n.event.message, l.fields.merge n.fields⟩

/-- The entries of a list of plain notices, without those below the threshold. -/
def stream (l : Logger) (ns : List Notice) : List LogEntry :=
  (ns.filter fun n => l.level ≤ n.event.level).map l.entry

theorem compose_of_isPlain (h : n.isPlain = true) : l.compose n = .ok (l.entry n) := by
  obtain ⟨event, type, name, fault⟩ := n
  cases type with
  | none => cases h
  | some type =>
      cases fault with
      | none => simp [compose, entry, Notice.fields, Notice.mark?, Notice.message?, Fields.ofNotice]
      | some e =>
          by_cases hevent : event = .failure
          · obtain ⟨⟨message, hm⟩, hown⟩ := Notice.fault_of_isPlain h hevent rfl
            simp [compose, entry, Notice.fields, Notice.mark?, Notice.message?, Fields.ofNotice,
              Fields.ofFault, hevent, hm, hown, Except.map, Keyed.merge]
          · simp [compose, entry, Notice.fields, Notice.mark?, Notice.message?, Fields.ofNotice,
              hevent]

theorem log_of_isPlain (h : n.isPlain = true) :
    l.log n = .ok (if l.level ≤ (l.entry n).level then some (l.entry n) else none) := by
  rw [log, compose_of_isPlain h]
  rfl

/-- What a plain notice does not say itself is said by the base fields. -/
theorem get?_entry (h : n.isPlain = true) (key : String) :
    (l.entry n).fields.get? key = ((n.message? key).or (n.mark? key)).or (l.fields.get? key) := by
  obtain ⟨-, -, hfields⟩ := compose_eq_ok (compose_of_isPlain (l := l) h)
  rw [hfields, Notice.brought?_of_isPlain h, Option.none_or, Option.or_assoc]

theorem stream_append (l : Logger) (ns ns' : List Notice) :
    l.stream (ns ++ ns') = l.stream ns ++ l.stream ns' := by
  rw [stream, List.filter_append, List.map_append]
  rfl

theorem stream_singleton (l : Logger) (n : Notice) :
    l.stream [n] = if l.level ≤ (l.entry n).level then [l.entry n] else [] := by
  by_cases hlevel : l.level ≤ n.event.level <;> simp [stream, entry, hlevel]

/-- A logger with a higher threshold hands on those entries that reach it. -/
theorem stream_raise {level : Level} (h : l.level ≤ level) (ns : List Notice) :
    { l with level := level }.stream ns =
      (l.stream ns).filter fun entry => level ≤ entry.level := by
  have hboth : ∀ n : Notice, level ≤ n.event.level → l.level ≤ n.event.level :=
    fun n hn => Nat.le_trans h hn
  rw [stream, stream, List.filter_map, List.filter_filter]
  congr 1
  refine List.filter_congr fun n _ => ?_
  by_cases hn : level ≤ n.event.level
  · simp [entry, hn, hboth n hn]
  · simp [entry, hn]

/-- Told something plain, a log observer returns, and the handler got the entry, if there is one. -/
theorem alone_observe (handle : LogEntry → ThreadId → σ → σ) (h : n.isPlain = true)
    (P : Program σ) (regs : List Registry) (t : ThreadId) (x : σ) :
    (l.observe handle n).alone P regs t x =
      some (.returned .unit none, (l.stream [n]).foldl (fun x entry => handle entry t x) x) := by
  rw [observe, log_of_isPlain h, stream_singleton]
  by_cases hlevel : l.level ≤ (l.entry n).level
  · rw [if_pos hlevel, if_pos hlevel]
    rfl
  · rw [if_neg hlevel, if_neg hlevel]
    rfl

end Logger

/-! ### The delivery of notices -/

/-- Goes on with the code if there is no panic. -/
def Code.proceed (next : Code σ) : Outcome → Code σ
  | .returned _ _ => next
  | .panicked p => .raise p

/-- Hands notices to an observer, one after the other, and then goes on. -/
def Code.deliver (o : ObserverId) (next : Code σ) : List Notice → Code σ
  | [] => next
  | n :: rest => .notify o n (deliver o next rest).proceed

/-- The world after a handler got entries of a thread, one after the other. -/
def World.handled (w : World σ) (handle : LogEntry → ThreadId → σ → σ) (t : ThreadId)
    (entries : List LogEntry) : World σ :=
  { w with state := entries.foldl (fun x entry => handle entry t x) w.state }

namespace World

variable {P : Program σ} {w : World σ} {t : ThreadId} {S : List (Frame σ)} {o : ObserverId}
  {l : Logger} {handle : LogEntry → ThreadId → σ → σ} {next : Code σ} {n : Notice}
  {ns : List Notice}

/-- One delivery: the observer runs to its end, and the thread goes on with the other notices. -/
theorem reaches_deliver_cons (ho : P.observer o = l.observe handle) (hn : n.isPlain = true)
    (ht : w.threads[t]? = some ⟨.running (.deliver o next (n :: ns)), S⟩) :
    Reaches P t w
      ((w.handled handle t (l.stream [n])).put t (.running (.deliver o next ns)) S) := by
  obtain ⟨hlt, -⟩ := List.getElem?_eq_some_iff.mp ht
  let S₁ := .resume (Code.deliver o next ns).proceed :: S
  let w₁ := w.put t (.running (P.observer o n)) S₁
  have hnotify : w.step P t = some w₁ := by
    rw [step, ht]
    rfl
  -- The observer runs by itself, on top of the frame that waits for its outcome.
  have halone := Logger.alone_observe (l := l) handle hn P w₁.registries t w₁.state
  rw [← ho] at halone
  obtain ⟨g, run, hsolo⟩ := run_alone (w := w₁) (S := S₁) (by simp [w₁, put, hlt]) halone
  have hobserve : Reaches P t w₁ _ := ⟨g, run, fun m hm => (hsolo m hm).1⟩
  refine ((Reaches.single hnotify).trans hobserve).trans (.single ?_)
  simp [w₁, S₁, step, put, handled, hlt, stepReturn, Code.proceed]

/-- All deliveries: the handler gets the stream of the notices. -/
theorem reaches_deliver (ho : P.observer o = l.observe handle)
    (hns : ∀ n ∈ ns, n.isPlain = true)
    (ht : w.threads[t]? = some ⟨.running (.deliver o next ns), S⟩) :
    Reaches P t w ((w.handled handle t (l.stream ns)).put t (.running next) S) := by
  obtain ⟨hlt, hth⟩ := List.getElem?_eq_some_iff.mp ht
  induction ns generalizing w with
  | nil =>
      have hstay : w.threads.set t ⟨.running next, S⟩ = w.threads := by
        rw [← show w.threads[t] = ⟨.running next, S⟩ from hth, List.set_getElem_self]
      change Reaches P t w { w with threads := w.threads.set t ⟨.running next, S⟩ }
      rw [hstay]
      exact .refl P t w
  | cons n rest ih =>
      obtain ⟨hn, hrest⟩ := List.forall_mem_cons.mp hns
      let w₁ := (w.handled handle t (l.stream [n])).put t (.running (.deliver o next rest)) S
      have hfirst : Reaches P t w w₁ := reaches_deliver_cons ho hn ht
      have hothers := ih hrest (w := w₁) (by simp [w₁, put, handled, hlt])
        (by simp [w₁, put, handled, hlt]) (by simp [w₁, put])
      have hend : (w₁.handled handle t (l.stream rest)).put t (.running next) S =
          (w.handled handle t (l.stream (n :: rest))).put t (.running next) S := by
        rw [← List.singleton_append, l.stream_append]
        simp [w₁, put, handled]
      exact hend ▸ hfirst.trans hothers

/-- The log is the stream of what was told, without what is below the threshold. A thread that
delivers plain notices to a log observer comes to the end of them if it makes its next steps. By
then the handler has got, in the order of the notices, one entry of each that is as severe as the
threshold, and nothing else was changed. A failure is an error, a construction is information, and
everything else is for debugging. The fields of an entry are the base fields of the logger, with the
event, the type and the name of the notice and the message of the fault of a failure laid over them.
So whatever stands before and after a notice, its entry is the same. A higher threshold only takes
entries out of the log. -/
theorem log_stream (ho : P.observer o = l.observe handle) (hns : ∀ n ∈ ns, n.isPlain = true)
    (ht : w.threads[t]? = some ⟨.running (.deliver o next ns), S⟩) :
    (∃ k, w.run P (List.replicate k t) =
      (w.handled handle t (l.stream ns)).put t (.running next) S) ∧
    (∀ n ∈ ns,
      (l.entry n).level = (if n.event = .failure then .error
        else if n.event = .construct then .info else .debug) ∧
      (l.entry n).message = n.event.message ∧
      ∀ key, (l.entry n).fields.get? key =
        ((n.message? key).or (n.mark? key)).or (l.fields.get? key)) ∧
    (∀ before n after, ns = before ++ n :: after → l.stream ns =
      l.stream before ++ (if l.level ≤ (l.entry n).level then [l.entry n] else []) ++
        l.stream after) ∧
    ∀ level, l.level ≤ level → ({ l with level := level }.stream ns).Sublist (l.stream ns) ∧
      { l with level := level }.stream ns =
        (l.stream ns).filter fun entry => level ≤ entry.level := by
  refine ⟨?_, fun n hn => ⟨rfl, rfl, Logger.get?_entry (hns n hn)⟩, fun before n after hsplit => ?_,
    fun level hlevel => ?_⟩
  · obtain ⟨k, hk⟩ := (reaches_deliver ho hns ht).eq_run
    exact ⟨k, hk.symm⟩
  · rw [hsplit, l.stream_append, ← List.singleton_append, l.stream_append, l.stream_singleton,
      List.append_assoc]
  · have hraise := Logger.stream_raise hlevel ns
    exact ⟨hraise ▸ List.filter_sublist, hraise⟩

end World

namespace Sample

/-- A hit, a construction, a failure without a fault, an event of another code with a fault that has
no message, and a failure with a fault. -/
def dispatches : List Notice :=
  [slot.notice .hit none, slot.notice .construct none, slot.notice .failure none,
    slot.notice ⟨9⟩ (some .absentPointer), slot.notice .failure (some (.plain "boom"))]

/-- A thread that delivers them to an observer. -/
def delivering : World (List LogEntry) where
  threads := [.start (.deliver 0 (.done .unit none) dispatches)]
  state := []

end Sample

/-- The logger that lets information through has three entries in its journal, with the type of the
slot in place of the base field. Only the last has a message of a fault there. -/
theorem World.log_stream_titled :
    ∃ k, (Sample.delivering.run Sample.posed (List.replicate k 0)).state.map
      (fun entry => (entry.level, ["event", "type", "error"].map entry.fields.get?)) =
        [(.info, [some "construct", some "int", some "base"]),
          (.error, [some "failure", some "int", some "base"]),
          (.error, [some "failure", some "int", some "boom"])] := by
  have hplain : ∀ n ∈ Sample.dispatches, n.isPlain = true := by decide +kernel
  obtain ⟨⟨k, hk⟩, -⟩ := World.log_stream (P := Sample.posed) (w := Sample.delivering) (t := 0)
    (l := Sample.titled) rfl hplain rfl
  exact ⟨k, by rw [hk]; decide +kernel⟩

end InstanceRegistry
