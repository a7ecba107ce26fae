import InstanceRegistry.Proofs.Turn

/-!
# The shape of a thread

The frames of a stack follow a grammar. Code runs on a stack on which nothing is
asked for; a request runs on a stack that asks for the outcome of its accessor: the
code that called it, perhaps with the repetition of a steadfast accessor on top. A
constructor or an observer in turn runs on top of the request that needs it.
-/

namespace InstanceRegistry

variable {σ : Type}

/-- The announcements that a request makes, each with the phase that follows it. -/
inductive Announced : Event → Option Fault → Phase → Prop
  | hit {v} : Announced .hit none (.finish (.returned v none))
  | join {f l} : Announced .dedup l.fault? (.settle f l)
  | found {f v} : Announced .hit none (.land f (.value v))
  | construct {f} : Announced .construct none (.build f)
  | failure {f e e'} : Announced .failure (some e) (.land f (.fault e'))

/-- The phases of a leader that an announcement comes before. -/
inductive Exposed (f : FlightId) : Phase → Prop
  | build : Exposed f (.build f)
  | found {v} : Exposed f (.land f (.value v))
  | failed {e} : Exposed f (.land f (.fault e))

/-- The stacks of a thread, with the accessor whose outcome is asked for at the top. -/
inductive Stacked : Option Accessor → List (Frame σ) → Prop
  | bottom : Stacked none []
  | resume {next S} (h : Stacked none S) : Stacked none (.resume next :: S)
  | construction {a f S} (h : Stacked (some a) S) : Stacked none (.construction a f :: S)
  | observation {a next S event fault} (hn : Announced event fault next)
      (h : Stacked (some a) S) : Stacked none (.observation a next :: S)
  | caller {a next S} (h : Stacked none S) : Stacked (some a) (.caller a next :: S)
  | again {a next S} (hi : a.insistent = true) (h : Stacked none S) :
      Stacked (some a) (.again a :: .caller a next :: S)

/-- The frames on which a call of the accessor makes its requests. -/
def Accessor.frames (a : Accessor) (next : Outcome → Code σ) (S : List (Frame σ)) :
    List (Frame σ) :=
  if a.insistent then .again a :: .caller a next :: S else .caller a next :: S

/-- What a stack asks for is determined by it. -/
theorem Stacked.unique {x y : Option Accessor} {S : List (Frame σ)} (h : Stacked x S)
    (h' : Stacked y S) : x = y := by
  cases h <;> cases h' <;> rfl

/-- A thread follows the grammar. -/
inductive Thread.Proper : Thread σ → Prop
  | running {c S} (h : Stacked none S) : Proper ⟨.running c, S⟩
  | requesting {a p S}
      (hp : ∀ event fault next, p = .announce event fault next → Announced event fault next)
      (h : Stacked (some a) S) : Proper ⟨.requesting a p, S⟩
  | returning {o x S} (h : Stacked x S) : Proper ⟨.returning o, S⟩

/-- What a thread is about to announce is one of the announcements of the grammar. -/
theorem Thread.Proper.announced {a : Accessor} {event : Event} {fault : Option Fault}
    {next : Phase} {S : List (Frame σ)}
    (h : (⟨.requesting a (.announce event fault next), S⟩ : Thread σ).Proper) :
    Announced event fault next := by
  cases h with
  | requesting hp hS => exact hp _ _ _ rfl

/-- A thread that hands an outcome to a caller is asked for it by the accessor of the call. -/
theorem Thread.Proper.stacked_caller {o : Outcome} {a : Accessor} {next : Outcome → Code σ}
    {S : List (Frame σ)} (h : (⟨.returning o, .caller a next :: S⟩ : Thread σ).Proper) :
    Stacked (some a) (.caller a next :: S) := by
  cases h with
  | returning h =>
      cases h with
      | caller h => exact .caller h

/-- The phase that follows an announcement is not itself one. -/
theorem Announced.ne_announce {event event' : Event} {fault fault' : Option Fault}
    {next next' : Phase} (h : Announced event fault next) :
    next ≠ .announce event' fault' next' := by
  cases h <;> simp

theorem Announced.exposed {event : Event} {fault : Option Fault} {next : Phase} {f : FlightId}
    (h : Announced event fault next) (hf : next.flight? = some f) : Exposed f next := by
  cases h with
  | hit | join => cases hf
  | found =>
      obtain rfl := Option.some.inj hf
      exact .found
  | construct =>
      obtain rfl := Option.some.inj hf
      exact .build
  | failure =>
      obtain rfl := Option.some.inj hf
      exact .failed

/-- After its constructor, a leader keeps an instance, announces a failure or crashes its flight. -/
theorem Outcome.conclude_induct {K : Phase → Prop} (o : Outcome) (s : Slot) (f : FlightId)
    (hkeep : ∀ v, K (.keep f v))
    (hfail : ∀ e e', K (.announce .failure (some e) (.land f (.fault e'))))
    (hcrash : ∀ p, K (.land f (.crash p))) : K (o.conclude s f) := by
  cases o with
  | panicked p => exact hfail _ _
  | returned v e =>
      cases e with
      | none => exact hkeep _
      | some e =>
          simp only [Outcome.conclude]
          cases e.findPanic with
          | crashed => exact hcrash _
          | absent | found | hollow => exact hfail _ _

/-- After its constructor, a leader announces nothing but a failure, and lands with a fault. -/
theorem Outcome.conclude_announce {o : Outcome} {s : Slot} {f : FlightId} {event : Event}
    {fault : Option Fault} {next : Phase} (h : o.conclude s f = .announce event fault next) :
    (∃ e, event = .failure ∧ fault = some e) ∧ ∃ e, next = .land f (.fault e) := by
  revert h
  refine o.conclude_induct (K := fun p => p = .announce event fault next → _) s f ?_ ?_ ?_
  · intro v h
    cases h
  · intro e e' h
    obtain ⟨rfl, rfl, rfl⟩ := Phase.announce.inj h
    exact ⟨⟨e, rfl, rfl⟩, e', rfl⟩
  · intro p h
    cases h

theorem Outcome.conclude_announced {o : Outcome} {s : Slot} {f : FlightId} {event : Event}
    {fault : Option Fault} {next : Phase} (h : o.conclude s f = .announce event fault next) :
    Announced event fault next := by
  obtain ⟨⟨e, rfl, rfl⟩, e', rfl⟩ := conclude_announce h
  exact .failure

namespace World

variable {P : Program σ} {t : ThreadId} {w w' : World σ} {th th' : Thread σ}

/-- A turn keeps a thread in the grammar. -/
theorem Turn.proper (turn : Turn P t w w' th th') (hp : th.Proper) : th'.Proper := by
  cases turn with
  | proceed hr hf =>
      cases hp with
      | running h => exact .running h
  | stop hq =>
      cases hp with
      | running h => exact .returning h
  | notify hq =>
      cases hp with
      | running h => exact .running (.resume h)
  | call hq =>
      cases hp with
      | running h =>
          split
          · rename_i hi
            exact .requesting (by simp) (.again hi h)
          · exact .requesting (by simp) (.caller h)
  | resume hq =>
      cases hp with
      | returning h =>
          cases h with
          | resume h => exact .running h
  | answer hq =>
      cases hp with
      | returning h =>
          cases h with
          | caller h => exact .running h
  | retry hq =>
      cases hp with
      | returning h =>
          cases h with
          | again hi h => exact .requesting (by simp) (.again hi h)
  | pass hq ho =>
      cases hp with
      | returning h =>
          cases h with
          | again hi h => exact .returning (.caller h)
  | conclude hq =>
      cases hp with
      | returning h =>
          cases h with
          | construction h => exact .requesting (fun _ _ _ he => Outcome.conclude_announced he) h
  | observed hq =>
      cases hp with
      | returning h =>
          cases h with
          | observation hn h => exact .requesting (fun _ _ _ he => (hn.ne_announce he).elim) h
  | crash hq hf =>
      cases hp with
      | returning h =>
          cases h with
          | observation hn h => exact .requesting (by simp) h
  | interrupt hq hf =>
      cases hp with
      | returning h =>
          cases h with
          | observation hn h => exact .returning h
  | hit hq hr hv =>
      cases hp with
      | requesting hp h => exact .requesting (by rintro _ _ _ ⟨⟩; exact .hit) h
  | release hq hl hn =>
      cases hp with
      | requesting hp h => exact .requesting (by rintro _ _ _ ⟨⟩; exact .join) h
  | find hq hr hv =>
      cases hp with
      | requesting hp h => exact .requesting (by rintro _ _ _ ⟨⟩; exact .found) h
  | clear hq hr hv =>
      cases hp with
      | requesting hp h => exact .requesting (by rintro _ _ _ ⟨⟩; exact .construct) h
  | build hq =>
      cases hp with
      | requesting hp h => exact .running (.construction h)
  | skip hq hr ho =>
      cases hp with
      | requesting hp h =>
          exact .requesting (fun _ _ _ he => ((hp _ _ _ rfl).ne_announce he).elim) h
  | announce hq hr ho =>
      cases hp with
      | requesting hp h => exact .running (.observation (hp _ _ _ rfl) h)
  | lost hq hr | refuse hr hi hw | share hq hl | settle hq | finish hq =>
      cases hp with
      | requesting hp h => exact .returning h
  | miss hq hr hv | identify hr hi hw | join hq hr hf | takeOff hr hn hreg hf | keep hr hb hw
  | spill hq hr hb | land hr hf hreg hfs =>
      cases hp with
      | requesting hp h => exact .requesting (by simp) h

/-- All threads follow the grammar. -/
def Proper (w : World σ) : Prop :=
  ∀ (t : ThreadId) (th : Thread σ), w.threads[t]? = some th → th.Proper

/-- A step keeps all threads in the grammar. -/
theorem Proper.step (hp : w.Proper) (hs : w.step P t = some w') : w'.Proper := by
  obtain ⟨th, th', ht, hset, turn⟩ := step_turn hs
  intro u x hx
  obtain ⟨rfl, rfl⟩ | ⟨-, hx⟩ := threads_cases (getElem?_threads_set ht hset) hx
  · exact turn.proper (hp _ _ ht)
  · exact hp u x hx

/-- All threads follow the grammar in every run of a fresh world. -/
theorem Run.proper {w₀ : World σ} {h : List (Move σ)} (run : Run P w₀ h w)
    (fresh : w₀.Fresh) : w.Proper := by
  refine run.preserves (fun hp hs => hp.step hs) fun t th ht => ?_
  obtain ⟨c, rfl⟩ := fresh.threads th (List.mem_of_getElem? ht)
  exact .running .bottom

end World

end InstanceRegistry
