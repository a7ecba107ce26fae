import InstanceRegistry.Step

/-!
# Runs of a world

A run is a chain of steps of any threads in any order. Its history keeps every
step together with the worlds before and after it, so that a statement about a
whole run can speak of each moment in it.

## Implementation notes

The step function passes over a thread that has no step; a history holds only the
steps that were made. Both views are related in both directions: every schedule
gives a run, and every run comes from a schedule.
-/

namespace InstanceRegistry

variable {σ : Type}

/-- What is read off one more element of a list. -/
theorem filterMap_append_singleton {α β : Type} (g : α → Option β) (l : List α) (x : α) :
    (l ++ [x]).filterMap g = l.filterMap g ++ (g x).toList := by
  rw [List.filterMap_append]
  cases hx : g x with
  | none => rw [List.filterMap_cons_none hx]; rfl
  | some y => rw [List.filterMap_cons_some hx]; rfl

/-- A step that was made. -/
structure Move (σ : Type) where
  thread : ThreadId
  before : World σ
  after : World σ

/-- The thread that makes a move, as it was before the move. -/
def Move.actor? (m : Move σ) : Option (Thread σ) := m.before.threads[m.thread]?

namespace World

/-- Nothing has happened yet: the registries are as they were made, no flight took off, and
every thread stands at the start of its code. -/
structure Fresh (w : World σ) : Prop where
  registries : ∀ reg ∈ w.registries, ∃ bare observers, reg = Registry.make bare observers
  flights : w.flights = []
  threads : ∀ th ∈ w.threads, ∃ c, th = Thread.start c

/-- A world with one new registry is fresh if its threads stand at the start of their codes. -/
theorem fresh_start (observers : List (Option ObserverId)) (codes : List (Code σ)) (state : σ) :
    Fresh { registries := [.new observers], threads := codes.map Thread.start, state } := by
  refine ⟨?_, rfl, ?_⟩
  · intro reg hreg
    exact ⟨false, observers, List.mem_singleton.mp hreg⟩
  · intro th hth
    obtain ⟨c, -, rfl⟩ := List.mem_map.mp hth
    exact ⟨c, rfl⟩

/-- A run from one world to another, with its history. -/
inductive Run (P : Program σ) (w : World σ) : List (Move σ) → World σ → Prop
  | start : Run P w [] w
  | step {h w' t w''} (run : Run P w h w') (hs : w'.step P t = some w'') :
      Run P w (h ++ [⟨t, w', w''⟩]) w''

/-- The history of a schedule. -/
def history (P : Program σ) (w : World σ) : List ThreadId → List (Move σ)
  | [] => []
  | t :: rest =>
    match w.step P t with
    | none => history P w rest
    | some w' => ⟨t, w, w'⟩ :: history P w' rest

namespace Run

variable {P : Program σ} {u v w : World σ} {h h' : List (Move σ)}

/-- A single step is a run. -/
theorem single {t : ThreadId} (hs : v.step P t = some w) : Run P v [⟨t, v, w⟩] w :=
  Run.step Run.start hs

/-- Runs are put together by appending their histories. -/
theorem append (run : Run P u h v) (run' : Run P v h' w) : Run P u (h ++ h') w := by
  induction run' with
  | start => simpa using run
  | step _ hs ih =>
      rw [← List.append_assoc]
      exact Run.step ih hs

/-- Every move of a history splits its run into a part before, a step and a part after. -/
theorem split (run : Run P u h w) {m : Move σ} (hm : m ∈ h) :
    ∃ h₁ h₂, h = h₁ ++ m :: h₂ ∧ Run P u h₁ m.before ∧
      m.before.step P m.thread = some m.after ∧ Run P m.after h₂ w := by
  induction run with
  | start => cases hm
  | @step h v t w run hs ih =>
      rcases List.mem_append.mp hm with hm | hm
      · obtain ⟨h₁, h₂, rfl, run₁, hstep, run₂⟩ := ih hm
        refine ⟨h₁, h₂ ++ [⟨t, v, w⟩], by simp, run₁, hstep, Run.step run₂ hs⟩
      · obtain rfl := List.mem_singleton.mp hm
        exact ⟨h, [], rfl, run, hs, Run.start⟩

/-- A run without moves leads nowhere. -/
theorem eq_of_nil (run : Run P u [] w) : w = u := by
  generalize hg : ([] : List (Move σ)) = g at run
  cases run with
  | start => rfl
  | step run hs => simp at hg

/-- A run begins with the first move of its history. -/
theorem uncons {m : Move σ} (run : Run P u (m :: h) w) :
    m.before = u ∧ u.step P m.thread = some m.after ∧ Run P m.after h w := by
  generalize hg : m :: h = g at run
  induction run generalizing h with
  | start => cases hg
  | @step g v t w run hs ih =>
      cases g with
      | nil =>
          obtain rfl := run.eq_of_nil
          cases hg
          exact ⟨rfl, hs, .start⟩
      | cons m' g =>
          obtain ⟨rfl, rfl⟩ := List.cons.inj hg
          obtain ⟨hb, hs₀, run₀⟩ := ih rfl
          exact ⟨hb, hs₀, run₀.step hs⟩

/-- What is left of a run after its first part is a run from where that part leads. -/
theorem rest (run : Run P u (h ++ h') w) (run' : Run P u h v) : Run P v h' w := by
  induction h generalizing u with
  | nil =>
      rw [run'.eq_of_nil]
      exact run
  | cons m h ih =>
      obtain ⟨-, -, run₁⟩ := run.uncons
      obtain ⟨-, -, run₂⟩ := run'.uncons
      exact ih run₁ run₂

/-- What every step keeps, every run keeps. -/
theorem preserves {I : World σ → Prop}
    (hI : ∀ {v t w}, I v → v.step P t = some w → I w) (run : Run P u h w) (hu : I u) : I w := by
  induction run with
  | start => exact hu
  | step _ hs ih => exact hI ih hs

/-- A run is one of every program under which the same steps are made. -/
theorem congr {Q : Program σ} (run : Run P u h w)
    (hstep : ∀ m ∈ h, m.before.step Q m.thread = m.before.step P m.thread) : Run Q u h w := by
  induction run with
  | start => exact .start
  | @step h v t w run hs ih =>
      obtain ⟨hstep, hlast⟩ := List.forall_mem_append.mp hstep
      exact (ih hstep).step ((hlast _ (List.mem_singleton_self _)).trans hs)

end Run

/-- Every schedule gives a run to the world that it leads to. -/
theorem run_of_schedule (P : Program σ) (w : World σ) (schedule : List ThreadId) :
    Run P w (w.history P schedule) (w.run P schedule) := by
  induction schedule generalizing w with
  | nil => exact Run.start
  | cons t rest ih =>
      simp only [history, run, List.foldl_cons]
      cases hs : w.step P t with
      | none => simpa [run] using ih w
      | some w' => simpa [run] using (Run.single hs).append (ih w')

/-- The history of two schedules in a row. -/
theorem history_append (P : Program σ) (w : World σ) (s s' : List ThreadId) :
    w.history P (s ++ s') = w.history P s ++ (w.run P s).history P s' := by
  induction s generalizing w with
  | nil => rfl
  | cons t rest ih =>
      simp only [history, run, List.cons_append, List.foldl_cons]
      cases w.step P t with
      | none => simpa [run] using ih w
      | some w' => simpa [run] using ih w'

/-- Every run is the run of the threads that move in it, in their order. -/
theorem Run.eq_of_turns {P : Program σ} {u w : World σ} {h : List (Move σ)} (run : Run P u h w) :
    w = u.run P (h.map Move.thread) ∧ h = u.history P (h.map Move.thread) := by
  induction run with
  | start => exact ⟨rfl, rfl⟩
  | @step h v t w _ hs ih =>
      obtain ⟨hv, hh⟩ := ih
      rw [List.map_append, List.map_singleton]
      constructor
      · rw [World.run, List.foldl_append]
        change w = (((u.run P _).step P t).getD _)
        rw [← hv, hs]
        rfl
      · rw [history_append, ← hv, ← hh]
        simp [history, hs]

end World

end InstanceRegistry
