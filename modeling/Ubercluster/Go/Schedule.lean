import Mathlib.Logic.Basic

/-! Runs of goroutines under a scheduler. A schedule names the goroutine that moves at each
step. A goroutine that cannot move (it waits for a mutex or a barrier) cannot be scheduled
there, so every interleaving of the goroutines' steps is the run of some schedule. -/
namespace Ubercluster.Go

variable {Actor State : Type} (step : Actor → State → Option State)

/-- The state after the goroutines that `schedule` names took their steps in turn; `none` if
one of them could not move when its turn came. -/
def runSchedule : State → List Actor → Option State
  | s, [] => some s
  | s, a :: rest => (step a s).bind fun s' => runSchedule s' rest

/-- A state that some interleaving reaches from `init`. -/
def Reachable (init s : State) : Prop :=
  ∃ schedule, runSchedule step init schedule = some s

variable {step}

@[simp] theorem runSchedule_nil (s : State) : runSchedule step s [] = some s := rfl

@[simp] theorem runSchedule_cons (s : State) (a : Actor) (rest : List Actor) :
    runSchedule step s (a :: rest) = (step a s).bind fun s' => runSchedule step s' rest := rfl

theorem runSchedule_append (s : State) (first second : List Actor) :
    runSchedule step s (first ++ second) =
      (runSchedule step s first).bind fun s' => runSchedule step s' second := by
  induction first generalizing s with
  | nil => rfl
  | cons a rest ih =>
      simp only [List.cons_append, runSchedule_cons, ih]
      cases step a s <;> rfl

theorem Reachable.refl (s : State) : Reachable step s s := ⟨[], rfl⟩

/-- One more step of a reachable state. -/
theorem Reachable.tail {init s s' : State} {a : Actor} (h : Reachable step init s)
    (hStep : step a s = some s') : Reachable step init s' := by
  obtain ⟨schedule, hRun⟩ := h
  exact ⟨schedule ++ [a], by simp [runSchedule_append, hRun, hStep]⟩

/-- An invariant that holds at `init` and that every step of every goroutine keeps holds in
every state an interleaving reaches. This is the one induction over runs; each safety result
below supplies its invariant and its step lemma. -/
theorem Reachable.induction {Inv : State → Prop} {init s : State}
    (hInit : Inv init) (hStep : ∀ a s s', Inv s → step a s = some s' → Inv s')
    (h : Reachable step init s) : Inv s := by
  obtain ⟨schedule, hRun⟩ := h
  induction schedule generalizing init with
  | nil => cases hRun; exact hInit
  | cons a rest ih =>
      simp only [runSchedule_cons] at hRun
      cases hNext : step a init with
      | none => simp [hNext] at hRun
      | some next =>
          rw [hNext] at hRun
          exact ih (hStep a init next hInit hNext) hRun

end Ubercluster.Go
