import Ubercluster.Go.FanOut

/-! Progress and termination of a fan-out. Completion is deadlock freedom with termination:

1. the WaitGroup invariant `Counted` leaves the function a step in every state where it has not
   returned, as soon as some running goroutine can move whenever one is running;
2. every step spends at least one unit of `potential`, the steps the loop and the goroutines
   still owe, so no run is longer than the potential it starts from.

So a run that cannot go on has returned, and every run stops within a known number of steps. -/
namespace Ubercluster.Go.FanOut

variable {T D : Type} {P : FanOut T D}

/-- A goroutine that has yet to call `Done` sits at some place of the list. -/
theorem exists_running_of_countP {tasks : List (TaskPc T)}
    (h : 0 < tasks.countP TaskPc.isRunning) :
    ∃ (k : Nat) (t : T), tasks[k]? = some (TaskPc.running t) := by
  obtain ⟨x, hx, hRun⟩ := List.countP_pos_iff.1 h
  obtain ⟨k, hk⟩ := List.mem_iff_getElem?.1 hx
  cases x with
  | running t => exact ⟨k, t, hk⟩
  | _ => cases hRun

variable (P) in
/-- While some goroutine runs, one that runs can move. -/
def SomeMoves (s : FanOutState T D) : Prop :=
  (∃ (k : Nat) (t : T), s.tasks[k]? = some (.running t)) →
    ∃ k t r, s.tasks[k]? = some (.running t) ∧ P.move k t s.shared = some r

/-- Deadlock freedom from the WaitGroup invariant: a function that has not returned can move,
or one of its goroutines can, once `SomeMoves` holds. The loop never waits, and at `wg.Wait()` a
counter above zero means a goroutine still runs. -/
theorem exists_step {s : FanOutState T D} (hc : P.Counted s) (hRet : s.main ≠ .returned)
    (hMove : P.SomeMoves s) :
    ∃ a s', P.step a s = some s' := by
  cases hMain : s.main with
  | returned => exact absurd hMain hRet
  | spawn k =>
      refine ⟨.main, ?_⟩
      by_cases hk : k < P.items
      · have hPos := hc.counter_pos.1 k hMain hk
        cases hSkip : P.skip k <;> simp [step, hMain, hk, hSkip, Nat.pos_iff_ne_zero.1 hPos]
      · simp [step, hMain, hk]
  | wait =>
      by_cases hZero : s.counter = 0
      · exact ⟨.main, by simp [step, hMain, hZero]⟩
      · obtain ⟨hLen, -, hCounter, -, -⟩ := hc
        rw [hMain] at hLen
        simp only [handled] at hLen
        obtain ⟨k, t, r, hk, hm⟩ := hMove (exists_running_of_countP (by omega))
        obtain ⟨_ | t', d⟩ := r
        · exact ⟨.task k, by simp [step, hk, hm, hZero]⟩
        · exact ⟨.task k, by simp [step, hk, hm]⟩

/-- A state of the fan-out where nothing can move is one where the function has returned. -/
theorem returned_of_stuck {s : FanOutState T D} (hc : P.Counted s)
    (hMove : P.SomeMoves s)
    (hStuck : ∀ a, P.step a s = none) : s.main = .returned := by
  by_cases hRet : s.main = .returned
  · exact hRet
  · obtain ⟨a, s', h⟩ := exists_step hc hRet hMove
    rw [hStuck a] at h
    cases h

variable (P) (rank : T → Nat)

/-- The steps an item owes once the loop reaches it: the loop's own, and for a goroutine each
of its steps up to its `Done`, which `rank` bounds. -/
def itemCost (j : Nat) : Nat := if P.skip j then 1 else rank (P.start j) + 2

/-- The steps the loop owes for the `n` items from `k` on. -/
def pendingCost (k : Nat) : Nat → Nat
  | 0 => 0
  | n + 1 => P.itemCost rank k + pendingCost (k + 1) n

/-- The steps the function itself owes: the items it has yet to handle, closing the loop and
returning from `wg.Wait()`. -/
def mainCost : MainPc → Nat
  | .spawn k => P.pendingCost rank k (P.items - k) + 2
  | .wait => 1
  | .returned => 0

/-- The steps a goroutine owes: its moves and its `Done`. -/
def taskCost : TaskPc T → Nat
  | .running t => rank t + 1
  | _ => 0

/-- The steps the goroutines owe. -/
def tasksCost : List (TaskPc T) → Nat
  | [] => 0
  | x :: xs => taskCost rank x + tasksCost xs

/-- The steps every run from `s` can still take at most. -/
def potential (s : FanOutState T D) : Nat := P.mainCost rank s.main + tasksCost rank s.tasks

variable {rank}

theorem tasksCost_append_singleton (l : List (TaskPc T)) (x : TaskPc T) :
    tasksCost rank (l ++ [x]) = tasksCost rank l + taskCost rank x := by
  induction l with
  | nil => simp [tasksCost]
  | cons y l ih => rw [List.cons_append, tasksCost, tasksCost, ih, Nat.add_assoc]

theorem tasksCost_set {l : List (TaskPc T)} {k : Nat} {y : TaskPc T} (hk : l[k]? = some y)
    (x : TaskPc T) : tasksCost rank (l.set k x) + taskCost rank y =
      tasksCost rank l + taskCost rank x := by
  induction l generalizing k with
  | nil => cases hk
  | cons z l ih =>
      cases k with
      | zero =>
          simp only [List.getElem?_cons_zero, Option.some.injEq] at hk
          subst hk
          simp only [List.set_cons_zero, tasksCost]
          omega
      | succ k =>
          simp only [List.getElem?_cons_succ] at hk
          simp only [List.set_cons_succ, tasksCost]
          have := ih hk
          omega

theorem pendingCost_le {c : Nat} (h : ∀ j, P.itemCost rank j ≤ c) (k n : Nat) :
    P.pendingCost rank k n ≤ n * c := by
  induction n generalizing k with
  | zero => simp [pendingCost]
  | succ n ih =>
      simp only [pendingCost, Nat.succ_mul]
      have := h k
      have := ih (k + 1)
      omega

/-- The loop at an item owes that item's steps and its steps from the next item on. -/
theorem mainCost_spawn {k : Nat} (hk : k < P.items) :
    P.mainCost rank (.spawn k) = P.itemCost rank k + P.mainCost rank (.spawn (k + 1)) := by
  have hn : P.items - k = (P.items - (k + 1)) + 1 := by omega
  simp only [mainCost, hn, pendingCost]
  omega

variable {P}

/-- Every step spends potential, once each move of a goroutine lowers its `rank`. -/
theorem potential_lt
    (hRank : ∀ k t d t' d', P.move k t d = some (some t', d') → rank t' < rank t)
    {a : Actor} {s s' : FanOutState T D} (hm : P.Moves a s s') :
    P.potential rank s' < P.potential rank s := by
  cases hm with
  | skip hMain hk hSkip =>
      simp only [potential, hMain, P.mainCost_spawn hk, itemCost, hSkip, if_true,
        tasksCost_append_singleton, taskCost]
      omega
  | spawn hMain hk hSkip =>
      simp only [potential, hMain, P.mainCost_spawn hk, itemCost, hSkip, Bool.false_eq_true,
        if_false, tasksCost_append_singleton, taskCost]
      omega
  | close hMain hk =>
      simp only [potential, mainCost, hMain, Nat.sub_eq_zero_of_le hk, pendingCost]
      omega
  | wake hMain => simp only [potential, mainCost, hMain]; omega
  | @work _ k t t' d hTask hMove =>
      have hSet := @tasksCost_set T rank _ _ _ hTask (.running t')
      have hLt := hRank _ _ _ _ _ hMove
      simp only [potential, taskCost] at hSet ⊢
      omega
  | done hTask =>
      have hSet := @tasksCost_set T rank _ _ _ hTask .finished
      simp only [potential, taskCost] at hSet ⊢
      omega

/-- A run spends at least one unit of potential a step. -/
theorem length_add_potential_le
    (hRank : ∀ k t d t' d', P.move k t d = some (some t', d') → rank t' < rank t)
    {acts : List Actor} {s s' : FanOutState T D} (h : runSchedule P.step s acts = some s') :
    acts.length + P.potential rank s' ≤ P.potential rank s := by
  induction acts generalizing s with
  | nil => cases h; simp
  | cons a acts ih =>
      simp only [runSchedule_cons] at h
      cases hStep : P.step a s with
      | none => rw [hStep] at h; cases h
      | some next =>
          rw [hStep] at h
          have := ih h
          have := potential_lt hRank (moves_of_step hStep)
          simp only [List.length_cons]
          omega

/-- Every run from the start is at most `c` steps an item and two more, when no item owes more
than `c` steps. -/
theorem length_le_of_itemCost_le
    (hRank : ∀ k t d t' d', P.move k t d = some (some t', d') → rank t' < rank t) {c : Nat}
    (hItem : ∀ j, P.itemCost rank j ≤ c) {d : D} {acts : List Actor} {s : FanOutState T D}
    (h : runSchedule P.step (P.init d) acts = some s) : acts.length ≤ P.items * c + 2 := by
  have hRun := length_add_potential_le hRank h
  have hStart := P.pendingCost_le hItem 0 P.items
  simp only [potential, init, mainCost, tasksCost, Nat.sub_zero] at hRun
  omega

end Ubercluster.Go.FanOut
