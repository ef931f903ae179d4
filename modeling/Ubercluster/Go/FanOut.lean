import Ubercluster.Go.Schedule
import Mathlib.Tactic.SplitIfs

/-! A function that fans out one goroutine per item and waits on a `sync.WaitGroup`. After
`wg.Add(n)` it walks the items in order: for an item it skips it calls `Done` itself, for
the others it starts a goroutine; then it waits. A goroutine takes its own steps over the data
the goroutines share and calls `Done` last. This module is about the WaitGroup alone. -/
namespace Ubercluster.Go

/-- Where the function that fans out is. -/
inductive MainPc where
  /-- The loop, at item `k`. -/
  | spawn (k : Nat)
  /-- `wg.Wait()`. -/
  | wait
  | returned
  deriving DecidableEq

/-- The goroutine of one item. -/
inductive TaskPc (T : Type) where
  /-- The loop skipped the item and called `Done` for it. -/
  | skipped
  | running (t : T)
  /-- The goroutine called `Done` and ended. -/
  | finished
  deriving DecidableEq

namespace TaskPc

/-- The goroutine still has to call `Done`. -/
def isRunning {T : Type} : TaskPc T → Bool
  | .running _ => true
  | _ => false

end TaskPc

/-- A fan-out: the number of items, the items the loop skips, the first state of an item's
goroutine, and one step of a goroutine over the shared data: `none` when it cannot move, and
`some (none, d)` when the step ends with `Done`. -/
structure FanOut (T D : Type) where
  items : Nat
  skip : Nat → Bool
  start : Nat → T
  move : Nat → T → D → Option (Option T × D)

/-- The function's place, the WaitGroup counter, the goroutines of the items handled so far,
and the shared data. -/
structure FanOutState (T D : Type) where
  main : MainPc
  counter : Nat
  tasks : List (TaskPc T)
  shared : D
  deriving DecidableEq

/-- Who moves: the function itself or the goroutine of item `k`. -/
inductive Actor where
  | main
  | task (k : Nat)
  deriving DecidableEq

/-- A goroutine of the list after the loop appended one: an old one, or the new one. -/
theorem getElem?_append_singleton {α : Type} {l : List α} {x y : α} {k : Nat}
    (h : (l ++ [x])[k]? = some y) : l[k]? = some y ∨ k = l.length ∧ x = y := by
  by_cases hk : k < l.length
  · exact .inl (by rwa [List.getElem?_append_left hk] at h)
  · rw [List.getElem?_append_right (by omega)] at h
    cases hd : k - l.length with
    | zero => exact .inr ⟨by omega, by simpa [hd] using h⟩
    | succ m => simp [hd] at h

/-- After the loop appended a goroutine, each place holds what it held, or the new one where
there was none. -/
theorem getElem?_append_singleton_eq {α : Type} (l : List α) (x : α) (k : Nat) :
    (l ++ [x])[k]? = l[k]? ∨ (l ++ [x])[k]? = some x ∧ l[k]? = none := by
  by_cases hk : k < l.length
  · exact .inl (List.getElem?_append_left hk)
  · by_cases hEq : k = l.length
    · subst hEq
      exact .inr ⟨List.getElem?_concat_length l x, List.getElem?_eq_none (Nat.le_refl _)⟩
    · exact .inl (by rw [List.getElem?_eq_none (by simp; omega), List.getElem?_eq_none (by omega)])

/-- A goroutine of the list after one of them moved: the one that moved, or an old one. -/
theorem getElem?_set_some {α : Type} {l : List α} {x y : α} {i k : Nat}
    (h : (l.set i x)[k]? = some y) : k = i ∧ x = y ∨ k ≠ i ∧ l[k]? = some y := by
  rw [List.getElem?_set] at h
  split_ifs at h with hik
  · exact .inl ⟨hik.symm, Option.some.inj h⟩
  · exact .inr ⟨Ne.symm hik, h⟩

namespace FanOut

variable {T D : Type} (P : FanOut T D)

/-- Right after `wg.Add(n)`; no goroutine runs before the loop. -/
def init (d : D) : FanOutState T D := ⟨.spawn 0, P.items, [], d⟩

/-- One step. `Done` on a zero counter would make Go panic; the step is then refused, and
`Counted` shows that no run gets there. -/
def step : Actor → FanOutState T D → Option (FanOutState T D)
  | .main, s =>
      match s.main with
      | .spawn k =>
          if k < P.items then
            if P.skip k then
              if s.counter = 0 then none
              else some { s with
                main := .spawn (k + 1), counter := s.counter - 1, tasks := s.tasks ++ [.skipped] }
            else some { s with main := .spawn (k + 1), tasks := s.tasks ++ [.running (P.start k)] }
          else some { s with main := .wait }
      | .wait => if s.counter = 0 then some { s with main := .returned } else none
      | .returned => none
  | .task k, s =>
      match s.tasks[k]? with
      | some (.running t) =>
          match P.move k t s.shared with
          | some (some t', d) => some { s with tasks := s.tasks.set k (.running t'), shared := d }
          | some (none, d) =>
              if s.counter = 0 then none
              else some { s with
                tasks := s.tasks.set k .finished, shared := d, counter := s.counter - 1 }
          | none => none
      | _ => none

/-- The kinds of step, one constructor each, with everything a step needs and does. -/
inductive Moves : Actor → FanOutState T D → FanOutState T D → Prop
  | skip {s : FanOutState T D} {k : Nat} (hMain : s.main = .spawn k) (hk : k < P.items)
      (hSkip : P.skip k = true) (hCounter : 0 < s.counter) :
      Moves .main s { s with
        main := .spawn (k + 1), counter := s.counter - 1, tasks := s.tasks ++ [.skipped] }
  | spawn {s : FanOutState T D} {k : Nat} (hMain : s.main = .spawn k) (hk : k < P.items)
      (hSkip : P.skip k = false) :
      Moves .main s { s with main := .spawn (k + 1), tasks := s.tasks ++ [.running (P.start k)] }
  | close {s : FanOutState T D} {k : Nat} (hMain : s.main = .spawn k) (hk : P.items ≤ k) :
      Moves .main s { s with main := .wait }
  | wake {s : FanOutState T D} (hMain : s.main = .wait) (hCounter : s.counter = 0) :
      Moves .main s { s with main := .returned }
  | work {s : FanOutState T D} {k : Nat} {t t' : T} {d : D}
      (hTask : s.tasks[k]? = some (.running t)) (hMove : P.move k t s.shared = some (some t', d)) :
      Moves (.task k) s { s with tasks := s.tasks.set k (.running t'), shared := d }
  | done {s : FanOutState T D} {k : Nat} {t : T} {d : D}
      (hTask : s.tasks[k]? = some (.running t)) (hMove : P.move k t s.shared = some (none, d))
      (hCounter : 0 < s.counter) :
      Moves (.task k) s { s with
        tasks := s.tasks.set k .finished, shared := d, counter := s.counter - 1 }

variable {P}

/-- Every step is one of the kinds of `Moves`. -/
theorem moves_of_step {a : Actor} {s s' : FanOutState T D} (h : P.step a s = some s') :
    P.Moves a s s' := by
  cases a with
  | main =>
      cases hMain : s.main with
      | spawn k =>
          simp only [step, hMain] at h
          split_ifs at h with hk hSkip hCounter <;> cases h
          · exact .skip hMain hk hSkip (Nat.pos_of_ne_zero hCounter)
          · exact .spawn hMain hk (by simpa using hSkip)
          · exact .close hMain (by omega)
      | wait =>
          simp only [step, hMain] at h
          split_ifs at h with hCounter
          cases h
          exact .wake hMain hCounter
      | returned => simp [step, hMain] at h
  | task k =>
      simp only [step] at h
      split at h <;> try contradiction
      rename_i t hTask
      split at h <;> try contradiction
      · cases h
        exact .work hTask ‹_›
      · split_ifs at h with hCounter
        cases h
        exact .done hTask ‹_› (Nat.pos_of_ne_zero hCounter)

variable (P)

/-- How many items the loop has handled. -/
def handled : MainPc → Nat
  | .spawn k => k
  | _ => P.items

/-- The WaitGroup invariant. The goroutines are those of the items handled so far, skipped
exactly where the loop skips; the counter is the number of items not yet handled plus the
goroutines still running, and it is zero once the function has returned. -/
structure Counted (s : FanOutState T D) : Prop where
  length_tasks : s.tasks.length = P.handled s.main
  handled_le : P.handled s.main ≤ P.items
  counter_eq : s.counter = P.items - s.tasks.length + s.tasks.countP TaskPc.isRunning
  skipped_iff : ∀ j (hj : j < s.tasks.length), s.tasks[j] = .skipped ↔ P.skip j = true
  counter_returned : s.main = .returned → s.counter = 0

variable {P}

theorem counted_init (d : D) : P.Counted (P.init d) :=
  ⟨rfl, Nat.zero_le _, by simp [init], by simp [init], by simp [init]⟩

private theorem skipped_iff_set {tasks : List (TaskPc T)} {k : Nat} {t : T} {x : TaskPc T}
    (hTask : tasks[k]? = some (.running t)) (hx : x ≠ .skipped)
    (h : ∀ j (hj : j < tasks.length), tasks[j] = .skipped ↔ P.skip j = true) :
    ∀ j (hj : j < (tasks.set k x).length), (tasks.set k x)[j] = .skipped ↔ P.skip j = true := by
  intro j hj
  rw [List.length_set] at hj
  rw [List.getElem_set]
  split_ifs with hjk
  · subst hjk
    rw [← h k hj]
    simp [List.getElem?_eq_getElem hj] at hTask
    simp [hTask, hx]
  · exact h j hj

private theorem countP_set_running {tasks : List (TaskPc T)} {k : Nat} {t : T} (x : TaskPc T)
    (hTask : tasks[k]? = some (.running t)) :
    (tasks.set k x).countP TaskPc.isRunning + 1 =
      tasks.countP TaskPc.isRunning + (if x.isRunning then 1 else 0) := by
  obtain ⟨hk, hGet⟩ := List.getElem?_eq_some_iff.1 hTask
  have hPos : 0 < tasks.countP TaskPc.isRunning :=
    List.countP_pos_iff.2 ⟨_, List.getElem_mem hk, by simp [hGet, TaskPc.isRunning]⟩
  rw [List.countP_set _ _ _ _ hk, hGet]
  simp only [TaskPc.isRunning, if_true]
  omega

/-- One step keeps the WaitGroup invariant. -/
theorem Counted.moves {a : Actor} {s s' : FanOutState T D} (h : P.Counted s)
    (hm : P.Moves a s s') : P.Counted s' := by
  obtain ⟨hLen, hLe, hCounter, hSkip, hRet⟩ := h
  cases hm with
  | skip hMain hk hSkipK hPos =>
      simp only [hMain, handled] at hLen hLe
      refine ⟨by simp [hLen, handled], hk, by simp [TaskPc.isRunning]; omega, fun j hj => ?_,
        by simp⟩
      simp only [List.length_append, List.length_singleton] at hj
      rcases Nat.lt_succ_iff_lt_or_eq.1 hj with hj | rfl
      · simpa [List.getElem_append_left hj] using hSkip j hj
      · simp [hLen, hSkipK]
  | spawn hMain hk hSkipK =>
      simp only [hMain, handled] at hLen hLe
      refine ⟨by simp [hLen, handled], hk, by simp [TaskPc.isRunning]; omega, fun j hj => ?_,
        by simp⟩
      simp only [List.length_append, List.length_singleton] at hj
      rcases Nat.lt_succ_iff_lt_or_eq.1 hj with hj | rfl
      · simpa [List.getElem_append_left hj] using hSkip j hj
      · simp [hLen, hSkipK]
  | close hMain hk =>
      simp only [hMain, handled] at hLen hLe
      exact ⟨by simp [handled]; omega, Nat.le_refl _, hCounter, hSkip, by simp⟩
  | wake hMain hZero => exact ⟨by simpa [hMain, handled] using hLen, by simp [handled],
      hCounter, hSkip, fun _ => hZero⟩
  | work hTask hMove =>
      have hCount := countP_set_running (.running ‹_›) hTask
      simp only [TaskPc.isRunning, if_true] at hCount
      exact ⟨by simpa using hLen, hLe, by simp; omega,
        skipped_iff_set hTask (by simp) hSkip, hRet⟩
  | done hTask hMove hPos =>
      have hCount := countP_set_running .finished hTask
      simp [TaskPc.isRunning] at hCount
      exact ⟨by simpa using hLen, hLe, by simp; omega,
        skipped_iff_set hTask (by simp) hSkip, fun h => absurd (hRet h) (by omega)⟩

theorem Counted.of_reachable {d : D} {s : FanOutState T D} (h : Reachable P.step (P.init d) s) :
    P.Counted s :=
  Reachable.induction (counted_init d) (fun _ _ _ hs hStep => hs.moves (moves_of_step hStep)) h

/-- While an item is left to handle or a goroutine runs, the WaitGroup counter is above zero:
no `Done`, of the loop for a skipped item or of a goroutine, finds it at zero, where Go panics
with a negative counter. -/
theorem Counted.counter_pos {s : FanOutState T D} (h : P.Counted s) :
    (∀ k, s.main = .spawn k → k < P.items → 0 < s.counter) ∧
      ∀ (k : Nat) (t : T), s.tasks[k]? = some (.running t) → 0 < s.counter := by
  obtain ⟨hLen, -, hCounter, -, -⟩ := h
  refine ⟨fun k hMain hk => ?_, fun k t hk => ?_⟩
  · rw [hMain] at hLen
    simp only [handled] at hLen
    omega
  · have : 0 < s.tasks.countP TaskPc.isRunning :=
      List.countP_pos_iff.2 ⟨_, List.mem_iff_getElem?.2 ⟨k, hk⟩, rfl⟩
    omega

/-- Once the function has returned, every item it did not skip has had its goroutine run to
its `Done`: the WaitGroup releases only then. -/
theorem tasks_of_returned {d : D} {s : FanOutState T D} (h : Reachable P.step (P.init d) s)
    (hRet : s.main = .returned) :
    s.tasks = (List.range P.items).map fun j => if P.skip j then .skipped else .finished := by
  obtain ⟨hLen, -, hCounter, hSkip, hZero⟩ := Counted.of_reachable h
  simp only [hRet, handled] at hLen
  have hNone : s.tasks.countP TaskPc.isRunning = 0 := by have := hZero hRet; omega
  apply List.ext_getElem (by simp [hLen])
  intro j hj _
  have hNot := List.countP_eq_zero.1 hNone _ (List.getElem_mem hj)
  have hIff := hSkip j hj
  simp only [List.getElem_map, List.getElem_range]
  split_ifs with hj'
  · exact hIff.2 hj'
  · revert hNot hIff
    cases s.tasks[j] <;> simp_all [TaskPc.isRunning]

/-- The goroutine of item `k` once the function has returned. -/
theorem getElem?_tasks_of_returned {d : D} {s : FanOutState T D}
    (h : Reachable P.step (P.init d) s) (hRet : s.main = .returned) (k : Nat) :
    s.tasks[k]? =
      if k < P.items then some (if P.skip k then .skipped else .finished) else none := by
  rw [tasks_of_returned h hRet, List.getElem?_map]
  by_cases hk : k < P.items
  · rw [if_pos hk, List.getElem?_range hk]; rfl
  · rw [if_neg hk, List.getElem?_eq_none (by simpa using hk)]; rfl

variable (P)

/-- The goroutine the loop leaves for item `j`: none for an item it skips, else a fresh one. -/
def spawned (j : Nat) : TaskPc T := if P.skip j then .skipped else .running (P.start j)

variable {P}

/-- The loop alone, before any goroutine has moved, reaches every item up to the last, having
skipped or started each item before it: the WaitGroup counter never blocks a skip there. -/
theorem reachable_spawn (d : D) {j : Nat} (hj : j ≤ P.items) :
    ∃ s, Reachable P.step (P.init d) s ∧ s.main = .spawn j ∧
      s.tasks = (List.range j).map P.spawned := by
  induction j with
  | zero => exact ⟨P.init d, .refl _, rfl, rfl⟩
  | succ j ih =>
      obtain ⟨s, hs, hMain, hTasks⟩ := ih (by omega)
      have hLt : j < P.items := by omega
      have hPos : 0 < s.counter := by
        have := (Counted.of_reachable hs).counter_eq
        simp only [hTasks, List.length_map, List.length_range] at this
        omega
      have hNext : s.tasks ++ [P.spawned j] = (List.range (j + 1)).map P.spawned := by
        rw [hTasks, List.range_succ, List.map_append, List.map_singleton]
      cases hSkip : P.skip j with
      | true =>
          have hStep : P.step .main s = some { s with
              main := .spawn (j + 1), counter := s.counter - 1,
              tasks := s.tasks ++ [.skipped] } := by
            simp [step, hMain, hLt, hSkip, Nat.pos_iff_ne_zero.1 hPos]
          exact ⟨_, hs.tail hStep, rfl, by simpa [spawned, hSkip] using hNext⟩
      | false =>
          have hStep : P.step .main s = some { s with
              main := .spawn (j + 1), tasks := s.tasks ++ [.running (P.start j)] } := by
            simp [step, hMain, hLt, hSkip]
          exact ⟨_, hs.tail hStep, rfl, by simpa [spawned, hSkip] using hNext⟩

/-- Some interleaving reaches the goroutine the loop leaves for item `k`. -/
theorem reachable_spawned (d : D) {k : Nat} (hk : k < P.items) :
    ∃ s, Reachable P.step (P.init d) s ∧ s.tasks[k]? = some (P.spawned k) := by
  obtain ⟨s, hs, -, hTasks⟩ := reachable_spawn d hk
  exact ⟨s, hs, by rw [hTasks, List.getElem?_map, List.getElem?_range (Nat.lt_succ_self k)]; rfl⟩

end FanOut

end Ubercluster.Go
