import Ubercluster.Tracker.StartProcess
import Ubercluster.Go.Schedule

/-! Calls of `StartProcess` running at once. Each call is a goroutine of its own, and every
interleaving of their steps is a schedule of `trackerStep`. The overlay/restore window of a
call runs from `currentEnv` (line 57) through `restoreEnv` (line 71); the mutex each call locks
around it is its own, so it keeps no other call out. -/
namespace Ubercluster.Tracker

open Go

/-- The calls in flight and the world they share. -/
structure State where
  calls : List Call
  world : World
  deriving DecidableEq

/-- Call `i` takes one step. -/
def trackerStep (i : Nat) (s : State) : Option State :=
  match s.calls[i]? with
  | none => none
  | some c => (callStep c s.world).map fun r => ⟨s.calls.set i r.1, r.2⟩

/-- The calls `StartProcess(jobid, t, ch)` for `jobs`, all started from the environment `E`.
Each call declares its own `var mtx sync.Mutex` (line 54), so call `i` locks mutex `i`. -/
def concurrentStart (E : Env) (jobs : List (String × JobTemplate × Bool)) : State :=
  ⟨jobs.mapIdx fun i j => startProcess j.1 j.2.1 j.2.2 i, ⟨E, [], [], [], 1⟩⟩

/-- The call is inside its overlay/restore window. -/
def Pc.inWindow : Pc → Bool
  | .save | .overlay _ | .start | .restore _ => true
  | _ => false

/-- The call holds its mutex: it is between `mtx.Lock()` and `mtx.Unlock()`. -/
def Pc.holdsMutex : Pc → Bool
  | .save | .overlay _ | .start | .restore _ | .unlock _ => true
  | _ => false

variable {s : State} {i : Nat} {c : Call}

/-- Call `i` takes the step `callStep` gives it. -/
theorem runSchedule_call (hc : s.calls[i]? = some c) {c' : Call} {w' : World}
    (h : callStep c s.world = some (c', w')) (rest : List Nat) :
    runSchedule trackerStep s (i :: rest) =
      runSchedule trackerStep ⟨s.calls.set i c', w'⟩ rest := by
  simp [trackerStep, hc, h]

/-- A step of call `i`: the step `callStep` gives it, written back to its place. -/
theorem trackerStep_eq_some {s' : State} (h : trackerStep i s = some s') :
    ∃ c c' w', s.calls[i]? = some c ∧ callStep c s.world = some (c', w') ∧
      s' = ⟨s.calls.set i c', w'⟩ := by
  simp only [trackerStep] at h
  split at h
  · cases h
  · rename_i c hc
    obtain ⟨⟨c', w'⟩, hCall, rfl⟩ := Option.map_eq_some'.1 h
    exact ⟨c, c', w', hc, hCall, rfl⟩

theorem getElem?_set_call (hc : s.calls[i]? = some c) (c' : Call) :
    (s.calls.set i c')[i]? = some c' :=
  List.getElem?_set_self (List.getElem?_eq_some_iff.1 hc).1

/-- Lines 32-57 of call `i`: it passes validation, spawns its redirections, takes its free
mutex and saves the environment. -/
theorem runSchedule_save {jobid : String} {t : JobTemplate} {ok : Bool} {mutex : Nat}
    (hc : s.calls[i]? = some (startProcess jobid t ok mutex))
    (hValid : validateJobTemplate t = true) (hFree : mutex ∉ s.world.locked) (rest : List Nat) :
    runSchedule trackerStep s (i :: i :: i :: i :: rest) = runSchedule trackerStep
      ⟨s.calls.set i
          { startProcess jobid t ok mutex with
            pc := .overlay (pairs t.jobEnvironment), saved := currentEnv s.world.env },
        { s.world with
          locked := mutex :: s.world.locked, redirects := s.world.redirects ++ redirections t }⟩
      rest := by
  have hLt := (List.getElem?_eq_some_iff.1 hc).1
  simp [trackerStep, callStep, hc, startProcess, hValid, hFree, List.getElem?_set_self hLt]

/-- Lines 59-63 of call `i`: one `Setenv` a step, then on to `cmd.Start()`. -/
theorem runSchedule_overlay {rest : List (String × String)} (hc : s.calls[i]? = some c)
    (hpc : c.pc = .overlay rest) (more : List Nat) :
    runSchedule trackerStep s (List.replicate (rest.length + 1) i ++ more) =
      runSchedule trackerStep ⟨s.calls.set i { c with pc := .start },
        { s.world with env := overlay s.world.env rest }⟩ more := by
  induction rest generalizing s c with
  | nil => exact runSchedule_call hc (by simp [callStep, hpc, overlay]) more
  | cons v rest ih =>
      have hStep : callStep c s.world = some ({ c with pc := .overlay rest },
          { s.world with env := s.world.env.setenv v.1 v.2 }) := by
        simp [callStep, hpc]
      rw [List.length_cons, List.replicate_succ, List.cons_append, runSchedule_call hc hStep,
        ih (getElem?_set_call hc _) rfl, List.set_set]
      rfl

/-- Whatever the environment and whatever two templates that pass validation, two concurrent
calls reach a state where both are inside the window, and the child of the second inherits the
first call's overlay under its own. -/
theorem startProcess_windows_overlap (E : Env) (j1 j2 : String) (t1 t2 : JobTemplate)
    (ok1 : Bool) (h1 : validateJobTemplate t1 = true) (h2 : validateJobTemplate t2 = true) :
    ∃ s, Reachable trackerStep (concurrentStart E [(j1, t1, ok1), (j2, t2, true)]) s ∧
      s.calls.map (fun c => c.pc.inWindow) = [true, true] ∧
      ∃ child ∈ s.world.children, child.jobid = j2 ∧
        child.env = overlay (overlay E (pairs t1.jobEnvironment)) (pairs t2.jobEnvironment) := by
  have hRun : runSchedule trackerStep (concurrentStart E [(j1, t1, ok1), (j2, t2, true)])
      (0 :: 0 :: 0 :: 0 :: (List.replicate ((pairs t1.jobEnvironment).length + 1) 0 ++
        1 :: 1 :: 1 :: 1 :: (List.replicate ((pairs t2.jobEnvironment).length + 1) 1 ++ [1]))) =
      some ⟨[{ startProcess j1 t1 ok1 0 with pc := .start, saved := currentEnv E },
          { startProcess j2 t2 true 1 with
            pc := .restore 1, saved := currentEnv (overlay E (pairs t1.jobEnvironment)) }],
        ⟨overlay (overlay E (pairs t1.jobEnvironment)) (pairs t2.jobEnvironment), [1, 0],
          [⟨1, j2, t2.remoteCommand, t2.args,
            overlay (overlay E (pairs t1.jobEnvironment)) (pairs t2.jobEnvironment)⟩],
          redirections t1 ++ redirections t2, 2⟩⟩ := by
    rw [runSchedule_save rfl h1 (List.not_mem_nil 0),
      runSchedule_overlay (List.getElem?_set_self (by simp [concurrentStart])) rfl,
      @runSchedule_save _ 1 j2 t2 true 1 (by simp [concurrentStart]) h2 (by simp [concurrentStart]),
      runSchedule_overlay (List.getElem?_set_self (by simp [concurrentStart])) rfl]
    simp [concurrentStart, trackerStep, callStep, startProcess, spawnChild]
  exact ⟨_, ⟨_, hRun⟩, rfl, _, List.mem_singleton_self _, rfl, rfl⟩

/-- From an empty environment, one call with the overlay `A=1` and one with `B=2`: the child of
the second call inherits `A=1`, which the empty environment overlaid with `B=2` does not hold. -/
theorem startProcess_windows_overlap_inherits_a :
    (validateJobTemplate ⟨"sleep", [], "", "", "", (∅ : StringMap).insert "A" "1"⟩ = true ∧
      validateJobTemplate ⟨"sleep", [], "", "", "", (∅ : StringMap).insert "B" "2"⟩ = true) ∧
    (overlay (overlay ∅ (pairs ((∅ : StringMap).insert "A" "1")))
        (pairs ((∅ : StringMap).insert "B" "2"))).lookupEnv "A" = some "1" ∧
      (overlay ∅ (pairs ((∅ : StringMap).insert "B" "2"))).lookupEnv "A" = none ∧
    ∃ s, Reachable trackerStep (concurrentStart ∅
        [("1", ⟨"sleep", [], "", "", "", (∅ : StringMap).insert "A" "1"⟩, true),
         ("2", ⟨"sleep", [], "", "", "", (∅ : StringMap).insert "B" "2"⟩, true)]) s ∧
      s.calls.map (fun c => c.pc.inWindow) = [true, true] ∧
      ∃ child ∈ s.world.children, child.jobid = "2" ∧
        child.env = overlay (overlay ∅ (pairs ((∅ : StringMap).insert "A" "1")))
          (pairs ((∅ : StringMap).insert "B" "2")) :=
  ⟨⟨by decide, by decide⟩, by decide, by decide,
    startProcess_windows_overlap ∅ "1" "2" ⟨"sleep", [], "", "", "", (∅ : StringMap).insert "A" "1"⟩
      ⟨"sleep", [], "", "", "", (∅ : StringMap).insert "B" "2"⟩ true (by decide) (by decide)⟩

/-- What one step of a call does to the mutexes: it takes its own free mutex, or lets it go, or
leaves the mutexes and whether it holds one as they were. The mutex it names never changes. -/
theorem callStep_mutex {c c' : Call} {w w' : World} (h : callStep c w = some (c', w')) :
    c'.mutex = c.mutex ∧
      ((c.pc = .lock ∧ c.mutex ∉ w.locked ∧ w'.locked = c.mutex :: w.locked ∧
          c'.pc.holdsMutex = true) ∨
        (c.pc.holdsMutex = true ∧ c'.pc.holdsMutex = false ∧
          w'.locked = w.locked.erase c.mutex) ∨
        (c'.pc.holdsMutex = c.pc.holdsMutex ∧ w'.locked = w.locked)) := by
  obtain ⟨jobid, t, ok, mutex, pc, saved⟩ := c
  cases pc with
  | overlay rest =>
      cases rest <;> simp only [callStep, Option.some.injEq, Prod.mk.injEq] at h <;>
        obtain ⟨rfl, rfl⟩ := h <;> simp [Pc.holdsMutex]
  | returned r => simp [callStep] at h
  | _ =>
      simp only [callStep] at h
      (try split_ifs at h) <;> simp only [Option.some.injEq, Prod.mk.injEq] at h <;>
        obtain ⟨rfl, rfl⟩ := h <;> simp_all [Pc.holdsMutex]

/-- The mutexes of calls started together: call `i` names mutex `i`, a held mutex is held
once, and it belongs to a call between its `Lock` and its `Unlock`. -/
structure OwnMutexes (s : State) : Prop where
  mutex_eq : ∀ (i : Nat) (c : Call), s.calls[i]? = some c → c.mutex = i
  nodup : s.world.locked.Nodup
  holder : ∀ m ∈ s.world.locked, ∃ c, s.calls[m]? = some c ∧ c.pc.holdsMutex = true

theorem ownMutexes_concurrentStart (E : Env) (jobs : List (String × JobTemplate × Bool)) :
    OwnMutexes (concurrentStart E jobs) := by
  refine ⟨fun i c h => ?_, List.nodup_nil, fun _ h => absurd h (List.not_mem_nil _)⟩
  simp only [concurrentStart, List.getElem?_mapIdx, Option.map_eq_some'] at h
  obtain ⟨_, -, rfl⟩ := h
  rfl

/-- One step of a call keeps `OwnMutexes`. -/
theorem OwnMutexes.step (h : OwnMutexes s) (hc : s.calls[i]? = some c) {c' : Call} {w' : World}
    (hStep : callStep c s.world = some (c', w')) : OwnMutexes ⟨s.calls.set i c', w'⟩ := by
  obtain ⟨hMutex, hCases⟩ := callStep_mutex hStep
  have hi : c.mutex = i := h.mutex_eq i c hc
  have hSelf := getElem?_set_call hc c'
  have hOther : ∀ j, j ≠ i → (s.calls.set i c')[j]? = s.calls[j]? := fun j hj => by
    rw [List.getElem?_set, if_neg (Ne.symm hj)]
  refine ⟨fun j d hj => ?_, ?_, fun m hm => ?_⟩
  · by_cases hji : j = i
    · subst hji
      rw [hSelf] at hj
      cases hj
      rw [hMutex, hi]
    · exact h.mutex_eq j d (hOther j hji ▸ hj)
  · rcases hCases with ⟨-, hFree, hLocked, -⟩ | ⟨-, -, hLocked⟩ | ⟨-, hLocked⟩ <;> rw [hLocked]
    · exact List.nodup_cons.2 ⟨hFree, h.nodup⟩
    · exact h.nodup.erase _
    · exact h.nodup
  · by_cases hmi : m = i
    · subst hmi
      rcases hCases with ⟨-, -, -, hHolds⟩ | ⟨-, -, hLocked⟩ | ⟨hSame, hLocked⟩
      · exact ⟨c', hSelf, hHolds⟩
      · rw [hLocked, hi] at hm
        exact absurd hm (h.nodup.not_mem_erase)
      · rw [hLocked] at hm
        obtain ⟨d, hd, hHolds⟩ := h.holder m hm
        rw [hc] at hd
        cases hd
        exact ⟨c', hSelf, hSame ▸ hHolds⟩
    · have hm' : m ∈ s.world.locked := by
        rcases hCases with ⟨-, -, hLocked, -⟩ | ⟨-, -, hLocked⟩ | ⟨-, hLocked⟩ <;>
          rw [hLocked] at hm
        · exact (List.mem_cons.1 hm).resolve_left (hi ▸ hmi)
        · exact List.mem_of_mem_erase hm
        · exact hm
      obtain ⟨d, hd, hHolds⟩ := h.holder m hm'
      exact ⟨d, (hOther m hmi).trans hd, hHolds⟩

theorem OwnMutexes.of_reachable {E : Env} {jobs : List (String × JobTemplate × Bool)}
    (h : Reachable trackerStep (concurrentStart E jobs) s) : OwnMutexes s := by
  refine Reachable.induction (ownMutexes_concurrentStart E jobs) (fun i s s' hs hStep => ?_) h
  simp only [trackerStep] at hStep
  split at hStep
  · cases hStep
  · rename_i c hc
    obtain ⟨⟨c', w'⟩, hCall, rfl⟩ := Option.map_eq_some'.1 hStep
    exact hs.step hc hCall

/-- In every interleaving of calls started together, the mutex of a call at `mtx.Lock()` is
free: each call locks a mutex of its own, which only it ever holds. -/
theorem mutex_free_of_lock {E : Env} {jobs : List (String × JobTemplate × Bool)}
    (h : Reachable trackerStep (concurrentStart E jobs) s) (hc : s.calls[i]? = some c)
    (hLock : c.pc = .lock) : c.mutex ∉ s.world.locked := fun hm => by
  have hInv := OwnMutexes.of_reachable h
  obtain ⟨d, hd, hHolds⟩ := hInv.holder _ hm
  rw [hInv.mutex_eq i c hc, hc] at hd
  cases hd
  rw [hLock] at hHolds
  cases hHolds

/-- In every interleaving of calls started together, a call at `mtx.Lock()` takes its mutex at
once: each call locks a mutex of its own, so the lock excludes no other call. -/
theorem lock_never_blocks {E : Env} {jobs : List (String × JobTemplate × Bool)}
    (h : Reachable trackerStep (concurrentStart E jobs) s) (hc : s.calls[i]? = some c)
    (hLock : c.pc = .lock) : ∃ s', trackerStep i s = some s' := by
  simp [trackerStep, hc, callStep, hLock, mutex_free_of_lock h hc hLock]

/-- Two jobs: after call 0 has taken its mutex, call 1 at `mtx.Lock()` takes its own. -/
theorem lock_never_blocks_second_call :
    ∃ s c, Reachable trackerStep (concurrentStart ∅
        [("1", ⟨"true", [], "", "", "", ∅⟩, true), ("2", ⟨"true", [], "", "", "", ∅⟩, true)]) s ∧
      s.world.locked = [0] ∧ s.calls[1]? = some c ∧ c.pc = .lock ∧
      ∃ s', trackerStep 1 s = some s' := by
  obtain ⟨s, hs⟩ := Option.isSome_iff_exists.1 (show (runSchedule trackerStep (concurrentStart ∅
    [("1", ⟨"true", [], "", "", "", ∅⟩, true), ("2", ⟨"true", [], "", "", "", ∅⟩, true)])
    [0, 0, 0, 1, 1]).isSome = true by decide)
  have hView : (s.calls.map Call.pc, s.world.locked) = ([.save, .lock], [0]) := by
    have := congrArg (Option.map fun s => (s.calls.map Call.pc, s.world.locked)) hs
    exact Option.some.inj (this.symm.trans (by decide))
  simp only [Prod.mk.injEq] at hView
  obtain ⟨c, hc, hLock⟩ : ∃ c, s.calls[1]? = some c ∧ c.pc = .lock := by
    rcases hCalls : s.calls with _ | ⟨c0, _ | ⟨c1, _ | _⟩⟩ <;> simp [hCalls] at hView
    exact ⟨c1, rfl, hView.1.2⟩
  exact ⟨s, c, ⟨_, hs⟩, hView.2, hc, hLock, lock_never_blocks ⟨_, hs⟩ hc hLock⟩

end Ubercluster.Tracker
