import Ubercluster.Tracker.Interleaving

/-! Calls of `StartProcess` started together all return. In every interleaving a call takes at
most the steps it takes alone, `(pairs t.jobEnvironment).length + 8`, and an interleaving that
cannot go on has every call returned and every mutex unlocked: a call waits only at
`mtx.Lock()`, where its own mutex is free. -/
namespace Ubercluster.Tracker

open Go

/-- The steps the call has left: those `runAlone` takes from where it is. -/
def Call.stepsLeft (c : Call) : Nat :=
  match c.pc with
  | .validate => (pairs c.template.jobEnvironment).length + 8
  | .redirect => (pairs c.template.jobEnvironment).length + 7
  | .lock => (pairs c.template.jobEnvironment).length + 6
  | .save => (pairs c.template.jobEnvironment).length + 5
  | .overlay rest => rest.length + 4
  | .start => 3
  | .restore _ => 2
  | .unlock _ => 1
  | .returned _ => 0

/-- Every step of a call spends at least one of its steps left. -/
theorem stepsLeft_lt_of_callStep {c c' : Call} {w w' : World} (h : callStep c w = some (c', w')) :
    c'.stepsLeft < c.stepsLeft := by
  obtain ⟨jobid, t, ok, mutex, pc, saved⟩ := c
  cases pc with
  | overlay rest =>
      cases rest <;> simp only [callStep, Option.some.injEq, Prod.mk.injEq] at h <;>
        obtain ⟨rfl, rfl⟩ := h <;> simp [Call.stepsLeft]
  | returned r => simp [callStep] at h
  | _ =>
      simp only [callStep] at h
      (try split_ifs at h) <;> simp only [Option.some.injEq, Prod.mk.injEq] at h <;>
        obtain ⟨rfl, rfl⟩ := h <;> simp [Call.stepsLeft]

/-- A call cannot move only once it has returned, or at `mtx.Lock()` on a held mutex. -/
theorem callStep_eq_none {c : Call} {w : World} (h : callStep c w = none) :
    (∃ result, c.pc = .returned result) ∨ (c.pc = .lock ∧ c.mutex ∈ w.locked) := by
  obtain ⟨jobid, t, ok, mutex, pc, saved⟩ := c
  cases pc with
  | overlay rest => cases rest <;> simp [callStep] at h
  | lock =>
      simp only [callStep] at h
      split_ifs at h with hm
      exact .inr ⟨rfl, hm⟩
  | returned r => exact .inl ⟨r, rfl⟩
  | _ => simp only [callStep] at h; (try split_ifs at h) <;> cases h

/-- A schedule names only calls that exist. -/
theorem lt_length_of_runSchedule {s s' : State} {acts : List Nat}
    (h : runSchedule trackerStep s acts = some s') : ∀ a ∈ acts, a < s.calls.length := by
  induction acts generalizing s with
  | nil => simp
  | cons a acts ih =>
      simp only [runSchedule_cons] at h
      cases hStep : trackerStep a s with
      | none => rw [hStep] at h; cases h
      | some next =>
          rw [hStep] at h
          obtain ⟨c, c', w', hc, -, rfl⟩ := trackerStep_eq_some hStep
          intro b hb
          rcases List.mem_cons.1 hb with rfl | hb
          · exact (List.getElem?_eq_some_iff.1 hc).1
          · simpa using ih h b hb

/-- Along a run, call `i` moves once for each time the schedule names it, and each of its
steps spends one of its steps left; the other calls' steps leave it where it is. -/
theorem count_add_stepsLeft_le {s s' : State} {acts : List Nat}
    (h : runSchedule trackerStep s acts = some s') {i : Nat} {c : Call}
    (hc : s.calls[i]? = some c) :
    ∃ c', s'.calls[i]? = some c' ∧ acts.count i + c'.stepsLeft ≤ c.stepsLeft := by
  induction acts generalizing s c with
  | nil => cases h; exact ⟨c, hc, by simp⟩
  | cons a acts ih =>
      simp only [runSchedule_cons] at h
      cases hStep : trackerStep a s with
      | none => rw [hStep] at h; cases h
      | some next =>
          rw [hStep] at h
          obtain ⟨d, d', w', hd, hCall, rfl⟩ := trackerStep_eq_some hStep
          by_cases hai : a = i
          · subst hai
            rw [hc] at hd
            cases hd
            obtain ⟨c', hc', hLe⟩ := ih h (getElem?_set_call hc d')
            have := stepsLeft_lt_of_callStep hCall
            exact ⟨c', hc', by rw [List.count_cons_self]; omega⟩
          · obtain ⟨c', hc', hLe⟩ := ih h (by rwa [List.getElem?_set, if_neg hai])
            exact ⟨c', hc', by rwa [List.count_cons_of_ne (Ne.symm hai)]⟩

/-- Every interleaving of calls started together is finite: its schedule names only the calls,
and each call at most as many times as the steps it takes alone. -/
theorem concurrentStart_steps_le (E : Env) (jobs : List (String × JobTemplate × Bool))
    (acts : List Nat) (s : State)
    (h : runSchedule trackerStep (concurrentStart E jobs) acts = some s) :
    (∀ a ∈ acts, a < jobs.length) ∧
      ∀ i j, jobs[i]? = some j → acts.count i ≤ (pairs j.2.1.jobEnvironment).length + 8 := by
  refine ⟨fun a ha => by simpa [concurrentStart] using lt_length_of_runSchedule h a ha,
    fun i j hj => ?_⟩
  have hc : (concurrentStart E jobs).calls[i]? = some (startProcess j.1 j.2.1 j.2.2 i) := by
    simp [concurrentStart, List.getElem?_mapIdx, hj]
  obtain ⟨c', -, hLe⟩ := count_add_stepsLeft_le h hc
  simp only [Call.stepsLeft, startProcess] at hLe
  omega

/-- One job with no variables: the schedule that names its call eight times runs, and so takes
the most steps the bound allows. -/
theorem concurrentStart_steps_le_one_job :
    (runSchedule trackerStep (concurrentStart ∅ [("1", ⟨"true", [], "", "", "", ∅⟩, true)])
      (List.replicate 8 0)).isSome = true ∧
    (List.replicate 8 0).count 0 = (pairs (∅ : StringMap)).length + 8 := by
  have hSome : (runSchedule trackerStep
      (concurrentStart ∅ [("1", ⟨"true", [], "", "", "", ∅⟩, true)]) (List.replicate 8 0)).isSome =
        true := by decide
  obtain ⟨s, hs⟩ := Option.isSome_iff_exists.1 hSome
  exact ⟨hSome, ((concurrentStart_steps_le ∅ _ _ s hs).2 0 _ rfl).antisymm (by decide)⟩

/-- An interleaving of calls started together that cannot go on has every call returned and
every mutex unlocked. -/
theorem concurrentStart_returned_of_stuck (E : Env) (jobs : List (String × JobTemplate × Bool))
    (s : State) (h : Reachable trackerStep (concurrentStart E jobs) s)
    (hStuck : ∀ i, trackerStep i s = none) :
    (∀ c ∈ s.calls, ∃ result, c.pc = .returned result) ∧ s.world.locked = [] := by
  have hReturned : ∀ c ∈ s.calls, ∃ result, c.pc = .returned result := fun c hc => by
    obtain ⟨i, hi⟩ := List.mem_iff_getElem?.1 hc
    have hNone := hStuck i
    simp only [trackerStep, hi, Option.map_eq_none'] at hNone
    rcases callStep_eq_none hNone with hRet | ⟨hLock, hm⟩
    · exact hRet
    · exact absurd hm (mutex_free_of_lock h hi hLock)
  refine ⟨hReturned, List.eq_nil_iff_forall_not_mem.2 fun m hm => ?_⟩
  obtain ⟨c, hc, hHolds⟩ := (OwnMutexes.of_reachable h).holder m hm
  obtain ⟨result, hRet⟩ := hReturned c (List.mem_iff_getElem?.2 ⟨m, hc⟩)
  rw [hRet] at hHolds
  cases hHolds

/-- One job with no variables, run to its return: nothing can move, the call has returned the
pid `1` of its child, and no mutex is held. -/
theorem concurrentStart_returned_of_stuck_one_job :
    ∃ s, Reachable trackerStep (concurrentStart ∅ [("1", ⟨"true", [], "", "", "", ∅⟩, true)]) s ∧
      (∀ i, trackerStep i s = none) ∧ s.calls.map Call.pc = [.returned (.ok 1)] ∧
      (∀ c ∈ s.calls, ∃ result, c.pc = .returned result) ∧ s.world.locked = [] := by
  obtain ⟨s, hs⟩ := Option.isSome_iff_exists.1 (show (runSchedule trackerStep
    (concurrentStart ∅ [("1", ⟨"true", [], "", "", "", ∅⟩, true)]) (List.replicate 8 0)).isSome =
      true by decide)
  have hCalls : s.calls.map Call.pc = [.returned (.ok 1)] := by
    have := congrArg (Option.map fun s => s.calls.map Call.pc) hs
    exact Option.some.inj (this.symm.trans (by decide))
  have hStuck : ∀ i, trackerStep i s = none := fun i => by
    obtain ⟨c, hc, hPc⟩ : ∃ c, s.calls = [c] ∧ c.pc = .returned (.ok 1) := by
      rcases hs' : s.calls with _ | ⟨c, _ | _⟩ <;> simp [hs'] at hCalls
      exact ⟨c, rfl, hCalls⟩
    cases i <;> simp [trackerStep, hc, callStep, hPc]
  exact ⟨s, ⟨_, hs⟩, hStuck, hCalls, concurrentStart_returned_of_stuck _ _ s ⟨_, hs⟩ hStuck⟩

end Ubercluster.Tracker
