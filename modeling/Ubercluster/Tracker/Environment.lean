import Ubercluster.Tracker.Interleaving

/-! The process environment under calls of `StartProcess` started together. `restoreEnv` never
restores anything, because the keys `currentEnv` saves are whole `key=value` entries. So in every
interleaving the environment is the starting one with entries of the jobs' templates set over
it, and a variable that a call's overlay loop has set holds a value of the templates from then
on: the call's `restoreEnv` does not bring back the value the variable had before. -/
namespace Ubercluster.Tracker

open Go

/-- The call has run the overlay loop of lines 59-61 to its end: it is at `cmd.Start()` or
after it. A call whose template fails validation never gets there. -/
def Pc.pastOverlay : Pc → Bool
  | .start | .restore _ | .unlock _ => true
  | .returned (.error .invalidTemplate) => false
  | .returned _ => true
  | _ => false

theorem overlay_cons (e : Env) (w : String × String) (writes : List (String × String)) :
    overlay e (w :: writes) = overlay (e.setenv w.1 w.2) writes := rfl

theorem overlay_append_singleton (e : Env) (writes : List (String × String)) (w : String × String) :
    overlay e (writes ++ [w]) = (overlay e writes).setenv w.1 w.2 := by
  simp [overlay]

/-- Entries none of which is a valid `Setenv` of `key` leave its value as it was. -/
theorem lookupEnv_overlay_of_invalid {e : Env} {writes : List (String × String)} {key : String}
    (h : ∀ v, (key, v) ∈ writes → ¬Env.SetenvValid key v) :
    (overlay e writes).lookupEnv key = e.lookupEnv key := by
  induction writes generalizing e with
  | nil => rfl
  | cons w writes ih =>
      rw [overlay_cons, ih fun v hv => h v (List.mem_cons_of_mem _ hv)]
      by_cases hKey : key = w.1
      · subst hKey
        rw [Env.setenv, dif_neg (h w.2 (List.mem_cons_self _ _))]
      · exact Env.lookupEnv_setenv_ne _ _ hKey

/-- Once the entries set over `e` hold a valid `Setenv` of `key`, the value of `key` is that of
one of them, the last valid one: what `e` held for `key` is gone. -/
theorem lookupEnv_overlay_of_mem {e : Env} {writes : List (String × String)} {key value : String}
    (hMem : (key, value) ∈ writes) (hValid : Env.SetenvValid key value) :
    ∃ v, (key, v) ∈ writes ∧ (overlay e writes).lookupEnv key = some v := by
  induction writes generalizing e value with
  | nil => cases hMem
  | cons w writes ih =>
      rw [overlay_cons]
      by_cases hLater : ∃ v, (key, v) ∈ writes ∧ Env.SetenvValid key v
      · obtain ⟨v, hv, hValid'⟩ := hLater
        obtain ⟨v', hv', hLookup⟩ := ih hv hValid'
        exact ⟨v', List.mem_cons_of_mem _ hv', hLookup⟩
      · have hInvalid : ∀ v, (key, v) ∈ writes → ¬Env.SetenvValid key v :=
          fun v hv hV => hLater ⟨v, hv, hV⟩
        have hw : w = (key, value) := by
          rcases List.mem_cons.1 hMem with h | h
          · exact h.symm
          · exact absurd hValid (hInvalid value h)
        subst hw
        exact ⟨value, List.mem_cons_self _ _, by
          rw [lookupEnv_overlay_of_invalid hInvalid, Env.lookupEnv_setenv_self hValid]⟩

variable {E : Env} {jobs : List (String × JobTemplate × Bool)}

/-- What a call keeps of the environment, `writes` being the entries set so far: its template is
one of the jobs', every key it saved holds `=`, and the entries of its template that its overlay
loop has passed are among `writes`, all of them once the loop is over. -/
structure CallEnv (jobs : List (String × JobTemplate × Bool)) (writes : List (String × String))
    (c : Call) : Prop where
  template_mem : ∃ j ∈ jobs, c.template = j.2.1
  saved_sep : ∀ k ∈ c.saved, '=' ∈ k.toList
  overlay_written : ∀ rest, c.pc = .overlay rest →
    ∃ pre, pairs c.template.jobEnvironment = pre ++ rest ∧ ∀ w ∈ pre, w ∈ writes
  past_written : c.pc.pastOverlay = true → ∀ w ∈ pairs c.template.jobEnvironment, w ∈ writes

/-- The environment invariant of calls started together: the environment is `E` with the entries
`writes` of the jobs' templates set over it, and every call keeps `CallEnv` for them. -/
structure EnvOverlaid (E : Env) (jobs : List (String × JobTemplate × Bool))
    (writes : List (String × String)) (s : State) : Prop where
  from_jobs : ∀ w ∈ writes, ∃ j ∈ jobs, w ∈ pairs j.2.1.jobEnvironment
  env : s.world.env = overlay E writes
  calls : ∀ c ∈ s.calls, CallEnv jobs writes c

/-- Entries set later keep what a call keeps. -/
theorem CallEnv.mono {writes : List (String × String)} {c : Call} (hc : CallEnv jobs writes c)
    (extra : List (String × String)) : CallEnv jobs (writes ++ extra) c := by
  refine ⟨hc.template_mem, hc.saved_sep, fun rest h => ?_,
    fun h w hw => List.mem_append_left _ (hc.past_written h w hw)⟩
  obtain ⟨pre, hPre, hIn⟩ := hc.overlay_written rest h
  exact ⟨pre, hPre, fun w hw => List.mem_append_left _ (hIn w hw)⟩

/-- A call that moves to a place outside the overlay loop keeps what it keeps, once every entry
of its template is set whenever the new place is past the loop. -/
theorem CallEnv.of_pc {writes : List (String × String)} {c : Call} (hc : CallEnv jobs writes c)
    {pc : Pc} (hpc : ∀ rest, pc ≠ .overlay rest)
    (hPast : pc.pastOverlay = true → ∀ w ∈ pairs c.template.jobEnvironment, w ∈ writes) :
    CallEnv jobs writes { c with pc := pc } :=
  ⟨hc.template_mem, hc.saved_sep, fun rest h => absurd h (hpc rest), hPast⟩

/-- One step of a call sets at most one entry, of its own template, and keeps `CallEnv`: the
overlay loop sets the next entry of the template, a call leaves the loop only once it has set
them all, and `restoreEnv` changes nothing. -/
theorem callStep_env {writes : List (String × String)} {c c' : Call} {w w' : World}
    (hc : CallEnv jobs writes c) (hEnv : w.env = overlay E writes)
    (h : callStep c w = some (c', w')) :
    ∃ extra, (∀ x ∈ extra, x ∈ pairs c.template.jobEnvironment) ∧
      w'.env = overlay E (writes ++ extra) ∧ CallEnv jobs (writes ++ extra) c' := by
  obtain ⟨jobid, t, ok, mutex, pc, saved⟩ := c
  have hKeep : ∀ pc', (∀ rest, pc' ≠ .overlay rest) →
      (pc'.pastOverlay = true → ∀ v ∈ pairs t.jobEnvironment, v ∈ writes) →
      ∃ extra, (∀ x ∈ extra, x ∈ pairs t.jobEnvironment) ∧ w.env = overlay E (writes ++ extra) ∧
        CallEnv jobs (writes ++ extra) ⟨jobid, t, ok, mutex, pc', saved⟩ := fun _ hpc hPast =>
    ⟨[], fun _ h => absurd h (List.not_mem_nil _), by rw [List.append_nil, hEnv],
      (List.append_nil writes).symm ▸ hc.of_pc hpc hPast⟩
  cases pc with
  | validate =>
      simp only [callStep] at h
      split_ifs at h <;> cases h <;> exact hKeep _ (by simp) (by simp [Pc.pastOverlay])
  | redirect => cases h; exact hKeep _ (by simp) (by simp [Pc.pastOverlay])
  | lock =>
      simp only [callStep] at h
      split_ifs at h
      cases h
      exact hKeep _ (by simp) (by simp [Pc.pastOverlay])
  | save =>
      cases h
      refine ⟨[], fun _ h => absurd h (List.not_mem_nil _), by rw [List.append_nil, hEnv], ?_⟩
      rw [List.append_nil]
      exact ⟨hc.template_mem, fun _ => sep_mem_of_mem_currentEnv,
        fun rest hRest => by cases hRest; exact ⟨[], rfl, by simp⟩, by simp [Pc.pastOverlay]⟩
  | overlay rest =>
      obtain ⟨pre, hPre, hIn⟩ := hc.overlay_written rest rfl
      cases rest with
      | nil =>
          cases h
          refine hKeep _ (by simp) fun _ v hv => hIn v ?_
          rwa [hPre, List.append_nil] at hv
      | cons v rest =>
          cases h
          refine ⟨[v], fun x hx => ?_, by rw [overlay_append_singleton, ← hEnv], ?_⟩
          · rw [List.mem_singleton.1 hx, hPre]
            exact List.mem_append_right _ (List.mem_cons_self _ _)
          · refine ⟨hc.template_mem, hc.saved_sep, fun rest' hRest => ?_, by simp [Pc.pastOverlay]⟩
            cases hRest
            refine ⟨pre ++ [v], by simpa using hPre, fun x hx => ?_⟩
            rw [List.mem_append] at hx ⊢
            exact hx.imp_left (hIn x)
  | start =>
      simp only [callStep] at h
      split_ifs at h <;> cases h <;> exact hKeep _ (by simp) fun _ => hc.past_written rfl
  | restore pid =>
      cases h
      refine ⟨[], fun _ h => absurd h (List.not_mem_nil _), ?_, ?_⟩
      · rw [List.append_nil, ← hEnv]
        exact restoreEnv_of_sep hc.saved_sep w.env
      · rw [List.append_nil]
        exact hc.of_pc (by simp) fun _ => hc.past_written rfl
  | unlock result => cases h; exact hKeep _ (by simp) fun _ => hc.past_written rfl
  | returned result => cases h

theorem envOverlaid_concurrentStart (E : Env) (jobs : List (String × JobTemplate × Bool)) :
    EnvOverlaid E jobs [] (concurrentStart E jobs) := by
  refine ⟨fun _ h => absurd h (List.not_mem_nil _), rfl, fun c hc => ?_⟩
  obtain ⟨i, hi⟩ := List.mem_iff_getElem?.1 hc
  simp only [concurrentStart, List.getElem?_mapIdx, Option.map_eq_some'] at hi
  obtain ⟨j, hj, rfl⟩ := hi
  refine ⟨⟨j, List.mem_iff_getElem?.2 ⟨i, hj⟩, rfl⟩, fun _ h => absurd h (AList.not_mem_empty _),
    fun _ h => ?_, fun h => ?_⟩ <;> cases h

/-- One step of any call keeps `EnvOverlaid`, for the entries set so far and the one it sets. -/
theorem EnvOverlaid.step {writes : List (String × String)} {s s' : State} {i : Nat}
    (h : EnvOverlaid E jobs writes s) (hStep : trackerStep i s = some s') :
    ∃ writes', EnvOverlaid E jobs writes' s' := by
  obtain ⟨c, c', w', hc, hCall, rfl⟩ := trackerStep_eq_some hStep
  have hcEnv := h.calls c (List.mem_iff_getElem?.2 ⟨i, hc⟩)
  obtain ⟨extra, hExtra, hEnv, hCallEnv⟩ := callStep_env hcEnv h.env hCall
  refine ⟨writes ++ extra, fun x hx => ?_, hEnv, fun d hd => ?_⟩
  · rcases List.mem_append.1 hx with hx | hx
    · exact h.from_jobs x hx
    · obtain ⟨j, hj, hTemplate⟩ := hcEnv.template_mem
      exact ⟨j, hj, hTemplate ▸ hExtra x hx⟩
  · rcases List.mem_or_eq_of_mem_set hd with hd | rfl
    · exact (h.calls d hd).mono extra
    · exact hCallEnv

theorem EnvOverlaid.of_reachable {s : State} (h : Reachable trackerStep (concurrentStart E jobs) s) :
    ∃ writes, EnvOverlaid E jobs writes s := by
  refine @Reachable.induction _ _ _ (fun s => ∃ writes, EnvOverlaid E jobs writes s) _ _
    ⟨[], envOverlaid_concurrentStart E jobs⟩ (fun _ _ _ hs hStep => ?_) h
  obtain ⟨_, hs⟩ := hs
  exact hs.step hStep

/-- In every interleaving of calls started together, a variable that a call's overlay loop has
set to a valid value holds from then on a value that the jobs' templates give it: no call's
`restoreEnv` brings back the value of the starting environment. -/
theorem concurrentStart_overlay_persists (E : Env) (jobs : List (String × JobTemplate × Bool))
    (s : State) (h : Reachable trackerStep (concurrentStart E jobs) s) (c : Call)
    (hc : c ∈ s.calls) (hPast : c.pc.pastOverlay = true) (key value : String)
    (hEntry : (key, value) ∈ pairs c.template.jobEnvironment)
    (hValid : Env.SetenvValid key value) :
    ∃ j ∈ jobs, ∃ v, (key, v) ∈ pairs j.2.1.jobEnvironment ∧ s.world.env.lookupEnv key = some v := by
  obtain ⟨writes, hInv⟩ := EnvOverlaid.of_reachable h
  obtain ⟨v, hv, hLookup⟩ :=
    lookupEnv_overlay_of_mem ((hInv.calls c hc).past_written hPast _ hEntry) hValid
  obtain ⟨j, hj, hjv⟩ := hInv.from_jobs _ hv
  exact ⟨j, hj, v, hjv, by rw [hInv.env]; exact hLookup⟩

/-- One job that sets `A=1`, started where `A` is `0`, run to its return: `A` holds the `1` of
the template, not the `0` the call saved. -/
theorem concurrentStart_overlay_persists_one_job :
    ((∅ : Env).setenv "A" "0").lookupEnv "A" = some "0" ∧
      ∃ s, Reachable trackerStep (concurrentStart ((∅ : Env).setenv "A" "0")
          [("1", ⟨"true", [], "", "", "", (∅ : StringMap).insert "A" "1"⟩, true)]) s ∧
        s.calls.map Call.pc = [.returned (.ok 1)] ∧
        ∃ j ∈ [("1", (⟨"true", [], "", "", "", (∅ : StringMap).insert "A" "1"⟩ : JobTemplate),
            true)], ∃ v, ("A", v) ∈ pairs j.2.1.jobEnvironment ∧
          s.world.env.lookupEnv "A" = some v := by
  obtain ⟨s, hs⟩ := Option.isSome_iff_exists.1 (show (runSchedule trackerStep
    (concurrentStart ((∅ : Env).setenv "A" "0")
      [("1", ⟨"true", [], "", "", "", (∅ : StringMap).insert "A" "1"⟩, true)])
    (List.replicate 9 0)).isSome = true by decide)
  have hCalls : s.calls.map (fun c => (c.pc, pairs c.template.jobEnvironment)) =
      [(.returned (.ok 1), [("A", "1")])] := by
    have := congrArg
      (Option.map fun s => s.calls.map fun c => (c.pc, pairs c.template.jobEnvironment)) hs
    exact Option.some.inj (this.symm.trans (by decide))
  obtain ⟨c, hc, hPc, hPairs⟩ : ∃ c, s.calls = [c] ∧ c.pc = .returned (.ok 1) ∧
      pairs c.template.jobEnvironment = [("A", "1")] := by
    rcases hs' : s.calls with _ | ⟨c, _ | _⟩ <;> simp [hs'] at hCalls
    exact ⟨c, rfl, hCalls⟩
  refine ⟨by decide, s, ⟨_, hs⟩, by simp [hc, hPc], ?_⟩
  exact concurrentStart_overlay_persists _ _ s ⟨_, hs⟩ c (by simp [hc]) (by rw [hPc]; rfl)
    "A" "1" (by simp [hPairs]) (by decide)

end Ubercluster.Tracker
