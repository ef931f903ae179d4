import Ubercluster.Go.Environ
import Ubercluster.Go.Runtime

/-! `StartProcess` of the process tracker (simpletracker/os.go) as the steps of one call over
the state that all calls share: the process environment, the locked mutexes, the children
started and the redirection goroutines spawned. A call running alone is its steps in a row. -/
namespace Ubercluster.Tracker

open Go

/-- The fields of `drmaa2interface.JobTemplate` that `StartProcess` reads. -/
structure JobTemplate where
  remoteCommand : String
  args : List String
  inputPath : String
  outputPath : String
  errorPath : String
  jobEnvironment : StringMap
  deriving DecidableEq

/-- Modelled from the spec: `validateJobTemplate` is not in the source. The spec rejects a
template whose remote command is empty; that is the one reason it names concretely. -/
def validateJobTemplate (t : JobTemplate) : Bool :=
  t.remoteCommand ≠ ""

/-- The errors `StartProcess` returns. -/
inductive StartError where
  /-- The error of `validateJobTemplate` (line 35). -/
  | invalidTemplate
  /-- The error of `cmd.Start()` (line 65). -/
  | startFailed
  deriving DecidableEq, Repr

/-- A goroutine lines 38-52 leave copying between the child and a file. -/
inductive Redirection where
  | redirectIn (path : String)
  | redirectOut (path : String)
  deriving DecidableEq, Repr

/-- The redirection goroutines of a template, in the order lines 38-52 spawn them, one for each
path that is set. The model takes `StdinPipe`, `StdoutPipe` and `StderrPipe` to succeed: when
`os.Pipe` fails (say with `EMFILE`), lines 39, 44 and 49 skip that redirection, a case left out
here. -/
def redirections (t : JobTemplate) : List Redirection :=
  (if t.inputPath ≠ "" then [.redirectIn t.inputPath] else []) ++
  (if t.outputPath ≠ "" then [.redirectOut t.outputPath] else []) ++
  (if t.errorPath ≠ "" then [.redirectOut t.errorPath] else [])

/-- A process that `cmd.Start()` created, with the environment it inherited: the command has
no `Env` of its own, so the child gets `os.Environ()` at the time of the start. -/
structure Child where
  pid : Nat
  jobid : String
  command : String
  args : List String
  env : Env
  deriving DecidableEq

/-- What the calls share. `locked` lists the mutexes that are held. `nextPid` is the pid the
next `cmd.Start()` gives its child; that each start gets a new pid stands in for the operating
system's allocation, which may reuse the pid of a child that has been reaped. -/
structure World where
  env : Env
  locked : List Nat
  children : List Child
  redirects : List Redirection
  nextPid : Nat
  deriving DecidableEq

/-- Where a call of `StartProcess` is. -/
inductive Pc where
  /-- Lines 32-36: build the command, validate the template. -/
  | validate
  /-- Lines 38-52: the pipes and their goroutines. -/
  | redirect
  /-- Line 56: `mtx.Lock()`. -/
  | lock
  /-- Line 57: `env := currentEnv()`. -/
  | save
  /-- Lines 59-61: the overlay entries still to set. -/
  | overlay (rest : List (String × String))
  /-- Line 63: `cmd.Start()`. -/
  | start
  /-- Lines 69-71: the supervisor is spawned, then `restoreEnv(env)`. -/
  | restore (pid : Nat)
  /-- Line 64 or 72: `mtx.Unlock()`, then the return. -/
  | unlock (result : Except StartError Nat)
  | returned (result : Except StartError Nat)
  deriving DecidableEq

/-- One call. `startSucceeds` is the outcome of `cmd.Start()`, which the OS decides; `mutex`
names the `sync.Mutex` the call locks; `saved` is its local `env`. -/
structure Call where
  jobid : String
  template : JobTemplate
  startSucceeds : Bool
  mutex : Nat
  pc : Pc
  saved : StringMap
  deriving DecidableEq

/-- The entries of a map as pairs, in the order Go's `range` visits them here. -/
def pairs (m : StringMap) : List (String × String) :=
  m.entries.map fun v => (v.1, v.2)

/-- `currentEnv` (lines 14-20). The map is keyed by each whole `key=value` entry, and `Getenv`
of such a key is `""`. -/
def currentEnv (e : Env) : StringMap :=
  e.environ.foldl (fun m s => m.insert s (e.getenv s)) ∅

/-- `os.Setenv` for each entry in turn: lines 59-61, and the second loop of `restoreEnv`. -/
def overlay (e : Env) (entries : List (String × String)) : Env :=
  entries.foldl (fun e v => e.setenv v.1 v.2) e

/-- `restoreEnv` (lines 22-29): unset every entry `os.Environ` lists, then set every saved key.
Go ranges over the saved map in no fixed order; the order of its entries is taken here. -/
def restoreEnv (saved : StringMap) (e : Env) : Env :=
  overlay (e.environ.foldl Env.unsetenv e) (pairs saved)

/-- The call `StartProcess(jobid, t, finishedJobChannel)` before its first line. -/
def startProcess (jobid : String) (t : JobTemplate) (startSucceeds : Bool) (mutex : Nat) : Call :=
  ⟨jobid, t, startSucceeds, mutex, .validate, ∅⟩

/-- The child `cmd.Start()` creates for the call `c` in the world `w`. -/
def spawnChild (c : Call) (w : World) : Child :=
  ⟨w.nextPid, c.jobid, c.template.remoteCommand, c.template.args, w.env⟩

/-- One step of the call `c`: `none` when it cannot move, because its mutex is held or it has
returned. -/
def callStep (c : Call) (w : World) : Option (Call × World) :=
  match c.pc with
  | .validate =>
      if validateJobTemplate c.template then some ({ c with pc := .redirect }, w)
      else some ({ c with pc := .returned (.error .invalidTemplate) }, w)
  | .redirect =>
      some ({ c with pc := .lock }, { w with redirects := w.redirects ++ redirections c.template })
  | .lock =>
      if c.mutex ∈ w.locked then none
      else some ({ c with pc := .save }, { w with locked := c.mutex :: w.locked })
  | .save =>
      some ({ c with
        pc := .overlay (pairs c.template.jobEnvironment), saved := currentEnv w.env }, w)
  | .overlay [] => some ({ c with pc := .start }, w)
  | .overlay ((key, value) :: rest) =>
      some ({ c with pc := .overlay rest }, { w with env := w.env.setenv key value })
  | .start =>
      if c.startSucceeds then
        some ({ c with pc := .restore w.nextPid },
          { w with children := w.children ++ [spawnChild c w], nextPid := w.nextPid + 1 })
      else some ({ c with pc := .unlock (.error .startFailed) }, w)
  | .restore pid =>
      some ({ c with pc := .unlock (.ok pid) }, { w with env := restoreEnv c.saved w.env })
  | .unlock result =>
      some ({ c with pc := .returned result }, { w with locked := w.locked.erase c.mutex })
  | .returned _ => none

/-- The call `c` running alone for at most `fuel` steps. -/
def runAlone : Nat → Call → World → Call × World
  | 0, c, w => (c, w)
  | fuel + 1, c, w =>
      match callStep c w with
      | some (c', w') => runAlone fuel c' w'
      | none => (c, w)

theorem mem_foldl_insert {l : List String} {m : StringMap} {f : String → String} {k : String}
    (h : k ∈ l.foldl (fun m s => m.insert s (f s)) m) : k ∈ m ∨ k ∈ l := by
  induction l generalizing m with
  | nil => exact .inl h
  | cons s l ih =>
      rcases ih h with h | h
      · rcases (AList.mem_insert _).1 h with rfl | h
        · exact .inr (List.mem_cons_self _ _)
        · exact .inl h
      · exact .inr (List.mem_cons_of_mem _ h)

/-- Every key `currentEnv` saves is a whole `key=value` entry, so it holds `=`. -/
theorem sep_mem_of_mem_currentEnv {e : Env} {k : String} (h : k ∈ currentEnv e) :
    '=' ∈ k.toList :=
  (mem_foldl_insert h).elim (fun h => absurd h (AList.not_mem_empty _))
    Env.sep_mem_of_mem_environ

/-- Setting keys that all hold `=` changes nothing. -/
theorem overlay_of_sep {e : Env} {entries : List (String × String)}
    (h : ∀ v ∈ entries, '=' ∈ v.1.toList) : overlay e entries = e := by
  induction entries generalizing e with
  | nil => rfl
  | cons v rest ih =>
      simp only [overlay, List.foldl_cons] at ih ⊢
      rw [Env.setenv_of_sep _ _ (h v (List.mem_cons_self _ _))]
      exact ih fun v' hv' => h v' (List.mem_cons_of_mem _ hv')

theorem foldl_unsetenv_of_sep {e : Env} {l : List String} (h : ∀ s ∈ l, '=' ∈ s.toList) :
    l.foldl Env.unsetenv e = e := by
  induction l generalizing e with
  | nil => rfl
  | cons s rest ih =>
      rw [List.foldl_cons, Env.unsetenv_of_sep _ (h s (List.mem_cons_self _ _))]
      exact ih fun s' hs' => h s' (List.mem_cons_of_mem _ hs')

/-- `restoreEnv` of a map whose keys all hold `=` does nothing: its `Unsetenv` calls name whole
`key=value` entries, which are no key, and `Setenv` refuses its keys. -/
theorem restoreEnv_of_sep {saved : StringMap} (h : ∀ k ∈ saved, '=' ∈ k.toList) (e : Env) :
    restoreEnv saved e = e := by
  rw [restoreEnv, foldl_unsetenv_of_sep fun _ => Env.sep_mem_of_mem_environ, overlay_of_sep]
  intro v hv
  obtain ⟨s, hs, rfl⟩ := List.mem_map.1 hv
  exact h s.1 (AList.mem_keys.2 (List.mem_keys_of_mem hs))

theorem restoreEnv_currentEnv (saved e : Env) : restoreEnv (currentEnv saved) e = e :=
  restoreEnv_of_sep (fun _ => sep_mem_of_mem_currentEnv) e

/-- Saved by `currentEnv` before any `Setenv` and `Unsetenv` calls, `restoreEnv` leaves the
environment those calls made: it is the one saved only when they changed nothing. -/
theorem restoreEnv_keeps_calls (E : Env) (calls : List Env.Call) :
    restoreEnv (currentEnv E) (E.runCalls calls) = E.runCalls calls :=
  restoreEnv_currentEnv E _

/-- Saved at the empty environment, where `A` is unset, `restoreEnv` leaves the `A=1` that
`Setenv` added. -/
theorem restoreEnv_keeps_calls_setenv_a :
    (restoreEnv (currentEnv ∅) ((∅ : Env).runCalls [.setenv "A" "1"])).lookupEnv "A" = some "1" ∧
      (∅ : Env).lookupEnv "A" = none := by
  rw [restoreEnv_keeps_calls]
  exact ⟨by decide, by decide⟩

theorem runAlone_of_step {c c' : Call} {w w' : World} (fuel : Nat)
    (h : callStep c w = some (c', w')) : runAlone (fuel + 1) c w = runAlone fuel c' w' := by
  simp [runAlone, h]

/-- The overlay loop, one `Setenv` per step. -/
theorem runAlone_overlay {c : Call} {rest : List (String × String)} (hc : c.pc = .overlay rest)
    (w : World) (fuel : Nat) :
    runAlone (fuel + rest.length + 1) c w =
      runAlone fuel { c with pc := .start } { w with env := overlay w.env rest } := by
  induction rest generalizing c w with
  | nil => exact runAlone_of_step fuel (by simp [callStep, hc, overlay])
  | cons v rest ih =>
      rw [show fuel + (v :: rest).length + 1 = (fuel + rest.length + 1) + 1 by simp; omega,
        @runAlone_of_step c { c with pc := .overlay rest } w
          { w with env := w.env.setenv v.1 v.2 } _ (by simp [callStep, hc])]
      exact @ih { c with pc := .overlay rest } rfl _

/-- Lines 32-57 of a call that runs alone: it passes validation, spawns its redirections,
takes its free mutex and saves the environment. -/
theorem runAlone_startProcess_save (jobid : String) (t : JobTemplate) (ok : Bool) (mutex : Nat)
    (w : World) (fuel : Nat) (hValid : validateJobTemplate t = true) (hFree : mutex ∉ w.locked) :
    runAlone (fuel + 4) (startProcess jobid t ok mutex) w =
      runAlone fuel { startProcess jobid t ok mutex with
          pc := .overlay (pairs t.jobEnvironment), saved := currentEnv w.env }
        { w with locked := mutex :: w.locked, redirects := w.redirects ++ redirections t } := by
  simp [runAlone, callStep, startProcess, hValid, hFree]

/-- Lines 63-72 of a call that runs alone, from `cmd.Start()` to the return. -/
theorem runAlone_start (c : Call) (w : World) :
    runAlone 3 { c with pc := .start } w =
      ({ c with pc := .returned (if c.startSucceeds then .ok w.nextPid else .error .startFailed) },
       { w with
          env := if c.startSucceeds then restoreEnv c.saved w.env else w.env
          locked := w.locked.erase c.mutex
          children := if c.startSucceeds then w.children ++ [spawnChild c w] else w.children
          nextPid := if c.startSucceeds then w.nextPid + 1 else w.nextPid }) := by
  cases h : c.startSucceeds <;> simp [runAlone, callStep, h, spawnChild]

/-- A call of `StartProcess` that runs alone, on a template that passes validation and with
its mutex free: it returns, on either outcome of `cmd.Start()`, and leaves the environment
overlaid with the template's; `restoreEnv` restores nothing. -/
theorem runAlone_startProcess (jobid : String) (t : JobTemplate) (ok : Bool) (mutex : Nat)
    (w : World) (hValid : validateJobTemplate t = true) (hFree : mutex ∉ w.locked) :
    runAlone ((pairs t.jobEnvironment).length + 8) (startProcess jobid t ok mutex) w =
      ({ startProcess jobid t ok mutex with
          pc := .returned (if ok then .ok w.nextPid else .error .startFailed),
          saved := currentEnv w.env },
       { w with
          env := overlay w.env (pairs t.jobEnvironment)
          redirects := w.redirects ++ redirections t
          children := if ok then w.children ++ [⟨w.nextPid, jobid, t.remoteCommand, t.args,
            overlay w.env (pairs t.jobEnvironment)⟩] else w.children
          nextPid := if ok then w.nextPid + 1 else w.nextPid }) := by
  rw [show (pairs t.jobEnvironment).length + 8 = (3 + (pairs t.jobEnvironment).length + 1) + 4 by
      omega, runAlone_startProcess_save _ _ _ _ _ _ hValid hFree, runAlone_overlay rfl,
    runAlone_start]
  cases ok <;> simp [startProcess, spawnChild, restoreEnv_currentEnv]

/-- Whatever the environment and the outcome of `cmd.Start()`, a call that runs alone returns
and leaves the environment overlaid with the template's. -/
theorem startProcess_alone_leaves_overlay (jobid : String) (t : JobTemplate) (ok : Bool)
    (mutex : Nat) (w : World) (hValid : validateJobTemplate t = true) (hFree : mutex ∉ w.locked) :
    let r := runAlone ((pairs t.jobEnvironment).length + 8) (startProcess jobid t ok mutex) w
    (∃ result, r.1.pc = .returned result) ∧ r.2.env = overlay w.env (pairs t.jobEnvironment) := by
  rw [runAlone_startProcess _ _ _ _ _ hValid hFree]
  exact ⟨⟨_, rfl⟩, rfl⟩

/-- From an empty environment, a job whose template sets `A=1` leaves `A=1` behind. -/
theorem startProcess_alone_sets_variable :
    validateJobTemplate ⟨"sleep", ["1"], "", "", "", (∅ : StringMap).insert "A" "1"⟩ = true ∧
      0 ∉ ([] : List Nat) ∧
      (overlay ∅ (pairs ((∅ : StringMap).insert "A" "1"))).lookupEnv "A" = some "1" ∧
      let r := runAlone ((pairs ((∅ : StringMap).insert "A" "1")).length + 8)
        (startProcess "42" ⟨"sleep", ["1"], "", "", "", (∅ : StringMap).insert "A" "1"⟩ true 0)
        ⟨∅, [], [], [], 1⟩
      (∃ result, r.1.pc = .returned result) ∧
        r.2.env = overlay ∅ (pairs ((∅ : StringMap).insert "A" "1")) :=
  ⟨by decide, by decide, by decide,
    startProcess_alone_leaves_overlay "42"
      ⟨"sleep", ["1"], "", "", "", (∅ : StringMap).insert "A" "1"⟩
      true 0 ⟨∅, [], [], [], 1⟩ (by decide) (by decide)⟩

end Ubercluster.Tracker
