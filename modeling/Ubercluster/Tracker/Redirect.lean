import Ubercluster.Tracker.StartProcess

/-! The goroutines `redirectIn` and `redirectOut` (simpletracker/os.go, lines 80-99) that lines
38-52 of `StartProcess` leave copying between the child's pipes and files. Each opens its file
only when it runs, which may be before or after `StartProcess` returns, and nothing it does
reaches the call's result:

1. `redirectIn` panics when `os.Open` fails, and a panic in any goroutine ends the process;
2. `redirectOut` drops the error of `os.Create` and copies into the nil file, which fails with
   `os.ErrInvalid`, dropped as well. -/
namespace Ubercluster.Tracker

open Go

/-- What the redirection goroutines ask of the filesystem: the error `os.Open` and `os.Create`
give for a path, if any. -/
structure FileSystem where
  openError : String → Option String
  createError : String → Option String

/-- Where the bytes of a redirection went. -/
inductive Copy where
  /-- The file at `path` was copied into the child's stdin. -/
  | fromFile (path : String)
  /-- The child's output was copied into the file at `path`. -/
  | toFile (path : String)
  /-- The child's output was copied nowhere. -/
  | discarded
  deriving DecidableEq, Repr

/-- The goroutine of `redirectIn(out, infilename)` (lines 89-99): `panic(err)` when `os.Open`
fails. -/
def redirectIn (fs : FileSystem) (infilename : String) : Except GoPanic Copy :=
  match fs.openError infilename with
  | some err => throw ⟨err⟩
  | none => pure (.fromFile infilename)

/-- The goroutine of `redirectOut(src, outfilename)` (lines 80-87). The error of `os.Create` is
dropped (line 83); `io.CopyBuffer` into the nil `*os.File` and its `Close` then return
`os.ErrInvalid`, which nothing reads. -/
def redirectOut (fs : FileSystem) (outfilename : String) : Except GoPanic Copy :=
  match fs.createError outfilename with
  | some _ => pure .discarded
  | none => pure (.toFile outfilename)

/-- A spawned redirection goroutine, run to its end. -/
def Redirection.run (fs : FileSystem) : Redirection → Except GoPanic Copy
  | .redirectIn path => Tracker.redirectIn fs path
  | .redirectOut path => Tracker.redirectOut fs path

/-- The only goroutine that panics is a `redirectIn` whose file `os.Open` cannot open, and it
panics with that error. -/
theorem Redirection.run_eq_error {fs : FileSystem} {g : Redirection} {p : GoPanic} :
    g.run fs = .error p ↔ ∃ path err, g = .redirectIn path ∧ fs.openError path = some err ∧
      p = ⟨err⟩ := by
  cases g with
  | redirectIn path =>
      simp only [run, Tracker.redirectIn]
      cases h : fs.openError path <;> simp [h, throw, throwThe, MonadExceptOf.throw, pure,
        Except.pure, eq_comm]
  | redirectOut path =>
      simp only [run, Tracker.redirectOut]
      cases fs.createError path <;> simp [pure, Except.pure]

theorem redirectIn_mem_redirections {t : JobTemplate} (h : t.inputPath ≠ "") :
    .redirectIn t.inputPath ∈ redirections t := by
  simp [redirections, h]

theorem redirectOut_mem_redirections {t : JobTemplate} {path : String}
    (hPath : path ∈ [t.outputPath, t.errorPath]) (h : path ≠ "") :
    .redirectOut path ∈ redirections t := by
  simp only [List.mem_cons, List.mem_singleton, List.not_mem_nil, or_false] at hPath
  rcases hPath with rfl | rfl <;> simp [redirections, h]

/-- Whatever the filesystem, a call that runs alone returns the pid of its child whenever
`cmd.Start()` succeeds, while the goroutine of an input file `os.Open` cannot open panics with
the error, and that of an output or error file `os.Create` cannot create copies nothing. -/
theorem startProcess_redirection_unreported (jobid : String) (t : JobTemplate) (ok : Bool)
    (mutex : Nat) (w : World) (hValid : validateJobTemplate t = true) (hFree : mutex ∉ w.locked)
    (fs : FileSystem) :
    let r := runAlone ((pairs t.jobEnvironment).length + 8) (startProcess jobid t ok mutex) w
    r.1.pc = .returned (if ok then .ok w.nextPid else .error .startFailed) ∧
      (∀ err, t.inputPath ≠ "" → fs.openError t.inputPath = some err →
        ∃ g ∈ r.2.redirects, g.run fs = .error ⟨err⟩) ∧
      (∀ path ∈ [t.outputPath, t.errorPath], path ≠ "" → (fs.createError path).isSome →
        ∃ g ∈ r.2.redirects, g.run fs = .ok .discarded) := by
  rw [runAlone_startProcess _ _ _ _ _ hValid hFree]
  refine ⟨rfl, fun err hIn hOpen => ?_, fun path hPath hSet hCreate => ?_⟩
  · refine ⟨_, List.mem_append_right _ (redirectIn_mem_redirections hIn), ?_⟩
    exact Redirection.run_eq_error.2 ⟨_, err, rfl, hOpen, rfl⟩
  · refine ⟨_, List.mem_append_right _ (redirectOut_mem_redirections hPath hSet), ?_⟩
    obtain ⟨e, he⟩ := Option.isSome_iff_exists.1 hCreate
    simp [Redirection.run, redirectOut, he, pure, Except.pure]

/-- `cat` with its input at "/missing", which does not exist: `StartProcess` returns the pid 1
of its child, and the goroutine it spawned panics. -/
theorem startProcess_redirection_unreported_missing_input :
    validateJobTemplate ⟨"cat", [], "/missing", "", "", ∅⟩ = true ∧ 0 ∉ ([] : List Nat) ∧
      (runAlone ((pairs (∅ : StringMap)).length + 8)
        (startProcess "42" ⟨"cat", [], "/missing", "", "", ∅⟩ true 0) ⟨∅, [], [], [], 1⟩).1.pc =
          .returned (.ok 1) ∧
      ∃ g ∈ (runAlone ((pairs (∅ : StringMap)).length + 8)
          (startProcess "42" ⟨"cat", [], "/missing", "", "", ∅⟩ true 0)
          ⟨∅, [], [], [], 1⟩).2.redirects,
        g.run ⟨fun _ => some "open /missing: no such file or directory", fun _ => none⟩ =
          .error ⟨"open /missing: no such file or directory"⟩ := by
  have h := startProcess_redirection_unreported "42" ⟨"cat", [], "/missing", "", "", ∅⟩ true 0
    ⟨∅, [], [], [], 1⟩ (by decide) (by decide)
    ⟨fun _ => some "open /missing: no such file or directory", fun _ => none⟩
  exact ⟨by decide, by decide, h.1, h.2.1 _ (by decide) rfl⟩

end Ubercluster.Tracker
