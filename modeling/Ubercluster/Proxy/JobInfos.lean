import Ubercluster.Go.Progress
import Ubercluster.Config
import Mathlib.Data.List.Perm.Basic
import Mathlib.Data.List.Nodup

/-! `GetJobInfosByFilter` of the inception proxy (part_003): one `requestJobInfos` goroutine per
configured cluster that is not the proxy itself, each appending its peer's job infos to the
shared `jip.jobinfos` under `jip`'s mutex, joined by `jip`'s WaitGroup. -/
namespace Ubercluster.Proxy

open Go

/-- The inception proxy (lines 32-36): its own address and its configuration. The `request`
client is not kept; what the peers answer is a parameter of each operation. -/
structure Inception where
  inceptionAddress : String
  config : Config
  deriving DecidableEq

/-- The self-reference guard of lines 74, 137, 165 and 196: `fmt.Sprintf("%s/", c.Address)` is
the proxy's own address. -/
def isOwnAddress (i : Inception) (c : ClusterConfig) : Bool :=
  c.address ++ "/" == i.inceptionAddress

/-- The shared part of `jiProtected` (lines 48-52); `holder` is the goroutine that holds the
mutex. Go's mutex records only that it is held; the holder is kept for the proofs. -/
structure JobInfos (α : Type) where
  holder : Option Nat
  jobinfos : List α
  deriving DecidableEq

variable {α : Type}

/-- Where a `requestJobInfos` goroutine is (lines 56-66). -/
inductive JobInfoTask (α : Type) where
  /-- Line 58: `i.request.GetJobs(address, state, "")`. -/
  | request (address : String)
  /-- Line 61: `ji.Lock()`, with the answer `jis`. -/
  | lock (jis : List α)
  /-- Line 62: the read of `ji.jobinfos` in `append(ji.jobinfos, jis...)`. -/
  | read (jis : List α)
  /-- Line 62: the write of `append(old, jis...)` back to `ji.jobinfos`. -/
  | write (jis old : List α)
  /-- Line 63: `ji.Unlock()`. -/
  | unlock
  /-- Line 65: `ji.Done()`. -/
  | done
  deriving DecidableEq

/-- One step of `requestJobInfos(i, ji, "all", address)` for cluster `k`, whose peer answers
`GetJobs` with `getJobs k state user`; `nil` is `none`. -/
def requestJobInfos (getJobs : Nat → String → String → Option (List α)) (k : Nat) :
    JobInfoTask α → JobInfos α → Option (Option (JobInfoTask α) × JobInfos α)
  | .request _, ji =>
      match getJobs k "all" "" with
      | some jis => some (some (.lock jis), ji)
      | none => some (some .done, ji)
  | .lock jis, ji =>
      match ji.holder with
      | none => some (some (.read jis), { ji with holder := some k })
      | some _ => none
  | .read jis, ji => some (some (.write jis ji.jobinfos), ji)
  | .write jis old, ji => some (some .unlock, { ji with jobinfos := old ++ jis })
  | .unlock, ji => some (some .done, { ji with holder := none })
  | .done, ji => some (none, ji)

/-- `GetJobInfosByFilter(filtered, filter)` (lines 68-85). The filter is not used: every peer
is asked for the jobs in state `"all"`. -/
def getJobInfosByFilter (i : Inception) (getJobs : Nat → String → String → Option (List α))
    (_filtered : Bool) (_filter : α) : FanOut (JobInfoTask α) (JobInfos α) :=
  ⟨i.config.cluster.length, fun k => (i.config.cluster.map (isOwnAddress i)).getD k false,
    fun k => .request ((i.config.cluster.map fun c => c.address ++ "/v1").getD k ""),
    requestJobInfos getJobs⟩

/-- The state right after `jip.jobinfos = make(...)` and `jip.Add(n)`. -/
def jobInfosStart (i : Inception) (getJobs : Nat → String → String → Option (List α))
    (filtered : Bool) (filter : α) : FanOutState (JobInfoTask α) (JobInfos α) :=
  (getJobInfosByFilter i getJobs filtered filter).init ⟨none, []⟩

namespace JobInfoTask

/-- Between `ji.Lock()` and `ji.Unlock()`. -/
def holdsLock : JobInfoTask α → Bool
  | .read _ | .write _ _ | .unlock => true
  | _ => false

/-- Past its append, or with no answer to append. -/
def posted : JobInfoTask α → Bool
  | .unlock | .done => true
  | _ => false

/-- The answer the goroutine carries is its peer's `answer`. -/
def Carries (answer : Option (List α)) : JobInfoTask α → Prop
  | .lock jis | .read jis | .write jis _ => answer = some jis
  | _ => True

end JobInfoTask

/-- The goroutine at a place of the fan-out holds the mutex. -/
def holdsOpt : Option (TaskPc (JobInfoTask α)) → Bool
  | some (.running t) => t.holdsLock
  | _ => false

/-- The goroutine at a place of the fan-out has added its answer, or had none, or ended. -/
def postedOpt : Option (TaskPc (JobInfoTask α)) → Bool
  | some (.running t) => t.posted
  | some .finished => true
  | _ => false

/-- The goroutines with the one of cluster `k` moved to `x`. -/
def moved (view : Nat → Option (TaskPc (JobInfoTask α))) (k : Nat) (x : TaskPc (JobInfoTask α)) :
    Nat → Option (TaskPc (JobInfoTask α)) :=
  fun j => if j = k then some x else view j

/-- The invariant of `GetJobInfosByFilter`'s fan-out, over the goroutine of each cluster. The
holder of the mutex is the one goroutine between `Lock` and `Unlock`; each goroutine carries
its own peer's answer; one about to write has read the current `jobinfos`; and `jobinfos` is
the answers of the goroutines that have posted, concatenated in the order they posted. -/
structure Appended (getJobs : Nat → String → String → Option (List α))
    (view : Nat → Option (TaskPc (JobInfoTask α))) (ji : JobInfos α) : Prop where
  holder_iff : ∀ k : Nat, ji.holder = some k ↔ holdsOpt (view k) = true
  carries : ∀ (k : Nat) (t : JobInfoTask α), view k = some (.running t) →
    t.Carries (getJobs k "all" "")
  fresh : ∀ (k : Nat) (jis old : List α), view k = some (.running (.write jis old)) →
    old = ji.jobinfos
  order : ∃ order : List Nat, order.Nodup ∧ (∀ k, k ∈ order ↔ postedOpt (view k) = true) ∧
    ji.jobinfos = (order.map fun k => (getJobs k "all" "").getD []).flatten

@[simp] theorem moved_self (view : Nat → Option (TaskPc (JobInfoTask α))) (k : Nat)
    (x : TaskPc (JobInfoTask α)) : moved view k x k = some x := if_pos rfl

theorem moved_ne (view : Nat → Option (TaskPc (JobInfoTask α))) {j k : Nat}
    (x : TaskPc (JobInfoTask α)) (h : j ≠ k) : moved view k x j = view j := if_neg h

variable {getJobs : Nat → String → String → Option (List α)}
  {view : Nat → Option (TaskPc (JobInfoTask α))} {ji : JobInfos α} {k : Nat}

/-- Two goroutines that both hold the mutex are one. -/
theorem Appended.holder_unique (h : Appended getJobs view ji) {j : Nat}
    (hj : holdsOpt (view j) = true) (hk : holdsOpt (view k) = true) : j = k :=
  Option.some.inj (((h.holder_iff j).2 hj).symm.trans ((h.holder_iff k).2 hk))

/-- A step that changes neither the mutex, nor what is posted, nor `jobinfos`. -/
theorem Appended.quiet (h : Appended getJobs view ji) (x : TaskPc (JobInfoTask α))
    (hHolds : holdsOpt (some x) = holdsOpt (view k))
    (hPosted : postedOpt (some x) = postedOpt (view k))
    (hCarries : ∀ t, x = .running t → t.Carries (getJobs k "all" ""))
    (hFresh : ∀ jis old, x = .running (.write jis old) → old = ji.jobinfos) :
    Appended getJobs (moved view k x) ji := by
  obtain ⟨order, hNodup, hMem, hEq⟩ := h.order
  refine ⟨fun j => ?_, fun j t hj => ?_, fun j jis old hj => ?_, order, hNodup, fun j => ?_, hEq⟩
  all_goals by_cases hjk : j = k
  all_goals try (subst hjk; simp only [moved_self] at *)
  all_goals try rw [moved_ne _ _ hjk] at *
  · rw [hHolds, h.holder_iff]
  · exact h.holder_iff j
  · exact hCarries t (Option.some.inj hj)
  · exact h.carries j t hj
  · exact hFresh jis old (Option.some.inj hj)
  · exact h.fresh j jis old hj
  · rw [hPosted, hMem]
  · exact hMem j

/-- A goroutine posts: it appended its peer's answer to `jobinfos`, or had none. -/
theorem Appended.post (h : Appended getJobs view ji) (x : TaskPc (JobInfoTask α))
    (d : JobInfos α) (hHolds : holdsOpt (some x) = holdsOpt (view k))
    (hNew : postedOpt (view k) = false) (hPosted : postedOpt (some x) = true)
    (hCarries : ∀ t, x = .running t → t.Carries (getJobs k "all" ""))
    (hNotWrite : ∀ jis old, x ≠ .running (.write jis old)) (hHolder : d.holder = ji.holder)
    (hAppend : d.jobinfos = ji.jobinfos ++ (getJobs k "all" "").getD [])
    (hFresh : ∀ j jis old, j ≠ k → view j = some (.running (.write jis old)) →
      old = d.jobinfos) :
    Appended getJobs (moved view k x) d := by
  obtain ⟨order, hNodup, hMem, hEq⟩ := h.order
  have hk : k ∉ order := fun hk => by simp [(hMem k).1 hk] at hNew
  refine ⟨fun j => ?_, fun j t hj => ?_, fun j jis old hj => ?_, order ++ [k],
    List.concat_eq_append order k ▸ hNodup.concat hk, fun j => ?_, by simp [hAppend, hEq]⟩
  all_goals by_cases hjk : j = k
  all_goals try (subst hjk; simp only [moved_self] at *)
  all_goals try rw [moved_ne _ _ hjk] at *
  · rw [hHolder, hHolds, h.holder_iff]
  · rw [hHolder, h.holder_iff]
  · exact hCarries t (Option.some.inj hj)
  · exact h.carries j t hj
  · exact absurd (Option.some.inj hj) (hNotWrite jis old)
  · exact hFresh j jis old hjk hj
  · simp [hPosted]
  · simp [hjk, hMem]

/-- A goroutine takes the free mutex. -/
theorem Appended.take (h : Appended getJobs view ji) {jis : List α} (hFree : ji.holder = none)
    (hk : view k = some (.running (.lock jis))) :
    Appended getJobs (moved view k (.running (.read jis))) { ji with holder := some k } := by
  obtain ⟨order, hNodup, hMem, hEq⟩ := h.order
  refine ⟨fun j => ?_, fun j t hj => ?_, fun j jis' old hj => ?_, order, hNodup, fun j => ?_, hEq⟩
  all_goals by_cases hjk : j = k
  all_goals try (subst hjk; simp only [moved_self] at *)
  all_goals try rw [moved_ne _ _ hjk] at *
  · simp [holdsOpt, JobInfoTask.holdsLock]
  · rw [← h.holder_iff, hFree]
    simp [Ne.symm hjk]
  · cases hj
    exact h.carries _ (.lock jis) hk
  · exact h.carries j t hj
  · cases hj
  · exact h.fresh j jis' old hj
  · rw [hMem, hk]; rfl
  · exact hMem j

/-- A goroutine releases the mutex. -/
theorem Appended.release (h : Appended getJobs view ji) (hk : view k = some (.running .unlock)) :
    Appended getJobs (moved view k (.running .done)) { ji with holder := none } := by
  obtain ⟨order, hNodup, hMem, hEq⟩ := h.order
  have hHolds : holdsOpt (view k) = true := by rw [hk]; rfl
  refine ⟨fun j => ?_, fun j t hj => ?_, fun j jis old hj => ?_, order, hNodup, fun j => ?_, hEq⟩
  all_goals by_cases hjk : j = k
  all_goals try (subst hjk; simp only [moved_self] at *)
  all_goals try rw [moved_ne _ _ hjk] at *
  · simp [holdsOpt, JobInfoTask.holdsLock]
  · simpa using fun hj => hjk (h.holder_unique hj hHolds)
  · cases hj; trivial
  · exact h.carries j t hj
  · cases hj
  · exact h.fresh j jis old hj
  · rw [hMem, hk]; rfl
  · exact hMem j

/-- The loop appends a skipped goroutine, or one that has not run. -/
theorem Appended.append {tasks : List (TaskPc (JobInfoTask α))}
    (h : Appended getJobs (fun j => tasks[j]?) ji) {x : TaskPc (JobInfoTask α)}
    (hx : x = .skipped ∨ ∃ a, x = .running (.request a)) :
    Appended getJobs (fun j => (tasks ++ [x])[j]?) ji := by
  have hQuiet : holdsOpt (some x) = false ∧ postedOpt (some x) = false := by
    rcases hx with rfl | ⟨a, rfl⟩ <;> exact ⟨rfl, rfl⟩
  obtain ⟨order, hNodup, hMem, hEq⟩ := h.order
  refine ⟨fun j => ?_, fun j t hj => ?_, fun j jis old hj => ?_, order, hNodup, fun j => ?_, hEq⟩
  · rcases getElem?_append_singleton_eq tasks x j with hj | ⟨hj, hNone⟩
    · rw [hj, h.holder_iff]
    · rw [hj, hQuiet.1, h.holder_iff, hNone]; rfl
  · rcases getElem?_append_singleton hj with hj | ⟨-, rfl⟩
    · exact h.carries j t hj
    · rcases hx with hx | ⟨a, hx⟩ <;> cases hx; trivial
  · rcases getElem?_append_singleton hj with hj | ⟨-, rfl⟩
    · exact h.fresh j jis old hj
    · rcases hx with hx | ⟨a, hx⟩ <;> cases hx
  · rcases getElem?_append_singleton_eq tasks x j with hj | ⟨hj, hNone⟩
    · rw [hj, hMem]
    · rw [hj, hQuiet.2, hMem, hNone]; rfl

theorem getElem?_set_eq_moved {tasks : List (TaskPc (JobInfoTask α))} {x : TaskPc (JobInfoTask α)}
    (hk : k < tasks.length) : (fun j => (tasks.set k x)[j]?) = moved (fun j => tasks[j]?) k x := by
  funext j
  rw [List.getElem?_set, moved]
  by_cases hjk : j = k
  · simp [hjk, hk]
  · simp [hjk, Ne.symm hjk]

/-- Every step of the fan-out keeps `Appended`. -/
theorem Appended.moves {i : Inception} {filtered : Bool} {filter : α} {a : Actor}
    {s s' : FanOutState (JobInfoTask α) (JobInfos α)}
    (h : Appended getJobs (fun j => s.tasks[j]?) s.shared)
    (hm : (getJobInfosByFilter i getJobs filtered filter).Moves a s s') :
    Appended getJobs (fun j => s'.tasks[j]?) s'.shared := by
  cases hm with
  | skip => exact h.append (.inl rfl)
  | spawn => exact h.append (.inr ⟨_, rfl⟩)
  | close => exact h
  | wake => exact h
  | @work _ k t t' d hTask hMove =>
      have hk : k < s.tasks.length := (List.getElem?_eq_some_iff.1 hTask).1
      show Appended getJobs (fun j => (s.tasks.set k (.running t'))[j]?) d
      rw [getElem?_set_eq_moved hk]
      cases t with
      | request address =>
          simp only [getJobInfosByFilter, requestJobInfos] at hMove
          split at hMove <;> cases hMove
          · exact h.quiet _ (by rw [hTask]; rfl) (by rw [hTask]; rfl)
              (fun t ht => by cases ht; assumption) (fun _ _ ht => by cases ht)
          · exact h.post _ _ (by rw [hTask]; rfl) (by rw [hTask]; rfl) rfl
              (fun _ ht => by cases ht; trivial) (fun _ _ ht => by cases ht) rfl (by simp [*])
              (fun j _ _ _ hj => h.fresh j _ _ hj)
      | lock jis =>
          simp only [getJobInfosByFilter, requestJobInfos] at hMove
          split at hMove <;> cases hMove
          exact h.take ‹_› hTask
      | read jis =>
          cases hMove
          exact h.quiet _ (by rw [hTask]; rfl) (by rw [hTask]; rfl)
            (fun t ht => by cases ht; exact h.carries _ (.read jis) hTask)
            (fun _ _ ht => by cases ht; rfl)
      | write jis old =>
          cases hMove
          have hHolds : holdsOpt ((fun j => s.tasks[j]?) k) = true := by simp [hTask]; rfl
          exact h.post _ _ (by rw [hTask]; rfl) (by rw [hTask]; rfl) rfl
            (fun _ ht => by cases ht; trivial) (fun _ _ ht => by cases ht) rfl
            (by rw [h.fresh k jis old hTask, h.carries k (.write jis old) hTask]; rfl)
            (fun j _ _ hjk hj => absurd (h.holder_unique (by simp [hj]; rfl) hHolds) hjk)
      | unlock =>
          cases hMove
          exact h.release hTask
      | done => cases hMove
  | @done _ k t d hTask hMove =>
      have hk : k < s.tasks.length := (List.getElem?_eq_some_iff.1 hTask).1
      show Appended getJobs (fun j => (s.tasks.set k .finished)[j]?) d
      rw [getElem?_set_eq_moved hk]
      cases t <;> simp only [getJobInfosByFilter, requestJobInfos] at hMove <;>
        try (split at hMove <;> cases hMove)
      all_goals cases hMove
      exact h.quiet _ (by rw [hTask]; rfl) (by rw [hTask]; rfl) (fun _ ht => by cases ht)
        (fun _ _ ht => by cases ht)

theorem Appended.of_reachable {i : Inception} {filtered : Bool} {filter : α}
    {s : FanOutState (JobInfoTask α) (JobInfos α)}
    (h : Reachable (getJobInfosByFilter i getJobs filtered filter).step
      (jobInfosStart i getJobs filtered filter) s) :
    Appended getJobs (fun j => s.tasks[j]?) s.shared :=
  @Reachable.induction _ _ _ (fun s => Appended getJobs (fun j => s.tasks[j]?) s.shared) _ _
    ⟨fun _ => by simp [jobInfosStart, FanOut.init, holdsOpt], fun _ _ h => by
      simp [jobInfosStart, FanOut.init] at h, fun _ _ _ h => by
      simp [jobInfosStart, FanOut.init] at h,
      ⟨[], List.nodup_nil, fun _ => by simp [jobInfosStart, FanOut.init, postedOpt], rfl⟩⟩
    (fun _ _ _ hs hStep => hs.moves (FanOut.moves_of_step hStep)) h

/-- The clusters `GetJobInfosByFilter` asks, in the order of the configuration: all but those
whose address is the proxy's own. -/
def askedClusters (i : Inception) : List Nat :=
  (List.range i.config.cluster.length).filter fun k =>
    !((i.config.cluster.map (isOwnAddress i)).getD k false)

theorem mem_askedClusters (i : Inception) (getJobs : Nat → String → String → Option (List α))
    (filtered : Bool) (filter : α) (k : Nat) : k ∈ askedClusters i ↔
      k < (getJobInfosByFilter i getJobs filtered filter).items ∧
        (getJobInfosByFilter i getJobs filtered filter).skip k = false := by
  simp [askedClusters, getJobInfosByFilter]

/-- Once `GetJobInfosByFilter` has returned, `jobinfos` is the answers of the clusters it asks,
concatenated in some order of those clusters. -/
theorem jobinfos_of_returned {i : Inception} {filtered : Bool} {filter : α}
    {s : FanOutState (JobInfoTask α) (JobInfos α)}
    (h : Reachable (getJobInfosByFilter i getJobs filtered filter).step
      (jobInfosStart i getJobs filtered filter) s)
    (hRet : s.main = .returned) :
    ∃ order : List Nat, order.Perm (askedClusters i) ∧
      s.shared.jobinfos = (order.map fun k => (getJobs k "all" "").getD []).flatten := by
  obtain ⟨order, hNodup, hMem, hEq⟩ := (Appended.of_reachable h).order
  refine ⟨order, (List.perm_ext_iff_of_nodup hNodup
    ((List.nodup_range _).filter _)).2 fun k => ?_, hEq⟩
  show k ∈ order ↔ k ∈ askedClusters i
  rw [hMem, mem_askedClusters i getJobs filtered filter, FanOut.getElem?_tasks_of_returned h hRet]
  by_cases hk : k < (getJobInfosByFilter i getJobs filtered filter).items <;>
    cases (getJobInfosByFilter i getJobs filtered filter).skip k <;> simp [hk, postedOpt]

/-- In every interleaving, `GetJobInfosByFilter` returns only after the goroutine of every
cluster it asks has called `Done`, and it returns the peers' answers concatenated in some order
of those clusters: each answer whole and once, nothing of a skipped cluster, and nothing of a
peer that answered `nil`, which fails nothing else. -/
theorem getJobInfosByFilter_concat (i : Inception)
    (getJobs : Nat → String → String → Option (List α)) (filtered : Bool) (filter : α)
    (s : FanOutState (JobInfoTask α) (JobInfos α))
    (h : Reachable (getJobInfosByFilter i getJobs filtered filter).step
      (jobInfosStart i getJobs filtered filter) s)
    (hRet : s.main = .returned) :
    (∀ k ∈ askedClusters i, s.tasks[k]? = some .finished) ∧
      ∃ order : List Nat, order.Perm (askedClusters i) ∧
        s.shared.jobinfos = (order.map fun k => (getJobs k "all" "").getD []).flatten := by
  refine ⟨fun k hk => ?_, jobinfos_of_returned h hRet⟩
  obtain ⟨hk, hSkip⟩ := (mem_askedClusters i getJobs filtered filter k).1 hk
  rw [FanOut.getElem?_tasks_of_returned h hRet, if_pos hk, hSkip]
  rfl

/-- Two peers, each answering its own index as its one job: the run that lets the second
goroutine append before the first returns `[1, 0]`, the answers in the order the goroutines
took the mutex. -/
theorem getJobInfosByFilter_concat_two_peers :
    ∃ s, Reachable (getJobInfosByFilter ⟨"", ⟨[⟨"a", "http://a", "v1"⟩, ⟨"b", "http://b", "v1"⟩]⟩⟩
        (fun k _ _ => some [k]) false 0).step
      (jobInfosStart ⟨"", ⟨[⟨"a", "http://a", "v1"⟩, ⟨"b", "http://b", "v1"⟩]⟩⟩
        (fun k _ _ => some [k]) false 0) s ∧
      s.main = .returned ∧ s.shared.jobinfos = [1, 0] ∧
      (∀ k ∈ askedClusters ⟨"", ⟨[⟨"a", "http://a", "v1"⟩, ⟨"b", "http://b", "v1"⟩]⟩⟩,
        s.tasks[k]? = some .finished) ∧
      ∃ order : List Nat,
        order.Perm (askedClusters ⟨"", ⟨[⟨"a", "http://a", "v1"⟩, ⟨"b", "http://b", "v1"⟩]⟩⟩) ∧
        s.shared.jobinfos = (order.map fun k => [k]).flatten := by
  have hRun : Reachable (getJobInfosByFilter ⟨"", ⟨[⟨"a", "http://a", "v1"⟩,
        ⟨"b", "http://b", "v1"⟩]⟩⟩ (fun k _ _ => some [k]) false 0).step
      (jobInfosStart ⟨"", ⟨[⟨"a", "http://a", "v1"⟩, ⟨"b", "http://b", "v1"⟩]⟩⟩
        (fun k _ _ => some [k]) false 0)
      ⟨.returned, 0, [.finished, .finished], ⟨none, [1, 0]⟩⟩ :=
    ⟨[.main, .main, .main, .task 1, .task 1, .task 1, .task 1, .task 1, .task 1,
      .task 0, .task 0, .task 0, .task 0, .task 0, .task 0, .main], by decide⟩
  exact ⟨_, hRun, rfl, rfl, getJobInfosByFilter_concat _ _ _ _ _ hRun rfl⟩

/-! ### Completion, the WaitGroup and the mutex -/

namespace JobInfoTask

/-- The steps a goroutine has left before its `ji.Done()`. -/
def rank : JobInfoTask α → Nat
  | .request _ => 5
  | .lock _ => 4
  | .read _ => 3
  | .write _ _ => 2
  | .unlock => 1
  | .done => 0

end JobInfoTask

theorem rank_lt_of_requestJobInfos {k : Nat} {t t' : JobInfoTask α} {d d' : JobInfos α}
    (h : requestJobInfos getJobs k t d = some (some t', d')) : t'.rank < t.rank := by
  cases t <;> simp only [requestJobInfos] at h <;> (try split at h) <;> cases h <;>
    simp [JobInfoTask.rank]

/-- The only goroutine that cannot move waits at `ji.Lock()` on a mutex that is held. -/
theorem requestJobInfos_eq_none {k : Nat} {t : JobInfoTask α} {d : JobInfos α}
    (h : requestJobInfos getJobs k t d = none) : ∃ jis j, t = .lock jis ∧ d.holder = some j := by
  cases t with
  | request => simp only [requestJobInfos] at h; split at h <;> cases h
  | lock jis =>
      cases hHolder : d.holder with
      | none => simp [requestJobInfos, hHolder] at h
      | some j => exact ⟨jis, j, rfl, rfl⟩
  | _ => cases h

theorem holdsOpt_eq_true {x : Option (TaskPc (JobInfoTask α))} :
    holdsOpt x = true ↔ ∃ t, x = some (.running t) ∧ t.holdsLock = true := by
  rcases x with _ | _ | t | _ <;> simp [holdsOpt]

/-- While some goroutine runs, one that runs can move: a goroutine waiting at `ji.Lock()` waits
on the holder of the mutex, which is between `Lock` and `Unlock` and never waits. -/
theorem Appended.exists_move {tasks : List (TaskPc (JobInfoTask α))}
    (h : Appended getJobs (fun j => tasks[j]?) ji) :
    (∃ (k : Nat) (t : JobInfoTask α), tasks[k]? = some (.running t)) →
      ∃ k t r, tasks[k]? = some (.running t) ∧ requestJobInfos getJobs k t ji = some r := by
  rintro ⟨k, t, hk⟩
  cases hMove : requestJobInfos getJobs k t ji with
  | some r => exact ⟨k, t, r, hk, hMove⟩
  | none =>
      obtain ⟨-, j, -, hHolder⟩ := requestJobInfos_eq_none hMove
      obtain ⟨t', hj, hLock⟩ := holdsOpt_eq_true.1 ((h.holder_iff j).1 hHolder)
      refine ⟨j, t', ?_⟩
      cases hMove' : requestJobInfos getJobs j t' ji with
      | some r => exact ⟨r, hj, rfl⟩
      | none =>
          obtain ⟨jis, -, rfl, -⟩ := requestJobInfos_eq_none hMove'
          cases hLock

/-- No interleaving of `GetJobInfosByFilter` deadlocks on `jip`'s mutex or its WaitGroup: a
state some interleaving reaches, where neither the function nor any goroutine can move, is one
where the function has returned. -/
theorem getJobInfosByFilter_returned_of_stuck (i : Inception)
    (getJobs : Nat → String → String → Option (List α)) (filtered : Bool) (filter : α)
    (s : FanOutState (JobInfoTask α) (JobInfos α))
    (h : Reachable (getJobInfosByFilter i getJobs filtered filter).step
      (jobInfosStart i getJobs filtered filter) s)
    (hStuck : ∀ a, (getJobInfosByFilter i getJobs filtered filter).step a s = none) :
    s.main = .returned :=
  FanOut.returned_of_stuck (FanOut.Counted.of_reachable h) (Appended.of_reachable h).exists_move
    hStuck

/-- Two peers whose goroutines contend for the mutex: the second waits at `ji.Lock()` while the
first holds it, and once both have appended and the function has returned, nothing can move. -/
theorem getJobInfosByFilter_returned_of_stuck_two_peers :
    Reachable (getJobInfosByFilter ⟨"", ⟨[⟨"a", "http://a", "v1"⟩, ⟨"b", "http://b", "v1"⟩]⟩⟩
        (fun k _ _ => some [k]) false 0).step
      (jobInfosStart ⟨"", ⟨[⟨"a", "http://a", "v1"⟩, ⟨"b", "http://b", "v1"⟩]⟩⟩
        (fun k _ _ => some [k]) false 0)
      ⟨.wait, 2, [.running (.read [0]), .running (.lock [1])], ⟨some 0, []⟩⟩ ∧
    (getJobInfosByFilter ⟨"", ⟨[⟨"a", "http://a", "v1"⟩, ⟨"b", "http://b", "v1"⟩]⟩⟩
        (fun k _ _ => some [k]) false 0).step (.task 1)
      ⟨.wait, 2, [.running (.read [0]), .running (.lock [1])], ⟨some 0, []⟩⟩ = none ∧
    runSchedule (getJobInfosByFilter ⟨"", ⟨[⟨"a", "http://a", "v1"⟩,
        ⟨"b", "http://b", "v1"⟩]⟩⟩ (fun k _ _ => some [k]) false 0).step
      ⟨.wait, 2, [.running (.read [0]), .running (.lock [1])], ⟨some 0, []⟩⟩
      [.task 0, .task 0, .task 0, .task 1, .task 1, .task 1, .task 1, .task 1, .task 0, .main] =
        some ⟨.returned, 0, [.finished, .finished], ⟨none, [0, 1]⟩⟩ ∧
    Reachable (getJobInfosByFilter ⟨"", ⟨[⟨"a", "http://a", "v1"⟩, ⟨"b", "http://b", "v1"⟩]⟩⟩
        (fun k _ _ => some [k]) false 0).step
      (jobInfosStart ⟨"", ⟨[⟨"a", "http://a", "v1"⟩, ⟨"b", "http://b", "v1"⟩]⟩⟩
        (fun k _ _ => some [k]) false 0)
      ⟨.returned, 0, [.finished, .finished], ⟨none, [0, 1]⟩⟩ ∧
    (∀ a, (getJobInfosByFilter ⟨"", ⟨[⟨"a", "http://a", "v1"⟩, ⟨"b", "http://b", "v1"⟩]⟩⟩
        (fun k _ _ => some [k]) false 0).step a
          ⟨.returned, 0, [.finished, .finished], ⟨none, [0, 1]⟩⟩ = none) ∧
    (⟨.returned, 0, [.finished, .finished], ⟨none, [0, 1]⟩⟩ :
      FanOutState (JobInfoTask Nat) (JobInfos Nat)).main = .returned := by
  have hRun : Reachable (getJobInfosByFilter ⟨"", ⟨[⟨"a", "http://a", "v1"⟩,
        ⟨"b", "http://b", "v1"⟩]⟩⟩ (fun k _ _ => some [k]) false 0).step
      (jobInfosStart ⟨"", ⟨[⟨"a", "http://a", "v1"⟩, ⟨"b", "http://b", "v1"⟩]⟩⟩
        (fun k _ _ => some [k]) false 0)
      ⟨.returned, 0, [.finished, .finished], ⟨none, [0, 1]⟩⟩ :=
    ⟨[.main, .main, .main, .task 0, .task 1, .task 0, .task 0, .task 0, .task 0,
      .task 1, .task 1, .task 1, .task 1, .task 1, .task 0, .main], by decide⟩
  have hStuck : ∀ a, (getJobInfosByFilter ⟨"", ⟨[⟨"a", "http://a", "v1"⟩,
      ⟨"b", "http://b", "v1"⟩]⟩⟩ (fun k _ _ => some [k]) false 0).step a
        ⟨.returned, 0, [.finished, .finished], ⟨none, [0, 1]⟩⟩ = none := by
    rintro (_ | _ | _ | k) <;> simp [FanOut.step]
  exact ⟨⟨[.main, .main, .main, .task 0, .task 1, .task 0], by decide⟩, by decide, by decide,
    hRun, hStuck, getJobInfosByFilter_returned_of_stuck _ _ _ _ _ hRun hStuck⟩

/-- Every interleaving of `GetJobInfosByFilter` stops: whatever the peers answer, no schedule
runs more than seven steps a configured cluster and two more. -/
theorem getJobInfosByFilter_run_length_le (i : Inception)
    (getJobs : Nat → String → String → Option (List α)) (filtered : Bool) (filter : α)
    (acts : List Actor) (s : FanOutState (JobInfoTask α) (JobInfos α))
    (h : runSchedule (getJobInfosByFilter i getJobs filtered filter).step
      (jobInfosStart i getJobs filtered filter) acts = some s) :
    acts.length ≤ 7 * i.config.cluster.length + 2 := by
  have hItem : ∀ j, (getJobInfosByFilter i getJobs filtered filter).itemCost
      JobInfoTask.rank j ≤ 7 := fun j => by
    simp only [FanOut.itemCost]
    split <;> simp [getJobInfosByFilter, JobInfoTask.rank]
  have hLe := FanOut.length_le_of_itemCost_le (fun _ _ _ _ _ => rank_lt_of_requestJobInfos) hItem h
  simpa [getJobInfosByFilter, Nat.mul_comm] using hLe

/-- The bound is met: with one peer that answers, the run that asks it and returns takes nine
steps. -/
theorem getJobInfosByFilter_run_length_le_one_peer :
    runSchedule (getJobInfosByFilter ⟨"", ⟨[⟨"a", "http://a", "v1"⟩]⟩⟩
        (fun _ _ _ => some [()]) false ()).step
      (jobInfosStart ⟨"", ⟨[⟨"a", "http://a", "v1"⟩]⟩⟩ (fun _ _ _ => some [()]) false ())
      [.main, .main, .task 0, .task 0, .task 0, .task 0, .task 0, .task 0, .main] =
        some ⟨.returned, 0, [.finished], ⟨none, [()]⟩⟩ ∧
      [Actor.main, .main, .task 0, .task 0, .task 0, .task 0, .task 0, .task 0, .main].length =
        7 * [(⟨"a", "http://a", "v1"⟩ : ClusterConfig)].length + 2 :=
  ⟨by decide, (getJobInfosByFilter_run_length_le ⟨"", ⟨[⟨"a", "http://a", "v1"⟩]⟩⟩
    (fun _ _ _ => some [()]) false () _ ⟨.returned, 0, [.finished], ⟨none, [()]⟩⟩
    (by decide)).antisymm (by decide)⟩

/-- In every interleaving, at most one goroutine of `GetJobInfosByFilter` is between
`ji.Lock()` and `ji.Unlock()`. -/
theorem getJobInfosByFilter_mutual_exclusion (i : Inception)
    (getJobs : Nat → String → String → Option (List α)) (filtered : Bool) (filter : α)
    (s : FanOutState (JobInfoTask α) (JobInfos α))
    (h : Reachable (getJobInfosByFilter i getJobs filtered filter).step
      (jobInfosStart i getJobs filtered filter) s) (j k : Nat)
    (hj : holdsOpt s.tasks[j]? = true) (hk : holdsOpt s.tasks[k]? = true) : j = k :=
  (Appended.of_reachable h).holder_unique hj hk

/-- Two peers that answer, the goroutine of the first between `Lock` and `Unlock` and that of
the second waiting at `Lock`. -/
theorem getJobInfosByFilter_mutual_exclusion_two_peers :
    ∃ s, Reachable (getJobInfosByFilter ⟨"", ⟨[⟨"a", "http://a", "v1"⟩, ⟨"b", "http://b", "v1"⟩]⟩⟩
        (fun _ _ _ => some [()]) false ()).step
      (jobInfosStart ⟨"", ⟨[⟨"a", "http://a", "v1"⟩, ⟨"b", "http://b", "v1"⟩]⟩⟩
        (fun _ _ _ => some [()]) false ()) s ∧
      holdsOpt s.tasks[0]? = true ∧ holdsOpt s.tasks[1]? = false ∧ (0 : Nat) = 0 := by
  have hRun : Reachable (getJobInfosByFilter ⟨"", ⟨[⟨"a", "http://a", "v1"⟩,
        ⟨"b", "http://b", "v1"⟩]⟩⟩ (fun _ _ _ => some [()]) false ()).step
      (jobInfosStart ⟨"", ⟨[⟨"a", "http://a", "v1"⟩, ⟨"b", "http://b", "v1"⟩]⟩⟩
        (fun _ _ _ => some [()]) false ())
      ⟨.spawn 2, 2, [.running (.read [()]), .running (.lock [()])], ⟨some 0, []⟩⟩ :=
    ⟨[.main, .main, .task 0, .task 1, .task 0], by decide⟩
  exact ⟨_, hRun, rfl, rfl, getJobInfosByFilter_mutual_exclusion _ _ _ _ _ hRun 0 0 rfl rfl⟩

/-- In every interleaving, `jip`'s WaitGroup counter is above zero whenever a `Done` can come:
while the loop has a cluster left, whose `jip.Done()` of line 75 may follow, and while a goroutine
has yet to reach its `ji.Done()` of line 65. So the counter never goes negative, where Go
panics. -/
theorem getJobInfosByFilter_done_counter_pos (i : Inception)
    (getJobs : Nat → String → String → Option (List α)) (filtered : Bool) (filter : α)
    (s : FanOutState (JobInfoTask α) (JobInfos α))
    (h : Reachable (getJobInfosByFilter i getJobs filtered filter).step
      (jobInfosStart i getJobs filtered filter) s) :
    (∀ k, s.main = .spawn k → k < i.config.cluster.length → 0 < s.counter) ∧
      ∀ (k : Nat) (t : JobInfoTask α), s.tasks[k]? = some (.running t) → 0 < s.counter :=
  (FanOut.Counted.of_reachable h).counter_pos

/-- One peer, whose goroutine the loop has started: the counter is `1`. -/
theorem getJobInfosByFilter_done_counter_pos_one_peer :
    Reachable (getJobInfosByFilter ⟨"", ⟨[⟨"a", "http://a", "v1"⟩]⟩⟩
        (fun _ _ _ => some [()]) false ()).step
      (jobInfosStart ⟨"", ⟨[⟨"a", "http://a", "v1"⟩]⟩⟩ (fun _ _ _ => some [()]) false ())
      ⟨.spawn 1, 1, [.running (.request "http://a/v1")], ⟨none, []⟩⟩ ∧ 0 < 1 := by
  have hRun : Reachable (getJobInfosByFilter ⟨"", ⟨[⟨"a", "http://a", "v1"⟩]⟩⟩
      (fun _ _ _ => some [()]) false ()).step
      (jobInfosStart ⟨"", ⟨[⟨"a", "http://a", "v1"⟩]⟩⟩ (fun _ _ _ => some [()]) false ())
      ⟨.spawn 1, 1, [.running (.request "http://a/v1")], ⟨none, []⟩⟩ := ⟨[.main], by decide⟩
  exact ⟨hRun, (getJobInfosByFilter_done_counter_pos _ _ _ _ _ hRun).2 0 _ rfl⟩

/-- A step of `requestJobInfos` leaves `jobinfos` as it is, but for the write of line 62. -/
theorem requestJobInfos_jobinfos {k : Nat} {t : JobInfoTask α} {d d' : JobInfos α}
    {t' : Option (JobInfoTask α)} (h : requestJobInfos getJobs k t d = some (t', d')) :
    d'.jobinfos = d.jobinfos ∨ ∃ jis old, t = .write jis old ∧ d'.jobinfos = old ++ jis := by
  cases t <;> simp only [requestJobInfos] at h <;> (try split at h) <;> cases h
  case write => exact .inr ⟨_, _, rfl, rfl⟩
  all_goals exact .inl rfl

/-- One step, from a state that keeps `Appended`, only adds to the end of `jobinfos`: the write
of `append(old, jis...)` puts back the `jobinfos` it read, with the answer after it. -/
theorem Appended.jobinfos_prefix_of_moves {i : Inception} {filtered : Bool} {filter : α}
    {a : Actor} {s s' : FanOutState (JobInfoTask α) (JobInfos α)}
    (h : Appended getJobs (fun j => s.tasks[j]?) s.shared)
    (hm : (getJobInfosByFilter i getJobs filtered filter).Moves a s s') :
    s.shared.jobinfos <+: s'.shared.jobinfos := by
  have hPrefix : ∀ {k t t' d}, s.tasks[k]? = some (.running t) →
      requestJobInfos getJobs k t s.shared = some (t', d) → s.shared.jobinfos <+: d.jobinfos :=
    fun hTask hMove => by
      rcases requestJobInfos_jobinfos hMove with hd | ⟨jis, old, rfl, hd⟩
      · exact hd ▸ List.prefix_refl _
      · rw [hd, ← h.fresh _ jis old hTask]
        exact List.prefix_append _ _
  cases hm with
  | work hTask hMove => exact hPrefix hTask hMove
  | done hTask hMove => exact hPrefix hTask hMove
  | _ => exact List.prefix_refl _

/-- No update of `jip.jobinfos` is ever lost: from any state an interleaving reaches, every
continuation of the run keeps what `jobinfos` holds there as its beginning. -/
theorem getJobInfosByFilter_jobinfos_grow (i : Inception)
    (getJobs : Nat → String → String → Option (List α)) (filtered : Bool) (filter : α)
    (s s' : FanOutState (JobInfoTask α) (JobInfos α))
    (h : Reachable (getJobInfosByFilter i getJobs filtered filter).step
      (jobInfosStart i getJobs filtered filter) s) (acts : List Actor)
    (hRun : runSchedule (getJobInfosByFilter i getJobs filtered filter).step s acts = some s') :
    s.shared.jobinfos <+: s'.shared.jobinfos := by
  induction acts generalizing s with
  | nil => cases hRun; exact List.prefix_refl _
  | cons a acts ih =>
      simp only [runSchedule_cons] at hRun
      cases hStep : (getJobInfosByFilter i getJobs filtered filter).step a s with
      | none => rw [hStep] at hRun; cases hRun
      | some next =>
          rw [hStep] at hRun
          exact ((Appended.of_reachable h).jobinfos_prefix_of_moves
            (FanOut.moves_of_step hStep)).trans (ih next (h.tail hStep) hRun)

/-- Two peers, after the first goroutine's append: the second goroutine's append keeps the `[0]`
the first wrote as the start of `jobinfos`. -/
theorem getJobInfosByFilter_jobinfos_grow_two_peers :
    Reachable (getJobInfosByFilter ⟨"", ⟨[⟨"a", "http://a", "v1"⟩, ⟨"b", "http://b", "v1"⟩]⟩⟩
        (fun k _ _ => some [k]) false 0).step
      (jobInfosStart ⟨"", ⟨[⟨"a", "http://a", "v1"⟩, ⟨"b", "http://b", "v1"⟩]⟩⟩
        (fun k _ _ => some [k]) false 0)
      ⟨.wait, 2, [.running .unlock, .running (.request "http://b/v1")], ⟨some 0, [0]⟩⟩ ∧
    runSchedule (getJobInfosByFilter ⟨"", ⟨[⟨"a", "http://a", "v1"⟩,
        ⟨"b", "http://b", "v1"⟩]⟩⟩ (fun k _ _ => some [k]) false 0).step
      ⟨.wait, 2, [.running .unlock, .running (.request "http://b/v1")], ⟨some 0, [0]⟩⟩
      [.task 0, .task 1, .task 1, .task 1, .task 1] =
        some ⟨.wait, 2, [.running .done, .running .unlock], ⟨some 1, [0, 1]⟩⟩ ∧
    ([0] : List Nat) <+: [0, 1] := by
  have hReach : Reachable (getJobInfosByFilter ⟨"", ⟨[⟨"a", "http://a", "v1"⟩,
        ⟨"b", "http://b", "v1"⟩]⟩⟩ (fun k _ _ => some [k]) false 0).step
      (jobInfosStart ⟨"", ⟨[⟨"a", "http://a", "v1"⟩, ⟨"b", "http://b", "v1"⟩]⟩⟩
        (fun k _ _ => some [k]) false 0)
      ⟨.wait, 2, [.running .unlock, .running (.request "http://b/v1")], ⟨some 0, [0]⟩⟩ :=
    ⟨[.main, .main, .main, .task 0, .task 0, .task 0, .task 0], by decide⟩
  have hRun : runSchedule (getJobInfosByFilter ⟨"", ⟨[⟨"a", "http://a", "v1"⟩,
        ⟨"b", "http://b", "v1"⟩]⟩⟩ (fun k _ _ => some [k]) false 0).step
      ⟨.wait, 2, [.running .unlock, .running (.request "http://b/v1")], ⟨some 0, [0]⟩⟩
      [.task 0, .task 1, .task 1, .task 1, .task 1] =
        some ⟨.wait, 2, [.running .done, .running .unlock], ⟨some 1, [0, 1]⟩⟩ := by decide
  exact ⟨hReach, hRun, getJobInfosByFilter_jobinfos_grow _ _ _ _ _ _ hReach _ hRun⟩

end Ubercluster.Proxy
