import Ubercluster.Proxy.JobInfos
import Ubercluster.Go.Runtime

/-! `GetAllMachines`, `GetAllQueues` and `GetAllCategories` of the inception proxy (part_003,
lines 132-208), and what the filter arguments of the read-aggregations decide. Unlike
`GetJobInfosByFilter` the listings ask their peers one after the other. No aggregation reads
its filter: each asks every peer for `"all"`, and the listings mark the filtering as a
`TODO`. -/
namespace Ubercluster.Proxy

open Go

variable {β : Type}

/-- Not in the source: the `types` package is missing. `types.Queue` is modelled on
`drmaa2.Queue` (part_000, lines 816-821), whose only field besides an extension is `Name`. -/
structure Queue where
  name : String
  deriving DecidableEq

/-- Not in the source, as `Queue`: `types.Machine` modelled on `drmaa2.Machine` (part_000,
lines 824-...), of which only the `Name` is kept; no modelled function reads a field. -/
structure Machine where
  name : String
  deriving DecidableEq

/-- The loop of `GetAllMachines` (lines 134-152), `GetAllQueues` (lines 162-180) and
`GetAllCategories` (lines 194-206) from the clusters `cs` on, with what was appended so far.
`GetClusterAddress`, not in the source, is the parameter `getClusterAddress`; a name it cannot
resolve ends in `log.Panicln(err.Error())`, which panics with the message and a newline. A
peer whose request fails is logged and left out. -/
def getAllFrom (i : Inception) (getClusterAddress : String → Except String String)
    (get : String → String → Except String (List β)) (acc : List β) :
    List ClusterConfig → Except GoPanic (List β)
  | [] => pure acc
  | c :: cs =>
      if isOwnAddress i c then getAllFrom i getClusterAddress get acc cs
      else
        match getClusterAddress c.name with
        | .error e => throw ⟨e ++ "\n"⟩
        | .ok address =>
            match get address "all" with
            | .ok xs => getAllFrom i getClusterAddress get (acc ++ xs) cs
            | .error _ => getAllFrom i getClusterAddress get acc cs

/-- `GetAllMachines(machines)` (lines 132-155), the peers answering `GetMachines` with
`getMachines`. `machines` is never read; `none` is Go's `nil`. -/
def getAllMachines (i : Inception) (getClusterAddress : String → Except String String)
    (getMachines : String → String → Except String (List Machine))
    (_machines : Option (List String)) : Except GoPanic (List Machine) :=
  getAllFrom i getClusterAddress getMachines [] i.config.cluster

/-- `GetAllQueues(queues)` (lines 157-183), the peers answering `GetQueues` with `getQueues`.
`queues` is never read. -/
def getAllQueues (i : Inception) (getClusterAddress : String → Except String String)
    (getQueues : String → String → Except String (List Queue))
    (_queues : Option (List String)) : Except GoPanic (List Queue) :=
  getAllFrom i getClusterAddress getQueues [] i.config.cluster

/-- `GetAllCategories()` (lines 192-208), the peers answering `GetJobCategories` with
`getJobCategories`. Its request has no error, so every resolved peer's answer is appended. -/
def getAllCategories (i : Inception) (getClusterAddress : String → Except String String)
    (getJobCategories : String → String → String → List String) : Except GoPanic (List String) :=
  getAllFrom i getClusterAddress
    (fun address state => .ok (getJobCategories address "ubercluster" state)) [] i.config.cluster

/-- What a cluster adds to a listing: its peer's answer for `"all"`, when its name resolves
and the peer answers. -/
def reported (getClusterAddress : String → Except String String)
    (get : String → String → Except String (List β)) (c : ClusterConfig) : List β :=
  match getClusterAddress c.name with
  | .ok address =>
      match get address "all" with
      | .ok xs => xs
      | .error _ => []
  | .error _ => []

/-- The panic a listing ends in: that of the first cluster, other than the proxy itself, whose
name `GetClusterAddress` cannot resolve; none when every such name resolves. -/
def unresolvedPanic (i : Inception) (getClusterAddress : String → Except String String) :
    Option GoPanic :=
  match i.config.cluster.find? (fun c => !isOwnAddress i c && !(getClusterAddress c.name).isOk) with
  | some c =>
      match getClusterAddress c.name with
      | .error e => some ⟨e ++ "\n"⟩
      | .ok _ => none
  | none => none

section Listing

variable {i : Inception} {getClusterAddress : String → Except String String}
  {get : String → String → Except String (List β)}

/-- When every cluster that is not the proxy itself resolves, the loop returns what those
clusters report, in the order of the configuration. -/
theorem getAllFrom_of_resolved {cs : List ClusterConfig}
    (h : ∀ c ∈ cs, isOwnAddress i c = false → ∃ a, getClusterAddress c.name = .ok a)
    (acc : List β) : getAllFrom i getClusterAddress get acc cs =
      .ok (acc ++
        (cs.filter fun c => !isOwnAddress i c).flatMap (reported getClusterAddress get)) := by
  induction cs generalizing acc with
  | nil => simp [getAllFrom, pure, Except.pure]
  | cons c cs ih =>
      have hTail := fun c hc => h c (List.mem_cons_of_mem _ hc)
      by_cases hc : isOwnAddress i c
      · rw [getAllFrom, if_pos hc, ih hTail]
        simp [hc]
      · obtain ⟨a, ha⟩ := h c (List.mem_cons_self _ _) (by simpa using hc)
        rw [getAllFrom, if_neg hc, ha]
        cases hg : get a "all" <;>
          simp only [ih hTail] <;> simp [hc, reported, ha, hg]

/-- A listing fails exactly when some cluster that is not the proxy itself has a name
`GetClusterAddress` cannot resolve, and it panics with the error of the first such cluster: the
loop stops there, and what the peers before it answered is lost. -/
theorem getAllFrom_eq_error_iff {acc : List β} {cs : List ClusterConfig} {p : GoPanic} :
    getAllFrom i getClusterAddress get acc cs = .error p ↔
      ∃ c e, cs.find? (fun c => !isOwnAddress i c && !(getClusterAddress c.name).isOk) = some c ∧
        getClusterAddress c.name = .error e ∧ p = ⟨e ++ "\n"⟩ := by
  induction cs generalizing acc with
  | nil => simp [getAllFrom, pure, Except.pure]
  | cons c cs ih =>
      rw [getAllFrom, List.find?_cons]
      by_cases hOwn : isOwnAddress i c
      · simp only [hOwn, if_true, Bool.not_true, Bool.false_and]
        exact ih
      · simp only [hOwn, Bool.false_eq_true, if_false, Bool.not_false, Bool.true_and]
        cases hAddr : getClusterAddress c.name with
        | error e =>
            simp [hAddr, Except.isOk, Except.toBool, throw, throwThe, MonadExceptOf.throw, eq_comm]
        | ok a =>
            simp only [Except.isOk, Except.toBool, Bool.not_true]
            cases get a "all" <;> exact ih

theorem getAllFrom_eq_error_iff_unresolved {acc : List β} {p : GoPanic} :
    getAllFrom i getClusterAddress get acc i.config.cluster = .error p ↔
      unresolvedPanic i getClusterAddress = some p := by
  rw [getAllFrom_eq_error_iff, unresolvedPanic]
  split
  · rename_i c hFind
    cases hAddr : getClusterAddress c.name <;> simp [hFind, hAddr, eq_comm]
  · rename_i hFind
    simp [hFind]

end Listing

/-- Each listing fails exactly when some cluster other than the proxy itself has a name
`GetClusterAddress` cannot resolve, and it panics with the error of the first such cluster. What
the peers answer plays no part: a peer's failure never fails a listing. -/
theorem getAllListings_eq_error_iff (i : Inception)
    (getClusterAddress : String → Except String String)
    (getMachines : String → String → Except String (List Machine)) (machines : Option (List String))
    (getQueues : String → String → Except String (List Queue)) (queues : Option (List String))
    (getJobCategories : String → String → String → List String) (p : GoPanic) :
    (getAllMachines i getClusterAddress getMachines machines = .error p ↔
        unresolvedPanic i getClusterAddress = some p) ∧
      (getAllQueues i getClusterAddress getQueues queues = .error p ↔
        unresolvedPanic i getClusterAddress = some p) ∧
      (getAllCategories i getClusterAddress getJobCategories = .error p ↔
        unresolvedPanic i getClusterAddress = some p) :=
  ⟨getAllFrom_eq_error_iff_unresolved, getAllFrom_eq_error_iff_unresolved,
    getAllFrom_eq_error_iff_unresolved⟩

/-- Modelled from the spec: `types.JobInfo` is not in the source. The fields are those the
spec's job filter names, each unset when empty. -/
structure JobInfo where
  id : String
  state : String
  jobOwner : String
  deriving DecidableEq

/-- The spec's job filter: "a Job matches if every set filter field equals the corresponding
live JobInfo field; an all-unset filter matches everything". -/
def JobInfo.matches (filter ji : JobInfo) : Bool :=
  (filter.id == "" || filter.id == ji.id) && (filter.state == "" || filter.state == ji.state) &&
    (filter.jobOwner == "" || filter.jobOwner == ji.jobOwner)

variable {α : Type}

/-- No read-aggregation applies its filter. Once `GetJobInfosByFilter(filtered, filter)` has
returned, a job info is in its result exactly when a peer it asks reported it for `"all"`; the
listings return what each peer they ask reported, in the order of the configuration, whatever
the names, when `GetClusterAddress` resolves every cluster they ask. -/
theorem readAggregations_ignore_filter (i : Inception)
    (getJobs : Nat → String → String → Option (List α)) (filtered : Bool) (filter : α)
    (s : FanOutState (JobInfoTask α) (JobInfos α))
    (h : Reachable (getJobInfosByFilter i getJobs filtered filter).step
      (jobInfosStart i getJobs filtered filter) s)
    (hRet : s.main = .returned) (getClusterAddress : String → Except String String)
    (hAddr : ∀ c ∈ i.config.cluster, isOwnAddress i c = false →
      ∃ a, getClusterAddress c.name = .ok a)
    (getQueues : String → String → Except String (List Queue)) (queues : Option (List String))
    (getMachines : String → String → Except String (List Machine))
    (machines : Option (List String)) :
    (∀ ji, ji ∈ s.shared.jobinfos ↔ ∃ k ∈ askedClusters i, ji ∈ (getJobs k "all" "").getD []) ∧
      getAllQueues i getClusterAddress getQueues queues =
        .ok ((i.config.cluster.filter fun c => !isOwnAddress i c).flatMap
          (reported getClusterAddress getQueues)) ∧
      getAllMachines i getClusterAddress getMachines machines =
        .ok ((i.config.cluster.filter fun c => !isOwnAddress i c).flatMap
          (reported getClusterAddress getMachines)) := by
  obtain ⟨order, hPerm, hEq⟩ := jobinfos_of_returned h hRet
  refine ⟨fun ji => ?_, getAllFrom_of_resolved hAddr [], getAllFrom_of_resolved hAddr []⟩
  simp only [hEq, List.mem_flatten, List.mem_map, hPerm.mem_iff, exists_exists_and_eq_and]

/-- One peer, at "http://a", which reports job "2" of alice, the queue "all.q" and the machine
"node1": filtered on job "1", `GetJobInfosByFilter` returns job "2", which the filter does not
match; and asked only for the queue or machine "x", the listings return "all.q" and "node1". -/
theorem readAggregations_return_unmatched :
    (∃ s, Reachable (getJobInfosByFilter ⟨"", ⟨[⟨"a", "http://a", "v1"⟩]⟩⟩
          (fun _ _ _ => some [JobInfo.mk "2" "Running" "alice"]) true (JobInfo.mk "1" "" "")).step
        (jobInfosStart ⟨"", ⟨[⟨"a", "http://a", "v1"⟩]⟩⟩
          (fun _ _ _ => some [JobInfo.mk "2" "Running" "alice"]) true (JobInfo.mk "1" "" "")) s ∧
      s.main = .returned ∧
        ∃ ji ∈ s.shared.jobinfos, (JobInfo.mk "1" "" "").matches ji = false) ∧
    getAllQueues ⟨"", ⟨[⟨"a", "http://a", "v1"⟩]⟩⟩ (fun _ => .ok "http://a/v1")
        (fun _ _ => .ok [⟨"all.q"⟩]) (some ["x"]) = .ok [⟨"all.q"⟩] ∧
    getAllMachines ⟨"", ⟨[⟨"a", "http://a", "v1"⟩]⟩⟩ (fun _ => .ok "http://a/v1")
        (fun _ _ => .ok [⟨"node1"⟩]) (some ["x"]) = .ok [⟨"node1"⟩] := by
  have hRun : Reachable (getJobInfosByFilter ⟨"", ⟨[⟨"a", "http://a", "v1"⟩]⟩⟩
        (fun _ _ _ => some [JobInfo.mk "2" "Running" "alice"]) true (JobInfo.mk "1" "" "")).step
      (jobInfosStart ⟨"", ⟨[⟨"a", "http://a", "v1"⟩]⟩⟩
        (fun _ _ _ => some [JobInfo.mk "2" "Running" "alice"]) true (JobInfo.mk "1" "" ""))
      ⟨.returned, 0, [.finished], ⟨none, [JobInfo.mk "2" "Running" "alice"]⟩⟩ :=
    ⟨[.main, .main, .task 0, .task 0, .task 0, .task 0, .task 0, .task 0, .main], by decide⟩
  obtain ⟨hJobs, hQueues, hMachines⟩ := readAggregations_ignore_filter _ _ _ _ _ hRun rfl
    (fun _ => .ok "http://a/v1") (fun _ _ _ => ⟨_, rfl⟩) (fun _ _ => .ok [⟨"all.q"⟩])
    (some ["x"]) (fun _ _ => .ok [⟨"node1"⟩]) (some ["x"])
  refine ⟨⟨_, hRun, rfl, _, (hJobs _).2 ⟨0, by decide, List.mem_singleton_self _⟩, by decide⟩,
    hQueues.trans rfl, hMachines.trans rfl⟩

end Ubercluster.Proxy
