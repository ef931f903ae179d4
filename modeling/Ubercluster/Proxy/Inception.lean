import Ubercluster.Proxy.JobInfos
import Ubercluster.Scheduler.LoadValues
import Mathlib.Data.String.Basic
import Mathlib.Data.List.Basic

/-! How the inception proxy (part_003) is built and how it addresses its peers: the
self-reference guard of its fan-out, the versioned root each component builds for a cluster,
and the routing of `GetJobInfo` by the `@` in a job id. -/
namespace Ubercluster.Proxy

open Go

variable {α : Type}

/-- `NewInception(certFile, keyFile, otp, config)` (lines 38-43). The certificate, key and
one-time password only configure the `request` client; `inceptionAddress` is never set. -/
def newInception (_certFile _keyFile _otp : String) (config : Config) : Inception :=
  { inceptionAddress := "", config := config }

/-- `inceptionMode(certFile, keyFile, otp, address)` (lines 231-240): the inception it serves
with `proxy.ProxyListenAndServe` is `NewInception`'s over the global `config`. The listen
address only tells the server where to listen; the inception never learns it. -/
def inceptionMode (certFile keyFile otp _address : String) (config : Config) : Inception :=
  newInception certFile keyFile otp config

/-- The guard of `NewInception`'s inception never fires: it compares each address, with a `/`
appended, with the empty `inceptionAddress`. -/
theorem isOwnAddress_newInception (certFile keyFile otp : String) (config : Config)
    (c : ClusterConfig) : isOwnAddress (newInception certFile keyFile otp config) c = false := by
  have hLen : (c.address ++ "/").length ≠ "".length := by
    simp [String.length_append, show "/".length = 1 from rfl]
  simpa [isOwnAddress, newInception] using fun h => hLen (congrArg String.length h)

theorem getD_map_of_getElem? {β γ : Type} {l : List β} {k : Nat} {b : β} (f : β → γ) (d : γ)
    (h : l[k]? = some b) : (l.map f).getD k d = f b := by
  simp [List.getD_eq_getElem?_getD, h]

/-- The proxy that `inceptionMode` serves on `a` sends the goroutine of a configured cluster at
`a` its `GetJobs` request to `a/v1`: some interleaving reaches that request, and every run
that returns has run that goroutine to its end. -/
theorem inceptionMode_requests_itself (certFile keyFile otp a : String) (conf : Config)
    (getJobs : Nat → String → String → Option (List α)) (filtered : Bool) (filter : α)
    {k : Nat} {c : ClusterConfig} (hk : conf.cluster[k]? = some c) (hAddr : c.address = a) :
    let i := inceptionMode certFile keyFile otp a conf
    (∃ s, Reachable (getJobInfosByFilter i getJobs filtered filter).step
        (jobInfosStart i getJobs filtered filter) s ∧
        s.tasks[k]? = some (.running (.request (a ++ "/v1")))) ∧
      ∀ s, Reachable (getJobInfosByFilter i getJobs filtered filter).step
        (jobInfosStart i getJobs filtered filter) s → s.main = .returned →
        s.tasks[k]? = some .finished := by
  intro i
  have hLt : k < (getJobInfosByFilter i getJobs filtered filter).items :=
    (List.getElem?_eq_some_iff.1 hk).1
  have hSkip : (getJobInfosByFilter i getJobs filtered filter).skip k = false :=
    (getD_map_of_getElem? _ _ hk).trans (isOwnAddress_newInception _ _ _ _ c)
  have hStart : (getJobInfosByFilter i getJobs filtered filter).start k = .request (a ++ "/v1") :=
    congrArg JobInfoTask.request (hAddr ▸ getD_map_of_getElem? _ _ hk)
  refine ⟨?_, fun s h hRet => ?_⟩
  · obtain ⟨s, hs, hTask⟩ := @FanOut.reachable_spawned _ _
      (getJobInfosByFilter i getJobs filtered filter) ⟨none, []⟩ k hLt
    exact ⟨s, hs, by simp [hTask, FanOut.spawned, hSkip, hStart]⟩
  · rw [FanOut.getElem?_tasks_of_returned h hRet, if_pos hLt, hSkip]
    rfl

theorem inceptionMode_requests_itself_on_8989 :
    (⟨[⟨"self", ":8989", "v1"⟩]⟩ : Config).cluster[0]? = some ⟨"self", ":8989", "v1"⟩ ∧
      ∃ s, Reachable (getJobInfosByFilter (inceptionMode "" "" "" ":8989" ⟨[⟨"self", ":8989", "v1"⟩]⟩)
          (fun _ _ _ => (none : Option (List Unit))) false ()).step
        (jobInfosStart (inceptionMode "" "" "" ":8989" ⟨[⟨"self", ":8989", "v1"⟩]⟩)
          (fun _ _ _ => none) false ()) s ∧
        s.tasks[0]? = some (.running (.request ":8989/v1")) :=
  ⟨rfl, (inceptionMode_requests_itself "" "" "" ":8989" ⟨[⟨"self", ":8989", "v1"⟩]⟩
    (fun _ _ _ => none) false () rfl rfl).1⟩

/-- `getJobFromCluster(i, clustername, jobid)` (lines 87-110), with `getJob request jobid` the
answer of `i.request.GetJob`, returning the requests it sends with its result. The empty
address stands for a cluster that the loop did not find. -/
def getJobFromCluster (getJob : String → String → Except String α) (i : Inception)
    (clustername jobid : String) : List (String × String) × Except String α :=
  let (address, version) :=
    match i.config.cluster.find? (·.name == clustername) with
    | some c => (c.address, c.protocolVersion)
    | none => ("", "v1")
  if address ≠ "" then ([(address ++ version, jobid)], getJob (address ++ version) jobid)
  else ([], .error ("Couldn't find clustername in config: " ++ clustername))

variable (getJob : String → String → Except String α) (i : Inception)

theorem append_v1_eq_iff (a v : String) : a ++ "/v1" = a ++ "/" ++ v ↔ v = "v1" := by
  rw [String.append_assoc, String.ext_iff, String.ext_iff, String.data_append,
    String.data_append, String.data_append, List.append_cancel_left_eq]
  exact ⟨fun h => (List.cons.inj h).2.symm, fun h => h ▸ rfl⟩

theorem append_ne_append_slash (a v : String) : a ++ v ≠ a ++ "/" ++ v := fun h => by
  have := congrArg String.length h
  simp only [String.length_append] at this
  exact absurd this (by simp [show "/".length = 1 from rfl])

/-- The three components that contact a configured cluster `c` build three roots from it: the
load fetch `Address/ProtocolVersion`, the fan-out `Address/v1` whatever `c`'s version, and the
lookup `Address` followed directly by `ProtocolVersion`, which is never the versioned root. -/
theorem cluster_roots_differ {V : Type} [Zero V] (fetch : Nat → Scheduler.LoadFetch V)
    (getJobs : Nat → String → String → Option (List α)) (filtered : Bool) (filter : α)
    (jobid : String) {k : Nat} {c : ClusterConfig} (hk : i.config.cluster[k]? = some c)
    (hFirst : i.config.cluster.find? (·.name == c.name) = some c) (hAddr : c.address ≠ "") :
    (Scheduler.getAllLoadValues i.config fetch).start k =
        .get (c.address ++ "/" ++ c.protocolVersion ++ "/drmsload") ∧
      ((getJobInfosByFilter i getJobs filtered filter).start k =
        .request (c.address ++ "/" ++ c.protocolVersion) ↔ c.protocolVersion = "v1") ∧
      (getJobFromCluster getJob i c.name jobid).1 = [(c.address ++ c.protocolVersion, jobid)] ∧
      c.address ++ c.protocolVersion ≠ c.address ++ "/" ++ c.protocolVersion := by
  refine ⟨congrArg Scheduler.LoadTask.get (getD_map_of_getElem? _ _ hk), ?_, ?_,
    append_ne_append_slash _ _⟩
  · rw [show (getJobInfosByFilter i getJobs filtered filter).start k =
      .request (c.address ++ "/v1") from congrArg JobInfoTask.request (getD_map_of_getElem? _ _ hk),
      JobInfoTask.request.injEq, append_v1_eq_iff]
  · simp [getJobFromCluster, hFirst, hAddr]

theorem cluster_roots_differ_v2 :
    let c : ClusterConfig := ⟨"c", "http://h:8282", "v2"⟩
    ((⟨"", ⟨[c]⟩⟩ : Inception).config.cluster[0]? = some c ∧
      (⟨"", ⟨[c]⟩⟩ : Inception).config.cluster.find? (·.name == c.name) = some c ∧
      c.address ≠ "") ∧
    (Scheduler.getAllLoadValues ⟨[c]⟩ (fun _ => (.requestFailed : Scheduler.LoadFetch Nat))).start 0 =
        .get "http://h:8282/v2/drmsload" ∧
      (getJobInfosByFilter ⟨"", ⟨[c]⟩⟩ (fun _ _ _ => (none : Option (List Unit))) false ()).start 0 ≠
        .request "http://h:8282/v2" ∧
      (getJobFromCluster (fun _ _ => (.error "" : Except String Unit)) ⟨"", ⟨[c]⟩⟩ "c" "42").1 =
        [("http://h:8282v2", "42")] := by
  intro c
  have h := cluster_roots_differ (fun _ _ => (.error "" : Except String Unit)) ⟨"", ⟨[c]⟩⟩
    (fun _ => (.requestFailed : Scheduler.LoadFetch Nat)) (fun _ _ _ => (none : Option (List Unit)))
    false () "42" (k := 0) rfl (by decide) (by decide)
  exact ⟨⟨rfl, by decide, by decide⟩, h.1, fun hEq => absurd (h.2.1.1 hEq) (by decide), h.2.2.1⟩

end Ubercluster.Proxy
