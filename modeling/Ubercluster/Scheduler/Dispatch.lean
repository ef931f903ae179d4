import Ubercluster.Scheduler.Selection

/-! `MakeNewScheduler` (cmd/uc/scheduler.go, lines 54-78) and the `Scheduler` interface it fills,
on the loads `getAllLoadValues` leaves. Every slot of those loads is zero, so none of the three
schedulers selects by load: each picks by its draw, or the first cluster. -/
namespace Ubercluster.Scheduler

open Go

/-- `ProbabilisticSchedulerType`: `SchedulerType` is an `int`, and `iota` names `0`, `1`, `2`. -/
def probabilisticSchedulerType : Int := 0

/-- `RandomSchedulerType`. -/
def randomSchedulerType : Int := 1

/-- `LoadBasedSchedulerType`. -/
def loadBasedSchedulerType : Int := 2

/-- A value of the `Scheduler` interface (lines 36-38), as `SchedulerImpl` holds it. -/
inductive Impl where
  | prob (ps : ProbSched)
  | random (rs : RandomSched)
  | loadBased (lbs : LoadBasedSched)

/-- `SchedulerImpl` (lines 48-50); `none` is the nil interface. -/
structure SchedulerImpl where
  impl : Option Impl

/-- `MakeNewScheduler(st, config, client)`. The seeding of `rand` is not modelled, the draws being
arguments; a type the switch does not name leaves `Impl` nil. -/
def makeNewScheduler (st : Int) (config : Config) : SchedulerImpl :=
  if st = probabilisticSchedulerType then ⟨some (.prob ⟨config⟩)⟩
  else if st = randomSchedulerType then ⟨some (.random ⟨config⟩)⟩
  else if st = loadBasedSchedulerType then ⟨some (.loadBased ⟨config⟩)⟩
  else ⟨none⟩

/-- `s.Impl.SelectCluster()` on the loads `getAllLoadValues` returned, with the draw `r63` of
`rand.Int63n` and `r` of `rand.Intn`. A nil `Impl` panics. -/
def SchedulerImpl.selectCluster {V : Type} [LinearOrder V] (weight : V → Int) (top : V)
    (s : SchedulerImpl) (loads : List V) (r63 : Int) (r : Nat) : Except GoPanic String :=
  match s.impl with
  | some (.prob ps) => ps.selectCluster weight loads r63
  | some (.random rs) => rs.selectCluster r
  | some (.loadBased lbs) => lbs.selectCluster top loads
  | none => throw ⟨"runtime error: invalid memory address or nil pointer dereference"⟩

variable {V : Type} [LinearOrder V] [Zero V]

/-- Whatever scheduler `MakeNewScheduler` builds, its `SelectCluster` on the loads of any
interleaving of `getAllLoadValues` ignores what the clusters report. With at least one cluster
and draws in the ranges `rand` gives, the probabilistic scheduler selects the cluster
`r63 / 10000` of its draw `r63`, the random one the cluster `r` of its draw, and the load-based
one the first cluster; a type the switch does not name leaves `Impl` nil, and the call panics.
The weight of the load `0` is `int64((1.0 - 0) * 10000) = 10000` (line 117). -/
theorem makeNewScheduler_selectCluster_ignores_loads (weight : V → Int)
    (hWeight : weight 0 = 10000) (top : V) (hTop : (0 : V) < top) (st : Int) (conf : Config)
    (fetch : Nat → LoadFetch V) (s : FanOutState (LoadTask V) (List V))
    (h : Reachable (getAllLoadValues conf fetch).step (loadValuesStart conf fetch) s)
    (hn : 0 < conf.cluster.length) (hTotal : (conf.cluster.length : Int) * 10000 < 2 ^ 63)
    (r63 : Int) (hr63 : 0 ≤ r63 ∧ r63 < conf.cluster.length * 10000 - 1) (r : Nat)
    (hr : r < conf.cluster.length) :
    (makeNewScheduler st conf).selectCluster weight top s.shared r63 r =
      if st = probabilisticSchedulerType then
        .ok ((conf.cluster.map ClusterConfig.name).getD (r63 / 10000).toNat "")
      else if st = randomSchedulerType then .ok ((conf.cluster.map ClusterConfig.name).getD r "")
      else if st = loadBasedSchedulerType then .ok ((conf.cluster.map ClusterConfig.name).getD 0 "")
      else .error ⟨"runtime error: invalid memory address or nil pointer dereference"⟩ := by
  have hName : ∀ k, k < conf.cluster.length → ∀ x : Except GoPanic String,
      (match conf.cluster[k]? with
        | some c => pure c.name
        | none => x) = Except.ok ((conf.cluster.map ClusterConfig.name).getD k "") :=
    fun k hk _ => by simp [List.getElem?_eq_getElem hk, pure, Except.pure]
  have hSel : probabilisticSelection weight s.shared r63 = .ok (r63 / 10000) := by
    rw [loadValues_zero h]
    exact probabilisticSelection_replicate weight hWeight (by norm_num) (by omega) hTotal hr63.1
      hr63.2
  unfold makeNewScheduler
  split_ifs
  · simp only [SchedulerImpl.selectCluster, ProbSched.selectCluster, hSel, bind, Except.bind,
      if_pos (by omega : r63 / 10000 ≥ 0)]
    exact hName _ (by omega) _
  · simp only [SchedulerImpl.selectCluster, RandomSched.selectCluster,
      if_neg (by omega : ¬conf.cluster.length ≤ 0)]
    exact hName r hr _
  · simp only [SchedulerImpl.selectCluster, LoadBasedSched.selectCluster, loadValues_zero h,
      minLoad_replicate hTop]
    exact hName 0 hn _
  · rfl

/-- Two clusters, "a" fully loaded and "b" idle: once `getAllLoadValues` has returned, the
probabilistic scheduler with the draw `3` still selects "a", the cluster `3 / 10000 = 0`. -/
theorem makeNewScheduler_selectCluster_ignores_loads_busy_first :
    ∃ s, Reachable (getAllLoadValues ⟨[⟨"a", "http://a", "v1"⟩, ⟨"b", "http://b", "v1"⟩]⟩
        fun k => (.decoded (if k = 0 then 1 else 0) : LoadFetch Nat)).step
      (loadValuesStart ⟨[⟨"a", "http://a", "v1"⟩, ⟨"b", "http://b", "v1"⟩]⟩
        fun k => .decoded (if k = 0 then 1 else 0)) s ∧ s.main = .returned ∧
      (makeNewScheduler probabilisticSchedulerType
          ⟨[⟨"a", "http://a", "v1"⟩, ⟨"b", "http://b", "v1"⟩]⟩).selectCluster
        (fun v : Nat => 10000 - 10000 * (v : Int)) 2 s.shared 3 1 = .ok "a" := by
  have hRun : Reachable (getAllLoadValues ⟨[⟨"a", "http://a", "v1"⟩, ⟨"b", "http://b", "v1"⟩]⟩
      fun k => (.decoded (if k = 0 then 1 else 0) : LoadFetch Nat)).step
      (loadValuesStart ⟨[⟨"a", "http://a", "v1"⟩, ⟨"b", "http://b", "v1"⟩]⟩
        fun k => .decoded (if k = 0 then 1 else 0))
      ⟨.returned, 0, [.finished, .finished], [0, 0]⟩ :=
    ⟨[.main, .main, .main, .task 0, .task 0, .task 0, .task 1, .task 1, .task 1, .main],
      by decide⟩
  exact ⟨_, hRun, rfl, (makeNewScheduler_selectCluster_ignores_loads
    (fun v : Nat => 10000 - 10000 * (v : Int)) (by decide) 2 (by decide) probabilisticSchedulerType _ _ _
    hRun (by decide) (by decide) 3 ⟨by decide, by decide⟩ 1 (by decide)).trans rfl⟩

end Ubercluster.Scheduler
