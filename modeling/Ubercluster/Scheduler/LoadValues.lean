import Ubercluster.Go.Progress
import Ubercluster.Config
import Mathlib

/-! `getAllLoadValues` of the scheduler (cmd/uc/scheduler.go): one `getClusterLoad` goroutine
per configured cluster, joined by the WaitGroup of `lv`, each writing its own slot of
`lv.load`. A load is a `float64` there; here it is any type with a zero. -/
namespace Ubercluster.Scheduler

open Go

variable {V : Type} [Zero V]

/-- What one cluster's request gives: it fails, or its body does not decode as a float, or
it decodes as `x`. -/
inductive LoadFetch (V : Type) where
  | requestFailed
  | decodeFailed
  | decoded (x : V)
  deriving DecidableEq

/-- Where a `getClusterLoad` goroutine is (lines 142-154). -/
inductive LoadTask (V : Type) where
  /-- Line 143: `http_helper.UberGet(client, *otp, request)`. -/
  | get (request : String)
  /-- Line 147: `decoder.Decode(&load)`. -/
  | decode
  /-- Line 148: `lv.load[index] = load`. -/
  | store (load : V)
  /-- Line 153: `lv.Done()`. -/
  | done
  deriving DecidableEq

/-- The request of lines 161-163: `fmt.Sprintf("%s/%s/drmsload", addr, ver)`. -/
def drmsloadRequest (c : ClusterConfig) : String :=
  c.address ++ "/" ++ c.protocolVersion ++ "/drmsload"

/-- One step of `getClusterLoad(lv, index, request, client)` for the cluster whose request
gives `fetch index`. The value is stored when `Decode` returns an error (line 147): `load`
then still holds its zero value. A decoded value only reaches the log. -/
def getClusterLoad (fetch : Nat → LoadFetch V) (index : Nat) :
    LoadTask V → List V → Option (Option (LoadTask V) × List V)
  | .get _, load =>
      match fetch index with
      | .requestFailed => some (some .done, load)
      | _ => some (some .decode, load)
  | .decode, load =>
      match fetch index with
      | .decoded _ => some (some .done, load)
      | _ => some (some (.store 0), load)
  | .store v, load => some (some .done, load.set index v)
  | .done, load => some (none, load)

/-- `getAllLoadValues(conf, client)` (lines 156-167): a goroutine for every cluster, none
skipped, over the shared `lv.load`. -/
def getAllLoadValues (conf : Config) (fetch : Nat → LoadFetch V) :
    FanOut (LoadTask V) (List V) :=
  ⟨conf.cluster.length, fun _ => false,
    fun i => .get ((conf.cluster.map drmsloadRequest).getD i ""), getClusterLoad fetch⟩

/-- The state of `getAllLoadValues` once `lv.load` is made and the WaitGroup is added to. -/
def loadValuesStart (conf : Config) (fetch : Nat → LoadFetch V) :
    FanOutState (LoadTask V) (List V) :=
  (getAllLoadValues conf fetch).init (List.replicate conf.cluster.length 0)

/-- The only value a goroutine goes on to store is the zero of a failed `Decode`. -/
theorem getClusterLoad_store {fetch : Nat → LoadFetch V} {index : Nat} {t : LoadTask V}
    {load d : List V} {v : V} (h : getClusterLoad fetch index t load = some (some (.store v), d)) :
    v = 0 := by
  cases t <;> simp only [getClusterLoad] at h <;> try split at h
  all_goals simp_all

/-- A step of `getClusterLoad` leaves `lv.load` as it is, or stores into the goroutine's slot. -/
theorem getClusterLoad_load {fetch : Nat → LoadFetch V} {index : Nat} {t : LoadTask V}
    {load d : List V} {t' : Option (LoadTask V)}
    (h : getClusterLoad fetch index t load = some (t', d)) :
    d = load ∨ ∃ v, t = .store v ∧ d = load.set index v := by
  cases t <;> simp only [getClusterLoad] at h <;> try split at h
  all_goals simp_all

/-- A step from slots that are all zero, by a goroutine that stores only zero, keeps them
zero. -/
theorem getClusterLoad_zero {fetch : Nat → LoadFetch V} {index n : Nat} {t : LoadTask V}
    {load d : List V} {t' : Option (LoadTask V)} (hLoad : load = List.replicate n 0)
    (hStore : ∀ v, t = .store v → v = 0) (h : getClusterLoad fetch index t load = some (t', d)) :
    d = List.replicate n 0 := by
  rcases getClusterLoad_load h with hd | ⟨v, rfl, hd⟩
  · rw [hd, hLoad]
  · rw [hd, hLoad, hStore v rfl, List.set_replicate_self]

/-- Every slot of `lv.load` holds zero, and so does every value a goroutine is about to
store. -/
def AllZero (n : Nat) (s : FanOutState (LoadTask V) (List V)) : Prop :=
  s.shared = List.replicate n 0 ∧
    ∀ (k : Nat) (v : V), s.tasks[k]? = some (.running (.store v)) → v = 0

/-- One step keeps `AllZero`: the only write stores the zero that a failed `Decode` left. -/
theorem AllZero.moves {conf : Config} {fetch : Nat → LoadFetch V} {a : Actor}
    {s s' : FanOutState (LoadTask V) (List V)} (h : AllZero conf.cluster.length s)
    (hm : (getAllLoadValues conf fetch).Moves a s s') : AllZero conf.cluster.length s' := by
  obtain ⟨hLoad, hStore⟩ := h
  cases hm with
  | skip _ _ hSkip => cases hSkip
  | spawn =>
      refine ⟨hLoad, fun k v hk => ?_⟩
      rcases getElem?_append_singleton hk with hk | ⟨-, hk⟩
      · exact hStore k v hk
      · cases hk
  | close => exact ⟨hLoad, hStore⟩
  | wake => exact ⟨hLoad, hStore⟩
  | work hTask hMove =>
      refine ⟨getClusterLoad_zero hLoad (fun v hv => hStore _ v (hv ▸ hTask)) hMove,
        fun k v hk => ?_⟩
      rcases getElem?_set_some hk with ⟨-, hk⟩ | ⟨-, hk⟩
      · cases hk
        exact getClusterLoad_store hMove
      · exact hStore k v hk
  | done hTask hMove =>
      refine ⟨getClusterLoad_zero hLoad (fun v hv => hStore _ v (hv ▸ hTask)) hMove,
        fun k v hk => ?_⟩
      rcases getElem?_set_some hk with ⟨-, hk⟩ | ⟨-, hk⟩
      · cases hk
      · exact hStore k v hk

/-- In every interleaving, every slot of `lv.load` is zero: no cluster's reported load is ever
stored, and a failed fetch leaves its slot at zero. -/
theorem loadValues_zero {conf : Config} {fetch : Nat → LoadFetch V}
    {s : FanOutState (LoadTask V) (List V)}
    (h : Reachable (getAllLoadValues conf fetch).step (loadValuesStart conf fetch) s) :
    s.shared = List.replicate conf.cluster.length 0 := by
  have hInv : AllZero conf.cluster.length s := Reachable.induction
    ⟨rfl, fun _ _ hk => by simp [loadValuesStart, FanOut.init] at hk⟩
    (fun _ _ _ hs hStep => hs.moves (FanOut.moves_of_step hStep)) h
  exact hInv.1

/-- Once its WaitGroup releases, `getAllLoadValues` has a goroutine that called `Done` for
every cluster and returns one slot per cluster; the slot of a cluster whose request or whose
decoding failed holds zero, not the full load `1.0`. -/
theorem getAllLoadValues_failed_slot_zero (conf : Config) (fetch : Nat → LoadFetch V)
    (s : FanOutState (LoadTask V) (List V))
    (h : Reachable (getAllLoadValues conf fetch).step (loadValuesStart conf fetch) s)
    (hRet : s.main = .returned) :
    (∀ k, k < conf.cluster.length → s.tasks[k]? = some .finished) ∧
      s.shared.length = conf.cluster.length ∧
      ∀ k, k < conf.cluster.length → fetch k = .requestFailed ∨ fetch k = .decodeFailed →
        s.shared[k]? = some 0 := by
  refine ⟨fun k hk => ?_, by simp [loadValues_zero h], fun k hk _ => ?_⟩
  · rw [FanOut.getElem?_tasks_of_returned h hRet,
      if_pos (show k < (getAllLoadValues conf fetch).items from hk)]
    rfl
  · simp [loadValues_zero h, hk]

/-- One cluster, whose request fails: the run that spawns its goroutine, lets it run and waits
returns, with the slot of that cluster `0`. -/
theorem getAllLoadValues_failed_slot_zero_one_cluster :
    ∃ s, Reachable (getAllLoadValues ⟨[⟨"c", "http://c", "v1"⟩]⟩
        fun _ => (.requestFailed : LoadFetch ℚ)).step
      (loadValuesStart ⟨[⟨"c", "http://c", "v1"⟩]⟩ fun _ => .requestFailed) s ∧
      s.main = .returned ∧ (∀ k, k < 1 → s.tasks[k]? = some .finished) ∧ s.shared.length = 1 ∧
      ∀ k, k < 1 → (LoadFetch.requestFailed : LoadFetch ℚ) = .requestFailed ∨
        (LoadFetch.requestFailed : LoadFetch ℚ) = .decodeFailed → s.shared[k]? = some 0 := by
  have hRun : Reachable (getAllLoadValues ⟨[⟨"c", "http://c", "v1"⟩]⟩
      fun _ => (.requestFailed : LoadFetch ℚ)).step
      (loadValuesStart ⟨[⟨"c", "http://c", "v1"⟩]⟩ fun _ => .requestFailed)
      ⟨.returned, 0, [.finished], [0]⟩ := ⟨[.main, .task 0, .task 0, .main, .main], by decide⟩
  exact ⟨_, hRun, rfl, getAllLoadValues_failed_slot_zero _ _ _ hRun rfl⟩

/-- One cluster, whose request fails: a run of `getAllLoadValues` returns `[0]`, not `[1]`. -/
theorem getAllLoadValues_request_failed :
    (runSchedule (getAllLoadValues ⟨[⟨"c", "http://c", "v1"⟩]⟩
          fun _ => (.requestFailed : LoadFetch ℚ)).step
        (loadValuesStart ⟨[⟨"c", "http://c", "v1"⟩]⟩ fun _ => (.requestFailed : LoadFetch ℚ))
        [.main, .task 0, .task 0, .main, .main]).map (fun s => (s.main, s.shared)) =
      some (.returned, [0]) ∧ (0 : ℚ) ≠ 1 :=
  ⟨by decide, by decide⟩


/-! ### Completion -/

namespace LoadTask

/-- The steps a goroutine has left before its `lv.Done()`. -/
def rank : LoadTask V → Nat
  | .get _ => 3
  | .decode => 2
  | .store _ => 1
  | .done => 0

end LoadTask

/-- A `getClusterLoad` goroutine never waits: it has a step wherever it is. -/
theorem getClusterLoad_isSome (fetch : Nat → LoadFetch V) (index : Nat) (t : LoadTask V)
    (load : List V) : ∃ r, getClusterLoad fetch index t load = some r := by
  cases t <;> simp only [getClusterLoad] <;> (try split) <;> exact ⟨_, rfl⟩

theorem rank_lt_of_getClusterLoad {fetch : Nat → LoadFetch V} {index : Nat} {t t' : LoadTask V}
    {load d : List V} (h : getClusterLoad fetch index t load = some (some t', d)) :
    t'.rank < t.rank := by
  cases t <;> simp only [getClusterLoad] at h <;> (try split at h) <;> cases h <;>
    simp [LoadTask.rank]

/-- No interleaving of `getAllLoadValues` deadlocks: a state some interleaving reaches, where
neither the function nor any goroutine can move, is one where the function has returned. -/
theorem getAllLoadValues_returned_of_stuck (conf : Config) (fetch : Nat → LoadFetch V)
    (s : FanOutState (LoadTask V) (List V))
    (h : Reachable (getAllLoadValues conf fetch).step (loadValuesStart conf fetch) s)
    (hStuck : ∀ a, (getAllLoadValues conf fetch).step a s = none) : s.main = .returned :=
  FanOut.returned_of_stuck (FanOut.Counted.of_reachable h)
    (fun ⟨k, t, hk⟩ => let ⟨r, hr⟩ := getClusterLoad_isSome fetch k t s.shared; ⟨k, t, r, hk, hr⟩)
    hStuck

/-- One cluster whose body decodes: once its goroutine has called `Done` and `lv.Wait()` has
returned, nothing can move. -/
theorem getAllLoadValues_returned_of_stuck_one_cluster :
    Reachable (getAllLoadValues ⟨[⟨"c", "http://c", "v1"⟩]⟩ fun _ => (.decoded 1 : LoadFetch ℚ)).step
      (loadValuesStart ⟨[⟨"c", "http://c", "v1"⟩]⟩ fun _ => .decoded 1)
      ⟨.returned, 0, [.finished], [0]⟩ ∧
    (∀ a, (getAllLoadValues ⟨[⟨"c", "http://c", "v1"⟩]⟩ fun _ => (.decoded 1 : LoadFetch ℚ)).step a
      ⟨.returned, 0, [.finished], [0]⟩ = none) ∧
    (⟨.returned, 0, [.finished], [0]⟩ : FanOutState (LoadTask ℚ) (List ℚ)).main = .returned := by
  have hRun : Reachable (getAllLoadValues ⟨[⟨"c", "http://c", "v1"⟩]⟩
      fun _ => (.decoded 1 : LoadFetch ℚ)).step
      (loadValuesStart ⟨[⟨"c", "http://c", "v1"⟩]⟩ fun _ => .decoded 1)
      ⟨.returned, 0, [.finished], [0]⟩ :=
    ⟨[.main, .main, .task 0, .task 0, .task 0, .main], by decide⟩
  have hStuck : ∀ a, (getAllLoadValues ⟨[⟨"c", "http://c", "v1"⟩]⟩
      fun _ => (.decoded 1 : LoadFetch ℚ)).step a ⟨.returned, 0, [.finished], [0]⟩ = none := by
    rintro (_ | _ | k) <;> simp [FanOut.step]
  exact ⟨hRun, hStuck, getAllLoadValues_returned_of_stuck _ _ _ hRun hStuck⟩

/-- Every interleaving of `getAllLoadValues` stops: whatever the clusters answer, no schedule
runs more than five steps a configured cluster and two more. -/
theorem getAllLoadValues_run_length_le (conf : Config) (fetch : Nat → LoadFetch V)
    (acts : List Actor) (s : FanOutState (LoadTask V) (List V))
    (h : runSchedule (getAllLoadValues conf fetch).step (loadValuesStart conf fetch) acts =
      some s) :
    acts.length ≤ 5 * conf.cluster.length + 2 := by
  have hItem : ∀ j, (getAllLoadValues conf fetch).itemCost LoadTask.rank j ≤ 5 := fun j => by
    simp [FanOut.itemCost, getAllLoadValues, LoadTask.rank]
  have hLe := FanOut.length_le_of_itemCost_le (fun _ _ _ _ _ => rank_lt_of_getClusterLoad) hItem h
  simpa [getAllLoadValues, Nat.mul_comm] using hLe

/-- The bound is met: one cluster whose body does not decode, and the run that lets its goroutine
store the zero and returns takes seven steps. -/
theorem getAllLoadValues_run_length_le_decode_failed :
    runSchedule (getAllLoadValues ⟨[⟨"c", "http://c", "v1"⟩]⟩
        fun _ => (.decodeFailed : LoadFetch ℚ)).step
      (loadValuesStart ⟨[⟨"c", "http://c", "v1"⟩]⟩ fun _ => .decodeFailed)
      [.main, .task 0, .task 0, .task 0, .task 0, .main, .main] =
        some ⟨.returned, 0, [.finished], [0]⟩ ∧
      [Actor.main, .task 0, .task 0, .task 0, .task 0, .main, .main].length =
        5 * [(⟨"c", "http://c", "v1"⟩ : ClusterConfig)].length + 2 :=
  ⟨by decide, (getAllLoadValues_run_length_le ⟨[⟨"c", "http://c", "v1"⟩]⟩
    (fun _ => (.decodeFailed : LoadFetch ℚ)) _ ⟨.returned, 0, [.finished], [0]⟩
    (by decide)).antisymm (by decide)⟩

end Ubercluster.Scheduler
