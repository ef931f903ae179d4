import Ubercluster.Go.Runtime
import Ubercluster.Scheduler.LoadValues
import Mathlib.Algebra.Order.BigOperators.Group.List

/-! `probabilisticSelection`, `minLoad` and the `SelectCluster` of the three schedulers
(cmd/uc/scheduler.go). A load reaches `probabilisticSelection` only through its weight
`int64((1.0 - v) * 10000)`; that float computation is the parameter `weight`. The draw of
`rand.Int63n` is an argument, and a selection's probability is the share of draws that make it.
The schedulers decide on the loads `getAllLoadValues` returns. -/
namespace Ubercluster.Scheduler

open Go

variable {Load : Type} (weight : Load → Int)

/-- Lines 115-121 after the first load: `likelyhood[k] = likelyhood[k-1] + w_k` in `int64`. -/
def likelyhoodFrom (prev : Int) : List Int → List Int
  | [] => []
  | w :: ws => int64 (prev + w) :: likelyhoodFrom (int64 (prev + w)) ws

/-- The cumulative likelihoods of lines 114-121, from the weights of the loads. -/
def likelyhood : List Int → List Int
  | [] => []
  | w :: ws => w :: likelyhoodFrom w ws

/-- Lines 128-133: the index of the first likelihood above the draw, counting from `k`, or
`-1` when there is none. -/
def firstAbove (selection : Int) : List Int → Nat → Int
  | [], _ => -1
  | v :: rest, k => if v > selection then k else firstAbove selection rest (k + 1)

/-- `probabilisticSelection(loads)` (lines 106-134) when `rand.Int63n` draws `r`. -/
def probabilisticSelection (loads : List Load) (r : Int) : Except GoPanic Int :=
  if loads.length ≤ 0 then .ok (-1)
  else
    let l := likelyhood (loads.map weight)
    if l.getLastD 0 ≤ 0 then .ok (-1)
    else (int63n (int64 (l.getLastD 0 - 1)) r).map fun selection => firstAbove selection l 0

/-- The scheduler that selects with `probabilisticSelection`; it keeps its configuration. -/
structure ProbSched where
  conf : Config

/-- `ProbSched.SelectCluster` (lines 94-104), on the loads `getAllLoadValues` returned. -/
def ProbSched.selectCluster (ps : ProbSched) (loads : List Load) (r : Int) :
    Except GoPanic String := do
  let selection ← probabilisticSelection weight loads r
  if selection ≥ 0 then
    match ps.conf.cluster[selection.toNat]? with
    | some c => pure c.name
    | none => throw ⟨"runtime error: index out of range [" ++ toString selection ++
        "] with length " ++ toString ps.conf.cluster.length⟩
  else pure "default"

/-- The bound `probabilisticSelection` passes to `rand.Int63n`. -/
def drawBound (loads : List Load) : Int :=
  int64 ((likelyhood (loads.map weight)).getLastD 0 - 1)

/-- The draws of `rand.Int63n` that make `probabilisticSelection` return `k`. With the draw
uniform, `k` is selected with probability `drawCount k / drawBound`. -/
def drawCount (loads : List Load) (k : Int) : Nat :=
  ((List.range (drawBound weight loads).toNat).filter fun r : Nat =>
    probabilisticSelection weight loads r = .ok k).length

/-- `minLoad` (lines 169-179) from index `k` on, with the least load so far and its index. -/
def minLoadFrom {V : Type} [LinearOrder V] (min : V) (index : Nat) :
    Nat → List V → Nat
  | _, [] => index
  | k, v :: rest =>
      if v < min then minLoadFrom v k (k + 1) rest else minLoadFrom min index (k + 1) rest

/-- `minLoad(load)`: `top` is its start value `math.MaxFloat64`. -/
def minLoad {V : Type} [LinearOrder V] (top : V) (load : List V) : Nat :=
  minLoadFrom top 0 0 load

/-- The scheduler that selects the least loaded cluster. -/
structure LoadBasedSched where
  conf : Config

/-- `LoadBasedSched.SelectCluster` (lines 188-192), on the loads `getAllLoadValues` returned. -/
def LoadBasedSched.selectCluster {V : Type} [LinearOrder V] (top : V)
    (lbs : LoadBasedSched) (load : List V) : Except GoPanic String :=
  match lbs.conf.cluster[minLoad top load]? with
  | some c => pure c.name
  | none => throw ⟨"runtime error: index out of range [" ++ toString (minLoad top load) ++
      "] with length " ++ toString lbs.conf.cluster.length⟩

/-- The scheduler that selects a cluster at random. -/
structure RandomSched where
  conf : Config

/-- `RandomSched.SelectCluster` (lines 201-203) when `rand.Intn` draws `r`, uniform over the
configured clusters; `rand.Intn(0)` panics. -/
def RandomSched.selectCluster (rs : RandomSched) (r : Nat) : Except GoPanic String :=
  if rs.conf.cluster.length ≤ 0 then throw ⟨"invalid argument to Intn"⟩
  else
    match rs.conf.cluster[r]? with
    | some c => pure c.name
    | none => throw ⟨"runtime error: index out of range [" ++ toString r ++ "] with length " ++
        toString rs.conf.cluster.length⟩

/-- The running sums of the weights after `prev`, without overflow. -/
def runningSums (prev : Int) : List Int → List Int
  | [] => []
  | w :: ws => (prev + w) :: runningSums (prev + w) ws

/-- The weights are `int64` values and so are all their running sums: the additions of line
117 do not overflow. -/
def SumsFitInt64 (ws : List Int) : Prop :=
  (∀ w ∈ ws, InInt64 w) ∧ ∀ j, j ≤ ws.length → InInt64 (ws.take j).sum

instance (ws : List Int) : Decidable (SumsFitInt64 ws) := by
  unfold SumsFitInt64; infer_instance

theorem likelyhoodFrom_eq {prev : Int} {ws : List Int}
    (h : ∀ j, j ≤ ws.length → InInt64 (prev + (ws.take j).sum)) :
    likelyhoodFrom prev ws = runningSums prev ws := by
  induction ws generalizing prev with
  | nil => rfl
  | cons w ws ih =>
      have hw : int64 (prev + w) = prev + w := int64_of_inInt64 (by simpa using h 1 (by simp))
      rw [likelyhoodFrom, runningSums, hw,
        ih fun j hj => by simpa [Int.add_assoc] using h (j + 1) (by simp; omega)]

/-- Without overflow, the likelihoods are the running sums of the weights. -/
theorem likelyhood_eq {ws : List Int} (h : SumsFitInt64 ws) : likelyhood ws = runningSums 0 ws := by
  cases ws with
  | nil => rfl
  | cons w ws =>
      rw [likelyhood, runningSums, Int.zero_add,
        likelyhoodFrom_eq fun j hj => by simpa using h.2 (j + 1) (by simp; omega)]

theorem getLastD_runningSums (prev d : Int) {ws : List Int} (h : ws ≠ []) :
    (runningSums prev ws).getLastD d = prev + ws.sum := by
  induction ws generalizing prev d with
  | nil => exact absurd rfl h
  | cons w ws ih =>
      cases ws with
      | nil => simp [runningSums]
      | cons w' ws' =>
          rw [runningSums, List.getLastD_cons, ih _ _ (List.cons_ne_nil _ _)]
          simp [Int.add_assoc]

/-- The scan of lines 128-133 over running sums that start at or below the draw and end above
it stops at a weight that is positive: the sum before it is at most the draw, the sum at it is
above. Negative weights make the sums go down, and this still holds. -/
theorem firstAbove_runningSums {r prev : Int} (hPrev : prev ≤ r) {ws : List Int}
    (hAbove : r < prev + ws.sum) (k : Nat) :
    ∃ j, j < ws.length ∧ firstAbove r (runningSums prev ws) k = (k + j : Nat) ∧
      ∃ w, ws[j]? = some w ∧ 0 < w := by
  induction ws generalizing prev k with
  | nil => rw [List.sum_nil, Int.add_zero] at hAbove; omega
  | cons w ws ih =>
      rw [runningSums, firstAbove]
      split_ifs with hw
      · exact ⟨0, Nat.succ_pos _, rfl, w, List.getElem?_cons_zero, by omega⟩
      · obtain ⟨j, hj, hEq, hPos⟩ :=
          @ih (prev + w) (by omega) (by rw [List.sum_cons] at hAbove; omega) (k + 1)
        exact ⟨j + 1, Nat.succ_lt_succ hj, by rw [hEq]; congr 1; omega, by simpa using hPos⟩

theorem sum_take_nonneg {ws : List Int} (hNonneg : ∀ w ∈ ws, 0 ≤ w) (j : Nat) :
    0 ≤ (ws.take j).sum :=
  List.sum_nonneg fun _ hx => hNonneg _ (List.mem_of_mem_take hx)

/-- Over weights that are not negative the running sums only grow, and the scan stops at the
one cluster whose interval of sums holds the draw. -/
theorem firstAbove_runningSums_eq_iff {r prev : Int} {ws : List Int}
    (hNonneg : ∀ w ∈ ws, 0 ≤ w) (hPrev : prev ≤ r) (hAbove : r < prev + ws.sum) (k j : Nat) :
    firstAbove r (runningSums prev ws) k = (k + j : Nat) ↔
      prev + (ws.take j).sum ≤ r ∧ r < prev + (ws.take (j + 1)).sum := by
  induction ws generalizing prev k j with
  | nil => rw [List.sum_nil, Int.add_zero] at hAbove; omega
  | cons w ws ih =>
      have hw : 0 ≤ w := hNonneg w (List.mem_cons_self _ _)
      have hRest : ∀ x ∈ ws, 0 ≤ x := fun x hx => hNonneg x (List.mem_cons_of_mem _ hx)
      rw [runningSums, firstAbove]
      cases j with
      | zero =>
          simp only [List.take_zero, List.sum_nil, Int.add_zero, List.take_succ_cons,
            List.sum_cons, Nat.add_zero]
          split_ifs with hStop
          · simp only [true_iff]; omega
          · obtain ⟨j, -, hEq, -⟩ := @firstAbove_runningSums r (prev + w) (by omega) ws
              (by rw [List.sum_cons] at hAbove; omega) (k + 1)
            rw [hEq, Nat.cast_inj]; omega
      | succ j =>
          have hTake := sum_take_nonneg hRest j
          simp only [List.take_succ_cons, List.sum_cons]
          split_ifs with hStop
          · rw [Nat.cast_inj]; omega
          · rw [show k + (j + 1) = (k + 1) + j by omega,
              ih hRest (by omega) (by rw [List.sum_cons] at hAbove; omega) (k + 1) j]
            constructor <;> intro h <;> constructor <;> omega

theorem getLastD_likelyhood {ws : List Int} (hFit : SumsFitInt64 ws) (h : ws ≠ []) :
    (likelyhood ws).getLastD 0 = ws.sum := by
  rw [likelyhood_eq hFit, getLastD_runningSums _ _ h, Int.zero_add]

variable {weight}

/-- Without overflow and with total weight `W ≥ 2`, the bound given to `rand.Int63n` is `W - 1`
and the selection is the scan over the running sums. -/
theorem probabilisticSelection_of_fit {loads : List Load}
    (hFit : SumsFitInt64 (loads.map weight)) (hW : 2 ≤ (loads.map weight).sum) (r : Int) :
    drawBound weight loads = (loads.map weight).sum - 1 ∧
      probabilisticSelection weight loads r =
        .ok (firstAbove r (runningSums 0 (loads.map weight)) 0) := by
  have hne : loads.map weight ≠ [] := by intro h; rw [h] at hW; simp at hW
  have hLen : ¬loads.length ≤ 0 := by simpa [List.length_eq_zero] using hne
  have hTotal : InInt64 (loads.map weight).sum := by
    have h := hFit.2 _ (Nat.le_refl _)
    rwa [List.take_length] at h
  have hBound : int64 ((loads.map weight).sum - 1) = (loads.map weight).sum - 1 :=
    int64_of_inInt64 ⟨by omega, by have := hTotal.2; omega⟩
  refine ⟨by rw [drawBound, getLastD_likelyhood hFit hne, hBound], ?_⟩
  simp only [probabilisticSelection, hLen, if_false, getLastD_likelyhood hFit hne, hBound, int63n,
    show ¬(loads.map weight).sum ≤ 0 by omega, show ¬(loads.map weight).sum - 1 ≤ 0 by omega]
  simp [likelyhood_eq hFit, Except.map]

variable (weight)

/-- With total weight `W ≥ 2`, no overflow, and a draw in the range `[0, W - 1)` that the code
gives `rand.Int63n`, `probabilisticSelection` returns the index of a cluster whose weight is
positive, so whose load was below `1`; its final `return -1` is never reached. -/
theorem probabilisticSelection_selects_positive (loads : List Load)
    (hFit : SumsFitInt64 (loads.map weight)) (hW : 2 ≤ (loads.map weight).sum) (r : Int)
    (hr0 : 0 ≤ r) (hr : r < (loads.map weight).sum - 1) :
    ∃ k, k < loads.length ∧ probabilisticSelection weight loads r = .ok (k : Int) ∧
      ∃ v, loads[k]? = some v ∧ 0 < weight v := by
  obtain ⟨j, hj, hEq, w, hw, hPos⟩ :=
    firstAbove_runningSums hr0 (show r < 0 + (loads.map weight).sum by omega) 0
  rw [List.length_map] at hj
  rw [List.getElem?_map] at hw
  obtain ⟨v, hv, rfl⟩ := Option.map_eq_some'.1 hw
  refine ⟨j, hj, ?_, v, hv, hPos⟩
  rw [(probabilisticSelection_of_fit hFit hW r).2, hEq, Nat.zero_add]

/-- Three clusters with weights `2`, `-1` and `3` and the draw `2`: the sums are `2, 1, 4`, and
the scan passes the negative weight and stops at the third cluster. -/
theorem probabilisticSelection_selects_positive_example :
    SumsFitInt64 (([2, -1, 3] : List Int).map id) ∧
      2 ≤ (([2, -1, 3] : List Int).map id).sum ∧ (0 : Int) ≤ 2 ∧
      (2 : Int) < (([2, -1, 3] : List Int).map id).sum - 1 ∧
      ∃ k, k < ([2, -1, 3] : List Int).length ∧
        probabilisticSelection id ([2, -1, 3] : List Int) 2 = .ok (k : Int) ∧
        ∃ v, ([2, -1, 3] : List Int)[k]? = some v ∧ 0 < id v :=
  ⟨by decide, by decide, by decide, by decide,
    probabilisticSelection_selects_positive id [2, -1, 3] (by decide) (by decide) 2
      (by decide) (by decide)⟩

/-- Weights that are not negative, with a total below `2^63`, do not overflow. -/
theorem sumsFitInt64_of_nonneg {ws : List Int} (hNonneg : ∀ w ∈ ws, 0 ≤ w)
    (hTotal : ws.sum < 2 ^ 63) : SumsFitInt64 ws := by
  have hPart : ∀ l : List Int, (∀ w ∈ l, w ∈ ws) → 0 ≤ l.sum := fun l hl =>
    List.sum_nonneg fun w hw => hNonneg w (hl w hw)
  refine ⟨fun w hw => ⟨by have := hNonneg w hw; omega, ?_⟩, fun j _ => ?_⟩
  · obtain ⟨l₁, l₂, rfl⟩ := List.append_of_mem hw
    have h₁ := hPart l₁ fun x hx => by simp [hx]
    have h₂ := hPart l₂ fun x hx => by simp [hx]
    simp only [List.sum_append, List.sum_cons] at hTotal
    omega
  · have hDrop := hPart (ws.drop j) fun w hw => List.mem_of_mem_drop hw
    have hTake := hPart (ws.take j) fun w hw => List.mem_of_mem_take hw
    have hSplit := List.sum_take_add_sum_drop ws j
    exact ⟨by omega, by omega⟩

/-- Loads in `[0, 1]` whose weights add up to exactly `1`, such as one cluster at load
`1 - 2^-13`: the code passes `rand.Int63n` the bound `1 - 1 = 0`, which panics, whatever the
draw, and `ProbSched.SelectCluster` panics with it. -/
theorem selectCluster_panics_of_total_one (ps : ProbSched) (loads : List Load)
    (hRange : ∀ v ∈ loads, 0 ≤ weight v ∧ weight v ≤ 10000) (hW : (loads.map weight).sum = 1)
    (r : Int) : ps.selectCluster weight loads r = .error ⟨"invalid argument to Int63n"⟩ := by
  have hFit : SumsFitInt64 (loads.map weight) :=
    sumsFitInt64_of_nonneg (by simpa using fun v hv => (hRange v hv).1) (by omega)
  have hne : loads.map weight ≠ [] := by intro h; rw [h] at hW; simp at hW
  have hLen : ¬loads.length ≤ 0 := by simpa [List.length_eq_zero] using hne
  simp only [ProbSched.selectCluster, probabilisticSelection, hLen, getLastD_likelyhood hFit hne,
    hW, if_false]
  rfl

/-- One cluster whose load has weight `1`. -/
theorem selectCluster_panics_one_cluster :
    (∀ v ∈ ([1] : List Int), 0 ≤ id v ∧ id v ≤ 10000) ∧ (([1] : List Int).map id).sum = 1 ∧
      (ProbSched.mk ⟨[⟨"a", "http://a", "v1"⟩]⟩).selectCluster id [1] 0 =
        .error ⟨"invalid argument to Int63n"⟩ :=
  ⟨by decide, by decide, selectCluster_panics_of_total_one id _ [1] (by decide) (by decide) 0⟩

/-- The draws `r < N` between `a` and `b`. -/
theorem length_filter_range (N : Nat) {a : Int} (ha : 0 ≤ a) (b : Int) :
    ((List.range N).filter fun r : Nat => a ≤ r ∧ r < b).length = (min b N - min a N).toNat := by
  induction N with
  | zero => simp only [List.range_zero, List.filter_nil, List.length_nil, Nat.cast_zero]; omega
  | succ N ih =>
      rw [List.range_succ, List.filter_append, List.length_append, ih, Nat.cast_succ]
      by_cases h : a ≤ N ∧ N < b
      · rw [List.filter_cons_of_pos (by simpa using h), List.filter_nil, List.length_singleton]
        omega
      · rw [List.filter_cons_of_neg (by simpa using h), List.filter_nil, List.length_nil]
        omega

/-- The draw law of `probabilisticSelection` on loads whose weights are not negative and add up
to `W ≥ 2`: `rand.Int63n` gets the bound `W - 1`, and cluster `k` gets the draws between the
running sums before and after it, cut at `W - 1`. So every cluster gets as many draws as its
weight except the last one of positive weight, which gets one fewer. -/
theorem probabilisticSelection_draw_counts (loads : List Load)
    (hNonneg : ∀ v ∈ loads, 0 ≤ weight v) (hTotal : (loads.map weight).sum < 2 ^ 63)
    (hW : 2 ≤ (loads.map weight).sum) (k : Nat) :
    drawBound weight loads = (loads.map weight).sum - 1 ∧
      drawCount weight loads k =
        (min ((loads.map weight).take (k + 1)).sum ((loads.map weight).sum - 1) -
          min ((loads.map weight).take k).sum ((loads.map weight).sum - 1)).toNat := by
  have hWs : ∀ w ∈ loads.map weight, 0 ≤ w := by simpa using hNonneg
  have hFit := sumsFitInt64_of_nonneg hWs hTotal
  have hDraw := (probabilisticSelection_of_fit hFit hW 0).1
  have hSel : ∀ r : Nat, (r : Int) < (loads.map weight).sum - 1 →
      (probabilisticSelection weight loads r = .ok (k : Int) ↔
        ((loads.map weight).take k).sum ≤ r ∧ r < ((loads.map weight).take (k + 1)).sum) := by
    intro r hr
    rw [(probabilisticSelection_of_fit hFit hW r).2, Except.ok.injEq, ← Nat.zero_add k,
      firstAbove_runningSums_eq_iff hWs (Int.ofNat_nonneg r) (by omega) 0 k]
    simp
  refine ⟨hDraw, ?_⟩
  rw [drawCount, hDraw, List.filter_congr fun r hr => decide_eq_decide.2
      (hSel r (by simp at hr; omega)), length_filter_range _ (sum_take_nonneg hWs k),
    Int.toNat_of_nonneg (by omega)]

/-- Two clusters whose loads both have weight `1` (each load `1 - 2^-13`): `rand.Int63n(1)`
has the one draw `0`, which selects cluster 0, and cluster 1, as loaded as cluster 0, is never
selected. -/
theorem probabilisticSelection_draw_counts_unit :
    ((∀ v ∈ ([1, 1] : List Int), 0 ≤ id v) ∧ (([1, 1] : List Int).map id).sum < 2 ^ 63 ∧
      2 ≤ (([1, 1] : List Int).map id).sum) ∧
    drawBound id ([1, 1] : List Int) = 1 ∧ drawCount id ([1, 1] : List Int) 0 = 1 ∧
      drawCount id ([1, 1] : List Int) 1 = 0 := by
  have h0 := probabilisticSelection_draw_counts id [1, 1] (by decide) (by decide) (by decide) 0
  have h1 := probabilisticSelection_draw_counts id [1, 1] (by decide) (by decide) (by decide) 1
  exact ⟨⟨by decide, by decide, by decide⟩, h0.1, h0.2.trans (by decide), h1.2.trans (by decide)⟩

/-- Equal loads of positive weight `w` split the draws evenly: the draw `r` selects the cluster
`r / w`. -/
theorem probabilisticSelection_replicate {v : Load} {n : Nat} {w : Int} (hv : weight v = w)
    (hw : 0 < w) (hW : 2 ≤ n * w) (hTotal : n * w < 2 ^ 63) {r : Int} (hr0 : 0 ≤ r)
    (hr : r < n * w - 1) :
    probabilisticSelection weight (List.replicate n v) r = .ok (r / w) := by
  subst hv
  have hWs : ∀ x ∈ (List.replicate n v).map weight, 0 ≤ x := by
    simpa [List.map_replicate] using fun _ => hw.le
  have hSum : ((List.replicate n v).map weight).sum = n * weight v := by
    simp [List.map_replicate, List.sum_replicate]
  have hq : ((r / weight v).toNat : Int) = r / weight v :=
    Int.toNat_of_nonneg (Int.ediv_nonneg hr0 hw.le)
  have hj : (r / weight v).toNat < n := by
    have := Int.ediv_lt_of_lt_mul hw (show r < n * weight v by omega)
    omega
  have hTake : ∀ m, m ≤ n → (((List.replicate n v).map weight).take m).sum = m * weight v :=
    fun m hm => by simp [List.map_replicate, List.take_replicate, Nat.min_eq_left hm]
  have hScan := (firstAbove_runningSums_eq_iff hWs hr0 (by omega) 0 (r / weight v).toNat).2
    ⟨by rw [hTake _ hj.le, hq, Int.zero_add]; exact Int.ediv_mul_le r hw.ne',
      by rw [hTake _ hj, Nat.cast_succ, hq, Int.zero_add]; exact Int.lt_ediv_add_one_mul_self r hw⟩
  rw [(probabilisticSelection_of_fit (sumsFitInt64_of_nonneg hWs (hSum ▸ hTotal)) (hSum ▸ hW) r).2,
    hScan, Nat.zero_add, hq]

/-! ### What `ProbSched.SelectCluster` can fail with -/

theorem length_likelyhoodFrom (prev : Int) (ws : List Int) :
    (likelyhoodFrom prev ws).length = ws.length := by
  induction ws generalizing prev with
  | nil => rfl
  | cons w ws ih => simp [likelyhoodFrom, ih]

theorem length_likelyhood (ws : List Int) : (likelyhood ws).length = ws.length := by
  cases ws <;> simp [likelyhood, length_likelyhoodFrom]

/-- The scan of lines 128-133 from index `k` gives `-1` or an index of the list it scans. -/
theorem firstAbove_eq_neg_one_or (selection : Int) (l : List Int) (k : Nat) :
    firstAbove selection l k = -1 ∨
      k ≤ firstAbove selection l k ∧ firstAbove selection l k < k + l.length := by
  induction l generalizing k with
  | nil => exact .inl rfl
  | cons v rest ih =>
      rw [firstAbove]
      split_ifs
      · exact .inr ⟨le_refl _, by simp⟩
      · rcases ih (k + 1) with h | ⟨hLo, hHi⟩
        · exact .inl h
        · exact .inr ⟨by omega, by simp at hHi ⊢; omega⟩

/-- `probabilisticSelection` returns `-1` or the index of one of the loads. -/
theorem probabilisticSelection_ok {loads : List Load} {r selection : Int}
    (h : probabilisticSelection weight loads r = .ok selection) :
    selection = -1 ∨ 0 ≤ selection ∧ selection < loads.length := by
  simp only [probabilisticSelection] at h
  split_ifs at h
  · exact .inl (Except.ok.inj h).symm
  · exact .inl (Except.ok.inj h).symm
  · cases hDraw : int63n (int64 ((likelyhood (loads.map weight)).getLastD 0 - 1)) r with
    | error e => rw [hDraw] at h; cases h
    | ok d =>
        rw [hDraw] at h
        have hEq : firstAbove d (likelyhood (loads.map weight)) 0 = selection := Except.ok.inj h
        have := firstAbove_eq_neg_one_or d (likelyhood (loads.map weight)) 0
        rw [length_likelyhood, List.length_map, hEq] at this
        omega

/-- The only panic of `probabilisticSelection` is that of `rand.Int63n`. -/
theorem probabilisticSelection_error {loads : List Load} {r : Int} {p : GoPanic}
    (h : probabilisticSelection weight loads r = .error p) :
    p = ⟨"invalid argument to Int63n"⟩ := by
  simp only [probabilisticSelection, int63n] at h
  split_ifs at h <;> simp [Except.map] at h
  exact h.symm

/-- On the loads `getAllLoadValues` returns, one a configured cluster, `ProbSched.SelectCluster`
never indexes past the clusters: its only panic is that of `rand.Int63n`, whatever the draw. -/
theorem probSched_selectCluster_panic (ps : ProbSched) (loads : List Load) (r : Int)
    (hLen : loads.length = ps.conf.cluster.length) (p : GoPanic)
    (h : ps.selectCluster weight loads r = .error p) : p = ⟨"invalid argument to Int63n"⟩ := by
  simp only [ProbSched.selectCluster, bind, Except.bind] at h
  cases hSel : probabilisticSelection weight loads r with
  | error e =>
      rw [hSel] at h
      cases h
      exact probabilisticSelection_error weight hSel
  | ok selection =>
      rw [hSel] at h
      rcases probabilisticSelection_ok weight hSel with rfl | ⟨hPos, hLt⟩
      · simp at h
        cases h
      · have hIdx : selection.toNat < ps.conf.cluster.length := by omega
        simp only [if_pos hPos, List.getElem?_eq_getElem hIdx] at h
        cases h

/-- One cluster whose load has weight `1`: `rand.Int63n(0)` panics, and that is the panic. -/
theorem probSched_selectCluster_panic_total_one :
    ([1] : List Int).length = (ProbSched.mk ⟨[⟨"a", "http://a", "v1"⟩]⟩).conf.cluster.length ∧
      (ProbSched.mk ⟨[⟨"a", "http://a", "v1"⟩]⟩).selectCluster id [1] 0 =
        .error ⟨"invalid argument to Int63n"⟩ ∧
      (⟨"invalid argument to Int63n"⟩ : GoPanic) = ⟨"invalid argument to Int63n"⟩ :=
  ⟨rfl, by decide,
    probSched_selectCluster_panic id ⟨⟨[⟨"a", "http://a", "v1"⟩]⟩⟩ [1] 0 rfl _ (by decide)⟩

section MinLoad

variable {V : Type} [LinearOrder V]

/-- Entry `k` of `load` is a least load: `load[k] <= load[j]` for every `j`. -/
def LeastAt (load : List V) (k : Nat) : Prop :=
  ∃ m ∈ load[k]?, ∀ v ∈ load, m ≤ v

instance (load : List V) (k : Nat) : Decidable (LeastAt load k) := by
  unfold LeastAt; infer_instance

/-- What `minLoad` keeps as `index` and `min`: `m` is at index `j`, no entry is below it, and
every entry before `j` is above it. -/
def FirstLeast (load : List V) (j : Nat) (m : V) : Prop :=
  load[j]? = some m ∧ (∀ u ∈ load, m ≤ u) ∧ ∀ i < j, ∀ u, load[i]? = some u → m < u

theorem FirstLeast.cons {load : List V} {j : Nat} {m v : V} (h : FirstLeast load j m)
    (hmv : m < v) : FirstLeast (v :: load) (j + 1) m := by
  obtain ⟨hj, hle, hfirst⟩ := h
  refine ⟨by rwa [List.getElem?_cons_succ], List.forall_mem_cons.2 ⟨hmv.le, hle⟩, ?_⟩
  rintro (_ | i) hi u hu
  · rw [List.getElem?_cons_zero, Option.some.injEq] at hu
    exact hu ▸ hmv
  · rw [List.getElem?_cons_succ] at hu
    exact hfirst i (by omega) u hu

/-- The first least entry is the least index that holds a least load. -/
theorem FirstLeast.leastAt {load : List V} {j : Nat} {m : V} (h : FirstLeast load j m) :
    LeastAt load j ∧ ∀ i < j, ¬LeastAt load i := by
  obtain ⟨hj, hle, hfirst⟩ := h
  refine ⟨⟨m, hj, hle⟩, fun i hi ⟨u, hu, huLe⟩ => ?_⟩
  exact absurd (huLe m (List.getElem?_mem hj)) (not_le.2 (hfirst i hi u hu))

/-- With no entry below `min` left, the scan keeps its index. -/
theorem minLoadFrom_of_le {min : V} {rest : List V} (h : ∀ u ∈ rest, min ≤ u) (index k : Nat) :
    minLoadFrom min index k rest = index := by
  induction rest generalizing k with
  | nil => rfl
  | cons v rest ih =>
      rw [List.forall_mem_cons] at h
      rw [minLoadFrom, if_neg (not_lt.2 h.1), ih h.2]

/-- Once some entry ahead is below `min`, the scan from `k` ends at `k + j` for the first least
entry `j` of what is left, and that entry is below `min`. -/
theorem minLoadFrom_firstLeast {min : V} {rest : List V} (h : ∃ u ∈ rest, u < min)
    (index k : Nat) : ∃ j m, minLoadFrom min index k rest = k + j ∧ m < min ∧
      FirstLeast rest j m := by
  induction rest generalizing min index k with
  | nil =>
      obtain ⟨_, hu, -⟩ := h
      cases hu
  | cons v rest ih =>
      by_cases hv : v < min
      · by_cases hr : ∃ u ∈ rest, u < v
        · obtain ⟨j, m, hRes, hm, hFirst⟩ := ih hr k (k + 1)
          refine ⟨j + 1, m, ?_, hm.trans hv, hFirst.cons hm⟩
          rw [minLoadFrom, if_pos hv, hRes]; omega
        · simp only [not_exists, not_and, not_lt] at hr
          refine ⟨0, v, ?_, hv, List.getElem?_cons_zero,
            List.forall_mem_cons.2 ⟨le_rfl, hr⟩, fun i hi => absurd hi (Nat.not_lt_zero i)⟩
          rw [minLoadFrom, if_pos hv, minLoadFrom_of_le hr]; rfl
      · obtain ⟨u, hu, huMin⟩ := h
        have hr : ∃ u ∈ rest, u < min := by
          rcases List.mem_cons.1 hu with rfl | hu
          · exact absurd huMin hv
          · exact ⟨u, hu, huMin⟩
        obtain ⟨j, m, hRes, hm, hFirst⟩ := ih hr index (k + 1)
        refine ⟨j + 1, m, ?_, hm, hFirst.cons (lt_of_lt_of_le hm (not_lt.1 hv))⟩
        rw [minLoadFrom, if_neg hv, hRes]; omega

/-- On a nonempty vector of loads below its start value `top`, `minLoad` returns the least index
that holds a least load, and `LoadBasedSched.SelectCluster` the name of the cluster there. -/
theorem minLoad_first_least (top : V) (load : List V) (hne : load ≠ [])
    (hTop : ∀ v ∈ load, v < top) :
    LeastAt load (minLoad top load) ∧ (∀ k < minLoad top load, ¬LeastAt load k) ∧
      ∀ conf : Config, load.length ≤ conf.cluster.length → ∃ c,
        conf.cluster[minLoad top load]? = some c ∧
          (LoadBasedSched.mk conf).selectCluster top load = .ok c.name := by
  obtain ⟨v, hv⟩ := List.exists_mem_of_ne_nil load hne
  obtain ⟨j, m, hRes, -, hFirst⟩ := minLoadFrom_firstLeast ⟨v, hv, hTop v hv⟩ 0 0
  have hj : minLoad top load = j := hRes.trans (Nat.zero_add j)
  refine ⟨hj ▸ hFirst.leastAt.1, hj ▸ hFirst.leastAt.2, fun conf hLen => ?_⟩
  have hlt : j < conf.cluster.length :=
    lt_of_lt_of_le (List.getElem?_eq_some_iff.1 hFirst.1).1 hLen
  refine ⟨conf.cluster[j], by rw [hj]; simp, ?_⟩
  simp only [LoadBasedSched.selectCluster, hj, List.getElem?_eq_getElem hlt]
  rfl

/-- Four clusters with loads 9, 1, 5, 1 below 10: the scheduler picks "b", the first of the
two least loaded. -/
theorem minLoad_first_least_of_tie :
    (LoadBasedSched.mk ⟨[⟨"a", "", "v1"⟩, ⟨"b", "", "v1"⟩, ⟨"c", "", "v1"⟩, ⟨"d", "", "v1"⟩]⟩
      ).selectCluster 10 [9, 1, 5, 1] = .ok "b" := by
  obtain ⟨-, -, hSel⟩ := minLoad_first_least (V := Nat) 10 [9, 1, 5, 1] (by decide) (by decide)
  obtain ⟨c, hc, hOk⟩ := hSel
    ⟨[⟨"a", "", "v1"⟩, ⟨"b", "", "v1"⟩, ⟨"c", "", "v1"⟩, ⟨"d", "", "v1"⟩]⟩ (by decide)
  have h1 : minLoad 10 [9, 1, 5, 1] = 1 := rfl
  rw [h1] at hc
  cases hc
  exact hOk

/-- On equal loads below `top`, `minLoad` keeps the first. -/
theorem minLoad_replicate {top z : V} (hTop : z < top) (n : Nat) :
    minLoad top (List.replicate n z) = 0 := by
  cases n with
  | zero => rfl
  | succ n =>
      rw [minLoad, List.replicate_succ, minLoadFrom, if_pos hTop,
        minLoadFrom_of_le (fun u hu => (List.eq_of_mem_replicate hu).ge)]

/-- In every interleaving of `getAllLoadValues`, `LoadBasedSched.SelectCluster` on its loads
selects the first configured cluster: every slot is zero, whatever the clusters report, and
`minLoad` keeps the first of equal loads. -/
theorem loadBasedSched_selects_first (top : V) [Zero V]
    (hTop : (0 : V) < top) (conf : Config) (fetch : Nat → LoadFetch V) {c : ClusterConfig}
    (hFirst : conf.cluster[0]? = some c) {s : FanOutState (LoadTask V) (List V)}
    (h : Reachable (getAllLoadValues conf fetch).step (loadValuesStart conf fetch) s) :
    (LoadBasedSched.mk conf).selectCluster top s.shared = .ok c.name := by
  simp only [LoadBasedSched.selectCluster, loadValues_zero h, minLoad_replicate hTop, hFirst]
  rfl

/-- Two clusters, the first reporting the load `1` and the second `0`: once `getAllLoadValues`
has returned, `LoadBasedSched.SelectCluster` still picks the first. -/
theorem loadBasedSched_selects_first_busy_first :
    ∃ s, Reachable (getAllLoadValues ⟨[⟨"a", "http://a", "v1"⟩, ⟨"b", "http://b", "v1"⟩]⟩
        fun k => (.decoded (if k = 0 then 1 else 0) : LoadFetch ℚ)).step
      (loadValuesStart ⟨[⟨"a", "http://a", "v1"⟩, ⟨"b", "http://b", "v1"⟩]⟩
        fun k => .decoded (if k = 0 then 1 else 0)) s ∧ s.main = .returned ∧
      (LoadBasedSched.mk ⟨[⟨"a", "http://a", "v1"⟩, ⟨"b", "http://b", "v1"⟩]⟩).selectCluster
        (2 : ℚ) s.shared = .ok "a" := by
  have hRun : Reachable (getAllLoadValues ⟨[⟨"a", "http://a", "v1"⟩, ⟨"b", "http://b", "v1"⟩]⟩
      fun k => (.decoded (if k = 0 then 1 else 0) : LoadFetch ℚ)).step
      (loadValuesStart ⟨[⟨"a", "http://a", "v1"⟩, ⟨"b", "http://b", "v1"⟩]⟩
        fun k => .decoded (if k = 0 then 1 else 0))
      ⟨.returned, 0, [.finished, .finished], [0, 0]⟩ :=
    ⟨[.main, .main, .main, .task 0, .task 0, .task 0, .task 1, .task 1, .task 1, .main],
      by decide⟩
  exact ⟨_, hRun, rfl, loadBasedSched_selects_first (2 : ℚ) (by norm_num)
    ⟨[⟨"a", "http://a", "v1"⟩, ⟨"b", "http://b", "v1"⟩]⟩ _ rfl hRun⟩

end MinLoad

end Ubercluster.Scheduler
