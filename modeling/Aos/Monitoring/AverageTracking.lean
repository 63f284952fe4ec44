/-
  Aos.Monitoring.AverageTracking — what the running sums of `Average` approximate.

  Read as exact arithmetic, `Average` keeps for each metric the moving average of
  window `w`: a new value `x` moves the average `e` to `e + (x - e) / w` (`ema`). The
  code keeps `w` times that average as an integer sum instead, and replaces `v / w`
  by `GetValue`'s rounding `g = ⌊v / w + 1/2⌋` when it takes a share out
  (`value - GetValue(value, window) + newValue`). Seeding stores `x * w` exactly.

  Each step moves the distance `d = v - w * e` to `((w - 1) * d - (w * g - v)) / w`,
  with `|w * g - v| ≤ w / 2`; so `|d| ≤ w / 2` holds from the seeding on
  (`sub_rounded_tracks`), and what `GetData` reports, `g`, is within 1 of `e`
  (`rounded_share_tracks`).

  The code takes `g` through `double` arithmetic, which is exact only while the sums
  are small (`getValueBinary64_eq_getValue`); above about `2^52` a tie can round `g` up
  past `v / w + 1/2`. So the values are bounded by `hi` with `hi * w < 2^50`, which keeps
  every sum at most `hi * w`, where each step of the model is the code's.

  Proved: `updateMonitoringData_seeds` and `updateMonitoringData_tracks` (one entry),
  `step_tracks` and `run_tracks` (every call but `Init` on the node, every run), and
  `node_tracks_ema`: after `Init(disks, w)` of a fresh `Average` and an `Update` that
  seeds the node, for any later calls but `Init` whose node data keep the disk count and
  supply values of at most `hi`, every metric of the node stays within `w / 2` of `w`
  times the exact average of the values supplied, and the average `GetData` reports,
  the code's `GetValue` of the sum, is within 1 of it.
-/

import Aos.Monitoring.AverageBounds
import Mathlib.Algebra.Order.Field.Rat
import Mathlib.Algebra.Order.Ring.Abs
import Mathlib.Tactic.Linarith

namespace Aos.Monitoring

/-- The exact moving average of window `w`: each value moves the average `1 / w` of the
    way to it. -/
def ema (w : ℚ) : ℚ → List ℚ → ℚ
  | e, [] => e
  | e, x :: xs => ema w (e + (x - e) / w) xs

@[simp] theorem ema_nil (w e : ℚ) : ema w e [] = e := rfl

@[simp] theorem ema_cons (w e x : ℚ) (xs : List ℚ) : ema w e (x :: xs) = ema w (e + (x - e) / w) xs := rfl

theorem ema_append (w e : ℚ) (xs ys : List ℚ) : ema w e (xs ++ ys) = ema w (ema w e xs) ys := by
  induction xs generalizing e with
  | nil => rfl
  | cons x xs ih => exact ih _

/-! ## Rounding against exact division -/

/-- `GetValue`'s share `g` of a sum `v` is `v / w` up to half a unit. -/
theorem rounded_share_near {v w : Nat} (hw : 0 < w) : |(v : ℚ) - w * ((2 * v + w) / (2 * w) : Nat)| ≤ w / 2 := by
  have hd := Nat.div_add_mod (2 * v + w) (2 * w)
  have hr := Nat.mod_lt (2 * v + w) (show 0 < 2 * w by omega)
  generalize (2 * v + w) / (2 * w) = g at *
  generalize (2 * v + w) % (2 * w) = r at *
  have h1 : (2 * v + w : ℚ) ≤ 2 * w * g + 2 * w := by exact_mod_cast (show 2 * v + w ≤ 2 * w * g + 2 * w by omega)
  have h2 : (2 * w * g : ℚ) ≤ 2 * v + w := by exact_mod_cast (show 2 * w * g ≤ 2 * v + w by omega)
  exact abs_le.mpr ⟨by linarith only [h2], by linarith only [h1]⟩

/-- One step of the sum against one step of the exact average: with `d = v - w * e`,
    `w * d' = (w - 1) * d + (v - w * g)`, so `|d| ≤ w / 2` carries over. -/
theorem sub_rounded_tracks {v w x : Nat} {e : ℚ} (hw : 0 < w) (h : |(v : ℚ) - w * e| ≤ w / 2) :
    |((v - (2 * v + w) / (2 * w) + x : Nat) : ℚ) - w * (e + (x - e) / w)| ≤ w / 2 := by
  have hg := rounded_le_self v hw
  have hvg := rounded_share_near (v := v) hw
  generalize (2 * v + w) / (2 * w) = g at *
  have hw0 : (0 : ℚ) < w := by exact_mod_cast hw
  have hw1 : (0 : ℚ) ≤ w - 1 := sub_nonneg.mpr (by exact_mod_cast hw)
  rw [Nat.cast_add, Nat.cast_sub hg, mul_add, mul_div_cancel₀ _ hw0.ne']
  refine le_of_mul_le_mul_left ?_ hw0
  calc (w : ℚ) * |(v : ℚ) - g + x - (w * e + (x - e))| = |(w - 1) * ((v : ℚ) - w * e) + ((v : ℚ) - w * g)| := by
        rw [← abs_of_pos hw0, ← abs_mul, abs_of_pos hw0]; congr 1; ring
    _ ≤ (w - 1) * |(v : ℚ) - w * e| + |(v : ℚ) - w * g| := by
        rw [← abs_of_nonneg hw1, ← abs_mul, abs_of_nonneg hw1]; exact abs_add _ _
    _ ≤ (w - 1) * (w / 2) + w / 2 := add_le_add (mul_le_mul_of_nonneg_left h hw1) hvg
    _ = w * (w / 2) := by ring

/-- The reported share of a sum within `w / 2` of `w * e` is within 1 of `e`. -/
theorem rounded_share_tracks {v w : Nat} {e : ℚ} (hw : 0 < w) (h : |(v : ℚ) - w * e| ≤ w / 2) :
    |(((2 * v + w) / (2 * w) : Nat) : ℚ) - e| ≤ 1 := by
  have hvg := rounded_share_near (v := v) hw
  generalize (2 * v + w) / (2 * w) = g at *
  have hw0 : (0 : ℚ) < w := by exact_mod_cast hw
  refine le_of_mul_le_mul_left ?_ hw0
  calc (w : ℚ) * |(g : ℚ) - e| = |((v : ℚ) - w * e) - ((v : ℚ) - w * g)| := by
        rw [← abs_of_pos hw0, ← abs_mul, abs_of_pos hw0]; congr 1; ring
    _ ≤ |(v : ℚ) - w * e| + |(v : ℚ) - w * g| := abs_sub _ _
    _ ≤ w / 2 + w / 2 := add_le_add h hvg
    _ = w * 1 := by ring

/-! ## One entry -/

namespace Average

variable {N : Nat}

/-- An `Update` whose node data have `n` disks; the other calls pass. -/
def Call.keepsDisks (n : Nat) : Call → Bool
  | .update data => data.monitoringData.disk.length == n
  | _ => true

/-- The entry is seeded, has `n` disks, and its sum of metric `m` is at most `hi * w`
    and within `w / 2` of `w * e`. -/
def Tracks (n hi w : Nat) (m : Metric) (e : ℚ) (data : AverageData) : Prop :=
  data.isInitialized = true ∧ data.monitoringData.disk.length = n ∧
    ∃ v, m.get data.monitoringData = some v ∧ v.toNat ≤ hi * w ∧ |(v.toNat : ℚ) - w * e| ≤ w / 2

section Entry

variable {n hi : Nat} {window : UInt64} {m : Metric}

/-- The first `Update` with a matching disk count seeds the sum as `x * w`, which is `w`
    times the average `x`. -/
theorem updateMonitoringData_seeds (hw : 0 < window.toNat) (hhi : hi * window.toNat < 18446744073709551616)
    {data : AverageData} {newData : MonitoringData} {x : UInt64} (hs : data.isInitialized = false)
    (hl : data.monitoringData.disk.length = newData.disk.length) (hx : m.get newData = some x) (hxhi : x.toNat ≤ hi) :
    Tracks newData.disk.length hi window.toNat m x.toNat (updateMonitoringData window data newData).1 := by
  obtain ⟨v, hv⟩ := Option.ne_none_iff_exists'.mp
    (mt (get_eq_none_iff_of_length m hl).mp (Option.ne_none_iff_exists'.mpr ⟨x, hx⟩))
  have hget : m.get (updateMonitoringData window data newData).1.monitoringData = some _ :=
    (get_updateMonitoringData_eq_some m hl).mpr ⟨v, x, hv, hx, rfl⟩
  rw [updateMonitoringData_match hl] at hget ⊢
  refine ⟨rfl, by rw [List.length_zipWith, hl, Nat.min_self], _, hget, ?_⟩
  rw [updateValueU64_toNat v x window _ hw hhi hxhi (by simp [hs]), hs, if_neg Bool.false_ne_true]
  refine ⟨Nat.mul_le_mul_right _ hxhi, ?_⟩
  push_cast
  rw [mul_comm, sub_self, abs_zero]
  exact div_nonneg (Nat.cast_nonneg _) zero_le_two

/-- A seeded entry with `n` disks, given `n` disks and a value `x` of at most `hi`, takes
    `UpdateValue`'s step without wrapping: its sum `v` of metric `m` becomes
    `v - GetValue(v, w) + x`, at most `hi * w`. -/
theorem updateMonitoringData_seeded (hw : 0 < window.toNat) (hhi : hi * window.toNat < 18446744073709551616)
    {data : AverageData} {newData : MonitoringData} {v : UInt64} (hs : data.isInitialized = true)
    (hn : data.monitoringData.disk.length = n) (hl : newData.disk.length = n) (hv : m.get data.monitoringData = some v)
    (hvhi : v.toNat ≤ hi * window.toNat) (hsup : ∀ x, m.get newData = some x → x.toNat ≤ hi) :
    ∃ x u, m.get newData = some x ∧ m.get (updateMonitoringData window data newData).1.monitoringData = some u ∧
      u.toNat = v.toNat - (2 * v.toNat + window.toNat) / (2 * window.toNat) + x.toNat ∧
      u.toNat ≤ hi * window.toNat ∧ (updateMonitoringData window data newData).1.isInitialized = true ∧
      (updateMonitoringData window data newData).1.monitoringData.disk.length = n := by
  have hl' : data.monitoringData.disk.length = newData.disk.length := hn.trans hl.symm
  obtain ⟨x, hx⟩ := Option.ne_none_iff_exists'.mp
    (mt (get_eq_none_iff_of_length m hl').mpr (Option.ne_none_iff_exists'.mpr ⟨v, hv⟩))
  have hu := updateValueU64_toNat v x window true hw hhi (hsup x hx) fun _ => hvhi
  rw [if_pos rfl] at hu
  have hget : m.get (updateMonitoringData window data newData).1.monitoringData = some _ :=
    (get_updateMonitoringData_eq_some m hl').mpr ⟨v, x, hv, hx, rfl⟩
  rw [hs] at hget
  refine ⟨x, _, hx, hget, hu, ?_, by rw [updateMonitoringData_match hl'], ?_⟩
  · have := (sub_rounded_bounds hw (by rw [Nat.zero_mul]; exact Nat.zero_le _) hvhi).2
    have := hsup x hx
    omega
  · rw [updateMonitoringData_match hl', List.length_zipWith, hl', hl, Nat.min_self]

/-- A seeded entry with `n` disks, given a value of at most `hi` and `n` disks, moves
    with the exact average. -/
theorem updateMonitoringData_tracks (hw : 0 < window.toNat) (hhi : hi * window.toNat < 18446744073709551616)
    {data : AverageData} {newData : MonitoringData} {e : ℚ} (h : Tracks n hi window.toNat m e data)
    (hl : newData.disk.length = n) (hsup : ∀ x, m.get newData = some x → x.toNat ≤ hi) :
    ∃ x, m.get newData = some x ∧
      Tracks n hi window.toNat m (e + (x.toNat - e) / window.toNat) (updateMonitoringData window data newData).1 := by
  obtain ⟨hs, hn, v, hv, hvhi, hd⟩ := h
  obtain ⟨x, u, hx, hu, hut, huhi, hs', hn'⟩ := updateMonitoringData_seeded hw hhi hs hn hl hv hvhi hsup
  exact ⟨x, hx, hs', hn', u, hu, huhi, by rw [hut]; exact sub_rounded_tracks hw hd⟩

end Entry

/-! ## The node over a run -/

section Node

variable {n hi : Nat} {m : Metric}

/-- The exact average of the values a list of calls supplies for metric `m` of the node. -/
def suppliedAverage (w : ℚ) (e : ℚ) (calls : List Call) (m : Metric) : ℚ :=
  ema w e ((calls.flatMap (·.supplied .node m)).map fun x => (x.toNat : ℚ))

theorem suppliedAverage_cons (w e : ℚ) (c : Call) (cs : List Call) :
    suppliedAverage w e (c :: cs) m = suppliedAverage w (suppliedAverage w e [c] m) cs m := by
  simp only [suppliedAverage, List.flatMap_cons, List.flatMap_nil, List.append_nil, List.map_append, ema_append]

/-- One call other than `Init`, whose node data keep `n` disks and supply values of at
    most `hi`, moves the node with the exact average. -/
theorem step_tracks (a : Average N) {e : ℚ} (c : Call) (hc : c.isInit = false) (hd : c.keepsDisks n = true)
    (hw : 0 < a.windowCount.toNat) (hhi : hi * a.windowCount.toNat < 18446744073709551616)
    (hsup : ∀ x ∈ c.supplied .node m, x.toNat ≤ hi) (ha : Tracks n hi a.windowCount.toNat m e a.averageNodeData) :
    Tracks n hi a.windowCount.toNat m (suppliedAverage a.windowCount.toNat e [c] m) (a.step c).1.averageNodeData := by
  cases c with
  | init => cases hc
  | getData => exact ha
  | update data =>
    obtain ⟨x, hx, ht⟩ := updateMonitoringData_tracks hw hhi ha (beq_iff_eq.mp hd)
      fun x hx => hsup x (by simp [Call.supplied, hx])
    rw [step_update, update_averageNodeData]
    simpa [suppliedAverage, Call.supplied, hx] using ht
  | startInstanceMonitoring monitoringConfig =>
    rw [step_startInstanceMonitoring, (startInstanceMonitoring_frame a monitoringConfig).2]
    exact ha
  | stopInstanceMonitoring instanceIdent =>
    rw [step_stopInstanceMonitoring, (stopInstanceMonitoring_frame a instanceIdent).2]
    exact ha

theorem run_tracks (a : Average N) {e : ℚ} (calls : List Call) (hc : ∀ c ∈ calls, c.isInit = false)
    (hd : ∀ c ∈ calls, c.keepsDisks n = true) (hw : 0 < a.windowCount.toNat)
    (hhi : hi * a.windowCount.toNat < 18446744073709551616)
    (hsup : ∀ c ∈ calls, ∀ x ∈ c.supplied .node m, x.toNat ≤ hi) (ha : Tracks n hi a.windowCount.toNat m e a.averageNodeData) :
    Tracks n hi a.windowCount.toNat m (suppliedAverage a.windowCount.toNat e calls m) (a.run calls).2.averageNodeData := by
  induction calls generalizing a e with
  | nil => exact ha
  | cons c cs ih =>
    have mem := List.mem_cons_self c cs
    have hwc := step_windowCount a c (hc c mem)
    have hstep := step_tracks a c (hc c mem) (hd c mem) hw hhi (hsup c mem) ha
    rw [run_cons, suppliedAverage_cons, ← hwc]
    rw [← hwc] at hstep hw hhi
    exact ih _ (fun c' h => hc c' (List.mem_cons_of_mem _ h)) (fun c' h => hd c' (List.mem_cons_of_mem _ h)) hw hhi
      (fun c' h => hsup c' (List.mem_cons_of_mem _ h)) hstep

/-- An `Update` that seeds the node with `x0`, then any calls but `Init` keeping its
    disk count: the node tracks the exact average of the values from `x0` on. -/
theorem seeded_run_tracks (a : Average N) (first : NodeMonitoringData) (calls : List Call) {x0 : UInt64}
    (hs : a.averageNodeData.isInitialized = false) (hw : 0 < a.windowCount.toNat)
    (hhi : hi * a.windowCount.toNat < 18446744073709551616) (hc : ∀ c ∈ calls, c.isInit = false)
    (hd : ∀ c ∈ Call.update first :: calls, c.keepsDisks a.averageNodeData.monitoringData.disk.length = true)
    (hx0 : m.get first.monitoringData = some x0)
    (hsup : ∀ c ∈ Call.update first :: calls, ∀ x ∈ c.supplied .node m, x.toNat ≤ hi) :
    Tracks a.averageNodeData.monitoringData.disk.length hi a.windowCount.toNat m
      (suppliedAverage a.windowCount.toNat x0.toNat calls m) (a.run (.update first :: calls)).2.averageNodeData := by
  have hl : a.averageNodeData.monitoringData.disk.length = first.monitoringData.disk.length :=
    (beq_iff_eq.mp (hd _ (List.mem_cons_self _ _))).symm
  have hseed := updateMonitoringData_seeds hw hhi hs hl hx0
    (hsup _ (List.mem_cons_self _ _) x0 (by simp [Call.supplied, hx0]))
  rw [← hl, ← update_averageNodeData] at hseed
  have hwc := update_windowCount a first
  have ht := run_tracks (a.update first).1 calls hc (fun c h => hd c (List.mem_cons_of_mem _ h)) (hwc ▸ hw)
    (hwc ▸ hhi) (fun c h => hsup c (List.mem_cons_of_mem _ h)) (hwc ▸ hseed)
  rw [hwc] at ht
  exact ht

/-- From `Init(disks, w)` of a fresh `Average`, an `Update` seeding the node with `x0`,
    then any calls but `Init` whose node data keep the disk count and supply values of at
    most `hi`, with `hi * w < 2^50`: the node's sum of metric `m` is within `w / 2` of `w`
    times the exact average `e` of the values, and `GetData` reports it within 1 of `e`.
    Every sum on the way is at most `hi * w`, where `GetValue`'s `double` arithmetic gives
    the exact rounding (`getValueBinary64_eq_of_le`): each step is the code's, and so is
    the report. -/
theorem node_tracks_ema (disks : List PartitionInfo) (w : UInt64) (first : NodeMonitoringData) (calls : List Call)
    (m : Metric) (hi : Nat) (x0 : UInt64) (hc : ∀ c ∈ calls, c.isInit = false)
    (hd : ∀ c ∈ Call.update first :: calls, c.keepsDisks disks.length = true)
    (hx0 : m.get first.monitoringData = some x0)
    (hhi : hi * (if w = 0 then 1 else w).toNat < 2 ^ 50)
    (hsup : ∀ c ∈ Call.update first :: calls, ∀ x ∈ c.supplied .node m, x.toNat ≤ hi) :
    let s := (((new : Average N).init disks w).run (.update first :: calls)).2
    let e := suppliedAverage s.windowCount.toNat x0.toNat calls m
    ∃ v, m.get s.averageNodeData.monitoringData = some v ∧
      |(v.toNat : ℚ) - s.windowCount.toNat * e| ≤ s.windowCount.toNat / 2 ∧
      ∃ r, (s.report .node).bind m.get = some r ∧ getValueBinary64 v s.windowCount = r ∧ |(r.toNat : ℚ) - e| ≤ 1 := by
  intro s e
  have hw := init_windowCount_pos (new : Average N) disks w
  change hi * ((new : Average N).init disks w).windowCount.toNat < _ at hhi
  obtain ⟨-, -, v, hv, hvhi, hdist⟩ := seeded_run_tracks _ first calls rfl hw (by omega) hc hd hx0 hsup
  have hs : s.windowCount = ((new : Average N).init disks w).windowCount :=
    run_windowCount _ _ (List.forall_mem_cons.mpr ⟨rfl, hc⟩)
  have he : e = suppliedAverage ((new : Average N).init disks w).windowCount.toNat x0.toNat calls m :=
    congrArg (fun w : UInt64 => suppliedAverage w.toNat x0.toNat calls m) hs
  rw [he, hs]
  refine ⟨v, hv, hdist, getValue v ((new : Average N).init disks w).windowCount, ?_,
    getValueBinary64_eq_of_le hw hhi hvhi, ?_⟩
  · rw [report_eq, ← hs]
    simp [entry, get_getMonitoringData, s, hv]
  · rw [getValue_toNat v hw]
    exact rounded_share_tracks hw hdist

/-- Window 4, RAM 10 then 0 twice: the sums are 40, 30 and 22 against `w * e` = 40, 30
    and 22.5, and the report 6 against the average 5.625. -/
theorem node_tracks_ema_window_four :
    let first : NodeMonitoringData := ⟨⟨0, 10, [], 0, 0⟩, []⟩
    let calls := [Call.update ⟨MonitoringData.zero [], []⟩, .getData, .update ⟨MonitoringData.zero [], []⟩]
    (∀ c ∈ calls, c.isInit = false) ∧ (∀ c ∈ Call.update first :: calls, c.keepsDisks 0 = true) ∧
    Metric.ram.get first.monitoringData = some 10 ∧
    10 * (if (4 : UInt64) = 0 then (1 : UInt64) else 4).toNat < 2 ^ 50 ∧
    (∀ c ∈ Call.update first :: calls, ∀ x ∈ c.supplied .node .ram, x.toNat ≤ 10) ∧
    let s := (((new : Average 1).init [] 4).run (.update first :: calls)).2
    let e := suppliedAverage s.windowCount.toNat (10 : UInt64).toNat calls .ram
    ∃ v, Metric.ram.get s.averageNodeData.monitoringData = some v ∧
      |(v.toNat : ℚ) - s.windowCount.toNat * e| ≤ s.windowCount.toNat / 2 ∧
      ∃ r, (s.report .node).bind Metric.ram.get = some r ∧ getValueBinary64 v s.windowCount = r ∧
        |(r.toNat : ℚ) - e| ≤ 1 := by
  intro first calls
  exact ⟨by decide, by decide, rfl, by decide, by decide,
    node_tracks_ema [] 4 first calls .ram 10 10 (by decide) (by decide) rfl (by decide) (by decide)⟩

end Node

end Average

end Aos.Monitoring
