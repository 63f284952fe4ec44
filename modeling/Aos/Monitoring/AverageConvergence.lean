/-
  Aos.Monitoring.AverageConvergence — a constant input is reported exactly after a
  bounded number of updates.

  Fed the same value `y` at every `Update`, a seeded sum `v` of window `w` becomes
  `v - GetValue(v, w) + y`. It stays put exactly when `GetValue(v, w) = y`, and
  otherwise moves at least 1 closer to `w * y` (`closer_of_rounded_ne`), so the
  rounding never holds the reported average away from a constant input. `gap` is the
  distance of the sum from `w * y`, or 0 once `GetValue` gives `y`: each such update
  lowers it by 1 until it is 0, where it stays (`gap_step`), and it is at most
  `w * (|r - y| + 1)` for the average `r` reported before (`gap_le`).

  Proved: `updateMonitoringData_converges` (one entry), `step_converges` and
  `run_converges` (every call but `Init` on the node, every run), and
  `node_reports_constant`: after `Init(disks, w)` of a fresh `Average`, an `Update`
  that seeds the node and any calls but `Init` keeping the disk count, with values of at
  most `hi` and `hi * w < 2^50` (so that `GetValue`'s `double` arithmetic is the exact
  rounding, as in `node_tracks_ema`), if `GetData` reports `r` for a metric of the node
  and the calls that follow supply only `y` for it, at least `w * (|r - y| + 1)` times,
  then `GetData` reports exactly `y`, and so does the code's `GetValue` of the sum.
-/

import Aos.Monitoring.AverageTracking
import Mathlib.Data.Nat.Dist

namespace Aos.Monitoring

/-! ## One update of a sum -/

/-- Unless `GetValue` already gives `y`, an update with `y` moves the sum at least 1
    closer to `w * y`: with `g = ⌊v / w + 1/2⌋ > y` the sum is above `w * y + w / 2`
    and loses `g - y ≤ (w * g - w * y) - (w - 1)`; the case `g < y` is symmetric. -/
theorem closer_of_rounded_ne {v w y : Nat} (hw : 0 < w) (hne : (2 * v + w) / (2 * w) ≠ y) :
    Nat.dist (v - (2 * v + w) / (2 * w) + y) (w * y) < Nat.dist v (w * y) := by
  have hg := rounded_le_self v hw
  have h1 := Nat.div_mul_le_self (2 * v + w) (2 * w)
  have h2 := Nat.lt_mul_div_succ (2 * v + w) (show 0 < 2 * w by omega)
  generalize (2 * v + w) / (2 * w) = g at *
  rw [Nat.mul_comm g, Nat.mul_assoc] at h1
  rw [Nat.mul_assoc, Nat.mul_succ] at h2
  rcases Nat.lt_or_gt_of_ne hne with hlt | hgt
  · obtain ⟨d, rfl⟩ : ∃ d, y = g + d + 1 := ⟨y - g - 1, by omega⟩
    have hd : d ≤ w * d := Nat.le_mul_of_pos_left d hw
    rw [Nat.mul_succ, Nat.mul_add, Nat.dist_eq_sub_of_le (by omega)]
    unfold Nat.dist
    omega
  · obtain ⟨d, rfl⟩ : ∃ d, g = y + d + 1 := ⟨g - y - 1, by omega⟩
    have hd : d ≤ w * d := Nat.le_mul_of_pos_left d hw
    simp only [Nat.mul_succ, Nat.mul_add] at h1 h2
    rw [Nat.dist_eq_sub_of_le_right (by omega)]
    unfold Nat.dist
    omega

/-- How far a sum `v` is from reporting `y`: 0 once `GetValue` gives `y`, otherwise its
    distance from `w * y`. -/
def gap (w y v : Nat) : Nat := if (2 * v + w) / (2 * w) = y then 0 else Nat.dist v (w * y)

theorem gap_le_dist (w y v : Nat) : gap w y v ≤ Nat.dist v (w * y) := by
  unfold gap
  split
  · exact Nat.zero_le _
  · exact le_rfl

/-- One update with `y` lowers the gap by 1 until it is 0. -/
theorem gap_step {v w y : Nat} (hw : 0 < w) : gap w y (v - (2 * v + w) / (2 * w) + y) ≤ gap w y v - 1 := by
  by_cases h : (2 * v + w) / (2 * w) = y
  · have hv : v - (2 * v + w) / (2 * w) + y = v := by
      rw [h]; exact Nat.sub_add_cancel (h ▸ rounded_le_self v hw)
    have h0 : gap w y v = 0 := if_pos h
    rw [hv, h0]
  · have hv : gap w y v = Nat.dist v (w * y) := if_neg h
    have := closer_of_rounded_ne hw h
    have := gap_le_dist w y (v - (2 * v + w) / (2 * w) + y)
    omega

theorem rounded_eq_of_gap_eq_zero {v w y : Nat} (hw : 0 < w) (h : gap w y v = 0) : (2 * v + w) / (2 * w) = y := by
  unfold gap at h
  split at h
  · assumption
  · rw [Nat.eq_of_dist_eq_zero h, show 2 * (w * y) + w = w + y * (2 * w) by ring,
      Nat.add_mul_div_right _ _ (by omega), Nat.div_eq_of_lt (by omega), Nat.zero_add]

/-- A sum whose reported average is `r` is within `w * (|r - y| + 1)` of reporting `y`. -/
theorem gap_le {v w y : Nat} (hw : 0 < w) : gap w y v ≤ w * (Nat.dist ((2 * v + w) / (2 * w)) y + 1) := by
  have h1 := Nat.div_mul_le_self (2 * v + w) (2 * w)
  have h2 := Nat.lt_mul_div_succ (2 * v + w) (show 0 < 2 * w by omega)
  have ht := Nat.dist.triangle_inequality v (w * ((2 * v + w) / (2 * w))) (w * y)
  rw [Nat.dist_mul_left] at ht
  generalize (2 * v + w) / (2 * w) = g at *
  have e2 : g * (2 * w) = 2 * (w * g) := by ring
  have e3 : 2 * w * (g + 1) = 2 * (w * g) + 2 * w := by ring
  rw [e2] at h1; rw [e3] at h2
  have hd : Nat.dist v (w * g) ≤ w := by unfold Nat.dist; omega
  have := gap_le_dist w y v
  rw [Nat.mul_add, Nat.mul_one]
  omega

namespace Average

variable {N : Nat}

/-- The entry is seeded, has `n` disks, and its sum `v` of metric `m` is at most `hi * w`
    and at most `k` from reporting `y`. -/
def Converging (n hi w : Nat) (m : Metric) (y k : Nat) (data : AverageData) : Prop :=
  data.isInitialized = true ∧ data.monitoringData.disk.length = n ∧
    ∃ v, m.get data.monitoringData = some v ∧ v.toNat ≤ hi * w ∧ gap w y v.toNat ≤ k

/-! ## One entry, the node over a run -/

section Node

variable {n hi : Nat} {m : Metric} {y : UInt64} {k : Nat}

theorem updateMonitoringData_converges {window : UInt64} (hw : 0 < window.toNat)
    (hhi : hi * window.toNat < 18446744073709551616) (hy : y.toNat ≤ hi) {data : AverageData}
    {newData : MonitoringData} (h : Converging n hi window.toNat m y.toNat k data) (hl : newData.disk.length = n)
    (hsup : ∀ x, m.get newData = some x → x = y) :
    m.get newData = some y ∧
      Converging n hi window.toNat m y.toNat (k - 1) (updateMonitoringData window data newData).1 := by
  obtain ⟨hs, hn, v, hv, hvhi, hgap⟩ := h
  obtain ⟨x, u, hx, hu, hut, huhi, hs', hn'⟩ :=
    updateMonitoringData_seeded hw hhi hs hn hl hv hvhi fun x hx => hsup x hx ▸ hy
  obtain rfl := hsup x hx
  exact ⟨hx, hs', hn', u, hu, huhi, by rw [hut]; exact (gap_step hw).trans (Nat.sub_le_sub_right hgap 1)⟩

/-- One call other than `Init`, whose node data keep `n` disks and supply only `y`,
    lowers the node's gap by the number of values it supplies. -/
theorem step_converges (a : Average N) (c : Call) (hc : c.isInit = false) (hd : c.keepsDisks n = true)
    (hw : 0 < a.windowCount.toNat) (hhi : hi * a.windowCount.toNat < 18446744073709551616) (hy : y.toNat ≤ hi)
    (hsup : ∀ x ∈ c.supplied .node m, x = y) (ha : Converging n hi a.windowCount.toNat m y.toNat k a.averageNodeData) :
    Converging n hi a.windowCount.toNat m y.toNat (k - (c.supplied .node m).length) (a.step c).1.averageNodeData := by
  cases c with
  | init => cases hc
  | getData => exact ha
  | update data =>
    obtain ⟨hx, ht⟩ := updateMonitoringData_converges hw hhi hy ha (beq_iff_eq.mp hd)
      fun x hx => hsup x (by simp [Call.supplied, hx])
    rw [step_update, update_averageNodeData]
    simpa [Call.supplied, hx] using ht
  | startInstanceMonitoring monitoringConfig =>
    rw [step_startInstanceMonitoring, (startInstanceMonitoring_frame a monitoringConfig).2]
    exact ha
  | stopInstanceMonitoring instanceIdent =>
    rw [step_stopInstanceMonitoring, (stopInstanceMonitoring_frame a instanceIdent).2]
    exact ha

theorem run_converges (a : Average N) (calls : List Call) (hc : ∀ c ∈ calls, c.isInit = false)
    (hd : ∀ c ∈ calls, c.keepsDisks n = true) (hw : 0 < a.windowCount.toNat)
    (hhi : hi * a.windowCount.toNat < 18446744073709551616) (hy : y.toNat ≤ hi)
    (hsup : ∀ c ∈ calls, ∀ x ∈ c.supplied .node m, x = y)
    (ha : Converging n hi a.windowCount.toNat m y.toNat k a.averageNodeData) :
    Converging n hi a.windowCount.toNat m y.toNat (k - (calls.flatMap (·.supplied .node m)).length)
      (a.run calls).2.averageNodeData := by
  induction calls generalizing a k with
  | nil => exact ha
  | cons c cs ih =>
    have mem := List.mem_cons_self c cs
    have hwc := step_windowCount a c (hc c mem)
    have hstep := step_converges a c (hc c mem) (hd c mem) hw hhi hy (hsup c mem) ha
    rw [run_cons, List.flatMap_cons, List.length_append, ← Nat.sub_sub, ← hwc]
    rw [← hwc] at hstep hw hhi
    exact ih _ (fun c' h => hc c' (List.mem_cons_of_mem _ h)) (fun c' h => hd c' (List.mem_cons_of_mem _ h)) hw hhi
      (fun c' h => hsup c' (List.mem_cons_of_mem _ h)) hstep

end Node

/-- What `GetData` reports for a metric of the node: `GetValue` of its sum. -/
theorem report_node_bind (a : Average N) {m : Metric} {v : UInt64} (hv : m.get a.averageNodeData.monitoringData = some v) :
    (a.report .node).bind m.get = some (getValue v a.windowCount) := by
  simp [report_eq, entry, get_getMonitoringData, hv]

/-- After `Init(disks, w)` of a fresh `Average`, an `Update` seeding the node and any
    calls but `Init` keeping its disk count with values of at most `hi` (`hi * w < 2^50`):
    if `GetData` then reports `r` for metric `m` of the node, and the calls that follow,
    none of them `Init`, keep the disk count and supply only `y ≤ hi` for it, at least
    `w * (|r - y| + 1)` times, then `GetData` reports exactly `y`. The sums stay at most
    `hi * w`, where `GetValue`'s `double` arithmetic is the exact rounding: the code's
    `GetValue` of the final sum is `y` too. -/
theorem node_reports_constant (disks : List PartitionInfo) (w : UInt64) (first : NodeMonitoringData)
    (pre post : List Call) (m : Metric) (hi : Nat) (x0 y r : UInt64) (hc : ∀ c ∈ pre ++ post, c.isInit = false)
    (hd : ∀ c ∈ Call.update first :: (pre ++ post), c.keepsDisks disks.length = true)
    (hx0 : m.get first.monitoringData = some x0)
    (hhi : hi * (if w = 0 then 1 else w).toNat < 2 ^ 50)
    (hsup : ∀ c ∈ Call.update first :: pre, ∀ x ∈ c.supplied .node m, x.toNat ≤ hi) (hy : y.toNat ≤ hi)
    (hpost : ∀ c ∈ post, ∀ x ∈ c.supplied .node m, x = y)
    (hr : ((((new : Average N).init disks w).run (.update first :: pre)).2.report .node).bind m.get = some r)
    (hcount : (if w = 0 then 1 else w).toNat * (Nat.dist r.toNat y.toNat + 1) ≤
      (post.flatMap (·.supplied .node m)).length) :
    let s := (((new : Average N).init disks w).run (.update first :: (pre ++ post))).2
    (s.report .node).bind m.get = some y ∧
      ∃ u, m.get s.averageNodeData.monitoringData = some u ∧ getValueBinary64 u s.windowCount = y := by
  intro s
  have hw0 := init_windowCount_pos (new : Average N) disks w
  have hwpre : (((new : Average N).init disks w).run (.update first :: pre)).2.windowCount =
      ((new : Average N).init disks w).windowCount :=
    run_windowCount _ _ (List.forall_mem_cons.mpr ⟨rfl, fun c h => hc c (List.mem_append_left _ h)⟩)
  change hi * ((new : Average N).init disks w).windowCount.toNat < _ at hhi
  change ((new : Average N).init disks w).windowCount.toNat * _ ≤ _ at hcount
  obtain ⟨hs, hn, v, hv, hvhi, -⟩ := seeded_run_tracks _ first pre rfl hw0 (by omega)
    (fun c h => hc c (List.mem_append_left _ h))
    (List.forall_mem_cons.mpr ⟨hd _ (List.mem_cons_self _ _), fun c h => hd c (List.mem_cons_of_mem _
      (List.mem_append_left _ h))⟩) hx0 hsup
  rw [report_node_bind _ hv, Option.some.injEq] at hr
  have hs0 : s = ((((new : Average N).init disks w).run (.update first :: pre)).2.run post).2 := by
    rw [← run_append_state, List.cons_append]
  rw [hs0]
  generalize (((new : Average N).init disks w).run (.update first :: pre)).2 = s0 at *
  rw [← hwpre] at hw0 hhi hcount hvhi
  have hgap := gap_le (y := y.toNat) (v := v.toNat) hw0
  rw [← getValue_toNat v hw0, hr] at hgap
  obtain ⟨-, -, u, hu, huhi, hu0⟩ := run_converges s0 post (fun c h => hc c (List.mem_append_right _ h))
    (fun c h => hd c (List.mem_cons_of_mem _ (List.mem_append_right _ h))) hw0 (by omega) hy hpost
    ⟨hs, hn, v, hv, hvhi, le_rfl⟩
  have hy' : getValue u s0.windowCount = y :=
    UInt64.toNat.inj ((getValue_toNat u hw0).trans (rounded_eq_of_gap_eq_zero hw0 (by omega)))
  have hwc : (s0.run post).2.windowCount = s0.windowCount :=
    run_windowCount s0 post fun c h => hc c (List.mem_append_right _ h)
  rw [hwc]
  exact ⟨by rw [report_node_bind _ hu, hwc, hy'], u, hu, (getValueBinary64_eq_of_le hw0 hhi huhi).trans hy'⟩

/-- Window 2, RAM 3 to seed (reported 3), then eight updates with RAM 0: reported 0. -/
theorem node_reports_constant_window_two :
    let first : NodeMonitoringData := ⟨⟨0, 3, [], 0, 0⟩, []⟩
    let post := List.replicate 8 (Call.update ⟨MonitoringData.zero [], []⟩)
    (∀ c ∈ [] ++ post, c.isInit = false) ∧ (∀ c ∈ Call.update first :: ([] ++ post), c.keepsDisks 0 = true) ∧
    Metric.ram.get first.monitoringData = some 3 ∧
    3 * (if (2 : UInt64) = 0 then (1 : UInt64) else 2).toNat < 2 ^ 50 ∧
    (∀ c ∈ [Call.update first], ∀ x ∈ c.supplied .node .ram, x.toNat ≤ 3) ∧ (0 : UInt64).toNat ≤ 3 ∧
    (∀ c ∈ post, ∀ x ∈ c.supplied .node .ram, x = 0) ∧
    ((((new : Average 1).init [] 2).run [.update first]).2.report .node).bind Metric.ram.get = some 3 ∧
    (if (2 : UInt64) = 0 then (1 : UInt64) else 2).toNat * (Nat.dist (3 : UInt64).toNat (0 : UInt64).toNat + 1) ≤
      (post.flatMap (·.supplied .node .ram)).length ∧
    let s := (((new : Average 1).init [] 2).run (.update first :: ([] ++ post))).2
    (s.report .node).bind Metric.ram.get = some 0 ∧
      ∃ u, Metric.ram.get s.averageNodeData.monitoringData = some u ∧ getValueBinary64 u s.windowCount = 0 := by
  intro first post
  exact ⟨by decide, by decide, rfl, by decide, by decide, by decide, by decide, by decide, by decide,
    node_reports_constant [] 2 first [] post .ram 3 3 0 3 (by decide) (by decide) rfl (by decide) (by decide)
      (by decide) (by decide) (by decide) (by decide)⟩

end Average

end Aos.Monitoring
