/-
  Aos.Monitoring.AverageBounds — the running sums of `Average` stay in range.

  A metric is the RAM, download or upload amount, or one disk's used size
  (`Metric`), of the node or of one instance (`Target`). Feed an `Average`, after
  `Init(disks, w)`, any calls but `Init`. From a point where the target is absent or
  unseeded (`Init` for the node, its `StartInstanceMonitoring` for an instance), let
  every value supplied for one metric of it lie in `[lo, hi]` with `hi * w < 2^64` (`w`
  the window `Init` set). Then once the target's sums are seeded (`mIsInitialized`),
  that metric's sum lies in `[lo * w, hi * w]`, so `value - GetValue(value, window)`
  never wraps, and the average `GetData` reports lies in `[lo, hi]`.

  The arithmetic is one step: a sum `v` in `[lo * w, hi * w]` loses its rounded
  share `g = ⌊v / w + 1/2⌋`, with `lo ≤ g ≤ hi` and `lo * (w - 1) ≤ v - g ≤ hi * (w - 1)`
  (`sub_rounded_bounds`), and gains a value in `[lo, hi]`.

  Proved: `getValueBinary64_eq_getValue`, the code's `double` computation of `GetValue`
  is the exact rounding while `2 * value + 2 * window ≤ 2^52`, and from `2^52` on it can
  exceed the sum itself (`getValueBinary64_tie`; `average_bounds` takes the rounding
  exactly up to `2^64`);
  `updateMonitoringData_inRange` (one entry), `updateInstances_inRange` (the
  instance loop), `step_inRange` and `run_inRange` (every call but `Init`, every run),
  `average_bounds` (from `Init` of a fresh `Average`, values constrained only after the
  target's start). Before its sums are seeded an entry's disk used sizes are the raw
  sizes `Init` or `StartInstanceMonitoring` stored, which an `Update` with a disk-count
  mismatch leaves in place (`average_bounds_unseeded_disk`).
-/

import Aos.Monitoring.Average
import Aos.Tools.Int64
import Mathlib.Tactic.Ring
import Mathlib.Tactic.LinearCombination

namespace Aos.Monitoring

/-! ## Rounding -/

theorem rounded_ge {v w lo : Nat} (hw : 0 < w) (h : lo * w ≤ v) : lo ≤ (2 * v + w) / (2 * w) := by
  rw [Nat.le_div_iff_mul_le (by omega), Nat.mul_left_comm]; omega

theorem rounded_le {v w hi : Nat} (hw : 0 < w) (h : v ≤ hi * w) : (2 * v + w) / (2 * w) ≤ hi := by
  rw [← Nat.lt_succ_iff, Nat.div_lt_iff_lt_mul (by omega), Nat.mul_left_comm, Nat.succ_mul hi]; omega

theorem rounded_le_self (v : Nat) {w : Nat} (hw : 0 < w) : (2 * v + w) / (2 * w) ≤ v :=
  rounded_le hw (Nat.le_mul_of_pos_right v hw)

/-- A sum in `[lo * w, hi * w]` less its rounded share `g = ⌊v / w + 1/2⌋` stays in
    `[lo * (w - 1), hi * (w - 1)]`. With `v = lo * w + t` the share is `lo` plus the
    share of `t`, at most `t`; with `hi * w = v + t` it is at least `hi - t`, as
    `(hi - t) * 2w ≤ 2v + w` when `t ≤ t * w`. -/
theorem sub_rounded_bounds {v w lo hi : Nat} (hw : 0 < w) (h1 : lo * w ≤ v) (h2 : v ≤ hi * w) :
    lo * w ≤ v - (2 * v + w) / (2 * w) + lo ∧ v - (2 * v + w) / (2 * w) + hi ≤ hi * w := by
  have hg := rounded_le_self v hw
  constructor
  · obtain ⟨t, rfl⟩ := Nat.exists_eq_add_of_le h1
    have hs : (2 * (lo * w + t) + w) / (2 * w) = (2 * t + w) / (2 * w) + lo := by
      rw [show 2 * (lo * w + t) + w = 2 * t + w + lo * (2 * w) by ring, Nat.add_mul_div_right _ _ (by omega)]
    have := rounded_le_self t hw
    omega
  · obtain ⟨t, ht⟩ := Nat.exists_eq_add_of_le h2
    have hs : hi - t ≤ (2 * v + w) / (2 * w) := by
      rw [Nat.le_div_iff_mul_le (by omega), Nat.sub_mul, Nat.mul_left_comm hi, Nat.mul_left_comm t]
      have := Nat.le_mul_of_pos_right t hw
      omega
    omega

/-! ## `GetValue` and `UpdateValue` on `uint64_t` -/

theorem getValue_toNat (v : UInt64) {w : UInt64} (hw : 0 < w.toNat) :
    (getValue v w).toNat = (2 * v.toNat + w.toNat) / (2 * w.toNat) := by
  have := rounded_le_self v.toNat hw
  have := UInt64.toNat_lt v
  rw [getValue, UInt64.toNat_ofNat_of_lt (by rw [UInt64.size]; omega)]

/-- The rounded share of a sum is never more than the sum: `value -= GetValue(value,
    window)` does not wrap. -/
theorem getValue_le (v : UInt64) {w : UInt64} (hw : 0 < w.toNat) : getValue v w ≤ v := by
  show (getValue v w).toNat ≤ v.toNat
  rw [getValue_toNat v hw]; exact rounded_le_self _ hw

/-- `UpdateValue<uint64_t>` without wrapping: a seeded sum of at most `hi * w` and a value of
    at most `hi`, with `hi * w < 2^64`. -/
theorem updateValueU64_toNat {hi : Nat} (v x w : UInt64) (b : Bool) (hw : 0 < w.toNat)
    (hhi : hi * w.toNat < 18446744073709551616) (hx : x.toNat ≤ hi) (hv : b = true → v.toNat ≤ hi * w.toNat) :
    (updateValueU64 v x w b).toNat =
      if b then v.toNat - (2 * v.toNat + w.toNat) / (2 * w.toNat) + x.toNat else x.toNat * w.toNat := by
  rw [updateValueU64_eq]
  cases b with
  | false =>
    have := Nat.mul_le_mul_right w.toNat hx
    simp only [Bool.false_eq_true, if_false, UInt64.toNat_mul, UInt64.size]
    exact Nat.mod_eq_of_lt (by omega)
  | true =>
    have hg := rounded_le_self v.toNat hw
    have hs := sub_rounded_bounds hw (by rw [Nat.zero_mul]; exact Nat.zero_le _) (hv rfl)
    have := UInt64.toNat_lt v
    simp only [if_true, UInt64.toNat_add, UInt64.toNat_sub, UInt64.size, getValue_toNat v hw]
    omega

/-- Seeding or stepping a sum keeps it in `[lo * w, hi * w]`. -/
theorem updateValueU64_inRange {lo hi : Nat} (v x w : UInt64) (b : Bool) (hw : 0 < w.toNat)
    (hhi : hi * w.toNat < 18446744073709551616) (hx : lo ≤ x.toNat ∧ x.toNat ≤ hi)
    (hv : b = true → lo * w.toNat ≤ v.toNat ∧ v.toNat ≤ hi * w.toNat) :
    lo * w.toNat ≤ (updateValueU64 v x w b).toNat ∧ (updateValueU64 v x w b).toNat ≤ hi * w.toNat := by
  rw [updateValueU64_toNat v x w b hw hhi hx.2 fun hb => (hv hb).2]
  cases b with
  | false => exact ⟨Nat.mul_le_mul_right _ hx.1, Nat.mul_le_mul_right _ hx.2⟩
  | true =>
    obtain ⟨h1, h2⟩ := hv rfl
    have hs := sub_rounded_bounds hw h1 h2
    simp only [if_true]
    omega

/-! ## `GetValue` through `double` -/

/-- The floor of the code's `double` computation is the exact rounding `k = ⌊v / w + 1/2⌋`
    while `2 * v + 2 * w ≤ 2^52`. Either `v / w + 1/2 = k`, and each rounding is exact
    (`round_exact`), or `v / w + 1/2` lies at least `1 / (2w)` inside `(k, k + 1)`, more than
    the two roundings, each off by at most `2^-53` of its value, can move it. -/
theorem floor_round_share {v w : ℕ} (hw : 0 < w) (h : 2 * v + 2 * w ≤ 2 ^ 52) :
    ⌊Binary64.round (Binary64.round ((v : ℚ) / w) + 1 / 2)⌋₊ = (2 * v + w) / (2 * w) := by
  have hd := Nat.div_add_mod (2 * v + w) (2 * w)
  have hr := Nat.mod_lt (2 * v + w) (show 0 < 2 * w by omega)
  generalize (2 * v + w) / (2 * w) = k at *
  generalize (2 * v + w) % (2 * w) = r at *
  have hw' : (0 : ℚ) < w := by exact_mod_cast hw
  have hk : k < 2 ^ 51 := by
    have := Nat.mul_le_mul_right k (show 2 ≤ 2 * w by omega)
    omega
  rcases Nat.eq_zero_or_pos r with rfl | hr0
  · -- `v / w + 1/2` is the integer `k`
    obtain _ | n := k
    · omega
    have hx : (v : ℚ) / w = ((2 * n + 1 : ℕ) : ℚ) * 2 ^ (-1 : ℤ) := by
      have : (2 * w * (n + 1) : ℚ) = 2 * v + w := by exact_mod_cast (by omega : 2 * w * (n + 1) = 2 * v + w)
      rw [div_eq_iff hw'.ne', zpow_neg_one]
      push_cast
      linear_combination (-1 / 2 : ℚ) * this
    have hp : ((2 * n + 1 : ℕ) : ℚ) * 2 ^ (-1 : ℤ) + 1 / 2 = ((n + 1 : ℕ) : ℚ) := by
      push_cast
      rw [zpow_neg_one]
      ring
    rw [hx, Binary64.round_exact _ _ (by omega), hp, Binary64.round_natCast (by omega), Nat.floor_natCast]
  · -- `v / w + 1/2` is strictly between `k` and `k + 1`; compare the errors times `w`
    have hxw : (v : ℚ) / w * w = v := div_mul_cancel₀ _ hw'.ne'
    have hq := abs_le.mp (Binary64.abs_round_sub_le (show (0 : ℚ) ≤ v / w by positivity))
    have hs := abs_le.mp (Binary64.abs_round_sub_le (add_nonneg (Binary64.round_nonneg ((v : ℚ) / w)) one_half_pos.le))
    generalize Binary64.round ((v : ℚ) / w) = q at *
    generalize Binary64.round (q + 1 / 2) = s at *
    have h1 : (2 * w * k + 1 : ℚ) ≤ 2 * v + w := by exact_mod_cast (by omega : 2 * w * k + 1 ≤ 2 * v + w)
    have h2 : (2 * v + w + 1 : ℚ) ≤ 2 * w * (k + 1) := by
      exact_mod_cast (by rw [Nat.mul_succ]; omega : 2 * v + w + 1 ≤ 2 * w * (k + 1))
    have hH : (2 * v + 2 * w : ℚ) ≤ 2 ^ 52 := by exact_mod_cast h
    have e1 := mul_le_mul_of_nonneg_right hq.1 hw'.le
    have e2 := mul_le_mul_of_nonneg_right hq.2 hw'.le
    have e3 := mul_le_mul_of_nonneg_right hs.1 hw'.le
    have e4 := mul_le_mul_of_nonneg_right hs.2 hw'.le
    have hw1 : (1 : ℚ) ≤ w := by exact_mod_cast hw
    have lo : (k : ℚ) ≤ s := le_of_mul_le_mul_right (by linarith only [e1, e3, hxw, h1, hH]) hw'
    rw [Nat.floor_eq_iff ((Nat.cast_nonneg k).trans lo)]
    exact ⟨lo, lt_of_mul_lt_mul_right (by linarith only [e2, e4, hxw, h2, hH, hw1]) hw'.le⟩

/-- `GetValue<uint64_t>` computes the exact rounding `getValue` while
    `2 * value + 2 * window ≤ 2^52`: the value and the window convert to `double`
    exactly, and `floor_round_share` does the rest. -/
theorem getValueBinary64_eq_getValue {value window : UInt64} (hw : 0 < window.toNat)
    (h : 2 * value.toNat + 2 * window.toNat ≤ 2 ^ 52) : getValueBinary64 value window = getValue value window := by
  rw [getValueBinary64, roundU64, getValue, Binary64.round_natCast (by omega), Binary64.round_natCast (by omega),
    floor_round_share hw h]

/-- A sum of 0 has the share 0 in both, whatever the window. -/
theorem getValueBinary64_zero (window : UInt64) : getValueBinary64 0 window = getValue 0 window := by
  have hhalf : Binary64.round (1 / 2) = 1 / 2 := by simpa using Binary64.round_exact 1 (-1) (by norm_num)
  have hw : window.toNat / (2 * window.toNat) = 0 := by
    rcases Nat.eq_zero_or_pos window.toNat with h | h
    · rw [h]
    · exact Nat.div_eq_of_lt (by omega)
  rw [getValueBinary64, roundU64, getValue, UInt64.toNat_zero, Nat.cast_zero, Binary64.round_zero, zero_div,
    Binary64.round_zero, zero_add, hhalf, Nat.floor_eq_zero.mpr (by norm_num), Nat.mul_zero, Nat.zero_add, hw]

/-- Past `2^52` the two part, and the code's `GetValue` can exceed the sum: with window 1
    an odd sum `v` in `[2^52, 2^53)` makes `v / w + 0.5` a tie, rounded to the even
    `v + 1`, so `value -= GetValue(value, window)` wraps. -/
theorem getValueBinary64_tie {v : ℕ} (h1 : 2 ^ 52 ≤ v) (h2 : v < 2 ^ 53) (hodd : v % 2 = 1) :
    getValue (UInt64.ofNat v) 1 = UInt64.ofNat v ∧ getValueBinary64 (UInt64.ofNat v) 1 = UInt64.ofNat (v + 1) := by
  have hv : (UInt64.ofNat v).toNat = v := UInt64.toNat_ofNat_of_lt (by rw [UInt64.size]; omega)
  have hone : Binary64.round ((1 : UInt64).toNat : ℚ) = 1 := by
    simpa using Binary64.round_natCast (n := 1) (by norm_num)
  refine ⟨by rw [getValue, hv]; congr 1; show (2 * v + 1) / (2 * 1) = v; omega, ?_⟩
  rw [getValueBinary64, roundU64, hv, hone, Binary64.round_natCast h2, div_one, Binary64.round_natCast h2,
    Binary64.round_tie h1 h2 hodd, show (v : ℚ) + 1 = ((v + 1 : ℕ) : ℚ) by push_cast; ring, Nat.floor_natCast]

/-- Sums of at most `hi * w < 2^50` are below the point where the code's `GetValue` and
    the exact rounding part. -/
theorem getValueBinary64_eq_of_le {hi : Nat} {v w : UInt64} (hw : 0 < w.toNat) (hhi : hi * w.toNat < 2 ^ 50)
    (hv : v.toNat ≤ hi * w.toNat) : getValueBinary64 v w = getValue v w := by
  rcases Nat.eq_zero_or_pos hi with rfl | hpos
  · rw [show v = 0 from UInt64.toNat.inj (by rw [Nat.zero_mul] at hv; simpa using hv)]
    exact getValueBinary64_zero w
  · have := Nat.le_mul_of_pos_left w.toNat hpos
    exact getValueBinary64_eq_getValue hw (by omega)

/-! ## Metrics -/

/-- Whose sums: the node's or one instance's. -/
inductive Target where
  | node
  | inst (id : InstanceIdent)
  deriving DecidableEq

/-- The integer amounts of `MonitoringData`. -/
inductive Metric where
  | ram
  | download
  | upload
  | disk (i : Nat)
  deriving DecidableEq

def Metric.get : Metric → MonitoringData → Option UInt64
  | .ram, d => some d.ram
  | .download, d => some d.download
  | .upload, d => some d.upload
  | .disk i, d => d.disk[i]?.map PartitionInfo.usedSize

/-- A seeded entry's sum of metric `m` lies in `[lo * w, hi * w]`. -/
def SumInRange (lo hi w : Nat) (m : Metric) (data : AverageData) : Prop :=
  data.isInitialized = true → ∀ v, m.get data.monitoringData = some v → lo * w ≤ v.toNat ∧ v.toNat ≤ hi * w

namespace Average

variable {N : Nat}

def entry (a : Average N) : Target → Option AverageData
  | .node => some a.averageNodeData
  | .inst id => a.averageInstancesData.at id

/-- What `GetData` reports for a target. -/
def report (a : Average N) : Target → Option MonitoringData
  | .node => some a.getData.monitoringData
  | .inst id => (a.getData.serviceInstances.find? (·.instanceIdent == id)).map (·.monitoringData)

/-- The values a call supplies for metric `m` of a target. -/
def Call.supplied : Call → Target → Metric → List UInt64
  | .update data, .node, m => (m.get data.monitoringData).toList
  | .update data, .inst id, m =>
    data.serviceInstances.filterMap fun i => if i.instanceIdent = id then m.get i.monitoringData else none
  | _, _, _ => []

/-- Every entry of the target holds its metric in range. -/
def Bounded (lo hi : Nat) (t : Target) (m : Metric) (a : Average N) : Prop :=
  ∀ data, a.entry t = some data → SumInRange lo hi a.windowCount.toNat m data

end Average

/-! ## What `GetData` reports -/

theorem lookup_eq_find {K V : Type} [DecidableEq K] (l : List (K × V)) (k : K) :
    l.lookup k = (l.find? (·.1 == k)).map (·.2) := by
  induction l with
  | nil => rfl
  | cons p l ih =>
    obtain ⟨k', v⟩ := p
    by_cases h : k = k'
    · subst h; simp
    · rw [lookup_cons_ne h, ih, List.find?_cons_of_neg]
      simpa using Ne.symm h

theorem get_getMonitoringData (m : Metric) (w : UInt64) (d : MonitoringData) :
    m.get (Average.getMonitoringData w d) = (m.get d).map (getValue · w) := by
  cases m <;> simp [Metric.get, Average.getMonitoringData, Option.map_map, Function.comp_def]

theorem get_eq_none_iff_of_length (m : Metric) {d d' : MonitoringData} (hl : d.disk.length = d'.disk.length) :
    m.get d = none ↔ m.get d' = none := by
  cases m <;> simp [Metric.get, hl]

/-- Under matching disk counts every metric takes the step of `UpdateValue`. -/
theorem get_updateMonitoringData_eq_some {window : UInt64} {data : AverageData} {newData : MonitoringData}
    (m : Metric) {u : UInt64} (hl : data.monitoringData.disk.length = newData.disk.length) :
    m.get (Average.updateMonitoringData window data newData).1.monitoringData = some u ↔
      ∃ v x, m.get data.monitoringData = some v ∧ m.get newData = some x ∧
        updateValueU64 v x window data.isInitialized = u := by
  rw [Average.updateMonitoringData_match hl]
  cases m with
  | disk i =>
    simp only [Metric.get, Option.map_eq_some', List.getElem?_zipWith_eq_some]
    constructor
    · rintro ⟨_, ⟨a, b, ha, hb, rfl⟩, rfl⟩
      exact ⟨_, _, ⟨a, ha, rfl⟩, ⟨b, hb, rfl⟩, rfl⟩
    · rintro ⟨_, _, ⟨a, ha, rfl⟩, ⟨b, hb, rfl⟩, rfl⟩
      exact ⟨_, ⟨a, b, ha, hb, rfl⟩, rfl⟩
  | _ => simp [Metric.get]

theorem Average.report_eq {N : Nat} (a : Average N) (t : Target) :
    a.report t = (a.entry t).map fun d => getMonitoringData a.windowCount d.monitoringData := by
  cases t with
  | node => rfl
  | inst id =>
    simp only [report, entry, getData, StaticMap.at, lookup_eq_find, List.find?_map, Option.map_map]
    rfl

/-! ## One entry, the instance loop, one call -/

section Step

variable {lo hi : Nat} {window : UInt64} {m : Metric}

theorem updateMonitoringData_inRange (hw : 0 < window.toNat) (hhi : hi * window.toNat < 18446744073709551616)
    {data : AverageData} {newData : MonitoringData}
    (hnew : ∀ x, m.get newData = some x → lo ≤ x.toNat ∧ x.toNat ≤ hi)
    (hdata : SumInRange lo hi window.toNat m data) :
    SumInRange lo hi window.toNat m (Average.updateMonitoringData window data newData).1 := by
  intro hinit u hu
  by_cases hl : data.monitoringData.disk.length = newData.disk.length
  · obtain ⟨v, x, hv, hx, rfl⟩ := (get_updateMonitoringData_eq_some m hl).mp hu
    exact updateValueU64_inRange v x window _ hw hhi (hnew x hx) fun h => hdata h v hv
  · rw [Average.updateMonitoringData_mismatch hl] at hu hinit
    cases m with
    | disk i => exact hdata hinit u hu
    | _ =>
      simp only [Metric.get, Option.some.injEq] at hu hnew hdata
      subst hu
      exact updateValueU64_inRange _ _ window _ hw hhi (hnew _ rfl) fun h => hdata h _ rfl

theorem updateInstances_inRange {N : Nat} (hw : 0 < window.toNat) (hhi : hi * window.toNat < 18446744073709551616)
    (id : InstanceIdent) (instances : List InstanceMonitoringData)
    (hsup : ∀ i ∈ instances, i.instanceIdent = id → ∀ x, m.get i.monitoringData = some x → lo ≤ x.toNat ∧ x.toNat ≤ hi)
    (mp : StaticMap InstanceIdent AverageData N)
    (hm : ∀ d, mp.at id = some d → SumInRange lo hi window.toNat m d) :
    ∀ d, (Average.updateInstances window mp instances).1.at id = some d → SumInRange lo hi window.toNat m d := by
  induction instances generalizing mp with
  | nil => exact hm
  | cons inst rest ih =>
    rw [Average.updateInstances_cons]
    split
    · exact hm
    · next data hdata =>
      have hset : ∀ d, (mp.set inst.instanceIdent (Average.updateMonitoringData window data inst.monitoringData).1).at id =
          some d → SumInRange lo hi window.toNat m d := by
        intro d hd
        rw [StaticMap.at_set] at hd
        split at hd
        · next e =>
          subst e
          rw [hdata] at hd
          cases hd
          exact updateMonitoringData_inRange hw hhi (hsup inst (List.mem_cons_self _ _) rfl) (hm _ hdata)
        · exact hm d hd
      split
      · exact hset
      · exact ih (fun i hi' => hsup i (List.mem_cons_of_mem _ hi')) _ hset

end Step

namespace Average

variable {N : Nat} {lo hi : Nat} {t : Target} {m : Metric}

/-- One call other than `Init`, fed values in `[lo, hi]`, keeps the bound. -/
theorem step_inRange (a : Average N) (c : Call) (hc : c.isInit = false) (hw : 0 < a.windowCount.toNat)
    (hhi : hi * a.windowCount.toNat < 18446744073709551616)
    (hsup : ∀ x ∈ c.supplied t m, lo ≤ x.toNat ∧ x.toNat ≤ hi) (ha : Bounded lo hi t m a) :
    Bounded lo hi t m (a.step c).1 := by
  cases c with
  | init => cases hc
  | getData => exact ha
  | update data =>
    simp only [step_update]
    unfold Bounded
    rw [update_windowCount]
    cases t with
    | node =>
      rintro d ⟨⟩
      rw [update_averageNodeData]
      exact updateMonitoringData_inRange hw hhi (fun x hx => hsup x (by simp [Call.supplied, hx]))
        (ha _ rfl)
    | inst id =>
      have hsup' : ∀ i ∈ data.serviceInstances, i.instanceIdent = id → ∀ x, m.get i.monitoringData = some x →
          lo ≤ x.toNat ∧ x.toNat ≤ hi := fun i hi' e x hx =>
        hsup x (List.mem_filterMap.mpr ⟨i, hi', by simp [e, hx]⟩)
      rw [update_eq]
      split
      · exact updateInstances_inRange hw hhi id _ hsup' _ ha
      · exact ha
  | startInstanceMonitoring monitoringConfig =>
    simp only [step_startInstanceMonitoring]
    obtain ⟨hwc, hnode⟩ := startInstanceMonitoring_frame a monitoringConfig
    intro d hd
    rw [hwc]
    cases t with
    | node => rw [entry, hnode] at hd; exact ha d hd
    | inst id =>
      simp only [entry, startInstanceMonitoring_at] at hd
      split at hd
      · cases hd; intro h; cases h
      · exact ha d hd
  | stopInstanceMonitoring instanceIdent =>
    simp only [step_stopInstanceMonitoring]
    obtain ⟨hwc, hnode⟩ := stopInstanceMonitoring_frame a instanceIdent
    intro d hd
    rw [hwc]
    cases t with
    | node => rw [entry, hnode] at hd; exact ha d hd
    | inst id =>
      simp only [entry, stopInstanceMonitoring_at] at hd
      split at hd
      · cases hd
      · exact ha d hd

theorem run_inRange (a : Average N) (calls : List Call) (hc : ∀ c ∈ calls, c.isInit = false)
    (hw : 0 < a.windowCount.toNat) (hhi : hi * a.windowCount.toNat < 18446744073709551616)
    (hsup : ∀ c ∈ calls, ∀ x ∈ c.supplied t m, lo ≤ x.toNat ∧ x.toNat ≤ hi) (ha : Bounded lo hi t m a) :
    Bounded lo hi t m (a.run calls).2 := by
  induction calls generalizing a with
  | nil => exact ha
  | cons c cs ih =>
    have mem := List.mem_cons_self c cs
    have hwc := step_windowCount a c (hc c mem)
    rw [run_cons]
    exact ih (a.step c).1 (fun c' h => hc c' (List.mem_cons_of_mem _ h)) (hwc ▸ hw) (hwc ▸ hhi)
      (fun c' h => hsup c' (List.mem_cons_of_mem _ h)) (step_inRange a c (hc c mem) hw hhi (hsup c mem) ha)

theorem init_windowCount_pos (a : Average N) (nodeDisks : List PartitionInfo) (windowCount : UInt64) :
    0 < (a.init nodeDisks windowCount).windowCount.toNat := by
  simp only [init]
  split
  · decide
  · next h => exact Nat.pos_of_ne_zero fun e => h (UInt64.toNat.inj e)

/-- An entry that is absent or unseeded holds any bound. -/
theorem bounded_of_unseeded (a : Average N) (h : ((a.entry t).all fun d => !d.isInitialized) = true) :
    Bounded lo hi t m a := by
  intro d hd hinit
  rw [hd, Option.all_some, hinit] at h
  cases h

/-- The sums count from the call after which the target is absent or unseeded: `Init`
    for the node, the instance's `StartInstanceMonitoring` for an instance. The calls
    `pre` before that point may supply anything. -/
theorem average_bounds (disks : List PartitionInfo) (w : UInt64) (pre calls : List Call) (t : Target) (m : Metric)
    (lo hi : Nat) (hc : ∀ c ∈ pre ++ calls, c.isInit = false)
    (hfresh : (((((new : Average N).init disks w).run pre).2.entry t).all fun d => !d.isInitialized) = true)
    (hhi : hi * (if w = 0 then 1 else w).toNat < 18446744073709551616)
    (hsup : ∀ c ∈ calls, ∀ x ∈ c.supplied t m, lo ≤ x.toNat ∧ x.toNat ≤ hi) :
    let s := (((new : Average N).init disks w).run (pre ++ calls)).2
    s.windowCount = (if w = 0 then 1 else w) ∧
    ∀ data, s.entry t = some data → data.isInitialized = true → ∀ v, m.get data.monitoringData = some v →
      lo * s.windowCount.toNat ≤ v.toNat ∧ v.toNat ≤ hi * s.windowCount.toNat ∧ getValue v s.windowCount ≤ v ∧
      ∃ r, (s.report t).bind m.get = some r ∧ lo ≤ r.toNat ∧ r.toNat ≤ hi := by
  intro s
  have hpost : ∀ c ∈ calls, c.isInit = false := fun c h => hc c (List.mem_append_right _ h)
  have hs : s = ((((new : Average N).init disks w).run pre).2.run calls).2 := run_append_state _ _ _
  have hwa : (((new : Average N).init disks w).run pre).2.windowCount = (if w = 0 then 1 else w) :=
    run_windowCount _ pre fun c h => hc c (List.mem_append_left _ h)
  have hwc : s.windowCount = (if w = 0 then 1 else w) := by rw [hs, run_windowCount _ calls hpost, hwa]
  have h0 : 0 < (if w = 0 then (1 : UInt64) else w).toNat := init_windowCount_pos (new : Average N) disks w
  have hpos : 0 < s.windowCount.toNat := hwc ▸ h0
  have hb : Bounded lo hi t m s :=
    hs ▸ run_inRange _ calls hpost (hwa ▸ h0) (hwa ▸ hhi) hsup (bounded_of_unseeded _ hfresh)
  refine ⟨hwc, fun data hd hinit v hv => ?_⟩
  obtain ⟨h1, h2⟩ := hb data hd hinit v hv
  refine ⟨h1, h2, getValue_le v hpos, getValue v s.windowCount, ?_, ?_⟩
  · rw [report_eq, hd]
    simp [get_getMonitoringData, hv]
  · rw [getValue_toNat v hpos]
    exact ⟨rounded_ge hpos h1, rounded_le hpos h2⟩

/-- Instance `a`, RAM 4 from its `StartInstanceMonitoring` on; the RAM 100 listed
    before, while `a` was not monitored, does not count. -/
theorem average_bounds_from_start :
    let a : InstanceIdent := ⟨"a", "", 0⟩
    let pre := [Call.update ⟨MonitoringData.zero [], [⟨a, ⟨0, 100, [], 0, 0⟩⟩]⟩, .startInstanceMonitoring ⟨a, []⟩]
    let calls := [Call.update ⟨MonitoringData.zero [], [⟨a, ⟨0, 4, [], 0, 0⟩⟩]⟩]
    (∀ c ∈ pre ++ calls, c.isInit = false) ∧
    (((((new : Average 2).init [] 3).run pre).2.entry (.inst a)).all fun d => !d.isInitialized) = true ∧
    4 * (if (3 : UInt64) = 0 then (1 : UInt64) else 3).toNat < 18446744073709551616 ∧
    (∀ c ∈ calls, ∀ x ∈ c.supplied (.inst a) .ram, 4 ≤ x.toNat ∧ x.toNat ≤ 4) ∧
    let s := (((new : Average 2).init [] 3).run (pre ++ calls)).2
    s.windowCount = (if (3 : UInt64) = 0 then (1 : UInt64) else 3) ∧
    ∀ data, s.entry (.inst a) = some data → data.isInitialized = true → ∀ v, Metric.ram.get data.monitoringData = some v →
      4 * s.windowCount.toNat ≤ v.toNat ∧ v.toNat ≤ 4 * s.windowCount.toNat ∧ getValue v s.windowCount ≤ v ∧
      ∃ r, (s.report (.inst a)).bind Metric.ram.get = some r ∧ 4 ≤ r.toNat ∧ r.toNat ≤ 4 := by
  intro a pre calls
  exact ⟨by decide, by decide, by decide, by decide,
    average_bounds [] 3 pre calls (.inst a) .ram 4 4 (by decide) (by decide) (by decide) (by decide)⟩

/-- Before an entry is seeded its disks keep the used sizes `Init` stored: an `Update`
    whose disk count does not match supplies 5 for the node's first disk, and 100 is
    stored and reported. -/
theorem average_bounds_unseeded_disk :
    let calls := [Call.update ⟨⟨0, 5, [⟨"d", [], "/", 0, 5⟩, ⟨"e", [], "/", 0, 5⟩], 5, 5⟩, []⟩]
    let s := (((new : Average 1).init [⟨"d", [], "/", 0, 100⟩] 1).run calls).2
    (∀ c ∈ calls, ∀ x ∈ c.supplied .node (.disk 0), x.toNat = 5) ∧
    (s.entry .node).bind (fun d => (Metric.disk 0).get d.monitoringData) = some 100 ∧
    (s.report .node).bind (Metric.disk 0).get = some 100 := by
  decide

end Average

end Aos.Monitoring
