/-
  Aos.Monitoring.Average — the rolling averages of node and instance monitoring data
  (src/common/monitoring/average.cpp).

  An `Average` keeps, for the node and for every monitored instance, an `AverageData`:
  running sums of the CPU, RAM, download, upload and per-disk used sizes, and a flag
  saying whether the sums have been seeded. `UpdateValue` seeds a sum with
  `newValue * window` and afterwards replaces one window's share of it,
  `value - GetValue(value, window)`, by the new value; `GetValue` is the average
  `Round(value / window)`. Integer amounts are `uint64_t` (`UInt64`, wrapping). The code
  rounds through `double`, `static_cast<uint64_t>(double(value) / window + 0.5)`
  (`getValueBinary64`); the model takes the rounding exactly, ⌊value / window + 1/2⌋
  (`getValue`), which is the code's value while `2 * value + 2 * window ≤ 2^52`
  (`getValueBinary64_eq_getValue`) and can differ above. The CPU sum is a `double`
  (`Float`).

  The class declaration (average.hpp) is not under src/: the fields are those the
  source reads and writes, and a freshly constructed `Average` (`new`) is modelled
  from the spec. `step` runs one public call and `run` a sequence of them.

  Proved here, per call: what `updateMonitoringData` does on a disk-count mismatch and
  on a match (`updateMonitoringData_mismatch`, `updateMonitoringData_match`), what the
  instance loop of `Update` does (`updateInstances_cons`), the frames of
  `StartInstanceMonitoring`, `StopInstanceMonitoring` and `Init` on the instance map, and
  that a failed start or stop changes nothing (`startInstanceMonitoring_failed`,
  `stopInstanceMonitoring_failed`). `start_stop_roundtrip`: stopping an ident just
  started gives back the instances as they were.
-/

import Aos.Monitoring.Types
import Aos.Tools.Binary64

namespace Aos.Monitoring

/-! ## Values -/

/-- `GetValue<uint64_t>`: `Round<uint64_t>(static_cast<double>(value) / window)`, the
    rounding taken exactly as ⌊value / window + 1/2⌋. -/
def getValue (value window : UInt64) : UInt64 :=
  UInt64.ofNat ((2 * value.toNat + window.toNat) / (2 * window.toNat))

/-- `Round<uint64_t>`: `static_cast<uint64_t>(value + 0.5)`, the sum rounded to a `double`
    and the cast truncating (past `2^64` the cast is undefined; here it wraps). -/
def roundU64 (value : ℚ) : UInt64 := UInt64.ofNat ⌊Binary64.round (value + 1 / 2)⌋₊

/-- `GetValue<uint64_t>` as the code computes it: the value and the window converted to
    `double`, their quotient rounded to a `double`, then `Round`. The window is never 0
    (`Init` makes it at least 1). -/
def getValueBinary64 (value window : UInt64) : UInt64 :=
  roundU64 (Binary64.round (Binary64.round value.toNat / Binary64.round window.toNat))

/-- `GetValue<double>`. -/
def getValueDouble (value : Float) (window : UInt64) : Float := value / window.toFloat

/-- `UpdateValue<T>`, for a `T` with `GetValue` `get` and product with the window `mulWindow`. -/
def updateValue {T : Type} [Add T] [Sub T] (get : T → UInt64 → T) (mulWindow : T → UInt64 → T)
    (value newValue : T) (window : UInt64) (isInitialized : Bool) : T :=
  if !isInitialized then mulWindow newValue window else value - get value window + newValue

/-- `UpdateValue<uint64_t>`. -/
def updateValueU64 : UInt64 → UInt64 → UInt64 → Bool → UInt64 := updateValue getValue (· * ·)

/-- `UpdateValue<double>`. -/
def updateValueDouble : Float → Float → UInt64 → Bool → Float :=
  updateValue getValueDouble fun v w => v * w.toFloat

theorem updateValueU64_eq (value newValue window : UInt64) (isInitialized : Bool) :
    updateValueU64 value newValue window isInitialized =
      if isInitialized then value - getValue value window + newValue else newValue * window := by
  cases isInitialized <;> rfl

/-! ## State -/

structure AverageData where
  isInitialized : Bool
  monitoringData : MonitoringData
  deriving Repr

structure InstanceMonitoringData where
  instanceIdent : InstanceIdent
  monitoringData : MonitoringData
  deriving Repr

/-- What `Update` reads and `GetData` writes (the node id and timestamp are neither). -/
structure NodeMonitoringData where
  monitoringData : MonitoringData
  serviceInstances : List InstanceMonitoringData
  deriving Repr

/-- `Average`, with room for `N` monitored instances. -/
structure Average (N : Nat) where
  windowCount : UInt64
  averageNodeData : AverageData
  averageInstancesData : StaticMap InstanceIdent AverageData N

namespace Average

variable {N : Nat}

/-- Modelled from the spec: a freshly constructed `Average` (average.hpp is not under
    src/): no window yet, the node's sums zero and not seeded, no instances. -/
def new : Average N := ⟨0, ⟨false, MonitoringData.zero []⟩, StaticMap.empty⟩

/-! ## Private helpers -/

/-- One disk of the loop in `UpdateMonitoringData`. -/
def updateDisk (window : UInt64) (isInitialized : Bool) (disk newDisk : PartitionInfo) : PartitionInfo :=
  { disk with usedSize := updateValueU64 disk.usedSize newDisk.usedSize window isInitialized }

/-- `Average::UpdateMonitoringData` on the entry `data`, with window `window`: the entry
    afterwards and the error. The scalar sums are updated before the disk count is
    compared. -/
def updateMonitoringData (window : UInt64) (data : AverageData) (newData : MonitoringData) :
    AverageData × Error :=
  let d := data.monitoringData
  let init := data.isInitialized
  let scalars : MonitoringData :=
    { d with cpu := updateValueDouble d.cpu newData.cpu window init
             ram := updateValueU64 d.ram newData.ram window init
             download := updateValueU64 d.download newData.download window init
             upload := updateValueU64 d.upload newData.upload window init }
  if d.disk.length ≠ newData.disk.length then
    (⟨init, scalars⟩, ⟨.eInvalidArgument, "service instances disk size mismatch"⟩)
  else
    (⟨true, { scalars with disk := List.zipWith (updateDisk window init) d.disk newData.disk }⟩, Error.none)

/-- `Average::GetMonitoringData`: the averages of the sums `averageData`. -/
def getMonitoringData (window : UInt64) (averageData : MonitoringData) : MonitoringData :=
  { cpu := getValueDouble averageData.cpu window
    ram := getValue averageData.ram window
    disk := averageData.disk.map fun disk => { disk with usedSize := getValue disk.usedSize window }
    download := getValue averageData.download window
    upload := getValue averageData.upload window }

/-- The loop of `Average::Update` over the instances of the data, as written: an unknown
    ident returns `At`'s error; the loop returns as soon as one instance's update returns
    no error, and goes on past one that returns an error. -/
def updateInstances (window : UInt64) :
    StaticMap InstanceIdent AverageData N → List InstanceMonitoringData →
      StaticMap InstanceIdent AverageData N × Error
  | m, [] => (m, Error.none)
  | m, inst :: rest =>
    match m.at inst.instanceIdent with
    | none => (m, ⟨.eNotFound, ""⟩)
    | some data =>
      let (data', err) := updateMonitoringData window data inst.monitoringData
      let m' := m.set inst.instanceIdent data'
      if err.isNone then (m', err) else updateInstances window m' rest

/-! ## Public calls -/

/-- `Average::Init`; it returns `eNone`. -/
def init (a : Average N) (nodeDisks : List PartitionInfo) (windowCount : UInt64) : Average N :=
  { windowCount := if windowCount = 0 then 1 else windowCount
    averageNodeData := { a.averageNodeData with
      monitoringData := { a.averageNodeData.monitoringData with disk := nodeDisks } }
    averageInstancesData := StaticMap.empty }

/-- `Average::Update`. -/
def update (a : Average N) (data : NodeMonitoringData) : Average N × Error :=
  let (node, err) := updateMonitoringData a.windowCount a.averageNodeData data.monitoringData
  let a := { a with averageNodeData := node }
  if !err.isNone then (a, err)
  else
    let (m, err) := updateInstances a.windowCount a.averageInstancesData data.serviceInstances
    ({ a with averageInstancesData := m }, err)

/-- `Average::GetData`. The output array has the map's capacity, so its `EmplaceBack`
    cannot fail and the call returns `eNone`. -/
def getData (a : Average N) : NodeMonitoringData :=
  { monitoringData := getMonitoringData a.windowCount a.averageNodeData.monitoringData
    serviceInstances := a.averageInstancesData.items.map fun p =>
      ⟨p.1, getMonitoringData a.windowCount p.2.monitoringData⟩ }

/-- `Average::StartInstanceMonitoring`. -/
def startInstanceMonitoring (a : Average N) (monitoringConfig : InstanceMonitorParams) : Average N × Error :=
  if (a.averageInstancesData.at monitoringConfig.instanceIdent).isSome then
    (a, ⟨.eAlreadyExist, "instance monitoring already started"⟩)
  else
    match a.averageInstancesData.emplace monitoringConfig.instanceIdent
        ⟨false, MonitoringData.zero monitoringConfig.partitions⟩ with
    | .ok m => ({ a with averageInstancesData := m }, Error.none)
    | .error e => (a, e)

/-- `Average::StopInstanceMonitoring`. -/
def stopInstanceMonitoring (a : Average N) (instanceIdent : InstanceIdent) : Average N × Error :=
  match a.averageInstancesData.remove instanceIdent with
  | .ok m => ({ a with averageInstancesData := m }, Error.none)
  | .error e => (a, e)

/-! ## Runs -/

inductive Call where
  | init (nodeDisks : List PartitionInfo) (windowCount : UInt64)
  | update (data : NodeMonitoringData)
  | getData
  | startInstanceMonitoring (monitoringConfig : InstanceMonitorParams)
  | stopInstanceMonitoring (instanceIdent : InstanceIdent)

def Call.isInit : Call → Bool
  | .init _ _ => true
  | _ => false

/-- What a call returns: its error, and for `GetData` the data. -/
inductive Ret where
  | err (e : Error)
  | data (d : NodeMonitoringData)

def step (a : Average N) : Call → Average N × Ret
  | .init nodeDisks windowCount => (a.init nodeDisks windowCount, .err Error.none)
  | .update data => let (a', e) := a.update data; (a', .err e)
  | .getData => (a, .data a.getData)
  | .startInstanceMonitoring monitoringConfig =>
    let (a', e) := a.startInstanceMonitoring monitoringConfig; (a', .err e)
  | .stopInstanceMonitoring instanceIdent =>
    let (a', e) := a.stopInstanceMonitoring instanceIdent; (a', .err e)

@[simp] theorem step_update (a : Average N) (data : NodeMonitoringData) :
    a.step (.update data) = ((a.update data).1, .err (a.update data).2) := rfl

@[simp] theorem step_startInstanceMonitoring (a : Average N) (monitoringConfig : InstanceMonitorParams) :
    a.step (.startInstanceMonitoring monitoringConfig) =
      ((a.startInstanceMonitoring monitoringConfig).1, .err (a.startInstanceMonitoring monitoringConfig).2) := rfl

@[simp] theorem step_stopInstanceMonitoring (a : Average N) (instanceIdent : InstanceIdent) :
    a.step (.stopInstanceMonitoring instanceIdent) =
      ((a.stopInstanceMonitoring instanceIdent).1, .err (a.stopInstanceMonitoring instanceIdent).2) := rfl

/-- The results of the calls in order, and the object afterwards. -/
def run (a : Average N) : List Call → List Ret × Average N
  | [] => ([], a)
  | c :: cs =>
    let (rs, a') := run (a.step c).1 cs
    ((a.step c).2 :: rs, a')

@[simp] theorem run_nil (a : Average N) : a.run [] = ([], a) := rfl

theorem run_cons (a : Average N) (c : Call) (cs : List Call) :
    a.run (c :: cs) = ((a.step c).2 :: ((a.step c).1.run cs).1, ((a.step c).1.run cs).2) := rfl

@[simp] theorem run_append_state (a : Average N) (cs ds : List Call) :
    (a.run (cs ++ ds)).2 = ((a.run cs).2.run ds).2 := by
  induction cs generalizing a with
  | nil => rfl
  | cons c cs ih => simp only [List.cons_append, run_cons, ih]

/-! ## One call at a time -/

@[simp] theorem updateMonitoringData_mismatch {window : UInt64} {data : AverageData} {newData : MonitoringData}
    (h : data.monitoringData.disk.length ≠ newData.disk.length) :
    updateMonitoringData window data newData =
      (⟨data.isInitialized, { data.monitoringData with
          cpu := updateValueDouble data.monitoringData.cpu newData.cpu window data.isInitialized
          ram := updateValueU64 data.monitoringData.ram newData.ram window data.isInitialized
          download := updateValueU64 data.monitoringData.download newData.download window data.isInitialized
          upload := updateValueU64 data.monitoringData.upload newData.upload window data.isInitialized }⟩,
        ⟨.eInvalidArgument, "service instances disk size mismatch"⟩) := by
  simp only [updateMonitoringData, if_pos h]

@[simp] theorem updateMonitoringData_match {window : UInt64} {data : AverageData} {newData : MonitoringData}
    (h : data.monitoringData.disk.length = newData.disk.length) :
    updateMonitoringData window data newData =
      (⟨true, { cpu := updateValueDouble data.monitoringData.cpu newData.cpu window data.isInitialized
                ram := updateValueU64 data.monitoringData.ram newData.ram window data.isInitialized
                disk := List.zipWith (updateDisk window data.isInitialized) data.monitoringData.disk newData.disk
                download := updateValueU64 data.monitoringData.download newData.download window data.isInitialized
                upload := updateValueU64 data.monitoringData.upload newData.upload window data.isInitialized }⟩,
        Error.none) := by
  simp only [updateMonitoringData, h, ne_eq, not_true_eq_false, if_false]

/-- An entry's update fails exactly on a disk-count mismatch. -/
theorem updateMonitoringData_isNone (window : UInt64) (data : AverageData) (newData : MonitoringData) :
    (updateMonitoringData window data newData).2.isNone =
      decide (data.monitoringData.disk.length = newData.disk.length) := by
  by_cases h : data.monitoringData.disk.length = newData.disk.length
  · simp [h]
  · simp [h, Error.isNone]

theorem updateInstances_cons (window : UInt64) (m : StaticMap InstanceIdent AverageData N)
    (inst : InstanceMonitoringData) (rest : List InstanceMonitoringData) :
    updateInstances window m (inst :: rest) =
      match m.at inst.instanceIdent with
      | none => (m, ⟨.eNotFound, ""⟩)
      | some data =>
        if (updateMonitoringData window data inst.monitoringData).2.isNone then
          (m.set inst.instanceIdent (updateMonitoringData window data inst.monitoringData).1,
            Error.none)
        else updateInstances window
          (m.set inst.instanceIdent (updateMonitoringData window data inst.monitoringData).1) rest := by
  simp only [updateInstances]
  split
  · rfl
  · next data _ =>
    by_cases h : data.monitoringData.disk.length = inst.monitoringData.disk.length
    · simp [h]
    · simp [h, Error.isNone]

/-- The instance loop only writes the entries of idents it reaches. -/
theorem updateInstances_keys (window : UInt64) (m : StaticMap InstanceIdent AverageData N)
    (instances : List InstanceMonitoringData) (id : InstanceIdent) :
    ((updateInstances window m instances).1.at id).isSome = (m.at id).isSome := by
  induction instances generalizing m with
  | nil => rfl
  | cons inst rest ih =>
    rw [updateInstances_cons]
    split
    · rfl
    · split
      · exact StaticMap.isSome_at_set _ _ _ _
      · rw [ih, StaticMap.isSome_at_set]

/-- `Update` as two cases: the node's disk count decides whether the instances are reached. -/
theorem update_eq (a : Average N) (data : NodeMonitoringData) :
    a.update data =
      if a.averageNodeData.monitoringData.disk.length = data.monitoringData.disk.length then
        ({ a with
            averageNodeData := (updateMonitoringData a.windowCount a.averageNodeData data.monitoringData).1
            averageInstancesData :=
              (updateInstances a.windowCount a.averageInstancesData data.serviceInstances).1 },
          (updateInstances a.windowCount a.averageInstancesData data.serviceInstances).2)
      else
        ({ a with averageNodeData := (updateMonitoringData a.windowCount a.averageNodeData data.monitoringData).1 },
          ⟨.eInvalidArgument, "service instances disk size mismatch"⟩) := by
  by_cases h : a.averageNodeData.monitoringData.disk.length = data.monitoringData.disk.length
  · simp [update, h]
  · simp [update, h, Error.isNone]

@[simp] theorem update_windowCount (a : Average N) (data : NodeMonitoringData) :
    (a.update data).1.windowCount = a.windowCount := by
  rw [update_eq]; split <;> rfl

@[simp] theorem update_averageNodeData (a : Average N) (data : NodeMonitoringData) :
    (a.update data).1.averageNodeData =
      (updateMonitoringData a.windowCount a.averageNodeData data.monitoringData).1 := by
  rw [update_eq]; split <;> rfl

/-- `Update` keeps the set of monitored idents. -/
theorem update_isSome_at (a : Average N) (data : NodeMonitoringData) (id : InstanceIdent) :
    ((a.update data).1.averageInstancesData.at id).isSome = (a.averageInstancesData.at id).isSome := by
  rw [update_eq]
  split
  · exact updateInstances_keys _ _ _ _
  · rfl

theorem startInstanceMonitoring_frame (a : Average N) (monitoringConfig : InstanceMonitorParams) :
    (a.startInstanceMonitoring monitoringConfig).1.windowCount = a.windowCount ∧
      (a.startInstanceMonitoring monitoringConfig).1.averageNodeData = a.averageNodeData := by
  unfold startInstanceMonitoring
  split
  · exact ⟨rfl, rfl⟩
  · split <;> exact ⟨rfl, rfl⟩

/-- After `StartInstanceMonitoring`, the ident it was given holds fresh, unseeded sums
    over the configured partitions if the call returned `eNone`; nothing else changed. -/
theorem startInstanceMonitoring_at (a : Average N) (monitoringConfig : InstanceMonitorParams) (id : InstanceIdent) :
    (a.startInstanceMonitoring monitoringConfig).1.averageInstancesData.at id =
      if (a.startInstanceMonitoring monitoringConfig).2.isNone ∧ id = monitoringConfig.instanceIdent then
        some ⟨false, MonitoringData.zero monitoringConfig.partitions⟩
      else a.averageInstancesData.at id := by
  unfold startInstanceMonitoring
  split
  · simp [Error.isNone]
  · split
    · next h => simp [StaticMap.at_emplace h]
    · next h => simp [StaticMap.emplace_error h]

theorem stopInstanceMonitoring_frame (a : Average N) (instanceIdent : InstanceIdent) :
    (a.stopInstanceMonitoring instanceIdent).1.windowCount = a.windowCount ∧
      (a.stopInstanceMonitoring instanceIdent).1.averageNodeData = a.averageNodeData := by
  unfold stopInstanceMonitoring
  split <;> exact ⟨rfl, rfl⟩

/-- After `StopInstanceMonitoring`, the ident is gone if the call returned `eNone`;
    nothing else changed. -/
theorem stopInstanceMonitoring_at (a : Average N) (instanceIdent id : InstanceIdent) :
    (a.stopInstanceMonitoring instanceIdent).1.averageInstancesData.at id =
      if (a.stopInstanceMonitoring instanceIdent).2.isNone ∧ id = instanceIdent then none
      else a.averageInstancesData.at id := by
  unfold stopInstanceMonitoring
  split
  · next h => simp [StaticMap.at_remove h]
  · next h => simp [StaticMap.remove_error h]

/-- Only `Init` sets the window. -/
theorem step_windowCount (a : Average N) (c : Call) (hc : c.isInit = false) :
    (a.step c).1.windowCount = a.windowCount := by
  cases c with
  | init => cases hc
  | update data => exact update_windowCount a data
  | getData => rfl
  | startInstanceMonitoring monitoringConfig => exact (startInstanceMonitoring_frame a monitoringConfig).1
  | stopInstanceMonitoring instanceIdent => exact (stopInstanceMonitoring_frame a instanceIdent).1

theorem run_windowCount (a : Average N) (calls : List Call) (hc : ∀ c ∈ calls, c.isInit = false) :
    (a.run calls).2.windowCount = a.windowCount := by
  induction calls generalizing a with
  | nil => rfl
  | cons c cs ih =>
    rw [run_cons, ih _ fun c' h => hc c' (List.mem_cons_of_mem _ h), step_windowCount a c (hc c (List.mem_cons_self _ _))]

theorem stopInstanceMonitoring_isNone (a : Average N) (instanceIdent : InstanceIdent) :
    (a.stopInstanceMonitoring instanceIdent).2.isNone = (a.averageInstancesData.at instanceIdent).isSome := by
  unfold stopInstanceMonitoring StaticMap.remove
  cases (a.averageInstancesData.at instanceIdent).isSome <;> rfl

/-! ## Failed calls -/

/-- A failed `StartInstanceMonitoring` changes nothing: the ident was monitored already,
    or the map was full. -/
theorem startInstanceMonitoring_failed (a : Average N) (monitoringConfig : InstanceMonitorParams)
    (h : (a.startInstanceMonitoring monitoringConfig).2.isNone = false) :
    (a.startInstanceMonitoring monitoringConfig).1 = a ∧
    ((a.startInstanceMonitoring monitoringConfig).2 = ⟨.eAlreadyExist, "instance monitoring already started"⟩ ∧
        (a.averageInstancesData.at monitoringConfig.instanceIdent).isSome ∨
      (a.startInstanceMonitoring monitoringConfig).2 = ⟨.eNoMemory, ""⟩ ∧
        a.averageInstancesData.items.length = N) := by
  unfold startInstanceMonitoring at h ⊢
  by_cases hs : (a.averageInstancesData.at monitoringConfig.instanceIdent).isSome
  · rw [if_pos hs]; exact ⟨rfl, .inl ⟨rfl, hs⟩⟩
  · rw [if_neg hs] at h ⊢
    cases he : a.averageInstancesData.emplace monitoringConfig.instanceIdent
        ⟨false, MonitoringData.zero monitoringConfig.partitions⟩ with
    | ok m => rw [he] at h; cases h
    | error e =>
      unfold StaticMap.emplace at he
      rw [dif_neg hs] at he
      split at he
      · cases he
      · cases he
        exact ⟨rfl, .inr ⟨rfl, by have := a.averageInstancesData.le; omega⟩⟩

/-- A failed `StopInstanceMonitoring` changes nothing: the ident was not monitored. -/
theorem stopInstanceMonitoring_failed (a : Average N) (instanceIdent : InstanceIdent)
    (h : (a.stopInstanceMonitoring instanceIdent).2.isNone = false) :
    (a.stopInstanceMonitoring instanceIdent).1 = a ∧
    (a.stopInstanceMonitoring instanceIdent).2 = ⟨.eNotFound, ""⟩ ∧
    (a.averageInstancesData.at instanceIdent).isSome = false := by
  have hs : (a.averageInstancesData.at instanceIdent).isSome = false := by
    rw [← stopInstanceMonitoring_isNone]; exact h
  unfold stopInstanceMonitoring StaticMap.remove
  rw [if_neg (by rw [hs]; decide)]
  exact ⟨rfl, rfl, hs⟩

/-- `StopInstanceMonitoring` of an ident `StartInstanceMonitoring` has just added
    succeeds and gives back the instances as they were. -/
theorem start_stop_roundtrip (a : Average N) (monitoringConfig : InstanceMonitorParams)
    (h : (a.startInstanceMonitoring monitoringConfig).2 = Error.none) :
    let a' := (a.startInstanceMonitoring monitoringConfig).1
    (a'.stopInstanceMonitoring monitoringConfig.instanceIdent).2 = Error.none ∧
    (a'.stopInstanceMonitoring monitoringConfig.instanceIdent).1.windowCount = a.windowCount ∧
    (a'.stopInstanceMonitoring monitoringConfig.instanceIdent).1.averageNodeData = a.averageNodeData ∧
    ∀ id, (a'.stopInstanceMonitoring monitoringConfig.instanceIdent).1.averageInstancesData.at id =
      a.averageInstancesData.at id := by
  intro a'
  have hn : (a.startInstanceMonitoring monitoringConfig).2.isNone = true := by rw [h]; rfl
  have hnew : ∀ id, a'.averageInstancesData.at id =
      if id = monitoringConfig.instanceIdent then some ⟨false, MonitoringData.zero monitoringConfig.partitions⟩
      else a.averageInstancesData.at id := fun id => by
    rw [startInstanceMonitoring_at]; simp only [hn, true_and]
  have hstop : (a'.stopInstanceMonitoring monitoringConfig.instanceIdent).2.isNone = true := by
    rw [stopInstanceMonitoring_isNone, hnew, if_pos rfl]; rfl
  have hwas : (a.averageInstancesData.at monitoringConfig.instanceIdent).isSome = false := by
    unfold startInstanceMonitoring at h
    split at h
    · cases h
    · next hs => simpa using hs
  refine ⟨?_, ?_, ?_, fun id => ?_⟩
  · unfold stopInstanceMonitoring at hstop ⊢
    split at hstop
    · rfl
    · next e he => exact absurd hstop (by rw [StaticMap.remove_error he]; decide)
  · rw [(stopInstanceMonitoring_frame _ _).1, (startInstanceMonitoring_frame _ _).1]
  · rw [(stopInstanceMonitoring_frame _ _).2, (startInstanceMonitoring_frame _ _).2]
  · rw [stopInstanceMonitoring_at, hstop]
    by_cases e : id = monitoringConfig.instanceIdent
    · subst e; simp only [and_self, if_true]
      exact (Option.not_isSome_iff_eq_none.mp (by rw [hwas]; decide)).symm
    · simp only [e, and_false, if_false, hnew]

theorem start_stop_roundtrip_one :
    let a := ((new : Average 2).run [.init [] 1]).2
    let a' := (a.startInstanceMonitoring ⟨⟨"a", "", 0⟩, []⟩).1
    (a.startInstanceMonitoring ⟨⟨"a", "", 0⟩, []⟩).2 = Error.none ∧
    (a'.stopInstanceMonitoring ⟨"a", "", 0⟩).2 = Error.none ∧
    (a'.stopInstanceMonitoring ⟨"a", "", 0⟩).1.windowCount = a.windowCount ∧
    (a'.stopInstanceMonitoring ⟨"a", "", 0⟩).1.averageNodeData = a.averageNodeData ∧
    ∀ id, (a'.stopInstanceMonitoring ⟨"a", "", 0⟩).1.averageInstancesData.at id = a.averageInstancesData.at id := by
  intro a a'
  have h : (a.startInstanceMonitoring ⟨⟨"a", "", 0⟩, []⟩).2 = Error.none := by decide
  exact ⟨h, start_stop_roundtrip a _ h⟩

end Average

end Aos.Monitoring
