/-
  Aos.Monitoring.AverageLayout — what `Average::GetData` reports besides the averages.

  `GetData` writes the node's partitions and, for each monitored instance in the map's
  order, its ident and partitions; of these only the used sizes are averages. The
  partitions without their used sizes, the instances in order and their idents are the
  layout (`Layout`). `UpdateMonitoringData` rewrites only used sizes and `Update` only
  the entries the map holds, so the layout is set by the other calls alone
  (`Call.layout`): `Init` gives the node its partitions and clears the instances;
  `StartInstanceMonitoring` of an ident not in the map appends it with its configured
  partitions when the map has room, and otherwise changes nothing;
  `StopInstanceMonitoring` removes the ident.

  Proved: `getData_layout` (`GetData` reports the layout of the sums),
  `partitions_updateMonitoringData` (one entry), `updateInstances_layout` (the instance
  loop), one lemma per call, `step_layout` and `run_layout` (every call from every
  state, every run), and `getData_layout_after_run`: from a fresh `Average`, over any
  calls, the layout of what `GetData` reports is `Call.layout` folded over the calls.
-/

import Aos.Monitoring.AverageInstances

namespace Aos

/-- A partition with its used size cleared: what `GetData` copies of it as it is. -/
def PartitionInfo.layout (p : PartitionInfo) : PartitionInfo := { p with usedSize := 0 }

/-- The partitions of monitoring data, without their used sizes. -/
def MonitoringData.partitions (d : MonitoringData) : List PartitionInfo := d.disk.map PartitionInfo.layout

end Aos

namespace Aos.Monitoring

/-- The node's partitions, and the instances in order with theirs. -/
structure Layout where
  node : List PartitionInfo
  instances : List (InstanceIdent × List PartitionInfo)
  deriving DecidableEq, Repr

def NodeMonitoringData.layout (data : NodeMonitoringData) : Layout :=
  ⟨data.monitoringData.partitions, data.serviceInstances.map fun i => (i.instanceIdent, i.monitoringData.partitions)⟩

namespace Average

variable {N : Nat}

/-- An entry of the instance map: its ident and partitions. -/
def entryLayout (p : InstanceIdent × AverageData) : InstanceIdent × List PartitionInfo :=
  (p.1, p.2.monitoringData.partitions)

/-- The layout of the sums an `Average` holds. -/
def layout (a : Average N) : Layout :=
  ⟨a.averageNodeData.monitoringData.partitions, a.averageInstancesData.items.map entryLayout⟩

/-- What a call does to the layout. -/
def Call.layout (N : Nat) (l : Layout) : Call → Layout
  | .init nodeDisks _ => ⟨nodeDisks.map PartitionInfo.layout, []⟩
  | .startInstanceMonitoring monitoringConfig =>
    if monitoringConfig.instanceIdent ∉ l.instances.map Prod.fst ∧ l.instances.length < N then
      { l with instances :=
          l.instances ++ [(monitoringConfig.instanceIdent, monitoringConfig.partitions.map PartitionInfo.layout)] }
    else l
  | .stopInstanceMonitoring instanceIdent => { l with instances := l.instances.filter (·.1 ≠ instanceIdent) }
  | _ => l

/-! ## `GetData` and one entry -/

theorem partitions_getMonitoringData (window : UInt64) (d : MonitoringData) :
    (getMonitoringData window d).partitions = d.partitions := by
  simp only [MonitoringData.partitions, getMonitoringData, List.map_map]
  rfl

theorem getData_layout (a : Average N) : a.getData.layout = a.layout := by
  simp only [NodeMonitoringData.layout, getData, layout, List.map_map, Function.comp_def, partitions_getMonitoringData]
  rfl

theorem map_layout_zipWith_updateDisk (window : UInt64) (b : Bool) {ds ns : List PartitionInfo}
    (h : ds.length = ns.length) :
    (List.zipWith (updateDisk window b) ds ns).map PartitionInfo.layout = ds.map PartitionInfo.layout := by
  induction ds generalizing ns with
  | nil => rfl
  | cons d ds ih =>
    cases ns with
    | nil => cases h
    | cons n ns =>
      rw [List.zipWith_cons_cons, List.map_cons, List.map_cons, ih (Nat.succ.inj h)]
      rfl

/-- `UpdateMonitoringData` keeps the partitions, on a disk-count match or mismatch. -/
theorem partitions_updateMonitoringData (window : UInt64) (data : AverageData) (newData : MonitoringData) :
    (updateMonitoringData window data newData).1.monitoringData.partitions = data.monitoringData.partitions := by
  by_cases hl : data.monitoringData.disk.length = newData.disk.length
  · rw [updateMonitoringData_match hl]
    exact map_layout_zipWith_updateDisk window _ hl
  · rw [updateMonitoringData_mismatch hl]
    rfl

/-! ## One call -/

/-- Writing an entry with the partitions it had keeps the layout of the map. -/
theorem map_entryLayout_set (m : StaticMap InstanceIdent AverageData N) (k : InstanceIdent) (v : AverageData)
    (h : ∀ d, m.at k = some d → v.monitoringData.partitions = d.monitoringData.partitions) :
    (m.set k v).items.map entryLayout = m.items.map entryLayout := by
  simp only [StaticMap.set, List.map_map]
  refine List.map_congr_left fun p hp => ?_
  by_cases e : p.1 = k
  · subst e
    simp only [Function.comp_apply, if_true, entryLayout, h p.2 (StaticMap.at_of_mem m hp)]
  · simp only [Function.comp_apply, if_neg e]

theorem updateInstances_layout (window : UInt64) (m : StaticMap InstanceIdent AverageData N)
    (instances : List InstanceMonitoringData) :
    (updateInstances window m instances).1.items.map entryLayout = m.items.map entryLayout := by
  induction instances generalizing m with
  | nil => rfl
  | cons inst rest ih =>
    rw [updateInstances_cons]
    split
    · rfl
    · next data hdata =>
      have hset := map_entryLayout_set m inst.instanceIdent (updateMonitoringData window data inst.monitoringData).1
        fun d hd => by
          rw [hdata] at hd
          cases hd
          exact partitions_updateMonitoringData _ _ _
      split
      · exact hset
      · rw [ih, hset]

theorem update_layout (a : Average N) (data : NodeMonitoringData) : (a.update data).1.layout = a.layout := by
  rw [update_eq]
  split
  · simp only [layout, partitions_updateMonitoringData, updateInstances_layout]
  · simp only [layout, partitions_updateMonitoringData]

theorem idents_layout (a : Average N) : a.layout.instances.map Prod.fst = a.idents := by
  simp only [layout, idents, List.map_map]
  rfl

theorem startInstanceMonitoring_layout (a : Average N) (monitoringConfig : InstanceMonitorParams) :
    (a.startInstanceMonitoring monitoringConfig).1.layout =
      Call.layout N a.layout (.startInstanceMonitoring monitoringConfig) := by
  have hlen : a.layout.instances.length = a.averageInstancesData.items.length := List.length_map _ _
  unfold startInstanceMonitoring
  simp only [Call.layout]
  rw [idents_layout, hlen]
  by_cases hk : (a.averageInstancesData.at monitoringConfig.instanceIdent).isSome
  · rw [if_pos hk, if_neg fun h => h.1 ((isSome_at_iff _ _).mp hk)]
  · rw [if_neg hk]
    unfold StaticMap.emplace
    rw [dif_neg hk]
    by_cases hl : a.averageInstancesData.items.length < N
    · rw [dif_pos hl, if_pos ⟨fun h => hk ((isSome_at_iff _ _).mpr h), hl⟩]
      simp only [layout, List.map_append, List.map_cons, List.map_nil]
      rfl
    · rw [dif_neg hl, if_neg fun h => hl h.2]

theorem stopInstanceMonitoring_layout (a : Average N) (instanceIdent : InstanceIdent) :
    (a.stopInstanceMonitoring instanceIdent).1.layout =
      Call.layout N a.layout (.stopInstanceMonitoring instanceIdent) := by
  unfold stopInstanceMonitoring StaticMap.remove
  simp only [Call.layout]
  by_cases hk : (a.averageInstancesData.at instanceIdent).isSome
  · rw [if_pos hk]
    simp only [layout, List.filter_map]
    rfl
  · rw [if_neg hk]
    refine (congrArg _ (List.filter_eq_self.mpr fun p hp => ?_)).symm
    have hm : p.1 ∈ a.idents := by rw [← idents_layout]; exact List.mem_map_of_mem _ hp
    exact decide_eq_true fun e => hk ((isSome_at_iff _ _).mpr (e ▸ hm))

/-! ## Every call, every run -/

theorem step_layout (a : Average N) (c : Call) : (a.step c).1.layout = c.layout N a.layout := by
  cases c with
  | init nodeDisks windowCount => rfl
  | update data => exact update_layout a data
  | getData => rfl
  | startInstanceMonitoring monitoringConfig => exact startInstanceMonitoring_layout a monitoringConfig
  | stopInstanceMonitoring instanceIdent => exact stopInstanceMonitoring_layout a instanceIdent

theorem run_layout (a : Average N) (calls : List Call) :
    (a.run calls).2.layout = calls.foldl (Call.layout N) a.layout := by
  induction calls generalizing a with
  | nil => rfl
  | cons c cs ih => rw [run_cons, ih, step_layout]; rfl

/-- From a fresh `Average`, whatever calls follow, `GetData` reports the partitions the
    last `Init` gave the node and the monitored instances in the order they were
    started, each with its configured partitions: `Update` changes only the amounts. -/
theorem getData_layout_after_run (calls : List Call) :
    ((new : Average N).run calls).2.getData.layout = calls.foldl (Call.layout N) ⟨[], []⟩ := by
  rw [getData_layout, run_layout]
  rfl

/-- Start `a` and `b`, stop `a`, start `a` again: `GetData` lists `b` before `a`. -/
example : ((new : Average 2).run [.init [] 1, .startInstanceMonitoring ⟨⟨"a", "", 0⟩, []⟩,
    .startInstanceMonitoring ⟨⟨"b", "", 0⟩, []⟩, .stopInstanceMonitoring ⟨"a", "", 0⟩,
    .startInstanceMonitoring ⟨⟨"a", "", 0⟩, []⟩]).2.getData.layout =
      ⟨[], [(⟨"b", "", 0⟩, []), (⟨"a", "", 0⟩, [])]⟩ := by
  decide

end Average

end Aos.Monitoring
