/-
  Aos.Monitoring.AverageInit — `Average::Init` on an object already in use.

  `Init(disks, w)` sets the window, replaces the node's disks and clears the instance
  map; it keeps the node's `mIsInitialized` flag and its CPU, RAM, download and upload
  sums. While the node is unseeded those sums are never read by `Update`, which seeds
  them from the new values even when it then fails on the disk count, so they show
  only in what `GetData` reports until the next `Update`.

  Proved:
  - `step_agree`, `run_agree`: an object that differs from another only in the sums
    of an unseeded node (`StaleNodeSums`) returns the same errors and the same
    instance and disk averages on every call, and after any `Update` the two are equal.
  - `init_keeps_node_state`: what `Init(disks, w)` does to any object, seeded or not,
    and that on an unseeded node it then behaves as `Init(disks, w)` of a fresh
    `Average`, up to the node's CPU, RAM, download and upload averages `GetData`
    reports before the next `Update`.
  - `init_keeps_seeded_node_sums`: on a seeded node the old sums stay: the `Update`
    after `Init` continues the old running sum, and `GetData` differs from a fresh
    object's.
-/

import Aos.Monitoring.Average

namespace Aos.Monitoring.Average

variable {N : Nat}

/-- Two results agree except, perhaps, in the node's CPU, RAM, download and upload
    averages `GetData` reports. -/
def Ret.AgreeButNodeSums : Ret → Ret → Prop
  | .err e, .err e' => e = e'
  | .data d, .data d' =>
    d.monitoringData.disk = d'.monitoringData.disk ∧ d.serviceInstances = d'.serviceInstances
  | _, _ => False

theorem Ret.AgreeButNodeSums.refl : ∀ r : Ret, r.AgreeButNodeSums r
  | .err _ => rfl
  | .data _ => ⟨rfl, rfl⟩

/-- `a` is `b` with other sums in an unseeded node of the same disks. -/
def StaleNodeSums (a b : Average N) : Prop :=
  b.averageNodeData.isInitialized = false ∧
  ∃ node : AverageData, node.isInitialized = false ∧
    node.monitoringData.disk = b.averageNodeData.monitoringData.disk ∧ a = { b with averageNodeData := node }

/-! ## The calls that do not read the node -/

theorem startInstanceMonitoring_withNode (b : Average N) (node : AverageData) (monitoringConfig : InstanceMonitorParams) :
    ({ b with averageNodeData := node }.startInstanceMonitoring monitoringConfig) =
      ({ (b.startInstanceMonitoring monitoringConfig).1 with averageNodeData := node },
        (b.startInstanceMonitoring monitoringConfig).2) := by
  unfold startInstanceMonitoring
  dsimp only
  split
  · rfl
  · split <;> rfl

theorem stopInstanceMonitoring_withNode (b : Average N) (node : AverageData) (instanceIdent : InstanceIdent) :
    ({ b with averageNodeData := node }.stopInstanceMonitoring instanceIdent) =
      ({ (b.stopInstanceMonitoring instanceIdent).1 with averageNodeData := node },
        (b.stopInstanceMonitoring instanceIdent).2) := by
  unfold stopInstanceMonitoring
  dsimp only
  split <;> rfl

/-- An unseeded entry's update reads only its disks. -/
theorem updateMonitoringData_unseeded (window : UInt64) {x y : AverageData} (newData : MonitoringData)
    (hx : x.isInitialized = false) (hy : y.isInitialized = false)
    (hd : x.monitoringData.disk = y.monitoringData.disk) :
    updateMonitoringData window x newData = updateMonitoringData window y newData := by
  obtain ⟨_, ⟨_, _, disk, _, _⟩⟩ := x
  obtain ⟨_, ⟨_, _, _, _, _⟩⟩ := y
  subst hx hy
  dsimp only at hd
  subst hd
  by_cases hl : disk.length = newData.disk.length
  · rw [updateMonitoringData_match hl, updateMonitoringData_match hl]; rfl
  · rw [updateMonitoringData_mismatch hl, updateMonitoringData_mismatch hl]; rfl

theorem update_withNode_unseeded (b : Average N) (node : AverageData) (data : NodeMonitoringData)
    (hb : b.averageNodeData.isInitialized = false) (hn : node.isInitialized = false)
    (hd : node.monitoringData.disk = b.averageNodeData.monitoringData.disk) :
    { b with averageNodeData := node }.update data = b.update data := by
  rw [update_eq, update_eq]
  dsimp only
  rw [hd, updateMonitoringData_unseeded _ _ hn hb hd]

/-! ## Runs -/

/-- `Update` brings two such objects together. -/
theorem step_update_eq {a b : Average N} (h : a = b ∨ StaleNodeSums a b) (data : NodeMonitoringData) :
    a.step (.update data) = b.step (.update data) := by
  rcases h with rfl | ⟨hb, node, hn, hd, rfl⟩
  · rfl
  · simp only [step, update_withNode_unseeded b node data hb hn hd]

theorem step_agree {a b : Average N} (h : a = b ∨ StaleNodeSums a b) (c : Call) :
    (a.step c).2.AgreeButNodeSums (b.step c).2 ∧ ((a.step c).1 = (b.step c).1 ∨ StaleNodeSums (a.step c).1 (b.step c).1) := by
  rcases h with rfl | ⟨hb, node, hn, hd, rfl⟩
  · exact ⟨Ret.AgreeButNodeSums.refl _, .inl rfl⟩
  cases c with
  | init nodeDisks windowCount =>
    exact ⟨rfl, .inr ⟨hb, { node with monitoringData := { node.monitoringData with disk := nodeDisks } }, hn, rfl, rfl⟩⟩
  | update data =>
    rw [step_update_eq (.inr ⟨hb, node, hn, hd, rfl⟩) data]
    exact ⟨Ret.AgreeButNodeSums.refl _, .inl rfl⟩
  | getData =>
    refine ⟨⟨?_, rfl⟩, .inr ⟨hb, node, hn, hd, rfl⟩⟩
    simp only [getData, getMonitoringData, hd]
  | startInstanceMonitoring monitoringConfig =>
    obtain ⟨-, hnode⟩ := startInstanceMonitoring_frame b monitoringConfig
    simp only [step, startInstanceMonitoring_withNode]
    exact ⟨rfl, .inr ⟨hnode ▸ hb, node, hn, hnode ▸ hd, rfl⟩⟩
  | stopInstanceMonitoring instanceIdent =>
    obtain ⟨-, hnode⟩ := stopInstanceMonitoring_frame b instanceIdent
    simp only [step, stopInstanceMonitoring_withNode]
    exact ⟨rfl, .inr ⟨hnode ▸ hb, node, hn, hnode ▸ hd, rfl⟩⟩

theorem run_agree {a b : Average N} (h : a = b ∨ StaleNodeSums a b) (calls : List Call) :
    List.Forall₂ Ret.AgreeButNodeSums (a.run calls).1 (b.run calls).1 ∧
      ((a.run calls).2 = (b.run calls).2 ∨ StaleNodeSums (a.run calls).2 (b.run calls).2) := by
  induction calls generalizing a b with
  | nil => exact ⟨.nil, h⟩
  | cons c cs ih =>
    obtain ⟨hr, hs⟩ := step_agree h c
    rw [run_cons, run_cons]
    exact ⟨.cons hr (ih hs).1, (ih hs).2⟩

/-! ## `Init` -/

/-- `Init(disks, w)` on any object sets the window (0 counting as 1), gives the node the
    disks and empties the instance map, and keeps the node's flag and its CPU, RAM,
    download and upload sums. On an unseeded node those sums are not read before the next
    `Update` overwrites them, so the object then answers every call as `Init(disks, w)`
    of a fresh `Average` does, up to the node's CPU, RAM, download and upload averages
    `GetData` reports, and after any `Update` the two are the same. -/
theorem init_keeps_node_state (s : Average N) (disks : List PartitionInfo) (w : UInt64) :
    (s.init disks w).windowCount = (if w = 0 then 1 else w) ∧
    (s.init disks w).averageNodeData.isInitialized = s.averageNodeData.isInitialized ∧
    (s.init disks w).averageNodeData.monitoringData = { s.averageNodeData.monitoringData with disk := disks } ∧
    (∀ instanceIdent, (s.init disks w).averageInstancesData.at instanceIdent = none) ∧
    (s.averageNodeData.isInitialized = false →
      (∀ calls, List.Forall₂ Ret.AgreeButNodeSums ((s.init disks w).run calls).1
        (((new : Average N).init disks w).run calls).1) ∧
      ∀ calls data, ((s.init disks w).run (calls ++ [.update data])).2 =
        (((new : Average N).init disks w).run (calls ++ [.update data])).2) := by
  refine ⟨rfl, rfl, rfl, fun _ => rfl, fun hs => ?_⟩
  have h : s.init disks w = (new : Average N).init disks w ∨ StaleNodeSums (s.init disks w) ((new : Average N).init disks w) :=
    .inr ⟨rfl, { s.averageNodeData with monitoringData := { s.averageNodeData.monitoringData with disk := disks } },
      hs, rfl, rfl⟩
  refine ⟨fun calls => (run_agree h calls).1, fun calls data => ?_⟩
  simp only [run_append_state, run_cons, run_nil]
  rw [step_update_eq (run_agree h calls).2]

/-- A node whose first `Update` failed on its disk count: RAM sum 7, not seeded; `Init`
    keeps the 7. -/
theorem init_keeps_node_state_after_mismatch :
    let s := ((new : Average 2).run [.init [] 1, .update ⟨⟨0, 7, [⟨"d", [], "/", 0, 0⟩], 0, 0⟩, []⟩]).2
    s.averageNodeData.isInitialized = false ∧ s.averageNodeData.monitoringData.ram = 7 ∧
    (s.init [] 2).windowCount = (if (2 : UInt64) = 0 then 1 else 2) ∧
    (s.init [] 2).averageNodeData.isInitialized = s.averageNodeData.isInitialized ∧
    (s.init [] 2).averageNodeData.monitoringData = { s.averageNodeData.monitoringData with disk := [] } ∧
    (∀ instanceIdent, (s.init [] 2).averageInstancesData.at instanceIdent = none) ∧
    (s.averageNodeData.isInitialized = false →
      (∀ calls, List.Forall₂ Ret.AgreeButNodeSums ((s.init [] 2).run calls).1
        (((new : Average 2).init [] 2).run calls).1) ∧
      ∀ calls data, ((s.init [] 2).run (calls ++ [.update data])).2 =
        (((new : Average 2).init [] 2).run (calls ++ [.update data])).2) := by
  intro s
  exact ⟨by decide, by decide, init_keeps_node_state s [] 2⟩

/-- A seeded node keeps its sums across `Init`: from RAM sum 10 at window 1, `Init` to
    window 2 and an `Update` with RAM 0 leave the sum 5, reported as 3; a fresh object
    reports 0. -/
theorem init_keeps_seeded_node_sums :
    let s := ((new : Average 1).run [.init [] 1, .update ⟨⟨0, 10, [], 0, 0⟩, []⟩]).2
    s.averageNodeData.isInitialized = true ∧
    ((s.init [] 2).run [.update ⟨⟨0, 0, [], 0, 0⟩, []⟩]).2.getData.monitoringData.ram = 3 ∧
    (((new : Average 1).init [] 2).run [.update ⟨⟨0, 0, [], 0, 0⟩, []⟩]).2.getData.monitoringData.ram = 0 := by
  decide

end Aos.Monitoring.Average
