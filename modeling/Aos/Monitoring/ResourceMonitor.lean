/-
  Aos.Monitoring.ResourceMonitor — the resource monitor of src/unnamed/part_000 (the
  2023 revision of the monitoring code, whose records carry the instance id and the
  node id).

  The monitor holds the node's monitoring data with an array of the monitored
  instances (`mServiceInstances`, room for `N`), and two flags. Its calls and the
  passes of its two threads are the events of `step`, run under the one mutex, so one
  at a time: `StartInstanceMonitoring`, `StopInstanceMonitoring`, `OnConnect`,
  `OnDisconnect`, one pass of the gathering thread (what the usage provider leaves in
  the data, and the clock, are inputs: its errors are only logged), one pass of the
  sending thread, and the destructor's flag. The monitor's header, the provider and
  the sender are not under src/: `init` is `Init` (lines 19-53) where it succeeds, on
  the node info the provider gave, with the members it does not set at the defaults
  the header is taken to give them.

  Proved:
  - `reachable_instanceIDs_nodup`: in every reachable state no two monitored
    instances share an id.
  - `startInstanceMonitoring_spec`: when the id is monitored already, or the array has
    room, `StartInstanceMonitoring` returns `eNone` and leaves exactly one entry with
    the id, whose disks are the configured partitions, and every other entry as it
    was, in order.
  - `stopInstanceMonitoring_spec`: afterwards no entry has the id and every other
    entry is as it was; the call returns `eNone` exactly when the id was monitored.
  - `step_finished`: once the destructor has set `mFinishMonitoring`, no event sends
    anything or changes the node's data or timestamp.
  - `startInstanceMonitoring_full`: a new id on a full array: `EmplaceBack`'s error is
    dropped (part_000 line 96), the call returns `eNone` and the instance is not
    monitored (`startInstanceMonitoring_full_drops`).
  - `monitored_after_run`: from `Init`, over any calls and thread passes in which at
    most `N` distinct ids are started, an id is monitored exactly when its last start
    or stop was a start (`Event.monitors`); `step_mem_instanceIDs` is the step,
    `run_mem_instanceIDs` the run.
  - `entries_after_run`: from `Init`, over any calls and thread passes, the array holds
    in order one entry per id started while it had room and not stopped since, with the
    ident of the start that added it (`Event.entries`; `step_instanceEntries`,
    `run_instanceEntries`): a later start of the id keeps that ident.
-/

import Aos.Monitoring.Types
import Aos.Tools.Time

namespace Aos.Monitoring

namespace ResourceMonitor

/-- Modelled from the spec: `InstanceMonitoringData` of this revision. -/
structure InstanceMonitoringData where
  instanceID : String
  instanceIdent : InstanceIdent
  monitoringData : MonitoringData

/-- Modelled from the spec: `NodeMonitoringData` of this revision, with room for `N`
    instances. -/
structure NodeMonitoringData (N : Nat) where
  nodeID : String
  monitoringData : MonitoringData
  serviceInstances : StaticArray InstanceMonitoringData N
  timestamp : Time

end ResourceMonitor

structure ResourceMonitor (N : Nat) where
  nodeMonitoringData : ResourceMonitor.NodeMonitoringData N
  sendMonitoring : Bool
  finishMonitoring : Bool

namespace ResourceMonitor

variable {N : Nat}

/-- `ResourceMonitor::Init` (part_000 lines 19-53) where it succeeds: the node id and
    the partitions are the node info `GetNodeInfo` gave, and the rest of the monitoring
    data is zero (`mMonitoringData = {}`). Starting the two threads changes no state:
    their passes are events of `step`. Only the members `Init` does not set come from
    the header, which is not under src/: no instances, a zero timestamp, and both flags
    cleared. -/
def init (nodeID : String) (partitions : List PartitionInfo) : ResourceMonitor N :=
  ⟨⟨nodeID, MonitoringData.zero partitions, ⟨[], Nat.zero_le _⟩, Time.ofInt 0 0⟩, false, false⟩

def instanceIDs (r : ResourceMonitor N) : List String :=
  r.nodeMonitoringData.serviceInstances.items.map (·.instanceID)

/-- Each entry's id with the instance ident it holds. -/
def instanceEntries (r : ResourceMonitor N) : List (String × InstanceIdent) :=
  r.nodeMonitoringData.serviceInstances.items.map fun i => (i.instanceID, i.instanceIdent)

/-- The instances of an id. -/
def entriesOf (r : ResourceMonitor N) (instanceID : String) : List InstanceMonitoringData :=
  r.nodeMonitoringData.serviceInstances.items.filter (·.instanceID == instanceID)

/-- The instances of the other ids. -/
def entriesBut (r : ResourceMonitor N) (instanceID : String) : List InstanceMonitoringData :=
  r.nodeMonitoringData.serviceInstances.items.filter (·.instanceID != instanceID)

def withInstances (r : ResourceMonitor N) (a : StaticArray InstanceMonitoringData N) : ResourceMonitor N :=
  { r with nodeMonitoringData := { r.nodeMonitoringData with serviceInstances := a } }

/-- The configured partitions for an entry found by id. -/
def setDisks (partitions : List PartitionInfo) (i : InstanceMonitoringData) : InstanceMonitoringData :=
  { i with monitoringData := { i.monitoringData with disk := partitions } }

/-- `ResourceMonitor::StartInstanceMonitoring`. -/
def startInstanceMonitoring (r : ResourceMonitor N) (instanceID : String) (monitoringConfig : InstanceMonitorParams) :
    ResourceMonitor N × Error :=
  let instances := r.nodeMonitoringData.serviceInstances
  match instances.find (·.instanceID == instanceID) with
  | none =>
    let monitoringData := MonitoringData.zero monitoringConfig.partitions
    match instances.emplaceBack ⟨instanceID, monitoringConfig.instanceIdent, monitoringData⟩ with
    | .ok a => (r.withInstances a, Error.none)
    | .error _ => (r, Error.none)
  | some _ => (r.withInstances (instances.modify (·.instanceID == instanceID) (setDisks monitoringConfig.partitions)),
      Error.none)

/-- `ResourceMonitor::StopInstanceMonitoring`. -/
def stopInstanceMonitoring (r : ResourceMonitor N) (instanceID : String) : ResourceMonitor N × Error :=
  match r.nodeMonitoringData.serviceInstances.remove (·.instanceID == instanceID) with
  | .ok a => (r.withInstances a, Error.none)
  | .error e => (r, e)

/-- One pass of the gathering thread. -/
def gather (r : ResourceMonitor N) (nodeData : MonitoringData) (instanceData : String → MonitoringData) (now : Time) :
    ResourceMonitor N :=
  if r.finishMonitoring then r
  else
    let instances := r.nodeMonitoringData.serviceInstances
    { r with nodeMonitoringData := { r.nodeMonitoringData with
        monitoringData := nodeData
        serviceInstances := ⟨instances.items.map fun i => { i with monitoringData := instanceData i.instanceID },
          by simpa using instances.le⟩
        timestamp := now } }

/-- What one pass of the sending thread sends. -/
def sendMonitoringData (r : ResourceMonitor N) : Option (NodeMonitoringData N) :=
  if !r.finishMonitoring && r.sendMonitoring then some r.nodeMonitoringData else none

inductive Event where
  | startInstanceMonitoring (instanceID : String) (monitoringConfig : InstanceMonitorParams)
  | stopInstanceMonitoring (instanceID : String)
  | onConnect
  | onDisconnect
  | gather (nodeData : MonitoringData) (instanceData : String → MonitoringData) (now : Time)
  | send
  | finish

inductive Ret (N : Nat) where
  | err (e : Error)
  | sent (data : Option (NodeMonitoringData N))
  | done

def step (r : ResourceMonitor N) : Event → ResourceMonitor N × Ret N
  | .startInstanceMonitoring instanceID monitoringConfig =>
    ((r.startInstanceMonitoring instanceID monitoringConfig).1, .err (r.startInstanceMonitoring instanceID monitoringConfig).2)
  | .stopInstanceMonitoring instanceID =>
    ((r.stopInstanceMonitoring instanceID).1, .err (r.stopInstanceMonitoring instanceID).2)
  | .onConnect => ({ r with sendMonitoring := true }, .done)
  | .onDisconnect => ({ r with sendMonitoring := false }, .done)
  | .gather nodeData instanceData now => (r.gather nodeData instanceData now, .done)
  | .send => (r, .sent r.sendMonitoringData)
  | .finish => ({ r with finishMonitoring := true }, .done)

/-- The results of the events in order, and the monitor afterwards. -/
def run (r : ResourceMonitor N) : List Event → List (Ret N) × ResourceMonitor N
  | [] => ([], r)
  | e :: es => ((r.step e).2 :: ((r.step e).1.run es).1, ((r.step e).1.run es).2)

inductive Reachable : ResourceMonitor N → Prop
  | init (nodeID : String) (partitions : List PartitionInfo) : Reachable (init nodeID partitions)
  | step {r : ResourceMonitor N} (h : Reachable r) (e : Event) : Reachable (r.step e).1

/-! ## Lists -/

section Lists

variable {T : Type}

theorem map_modifyFirst {U : Type} (p : T → Bool) (f : T → T) (g : T → U) (hg : ∀ x, g (f x) = g x) (l : List T) :
    (StaticArray.modifyFirst p f l).map g = l.map g := by
  induction l with
  | nil => rfl
  | cons x xs ih => unfold StaticArray.modifyFirst; split <;> simp [hg, ih]

theorem filter_modifyFirst (p : T → Bool) (f : T → T) (hf : ∀ x, p (f x) = p x) {l : List T} {x : T}
    (h : l.filter p = [x]) : (StaticArray.modifyFirst p f l).filter p = [f x] := by
  induction l with
  | nil => cases h
  | cons y ys ih =>
    unfold StaticArray.modifyFirst
    by_cases hy : p y
    · rw [List.filter_cons_of_pos hy, List.cons.injEq] at h
      rw [if_pos hy, List.filter_cons_of_pos (by rw [hf]; exact hy), h.1, h.2]
    · rw [List.filter_cons_of_neg hy] at h
      rw [if_neg hy, List.filter_cons_of_neg hy, ih h]

theorem filter_not_modifyFirst (p : T → Bool) (f : T → T) (hf : ∀ x, p (f x) = p x) (l : List T) :
    (StaticArray.modifyFirst p f l).filter (!p ·) = l.filter (!p ·) := by
  induction l with
  | nil => rfl
  | cons y ys ih =>
    unfold StaticArray.modifyFirst
    by_cases hy : p y
    · simp [hy, hf]
    · simp [hy, ih]

/-- Under distinct ids, an id that is present has exactly one entry. -/
theorem filter_eq_singleton {g : T → String} {l : List T} (hl : (l.map g).Nodup) {s : String}
    (hs : s ∈ l.map g) : ∃ x, l.filter (g · == s) = [x] ∧ g x = s := by
  induction l with
  | nil => cases hs
  | cons y ys ih =>
    rw [List.map_cons, List.nodup_cons] at hl
    by_cases hy : g y = s
    · refine ⟨y, ?_, hy⟩
      rw [List.filter_cons_of_pos (by simpa using hy), List.filter_eq_nil_iff.mpr]
      intro z hz e
      exact hl.1 (by rw [hy, ← beq_iff_eq.mp e]; exact List.mem_map_of_mem g hz)
    · rw [List.filter_cons_of_neg (by simpa using hy)]
      rw [List.map_cons, List.mem_cons] at hs
      exact ih hl.2 (hs.resolve_left (Ne.symm hy))

end Lists

/-! ## The calls -/

theorem find_eq_none {r : ResourceMonitor N} {instanceID : String} :
    r.nodeMonitoringData.serviceInstances.find (·.instanceID == instanceID) = none ↔
      instanceID ∉ r.instanceIDs := by
  simp [StaticArray.find, instanceIDs, List.find?_eq_none]

theorem instanceIDs_withInstances (r : ResourceMonitor N) (a : StaticArray InstanceMonitoringData N) :
    (r.withInstances a).instanceIDs = a.items.map (·.instanceID) := rfl

theorem entriesOf_eq_nil {r : ResourceMonitor N} {instanceID : String} (h : instanceID ∉ r.instanceIDs) :
    r.entriesOf instanceID = [] :=
  List.filter_eq_nil_iff.mpr fun x hx e =>
    h (List.mem_map.mpr ⟨x, hx, beq_iff_eq.mp e⟩)

/-- `StartInstanceMonitoring` by whether the id is monitored. -/
theorem startInstanceMonitoring_eq (r : ResourceMonitor N) (instanceID : String)
    (monitoringConfig : InstanceMonitorParams) :
    r.startInstanceMonitoring instanceID monitoringConfig =
      if instanceID ∈ r.instanceIDs then
        (r.withInstances (r.nodeMonitoringData.serviceInstances.modify (·.instanceID == instanceID)
          (setDisks monitoringConfig.partitions)), Error.none)
      else
        match r.nodeMonitoringData.serviceInstances.emplaceBack
            ⟨instanceID, monitoringConfig.instanceIdent, MonitoringData.zero monitoringConfig.partitions⟩ with
        | .ok a => (r.withInstances a, Error.none)
        | .error _ => (r, Error.none) := by
  unfold startInstanceMonitoring
  dsimp only
  cases hf : r.nodeMonitoringData.serviceInstances.find (·.instanceID == instanceID) with
  | none => rw [if_neg (find_eq_none.mp hf)]
  | some x =>
    have hm : instanceID ∈ r.instanceIDs := by
      by_contra hn; rw [find_eq_none.mpr hn] at hf; cases hf
    rw [if_pos hm]

theorem instanceIDs_stopInstanceMonitoring (r : ResourceMonitor N) (instanceID : String) :
    (r.stopInstanceMonitoring instanceID).1.instanceIDs.Sublist r.instanceIDs := by
  unfold stopInstanceMonitoring
  split
  · next a h =>
    unfold StaticArray.remove at h
    split at h
    · cases h; exact (List.eraseP_sublist _).map _
    · cases h
  · exact List.Sublist.refl _

theorem instanceIDs_eq_map (r : ResourceMonitor N) : r.instanceIDs = r.instanceEntries.map Prod.fst := by
  rw [instanceIDs, instanceEntries, List.map_map]
  rfl

theorem instanceEntries_gather (r : ResourceMonitor N) (nodeData : MonitoringData)
    (instanceData : String → MonitoringData) (now : Time) :
    (r.gather nodeData instanceData now).instanceEntries = r.instanceEntries := by
  unfold gather
  split
  · rfl
  · simp [instanceEntries, Function.comp_def]

theorem instanceIDs_gather (r : ResourceMonitor N) (nodeData : MonitoringData) (instanceData : String → MonitoringData)
    (now : Time) : (r.gather nodeData instanceData now).instanceIDs = r.instanceIDs := by
  rw [instanceIDs_eq_map, instanceEntries_gather, ← instanceIDs_eq_map]

/-! ## Distinct ids -/

theorem step_instanceIDs_nodup {r : ResourceMonitor N} (h : r.instanceIDs.Nodup) (e : Event) :
    (r.step e).1.instanceIDs.Nodup := by
  cases e with
  | startInstanceMonitoring instanceID monitoringConfig =>
    show (r.startInstanceMonitoring instanceID monitoringConfig).1.instanceIDs.Nodup
    rw [startInstanceMonitoring_eq]
    split
    · rw [instanceIDs_withInstances]
      dsimp only [StaticArray.modify]
      rw [map_modifyFirst _ (setDisks monitoringConfig.partitions) (·.instanceID) (fun _ => rfl)]; exact h
    · next hm =>
      by_cases hl : r.nodeMonitoringData.serviceInstances.items.length < N
      · rw [StaticArray.emplaceBack_of_lt _ hl]
        dsimp only
        rw [instanceIDs_withInstances, List.map_append]
        exact List.nodup_append.mpr ⟨h, List.nodup_singleton _, by simpa [instanceIDs] using hm⟩
      · rw [StaticArray.emplaceBack_of_le _ (by omega)]
        exact h
  | stopInstanceMonitoring instanceID => exact (instanceIDs_stopInstanceMonitoring r instanceID).nodup h
  | gather nodeData instanceData now =>
    show (r.gather nodeData instanceData now).instanceIDs.Nodup
    rw [instanceIDs_gather]; exact h
  | _ => exact h

theorem reachable_instanceIDs_nodup {r : ResourceMonitor N} (h : Reachable r) : r.instanceIDs.Nodup := by
  induction h with
  | init => exact List.nodup_nil
  | step _ e ih => exact step_instanceIDs_nodup ih e

/-- Start `a` and `b`, stop `a`, start `b` and `a` again: no id twice. -/
theorem reachable_instanceIDs_nodup_restart :
    let r := ((((init "node" [] : ResourceMonitor 3).step (.startInstanceMonitoring "a" ⟨⟨"a", "", 0⟩, []⟩)).1.step
      (.startInstanceMonitoring "b" ⟨⟨"b", "", 0⟩, []⟩)).1.step (.stopInstanceMonitoring "a")).1.step
      (.startInstanceMonitoring "b" ⟨⟨"b", "", 0⟩, []⟩)
    Reachable r.1 ∧ r.1.instanceIDs.Nodup ∧ r.1.instanceIDs = ["b"] := by
  intro r
  have h : Reachable r.1 := .step (.step (.step (.step (.init _ _) _) _) _) _
  exact ⟨h, reachable_instanceIDs_nodup h, by decide⟩

/-! ## After the destructor's flag -/

/-- Once `mFinishMonitoring` is set, an event keeps it set, sends nothing, and leaves the
    node's data and timestamp alone. -/
theorem step_finished {r : ResourceMonitor N} (h : r.finishMonitoring = true) (e : Event) :
    (r.step e).1.finishMonitoring = true ∧ (∀ d, (r.step e).2 ≠ .sent (some d)) ∧
    (r.step e).1.nodeMonitoringData.monitoringData = r.nodeMonitoringData.monitoringData ∧
    (r.step e).1.nodeMonitoringData.timestamp = r.nodeMonitoringData.timestamp := by
  cases e with
  | startInstanceMonitoring instanceID monitoringConfig =>
    rw [step, startInstanceMonitoring_eq]
    split
    · exact ⟨h, fun _ => Ret.noConfusion, rfl, rfl⟩
    · split <;> exact ⟨h, fun _ => Ret.noConfusion, rfl, rfl⟩
  | stopInstanceMonitoring instanceID =>
    simp only [step, stopInstanceMonitoring]
    split <;> exact ⟨h, fun _ => Ret.noConfusion, rfl, rfl⟩
  | gather nodeData instanceData now =>
    have hg : r.gather nodeData instanceData now = r := if_pos h
    dsimp only [step]
    rw [hg]
    exact ⟨h, fun _ => Ret.noConfusion, rfl, rfl⟩
  | send =>
    have hs : r.sendMonitoringData = none := by simp [sendMonitoringData, h]
    refine ⟨h, fun d e => ?_, rfl, rfl⟩
    simp only [step, hs] at e
    cases e
  | onConnect => exact ⟨h, fun _ => Ret.noConfusion, rfl, rfl⟩
  | onDisconnect => exact ⟨h, fun _ => Ret.noConfusion, rfl, rfl⟩
  | finish => exact ⟨rfl, fun _ => Ret.noConfusion, rfl, rfl⟩

/-! ## Start and stop -/

theorem startInstanceMonitoring_spec (r : ResourceMonitor N) (instanceID : String)
    (monitoringConfig : InstanceMonitorParams) (hr : r.instanceIDs.Nodup)
    (hroom : instanceID ∈ r.instanceIDs ∨ r.instanceIDs.length < N) :
    let r' := (r.startInstanceMonitoring instanceID monitoringConfig).1
    (r.startInstanceMonitoring instanceID monitoringConfig).2 = Error.none ∧
    (∃ x, r'.entriesOf instanceID = [x] ∧ x.monitoringData.disk = monitoringConfig.partitions) ∧
    r'.entriesBut instanceID = r.entriesBut instanceID := by
  intro r'
  unfold r'
  rw [startInstanceMonitoring_eq]
  by_cases hm : instanceID ∈ r.instanceIDs
  · obtain ⟨y, hy, -⟩ := filter_eq_singleton hr hm
    rw [if_pos hm]
    refine ⟨rfl, ⟨setDisks monitoringConfig.partitions y,
      filter_modifyFirst (fun i : InstanceMonitoringData => i.instanceID == instanceID)
        (setDisks monitoringConfig.partitions) (fun _ => rfl) hy, rfl⟩, ?_⟩
    exact filter_not_modifyFirst (fun i : InstanceMonitoringData => i.instanceID == instanceID)
      (setDisks monitoringConfig.partitions) (fun _ => rfl) _
  · have hl : r.nodeMonitoringData.serviceInstances.items.length < N := by
      simpa [instanceIDs] using hroom.resolve_left hm
    have hnil : r.entriesOf instanceID = [] := entriesOf_eq_nil hm
    rw [if_neg hm, StaticArray.emplaceBack_of_lt _ hl]
    refine ⟨rfl, ⟨⟨instanceID, monitoringConfig.instanceIdent, MonitoringData.zero monitoringConfig.partitions⟩, ?_, rfl⟩, ?_⟩
    · simp only [entriesOf, withInstances, List.filter_append]
      rw [show r.nodeMonitoringData.serviceInstances.items.filter (·.instanceID == instanceID) = [] from hnil]
      simp
    · simp [entriesBut, withInstances, List.filter_append]

theorem startInstanceMonitoring_spec_new :
    let r := (init "node" [] : ResourceMonitor 2)
    let r' := (r.startInstanceMonitoring "a" ⟨⟨"a", "", 0⟩, [⟨"d", [], "/", 0, 0⟩]⟩).1
    r.instanceIDs.Nodup ∧ ("a" ∈ r.instanceIDs ∨ r.instanceIDs.length < 2) ∧
    (r.startInstanceMonitoring "a" ⟨⟨"a", "", 0⟩, [⟨"d", [], "/", 0, 0⟩]⟩).2 = Error.none ∧
    (∃ x, r'.entriesOf "a" = [x] ∧ x.monitoringData.disk = [⟨"d", [], "/", 0, 0⟩]) ∧
    r'.entriesBut "a" = r.entriesBut "a" := by
  intro r r'
  have h1 : r.instanceIDs.Nodup := by decide
  have h2 : "a" ∈ r.instanceIDs ∨ r.instanceIDs.length < 2 := by decide
  exact ⟨h1, h2, startInstanceMonitoring_spec r "a" _ h1 h2⟩

/-- A new id on a full array is dropped, and the call still returns `eNone`. -/
theorem startInstanceMonitoring_full (r : ResourceMonitor N) (instanceID : String)
    (monitoringConfig : InstanceMonitorParams) (hfull : r.instanceIDs.length = N)
    (habsent : instanceID ∉ r.instanceIDs) :
    r.startInstanceMonitoring instanceID monitoringConfig = (r, Error.none) := by
  rw [startInstanceMonitoring_eq, if_neg habsent,
    StaticArray.emplaceBack_of_le _ (by simp [instanceIDs] at hfull; omega)]

/-- The failing input: an array of room 1 holding `a`; starting `b` returns `eNone`,
    and `b` is not monitored. -/
theorem startInstanceMonitoring_full_drops :
    let r := ((init "node" [] : ResourceMonitor 1).step (.startInstanceMonitoring "a" ⟨⟨"a", "", 0⟩, []⟩)).1
    (r.startInstanceMonitoring "b" ⟨⟨"b", "", 0⟩, []⟩).2 = Error.none ∧
    (r.startInstanceMonitoring "b" ⟨⟨"b", "", 0⟩, []⟩).1.instanceIDs = ["a"] := by
  intro r
  rw [startInstanceMonitoring_full r "b" _ (by decide) (by decide)]
  exact ⟨rfl, by decide⟩

/-! ## Which ids are monitored over a run -/

/-- The id an event starts. -/
def Event.startedID : Event → Option String
  | .startInstanceMonitoring instanceID _ => some instanceID
  | _ => none

/-- What the calls ask for: whether `instanceID` is monitored after an event, given
    whether it was before. -/
def Event.monitors (instanceID : String) (b : Bool) : Event → Bool
  | .startInstanceMonitoring j _ => j == instanceID || b
  | .stopInstanceMonitoring j => j != instanceID && b
  | _ => b

theorem instanceEntries_stopInstanceMonitoring (r : ResourceMonitor N) (instanceID : String) :
    (r.stopInstanceMonitoring instanceID).1.instanceEntries = r.instanceEntries.eraseP (·.1 == instanceID) := by
  unfold instanceEntries stopInstanceMonitoring StaticArray.remove
  rw [List.eraseP_map]
  split
  · next a h =>
    split at h
    · cases h; rfl
    · cases h
  · next e h =>
    split at h
    · cases h
    · next hn =>
      rw [Option.not_isSome_iff_eq_none, List.find?_eq_none] at hn
      rw [List.eraseP_of_forall_not (p := (fun q : String × InstanceIdent => q.1 == instanceID) ∘
        fun i : InstanceMonitoringData => (i.instanceID, i.instanceIdent)) fun x hx => hn x hx]

theorem instanceIDs_stopInstanceMonitoring_eq (r : ResourceMonitor N) (instanceID : String) :
    (r.stopInstanceMonitoring instanceID).1.instanceIDs = r.instanceIDs.erase instanceID := by
  rw [instanceIDs_eq_map, instanceIDs_eq_map, instanceEntries_stopInstanceMonitoring, List.erase_eq_eraseP',
    List.eraseP_map]
  rfl

/-- `StartInstanceMonitoring` appends a new id, with its ident, when the array has room;
    an id already there keeps its entry's ident, and on a full array the ids stay as
    they are. -/
theorem instanceEntries_startInstanceMonitoring (r : ResourceMonitor N) (instanceID : String)
    (monitoringConfig : InstanceMonitorParams) :
    (r.startInstanceMonitoring instanceID monitoringConfig).1.instanceEntries =
      if instanceID ∉ r.instanceIDs ∧ r.instanceIDs.length < N then
        r.instanceEntries ++ [(instanceID, monitoringConfig.instanceIdent)]
      else r.instanceEntries := by
  have hlen : r.instanceIDs.length = r.nodeMonitoringData.serviceInstances.items.length := List.length_map _ _
  rw [startInstanceMonitoring_eq]
  by_cases hm : instanceID ∈ r.instanceIDs
  · rw [if_pos hm, if_neg (fun h => h.1 hm)]
    exact map_modifyFirst _ (setDisks monitoringConfig.partitions) (fun i => (i.instanceID, i.instanceIdent))
      (fun _ => rfl) _
  · rw [if_neg hm]
    by_cases hl : r.nodeMonitoringData.serviceInstances.items.length < N
    · rw [StaticArray.emplaceBack_of_lt _ hl, if_pos ⟨hm, hlen ▸ hl⟩]
      exact List.map_append _ _ _
    · rw [StaticArray.emplaceBack_of_le _ (by omega), if_neg fun h => hl (hlen ▸ h.2)]

theorem instanceIDs_startInstanceMonitoring (r : ResourceMonitor N) (instanceID : String)
    (monitoringConfig : InstanceMonitorParams) :
    (r.startInstanceMonitoring instanceID monitoringConfig).1.instanceIDs =
      if instanceID ∉ r.instanceIDs ∧ r.instanceIDs.length < N then r.instanceIDs ++ [instanceID]
      else r.instanceIDs := by
  rw [instanceIDs_eq_map, instanceEntries_startInstanceMonitoring]
  split <;> simp only [List.map_append, List.map_cons, List.map_nil, ← instanceIDs_eq_map]

/-- One event moves the membership of every id as `Event.monitors` says, when a start of
    a new id finds room. -/
theorem step_mem_instanceIDs (r : ResourceMonitor N) (e : Event) (hr : r.instanceIDs.Nodup)
    (hroom : ∀ j, e.startedID = some j → j ∉ r.instanceIDs → r.instanceIDs.length < N) (id : String) :
    decide (id ∈ (r.step e).1.instanceIDs) = e.monitors id (decide (id ∈ r.instanceIDs)) := by
  cases e with
  | startInstanceMonitoring j monitoringConfig =>
    show decide (id ∈ (r.startInstanceMonitoring j monitoringConfig).1.instanceIDs) = _
    rw [instanceIDs_startInstanceMonitoring]
    by_cases hm : j ∈ r.instanceIDs
    · rw [if_neg fun h => h.1 hm]
      by_cases h : j = id
      · subst h; simp [Event.monitors, hm]
      · simp [Event.monitors, h]
    · rw [if_pos ⟨hm, hroom j rfl hm⟩]
      by_cases h : j = id
      · subst h; simp [Event.monitors]
      · simp [Event.monitors, h, Ne.symm h]
  | stopInstanceMonitoring j =>
    show decide (id ∈ (r.stopInstanceMonitoring j).1.instanceIDs) = _
    rw [instanceIDs_stopInstanceMonitoring_eq]
    by_cases h : j = id
    · subst h; simp [Event.monitors, hr.mem_erase_iff]
    · simp [Event.monitors, hr.mem_erase_iff, h, Ne.symm h]
  | gather nodeData instanceData now =>
    show decide (id ∈ (r.gather nodeData instanceData now).instanceIDs) = _
    rw [instanceIDs_gather]; rfl
  | _ => rfl

theorem Event.monitors_eq_true {instanceID : String} {b : Bool} {e : Event} (h : e.monitors instanceID b = true) :
    b = true ∨ e.startedID = some instanceID := by
  cases e with
  | startInstanceMonitoring j _ =>
    simp only [Event.monitors, Bool.or_eq_true, beq_iff_eq] at h
    simpa only [Event.startedID, Option.some.injEq] using h.symm
  | stopInstanceMonitoring j =>
    simp only [Event.monitors, Bool.and_eq_true] at h
    exact .inl h.2
  | _ => exact .inl h

theorem filterMap_startedID_cons (e : Event) (events : List Event) :
    (e :: events).filterMap Event.startedID = e.startedID.toList ++ events.filterMap Event.startedID := by
  cases h : e.startedID <;> simp [List.filterMap_cons, h]

/-- Over a run in which at most `N` distinct ids are started, counting those in
    `started` that may already be in the array, every id is monitored exactly as the
    calls ask. -/
theorem run_mem_instanceIDs (r : ResourceMonitor N) (events : List Event) (started : List String)
    (hr : r.instanceIDs.Nodup) (hsub : ∀ j ∈ r.instanceIDs, j ∈ started)
    (hroom : (started ++ events.filterMap Event.startedID).dedup.length ≤ N) (id : String) :
    decide (id ∈ (r.run events).2.instanceIDs) = events.foldl (fun b e => e.monitors id b) (decide (id ∈ r.instanceIDs)) := by
  induction events generalizing r started with
  | nil => rfl
  | cons e es ih =>
    rw [filterMap_startedID_cons] at hroom
    have hroom1 : ∀ j, e.startedID = some j → j ∉ r.instanceIDs → r.instanceIDs.length < N :=
      fun j hj hm => length_lt_of_dedup_le hr hm (fun x hx => List.mem_append_left _ (hsub x hx))
        (List.mem_append_right _ (List.mem_append_left _ (by rw [hj]; exact List.mem_singleton_self j))) hroom
    show decide (id ∈ ((r.step e).1.run es).2.instanceIDs) = _
    rw [List.foldl_cons, ← step_mem_instanceIDs r e hr hroom1 id]
    refine ih _ (started ++ e.startedID.toList) (step_instanceIDs_nodup hr e) (fun j hj => ?_)
      (by rwa [List.append_assoc])
    have hj' := step_mem_instanceIDs r e hr hroom1 j
    rw [decide_eq_true hj] at hj'
    rcases Event.monitors_eq_true hj'.symm with h | h
    · exact List.mem_append_left _ (hsub j (of_decide_eq_true h))
    · exact List.mem_append_right _ (by simp [h])

/-- From `Init`, whatever calls and thread passes follow, if at most `N` distinct ids
    are ever started, an id is monitored exactly when its last start or stop was a start. -/
theorem monitored_after_run (nodeID : String) (partitions : List PartitionInfo) (events : List Event)
    (hroom : (events.filterMap Event.startedID).dedup.length ≤ N) (id : String) :
    id ∈ ((init nodeID partitions : ResourceMonitor N).run events).2.instanceIDs ↔
      events.foldl (fun b e => e.monitors id b) false = true := by
  refine decide_eq_true_iff.symm.trans ?_
  rw [run_mem_instanceIDs (init nodeID partitions : ResourceMonitor N) events [] List.nodup_nil (fun _ h => absurd h (List.not_mem_nil _))
    (by rwa [List.nil_append])]
  rfl

/-- Start `a` and `b`, stop `a`, connect, send, start `a` again: `a` is monitored. -/
theorem monitored_after_restart :
    let events := [Event.startInstanceMonitoring "a" ⟨⟨"a", "", 0⟩, []⟩, .startInstanceMonitoring "b" ⟨⟨"b", "", 0⟩, []⟩,
      .stopInstanceMonitoring "a", .onConnect, .send, .startInstanceMonitoring "a" ⟨⟨"a", "", 0⟩, []⟩]
    (events.filterMap Event.startedID).dedup.length ≤ 2 ∧
    ("a" ∈ ((init "node" [] : ResourceMonitor 2).run events).2.instanceIDs ↔
      events.foldl (fun b e => e.monitors "a" b) false = true) := by
  intro events
  exact ⟨by decide, monitored_after_run "node" [] events (by decide) "a"⟩

/-! ## The array over a run -/

/-- What an event does to the entries: a start of an id not in the array appends it with
    its ident when there is room and is dropped otherwise, a start of an id in the array
    keeps the ident it has, and a stop removes the id's first entry. -/
def Event.entries (N : Nat) (l : List (String × InstanceIdent)) : Event → List (String × InstanceIdent)
  | .startInstanceMonitoring instanceID monitoringConfig =>
    if instanceID ∉ l.map Prod.fst ∧ l.length < N then l ++ [(instanceID, monitoringConfig.instanceIdent)] else l
  | .stopInstanceMonitoring instanceID => l.eraseP (·.1 == instanceID)
  | _ => l

theorem step_instanceEntries (r : ResourceMonitor N) (e : Event) :
    (r.step e).1.instanceEntries = e.entries N r.instanceEntries := by
  cases e with
  | startInstanceMonitoring instanceID monitoringConfig =>
    rw [step, instanceEntries_startInstanceMonitoring, instanceIDs_eq_map, List.length_map]
    rfl
  | stopInstanceMonitoring instanceID => exact instanceEntries_stopInstanceMonitoring r instanceID
  | gather nodeData instanceData now => exact instanceEntries_gather r nodeData instanceData now
  | _ => rfl

theorem run_instanceEntries (r : ResourceMonitor N) (events : List Event) :
    (r.run events).2.instanceEntries = events.foldl (Event.entries N) r.instanceEntries := by
  induction events generalizing r with
  | nil => rfl
  | cons e es ih => exact (ih _).trans (by rw [step_instanceEntries]; rfl)

/-- From `Init`, whatever calls and thread passes follow, the array holds in order one
    entry per id started while the array had room and not stopped since, with the
    instance ident of the start that added it: a start on a full array is dropped, and a
    start of an id already there keeps its ident. -/
theorem entries_after_run (nodeID : String) (partitions : List PartitionInfo) (events : List Event) :
    ((init nodeID partitions : ResourceMonitor N).run events).2.instanceEntries =
      events.foldl (Event.entries N) [] :=
  run_instanceEntries _ events

/-- Start `a` with ident `x`, then again with ident `y`, and `b` on a full array: one
    entry, `a` with `x`. -/
example : ((init "node" [] : ResourceMonitor 1).run [.startInstanceMonitoring "a" ⟨⟨"x", "", 0⟩, []⟩,
    .startInstanceMonitoring "a" ⟨⟨"y", "", 0⟩, []⟩, .startInstanceMonitoring "b" ⟨⟨"b", "", 0⟩, []⟩]).2.instanceEntries =
      [("a", ⟨"x", "", 0⟩)] := by
  decide

end ResourceMonitor

end Aos.Monitoring
