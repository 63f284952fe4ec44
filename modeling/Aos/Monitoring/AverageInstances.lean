/-
  Aos.Monitoring.AverageInstances — which instances an `Average` holds over a run.

  `StartInstanceMonitoring` adds an ident that is not there, if the map has room,
  and fails on one that is; `StopInstanceMonitoring` removes an ident that is there
  and fails otherwise; `Init` clears the map; `Update` and `GetData` keep its idents.
  So what the calls ask for is `Call.keeps`: an ident is held after a call when the
  call starts it, or it was held and the call neither stops it nor is `Init`.

  Proved: `step_isSome_at` (one call, when a start of a new ident finds room),
  `run_isSome_at` (a run in which at most `N` distinct idents are started), and
  `instances_after_run`: from a fresh `Average`, over any calls in which at most `N`
  distinct idents are started, an ident is held exactly when the calls ask for it;
  no start then fails for want of room.
-/

import Aos.Monitoring.Average

namespace Aos.Monitoring.Average

variable {N : Nat}

/-- The ident a call starts. -/
def Call.startedIdent : Call → Option InstanceIdent
  | .startInstanceMonitoring monitoringConfig => some monitoringConfig.instanceIdent
  | _ => none

/-- What the calls ask for: whether `id` is held after a call, given whether it was
    before. -/
def Call.keeps (id : InstanceIdent) (b : Bool) : Call → Bool
  | .init _ _ => false
  | .startInstanceMonitoring monitoringConfig => monitoringConfig.instanceIdent == id || b
  | .stopInstanceMonitoring instanceIdent => instanceIdent != id && b
  | _ => b

theorem Call.keeps_eq_true {id : InstanceIdent} {b : Bool} {c : Call} (h : c.keeps id b = true) :
    b = true ∨ c.startedIdent = some id := by
  cases c with
  | init => cases h
  | startInstanceMonitoring monitoringConfig =>
    simp only [Call.keeps, Bool.or_eq_true, beq_iff_eq] at h
    simpa only [Call.startedIdent, Option.some.injEq] using h.symm
  | stopInstanceMonitoring instanceIdent =>
    simp only [Call.keeps, Bool.and_eq_true] at h
    exact .inl h.2
  | _ => exact .inl h

theorem filterMap_startedIdent_cons (c : Call) (calls : List Call) :
    (c :: calls).filterMap Call.startedIdent = c.startedIdent.toList ++ calls.filterMap Call.startedIdent := by
  cases h : c.startedIdent <;> simp [List.filterMap_cons, h]

/-! ## The idents of the map -/

/-- The idents the map holds. -/
def idents (a : Average N) : List InstanceIdent := a.averageInstancesData.items.map Prod.fst

theorem isSome_at_iff (a : Average N) (id : InstanceIdent) :
    (a.averageInstancesData.at id).isSome ↔ id ∈ a.idents := by
  rw [← not_iff_not, Option.not_isSome_iff_eq_none]
  exact lookup_eq_none

theorem length_idents (a : Average N) : a.idents.length = a.averageInstancesData.items.length :=
  List.length_map _ _

/-- A new ident on a map with room: `StartInstanceMonitoring` succeeds. -/
theorem startInstanceMonitoring_isNone_of_room (a : Average N) (monitoringConfig : InstanceMonitorParams)
    (hnew : (a.averageInstancesData.at monitoringConfig.instanceIdent).isSome = false)
    (hroom : a.averageInstancesData.items.length < N) :
    (a.startInstanceMonitoring monitoringConfig).2.isNone = true := by
  unfold startInstanceMonitoring StaticMap.emplace
  rw [if_neg (by rw [hnew]; decide), dif_neg (by rw [hnew]; decide), dif_pos hroom]
  rfl

/-! ## One call, a run -/

/-- One call moves every ident as `Call.keeps` says, when a start of a new ident finds
    room. -/
theorem step_isSome_at (a : Average N) (c : Call)
    (hroom : ∀ k, c.startedIdent = some k → (a.averageInstancesData.at k).isSome = false →
      a.averageInstancesData.items.length < N) (id : InstanceIdent) :
    ((a.step c).1.averageInstancesData.at id).isSome = c.keeps id (a.averageInstancesData.at id).isSome := by
  cases c with
  | init nodeDisks windowCount => rfl
  | update data => rw [step_update, update_isSome_at]; rfl
  | getData => rfl
  | startInstanceMonitoring monitoringConfig =>
    rw [step_startInstanceMonitoring, startInstanceMonitoring_at]
    by_cases hk : (a.averageInstancesData.at monitoringConfig.instanceIdent).isSome
    · have hn : (a.startInstanceMonitoring monitoringConfig).2.isNone = false := by
        unfold startInstanceMonitoring; rw [if_pos hk]; rfl
      rw [hn]
      by_cases h : monitoringConfig.instanceIdent = id
      · subst h; simp [Call.keeps, hk]
      · simp [Call.keeps, h]
    · rw [Bool.not_eq_true] at hk
      rw [startInstanceMonitoring_isNone_of_room a monitoringConfig hk (hroom _ rfl hk)]
      by_cases h : monitoringConfig.instanceIdent = id
      · subst h; simp [Call.keeps]
      · simp [Call.keeps, h, Ne.symm h]
  | stopInstanceMonitoring instanceIdent =>
    rw [step_stopInstanceMonitoring, stopInstanceMonitoring_at, stopInstanceMonitoring_isNone]
    by_cases h : instanceIdent = id
    · subst h
      cases hk : (a.averageInstancesData.at instanceIdent).isSome <;> simp [Call.keeps, hk]
    · simp [Call.keeps, h, Ne.symm h]

/-- Over a run in which at most `N` distinct idents are started, counting those in
    `started` that may already be held, every ident is held exactly as the calls ask. -/
theorem run_isSome_at (a : Average N) (calls : List Call) (started : List InstanceIdent)
    (hsub : ∀ k ∈ a.idents, k ∈ started)
    (hroom : (started ++ calls.filterMap Call.startedIdent).dedup.length ≤ N) (id : InstanceIdent) :
    ((a.run calls).2.averageInstancesData.at id).isSome =
      calls.foldl (fun b c => c.keeps id b) (a.averageInstancesData.at id).isSome := by
  induction calls generalizing a started with
  | nil => rfl
  | cons c cs ih =>
    rw [filterMap_startedIdent_cons] at hroom
    have hroom1 : ∀ k, c.startedIdent = some k → (a.averageInstancesData.at k).isSome = false →
        a.averageInstancesData.items.length < N := by
      intro k hk hnew
      have hm : k ∉ a.idents := fun h => by rw [← isSome_at_iff] at h; rw [h] at hnew; cases hnew
      rw [← length_idents]
      exact length_lt_of_dedup_le a.averageInstancesData.nodup hm (fun x hx => List.mem_append_left _ (hsub x hx))
        (List.mem_append_right _ (List.mem_append_left _ (by rw [hk]; exact List.mem_singleton_self k))) hroom
    rw [run_cons, List.foldl_cons, ← step_isSome_at a c hroom1 id]
    refine ih _ (started ++ c.startedIdent.toList) (fun k hk => ?_) (by rwa [List.append_assoc])
    have hk' := step_isSome_at a c hroom1 k
    rw [(isSome_at_iff _ k).mpr hk] at hk'
    rcases Call.keeps_eq_true hk'.symm with h | h
    · exact List.mem_append_left _ (hsub k ((isSome_at_iff a k).mp h))
    · exact List.mem_append_right _ (by rw [h]; exact List.mem_singleton_self k)

/-- From a fresh `Average`, over any calls in which at most `N` distinct idents are
    started, an ident is held exactly when the calls ask for it. -/
theorem instances_after_run (calls : List Call) (hroom : (calls.filterMap Call.startedIdent).dedup.length ≤ N)
    (id : InstanceIdent) :
    (((new : Average N).run calls).2.averageInstancesData.at id).isSome =
      calls.foldl (fun b c => c.keeps id b) false :=
  run_isSome_at new calls [] (fun _ h => absurd h (List.not_mem_nil _)) (by rwa [List.nil_append]) id

/-- Start `a`, `Init`, start `b` and `a`, stop `b`, start `a` again: `a` is held, on a
    map of room 2. -/
theorem instances_after_reinit :
    let calls := [Call.init [] 1, .startInstanceMonitoring ⟨⟨"a", "", 0⟩, []⟩, .init [] 2,
      .startInstanceMonitoring ⟨⟨"b", "", 0⟩, []⟩, .startInstanceMonitoring ⟨⟨"a", "", 0⟩, []⟩,
      .stopInstanceMonitoring ⟨"b", "", 0⟩, .startInstanceMonitoring ⟨⟨"a", "", 0⟩, []⟩]
    (calls.filterMap Call.startedIdent).dedup.length ≤ 2 ∧
    (((new : Average 2).run calls).2.averageInstancesData.at ⟨"a", "", 0⟩).isSome =
      calls.foldl (fun b c => c.keeps ⟨"a", "", 0⟩ b) false := by
  intro calls
  exact ⟨by decide, instances_after_run calls (by decide) _⟩

end Aos.Monitoring.Average
