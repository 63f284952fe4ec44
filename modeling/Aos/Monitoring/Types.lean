/-
  Aos.Monitoring.Types — the records and containers the monitoring code works on.

  `Error` is an `ErrorEnum` value with its message (`AOS_ERROR_WRAP` only adds the
  source location, which is not modelled). `PartitionInfo`, `MonitoringData`,
  `InstanceIdent` and `InstanceMonitorParams` carry the fields `average.cpp` and the
  resource monitor read and write: the CPU average is a `double` (`Float`), the other
  amounts `uint64_t`.

  The containers' headers (aos/common/tools/array.hpp, map.hpp) are not under src/.
  `StaticMap` and `StaticArray` are modelled from the spec's bounded, preallocated
  containers: a list of at most `N` items; a map holds one item per key (a field of
  the structure, so no map with a repeated key can be built), `Emplace` and
  `EmplaceBack` fail with `eNoMemory` when full, `At`, `Find` and `Remove` fail with
  `eNotFound`.
-/

import Mathlib.Data.List.Dedup
import Mathlib.Data.List.Perm.Subperm

namespace Aos

inductive ErrorEnum where
  | eNone
  | eInvalidArgument
  | eAlreadyExist
  | eNotFound
  | eNoMemory
  deriving DecidableEq, Repr

structure Error where
  value : ErrorEnum
  message : String := ""
  deriving DecidableEq, Repr

namespace Error

def none : Error := ⟨.eNone, ""⟩

def isNone (e : Error) : Bool := e.value == .eNone

@[simp] theorem isNone_none : none.isNone = true := rfl

end Error

/-! ## Containers -/

/-- Modelled from the spec: `StaticMap<K, V, N>` (aos/common/tools/map.hpp, not under
    src/): at most `N` items, one per key, in insertion order. -/
structure StaticMap (K V : Type) [DecidableEq K] (N : Nat) where
  items : List (K × V)
  nodup : (items.map Prod.fst).Nodup
  le : items.length ≤ N

/-- Modelled from the spec: `StaticArray<T, N>` (aos/common/tools/array.hpp, not under
    src/): at most `N` items. -/
structure StaticArray (T : Type) (N : Nat) where
  items : List T
  le : items.length ≤ N

section Lookup

variable {K V : Type} [DecidableEq K]

theorem lookup_eq_none {k : K} {l : List (K × V)} : l.lookup k = Option.none ↔ k ∉ l.map Prod.fst := by
  simp only [List.lookup_eq_none_iff, bne_iff_ne, ne_eq, List.mem_map, not_exists, not_and]
  exact ⟨fun h p hp e => h p hp e.symm, fun h p hp e => h p hp e.symm⟩

@[simp] theorem lookup_cons_self (k : K) (v : V) (l : List (K × V)) : ((k, v) :: l).lookup k = some v := by
  rw [List.lookup_cons, beq_self_eq_true]

theorem lookup_cons_ne {k k' : K} (h : k' ≠ k) (v : V) (l : List (K × V)) :
    ((k, v) :: l).lookup k' = l.lookup k' := by
  rw [List.lookup_cons, beq_false_of_ne h]

theorem lookup_map_set (l : List (K × V)) (k k' : K) (v : V) :
    (l.map fun p => if p.1 = k then (k, v) else p).lookup k' =
      if k' = k then (l.lookup k).map fun _ => v else l.lookup k' := by
  induction l with
  | nil => split <;> rfl
  | cons p l ih =>
    obtain ⟨k₁, v₁⟩ := p
    by_cases h₁ : k₁ = k
    · subst h₁
      by_cases h₂ : k' = k₁
      · subst h₂; simp
      · simp [lookup_cons_ne h₂, ih, h₂]
    · by_cases h₂ : k' = k₁
      · subst h₂; simp [h₁, Ne.symm h₁]
      · simp only [List.map_cons, h₁, if_false, lookup_cons_ne h₂, ih, lookup_cons_ne (Ne.symm h₁)]

theorem lookup_filter_ne (l : List (K × V)) (k k' : K) :
    (l.filter (·.1 ≠ k)).lookup k' = if k' = k then Option.none else l.lookup k' := by
  induction l with
  | nil => split <;> rfl
  | cons p l ih =>
    obtain ⟨k₁, v₁⟩ := p
    by_cases h₁ : k₁ = k
    · subst h₁
      simp only [List.filter_cons, ne_eq, not_true_eq_false, decide_False, Bool.false_eq_true, if_false, ih]
      split
      · rfl
      · next h => rw [lookup_cons_ne h]
    · simp only [List.filter_cons, ne_eq, h₁, not_false_eq_true, decide_True, if_true]
      by_cases h₂ : k' = k₁
      · subst h₂; simp [h₁]
      · rw [lookup_cons_ne h₂, ih, lookup_cons_ne h₂]

/-- Under distinct keys an item's key finds the item. -/
theorem lookup_of_mem {l : List (K × V)} (hl : (l.map Prod.fst).Nodup) {p : K × V} (h : p ∈ l) :
    l.lookup p.1 = some p.2 := by
  induction l with
  | nil => cases h
  | cons q l ih =>
    rw [List.map_cons, List.nodup_cons] at hl
    rcases List.mem_cons.mp h with rfl | h
    · exact lookup_cons_self _ _ _
    · have hne : p.1 ≠ q.1 := fun e => hl.1 (by rw [← e]; exact List.mem_map_of_mem Prod.fst h)
      rw [lookup_cons_ne hne, ih hl.2 h]

end Lookup

/-- `At`: the item of a key. -/
def StaticMap.at {K V : Type} [DecidableEq K] {N : Nat} (m : StaticMap K V N) (k : K) : Option V :=
  m.items.lookup k

namespace StaticMap

variable {K V : Type} [DecidableEq K] {N : Nat}

def empty : StaticMap K V N := ⟨[], List.nodup_nil, Nat.zero_le _⟩

/-- `Emplace`. -/
def emplace (m : StaticMap K V N) (k : K) (v : V) : Except Error (StaticMap K V N) :=
  if h : (m.at k).isSome then .error ⟨.eAlreadyExist, ""⟩
  else if hl : m.items.length < N then
    .ok ⟨m.items ++ [(k, v)], by
      rw [List.map_append, List.nodup_append]
      refine ⟨m.nodup, List.nodup_singleton _, ?_⟩
      simpa using lookup_eq_none.mp (Option.not_isSome_iff_eq_none.mp h), by simp; omega⟩
  else .error ⟨.eNoMemory, ""⟩

/-- Writing through the reference `At` returned. -/
def set (m : StaticMap K V N) (k : K) (v : V) : StaticMap K V N :=
  ⟨m.items.map fun p => if p.1 = k then (k, v) else p,
    by rw [List.map_map]; convert m.nodup using 2; ext p; by_cases h : p.1 = k <;> simp [h],
    by simpa using m.le⟩

/-- `Remove`. -/
def remove (m : StaticMap K V N) (k : K) : Except Error (StaticMap K V N) :=
  if (m.at k).isSome then
    .ok ⟨m.items.filter (·.1 ≠ k), (List.Sublist.map _ (List.filter_sublist _)).nodup m.nodup,
      (List.length_filter_le _ _).trans m.le⟩
  else .error ⟨.eNotFound, ""⟩

@[simp] theorem at_empty (k : K) : (empty : StaticMap K V N).at k = Option.none := rfl

theorem at_set (m : StaticMap K V N) (k k' : K) (v : V) :
    (m.set k v).at k' = if k' = k then (m.at k).map fun _ => v else m.at k' :=
  lookup_map_set _ _ _ _

@[simp] theorem isSome_at_set (m : StaticMap K V N) (k k' : K) (v : V) :
    ((m.set k v).at k').isSome = (m.at k').isSome := by
  rw [at_set]
  split
  · next e => subst e; simp
  · rfl

theorem at_emplace {m m' : StaticMap K V N} {k : K} {v : V} (h : m.emplace k v = .ok m') (k' : K) :
    m'.at k' = if k' = k then some v else m.at k' := by
  unfold emplace at h
  split at h
  · cases h
  · split at h
    · next hk _ =>
      cases h
      simp only [StaticMap.at, List.lookup_append]
      split
      · next e =>
        subst e
        rw [show m.items.lookup k' = Option.none from Option.not_isSome_iff_eq_none.mp hk]; simp
      · next e => rw [lookup_cons_ne e]; cases m.items.lookup k' <;> rfl
    · cases h

theorem at_remove {m m' : StaticMap K V N} {k : K} (h : m.remove k = .ok m') (k' : K) :
    m'.at k' = if k' = k then Option.none else m.at k' := by
  unfold remove at h
  split at h
  · cases h; exact lookup_filter_ne _ _ _
  · cases h

theorem at_of_mem (m : StaticMap K V N) {p : K × V} (h : p ∈ m.items) : m.at p.1 = some p.2 :=
  lookup_of_mem m.nodup h

theorem emplace_error {m : StaticMap K V N} {k : K} {v : V} {e : Error} (h : m.emplace k v = .error e) :
    e.isNone = false := by
  unfold emplace at h
  split at h
  · cases h; rfl
  · split at h <;> cases h; rfl

theorem remove_error {m : StaticMap K V N} {k : K} {e : Error} (h : m.remove k = .error e) :
    e.isNone = false := by
  unfold remove at h
  split at h <;> cases h; rfl

end StaticMap

namespace StaticArray

variable {T : Type} {N : Nat}

/-- `EmplaceBack`. -/
def emplaceBack (a : StaticArray T N) (x : T) : Except Error (StaticArray T N) :=
  if h : a.items.length < N then .ok ⟨a.items ++ [x], by simp; omega⟩ else .error ⟨.eNoMemory, ""⟩

theorem emplaceBack_of_lt {a : StaticArray T N} (x : T) (h : a.items.length < N) :
    a.emplaceBack x = .ok ⟨a.items ++ [x], by simp; omega⟩ := dif_pos h

theorem emplaceBack_of_le {a : StaticArray T N} (x : T) (h : N ≤ a.items.length) :
    a.emplaceBack x = .error ⟨.eNoMemory, ""⟩ := dif_neg (by omega)

/-- `Find`: the first item that matches. -/
def find (a : StaticArray T N) (p : T → Bool) : Option T := a.items.find? p

/-- Writing through the pointer `Find` returned: the first match becomes `f` of itself. -/
def modifyFirst (p : T → Bool) (f : T → T) : List T → List T
  | [] => []
  | x :: xs => if p x then f x :: xs else x :: modifyFirst p f xs

theorem length_modifyFirst (p : T → Bool) (f : T → T) (l : List T) : (modifyFirst p f l).length = l.length := by
  induction l with
  | nil => rfl
  | cons x xs ih => unfold modifyFirst; split <;> simp [ih]

def modify (a : StaticArray T N) (p : T → Bool) (f : T → T) : StaticArray T N :=
  ⟨modifyFirst p f a.items, by rw [length_modifyFirst]; exact a.le⟩

/-- `Remove(match)`: the first item that matches. -/
def remove (a : StaticArray T N) (p : T → Bool) : Except Error (StaticArray T N) :=
  if (a.items.find? p).isSome then .ok ⟨a.items.eraseP p, (List.length_eraseP_le _).trans a.le⟩
  else .error ⟨.eNotFound, ""⟩

end StaticArray

/-- Room in a bounded container: distinct keys `l`, all among `S`, and a key `x ∈ S`
    not among them, leave `l` shorter than `N` when `S` has at most `N` distinct keys. -/
theorem length_lt_of_dedup_le {α : Type} [DecidableEq α] {l S : List α} {x : α} {N : Nat} (hl : l.Nodup)
    (hx : x ∉ l) (hsub : ∀ y ∈ l, y ∈ S) (hxS : x ∈ S) (h : S.dedup.length ≤ N) : l.length < N := by
  have hsp := (List.nodup_cons.mpr ⟨hx, hl⟩).subperm fun y hy => List.mem_dedup.mpr (by
    rcases List.mem_cons.mp hy with rfl | hy
    · exact hxS
    · exact hsub y hy)
  have := hsp.length_le
  rw [List.length_cons] at this
  omega

/-! ## Monitoring records -/

structure PartitionInfo where
  name : String
  types : List String
  path : String
  totalSize : UInt64
  usedSize : UInt64
  deriving DecidableEq, Repr

structure MonitoringData where
  cpu : Float
  ram : UInt64
  disk : List PartitionInfo
  download : UInt64
  upload : UInt64
  deriving Repr

/-- `MonitoringData {}` with the disks `disk`. -/
def MonitoringData.zero (disk : List PartitionInfo) : MonitoringData := ⟨0, 0, disk, 0, 0⟩

/-- Modelled from the spec: `InstanceIdent` (declared outside src/), the triple
    (service id, subject id, instance index). -/
structure InstanceIdent where
  serviceID : String
  subjectID : String
  instanceIndex : UInt64
  deriving DecidableEq, Repr

structure InstanceMonitorParams where
  instanceIdent : InstanceIdent
  partitions : List PartitionInfo
  deriving Repr

end Aos
