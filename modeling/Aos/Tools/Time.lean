/-
  Aos.Tools.Time — `Duration` and `Time` (include/aos/common/tools/time.hpp).

  A `Duration` is a count of nanoseconds in `int64_t`; a `Time` is a `timespec`
  (`tv_sec`, `tv_nsec`, both `int64_t`). `Time::Add` adds the duration to `tv_nsec`,
  carries the truncated quotient by `cSeconds` into `tv_sec` and, when the truncated
  remainder is negative, borrows one second. `UnixNano` folds the pair into a
  `uint64_t`; `Sub` subtracts two of those and reads the difference back as
  `int64_t`. `operator<` is lexicographic on (`tv_sec`, `tv_nsec`); `operator==` is
  equality of both fields.

  Proved:
  - `add_fields`: when `tv_nsec + d` and the seconds of the result fit in `int64_t`
    (`AddFits`), `Add` computes the floor quotient and remainder of the exact sum:
    the borrow corrects the truncated remainder for every sign of `d`.
  - `add_spec`: so `Add` returns a normal time (`tv_nsec` in `[0, 10^9)`) `d`
    nanoseconds later, moves `UnixNano` by `d` mod 2^64, and two `Add`s in range are
    one `Add` of the sum.
  - `sub_spec`: on normal times whose difference fits, `<` and `==` agree with the
    sign of `Sub`, and `b.Add(a.Sub(b)) == a` once `b.tv_nsec + (a - b)` also fits;
    `t < t.Add(d)` iff `d > 0`.
  - `sub_add_overflows`: that last bound is needed: 1 ns before the epoch plus
    `INT64_MAX` nanoseconds overflows the sum `Add` forms, and the round trip fails.
-/

import Aos.Tools.Int64

namespace Aos

/-- `Duration`: nanoseconds, `int64_t`. -/
structure Duration where
  count : Int
  inRange : InI64 count
  deriving DecidableEq, Repr

/-- A `Duration` built from `int64_t` arithmetic on counts. -/
def Duration.ofInt (x : Int) : Duration := ⟨wrap x, wrap_inI64 x⟩

/-- `operator+(Duration, Duration)`. -/
instance : Add Duration := ⟨fun a b => .ofInt (a.count + b.count)⟩

theorem Duration.add_count (a b : Duration) : (a + b).count = wrap (a.count + b.count) := rfl

/-- `timespec`: both fields are `int64_t`. -/
structure Time where
  tvSec : Int
  tvNsec : Int
  secRange : InI64 tvSec
  nsecRange : InI64 tvNsec
  deriving DecidableEq, Repr

namespace Time

/-! ## Duration constants (`Count()` of each; all positive) -/

def cNanoseconds : Nat := 1
def cMicroseconds : Nat := 1000 * cNanoseconds
def cMilliseconds : Nat := 1000 * cMicroseconds
def cSeconds : Nat := 1000 * cMilliseconds
def cMinutes : Nat := 60 * cSeconds
def cHours : Nat := 60 * cMinutes
def cDay : Nat := 24 * cHours
def cWeek : Nat := 7 * cDay
def cYear : Nat := 31556925974740 * cMicroseconds
/-- `cYear / 12`: `Duration`'s `operator/` truncates, so `12 * cMonth < cYear`. -/
def cMonth : Nat := cYear / 12

theorem cSeconds_eq : cSeconds = 1000000000 := rfl
theorem cMinutes_eq : cMinutes = 60000000000 := rfl
theorem cHours_eq : cHours = 3600000000000 := rfl
theorem cDay_eq : cDay = 86400000000000 := rfl
theorem cWeek_eq : cWeek = 604800000000000 := rfl
theorem cYear_eq : cYear = 31556925974740000 := rfl
theorem cMonth_eq : cMonth = 2629743831228333 := rfl

/-! ## The operations -/

/-- Stores a pair of `int64_t` results into a `timespec`. -/
def ofInt (sec nsec : Int) : Time := ⟨wrap sec, wrap nsec, wrap_inI64 _, wrap_inI64 _⟩

/-- `Time::Add`. -/
def add (t : Time) (duration : Duration) : Time :=
  let nsec := wrap (t.tvNsec + duration.count)
  let sec := wrap (t.tvSec + nsec.tdiv cSeconds)
  let rem := nsec.tmod cSeconds
  -- sign of the remainder implementation defined => correct if negative
  if rem < 0 then ofInt (sec - 1) (rem + cSeconds) else ofInt sec rem

/-- `Time::UnixNano`: `tv_nsec + tv_sec * cSeconds` in `int64_t`, stored in a `uint64_t`. -/
def unixNano (t : Time) : UInt64 := toUInt64 (wrap (t.tvNsec + wrap (t.tvSec * cSeconds)))

/-- `Time::Sub`: the `uint64_t` difference read back as a `Duration`. -/
def sub (t time : Time) : Duration := .ofInt (t.unixNano - time.unixNano).toNat

/-- `Time::operator<`. -/
def lt (t obj : Time) : Prop := t.tvSec < obj.tvSec ∨ (t.tvSec = obj.tvSec ∧ t.tvNsec < obj.tvNsec)

instance : LT Time := ⟨lt⟩

instance (t obj : Time) : Decidable (t < obj) := inferInstanceAs (Decidable (_ ∨ _))

/-! ## What the operations mean -/

/-- The instant, in nanoseconds since the epoch. -/
def total (t : Time) : Int := t.tvSec * 1000000000 + t.tvNsec

/-- `tv_nsec` in `[0, 10^9)`: what `Time()`, `Now()` and `Add` produce. -/
def Normal (t : Time) : Prop := 0 ≤ t.tvNsec ∧ t.tvNsec < 1000000000

instance : DecidablePred Normal := fun _ => inferInstanceAs (Decidable (_ ∧ _))

/-- `Add`'s results fit in `int64_t`: the sum `tv_nsec + d`, and the seconds of the result. -/
def AddFits (t : Time) (d : Duration) : Prop :=
  InI64 (t.tvNsec + d.count) ∧ InI64 (t.tvSec + (t.tvNsec + d.count) / 1000000000)

instance (t : Time) (d : Duration) : Decidable (AddFits t d) := inferInstanceAs (Decidable (_ ∧ _))

/-- Truncation plus the borrow is floor division by a second. -/
theorem floor_of_trunc (n : Int) :
    (if n.tmod cSeconds < 0 then (n.tdiv cSeconds - 1, n.tmod cSeconds + cSeconds)
      else (n.tdiv cSeconds, n.tmod cSeconds)) = (n / 1000000000, n % 1000000000) := by
  rw [cSeconds_eq, Nat.cast_ofNat]
  rcases le_or_lt 0 n with h | h
  · rw [Int.tmod_eq_emod h (by norm_num), Int.tdiv_eq_ediv h (by norm_num)]
    simp [show ¬ n % 1000000000 < 0 by omega]
  · have e : n.tdiv 1000000000 = -((-n) / 1000000000) := by
      rw [← Int.tdiv_eq_ediv (by omega) (by norm_num), Int.neg_tdiv, neg_neg]
    rw [Int.tmod_def, e]
    split_ifs <;> simp only [Prod.mk.injEq] <;> omega

theorem add_fields {t : Time} {d : Duration} (h : AddFits t d) :
    (t.add d).tvSec = t.tvSec + (t.tvNsec + d.count) / 1000000000 ∧
      (t.add d).tvNsec = (t.tvNsec + d.count) % 1000000000 := by
  have hf := floor_of_trunc (t.tvNsec + d.count)
  simp only [add, wrap_of_inI64 h.1]
  obtain ⟨h1, h2⟩ := h
  unfold InI64 at h1 h2
  split_ifs at hf ⊢ <;> simp only [ofInt, Prod.mk.injEq] at hf ⊢ <;> unfold wrap <;> omega

theorem normal_add {t : Time} {d : Duration} (h : AddFits t d) : (t.add d).Normal := by
  obtain ⟨-, e⟩ := add_fields h
  unfold Normal; omega

theorem total_add {t : Time} {d : Duration} (h : AddFits t d) : (t.add d).total = t.total + d.count := by
  obtain ⟨e1, e2⟩ := add_fields h
  unfold total; rw [e1, e2]; omega

/-- A normal time is determined by its instant. -/
theorem eq_of_total {a b : Time} (ha : a.Normal) (hb : b.Normal) (h : a.total = b.total) : a = b := by
  unfold Normal total at *
  have e1 : a.tvSec = b.tvSec := by omega
  have e2 : a.tvNsec = b.tvNsec := by omega
  obtain ⟨s, n, _, _⟩ := a
  obtain ⟨s', n', _, _⟩ := b
  dsimp only at e1 e2
  subst e1 e2
  rfl

theorem unixNano_toNat (t : Time) : (t.unixNano.toNat : Int) = t.total % 18446744073709551616 := by
  rw [unixNano, toNat_toUInt64, wrap_emod, cSeconds_eq, Nat.cast_ofNat]
  have := wrap_emod (t.tvSec * 1000000000)
  unfold total; omega

theorem sub_count (a b : Time) : (a.sub b).count = wrap (a.total - b.total) := by
  apply wrap_eq_of_emod
  have ha := unixNano_toNat a
  have hb := unixNano_toNat b
  have := UInt64.toNat_lt b.unixNano
  rw [UInt64.toNat_sub, UInt64.size]
  omega

theorem lt_iff_total {a b : Time} (ha : a.Normal) (hb : b.Normal) : a < b ↔ a.total < b.total := by
  show lt a b ↔ _
  unfold lt total; unfold Normal at ha hb
  omega

/-! ## `Add` and `Sub` -/

/-- `Add` in range normalises and moves the instant by exactly `d`, for either sign of
    `d`; `UnixNano` moves by `d` mod 2^64; and two `Add`s in range are one. -/
theorem add_spec :
    (∀ (t : Time) (d : Duration), AddFits t d →
      (t.add d).Normal ∧ (t.add d).total = t.total + d.count ∧
        ((t.add d).unixNano.toNat : Int) = (t.unixNano.toNat + d.count) % 18446744073709551616) ∧
    (∀ (t : Time) (a b : Duration), AddFits t a → AddFits (t.add a) b → AddFits t (a + b) →
      InI64 (a.count + b.count) → (t.add a).add b = t.add (a + b)) := by
  refine ⟨fun t d h => ⟨normal_add h, total_add h, ?_⟩, fun t a b ha hb hab hs => ?_⟩
  · rw [unixNano_toNat, unixNano_toNat, total_add h]; omega
  · refine eq_of_total (normal_add hb) (normal_add hab) ?_
    rw [total_add hb, total_add ha, total_add hab, Duration.add_count, wrap_of_inI64 hs]; omega

/-- Two days after one second before the epoch, and that day then one day more. -/
theorem add_spec_two_days :
    let t : Time := ⟨-1, 0, by decide, by decide⟩
    let day : Duration := ⟨86400000000000, by decide⟩
    (t.add day).total = t.total + day.count ∧ (t.add day).add day = t.add (day + day) :=
  ⟨(add_spec.1 _ _ (by decide)).2.1, add_spec.2 _ _ _ (by decide) (by decide) (by decide) (by decide)⟩

/-- On normal times whose difference fits in `int64_t`: `<` and `==` read the sign of
    `Sub`, `Add` undoes `Sub` when `b.tv_nsec + (a - b)` fits too, and a later time is
    reached exactly by a positive duration. -/
theorem sub_spec :
    (∀ a b : Time, a.Normal → b.Normal → InI64 (a.total - b.total) →
      (a < b ↔ (a.sub b).count < 0) ∧ (a = b ↔ (a.sub b).count = 0) ∧
        (InI64 (b.tvNsec + (a.total - b.total)) → b.add (a.sub b) = a)) ∧
    (∀ (t : Time) (d : Duration), t.Normal → AddFits t d → (t < t.add d ↔ 0 < d.count)) := by
  refine ⟨fun a b ha hb hd => ?_, fun t d ht h => ?_⟩
  · have hs : (a.sub b).count = a.total - b.total := by rw [sub_count, wrap_of_inI64 hd]
    refine ⟨by rw [lt_iff_total ha hb, hs]; omega, ⟨fun e => by rw [hs, e]; omega,
      fun e => eq_of_total ha hb (by omega)⟩, fun hn => ?_⟩
    have hf : AddFits b (a.sub b) := by
      refine ⟨by rwa [hs], ?_⟩
      rw [hs]; unfold Normal total at *
      have := a.secRange
      have e : b.tvSec + (b.tvNsec + (a.tvSec * 1000000000 + a.tvNsec - (b.tvSec * 1000000000 + b.tvNsec))) /
          1000000000 = a.tvSec := by omega
      rwa [e]
    exact eq_of_total (normal_add hf) ha (by rw [total_add hf, hs]; omega)
  · rw [lt_iff_total ht (normal_add h), total_add h]; omega

/-- A second before the epoch and then one second after it. -/
theorem sub_spec_at_epoch :
    let a : Time := ⟨1, 0, by decide, by decide⟩
    let b : Time := ⟨-1, 0, by decide, by decide⟩
    b < a ∧ b.add (a.sub b) = a :=
  ⟨((sub_spec.1 _ _ (by decide) (by decide) (by decide)).1.mpr (by decide)),
    (sub_spec.1 _ _ (by decide) (by decide) (by decide)).2.2 (by decide)⟩

/-- 1 ns before the epoch and `INT64_MAX - 1` ns after it: both normal, both counts and
    their difference (`INT64_MAX`) fit in `int64_t`, yet `tv_nsec + d` inside `Add` does
    not, and `b.Add(a.Sub(b))` is not `a`. -/
theorem sub_add_overflows :
    let a : Time := ⟨9223372036, 854775806, by decide, by decide⟩
    let b : Time := ⟨-1, 999999999, by decide, by decide⟩
    a.Normal ∧ b.Normal ∧ InI64 a.total ∧ InI64 b.total ∧ InI64 (a.total - b.total) ∧
      b.add (a.sub b) ≠ a := by
  decide

end Time

end Aos
