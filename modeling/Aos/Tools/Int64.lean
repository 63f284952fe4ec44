/-
  Aos.Tools.Int64 — the 64-bit machine integers the time tools and the monitoring
  code compute with.

  `int64_t` (and `time_t`, `long` on the supported targets) is an `Int` in
  `[-2^63, 2^63)` (`InI64`). Arithmetic that can leave the range wraps, two's
  complement, as the compiled code does (`wrap`); `/` and `%` truncate towards zero
  (`Int.tdiv`, `Int.tmod`). A conversion to `uint64_t` keeps the residue mod 2^64
  (`toUInt64`), one back to `int64_t` is `wrap`. `uint64_t` is Lean's `UInt64`, whose
  `+`, `-` and `*` already wrap (`UInt64.toNat_add` and its siblings, modulo `UInt64.size`).
-/

import Mathlib.Tactic.NormNum
import Mathlib.Data.String.Basic

namespace Aos

/-- The values of `int64_t`. -/
def InI64 (x : Int) : Prop := -9223372036854775808 ≤ x ∧ x < 9223372036854775808

instance : DecidablePred InI64 := fun _ => inferInstanceAs (Decidable (_ ∧ _))

/-- Two's-complement wrap onto `int64_t`. -/
def wrap (x : Int) : Int := (x + 9223372036854775808) % 18446744073709551616 - 9223372036854775808

/-- `static_cast<uint64_t>` of a signed value: its residue mod 2^64. -/
def toUInt64 (x : Int) : UInt64 := UInt64.ofNat (x % 18446744073709551616).toNat

theorem wrap_inI64 (x : Int) : InI64 (wrap x) := by unfold InI64 wrap; omega

theorem wrap_of_inI64 {x : Int} (h : InI64 x) : wrap x = x := by
  unfold InI64 at h; unfold wrap; omega

/-- `wrap` only sees the residue mod 2^64. -/
theorem wrap_eq_of_emod {x y : Int} (h : x % 18446744073709551616 = y % 18446744073709551616) :
    wrap x = wrap y := by
  unfold wrap; omega

theorem wrap_emod (x : Int) : wrap x % 18446744073709551616 = x % 18446744073709551616 := by
  unfold wrap; omega

@[simp] theorem toNat_toUInt64 (x : Int) : ((toUInt64 x).toNat : Int) = x % 18446744073709551616 := by
  simp only [toUInt64, UInt64.toNat, UInt64.ofNat, BitVec.toNat_ofNat]
  omega

end Aos
