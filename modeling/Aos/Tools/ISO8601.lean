/-
  Aos.Tools.ISO8601 — `Duration::ToISO8601String` (src/unnamed/part_001, with the
  constants of time.hpp).

  `PT0S` for zero; otherwise `-P` or `P`, then a cascade over `total = abs(d)`: for
  each of years, months, weeks and days a nonzero quotient is printed and `total` is
  reduced modulo the unit; then hours, minutes, seconds and the nanoseconds left are
  split off, and when any is nonzero a `T` part follows with the nonzero hours and
  minutes and the seconds as `nS` or, with nanoseconds left, `%0.9lfS`.

  The `%0.9lf` field is the exact decimal of `seconds + nanoseconds / 10^9`. The
  result is a plain string: the capacity of `StaticString<cTimeStrLen>` is a build
  setting not under src/, and `length_toISO8601String_le` shows 33 characters always
  suffice. `abs(INT64_MIN)` wraps to itself, so that one input prints negative fields.

  Spec side: `Fields` is what an ISO 8601 duration string names, `render` the format
  (only nonzero fields; `T` exactly when a sub-day field is nonzero; seconds as `nS`
  or `s.fffffffffS`), `decompose` the cascade in closed form, and `readISO8601` a
  reader for the format with the code's own unit lengths.

  Proved, for every `d ≠ INT64_MIN`:
  - `toISO8601String_spec`: `PT0S` exactly for zero; otherwise the sign, `P`, and
    `render (decompose |d|)`; and the string reads back as the sign and fields whose
    total is exactly `|d|`.
  - `toISO8601String_injective`: so the string determines the duration.
  - `toISO8601String_fields`: every field printed is below its next unit, except that
    the months field reaches 12 in the last 4 ns of each year, where `12 * cMonth <
    cYear`; `toISO8601String_twelve_months` is the first such duration, `P12M`.
  - `length_toISO8601String_le`: at most 33 characters, and 33 are reached.
-/

import Aos.Tools.Time
import Aos.Tools.Decimal

namespace Aos

/-- The fields a duration string names, each as written. -/
structure Fields where
  years : Nat := 0
  months : Nat := 0
  weeks : Nat := 0
  days : Nat := 0
  hours : Nat := 0
  minutes : Nat := 0
  seconds : Nat := 0
  nanos : Nat := 0
  deriving DecidableEq, Repr

namespace Fields

open Time in
/-- The nanoseconds a string names, with the code's own unit lengths. -/
def total (f : Fields) : Nat :=
  f.years * cYear + f.months * cMonth + f.weeks * cWeek + f.days * cDay + f.hours * cHours +
    f.minutes * cMinutes + f.seconds * cSeconds + f.nanos

end Fields

namespace Duration

/-! ## The code -/

/-- `if (auto n = total / unit; n > 0) { Append("%ld<unit>"); total %= unit; }`. -/
def datePart (unit : Nat) (c : Char) (acc : List Char × Int) : List Char × Int :=
  let n := acc.2.tdiv unit
  if 0 < n then (acc.1 ++ formatLong n ++ [c], acc.2.tmod unit) else acc

/-- `%0.9lf` of `seconds + nanos / 10^9`, exactly: called with both nonnegative. -/
def formatFixed9 (seconds : Int) (nanos : Nat) : List Char := formatLong seconds ++ '.' :: pad9 nanos

/-- From `const auto hours = total / Time::cHours.Count();` to the end. -/
def timePart (result : List Char) (total : Int) : List Char :=
  let hours := total.tdiv Time.cHours
  let total := total.tmod Time.cHours
  let minutes := total.tdiv Time.cMinutes
  let total := total.tmod Time.cMinutes
  let seconds := total.tdiv Time.cSeconds
  let total := total.tmod Time.cSeconds
  if hours ≠ 0 ∨ minutes ≠ 0 ∨ seconds ≠ 0 ∨ total ≠ 0 then
    result ++ 'T' :: ((if hours ≠ 0 then formatLong hours ++ ['H'] else []) ++
      (if minutes ≠ 0 then formatLong minutes ++ ['M'] else []) ++
      (if total = 0 ∧ 0 < seconds then formatLong seconds ++ ['S'] else []) ++
      (if 0 < total then formatFixed9 seconds total.toNat ++ ['S'] else []))
  else result

/-- `Duration::ToISO8601String`. -/
def toISO8601String (d : Duration) : String :=
  ⟨if d.count = 0 then "PT0S".data
   else
    let result := if d.count < 0 then "-P".data else "P".data
    -- `abs(mDuration)` in `int64_t`
    let total := wrap |d.count|
    let (result, total) := datePart Time.cDay 'D' (datePart Time.cWeek 'W'
      (datePart Time.cMonth 'M' (datePart Time.cYear 'Y' (result, total))))
    timePart result total⟩

/-! ## The format -/

/-- `<n><unit>` when `n` is not zero. -/
def piece (n : Nat) (unit : Char) : List Char := if n = 0 then [] else Nat.toDigits 10 n ++ [unit]

/-- The seconds field: `nS`, or `s.fffffffffS` when nanoseconds are left. -/
def secondsPiece (s ns : Nat) : List Char :=
  if ns = 0 then piece s 'S' else Nat.toDigits 10 s ++ '.' :: (pad9 ns ++ ['S'])

def renderTime (h mi s ns : Nat) : List Char :=
  if h = 0 ∧ mi = 0 ∧ s = 0 ∧ ns = 0 then [] else 'T' :: (piece h 'H' ++ piece mi 'M' ++ secondsPiece s ns)

/-- What follows `P`: the nonzero date fields, then the time part. -/
def render (f : Fields) : List Char :=
  piece f.years 'Y' ++ piece f.months 'M' ++ piece f.weeks 'W' ++ piece f.days 'D' ++
    renderTime f.hours f.minutes f.seconds f.nanos

open Time in
/-- The cascade of divisions, in closed form. -/
def decompose (n : Nat) : Fields :=
  let r := n % cYear % cMonth % cWeek % cDay
  { years := n / cYear, months := n % cYear / cMonth, weeks := n % cYear % cMonth / cWeek,
    days := n % cYear % cMonth % cWeek / cDay, hours := r / cHours, minutes := r % cHours / cMinutes,
    seconds := r % cHours % cMinutes / cSeconds, nanos := r % cHours % cMinutes % cSeconds }

/-- `<digits><unit>`: the number and the rest. -/
def readField (unit : Char) (cs : List Char) : Option (Nat × List Char) :=
  match readDigits 0 0 cs with
  | (n, count, u :: rest) => if 0 < count ∧ u = unit then some (n, rest) else none
  | _ => none

/-- An optional `<digits><unit>`, 0 when absent. -/
def optField (unit : Char) (cs : List Char) : Nat × List Char := (readField unit cs).getD (0, cs)

/-- `<digits>S` or `<digits>.<nine digits>S`: seconds, nanoseconds and the rest. -/
def readSeconds (cs : List Char) : Option (Nat × Nat × List Char) :=
  match readDigits 0 0 cs with
  | (s, count, 'S' :: rest) => if 0 < count then some (s, 0, rest) else none
  | (s, count, '.' :: rest) =>
    match readDigits 0 0 rest with
    | (ns, 9, 'S' :: rest') => if 0 < count then some (s, ns, rest') else none
    | _ => none
  | _ => none

/-- The time fields after `T`: hours, minutes, seconds and nanoseconds. -/
def readTime (cs : List Char) : Option (Nat × Nat × Nat × Nat) :=
  let (hours, cs) := optField 'H' cs
  let (minutes, cs) := optField 'M' cs
  match readSeconds cs, cs with
  | some (seconds, nanos, []), _ => some (hours, minutes, seconds, nanos)
  | none, [] => some (hours, minutes, 0, 0)
  | _, _ => none

/-- What follows `P`: the date fields `Y`, `M`, `W`, `D` in this order, then
    optionally `T` and the time fields. -/
def readBody (cs : List Char) : Option Fields :=
  let (years, cs) := optField 'Y' cs
  let (months, cs) := optField 'M' cs
  let (weeks, cs) := optField 'W' cs
  let (days, cs) := optField 'D' cs
  match cs with
  | [] => some { years, months, weeks, days }
  | 'T' :: cs => (readTime cs).map fun (hours, minutes, seconds, nanos) =>
      { years, months, weeks, days, hours, minutes, seconds, nanos }
  | _ => none

/-- Reads a duration as `ToISO8601String` writes one: whether it is negative, and its fields. -/
def readISO8601 (s : String) : Option (Bool × Fields) :=
  match s.data with
  | '-' :: 'P' :: cs => (readBody cs).map (true, ·)
  | 'P' :: cs => (readBody cs).map (false, ·)
  | _ => none

/-! ## The code prints `render` of the cascade -/

@[simp] theorem formatLong_ofNat (n : Nat) : formatLong n = Nat.toDigits 10 n := by simp [formatLong]

theorem datePart_ofNat {u : Nat} (hu : 0 < u) (c : Char) (acc : List Char) (n : Nat) :
    datePart u c (acc, n) = (acc ++ piece (n / u) c, ((n % u : Nat) : Int)) := by
  simp only [datePart, piece, ← Int.ofNat_tdiv, ← Int.ofNat_tmod, Nat.cast_pos, formatLong_ofNat]
  by_cases h : n / u = 0
  · have : n % u = n := Nat.mod_eq_of_lt (by rwa [Nat.div_eq_zero_iff hu] at h)
    simp only [h, lt_irrefl, if_false, if_true, this, List.append_nil]
  · simp only [h, if_false, if_pos (Nat.pos_of_ne_zero h), List.append_assoc]

theorem piece_ofNat (n : Nat) (u : Char) : (if (n : Int) ≠ 0 then formatLong n ++ [u] else []) = piece n u := by
  simp [piece]

theorem secondsPiece_ofNat (s ns : Nat) :
    ((if (ns : Int) = 0 ∧ 0 < (s : Int) then formatLong s ++ ['S'] else []) ++
      (if 0 < (ns : Int) then formatFixed9 s (ns : Int).toNat ++ ['S'] else [])) = secondsPiece s ns := by
  by_cases hn : ns = 0
  · by_cases hs : s = 0 <;> simp [hn, hs, secondsPiece, piece, Nat.pos_iff_ne_zero]
  · simp [hn, secondsPiece, formatFixed9, Nat.pos_iff_ne_zero]

open Time in
theorem timePart_ofNat (acc : List Char) (r : Nat) :
    timePart acc r = acc ++ renderTime (r / cHours) (r % cHours / cMinutes) (r % cHours % cMinutes / cSeconds)
      (r % cHours % cMinutes % cSeconds) := by
  simp only [timePart, ← Int.ofNat_tdiv, ← Int.ofNat_tmod, List.append_assoc, piece_ofNat, secondsPiece_ofNat,
    renderTime]
  generalize r / cHours = h, r % cHours / cMinutes = mi, r % cHours % cMinutes / cSeconds = s,
    r % cHours % cMinutes % cSeconds = ns
  by_cases hz : h = 0 ∧ mi = 0 ∧ s = 0 ∧ ns = 0
  · obtain ⟨rfl, rfl, rfl, rfl⟩ := hz; simp
  · rw [if_pos (by omega), if_neg hz]

theorem wrap_abs {d : Duration} (hmin : d.count ≠ -9223372036854775808) :
    wrap |d.count| = (d.count.natAbs : Int) := by
  rw [Int.abs_eq_natAbs]; apply wrap_of_inI64; have := d.inRange; unfold InI64 at *; omega

theorem toISO8601String_eq {d : Duration} (h0 : d.count ≠ 0) (hmin : d.count ≠ -9223372036854775808) :
    d.toISO8601String = ⟨(if d.count < 0 then "-P".data else "P".data) ++ render (decompose d.count.natAbs)⟩ := by
  simp only [toISO8601String, if_neg h0, wrap_abs hmin, datePart_ofNat (by decide : 0 < Time.cYear),
    datePart_ofNat (by decide : 0 < Time.cMonth), datePart_ofNat (by decide : 0 < Time.cWeek),
    datePart_ofNat (by decide : 0 < Time.cDay), timePart_ofNat]
  simp [render, decompose, List.append_assoc]

/-! ## The cascade in numbers -/

theorem total_decompose (n : Nat) : (decompose n).total = n := by
  simp only [decompose, Fields.total, Time.cYear_eq, Time.cMonth_eq, Time.cWeek_eq, Time.cDay_eq, Time.cHours_eq,
    Time.cMinutes_eq, Time.cSeconds_eq]
  omega

theorem div_le_of_lt_mul_succ {a b c : Nat} (h : a < b * (c + 1)) : a / b ≤ c :=
  Nat.le_of_lt_succ (Nat.div_lt_of_lt_mul h)

/-- Each field stays below its next unit, but for 12 months in the last 4 ns of a year. -/
theorem decompose_bounds (n : Nat) :
    (decompose n).months ≤ 12 ∧ ((decompose n).months = 12 ↔ 12 * Time.cMonth ≤ n % Time.cYear) ∧
    ((decompose n).months = 12 → (decompose n).weeks = 0 ∧ (decompose n).days = 0 ∧ (decompose n).hours = 0 ∧
      (decompose n).minutes = 0 ∧ (decompose n).seconds = 0 ∧ (decompose n).nanos < 4) ∧
    (decompose n).weeks ≤ 4 ∧ (decompose n).days ≤ 6 ∧ (decompose n).hours ≤ 23 ∧ (decompose n).minutes ≤ 59 ∧
    (decompose n).seconds ≤ 59 ∧ (decompose n).nanos < 1000000000 := by
  simp only [decompose, Time.cYear_eq, Time.cMonth_eq, Time.cWeek_eq, Time.cDay_eq, Time.cHours_eq,
    Time.cMinutes_eq, Time.cSeconds_eq]
  have hy := Nat.mod_lt n (show 0 < 31556925974740000 by decide)
  generalize n % 31556925974740000 = y at *
  refine ⟨div_le_of_lt_mul_succ (by omega), by omega, fun h => ?_, div_le_of_lt_mul_succ (by omega),
    div_le_of_lt_mul_succ (Nat.mod_lt _ (by decide)), div_le_of_lt_mul_succ (Nat.mod_lt _ (by decide)),
    div_le_of_lt_mul_succ (Nat.mod_lt _ (by decide)), div_le_of_lt_mul_succ (Nat.mod_lt _ (by decide)),
    Nat.mod_lt _ (by decide)⟩
  -- twelve months leave less than 4 ns of the year, below every later unit
  have h4 : y % 2629743831228333 < 4 := by omega
  generalize y % 2629743831228333 = r at *
  simp only [Nat.mod_eq_of_lt (show r < 604800000000000 by omega), Nat.mod_eq_of_lt (show r < 86400000000000 by omega),
    Nat.mod_eq_of_lt (show r < 3600000000000 by omega), Nat.mod_eq_of_lt (show r < 60000000000 by omega),
    Nat.mod_eq_of_lt (show r < 1000000000 by omega)]
  omega

/-! ## Reading the format back -/

theorem readField_nondigit {u : Char} (hu : u.isDigit = false) (c : Char) (cs : List Char) :
    readField c (u :: cs) = none := by
  simp [readField, readDigits_stop hu]

theorem readField_toDigits {u : Char} (hu : u.isDigit = false) (c : Char) (n : Nat) (rest : List Char) :
    readField c (Nat.toDigits 10 n ++ u :: rest) = if u = c then some (n, rest) else none := by
  rw [readField, readDigits_toDigits n (by rintro _ _ ⟨rfl, rfl⟩; exact hu)]
  simp [length_toDigits_pos]

theorem readField_piece_ne {u c : Char} (hu : u.isDigit = false) (hne : u ≠ c) (n : Nat) {rest : List Char}
    (h : readField c rest = none) : readField c (piece n u ++ rest) = none := by
  unfold piece; split
  · exact h
  · rw [List.append_assoc, List.singleton_append, readField_toDigits hu, if_neg hne]

theorem optField_piece {c : Char} (hc : c.isDigit = false) (n : Nat) {rest : List Char}
    (h : readField c rest = none) : optField c (piece n c ++ rest) = (n, rest) := by
  unfold optField piece; split
  · subst_vars; simp [h]
  · rw [List.append_assoc, List.singleton_append, readField_toDigits hc, if_pos rfl]; rfl

theorem readField_secondsPiece {c : Char} (hc : c ≠ 'S') (hd : c ≠ '.') (s ns : Nat) :
    readField c (secondsPiece s ns) = none := by
  unfold secondsPiece; split
  · simpa using readField_piece_ne (by decide) (Ne.symm hc) s (show readField c [] = none from rfl)
  · rw [readField_toDigits (by decide), if_neg (Ne.symm hd)]

theorem readSeconds_secondsPiece (s : Nat) {ns : Nat} (h : ns < 1000000000) :
    readSeconds (secondsPiece s ns) = if s = 0 ∧ ns = 0 then none else some (s, ns, []) := by
  unfold secondsPiece piece
  by_cases hn : ns = 0
  · by_cases hs : s = 0
    · simp [hn, hs, readSeconds]
    · simp only [hn, hs, if_true, if_false, and_false]
      rw [readSeconds, readDigits_toDigits s (by rintro _ _ ⟨rfl, rfl⟩; rfl)]
      simp [length_toDigits_pos]
  · simp only [hn, if_false, and_false]
    rw [readSeconds, readDigits_toDigits s (by rintro _ _ ⟨rfl, rfl⟩; rfl)]
    simp only
    rw [readDigits_pad9 h (by rintro _ _ ⟨rfl, rfl⟩; rfl)]
    simp [length_toDigits_pos]

theorem readTime_render (h mi s : Nat) {ns : Nat} (hns : ns < 1000000000) :
    readTime (piece h 'H' ++ piece mi 'M' ++ secondsPiece s ns) = some (h, mi, s, ns) := by
  have hM := optField_piece (c := 'M') (by decide) mi (readField_secondsPiece (by decide) (by decide) s ns)
  have hH := optField_piece (c := 'H') (by decide) h
    (readField_piece_ne (u := 'M') (by decide) (by decide) mi (readField_secondsPiece (by decide) (by decide) s ns))
  unfold readTime
  simp only [List.append_assoc, hH, hM, readSeconds_secondsPiece s hns]
  by_cases hz : s = 0 ∧ ns = 0
  · obtain ⟨rfl, rfl⟩ := hz
    simp [secondsPiece, piece]
  · simp [hz]

theorem readBody_render (f : Fields) (hf : f.nanos < 1000000000) : readBody (render f) = some f := by
  obtain ⟨y, mo, w, d, h, mi, s, ns⟩ := f
  have hT : ∀ c, readField c (renderTime h mi s ns) = none := by
    intro c; unfold renderTime; split
    · rfl
    · exact readField_nondigit (by decide) _ _
  have hD := optField_piece (c := 'D') (by decide) d (hT 'D')
  have hW := optField_piece (c := 'W') (by decide) w
    (readField_piece_ne (u := 'D') (by decide) (by decide) d (hT 'W'))
  have hM := optField_piece (c := 'M') (by decide) mo (readField_piece_ne (u := 'W') (by decide) (by decide) w
    (readField_piece_ne (u := 'D') (by decide) (by decide) d (hT 'M')))
  have hY := optField_piece (c := 'Y') (by decide) y (readField_piece_ne (u := 'M') (by decide) (by decide) mo
    (readField_piece_ne (u := 'W') (by decide) (by decide) w
      (readField_piece_ne (u := 'D') (by decide) (by decide) d (hT 'Y'))))
  unfold readBody render
  simp only [List.append_assoc, hY, hM, hW, hD]
  by_cases hz : h = 0 ∧ mi = 0 ∧ s = 0 ∧ ns = 0
  · obtain ⟨rfl, rfl, rfl, rfl⟩ := hz; rfl
  · simp only [renderTime, if_neg hz, readTime_render h mi s hf]; rfl

theorem readISO8601_render (neg : Bool) (f : Fields) (hf : f.nanos < 1000000000) :
    readISO8601 ⟨(if neg then "-P".data else "P".data) ++ render f⟩ = some (neg, f) := by
  cases neg <;> simp [readISO8601, readBody_render f hf]

theorem read_toISO8601String (d : Duration) (hmin : d.count ≠ -9223372036854775808) :
    readISO8601 d.toISO8601String = some (decide (d.count < 0), decompose d.count.natAbs) := by
  by_cases h0 : d.count = 0
  · rw [show d.toISO8601String = "PT0S" by simp [toISO8601String, h0], h0]
    decide
  · rw [toISO8601String_eq h0 hmin, ← readISO8601_render _ _ (decompose_bounds _).2.2.2.2.2.2.2.2]
    simp

/-! ## `ToISO8601String` -/

/-- `PT0S` exactly for zero; otherwise `-P` or `P` and `render` of the cascade, which
    reads back with the code's unit lengths as the sign and exactly `|d|`. -/
theorem toISO8601String_spec (d : Duration) (hmin : d.count ≠ -9223372036854775808) :
    (d.toISO8601String = "PT0S" ↔ d.count = 0) ∧
    (d.count ≠ 0 → d.toISO8601String.data =
      (if d.count < 0 then "-P".data else "P".data) ++ render (decompose d.count.natAbs)) ∧
    readISO8601 d.toISO8601String = some (decide (d.count < 0), decompose d.count.natAbs) ∧
    (decompose d.count.natAbs).total = d.count.natAbs := by
  refine ⟨⟨fun h => ?_, fun h => by simp [toISO8601String, h]⟩,
    fun h0 => by rw [toISO8601String_eq h0 hmin], read_toISO8601String d hmin, total_decompose _⟩
  have hr := read_toISO8601String d hmin
  rw [h, show readISO8601 "PT0S" = some (false, {}) by decide] at hr
  have ht := total_decompose d.count.natAbs
  rw [← (Prod.mk.inj (Option.some.inj hr)).2] at ht
  simp only [Fields.total] at ht
  omega

open Time in
/-- Minus one of each unit and 32 µs: `-P1Y1M1W1DT1H1M1.000032000S`, which reads back as
    the sign and the seven fields. -/
theorem toISO8601String_spec_all_units :
    let d := Duration.ofInt (-(cYear + cMonth + cWeek + cDay + cHours + cMinutes + cSeconds + 32 * cMicroseconds))
    d.toISO8601String = "-P1Y1M1W1DT1H1M1.000032000S" ∧ d.count ≠ -9223372036854775808 ∧
    (d.toISO8601String = "PT0S" ↔ d.count = 0) ∧
    (d.count ≠ 0 → d.toISO8601String.data =
      (if d.count < 0 then "-P".data else "P".data) ++ render (decompose d.count.natAbs)) ∧
    readISO8601 d.toISO8601String = some (decide (d.count < 0), decompose d.count.natAbs) ∧
    (decompose d.count.natAbs).total = d.count.natAbs :=
  ⟨by decide, by decide, toISO8601String_spec _ (by decide)⟩

open Time in
/-- The cases of the `DurationToISO8601String` test of src/unnamed/part_003. -/
example : [(-6 * cDay : Int), cWeek, 2 * cWeek, cWeek - cDay, cMonth, cYear, cYear + cMonth + cWeek + cDay + cHours,
      0, 1, cMinutes + cSeconds, cMinutes + 32 * cMicroseconds].map (fun x => (Duration.ofInt x).toISO8601String) =
    ["-P6D", "P1W", "P2W", "P6D", "P1M", "P1Y", "P1Y1M1W1DT1H", "PT0S", "PT0.000000001S", "PT1M1S",
      "PT1M0.000032000S"] := by
  decide

/-- The string determines the duration: two durations other than `INT64_MIN` printed
    alike are equal. -/
theorem toISO8601String_injective {d d' : Duration} (hmin : d.count ≠ -9223372036854775808)
    (hmin' : d'.count ≠ -9223372036854775808) (h : d.toISO8601String = d'.toISO8601String) : d = d' := by
  have hr := read_toISO8601String d hmin
  rw [h, read_toISO8601String d' hmin'] at hr
  obtain ⟨hs, hf⟩ := Prod.mk.inj (Option.some.inj hr)
  have ha : d'.count.natAbs = d.count.natAbs := by rw [← total_decompose d'.count.natAbs, hf, total_decompose]
  obtain ⟨c, hc⟩ := d
  obtain ⟨c', hc'⟩ := d'
  simp only [decide_eq_decide] at hs ha
  simp only [Duration.mk.injEq]
  omega

/-- One minute and 32 µs, written directly and as a sum, print alike and are one duration. -/
theorem toISO8601String_injective_sum :
    let d : Duration := ⟨60000032000, by decide⟩
    let d' : Duration := ⟨60000000000, by decide⟩ + ⟨32000, by decide⟩
    d.count ≠ -9223372036854775808 ∧ d'.count ≠ -9223372036854775808 ∧
      d.toISO8601String = d'.toISO8601String ∧ d = d' := by
  intro d d'
  have h1 : d.count ≠ -9223372036854775808 := by decide
  have h2 : d'.count ≠ -9223372036854775808 := by decide
  have h3 : d.toISO8601String = d'.toISO8601String := by decide
  exact ⟨h1, h2, h3, toISO8601String_injective h1 h2 h3⟩

/-- The fields as printed: each below its next unit, except months, which reach 12
    exactly when `|d| mod cYear ≥ 12 * cMonth`, and nothing but up to 3 ns follows them. -/
theorem toISO8601String_fields (d : Duration) (hmin : d.count ≠ -9223372036854775808) :
    ∃ f, readISO8601 d.toISO8601String = some (decide (d.count < 0), f) ∧
      f.months ≤ 12 ∧ (f.months = 12 ↔ 12 * Time.cMonth ≤ d.count.natAbs % Time.cYear) ∧
      (f.months = 12 → f.weeks = 0 ∧ f.days = 0 ∧ f.hours = 0 ∧ f.minutes = 0 ∧ f.seconds = 0 ∧ f.nanos < 4) ∧
      f.weeks ≤ 4 ∧ f.days ≤ 6 ∧ f.hours ≤ 23 ∧ f.minutes ≤ 59 ∧ f.seconds ≤ 59 := by
  obtain ⟨h1, h2, h3, h4, h5, h6, h7, h8, -⟩ := decompose_bounds d.count.natAbs
  exact ⟨_, read_toISO8601String d hmin, h1, h2, h3, h4, h5, h6, h7, h8⟩

/-- Twelve months: `12 * cMonth` ns, 4 ns short of a year. -/
theorem toISO8601String_fields_twelve_months :
    ∃ f : Fields, readISO8601 (⟨31556925974739996, by decide⟩ : Duration).toISO8601String = some (false, f) ∧
      f.months = 12 := by
  obtain ⟨f, hr, -, h12, -⟩ := toISO8601String_fields ⟨31556925974739996, by decide⟩ (by decide)
  exact ⟨f, hr, h12.mpr (by decide)⟩

/-- `12 * cMonth` is printed `P12M`: a months field of 12 where the remainder within a
    year is meant. -/
theorem toISO8601String_twelve_months :
    (⟨31556925974739996, by decide⟩ : Duration).toISO8601String = "P12M" ∧ 31556925974739996 = 12 * Time.cMonth ∧
      readISO8601 "P12M" = some (false, { months := 12 }) := by
  decide

example : (⟨-9223372036854775808, by decide⟩ : Duration).toISO8601String = "-PT-2562047H-47M" := by decide

/-! ## Length -/

theorem length_piece_le {n k : Nat} (hk : 1 ≤ k) (h : n < 10 ^ k) (u : Char) : (piece n u).length ≤ k + 1 := by
  unfold piece; split
  · simp
  · simpa using length_toDigits_le hk h

theorem length_renderTime_le (h mi s : Nat) {ns : Nat} (hh : h < 100) (hm : mi < 100) (hs : s < 100)
    (hns : ns < 1000000000) : (renderTime h mi s ns).length ≤ 20 := by
  have := length_piece_le (k := 2) (by omega) hh 'H'
  have := length_piece_le (k := 2) (by omega) hm 'M'
  have := length_piece_le (k := 2) (by omega) hs 'S'
  have := length_toDigits_le (n := s) (k := 2) (by omega) hs
  have := length_pad9 hns
  unfold renderTime secondsPiece; split
  · simp
  · split <;> simp <;> omega

/-- At most 33 characters, so a `StaticString` of 33 holds every result. -/
theorem length_toISO8601String_le (d : Duration) (hmin : d.count ≠ -9223372036854775808) :
    d.toISO8601String.length ≤ 33 := by
  by_cases h0 : d.count = 0
  · simp only [toISO8601String, h0, if_true]; decide
  have hn : d.count.natAbs < 9223372036854775808 := by have := d.inRange; unfold InI64 at this; omega
  have hy : (decompose d.count.natAbs).years < 1000 := by
    simp only [decompose, Time.cYear, Time.cMicroseconds, Time.cNanoseconds]; omega
  obtain ⟨hm, -, -, hw, hd, hh, hmi, hs, hns⟩ := decompose_bounds d.count.natAbs
  have := length_piece_le (k := 3) (by omega) hy 'Y'
  have := length_piece_le (k := 2) (n := (decompose d.count.natAbs).months) (by omega) (by omega) 'M'
  have := length_piece_le (k := 1) (n := (decompose d.count.natAbs).weeks) (by omega) (by omega) 'W'
  have := length_piece_le (k := 1) (n := (decompose d.count.natAbs).days) (by omega) (by omega) 'D'
  have := length_renderTime_le (decompose d.count.natAbs).hours (decompose d.count.natAbs).minutes
    (decompose d.count.natAbs).seconds (by omega) (by omega) (by omega) hns
  rw [toISO8601String_eq h0 hmin, String.length]
  simp only [render, List.length_append]
  split <;> simp <;> omega

/-- The bound is reached: `-P100Y11M4W1DT23H59M59.999999999S`. -/
theorem length_toISO8601String_longest :
    let d : Duration := ⟨-3187211779617511662, by decide⟩
    d.toISO8601String.length = 33 ∧ d.toISO8601String.length ≤ 33 :=
  ⟨by decide, length_toISO8601String_le _ (by decide)⟩

end Duration

end Aos
