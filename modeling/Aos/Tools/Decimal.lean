/-
  Aos.Tools.Decimal — the decimal conversions `snprintf` performs for
  `Duration::ToISO8601String`, and a reader for what they print.

  `%ld` of a value is `Nat.toDigits 10` of its magnitude, after a `-` when it is
  negative (`formatLong`). Nine zero-padded digits (`pad9`) are the fraction `%0.9lf`
  prints. `readDigits` reads the leading decimal digits of a character list.

  Proved: the last digit of `toDigits` comes off the end (`toDigits_eq`); reading the
  digits of `n` back gives `n` and stops at the next non-digit (`readDigits_toDigits`);
  `pad9` is nine digits reading back to its value (`readDigits_pad9`); and the printed
  length is at most `k` below `10^k` (`length_toDigits_le`).
-/

import Mathlib.Data.Nat.Digits

namespace Aos

/-- `%ld`. -/
def formatLong (n : Int) : List Char :=
  if n < 0 then '-' :: Nat.toDigits 10 n.natAbs else Nat.toDigits 10 n.natAbs

/-- The nine fraction digits of `%0.9lf`: `n` zero-padded on the left. -/
def pad9 (n : Nat) : List Char := List.replicate (9 - (Nat.toDigits 10 n).length) '0' ++ Nat.toDigits 10 n

def digitVal (c : Char) : Nat := c.toNat - 48

/-- The leading digits of a list, read after `acc` (of `count` digits): the value, the
    number of digits, and the rest of the list. -/
def readDigits (acc count : Nat) : List Char → Nat × Nat × List Char
  | [] => (acc, count, [])
  | c :: cs => if c.isDigit then readDigits (10 * acc + digitVal c) (count + 1) cs else (acc, count, c :: cs)

/-- The value of digits `cs` read after `acc`. -/
def digitsValue (acc : Nat) (cs : List Char) : Nat := cs.foldl (fun a c => 10 * a + digitVal c) acc

/-! ## `Nat.toDigits` -/

theorem digitChar_spec : ∀ d < 10, (Nat.digitChar d).isDigit = true ∧ digitVal (Nat.digitChar d) = d := by
  decide

theorem toDigitsCore_append (f n : Nat) (ds : List Char) (h : n < f) :
    Nat.toDigitsCore 10 f n ds = Nat.toDigitsCore 10 f n [] ++ ds := by
  induction f generalizing n ds with
  | zero => omega
  | succ f ih =>
    simp only [Nat.toDigitsCore]
    split
    · rfl
    · rw [ih _ _ (by omega), ih _ [_] (by omega), List.append_assoc, List.singleton_append]

theorem toDigitsCore_step (f n : Nat) (h : n < f + 1) :
    Nat.toDigitsCore 10 (f + 1) n [] =
      (if n < 10 then [] else Nat.toDigitsCore 10 f (n / 10) []) ++ [Nat.digitChar (n % 10)] := by
  simp only [Nat.toDigitsCore]
  split <;> split <;> first | rfl | omega | exact toDigitsCore_append _ _ _ (by omega)

/-- Enough fuel is all `toDigitsCore` needs. -/
theorem toDigitsCore_fuel (n : Nat) : ∀ f, n < f → Nat.toDigitsCore 10 f n [] = Nat.toDigits 10 n := by
  induction n using Nat.strong_induction_on with
  | _ n ih =>
    rintro (_ | f) h
    · omega
    · rw [Nat.toDigits, toDigitsCore_step f n h, toDigitsCore_step n n (by omega)]
      split
      · rfl
      · rw [ih _ (by omega) f (by omega), ih _ (by omega) n (by omega)]

/-- The last digit comes off the end. -/
theorem toDigits_eq (n : Nat) :
    Nat.toDigits 10 n = (if n < 10 then [] else Nat.toDigits 10 (n / 10)) ++ [Nat.digitChar (n % 10)] := by
  rw [Nat.toDigits, toDigitsCore_step n n (by omega)]
  split
  · rfl
  · rw [toDigitsCore_fuel _ _ (by omega)]

theorem toDigits_isDigit (n : Nat) : ∀ c ∈ Nat.toDigits 10 n, c.isDigit = true := by
  induction n using Nat.strong_induction_on with
  | _ n ih =>
    rw [toDigits_eq]
    intro c hc
    rcases List.mem_append.mp hc with hc | hc
    · split at hc
      · cases hc
      · exact ih _ (by omega) c hc
    · rw [List.mem_singleton.mp hc]; exact (digitChar_spec _ (Nat.mod_lt _ (by omega))).1

theorem digitsValue_snoc (acc : Nat) (xs : List Char) (c : Char) :
    digitsValue acc (xs ++ [c]) = 10 * digitsValue acc xs + digitVal c := by
  simp [digitsValue]

theorem digitsValue_toDigits (n : Nat) : digitsValue 0 (Nat.toDigits 10 n) = n := by
  induction n using Nat.strong_induction_on with
  | _ n ih =>
    rw [toDigits_eq, digitsValue_snoc, (digitChar_spec _ (Nat.mod_lt n (by omega))).2]
    split
    · simp [digitsValue]; omega
    · rw [ih _ (by omega)]; omega

theorem length_toDigits_pos (n : Nat) : 0 < (Nat.toDigits 10 n).length := by
  rw [toDigits_eq]; simp

theorem length_toDigits_le {n k : Nat} (hk : 1 ≤ k) (h : n < 10 ^ k) : (Nat.toDigits 10 n).length ≤ k := by
  induction k generalizing n with
  | zero => omega
  | succ k ih =>
    rw [toDigits_eq]
    split
    · simp
    · rcases Nat.eq_zero_or_pos k with rfl | hk'
      · omega
      · have := ih hk' (n := n / 10) (by rw [Nat.pow_succ] at h; omega)
        simp; omega

/-! ## Reading digits back -/

@[simp] theorem readDigits_nil (acc count : Nat) : readDigits acc count [] = (acc, count, []) := rfl

theorem readDigits_stop {c : Char} (hc : c.isDigit = false) (acc count : Nat) (cs : List Char) :
    readDigits acc count (c :: cs) = (acc, count, c :: cs) := by
  simp [readDigits, hc]

theorem readDigits_append {xs : List Char} (hxs : ∀ c ∈ xs, c.isDigit = true) (acc count : Nat)
    (rest : List Char) :
    readDigits acc count (xs ++ rest) = readDigits (digitsValue acc xs) (count + xs.length) rest := by
  induction xs generalizing acc count with
  | nil => rfl
  | cons c xs ih =>
    rw [List.cons_append, readDigits.eq_2, if_pos (hxs c (List.mem_cons_self _ _)),
      ih (fun c hc => hxs c (List.mem_cons_of_mem _ hc)), List.length_cons, Nat.add_comm xs.length 1,
      ← Nat.add_assoc]
    rfl

/-- The digits of `n`, then a non-digit: `n`, read in as many digits as `%ld` printed. -/
theorem readDigits_toDigits (n : Nat) {rest : List Char}
    (hr : ∀ c cs, rest = c :: cs → c.isDigit = false) :
    readDigits 0 0 (Nat.toDigits 10 n ++ rest) = (n, (Nat.toDigits 10 n).length, rest) := by
  rw [readDigits_append (toDigits_isDigit n), digitsValue_toDigits, Nat.zero_add]
  cases rest with
  | nil => rfl
  | cons c cs => exact readDigits_stop (hr c cs rfl) _ _ _

theorem digitsValue_zeros (acc k : Nat) : digitsValue acc (List.replicate k '0') = 10 ^ k * acc := by
  induction k generalizing acc with
  | zero => simp [digitsValue]
  | succ k ih =>
    rw [List.replicate_succ, digitsValue, List.foldl_cons, ← digitsValue, ih]
    simp [digitVal, Nat.pow_succ, Nat.mul_assoc]

theorem length_pad9 {n : Nat} (h : n < 1000000000) : (pad9 n).length = 9 := by
  have := length_toDigits_le (n := n) (k := 9) (by omega) (by norm_num; omega)
  simp [pad9]; omega

/-- Nine digits of `pad9 n`, then a non-digit. -/
theorem readDigits_pad9 {n : Nat} (h : n < 1000000000) {rest : List Char}
    (hr : ∀ c cs, rest = c :: cs → c.isDigit = false) :
    readDigits 0 0 (pad9 n ++ rest) = (n, 9, rest) := by
  have hz : ∀ c ∈ List.replicate (9 - (Nat.toDigits 10 n).length) '0', c.isDigit = true := by
    intro c hc; rw [List.eq_of_mem_replicate hc]; rfl
  rw [pad9, List.append_assoc, readDigits_append hz, digitsValue_zeros, Nat.mul_zero, Nat.zero_add,
    readDigits_append (toDigits_isDigit n), digitsValue_toDigits]
  have hl := length_pad9 h
  simp only [pad9, List.length_append, List.length_replicate] at hl
  rw [List.length_replicate, hl]
  cases rest with
  | nil => rfl
  | cons c cs => exact readDigits_stop (hr c cs rfl) _ _ _

end Aos
