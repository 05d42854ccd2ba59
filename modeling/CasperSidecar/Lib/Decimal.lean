import Mathlib

/-!
# Lib.Decimal

Decimal numerals as Rust's `str::parse` reads them into an unsigned integer type
whose values are those below `bound` (`from_str_radix` at radix `10`): an
optional leading `+`, then digits accumulated with checked multiplication and
addition, so that the first step at or past `bound` fails (`fromStr`).  The text
`"+"` alone, the empty text and any non-digit fail; a leading `-` is a non-digit
for an unsigned type.

* `accumulate_eq` — the checked loop computes the value of the digits
  (`Nat.ofDigitChars`), and fails exactly when a character is not a digit or the
  value reaches `bound`;
* `fromStr_toDigits` — the text Lean prints for a number below `bound`
  (`Nat.toDigits 10`, that is `toString`) reads back as the number;
* `parseU32_toString`, `parseU64_toString` — the same for `u32` and `u64` and their
  `Display`.
-/

namespace Decimal

/-- The value of a digit character. -/
def digitValue (c : Char) : Nat := c.toNat - '0'.toNat

/-- The checked loop of `from_str_radix`: from `acc`, each character must be a digit and
`10 * acc + digit` must stay below `bound`. -/
def accumulate (bound : Nat) : Nat → List Char → Option Nat
  | acc, [] => some acc
  | acc, c :: cs =>
      if c.isDigit then
        if 10 * acc + digitValue c < bound then accumulate bound (10 * acc + digitValue c) cs
        else none
      else none

/-- `str::parse` into an unsigned type whose values are below `bound`: `"+"` and `"-"`
alone are invalid digits, a leading `+` is dropped, and the rest goes through the
checked loop from `0`. -/
def fromStr (bound : Nat) (s : List Char) : Option Nat :=
  match s with
  | [] => none
  | c :: rest =>
      if (c = '+' ∨ c = '-') ∧ rest = [] then none
      else if c = '+' then accumulate bound 0 rest
      else accumulate bound 0 (c :: rest)

/-- `str::parse::<u32>`. -/
def parseU32 (s : String) : Option UInt32 :=
  (fromStr (2 ^ 32) s.toList).map Nat.toUInt32

/-- `str::parse::<u64>`. -/
def parseU64 (s : String) : Option UInt64 :=
  (fromStr (2 ^ 64) s.toList).map Nat.toUInt64

/-! ## The checked loop -/

theorem le_ofDigitChars (cs : List Char) (acc : Nat) : acc ≤ Nat.ofDigitChars 10 cs acc := by
  rw [Nat.ofDigitChars_eq_ofDigitChars_zero]
  have hpow : 1 ≤ 10 ^ cs.length := Nat.one_le_pow _ _ (by decide)
  calc acc = 1 * acc := (Nat.one_mul acc).symm
    _ ≤ 10 ^ cs.length * acc := Nat.mul_le_mul_right acc hpow
    _ ≤ _ := Nat.le_add_right _ _

/-- **The checked loop computes the value of the digits**: from a start below the bound,
it returns the value of `cs` read after `acc` when every character is a digit and that
value is below the bound, and fails otherwise.  Checking each step is checking the
last, since the value only grows. -/
theorem accumulate_eq {bound acc : Nat} (hacc : acc < bound) (cs : List Char) :
    accumulate bound acc cs =
      if cs.all Char.isDigit ∧ Nat.ofDigitChars 10 cs acc < bound then
        some (Nat.ofDigitChars 10 cs acc)
      else none := by
  induction cs generalizing acc with
  | nil => simp [accumulate, hacc]
  | cons c cs ih =>
      have hcons : Nat.ofDigitChars 10 (c :: cs) acc =
          Nat.ofDigitChars 10 cs (10 * acc + digitValue c) := Nat.ofDigitChars_cons
      rw [accumulate, hcons, List.all_cons]
      by_cases hdigit : c.isDigit
      · by_cases hstep : 10 * acc + digitValue c < bound
        · rw [if_pos hdigit, if_pos hstep, ih hstep, hdigit, Bool.true_and]
        · -- the value after this digit is already at the bound, and the rest only adds
          have hle := le_ofDigitChars cs (10 * acc + digitValue c)
          rw [if_pos hdigit, if_neg hstep, if_neg (by omega)]
      · rw [if_neg hdigit, if_neg (by simp [hdigit])]

/-! ## Reading what Lean prints -/

theorem all_isDigit_toDigits (n : Nat) : (Nat.toDigits 10 n).all Char.isDigit := by
  rw [List.all_eq_true]
  intro c hc
  exact Nat.isDigit_of_mem_toDigits (by decide) (by decide) hc

/-- **The printed numeral reads back**: `fromStr` on `Nat.toDigits 10 n` gives `n` when
`n` is below the bound. -/
theorem fromStr_toDigits {bound n : Nat} (h : n < bound) :
    fromStr bound (Nat.toDigits 10 n) = some n := by
  have hdigits := all_isDigit_toDigits n
  obtain ⟨c, rest, hcons⟩ := List.exists_cons_of_ne_nil (@Nat.toDigits_ne_nil n 10)
  -- the first character is a digit, so neither sign applies
  have hc : c.isDigit := by
    rw [hcons, List.all_cons, Bool.and_eq_true] at hdigits
    exact hdigits.1
  have hplus : c ≠ '+' := by
    rintro rfl
    exact absurd hc (by decide)
  have hminus : c ≠ '-' := by
    rintro rfl
    exact absurd hc (by decide)
  have hvalue : Nat.ofDigitChars 10 (Nat.toDigits 10 n) 0 = n := Nat.ofDigitChars_ten_toDigits
  have hloop := accumulate_eq (Nat.lt_of_le_of_lt (Nat.zero_le n) h) (Nat.toDigits 10 n)
  rw [hvalue, if_pos ⟨hdigits, h⟩] at hloop
  rw [hcons] at hloop ⊢
  simp only [fromStr, hplus, hminus, or_self, false_and, if_false]
  exact hloop

/-- `u32`'s `Display` reads back under `parse::<u32>`. -/
theorem parseU32_toString (n : UInt32) : parseU32 (toString n) = some n := by
  have hlist : (toString n).toList = Nat.toDigits 10 n.toNat := Nat.toList_repr
  rw [parseU32, hlist, fromStr_toDigits n.toNat_lt, Option.map_some]
  exact congrArg some UInt32.ofNat_toNat

/-- `u64`'s `Display` reads back under `parse::<u64>`. -/
theorem parseU64_toString (n : UInt64) : parseU64 (toString n) = some n := by
  have hlist : (toString n).toList = Nat.toDigits 10 n.toNat := Nat.toList_repr
  rw [parseU64, hlist, fromStr_toDigits n.toNat_lt, Option.map_some]
  exact congrArg some UInt64.ofNat_toNat

end Decimal
