import DiceNotation.Proofs.Grammar
import Mathlib.Algebra.Ring.Nat

/-!
# Written numbers are numerals

Every whole number is written as a numeral (`Numeral.ofInt`) whose value it is, and the numeral is short just when the
number is below the bound that the greatest number of digits sets. The number that a short numeral stands for can be
written (`Numeral.writable_value`), and so can every number in a text with short numerals (`Layout.written`).
-/

namespace DiceNotation

/-- The numeral that a number is written as. -/
def Numeral.ofInt (n : Int) : Numeral :=
  ⟨decide (n < 0), Nat.toDigits 10 n.natAbs⟩

namespace Numeral

variable (n : Int)

theorem chars_ofInt : (ofInt n).chars = decimal n := by
  unfold chars ofInt decimal
  by_cases h : n < 0 <;> simp [h]

theorem value_ofInt : (ofInt n).value = n := by
  unfold value ofInt
  rw [Nat.ofDigitChars_ten_toDigits]
  by_cases h : n < 0
  · simp only [h, decide_true, if_true]
    omega
  · simp only [h, decide_false, Bool.false_eq_true, if_false]
    omega

/-- A written number is a spelling of its numeral. -/
theorem spelled_decimal : (Token.numeral (ofInt n)).Spelled (decimal n) := by
  rw [← chars_ofInt]
  exact .numeral Nat.toDigits_ne_nil fun c hc => Nat.isDigit_of_mem_toDigits (by decide) (by decide) hc

theorem shortNumerals_ofInt : ShortNumerals [.numeral (ofInt n)] ↔ Writable n :=
  shortNumerals_numeral

end Numeral

theorem writable_iff {n : Int} : Writable n ↔ n.natAbs < 10 ^ maxDigits :=
  Nat.length_toDigits_le_iff (by decide) (by decide)

/-- What is no farther from zero than a number that can be written can be written. -/
theorem Writable.of_natAbs_le {m n : Int} (h : Writable n) (hle : m.natAbs ≤ n.natAbs) : Writable m := by
  rw [writable_iff] at h ⊢
  exact Nat.lt_of_le_of_lt hle h

/-! ## Numbers that are read can be written -/

/-- So many digits stand for less than that power of ten. -/
theorem ofDigitChars_lt {ds : List Char} (digits : ∀ c ∈ ds, c.isDigit = true) :
    Nat.ofDigitChars 10 ds 0 < 10 ^ ds.length := by
  induction ds with
  | nil => exact Nat.one_pos
  | cons c ds ih =>
    obtain ⟨hc, hds⟩ := List.forall_mem_cons.1 digits
    have hdigit : c.toNat - '0'.toNat ≤ 9 := by
      have hrange : 48 ≤ c.toNat ∧ c.toNat ≤ 57 := Char.isDigit_iff_toNat.1 hc
      have hzero : '0'.toNat = 48 := rfl
      omega
    rw [Nat.ofDigitChars_cons, Nat.mul_zero, Nat.zero_add, Nat.ofDigitChars_eq_ofDigitChars_zero, List.length_cons]
    calc 10 ^ ds.length * (c.toNat - '0'.toNat) + Nat.ofDigitChars 10 ds 0
        < 10 ^ ds.length * (c.toNat - '0'.toNat) + 10 ^ ds.length := Nat.add_lt_add_left (ih hds) _
      _ = 10 ^ ds.length * (c.toNat - '0'.toNat + 1) := (Nat.mul_succ _ _).symm
      _ ≤ 10 ^ ds.length * 10 := Nat.mul_le_mul_left _ (Nat.succ_le_succ hdigit)
      _ = 10 ^ (ds.length + 1) := (Nat.pow_succ ..).symm

/-- Leading zeros aside, a number is written with no more digits than it is read from. -/
theorem Numeral.writable_value {n : Numeral} (digits : ∀ c ∈ n.digits, c.isDigit = true)
    (short : n.digits.length ≤ maxDigits) : Writable n.value := by
  have habs : n.value.natAbs = Nat.ofDigitChars 10 n.digits 0 := by
    unfold value
    cases n.negative with
    | true => exact (Int.natAbs_neg _).trans (Int.natAbs_natCast _)
    | false => exact Int.natAbs_natCast _
  rw [writable_iff, habs]
  exact Nat.lt_of_lt_of_le (ofDigitChars_lt digits) (Nat.pow_le_pow_right (by decide) short)

/-- The numbers that are read from some tokens can be written. -/
def Written (ts : List Token) : Prop :=
  ∀ n, Token.numeral n ∈ ts → Writable n.value

theorem written_append {ts us : List Token} (h : Written (ts ++ us)) : Written ts ∧ Written us :=
  ⟨fun n hn => h n (List.mem_append_left us hn), fun n hn => h n (List.mem_append_right ts hn)⟩

/-- Short numerals in a text stand for numbers that can be written. -/
theorem Layout.written {ts : List Token} {cs rest : List Char} (h : Layout ts cs rest) (short : ShortNumerals ts) :
    Written ts := by
  induction h with
  | nil => nofun
  | @cons t ts g w cs rest gap spelled _ ih =>
    obtain ⟨ht, hts⟩ := shortNumerals_cons.1 short
    intro n hn
    rcases List.mem_cons.1 hn with rfl | hn
    · cases spelled with
      | numeral nonempty digits => exact Numeral.writable_value digits (shortNumerals_numeral.1 ht)
    · exact ih hts n hn

theorem CommandOf.written_target {ts : List Token} {e : Expr} {checker : Option Checker} (h : CommandOf ts e checker)
    (written : Written ts) : ∀ c ∈ checker, Writable c.target := by
  cases h with
  | bare row => nofun
  | checked row compare target =>
    intro c hc
    cases hc
    exact written target (by simp)

end DiceNotation
