import Mathlib.Algebra.Order.Field.Rat
import Mathlib.Data.List.DropRight
import Mathlib.Tactic.FieldSimp
import Mathlib.Tactic.Ring

/-!
# Exact decimal amounts

A non-negative decimal is a coefficient and the number of its digits behind the point. Addition and
comparison bring both operands to the larger number of digits, so nothing is rounded. The text of a
decimal has no trailing zeros behind the point; reading it back gives the same rational number.
-/

namespace MyApiSpec.Base

open List

/-- The number `value / 10 ^ scale`. -/
structure Decimal where
  value : Nat
  scale : Nat
  deriving DecidableEq, Repr

namespace Decimal

/-- The rational number of a decimal. -/
def toRat (d : Decimal) : ℚ := d.value / 10 ^ d.scale

/-- The coefficient of the same number with `scale` digits behind the point, which are not fewer
than before. -/
def rescale (d : Decimal) (scale : Nat) : Nat := d.value * 10 ^ (scale - d.scale)

def add (a b : Decimal) : Decimal :=
  let scale := max a.scale b.scale
  ⟨a.rescale scale + b.rescale scale, scale⟩

def greaterThan (a b : Decimal) : Bool :=
  let scale := max a.scale b.scale
  b.rescale scale < a.rescale scale

/-- Read digits with an optional point. -/
def ofText (text : List Char) : Decimal :=
  let whole := text.takeWhile (· ≠ '.')
  let fraction := (text.dropWhile (· ≠ '.')).drop 1
  ⟨Nat.ofDigitChars 10 (whole ++ fraction) 0, fraction.length⟩

/-- The digits before the point, at least one, and those behind it. -/
def parts (d : Decimal) : List Char × List Char :=
  let digits := Nat.toDigits 10 d.value
  if d.scale < digits.length then
    (digits.take (digits.length - d.scale), digits.drop (digits.length - d.scale))
  else (['0'], List.replicate (d.scale - digits.length) '0' ++ digits)

/-- The digits behind the point without trailing zeros. -/
def fraction (d : Decimal) : List Char := d.parts.2.rdropWhile (· = '0')

def toText (d : Decimal) : List Char :=
  if d.fraction = [] then d.parts.1 else d.parts.1 ++ '.' :: d.fraction

/-! ### Arithmetic -/

theorem rescale_toRat (d : Decimal) {scale : Nat} (h : d.scale ≤ scale) :
    (d.rescale scale : ℚ) / 10 ^ scale = d.toRat := by
  obtain ⟨k, rfl⟩ := Nat.exists_eq_add_of_le h
  rw [rescale, toRat, Nat.add_sub_cancel_left, pow_add]
  push_cast
  field_simp

theorem toRat_add (a b : Decimal) : (a.add b).toRat = a.toRat + b.toRat := by
  rw [← a.rescale_toRat (le_max_left a.scale b.scale), ← b.rescale_toRat (le_max_right a.scale b.scale),
    ← add_div, toRat, add]
  push_cast
  rfl

theorem greaterThan_iff {a b : Decimal} : a.greaterThan b = true ↔ b.toRat < a.toRat := by
  rw [← a.rescale_toRat (le_max_left a.scale b.scale), ← b.rescale_toRat (le_max_right a.scale b.scale),
    div_lt_div_iff_of_pos_right (pow_pos (by norm_num) _), Nat.cast_lt, greaterThan]
  exact decide_eq_true_iff

/-! ### Text -/

section

variable (d : Decimal)

theorem parts_digits {c : Char} (h : c ∈ d.parts.1 ++ d.parts.2) : c ≠ '.' := by
  have hdigit : c.isDigit = true := by
    have hdigits : ∀ c ∈ Nat.toDigits 10 d.value, c.isDigit = true :=
      fun c hc => Nat.isDigit_of_mem_toDigits (by decide) (by decide) hc
    simp only [parts] at h
    split at h
    · exact hdigits c (by rwa [take_append_drop] at h)
    · rcases mem_append.mp h with h | h
      · obtain rfl := mem_singleton.mp h
        decide
      · rcases mem_append.mp h with h | h
        · obtain rfl := eq_of_mem_replicate h
          decide
        · exact hdigits c h
  rintro rfl
  revert hdigit
  decide

/-- The parts are the digits of the coefficient, cut at the point. -/
theorem parts_value :
    Nat.ofDigitChars 10 (d.parts.1 ++ d.parts.2) 0 = d.value ∧ d.parts.2.length = d.scale := by
  simp only [parts]
  split
  · next h =>
    refine ⟨?_, by rw [length_drop]; omega⟩
    rw [take_append_drop, Nat.ofDigitChars_ten_toDigits]
  · next h =>
    refine ⟨?_, by rw [length_append, length_replicate]; omega⟩
    have hzeros : ['0'] ++ (replicate (d.scale - (Nat.toDigits 10 d.value).length) '0' ++
        Nat.toDigits 10 d.value) =
        replicate (d.scale - (Nat.toDigits 10 d.value).length + 1) '0' ++ Nat.toDigits 10 d.value := rfl
    rw [hzeros, Nat.ofDigitChars_append, Nat.ofDigitChars_replicate_zero, Nat.mul_zero,
      Nat.ofDigitChars_ten_toDigits]

theorem ofText_toText :
    ofText d.toText = ⟨Nat.ofDigitChars 10 (d.parts.1 ++ d.fraction) 0, d.fraction.length⟩ := by
  have hwhole : ∀ c ∈ d.parts.1, decide (c ≠ '.') = true := fun c hc =>
    decide_eq_true (d.parts_digits (mem_append_left _ hc))
  unfold toText
  split
  · next hnil =>
    rw [hnil, ofText, takeWhile_eq_self_iff.mpr hwhole, dropWhile_eq_nil_iff.mpr hwhole]
    rfl
  · rw [ofText, takeWhile_append_of_pos hwhole, dropWhile_append_of_pos hwhole]
    simp

/-- The text of a decimal is read as the same number. -/
theorem toRat_ofText_toText : (ofText d.toText).toRat = d.toRat := by
  obtain ⟨hvalue, hscale⟩ := d.parts_value
  -- the removed zeros multiply the coefficient and the denominator by the same power of ten
  obtain ⟨k, hk⟩ : ∃ k, d.parts.2 = d.fraction ++ replicate k '0' := by
    refine ⟨(d.parts.2.rtakeWhile (· = '0')).length, ?_⟩
    have hzeros : d.parts.2.rtakeWhile (· = '0') =
        replicate (d.parts.2.rtakeWhile (· = '0')).length '0' :=
      eq_replicate_iff.mpr ⟨rfl, fun c hc => by simpa using mem_rtakeWhile_imp hc⟩
    rw [← hzeros, fraction, rdropWhile_append_rtakeWhile]
  rw [hk, ← append_assoc, Nat.ofDigitChars_append, Nat.ofDigitChars_replicate_zero] at hvalue
  rw [hk, length_append, length_replicate] at hscale
  rw [ofText_toText, toRat, toRat, ← hvalue, ← hscale, pow_add]
  push_cast
  field_simp

end

end Decimal

end MyApiSpec.Base
