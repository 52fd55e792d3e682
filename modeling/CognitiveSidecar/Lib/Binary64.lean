/-
The finite binary floating point numbers of 64 bits.  A decimal is rounded to
the nearest number, and a number is written with the fewest digits that read
back as itself.
-/
import Mathlib.Data.Nat.Digits.Defs

namespace Binary64

variable {num den c : Nat} {negative : Bool}

/-- The binary places of the smallest number. -/
@[irreducible] def places : Nat := 1074

/-- `significand * 2 ^ (exponent - places)`, with a sign. -/
structure Double where
  negative : Bool
  (exponent significand : Nat)
  bounded : significand < 2 ^ 53
  normal : exponent ≠ 0 → 2 ^ 52 ≤ significand
  finite : exponent ≤ 2045
deriving DecidableEq

def Double.mk? (negative : Bool) (exponent significand : Nat) : Option Double :=
  if h : significand < 2 ^ 53 ∧ (exponent ≠ 0 → 2 ^ 52 ≤ significand) ∧
      exponent ≤ 2045 then
    some ⟨negative, exponent, significand, h.1, h.2.1, h.2.2⟩
  else none

/-- Zero is equal to negative zero. -/
def Double.equals (x y : Double) : Bool :=
  decide (x = y) || (x.significand = 0 && y.significand = 0)

/-- The nearest integer to a quotient, and the even one of two. -/
def divHalfEven (num den : Nat) : Nat :=
  if 2 * (num % den) < den then num / den
  else if den < 2 * (num % den) then num / den + 1
  else num / den + num / den % 2

/-- The number nearest to a quotient of units of `2 ^ -places`, unless it is out
of range. -/
def ofUnits (negative : Bool) (num den : Nat) : Option Double :=
  let exponent := (num / den).log2 - 52
  let significand := divHalfEven num (den * 2 ^ exponent)
  if significand = 2 ^ 53 then Double.mk? negative (exponent + 1) (2 ^ 52)
  else Double.mk? negative exponent significand

/-- The number nearest to `digits * 10 ^ point`. -/
def ofDecimal (negative : Bool) (digits : Nat) (point : Int) : Option Double :=
  ofUnits negative (digits * 10 ^ point.toNat * 2 ^ places) (10 ^ (-point).toNat)

/-- The digits of a number, all of them, with the last of its places. -/
def Double.exact (x : Double) : Nat :=
  x.significand * 2 ^ x.exponent * 5 ^ places

/-- The decimals of so many digits next to a number, the nearer one first. -/
def Double.candidates (x : Double) (length count : Nat) : List (Nat × Int) :=
  let unit := 10 ^ (length - count)
  let below := x.exact / unit
  let point : Int := (length : Int) - count - places
  if 2 * (x.exact % unit) ≤ unit then [(below, point), (below + 1, point)]
  else [(below + 1, point), (below, point)]

/-- Those of all lengths, the shortest first. -/
def Double.decimals (x : Double) : List (Nat × Int) :=
  let length := (Nat.digits 10 x.exact).length
  (List.range length).flatMap fun shorter => x.candidates length (shorter + 1)

def Double.readsBack (x : Double) (decimal : Nat × Int) : Bool :=
  decide (ofDecimal x.negative decimal.1 decimal.2 = some x)

/-- The shortest decimal that reads back as the number. -/
def Double.shortest (x : Double) : Nat × Int :=
  (x.decimals.find? x.readsBack).getD (x.exact, -places)

/-! Rounding. -/

theorem Double.mk?_self (x : Double) :
    Double.mk? x.negative x.exponent x.significand = some x :=
  dif_pos ⟨x.bounded, x.normal, x.finite⟩

theorem divHalfEven_mul_right (hc : 0 < c) :
    divHalfEven (num * c) (den * c) = divHalfEven num den := by
  have hscale (m n : Nat) : m * c < n * c ↔ m < n :=
    Nat.mul_lt_mul_right hc
  unfold divHalfEven
  rw [Nat.mul_mod_mul_right, Nat.mul_div_mul_right _ _ hc, ← Nat.mul_assoc]
  simp only [hscale]

theorem divHalfEven_mul_left {m : Nat} (hden : 0 < den) :
    divHalfEven (den * m) den = m := by
  unfold divHalfEven
  rw [Nat.mul_mod_right, Nat.mul_div_cancel_left m hden, if_pos hden]

/-- A quotient in other terms is rounded to the same number. -/
theorem ofUnits_mul_right (hc : 0 < c) :
    ofUnits negative (num * c) (den * c) = ofUnits negative num den := by
  unfold ofUnits
  dsimp only
  rw [Nat.mul_div_mul_right _ _ hc, Nat.mul_right_comm den c,
    divHalfEven_mul_right hc]

/-- Equal quotients are rounded alike. -/
theorem ofUnits_congr {num' den' : Nat} (hden : 0 < den) (hden' : 0 < den')
    (heq : num * den' = num' * den) :
    ofUnits negative num den = ofUnits negative num' den' := by
  rw [← ofUnits_mul_right hden', heq, Nat.mul_comm den den',
    ofUnits_mul_right hden]

/-- The exponent of a number is told by its size. -/
theorem Double.log2_units (x : Double) :
    (x.significand * 2 ^ x.exponent).log2 - 52 = x.exponent := by
  have hpow : 0 < 2 ^ x.exponent := Nat.two_pow_pos _
  by_cases hnone : x.significand = 0
  · have hzero : x.exponent = 0 := by
      by_contra hne
      have hnormal := x.normal hne
      rw [hnone] at hnormal
      exact absurd hnormal (by decide)
    rw [hnone, hzero]
    decide
  · have hpos : x.significand * 2 ^ x.exponent ≠ 0 :=
      Nat.mul_ne_zero hnone (Nat.ne_of_gt hpow)
    have hlt : (x.significand * 2 ^ x.exponent).log2 < 53 + x.exponent := by
      rw [Nat.log2_lt hpos, Nat.pow_add]
      exact Nat.mul_lt_mul_of_pos_right x.bounded hpow
    by_cases hzero : x.exponent = 0
    · omega
    · have hle : 52 + x.exponent ≤
          (x.significand * 2 ^ x.exponent).log2 := by
        rw [Nat.le_log2 hpos, Nat.pow_add]
        exact Nat.mul_le_mul_right _ (x.normal hzero)
      omega

/-- A number is not rounded. -/
theorem ofUnits_exact (x : Double) (hden : 0 < den) :
    ofUnits x.negative (den * (x.significand * 2 ^ x.exponent)) den =
      some x := by
  have hsignificand : divHalfEven (den * (x.significand * 2 ^ x.exponent))
      (den * 2 ^ x.exponent) = x.significand := by
    rw [show den * (x.significand * 2 ^ x.exponent) =
      den * 2 ^ x.exponent * x.significand by ring]
    exact divHalfEven_mul_left (Nat.mul_pos hden (Nat.two_pow_pos _))
  unfold ofUnits
  dsimp only
  rw [Nat.mul_div_cancel_left _ hden, x.log2_units, hsignificand,
    if_neg (Nat.ne_of_lt x.bounded), x.mk?_self]

/-! Decimals. -/

/-- Zeros at the end of the digits move the point. -/
theorem ofDecimal_shift (negative : Bool) (digits zeros : Nat) (point : Int) :
    ofDecimal negative (digits * 10 ^ zeros) point =
      ofDecimal negative digits (point + zeros) := by
  refine ofUnits_congr (Nat.pow_pos (by decide)) (Nat.pow_pos (by decide)) ?_
  have hpowers : zeros + point.toNat + (-(point + zeros)).toNat =
      (point + zeros).toNat + (-point).toNat := by omega
  generalize 2 ^ places = scale
  calc digits * 10 ^ zeros * 10 ^ point.toNat * scale *
        10 ^ (-(point + zeros)).toNat
      = digits * scale *
          10 ^ (zeros + point.toNat + (-(point + zeros)).toNat) := by
        ring
    _ = digits * 10 ^ (point + zeros).toNat * scale *
          10 ^ (-point).toNat := by
        rw [hpowers]
        ring

def Double.zero (negative : Bool) : Double :=
  ⟨negative, 0, 0, by decide, by decide, by decide⟩

theorem ofDecimal_zero (negative : Bool) (point : Int) :
    ofDecimal negative 0 point = some (Double.zero negative) := by
  have hden : 0 < 10 ^ (-point).toNat := Nat.pow_pos (by decide)
  unfold ofDecimal ofUnits
  dsimp only
  generalize 10 ^ (-point).toNat = den at hden ⊢
  rw [Nat.zero_mul, Nat.zero_mul, Nat.zero_div]
  have hzero : divHalfEven 0 (den * 2 ^ (Nat.log2 0 - 52)) = 0 := by
    rw [show Nat.log2 0 - 52 = 0 by decide, Nat.pow_zero, Nat.mul_one]
    exact divHalfEven_mul_left (m := 0) hden
  rw [hzero]
  exact (Double.zero negative).mk?_self

/-- The decimal with all digits reads back as the number. -/
theorem ofDecimal_exact (x : Double) :
    ofDecimal x.negative x.exact (-places) = some x := by
  rw [← ofUnits_exact x (Nat.pow_pos (n := places) (by decide : 0 < 10))]
  have hten : 5 ^ places * 2 ^ places = 10 ^ places :=
    (Nat.mul_pow 5 2 places).symm
  unfold ofDecimal Double.exact
  rw [Int.neg_neg, Int.toNat_natCast, Int.toNat_neg_natCast, Nat.pow_zero,
    Nat.mul_one, Nat.mul_assoc _ (5 ^ places), hten,
    Nat.mul_comm (10 ^ places)]

/-- What is written for a number reads back as the number. -/
theorem Double.readsBack_shortest (x : Double) :
    x.readsBack x.shortest = true := by
  unfold Double.shortest
  cases hfound : x.decimals.find? x.readsBack with
  | none => exact decide_eq_true (ofDecimal_exact x)
  | some => exact List.find?_some hfound

theorem ofDecimal_shortest (x : Double) :
    ofDecimal x.negative x.shortest.1 x.shortest.2 = some x :=
  of_decide_eq_true x.readsBack_shortest

/-- A tenth, the smallest number, and one more than a double can tell. -/
example :
    (ofDecimal false 1 (-1)).map Double.shortest = some (1, -1) ∧
      (ofDecimal false 5 (-324)).map Double.shortest = some (5, -324) ∧
      (ofDecimal false 9007199254740993 0).map Double.shortest =
        some (9007199254740992, 0) := by
  decide +kernel

end Binary64
