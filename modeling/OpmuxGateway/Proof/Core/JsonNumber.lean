import OpmuxGateway.Construction.Core.Json

/-
This file relates the exact value of a JSON number to its double.
-/

namespace Opmux

/-- A number is an exact rational unless it is no finite double. -/
def JsonNumber.value : JsonNumber → Option ℚ
  | .posInt value => some value.toNat
  | .negInt value => some value.toInt
  | .float (.finite value) => some value
  | .float .nan | .float (.infinite _) => none

/-- A number lies within two bounds when its exact value does. -/
def JsonNumber.Within (min max : ℚ) (number : JsonNumber) : Prop :=
  ∃ value, number.value = some value ∧ min ≤ value ∧ value ≤ max

namespace F64

/-- A double holds each small integer exactly. -/
theorem roundNat_small {value : Nat} (small : value < 2 ^ 53) : roundNat value = value := by
  have exponent : value.log2 - 52 = 0 := by
    rcases Nat.eq_zero_or_pos value with rfl | positive
    · rfl
    · have := (Nat.log2_lt positive.ne').mpr small
      omega
  simp [roundNat, exponent, Nat.mod_one]

/-- The rounding of a large integer stays large. -/
theorem roundNat_large {value : Nat} (large : 2 ^ 53 ≤ value) : 2 ^ 52 ≤ roundNat value := by
  have nonzero : value ≠ 0 := by omega
  have exponent : 53 ≤ value.log2 := (Nat.le_log2 nonzero).mpr large
  have split : 2 ^ 52 * 2 ^ (value.log2 - 52) = 2 ^ value.log2 := by
    rw [← pow_add]
    congr 1
    omega
  have positive : 0 < 2 ^ (value.log2 - 52) := by positivity
  have quotient : 2 ^ 52 ≤ value / 2 ^ (value.log2 - 52) := by
    rw [Nat.le_div_iff_mul_le positive, split]
    exact Nat.log2_self_le nonzero
  have scaled : 2 ^ 52 ≤ value / 2 ^ (value.log2 - 52) * 2 ^ (value.log2 - 52) :=
    quotient.trans (Nat.le_mul_of_pos_right _ positive)
  simp only [roundNat]
  split_ifs
  · exact scaled
  · rw [add_mul]
    exact scaled.trans (Nat.le_add_right _ _)

theorem ofInt_small {value : Int} (small : value.natAbs < 2 ^ 53) :
    ofInt value = .finite value := by
  rw [ofInt, roundNat_small small]
  split_ifs with negative
  · have same : (value.natAbs : Int) = -value := Int.ofNat_natAbs_of_nonpos negative.le
    rw [show ((value.natAbs : Nat) : ℚ) = ((value.natAbs : Int) : ℚ) from rfl, same]
    simp
  · have same : (value.natAbs : Int) = value := Int.natAbs_of_nonneg (not_lt.mp negative)
    rw [show ((value.natAbs : Nat) : ℚ) = ((value.natAbs : Int) : ℚ) from rfl, same]

/-- A double inside small bounds is the exact integer. -/
theorem ofInt_within {value : Int} {bound : Nat} (small : bound < 2 ^ 52) {double : ℚ}
    (converted : ofInt value = .finite double) (low : 0 ≤ double) (high : double ≤ bound) :
    double = value := by
  by_cases exact : value.natAbs < 2 ^ 53
  · rw [ofInt_small exact] at converted
    cases converted
    rfl
  · have large := roundNat_large (not_lt.mp exact)
    rw [ofInt] at converted
    split_ifs at converted with negative
    · cases converted
      have positive : (0 : ℚ) < roundNat value.natAbs := by
        exact_mod_cast lt_of_lt_of_le (by norm_num) large
      linarith
    · cases converted
      have : roundNat value.natAbs ≤ bound := by exact_mod_cast high
      omega

end F64

/-- A number whose double is inside small bounds has exactly this double. -/
theorem JsonNumber.value_of_asF64 {number : JsonNumber} {bound : Nat} (small : bound < 2 ^ 52)
    {double : ℚ} (converted : number.asF64 = .finite double) (low : 0 ≤ double)
    (high : double ≤ bound) : number.value = some double := by
  cases number with
  | posInt value =>
      rw [F64.ofInt_within small converted low high]
      rfl
  | negInt value =>
      rw [F64.ofInt_within small converted low high]
      rfl
  | float value =>
      rw [show value = .finite double from converted]
      rfl

/-- A number within small bounds converts to exactly its value. -/
theorem JsonNumber.asF64_of_value {number : JsonNumber} {bound : Nat} (small : bound < 2 ^ 52)
    {value : ℚ} (exact : number.value = some value) (low : 0 ≤ value) (high : value ≤ bound) :
    number.asF64 = .finite value := by
  cases number with
  | posInt given =>
      cases exact
      have bounded : given.toNat ≤ bound := by exact_mod_cast high
      exact F64.ofInt_small (by omega)
  | negInt given =>
      cases exact
      have nonnegative : 0 ≤ given.toInt := by exact_mod_cast low
      have bounded : given.toInt ≤ bound := by exact_mod_cast high
      exact F64.ofInt_small (by omega)
  | float given =>
      cases given with
      | finite rational =>
          cases exact
          rfl
      | nan => cases exact
      | infinite negative => cases exact

end Opmux
