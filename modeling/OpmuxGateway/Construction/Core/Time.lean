import Mathlib

/-
This file gives the clock values and the machine-integer conversions of the gateway.
-/

namespace Opmux

/-- An instant counts nanoseconds from an arbitrary origin. -/
abbrev Instant := Nat

/-- A duration counts nanoseconds. -/
abbrev Duration := Nat

/-- This value is `u64::MAX`. -/
def u64Max : Nat := 2 ^ 64 - 1

/-- This value is `u32::MAX`. -/
def u32Max : Nat := 2 ^ 32 - 1

/-- This conversion is `u64::try_from(value).unwrap_or(u64::MAX)`. -/
def clampU64 (value : Nat) : Nat := min value u64Max

namespace Duration

/-- This value is one millisecond. -/
def millisecond : Duration := 1000000

/-- This value is one second. -/
def second : Duration := 1000000000

/-- This constructor is `Duration::from_millis`. -/
def fromMillis (ms : Nat) : Duration := millisecond * ms

/-- This constructor is `Duration::from_secs`. -/
def fromSecs (secs : Nat) : Duration := second * secs

/-- This conversion is `Duration::as_millis`, which drops a partial millisecond. -/
def asMillis (duration : Duration) : Nat := duration / millisecond

theorem millisecond_pos : 0 < millisecond := by decide

@[simp] theorem fromMillis_zero : fromMillis 0 = 0 := Nat.mul_zero millisecond

/-- A duration in milliseconds is zero exactly for zero milliseconds. -/
@[simp] theorem fromMillis_eq_zero {ms : Nat} : fromMillis ms = 0 ↔ ms = 0 := by
  constructor
  · intro zero
    exact (Nat.mul_eq_zero.mp zero).resolve_left (Nat.ne_of_gt millisecond_pos)
  · rintro rfl
    exact fromMillis_zero

theorem fromMillis_pos {ms : Nat} (positive : 0 < ms) : 0 < fromMillis ms :=
  Nat.mul_pos millisecond_pos positive

end Duration

/-- This operation is `u32::saturating_add`. -/
def saturatingAdd (first second : UInt32) : UInt32 :=
  if first.toNat + second.toNat < 2 ^ 32 then first + second else UInt32.ofNat u32Max

/-- A counter does not saturate below any bound of its type. -/
theorem saturatingAdd_one {counter bound : UInt32} (below : counter.toNat < bound.toNat) :
    (saturatingAdd counter 1).toNat = counter.toNat + 1 := by
  have limit := bound.toNat_lt
  have room : counter.toNat + 1 < 2 ^ 32 := by omega
  have unit : (1 : UInt32).toNat = 1 := rfl
  rw [saturatingAdd, unit, if_pos room, UInt32.toNat_add, unit, Nat.mod_eq_of_lt room]

/-- This bound is at least one. -/
theorem max_one_toNat (bound : UInt32) :
    (max bound 1).toNat = max 1 bound.toNat := by
  have order : bound ≤ 1 ↔ bound.toNat ≤ 1 :=
    UInt32.le_iff_toNat_le
  rw [show max bound 1 =
    if bound ≤ 1 then 1 else bound from rfl]
  split
  · rename_i small
    have := order.mp small
    change 1 = _
    omega
  · rename_i large
    have := mt order.mpr large
    omega

end Opmux
