import OpmuxGateway.Construction.Auth.Credentials

/-
This file proves that the decoding and the encoding of credentials are inverse.
-/

namespace Opmux.Auth

/-- The decoder reads each character of the alphabet back. -/
theorem base64Value_char : ∀ value < 64, base64Value (base64Char value) = some value := by
  decide

/-- Each value has one character. -/
theorem base64Char_value {c : Char} {value : Nat} (decoded : base64Value c = some value) :
    value < 64 ∧ base64Char value = c := by
  unfold base64Value at decoded
  have same := Char.ofNat_toNat c
  split at decoded
  · rw [Option.some.injEq] at decoded
    subst decoded
    refine ⟨by omega, ?_⟩
    rw [base64Char, if_pos (by omega), show 65 + (c.toNat - 65) = c.toNat by omega, same]
  · split at decoded
    · rw [Option.some.injEq] at decoded
      subst decoded
      refine ⟨by omega, ?_⟩
      rw [base64Char, if_neg (by omega), if_pos (by omega),
        show 71 + (c.toNat - 71) = c.toNat by omega, same]
    · split at decoded
      · rw [Option.some.injEq] at decoded
        subst decoded
        refine ⟨by omega, ?_⟩
        rw [base64Char, if_neg (by omega), if_neg (by omega), if_pos (by omega),
          show c.toNat + 4 - 4 = c.toNat by omega, same]
      · split at decoded
        · rename_i sign
          rw [Option.some.injEq] at decoded
          subst decoded sign
          exact ⟨by omega, rfl⟩
        · split at decoded
          · rename_i sign
            rw [Option.some.injEq] at decoded
            subst decoded sign
            exact ⟨by omega, rfl⟩
          · cases decoded

/-- A byte below 256 is its own remainder. -/
theorem ofNat_toNat_eq {value : Nat} {byte : UInt8} (same : value = byte.toNat) :
    UInt8.ofNat value = byte := by
  rw [same, UInt8.ofNat_toNat]

/-- Decoding inverts encoding. -/
theorem base64Bytes_chars (bytes : List UInt8) : base64Bytes (base64Chars bytes) = some bytes := by
  fun_induction base64Chars bytes with
  | case1 first second third rest value ih =>
      have small := first.toNat_lt
      have middle := second.toNat_lt
      have last := third.toNat_lt
      have whole : value / 262144 * 262144 + value / 4096 % 64 * 4096 + value / 64 % 64 * 64 +
          value % 64 = value := by omega
      simp only [base64Bytes, ih, base64Value_char _ (show value / 262144 < 64 by omega),
        base64Value_char _ (show value / 4096 % 64 < 64 by omega),
        base64Value_char _ (show value / 64 % 64 < 64 by omega),
        base64Value_char _ (show value % 64 < 64 by omega), Option.bind_eq_bind,
        Option.bind_some, whole, Option.pure_def]
      rw [ofNat_toNat_eq (show value / 65536 = first.toNat by omega),
        ofNat_toNat_eq (show value / 256 % 256 = second.toNat by omega),
        ofNat_toNat_eq (show value % 256 = third.toNat by omega)]
  | case2 first second value =>
      have small := first.toNat_lt
      have middle := second.toNat_lt
      have whole : value / 4096 * 4096 + value / 64 % 64 * 64 + value % 64 = value := by omega
      simp only [base64Bytes, base64Value_char _ (show value / 4096 < 64 by omega),
        base64Value_char _ (show value / 64 % 64 < 64 by omega),
        base64Value_char _ (show value % 64 < 64 by omega), Option.bind_eq_bind,
        Option.bind_some, whole, Option.pure_def, guard,
        if_pos (show value % 4 = 0 by omega)]
      rw [ofNat_toNat_eq (show value / 1024 = first.toNat by omega),
        ofNat_toNat_eq (show value / 4 % 256 = second.toNat by omega)]
  | case3 first =>
      have small := first.toNat_lt
      have whole : first.toNat / 4 * 64 + first.toNat % 4 * 16 = first.toNat * 16 := by omega
      simp only [base64Bytes, base64Value_char _ (show first.toNat / 4 < 64 by omega),
        base64Value_char _ (show first.toNat % 4 * 16 < 64 by omega), Option.bind_eq_bind,
        Option.bind_some, whole, Option.pure_def, guard,
        if_pos (show first.toNat * 16 % 16 = 0 by omega)]
      rw [ofNat_toNat_eq (show first.toNat * 16 / 16 = first.toNat by omega)]
  | case4 => rfl

/-- Encoding inverts decoding, and each list of bytes has one spelling. -/
theorem base64Chars_bytes {characters : List Char} {bytes : List UInt8}
    (decoded : base64Bytes characters = some bytes) : base64Chars bytes = characters := by
  fun_induction base64Bytes characters generalizing bytes with
  | case1 first second third fourth rest ih =>
      simp only [Option.bind_eq_bind, Option.bind_eq_some_iff, Option.pure_def,
        Option.some.injEq] at decoded
      obtain ⟨one, readOne, two, readTwo, three, readThree, four, readFour, tail, readRest,
        rfl⟩ := decoded
      obtain ⟨smallOne, rfl⟩ := base64Char_value readOne
      obtain ⟨smallTwo, rfl⟩ := base64Char_value readTwo
      obtain ⟨smallThree, rfl⟩ := base64Char_value readThree
      obtain ⟨smallFour, rfl⟩ := base64Char_value readFour
      obtain ⟨value, named⟩ : ∃ value, value = one * 262144 + two * 4096 + three * 64 + four :=
        ⟨_, rfl⟩
      have whole : (UInt8.ofNat (value / 65536)).toNat * 65536 +
          (UInt8.ofNat (value / 256 % 256)).toNat * 256 + (UInt8.ofNat (value % 256)).toNat =
          value := by
        simp only [UInt8.toNat_ofNat']
        omega
      simp only [← named, base64Chars, whole, ih readRest,
        show value / 262144 = one by omega, show value / 4096 % 64 = two by omega,
        show value / 64 % 64 = three by omega, show value % 64 = four by omega]
  | case2 first second third =>
      simp only [Option.bind_eq_bind, Option.bind_eq_some_iff, Option.pure_def,
        Option.guard_eq_some', Option.some.injEq] at decoded
      obtain ⟨one, readOne, two, readTwo, three, readThree, _, spare, rfl⟩ := decoded
      obtain ⟨smallOne, rfl⟩ := base64Char_value readOne
      obtain ⟨smallTwo, rfl⟩ := base64Char_value readTwo
      obtain ⟨smallThree, rfl⟩ := base64Char_value readThree
      obtain ⟨value, named⟩ : ∃ value, value = one * 4096 + two * 64 + three := ⟨_, rfl⟩
      rw [← named] at spare ⊢
      have whole : (UInt8.ofNat (value / 1024)).toNat * 1024 +
          (UInt8.ofNat (value / 4 % 256)).toNat * 4 = value := by
        simp only [UInt8.toNat_ofNat']
        omega
      simp only [base64Chars, whole, show value / 4096 = one by omega,
        show value / 64 % 64 = two by omega, show value % 64 = three by omega]
  | case3 first second =>
      simp only [Option.bind_eq_bind, Option.bind_eq_some_iff, Option.pure_def,
        Option.guard_eq_some', Option.some.injEq] at decoded
      obtain ⟨one, readOne, two, readTwo, _, spare, rfl⟩ := decoded
      obtain ⟨smallOne, rfl⟩ := base64Char_value readOne
      obtain ⟨smallTwo, rfl⟩ := base64Char_value readTwo
      have whole : (UInt8.ofNat ((one * 64 + two) / 16)).toNat = (one * 64 + two) / 16 := by
        rw [UInt8.toNat_ofNat']
        omega
      simp only [base64Chars, whole, show (one * 64 + two) / 16 / 4 = one by omega,
        show (one * 64 + two) / 16 % 4 * 16 = two by omega]
  | case4 first => cases decoded
  | case5 =>
      rw [Option.some.injEq] at decoded
      subst decoded
      rfl

/-- Each three bytes are four characters, and a shorter last group takes the next length. -/
theorem base64Chars_length (bytes : List UInt8) :
    (base64Chars bytes).length = (4 * bytes.length + 2) / 3 := by
  fun_induction base64Chars bytes with
  | case1 first second third rest value ih =>
      simp only [List.length_cons, ih]
      omega
  | case2 first second value => simp
  | case3 first => simp
  | case4 => simp

end Opmux.Auth
