import OpmuxGateway.Construction.Core.Text

/-
This file gives the facts about trimmed strings.
-/

namespace Opmux

/-- A string is blank exactly when each of its characters is whitespace. -/
theorem trim_eq_empty {value : String} :
    trim value = "" ↔ ∀ c ∈ value.toList, isWhitespace c = true := by
  have empty (characters : List Char) : String.ofList characters = "" ↔ characters = [] := by
    rw [← String.toList_inj, String.toList_ofList]
    rfl
  rw [trim, empty, List.reverse_eq_nil_iff, List.dropWhile_eq_nil_iff]
  constructor
  · intro blank
    apply List.dropWhile_eq_nil_iff.mp
    cases rest : value.toList.dropWhile isWhitespace with
    | nil => rfl
    | cons first tail =>
        have kept := List.dropWhile_get_zero_not isWhitespace value.toList (by rw [rest]; simp)
        have first : isWhitespace first = true := blank first (by rw [rest]; simp)
        simp [rest, first] at kept
  · intro blank c member
    have dropped : value.toList.dropWhile isWhitespace = [] := List.dropWhile_eq_nil_iff.mpr blank
    rw [dropped] at member
    exact absurd member List.not_mem_nil

/-- A string has a visible character exactly when its trim has one. -/
theorem trim_ne_empty {value : String} :
    trim value ≠ "" ↔ ∃ c ∈ value.toList, isWhitespace c = false := by
  rw [Ne, trim_eq_empty]
  simp

/-- A trim keeps every character that is not whitespace. -/
theorem mem_trim {value : String} {c : Char} (solid : isWhitespace c = false) :
    c ∈ (trim value).toList ↔ c ∈ value.toList := by
  have kept (characters : List Char) :
      c ∈ characters.dropWhile isWhitespace ↔ c ∈ characters := by
    constructor
    · intro member
      exact (List.dropWhile_sublist isWhitespace).subset member
    · intro member
      rw [← List.takeWhile_append_dropWhile (p := isWhitespace) (l := characters),
        List.mem_append] at member
      cases member with
      | inl before =>
          have white := List.mem_takeWhile_imp before
          rw [solid] at white
          cases white
      | inr after => exact after
  rw [trim, String.toList_ofList, List.mem_reverse, kept, List.mem_reverse, kept]

/-- A string has at most as many characters as bytes. -/
theorem length_le_bytes (value : String) : value.length ≤ value.utf8ByteSize := by
  suffices listed : ∀ characters : List Char,
      characters.length ≤ (String.ofList characters).utf8ByteSize by
    have bounded := listed value.toList
    rwa [String.ofList_toList, String.length_toList] at bounded
  intro characters
  rw [String.utf8ByteSize_ofList]
  induction characters with
  | nil => exact Nat.le_refl 0
  | cons first rest ih =>
      have positive := first.utf8Size_pos
      rw [String.utf8Len_cons, List.length_cons]
      omega

end Opmux
