import Mathlib

/-
This file gives offset paging over a list that may change between two reads.
-/

namespace Paging

variable {Item : Type}

/-- One page holds at most `limit` items after `offset`. -/
def slice (offset limit : Nat) (items : List Item) : List Item := (items.drop offset).take limit

theorem length_slice (offset limit : Nat) (items : List Item) :
    (slice offset limit items).length = min limit (items.length - offset) := by
  rw [slice, List.length_take, List.length_drop]

theorem map_slice {Result : Type} (function : Item → Result) (offset limit : Nat)
    (items : List Item) :
    (slice offset limit items).map function = slice offset limit (items.map function) := by
  rw [slice, slice, List.map_take, List.map_drop]

/-- A client reads pages until the look ahead of a full page finds nothing. -/
inductive Paged (Before : List Item → List Item → Prop) (limit : Nat) :
    List Item → Nat → List (List Item) → Prop where
  | last {earlier current later : List Item} {offset : Nat} (read : Before earlier current)
      (peeked : Before current later)
      (done : (slice offset limit current).length = limit → later.length ≤ offset + limit) :
      Paged Before limit earlier offset [slice offset limit current]
  | next {earlier current later : List Item} {offset : Nat} {pages : List (List Item)}
      (read : Before earlier current) (peeked : Before current later)
      (full : (slice offset limit current).length = limit)
      (more : offset + limit < later.length)
      (rest : Paged Before limit later (offset + limit) pages) :
      Paged Before limit earlier offset (slice offset limit current :: pages)

/-- One list grows into another when its items keep their order among distinct items. -/
def Grows (earlier later : List Item) : Prop := earlier.Sublist later ∧ later.Nodup

section Rank

variable [DecidableEq Item] {item : Item} {earlier later : List Item}

/-- The rank of an item never decreases while its list grows. -/
theorem idxOf_le_of_sublist (kept : earlier.Sublist later) (distinct : later.Nodup)
    (member : item ∈ earlier) : earlier.idxOf item ≤ later.idxOf item := by
  induction kept with
  | slnil => exact le_rfl
  | cons head kept ih =>
      rw [List.nodup_cons] at distinct
      have other : head ≠ item := fun same => distinct.1 (same ▸ kept.subset member)
      rw [List.idxOf_cons_ne _ other]
      exact (ih distinct.2 member).trans (Nat.le_succ _)
  | cons_cons head kept ih =>
      rw [List.nodup_cons] at distinct
      by_cases same : head = item
      · rw [same, List.idxOf_cons_self]
        exact Nat.zero_le _
      · rw [List.idxOf_cons_ne _ same, List.idxOf_cons_ne _ same]
        have tail : item ∈ _ := (List.mem_cons.mp member).resolve_left (Ne.symm same)
        exact Nat.succ_le_succ (ih distinct.2 tail)

/-- A page holds each item whose rank lies between its bounds. -/
theorem mem_slice {items : List Item} {offset limit : Nat} (member : item ∈ items)
    (above : offset ≤ items.idxOf item) (below : items.idxOf item < offset + limit) :
    item ∈ slice offset limit items := by
  have bound := List.idxOf_lt_length_iff.mpr member
  have inside : items.idxOf item - offset < (slice offset limit items).length := by
    rw [length_slice]
    omega
  have found : (slice offset limit items)[items.idxOf item - offset] = item := by
    simp only [slice, List.getElem_take, List.getElem_drop]
    have index : offset + (items.idxOf item - offset) = items.idxOf item := by omega
    simp only [index, List.getElem_idxOf]
  exact found ▸ List.getElem_mem inside

/-- One page either holds an item that it did not pass, or it is full and passes it. -/
theorem mem_slice_or_full {items : List Item} {offset limit : Nat} (member : item ∈ items)
    (above : offset ≤ items.idxOf item) :
    item ∈ slice offset limit items ∨
      (slice offset limit items).length = limit ∧ offset + limit ≤ items.idxOf item := by
  have bound := List.idxOf_lt_length_iff.mpr member
  rcases Nat.lt_or_ge (items.idxOf item) (offset + limit) with below | beyond
  · exact .inl (mem_slice member above below)
  · right
    rw [length_slice]
    omega

/-- Paging over a growing list returns every item that its next page does not pass. -/
theorem Paged.complete {limit offset : Nat} {pages : List (List Item)}
    (paged : Paged Grows limit earlier offset pages) (member : item ∈ earlier)
    (above : offset ≤ earlier.idxOf item) : item ∈ pages.flatten := by
  induction paged with
  | last read peeked done =>
      have rank := idxOf_le_of_sublist read.1 read.2 member
      have present := read.1.subset member
      rcases mem_slice_or_full present (above.trans rank) with found | ⟨full, beyond⟩
      · simpa using found
      · have higher := idxOf_le_of_sublist peeked.1 peeked.2 present
        have inside := List.idxOf_lt_length_iff.mpr (peeked.1.subset present)
        have short := done full
        omega
  | next read peeked full more rest ih =>
      have rank := idxOf_le_of_sublist read.1 read.2 member
      have present := read.1.subset member
      rw [List.flatten_cons, List.mem_append]
      rcases mem_slice_or_full present (above.trans rank) with found | ⟨_, beyond⟩
      · exact .inl found
      · right
        exact ih (peeked.1.subset present)
          (beyond.trans (idxOf_le_of_sublist peeked.1 peeked.2 present))

end Rank

/-- Paging over an unchanged list returns the rest of the list in its order. -/
theorem Paged.exact {limit offset : Nat} {items : List Item} {pages : List (List Item)}
    (paged : Paged Eq limit items offset pages) : pages.flatten = items.drop offset := by
  induction paged with
  | @last earlier current later offset read peeked done =>
      subst read
      subst peeked
      have short : (earlier.drop offset).length ≤ limit := by
        have full := done
        rw [length_slice] at full
        rw [List.length_drop]
        omega
      rw [List.flatten_cons, List.flatten_nil, List.append_nil, slice,
        List.take_of_length_le short]
  | @next earlier current later offset pages read peeked full more rest ih =>
      subst read
      subst peeked
      rw [List.flatten_cons, ih, slice, ← List.drop_drop, List.take_append_drop]

/-- What every read list satisfies holds of every received item. -/
theorem Paged.forall {Before : List Item → List Item → Prop} {property : Item → Prop}
    {limit offset : Nat} {earlier : List Item} {pages : List (List Item)}
    (paged : Paged Before limit earlier offset pages)
    (reads : ∀ first second, Before first second → ∀ item ∈ second, property item) :
    ∀ item ∈ pages.flatten, property item := by
  have page {first second : List Item} (offset : Nat) (read : Before first second) :
      ∀ item ∈ slice offset limit second, property item := fun item member =>
    reads first second read item (List.mem_of_mem_drop (List.mem_of_mem_take member))
  induction paged with
  | last read peeked done =>
      intro item member
      rw [List.flatten_cons, List.flatten_nil, List.append_nil] at member
      exact page _ read item member
  | next read peeked full more rest ih =>
      intro item member
      rw [List.flatten_cons, List.mem_append] at member
      rcases member with here | later
      · exact page _ read item here
      · exact ih item later

end Paging
