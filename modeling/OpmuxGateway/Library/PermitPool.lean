import Mathlib

/-
This file gives a pool of permits and the moves of its holders.
-/

/-- A pool counts its free permits, names the holders of the others, and may be closed. -/
structure PermitPool (Task : Type) where
  free : Nat
  holders : Finset Task
  closed : Bool

namespace PermitPool

variable {Task : Type} {capacity : Nat} {pool next : PermitPool Task}

/-- No permit is lost, and none is made. -/
def Conserves (capacity : Nat) (pool : PermitPool Task) : Prop :=
  pool.free + pool.holders.card = capacity

theorem Conserves.card_le (conserves : pool.Conserves capacity) : pool.holders.card ≤ capacity := by
  rw [← conserves]
  exact Nat.le_add_left _ _

/-- A pool that was closed stays closed and has no new holder. -/
def Retires (pool next : PermitPool Task) : Prop :=
  pool.closed = true → next.closed = true ∧ next.holders ⊆ pool.holders

theorem Retires.refl (pool : PermitPool Task) : pool.Retires pool :=
  fun closed => ⟨closed, Finset.Subset.refl _⟩

theorem Retires.trans {last : PermitPool Task} (first : pool.Retires next)
    (second : next.Retires last) : pool.Retires last := by
  intro closed
  obtain ⟨closedNext, fewer⟩ := first closed
  obtain ⟨closedLast, fewest⟩ := second closedNext
  exact ⟨closedLast, fewest.trans fewer⟩

section Moves

variable [DecidableEq Task]

/-- An open pool grants a free permit, and every pool takes a permit back. -/
inductive Moves (pool : PermitPool Task) : PermitPool Task → Prop
  | stay : Moves pool pool
  | grant (task : Task) : pool.closed = false → 0 < pool.free → task ∉ pool.holders →
      Moves pool { pool with free := pool.free - 1, holders := insert task pool.holders }
  | giveBack (task : Task) : task ∈ pool.holders →
      Moves pool { pool with free := pool.free + 1, holders := pool.holders.erase task }
  | close : Moves pool { pool with closed := true }

/-- Each move keeps the number of permits. -/
theorem Moves.conserves (moves : pool.Moves next) (conserves : pool.Conserves capacity) :
    next.Conserves capacity := by
  unfold Conserves at conserves ⊢
  cases moves with
  | stay => exact conserves
  | grant task _ free fresh =>
      simp only [Finset.card_insert_of_notMem fresh]
      omega
  | giveBack task held =>
      have positive : 0 < pool.holders.card := Finset.card_pos.mpr ⟨task, held⟩
      simp only [Finset.card_erase_of_mem held]
      omega
  | close => exact conserves

/-- A closed pool grants no permit. -/
theorem Moves.retires (moves : pool.Moves next) : pool.Retires next := by
  intro closed
  cases moves with
  | stay => exact ⟨closed, Finset.Subset.refl _⟩
  | grant task opened => exact absurd closed (by simp [opened])
  | giveBack task held => exact ⟨closed, Finset.erase_subset _ _⟩
  | close => exact ⟨rfl, Finset.Subset.refl _⟩

end Moves

end PermitPool
