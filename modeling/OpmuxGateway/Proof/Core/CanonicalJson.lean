import OpmuxGateway.Construction.Core.Json

/-
This file proves that a parsed value does not depend on the order of its keys.
-/

namespace Opmux.Json

theorem canonicalEntries_eq (entries : List (String × Json)) :
    canonicalEntries entries = entries.map fun entry => (entry.1, entry.2.canonical) := by
  induction entries with
  | nil => rfl
  | cons entry rest ih =>
      rw [canonicalEntries, ih]
      rfl

/-- A parsed value reads each key as its text does. -/
theorem get_canonical (value : Json) (key : String) :
    value.canonical.get key = (value.get key).map canonical := by
  cases value with
  | object entries =>
      change OrderedMap.lookup (OrderedMap.ofEntries (canonicalEntries entries)) key = _
      rw [OrderedMap.lookup_ofEntries, canonicalEntries_eq, OrderedMap.lookup_map]
      rfl
  | _ => rfl

/-- Two objects that differ in the order of their distinct keys are one parsed value. -/
theorem canonical_perm {entries reordered : List (String × Json)}
    (permuted : entries.Perm reordered) (distinct : (entries.map Prod.fst).Nodup) :
    (object entries).canonical = (object reordered).canonical := by
  have same : OrderedMap.ofEntries (canonicalEntries entries) =
      OrderedMap.ofEntries (canonicalEntries reordered) := by
    apply (OrderedMap.ascends_ofEntries _).ext (OrderedMap.ascends_ofEntries _)
    intro key
    rw [OrderedMap.lookup_ofEntries, OrderedMap.lookup_ofEntries, canonicalEntries_eq,
      canonicalEntries_eq, OrderedMap.lookup_map, OrderedMap.lookup_map,
      OrderedMap.lookup_perm permuted distinct]
  rw [canonical, canonical, same]

/-- A value that parses to a string, a flag, or a number is one. -/
theorem eq_of_canonical {value other : Json} (same : value.canonical = other.canonical)
    (leaf : ∀ entries, other ≠ .object entries) (flat : ∀ items, other ≠ .array items) :
    value = other := by
  cases other with
  | object entries => exact absurd rfl (leaf entries)
  | array items => exact absurd rfl (flat items)
  | _ => cases value <;> simp_all [canonical]

end Opmux.Json
