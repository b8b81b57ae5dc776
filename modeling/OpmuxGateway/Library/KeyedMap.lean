import Mathlib

/-
This file gives maps that are collected from entries with distinct keys.
-/

namespace KeyedMap

variable {Key Value Raw Error : Type} [DecidableEq Key]

/-- The entries are inserted one after the other. -/
def insertAll (map : AList fun _ : Key => Value) (entries : List (Key × Value)) :
    AList fun _ : Key => Value :=
  entries.foldl (fun map entry => map.insert entry.1 entry.2) map

@[simp] theorem insertAll_nil (map : AList fun _ : Key => Value) : insertAll map [] = map := rfl

@[simp] theorem insertAll_cons (map : AList fun _ : Key => Value) (entry : Key × Value)
    (rest : List (Key × Value)) :
    insertAll map (entry :: rest) = insertAll (map.insert entry.1 entry.2) rest := rfl

/-- A key keeps its earlier value unless an entry sets it. -/
theorem lookup_insertAll_of_notMem {map : AList fun _ : Key => Value}
    {entries : List (Key × Value)} {key : Key} (absent : key ∉ entries.map Prod.fst) :
    (insertAll map entries).lookup key = map.lookup key := by
  induction entries generalizing map with
  | nil => rfl
  | cons entry rest ih =>
      rw [List.map_cons, List.mem_cons, not_or] at absent
      rw [insertAll_cons, ih absent.2, AList.lookup_insert_ne absent.1]

/-- A collected map holds exactly its entries and what it had for other keys. -/
theorem lookup_insertAll {map : AList fun _ : Key => Value} {entries : List (Key × Value)}
    (distinct : (entries.map Prod.fst).Nodup) {key : Key} {value : Value} :
    (insertAll map entries).lookup key = some value ↔
      (key, value) ∈ entries ∨ key ∉ entries.map Prod.fst ∧ map.lookup key = some value := by
  induction entries generalizing map with
  | nil => simp
  | cons entry rest ih =>
      obtain ⟨head, tail⟩ := List.nodup_cons.mp distinct
      by_cases same : key = entry.1
      · subst same
        rw [insertAll_cons, lookup_insertAll_of_notMem head, AList.lookup_insert]
        have later : (entry.1, value) ∉ rest := fun member =>
          head (List.mem_map.mpr ⟨_, member, rfl⟩)
        simp [later, Prod.ext_iff, eq_comm]
      · rw [insertAll_cons, ih tail, AList.lookup_insert_ne same]
        simp [same, Prod.ext_iff]

/-- A map without earlier entries holds exactly the inserted ones. -/
theorem lookup_insertAll_empty {entries : List (Key × Value)}
    (distinct : (entries.map Prod.fst).Nodup) {key : Key} {value : Value} :
    (insertAll ∅ entries).lookup key = some value ↔ (key, value) ∈ entries := by
  simp [lookup_insertAll distinct]

/-- A map of entries with distinct keys has the entries in some order. -/
theorem mem_entries_insertAll {entries : List (Key × Value)}
    (distinct : (entries.map Prod.fst).Nodup) {entry : Sigma fun _ : Key => Value} :
    entry ∈ (insertAll ∅ entries).entries ↔ (entry.1, entry.2) ∈ entries := by
  rw [← lookup_insertAll_empty distinct, ← Option.mem_def, AList.mem_lookup_iff]

section Parses

variable {parse : Raw → Except Error Value} {raws : List (Key × Raw)}
  {parsed : List (Key × Value)}

/-- Parsed entries keep their keys and their order. -/
def Parses (parse : Raw → Except Error Value) (raws : List (Key × Raw))
    (parsed : List (Key × Value)) : Prop :=
  List.Forall₂ (fun raw entry => entry.1 = raw.1 ∧ parse raw.2 = .ok entry.2) raws parsed

omit [DecidableEq Key] in
theorem Parses.keys (parses : Parses parse raws parsed) :
    parsed.map Prod.fst = raws.map Prod.fst := by
  induction parses with
  | nil => rfl
  | cons entry _ ih => rw [List.map_cons, List.map_cons, entry.1, ih]

omit [DecidableEq Key] in
/-- An entry is parsed exactly when its raw entry is. -/
theorem Parses.mem (parses : Parses parse raws parsed) {key : Key} {value : Value} :
    (key, value) ∈ parsed ↔ ∃ raw, (key, raw) ∈ raws ∧ parse raw = .ok value := by
  induction parses with
  | nil => simp
  | @cons raw entry raws parsed matched _ ih =>
      obtain ⟨same, found⟩ := matched
      rw [List.mem_cons, ih]
      constructor
      · rintro (rfl | ⟨raw, member, later⟩)
        · exact ⟨raw.2, by rw [show key = raw.1 from same]; simp, found⟩
        · exact ⟨raw, by simp [member], later⟩
      · rintro ⟨given, member, later⟩
        rcases List.mem_cons.mp member with rfl | member
        · left
          rw [found, Except.ok.injEq] at later
          exact Prod.ext same.symm later.symm
        · exact .inr ⟨given, member, later⟩

omit [DecidableEq Key] in
theorem Parses.readable (parses : Parses parse raws parsed) :
    ∀ entry ∈ raws, ∃ value, parse entry.2 = .ok value := by
  induction parses with
  | nil => simp
  | cons matched _ ih => exact List.forall_mem_cons.mpr ⟨⟨_, matched.2⟩, ih⟩

omit [DecidableEq Key] in
/-- Entries that can be parsed one by one are parsed together. -/
theorem exists_parses (readable : ∀ entry ∈ raws, ∃ value, parse entry.2 = .ok value) :
    ∃ parsed, Parses parse raws parsed := by
  induction raws with
  | nil => exact ⟨[], .nil⟩
  | cons entry rest ih =>
      obtain ⟨value, found⟩ := readable entry (by simp)
      obtain ⟨parsed, parses⟩ := ih fun other member => readable other (by simp [member])
      exact ⟨(entry.1, value) :: parsed, .cons ⟨rfl, found⟩ parses⟩

end Parses

end KeyedMap
