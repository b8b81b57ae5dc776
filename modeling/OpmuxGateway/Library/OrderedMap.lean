import Mathlib

/-
This file gives ordered maps as lists of entries.
An unordered list of entries reads a key as its last entry, and its ordered map reads it alike.
-/

namespace OrderedMap

section Lookup

variable {Key Value : Type} [DecidableEq Key]

/-- A key reads its last entry. -/
def lookup (entries : List (Key × Value)) (key : Key) : Option Value :=
  (entries.reverse.find? fun entry => entry.1 = key).map Prod.snd

@[simp] theorem lookup_nil (key : Key) : lookup ([] : List (Key × Value)) key = none := rfl

/-- An entry is read when no later entry has its key. -/
theorem lookup_cons (entry : Key × Value) (rest : List (Key × Value)) (key : Key) :
    lookup (entry :: rest) key =
      (lookup rest key).or (if entry.1 = key then some entry.2 else none) := by
  rw [lookup, lookup, List.reverse_cons, List.find?_append]
  cases rest.reverse.find? fun entry => entry.1 = key with
  | some found => rfl
  | none =>
      by_cases same : entry.1 = key
      · simp [same]
      · simp [same]

theorem lookup_eq_none {entries : List (Key × Value)} {key : Key}
    (missing : ∀ entry ∈ entries, entry.1 ≠ key) : lookup entries key = none := by
  rw [lookup, Option.map_eq_none_iff, List.find?_eq_none]
  intro entry member
  simpa using missing entry (List.mem_reverse.mp member)

/-- A loop over entries leaves each field as the last entry of its key sets it. -/
theorem foldlM_lookup {State Error Field : Type} {step : State → Key × Value → Except Error State}
    (field : State → Field) (key : Key) (Sets : Value → Field → Prop)
    (assigns : ∀ state entry next, step state entry = .ok next →
      if entry.1 = key then Sets entry.2 (field next) else field next = field state)
    {entries : List (Key × Value)} {start final : State}
    (run : entries.foldlM step start = .ok final) :
    match lookup entries key with
    | some value => Sets value (field final)
    | none => field final = field start := by
  induction entries generalizing start with
  | nil =>
      cases run
      rfl
  | cons entry rest ih =>
      rw [List.foldlM_cons] at run
      cases stepped : step start entry with
      | error error =>
          rw [stepped] at run
          cases run
      | ok next =>
          rw [stepped] at run
          have later := ih run
          rw [lookup_cons]
          cases found : lookup rest key with
          | some value =>
              rw [found] at later
              exact later
          | none =>
              rw [found] at later
              have assigned := assigns start entry next stepped
              by_cases same : entry.1 = key
              · rw [if_pos same] at assigned ⊢
                change Sets entry.2 (field final)
                rw [later]
                exact assigned
              · rw [if_neg same] at assigned ⊢
                exact Eq.trans later assigned

theorem lookup_mem {entries : List (Key × Value)} {key : Key} {value : Value}
    (found : lookup entries key = some value) : (key, value) ∈ entries := by
  obtain ⟨entry, listed, rfl⟩ := Option.map_eq_some_iff.mp found
  have same : entry.1 = key := by simpa using List.find?_some listed
  rw [← same]
  exact List.mem_reverse.mp (List.mem_of_find?_eq_some listed)

/-- A key of an entry is read. -/
theorem lookup_of_mem {entries : List (Key × Value)} {entry : Key × Value}
    (member : entry ∈ entries) : ∃ value, lookup entries entry.1 = some value := by
  cases found : lookup entries entry.1 with
  | some value => exact ⟨value, rfl⟩
  | none =>
      rw [lookup, Option.map_eq_none_iff, List.find?_eq_none] at found
      exact absurd (decide_eq_true rfl) (found entry (List.mem_reverse.mpr member))

/-- A loop that succeeds takes a step at each entry. -/
theorem foldlM_steps {State Error Entry : Type} {step : State → Entry → Except Error State}
    {entries : List Entry} {start final : State}
    (run : entries.foldlM step start = .ok final) {entry : Entry} (member : entry ∈ entries) :
    ∃ state next, step state entry = .ok next := by
  induction entries generalizing start with
  | nil => exact absurd member List.not_mem_nil
  | cons first rest ih =>
      rw [List.foldlM_cons] at run
      cases stepped : step start first with
      | error error =>
          rw [stepped] at run
          cases run
      | ok next =>
          rw [stepped] at run
          rcases List.mem_cons.mp member with rfl | later
          · exact ⟨start, next, stepped⟩
          · exact ih run later

/-- A loop whose steps all succeed succeeds. -/
theorem foldlM_succeeds {State Error Entry : Type} {step : State → Entry → Except Error State}
    {entries : List Entry}
    (succeeds : ∀ entry ∈ entries, ∀ state, ∃ next, step state entry = .ok next) (start : State) :
    ∃ final, entries.foldlM step start = .ok final := by
  induction entries generalizing start with
  | nil => exact ⟨start, rfl⟩
  | cons entry rest ih =>
      obtain ⟨next, stepped⟩ := succeeds entry List.mem_cons_self start
      obtain ⟨final, run⟩ :=
        ih (fun later member => succeeds later (List.mem_cons_of_mem entry member)) next
      refine ⟨final, ?_⟩
      rw [List.foldlM_cons, stepped]
      exact run

/-- A map over the values keeps the reading of each key. -/
theorem lookup_map {Result : Type} (change : Value → Result) (entries : List (Key × Value))
    (key : Key) : lookup (entries.map fun entry => (entry.1, change entry.2)) key =
      (lookup entries key).map change := by
  rw [lookup, ← List.map_reverse, List.find?_map, Option.map_map, lookup, Option.map_map]
  rfl

/-- The order of entries with distinct keys does not change a reading. -/
theorem lookup_perm {entries reordered : List (Key × Value)} (permuted : entries.Perm reordered)
    (distinct : (entries.map Prod.fst).Nodup) (key : Key) :
    lookup entries key = lookup reordered key := by
  have found (listed : List (Key × Value)) (nodup : (listed.map Prod.fst).Nodup) (value : Value) :
      lookup listed key = some value ↔ (key, value) ∈ listed := by
    constructor
    · exact lookup_mem
    · intro member
      obtain ⟨other, read⟩ := lookup_of_mem member
      have same := List.inj_on_of_nodup_map nodup (lookup_mem read) member rfl
      rw [show other = value from congrArg Prod.snd same] at read
      exact read
  apply Option.ext
  intro value
  rw [found entries distinct, found reordered ((permuted.map Prod.fst).nodup distinct)]
  exact permuted.mem_iff

end Lookup

section Order

variable {Key Value : Type} [LinearOrder Key]

/-- A key takes its place in the order of the keys, and its old value is replaced. -/
def insert (entries : List (Key × Value)) (key : Key) (value : Value) : List (Key × Value) :=
  match entries with
  | [] => [(key, value)]
  | entry :: rest =>
      if key < entry.1 then (key, value) :: entry :: rest
      else if key = entry.1 then (key, value) :: rest
      else entry :: insert rest key value

/-- The entries are inserted one after the other. -/
def ofEntries (entries : List (Key × Value)) : List (Key × Value) :=
  entries.foldl (fun map entry => insert map entry.1 entry.2) []

/-- The keys of an ordered map ascend. -/
def Ascends (entries : List (Key × Value)) : Prop :=
  entries.Pairwise fun first second => first.1 < second.1

variable {entries : List (Key × Value)} {key : Key} {value : Value}

theorem mem_insert {entry : Key × Value} (member : entry ∈ insert entries key value) :
    entry = (key, value) ∨ entry ∈ entries := by
  induction entries with
  | nil => exact .inl (List.mem_singleton.mp member)
  | cons first rest ih =>
      rw [insert] at member
      split_ifs at member with before same
      · exact List.mem_cons.mp member
      · exact (List.mem_cons.mp member).imp id (List.mem_cons_of_mem first)
      · rcases List.mem_cons.mp member with rfl | later
        · exact .inr List.mem_cons_self
        · exact (ih later).imp id (List.mem_cons_of_mem first)

theorem Ascends.insert (ascends : Ascends entries) :
    Ascends (OrderedMap.insert entries key value) := by
  induction entries with
  | nil => exact List.pairwise_singleton _ _
  | cons first rest ih =>
      obtain ⟨least, tail⟩ := List.pairwise_cons.mp ascends
      rw [OrderedMap.insert]
      split_ifs with before same
      · apply List.pairwise_cons.mpr ⟨?_, ascends⟩
        intro entry member
        rcases List.mem_cons.mp member with rfl | later
        · exact before
        · exact before.trans (least entry later)
      · apply List.pairwise_cons.mpr ⟨?_, tail⟩
        intro entry member
        exact same.trans_lt (least entry member)
      · apply List.pairwise_cons.mpr ⟨?_, ih tail⟩
        intro entry member
        rcases mem_insert member with rfl | later
        · exact lt_of_le_of_ne (not_lt.mp before) fun equal => same equal.symm
        · exact least entry later

/-- A key below every entry has no value. -/
theorem lookup_least {rest : List (Key × Value)}
    (least : ∀ entry ∈ rest, key < entry.1) : lookup rest key = none :=
  lookup_eq_none fun entry member => (least entry member).ne'

theorem lookup_insert_self (ascends : Ascends entries) :
    lookup (insert entries key value) key = some value := by
  induction entries with
  | nil => simp [insert, lookup]
  | cons first rest ih =>
      obtain ⟨least, tail⟩ := List.pairwise_cons.mp ascends
      rw [insert]
      split_ifs with before same
      · rw [lookup_cons, lookup_least, if_pos rfl]
        · rfl
        · intro entry member
          rcases List.mem_cons.mp member with rfl | later
          · exact before
          · exact before.trans (least entry later)
      · rw [lookup_cons, lookup_least, if_pos rfl]
        · rfl
        · intro entry member
          exact same.trans_lt (least entry member)
      · rw [lookup_cons, ih tail]
        rfl

/-- An insertion changes no other key. -/
theorem lookup_insert_ne {other : Key} (different : key ≠ other) :
    lookup (insert entries key value) other = lookup entries other := by
  induction entries with
  | nil => simp [insert, lookup, different]
  | cons first rest ih =>
      rw [insert]
      split_ifs with before same
      · rw [lookup_cons, if_neg different, Option.or_none]
      · rw [lookup_cons, lookup_cons, if_neg different, if_neg (same ▸ different)]
      · rw [lookup_cons, lookup_cons, ih]

theorem lookup_foldl (ascends : Ascends entries) (added : List (Key × Value)) (other : Key) :
    lookup (added.foldl (fun map entry => insert map entry.1 entry.2) entries) other =
      (lookup added other).or (lookup entries other) := by
  induction added generalizing entries with
  | nil => rfl
  | cons first rest ih =>
      rw [List.foldl_cons, ih ascends.insert, lookup_cons, Option.or_assoc]
      congr 1
      by_cases same : first.1 = other
      · subst same
        rw [lookup_insert_self ascends, if_pos rfl]
        rfl
      · rw [lookup_insert_ne same, if_neg same]
        rfl

/-- The ordered map reads each key as the entries do. -/
theorem lookup_ofEntries (entries : List (Key × Value)) (key : Key) :
    lookup (ofEntries entries) key = lookup entries key := by
  rw [ofEntries, lookup_foldl List.Pairwise.nil, lookup_nil, Option.or_none]

theorem ascends_ofEntries (entries : List (Key × Value)) : Ascends (ofEntries entries) := by
  suffices folded : ∀ map : List (Key × Value), Ascends map →
      Ascends (entries.foldl (fun map entry => insert map entry.1 entry.2) map) from
    folded [] List.Pairwise.nil
  induction entries with
  | nil => exact fun map ascends => ascends
  | cons first rest ih => exact fun map ascends => ih _ ascends.insert

/-- The ordered map has no entry of its own. -/
theorem mem_ofEntries {entries : List (Key × Value)} {entry : Key × Value}
    (member : entry ∈ ofEntries entries) : entry ∈ entries := by
  suffices folded : ∀ map : List (Key × Value),
      entry ∈ entries.foldl (fun map entry => insert map entry.1 entry.2) map →
        entry ∈ map ∨ entry ∈ entries from (folded [] member).resolve_left List.not_mem_nil
  clear member
  induction entries with
  | nil => exact fun map member => .inl member
  | cons first rest ih =>
      intro map member
      rcases ih _ member with inserted | later
      · rcases mem_insert inserted with rfl | kept
        · exact .inr List.mem_cons_self
        · exact .inl kept
      · exact .inr (List.mem_cons_of_mem first later)

/-- An ordered map reads each of its entries. -/
theorem Ascends.lookup_mem (ascends : Ascends entries) {entry : Key × Value}
    (member : entry ∈ entries) : lookup entries entry.1 = some entry.2 := by
  induction entries with
  | nil => exact absurd member List.not_mem_nil
  | cons first rest ih =>
      obtain ⟨least, tail⟩ := List.pairwise_cons.mp ascends
      rw [lookup_cons]
      rcases List.mem_cons.mp member with rfl | later
      · rw [lookup_least least, if_pos rfl]
        rfl
      · rw [ih tail later]
        rfl

/-- Ascending maps that read each key alike are the same list. -/
theorem Ascends.ext {first second : List (Key × Value)} (left : Ascends first)
    (right : Ascends second) (same : ∀ key, lookup first key = lookup second key) :
    first = second := by
  have contained (one other : List (Key × Value)) (ascends : Ascends one)
      (reads : ∀ key, lookup one key = lookup other key) : ∀ entry ∈ one, entry ∈ other := by
    intro entry member
    have read := ascends.lookup_mem member
    rw [reads] at read
    exact OrderedMap.lookup_mem read
  apply List.Perm.eq_of_pairwise _ left right
  · apply (List.perm_ext_iff_of_nodup (left.imp ?_) (right.imp ?_)).mpr
    · intro entry
      exact ⟨contained first second left same entry,
        contained second first right (fun key => (same key).symm) entry⟩
    · rintro one other before rfl
      exact lt_irrefl _ before
    · rintro one other before rfl
      exact lt_irrefl _ before
  · intro one other _ _ before after
    exact absurd (before.trans after) (lt_irrefl _)

end Order

end OrderedMap
