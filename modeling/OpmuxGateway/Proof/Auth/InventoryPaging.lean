import OpmuxGateway.Library.Paging
import OpmuxGateway.Proof.Auth.StoreGrowth

/-
This file gives the paging of a tenant inventory under concurrent operations.
-/

namespace Opmux.Auth

def ApiKeyMetadata.fixed (key : ApiKeyMetadata) : FixedKey :=
  ⟨key.clientId, key.keyId, key.displayId, key.name, key.kind, key.createdAt⟩

/-- The inventory compares keys by their creation and then by their identifier. -/
def FixedKey.sortKey (key : FixedKey) : Timestamp ×ₗ Uuid := toLex (key.createdAt, key.id)

def FixedKey.newestFirst (first second : FixedKey) : Prop := second.sortKey ≤ first.sortKey

instance : DecidableRel FixedKey.newestFirst := fun first second =>
  inferInstanceAs (Decidable (second.sortKey ≤ first.sortKey))

/-- A filter reads only fixed columns. -/
def FixedKey.listed (clientId : Uuid) (kind : Option String) (key : FixedKey) : Bool :=
  key.clientId = clientId && kind.all (key.kind = ·)

namespace AuthDatabase

variable {before after database : AuthDatabase} {clientId : Uuid} {kind : Option String}

theorem newestFirst_iff {first second : ApiKeyRow} :
    newestFirst first second ↔ first.fixed.newestFirst second.fixed := by
  rw [newestFirst, FixedKey.newestFirst, Prod.Lex.le_iff]
  rfl

theorem mem_inventory {row : ApiKeyRow} :
    row ∈ database.inventory clientId kind ↔ row ∈ database.apiKeys ∧ listed clientId kind row := by
  rw [inventory, List.mem_insertionSort, List.mem_filter]

/-- The fixed columns of an inventory are the sorted fixed columns of the listed keys. -/
theorem inventory_fixed :
    (database.inventory clientId kind).map ApiKeyRow.fixed =
      (database.fixedKeys.filter (FixedKey.listed clientId kind)).insertionSort
        FixedKey.newestFirst := by
  rw [inventory, List.map_insertionSort newestFirst FixedKey.newestFirst ApiKeyRow.fixed _
    fun _ _ _ _ => newestFirst_iff, fixedKeys, List.filter_map]
  rfl

/-- The sort keys of an inventory are the sorted sort keys of the listed keys. -/
theorem inventory_sortKeys :
    (database.inventory clientId kind).map (FixedKey.sortKey ∘ ApiKeyRow.fixed) =
      ((database.fixedKeys.filter (FixedKey.listed clientId kind)).map
        FixedKey.sortKey).insertionSort (· ≥ ·) := by
  rw [← List.map_map, inventory_fixed,
    List.map_insertionSort FixedKey.newestFirst (· ≥ ·) FixedKey.sortKey _ fun _ _ _ _ => Iff.rfl]

/-- The sort keys of an inventory are distinct, because identifiers are. -/
theorem sortKeys_nodup :
    ((database.inventory clientId kind).map (FixedKey.sortKey ∘ ApiKeyRow.fixed)).Nodup := by
  rw [inventory_sortKeys, (List.perm_insertionSort _ _).nodup_iff]
  have ids : (database.fixedKeys.map FixedKey.id).Nodup := by
    rw [fixedKeys, List.map_map]
    exact database.apiKeysPkey
  have listedIds : ((database.fixedKeys.filter (FixedKey.listed clientId kind)).map
      FixedKey.id).Nodup := (List.filter_sublist.map FixedKey.id).nodup ids
  apply List.Nodup.of_map (fun key : Timestamp ×ₗ Uuid => (ofLex key).2)
  rw [List.map_map]
  exact listedIds

/-- An inventory is strictly sorted by its sort keys. -/
theorem inventory_sorted :
    ((database.inventory clientId kind).map (FixedKey.sortKey ∘ ApiKeyRow.fixed)).Pairwise
      (· > ·) := by
  have distinct : ((database.inventory clientId kind).map
      (FixedKey.sortKey ∘ ApiKeyRow.fixed)).Nodup := sortKeys_nodup
  rw [inventory_sortKeys] at distinct ⊢
  apply ((List.pairwise_insertionSort (· ≥ ·) _).and distinct).imp
  intro newer older ordered
  exact lt_of_le_of_ne ordered.1 ordered.2.symm

/-- An inventory only grows, and it keeps its order. -/
theorem Extends.inventory_grows (extended : before.Extends after) :
    Paging.Grows ((before.inventory clientId kind).map (FixedKey.sortKey ∘ ApiKeyRow.fixed))
      ((after.inventory clientId kind).map (FixedKey.sortKey ∘ ApiKeyRow.fixed)) := by
  refine ⟨?_, sortKeys_nodup⟩
  rw [inventory_sortKeys, inventory_sortKeys]
  apply List.sublist_insertionSort'
  · exact List.pairwise_insertionSort _ _
  · have listedSublist := (extended.sublist.filter (FixedKey.listed clientId kind)).map
      FixedKey.sortKey
    exact (List.perm_insertionSort _ _).subperm.trans listedSublist.subperm

/-- Without a creation, the fixed columns of an inventory stay as they are. -/
theorem Kept.inventory_eq (kept : before.Kept after) :
    (before.inventory clientId kind).map ApiKeyRow.fixed =
      (after.inventory clientId kind).map ApiKeyRow.fixed := by
  rw [inventory_fixed, inventory_fixed, show before.fixedKeys = after.fixedKeys from kept]

theorem Extends.inventory_length (extended : before.Extends after) :
    (before.inventory clientId kind).length ≤ (after.inventory clientId kind).length := by
  have grown : Paging.Grows
      ((before.inventory clientId kind).map (FixedKey.sortKey ∘ ApiKeyRow.fixed))
      ((after.inventory clientId kind).map (FixedKey.sortKey ∘ ApiKeyRow.fixed)) :=
    extended.inventory_grows
  simpa using grown.1.length_le

end AuthDatabase

/-- Other operations run before each request that reaches the store. -/
structure Concurrent where
  database : AuthDatabase
  pending : List (List Operation)

namespace Concurrent

variable (hashCredential : String → KeyDigest)

/-- The next batch of operations runs before the store sees the request. -/
def advance (world : Concurrent) : Concurrent :=
  ⟨(world.pending.headD []).foldl (Operation.apply hashCredential) world.database,
    world.pending.tail⟩

def answer (world : Concurrent) : (request : AuthRequest) → request.Reply × Concurrent
  | .utcNow => ((0 : Nat), world)
  | .newUuid => ((0 : Fin (2 ^ 128)), world)
  | .fillBytes _ => (none, world)
  | .store request =>
      let current := world.advance hashCredential
      ((request.transaction.perform current.database).1,
        { current with database := (request.transaction.perform current.database).2 })

/-- A client adds the limit to its offset until a page says that no more keys follow. -/
def collect (actor : AuthContext) (limit : Int) (kind : Option ApiKeyKind) :
    Nat → Int → Concurrent → Option (List ApiKeyMetadata)
  | 0, _, _ => none
  | fuel + 1, offset, world =>
      match Program.serve (answer hashCredential) world
        (AuthService.listKeys actor ⟨limit, offset, kind⟩).run with
      | (some (.ok inventory), later) =>
          if inventory.hasMore then
            (collect actor limit kind fuel (offset + limit) later).map (inventory.keys ++ ·)
          else some inventory.keys
      | _ => none

/-- The database after every pending operation. -/
def final (world : Concurrent) : AuthDatabase :=
  world.pending.flatten.foldl (Operation.apply hashCredential) world.database

variable {hashCredential}

theorem foldl_extends (operations : List Operation) (database : AuthDatabase) :
    database.Extends (operations.foldl (Operation.apply hashCredential) database) := by
  induction operations generalizing database with
  | nil => exact List.prefix_rfl
  | cons operation rest ih =>
      exact (apply_extends hashCredential operation database).trans (ih _)

theorem foldl_kept {operations : List Operation}
    (keeps : ∀ operation ∈ operations, ¬ operation.Creates) (database : AuthDatabase) :
    database.Kept (operations.foldl (Operation.apply hashCredential) database) := by
  induction operations generalizing database with
  | nil => exact AuthDatabase.Kept.refl _
  | cons operation rest ih =>
      exact (apply_kept hashCredential (keeps operation List.mem_cons_self) database).trans
        (ih (fun other member => keeps other (List.mem_cons_of_mem _ member)) _)

/-- The pending operations lead to the same final database after each batch. -/
theorem advance_final (world : Concurrent) :
    (world.advance hashCredential).final hashCredential = world.final hashCredential := by
  rcases world with ⟨database, _ | ⟨batch, rest⟩⟩
  · rfl
  · simp [advance, final, List.foldl_append]

section Fetch

variable {world : Concurrent} {actor : AuthContext} {limit offset : Nat}
  {kind : Option ApiKeyKind}

/-- The inventory that the client reads from this world. -/
def inventory (world : Concurrent) (actor : AuthContext) (kind : Option ApiKeyKind) :
    List FixedKey :=
  (world.database.inventory actor.clientId (kind.map ApiKeyKind.asStr)).map ApiKeyRow.fixed

/-- A page query runs after the next batch and returns stored rows. -/
theorem serve_listing (hashCredential : String → KeyDigest) (world : Concurrent)
    (actor : AuthContext) (offset : Nat) (kind : Option ApiKeyKind) (low : 1 ≤ limit)
    (high : limit ≤ 100) :
    ∃ records : List ApiKeyRecord,
      (records.map ApiKeyMetadata.fromRecord).map ApiKeyMetadata.fixed =
        Paging.slice offset limit ((world.advance hashCredential).inventory actor kind) ∧
      ∀ {Result : Type} {next : List ApiKeyRecord → ExceptT AuthError AuthProgram Result},
        Program.serve (answer hashCredential) world
          (AuthService.serviceStore
            (.listKeysForClient actor.clientId limit offset kind) >>= next).run =
        Program.serve (answer hashCredential) (world.advance hashCredential)
          (next records).run := by
  obtain ⟨records, rows, performed⟩ : ∃ records : List ApiKeyRecord,
      records.map ApiKeyRecord.toRow = (world.advance hashCredential).database.page
        actor.clientId limit offset (kind.map ApiKeyKind.asStr) ∧
      (PostgresAuthStore.listKeysForClient actor.clientId limit offset kind).perform
        (world.advance hashCredential).database =
          (some (.ok records), (world.advance hashCredential).database) := by
    apply perform_listKeys
    · omega
    · rw [maxKeyListLimit]
      omega
    · omega
  refine ⟨records, ?_, ?_⟩
  · rw [inventory, ← Paging.map_slice, List.map_map]
    change _ = List.map _ ((world.advance hashCredential).database.page actor.clientId limit
      offset (kind.map ApiKeyKind.asStr))
    rw [← rows, List.map_map]
    rfl
  · intro Result next
    rw [Program.serve_except_bind, AuthService.serviceStore, callStore,
      Program.serve_except_bind, Program.serve_except_lift, Program.serve_bind,
      Program.serve_request]
    simp only [answer, StoreRequest.transaction, performed]
    rfl

theorem checkedAddI64_natCast {first second : Nat} (small : first + second < 2 ^ 63) :
    checkedAddI64 first second = some ((first + second : Nat) : Int) := by
  have range : i64Min ≤ (first : Int) + second ∧ (first : Int) + second ≤ i64Max := by
    unfold i64Min i64Max
    omega
  rw [checkedAddI64, if_pos range, Nat.cast_add]

/-- A full page asks for one key at the next offset. -/
theorem hasMore_full {records : List ApiKeyRecord} (small : offset + limit < 2 ^ 63)
    (full : records.length = limit) :
    AuthService.hasMore actor ⟨limit, offset, kind⟩ records = (do
      let peek ← AuthService.serviceStore
        (.listKeysForClient actor.clientId (1 : Nat) ((offset + limit : Nat) : Int) kind)
      pure (!peek.isEmpty)) := by
  have same : (records.length : Int) = limit := by rw [full]
  rw [AuthService.hasMore, if_pos same, checkedAddI64_natCast small]
  rfl

theorem hasMore_short {records : List ApiKeyRecord} (short : records.length ≠ limit) :
    AuthService.hasMore actor ⟨limit, offset, kind⟩ records = pure false := by
  have other : (records.length : Int) ≠ limit := by omega
  rw [AuthService.hasMore, if_neg other]

/-- Only a full page sends a second query, which may see a later database. -/
theorem serve_hasMore (records : List ApiKeyRecord) (small : offset + limit < 2 ^ 63) :
    Program.serve (answer hashCredential) world
        (AuthService.hasMore actor ⟨limit, offset, kind⟩ records).run =
      if records.length = limit then
        (some (.ok (decide (offset + limit <
          ((world.advance hashCredential).inventory actor kind).length))),
          world.advance hashCredential)
      else (some (.ok false), world) := by
  by_cases full : records.length = limit
  · obtain ⟨peek, found, served⟩ := serve_listing hashCredential world actor (offset + limit)
      kind (Nat.le_refl 1) (by decide)
    have length := congrArg List.length found
    rw [List.length_map, List.length_map, Paging.length_slice] at length
    have found : (!peek.isEmpty) = decide (offset + limit <
        ((world.advance hashCredential).inventory actor kind).length) := by
      rw [Bool.eq_iff_iff, decide_eq_true_eq, Bool.not_eq_true', List.isEmpty_eq_false_iff,
        ← List.length_pos_iff]
      omega
    rw [if_pos full, hasMore_full small full, served, Program.serve_except_pure, found]
  · rw [if_neg full, hasMore_short full]
    rfl

/-- One fetch returns a page, and only a full page looks for a key after it. -/
theorem serve_listKeys (manager : actor.kind = .management) (low : 1 ≤ limit)
    (high : limit ≤ 100) (small : offset + limit < 2 ^ 63) :
    ∃ keys : List ApiKeyMetadata,
      keys.map ApiKeyMetadata.fixed =
        Paging.slice offset limit ((world.advance hashCredential).inventory actor kind) ∧
      Program.serve (answer hashCredential) world
        (AuthService.listKeys actor ⟨limit, offset, kind⟩).run =
          if keys.length = limit then
            (some (.ok ⟨keys, decide (offset + limit <
              (((world.advance hashCredential).advance hashCredential).inventory
                actor kind).length)⟩),
              (world.advance hashCredential).advance hashCredential)
          else (some (.ok ⟨keys, false⟩), world.advance hashCredential) := by
  have allowed : AuthService.requireManagement actor = .ok () := by
    simp [AuthService.requireManagement, manager]
  have bounds : (1 : Int) ≤ limit ∧ (limit : Int) ≤ maxKeyListLimit := by
    rw [maxKeyListLimit]
    omega
  obtain ⟨records, page, served⟩ := serve_listing hashCredential world actor offset kind
    low high
  refine ⟨records.map ApiKeyMetadata.fromRecord, page, ?_⟩
  rw [AuthService.listKeys, allowed, Program.serve_except_ok, if_neg (not_not.mpr bounds),
    if_neg (Int.not_lt.mpr (Int.natCast_nonneg offset)), served, Program.serve_except_bind,
    serve_hasMore records small, List.length_map]
  by_cases full : records.length = limit
  · rw [if_pos full, if_pos full]
    rfl
  · rw [if_neg full, if_neg full]
    rfl

/-- A client either stops after one page or continues at the next offset. -/
theorem collect_succ (hashCredential : String → KeyDigest) (world : Concurrent)
    (kind : Option ApiKeyKind) (fuel : Nat) (manager : actor.kind = .management)
    (low : 1 ≤ limit) (high : limit ≤ 100) (small : offset + limit < 2 ^ 63) :
    ∃ keys : List ApiKeyMetadata,
      keys.map ApiKeyMetadata.fixed =
        Paging.slice offset limit ((world.advance hashCredential).inventory actor kind) ∧
      collect hashCredential actor limit kind (fuel + 1) offset world =
        if keys.length = limit ∧ offset + limit <
            (((world.advance hashCredential).advance hashCredential).inventory actor
              kind).length then
          (collect hashCredential actor limit kind fuel ((offset + limit : Nat) : Int)
            ((world.advance hashCredential).advance hashCredential)).map (keys ++ ·)
        else some keys := by
  obtain ⟨keys, page, served⟩ := serve_listKeys manager low high small
  refine ⟨keys, page, ?_⟩
  rw [collect, served]
  by_cases full : keys.length = limit
  · simp only [full, if_true, true_and, decide_eq_true_eq, Nat.cast_add]
  · simp only [full, false_and, if_false, Bool.false_eq_true]

end Fetch

section Session

variable {actor : AuthContext} {limit : Nat} {kind : Option ApiKeyKind} {Item : Type}
  {columns : FixedKey → Item} {Before : List Item → List Item → Prop}
  {Holds : Concurrent → Prop}

/-- A session of fetches pages the inventory, which each batch relates to the next one. -/
theorem collect_paged (manager : actor.kind = .management) (low : 1 ≤ limit)
    (high : limit ≤ 100) (few : ∀ world, Holds world →
      (world.inventory actor kind).length < 2 ^ 62)
    (advances : ∀ world, Holds world → Holds (world.advance hashCredential) ∧
      Before ((world.inventory actor kind).map columns)
        (((world.advance hashCredential).inventory actor kind).map columns))
    (fuel offset : Nat) (world : Concurrent) (holds : Holds world)
    (within : offset ≤ (world.inventory actor kind).length) {earlier : List Item}
    (read : Before earlier (((world.advance hashCredential).inventory actor kind).map columns))
    {keys : List ApiKeyMetadata}
    (collected : collect hashCredential actor limit kind fuel offset world = some keys) :
    ∃ pages, Paging.Paged Before limit earlier offset pages ∧
      keys.map (columns ∘ ApiKeyMetadata.fixed) = pages.flatten := by
  induction fuel generalizing offset world keys earlier with
  | zero => cases collected
  | succ fuel ih =>
      have bound := few world holds
      obtain ⟨first, page, continued⟩ := collect_succ hashCredential world kind fuel manager low
        high (show offset + limit < 2 ^ 63 by omega)
      have holdsRead := (advances world holds).1
      obtain ⟨holdsPeek, peeked⟩ := advances _ holdsRead
      have columnsPage : first.map (columns ∘ ApiKeyMetadata.fixed) = Paging.slice offset limit
          (((world.advance hashCredential).inventory actor kind).map columns) := by
        rw [← List.map_map, page, Paging.map_slice]
      have length := congrArg List.length columnsPage
      rw [List.length_map] at length
      rw [continued] at collected
      split at collected
      · rename_i more
        obtain ⟨rest, restCollected, rfl⟩ := Option.map_eq_some_iff.mp collected
        obtain ⟨pages, paged, flat⟩ :=
          ih _ _ holdsPeek more.2.le (advances _ holdsPeek).2 restCollected
        refine ⟨_, .next read peeked (length.symm.trans more.1) ?_ paged, ?_⟩
        · simpa using more.2
        · rw [List.map_append, flat, columnsPage, List.flatten_cons]
      · rename_i stop
        cases collected
        refine ⟨_, .last read peeked ?_, ?_⟩
        · intro full
          simpa using fun more => stop ⟨length.trans full, more⟩
        · rw [columnsPage, List.flatten_cons, List.flatten_nil, List.append_nil]

/-- A session over an inventory of constant length ends. -/
theorem collect_isSome (manager : actor.kind = .management) (low : 1 ≤ limit)
    (high : limit ≤ 100) (few : ∀ world, Holds world →
      (world.inventory actor kind).length < 2 ^ 62)
    (advances : ∀ world, Holds world → Holds (world.advance hashCredential) ∧
      ((world.advance hashCredential).inventory actor kind).length =
        (world.inventory actor kind).length)
    (fuel offset : Nat) (world : Concurrent) (holds : Holds world)
    (within : offset ≤ (world.inventory actor kind).length)
    (enough : (world.inventory actor kind).length < offset + fuel) :
    (collect hashCredential actor limit kind fuel offset world).isSome := by
  induction fuel generalizing offset world with
  | zero => omega
  | succ fuel ih =>
      have bound := few world holds
      obtain ⟨first, page, continued⟩ := collect_succ hashCredential world kind fuel manager low
        high (show offset + limit < 2 ^ 63 by omega)
      obtain ⟨holdsRead, read⟩ := advances world holds
      obtain ⟨holdsPeek, peeked⟩ := advances _ holdsRead
      rw [continued]
      split
      · rename_i more
        rw [Option.isSome_map]
        exact ih _ _ holdsPeek more.2.le (by omega)
      · rfl

end Session

section Bounds

variable {world : Concurrent} {actor : AuthContext} {kind : Option ApiKeyKind}

/-- A tenant has at least as many keys in the end as one of its inventories lists. -/
theorem inventory_length_le :
    (world.inventory actor kind).length ≤
      ((world.final hashCredential).apiKeys.filter (·.clientId = actor.clientId)).length := by
  have grown : (world.database.inventory actor.clientId (kind.map ApiKeyKind.asStr)).length ≤
      ((world.final hashCredential).inventory actor.clientId
        (kind.map ApiKeyKind.asStr)).length :=
    AuthDatabase.Extends.inventory_length (foldl_extends world.pending.flatten world.database)
  rw [inventory, List.length_map]
  apply grown.trans
  rw [AuthDatabase.inventory, List.length_insertionSort, ← List.countP_eq_length_filter,
    ← List.countP_eq_length_filter]
  apply List.countP_mono_left
  intro row _ matched
  simp only [AuthDatabase.listed, Bool.and_eq_true] at matched
  exact matched.1

theorem advance_inventory (keeps : ∀ batch ∈ world.pending, ∀ operation ∈ batch,
      ¬ operation.Creates) :
    (world.advance hashCredential).inventory actor kind = world.inventory actor kind := by
  have quiet : ∀ operation ∈ world.pending.headD [], ¬ operation.Creates := by
    intro operation member
    rcases pending : world.pending with _ | ⟨batch, rest⟩
    · simp [pending] at member
    · exact keeps batch (by simp [pending]) operation (by simpa [pending] using member)
  exact (AuthDatabase.Kept.inventory_eq (foldl_kept quiet world.database)).symm

end Bounds

end Concurrent

/-- A tenant that never has 2 ^ 62 keys. -/
def Concurrent.Few (hashCredential : String → KeyDigest) (actor : AuthContext)
    (world : Concurrent) : Prop :=
  ((world.final hashCredential).apiKeys.filter (·.clientId = actor.clientId)).length < 2 ^ 62

/-- No pending operation creates a key. -/
def Concurrent.Quiet (world : Concurrent) : Prop :=
  ∀ batch ∈ world.pending, ∀ operation ∈ batch, ¬ operation.Creates

namespace Concurrent

variable {hashCredential : String → KeyDigest} {world : Concurrent} {actor : AuthContext}

theorem Few.advance (few : world.Few hashCredential actor) :
    (world.advance hashCredential).Few hashCredential actor := by
  rw [Few, advance_final]
  exact few

theorem Quiet.advance (quiet : world.Quiet) : (world.advance hashCredential).Quiet :=
  fun batch member => quiet batch (List.mem_of_mem_tail member)

section Collected

variable {limit fuel : Nat} {kind : Option ApiKeyKind} {keys : List ApiKeyMetadata}

/-- A later database still has the fixed columns of each listed key. -/
theorem inventory_subset_final {key : FixedKey}
    (member : key ∈ (world.advance hashCredential).inventory actor kind) :
    key ∈ (world.final hashCredential).fixedKeys := by
  have extended : (world.advance hashCredential).database.Extends
      (world.final hashCredential) := by
    rw [← advance_final]
    exact foldl_extends _ _
  rw [inventory, List.mem_map] at member
  obtain ⟨row, listed, rfl⟩ := member
  exact extended.subset (List.mem_map_of_mem (AuthDatabase.mem_inventory.mp listed).1)

/-- Every received key is a key of the final database. -/
theorem collect_stored (manager : actor.kind = .management) (low : 1 ≤ limit)
    (high : limit ≤ 100) (few : world.Few hashCredential actor)
    (collected : collect hashCredential actor limit kind fuel (0 : Nat) world = some keys) :
    ∀ key ∈ keys, key.fixed ∈ (world.final hashCredential).fixedKeys := by
  intro key member
  let Stored (_ later : List FixedKey) : Prop :=
    ∀ key ∈ later, key ∈ (world.final hashCredential).fixedKeys
  let Holds (other : Concurrent) : Prop := other.Few hashCredential actor ∧
    other.final hashCredential = world.final hashCredential
  have bounded (other : Concurrent) (holds : Holds other) :
      (other.inventory actor kind).length < 2 ^ 62 := inventory_length_le.trans_lt holds.1
  have stored (other : Concurrent) (holds : Holds other) :
      Stored ((other.inventory actor kind).map id)
        (((other.advance hashCredential).inventory actor kind).map id) := by
    intro key listed
    rw [List.map_id] at listed
    exact holds.2 ▸ inventory_subset_final listed
  have kept (other : Concurrent) (holds : Holds other) : Holds (other.advance hashCredential) :=
    ⟨holds.1.advance, (advance_final other).trans holds.2⟩
  obtain ⟨pages, paged, flat⟩ : ∃ pages, Paging.Paged Stored limit [] 0 pages ∧
      keys.map (id ∘ ApiKeyMetadata.fixed) = pages.flatten :=
    collect_paged manager low high bounded
      (fun other holds => ⟨kept other holds, stored other holds⟩) fuel 0 world ⟨few, rfl⟩
      (Nat.zero_le _) (stored world ⟨few, rfl⟩) collected
  apply paged.forall fun _ _ read => read
  rw [← flat]
  exact List.mem_map_of_mem member

/-- A key that the first page query could see is received with its fixed columns. -/
theorem collect_complete (manager : actor.kind = .management) (low : 1 ≤ limit)
    (high : limit ≤ 100) (few : world.Few hashCredential actor)
    (collected : collect hashCredential actor limit kind fuel (0 : Nat) world = some keys)
    {row : ApiKeyRow} (member : row ∈ (world.advance hashCredential).database.apiKeys)
    (listed : AuthDatabase.listed actor.clientId (kind.map ApiKeyKind.asStr) row) :
    ∃ key ∈ keys, key.fixed = row.fixed := by
  have bounded (other : Concurrent) (few : other.Few hashCredential actor) :
      (other.inventory actor kind).length < 2 ^ 62 := inventory_length_le.trans_lt few
  have grows (other : Concurrent) : Paging.Grows
      ((other.inventory actor kind).map FixedKey.sortKey)
      (((other.advance hashCredential).inventory actor kind).map FixedKey.sortKey) := by
    have extended : other.database.Extends (other.advance hashCredential).database :=
      foldl_extends _ _
    simpa only [inventory, List.map_map] using extended.inventory_grows
  obtain ⟨pages, paged, flat⟩ := collect_paged manager low high bounded
    (fun other few => ⟨few.advance, grows other⟩) fuel 0 world few (Nat.zero_le _)
    ⟨List.Sublist.refl _, (grows world).2⟩ collected
  have present : row.fixed ∈ (world.advance hashCredential).inventory actor kind :=
    List.mem_map_of_mem (AuthDatabase.mem_inventory.mpr ⟨member, listed⟩)
  have received := paged.complete (List.mem_map_of_mem present) (Nat.zero_le _)
  rw [← flat] at received
  obtain ⟨key, kept, same⟩ := List.mem_map.mp received
  refine ⟨key, kept, ?_⟩
  -- An identifier has one row in the final database, so equal sort keys are equal keys.
  have ids : ((world.final hashCredential).fixedKeys.map FixedKey.id).Nodup := by
    rw [AuthDatabase.fixedKeys, List.map_map]
    exact (world.final hashCredential).apiKeysPkey
  have sameId : key.fixed.id = row.fixed.id := congrArg (fun sort => (ofLex sort).2) same
  exact List.inj_on_of_nodup_map ids (collect_stored manager low high few collected key kept)
    (inventory_subset_final present) sameId

/-- A session without a creation ends after enough fetches. -/
theorem collect_ends (manager : actor.kind = .management) (low : 1 ≤ limit)
    (high : limit ≤ 100) (few : world.Few hashCredential actor) (quiet : world.Quiet)
    (enough : (world.inventory actor kind).length < fuel) :
    (collect hashCredential actor limit kind fuel (0 : Nat) world).isSome := by
  let Holds (other : Concurrent) : Prop := other.Few hashCredential actor ∧ other.Quiet
  exact collect_isSome manager low high
    (fun other (holds : Holds other) => inventory_length_le.trans_lt holds.1)
    (fun other holds => ⟨⟨holds.1.advance, holds.2.advance⟩,
      congrArg List.length (advance_inventory holds.2)⟩)
    fuel 0 world ⟨few, quiet⟩ (Nat.zero_le _) (by omega)

/-- A session without a creation receives the inventory in its order. -/
theorem collect_exact (manager : actor.kind = .management) (low : 1 ≤ limit)
    (high : limit ≤ 100) (few : world.Few hashCredential actor) (quiet : world.Quiet)
    (collected : collect hashCredential actor limit kind fuel (0 : Nat) world = some keys) :
    keys.map ApiKeyMetadata.fixed = world.inventory actor kind := by
  let Holds (other : Concurrent) : Prop := other.Few hashCredential actor ∧ other.Quiet
  have fixed (other : Concurrent) (holds : Holds other) : (other.inventory actor kind).map id =
      ((other.advance hashCredential).inventory actor kind).map id := by
    rw [advance_inventory holds.2]
  obtain ⟨pages, paged, flat⟩ := collect_paged manager low high
    (fun other (holds : Holds other) => inventory_length_le.trans_lt holds.1)
    (fun other holds => ⟨⟨holds.1.advance, holds.2.advance⟩, fixed other holds⟩)
    fuel 0 world ⟨few, quiet⟩ (Nat.zero_le _) (fixed world ⟨few, quiet⟩) collected
  rw [List.map_id] at paged
  exact flat.trans paged.exact

end Collected

end Concurrent

/-- A client that pages through its inventory receives every key of its first page and later. -/
theorem inventory_paging_complete (hashCredential : String → KeyDigest) (world : Concurrent)
    (actor : AuthContext) (manager : actor.kind = .management) (limit : Int) (low : 1 ≤ limit)
    (high : limit ≤ maxKeyListLimit) (kind : Option ApiKeyKind)
    (few : world.Few hashCredential actor) :
    (∀ fuel keys, Concurrent.collect hashCredential actor limit kind fuel 0 world = some keys →
      ∀ row ∈ (world.advance hashCredential).database.apiKeys,
        AuthDatabase.listed actor.clientId (kind.map ApiKeyKind.asStr) row →
          ∃ key ∈ keys, key.fixed = row.fixed) ∧
    (world.Quiet →
      (∃ enough, ∀ fuel, enough ≤ fuel →
        (Concurrent.collect hashCredential actor limit kind fuel 0 world).isSome) ∧
      ∀ fuel keys, Concurrent.collect hashCredential actor limit kind fuel 0 world = some keys →
        (keys.map ApiKeyMetadata.fixed).Perm ((world.database.apiKeys.filter
          (AuthDatabase.listed actor.clientId (kind.map ApiKeyKind.asStr))).map
            ApiKeyRow.fixed) ∧
        keys.Pairwise fun newer older => older.createdAt < newer.createdAt ∨
          older.createdAt = newer.createdAt ∧ older.keyId < newer.keyId) := by
  obtain ⟨limit, rfl⟩ := Int.eq_ofNat_of_zero_le (show 0 ≤ limit by omega)
  have low : 1 ≤ limit := by omega
  have high : limit ≤ 100 := by
    rw [maxKeyListLimit] at high
    omega
  constructor
  · intro fuel keys collected row member listed
    exact Concurrent.collect_complete manager low high few collected member listed
  · intro quiet
    constructor
    · exact ⟨_, fun fuel enough => Concurrent.collect_ends manager low high few quiet enough⟩
    · intro fuel keys collected
      have received := Concurrent.collect_exact manager low high few quiet collected
      constructor
      · rw [received]
        exact (List.perm_insertionSort _ _).map _
      · have sorted : keys.Pairwise fun newer older =>
            older.fixed.sortKey < newer.fixed.sortKey := by
          have same : keys.map (FixedKey.sortKey ∘ ApiKeyMetadata.fixed) =
              (world.database.inventory actor.clientId (kind.map ApiKeyKind.asStr)).map
                (FixedKey.sortKey ∘ ApiKeyRow.fixed) := by
            rw [← List.map_map, received, Concurrent.inventory, List.map_map]
          exact List.pairwise_map.mp (same ▸ AuthDatabase.inventory_sorted)
        apply sorted.imp
        intro newer older before
        rw [Prod.Lex.lt_iff] at before
        exact before

/-- The manager of the sample tenant. -/
def sampleManager : AuthContext := ⟨1, 2, .management⟩

/-- This digest is SHA-256 of the credential with the payload of ones. -/
def oneDigest : KeyDigest :=
  ⟨[19, 45, 192, 57, 29, 179, 70, 46, 171, 61, 133, 23, 57, 68, 14, 218,
    235, 148, 249, 66, 185, 161, 12, 58, 226, 68, 135, 241, 193, 95, 41, 214], rfl⟩

/-- This digest is SHA-256 of the credential with the payload of twos. -/
def twoDigest : KeyDigest :=
  ⟨[127, 206, 36, 218, 235, 139, 127, 123, 28, 94, 216, 250, 118, 169, 77, 141,
    82, 236, 175, 81, 208, 26, 18, 58, 14, 249, 125, 86, 106, 148, 140, 202], rfl⟩

/-- The hash of the three sample credentials. -/
def sampleHash (credential : String) : KeyDigest :=
  if credential = zeroCredential then zeroDigest
  else if credential = credentialPrefix ++ base64UrlSafeNoPad (List.replicate 32 1) then oneDigest
  else twoDigest

/-- The manager issues one more key with a repeated byte as its entropy. -/
def issuance (id : Uuid) (byte : UInt8) (now : Timestamp) : Operation :=
  .createKey sampleManager "app" .inference
    ⟨[now], [id], List.replicate 2 fun count => some (Vector.replicate count byte)⟩

/-- A tenant with two keys gets a third one between the first page and the second one. -/
def growingSession : Concurrent :=
  ⟨[creation 10, issuance 3 1 11].foldl (Operation.apply sampleHash) .empty,
    [[], [], [issuance 4 2 20]]⟩

def initialKey : ApiKeyMetadata :=
  ⟨1, 2, "opk_AAAAAAAAAAAAAAAAAAAAAA", "initial-management", "management", 10, none, none⟩

def issuedKey : ApiKeyMetadata :=
  ⟨1, 3, "opk_AQEBAQEBAQEBAQEBAQEBAQ", "app", "inference", 11, none, none⟩

/-- The third key shifts the pages, and the client receives the second key twice. -/
theorem growingSession_collect : Concurrent.collect sampleHash sampleManager 1 none 4 0
    growingSession = some [issuedKey, issuedKey, initialKey] := by decide +kernel

def issuedRow : ApiKeyRow :=
  ⟨3, 1, oneDigest.bytes, "opk_AQEBAQEBAQEBAQEBAQEBAQ", "app", "inference", 11, none, none⟩

/-- Both keys of the first page query are received over the three pages. -/
theorem inventory_paging_complete_example :
    (∃ key ∈ [issuedKey, issuedKey, initialKey], key.fixed = (createdRow 10).fixed) ∧
    ∃ key ∈ [issuedKey, issuedKey, initialKey], key.fixed = issuedRow.fixed := by
  have complete := (inventory_paging_complete sampleHash growingSession sampleManager rfl 1
    (by decide) (by decide) none (by unfold Concurrent.Few; decide +kernel)).1 4 _
    growingSession_collect
  exact ⟨complete (createdRow 10) (by decide +kernel) (by decide +kernel),
    complete issuedRow (by decide +kernel) (by decide +kernel)⟩

end Opmux.Auth
