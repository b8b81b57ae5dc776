import OpmuxGateway.Construction.Auth.SharedStore
import OpmuxGateway.Proof.Auth.StoreGrowth

/-
This file says how a stored key can change, one write and one statement at a time.
-/

namespace Opmux.Auth

/-- A stored key keeps its identity, its revocation is final, and its last use only advances. -/
structure ApiKeyRow.Evolves (before after : ApiKeyRow) : Prop where
  fixed : after.fixed = before.fixed
  digest : after.keyDigest = before.keyDigest
  revoked : before.revokedAt.isSome → after = before
  used : ∀ earlier, before.lastUsedAt = some earlier →
    ∃ later, after.lastUsedAt = some later ∧ earlier ≤ later

namespace ApiKeyRow

variable {before middle after : ApiKeyRow}

theorem Evolves.refl (row : ApiKeyRow) : row.Evolves row :=
  ⟨rfl, rfl, fun _ => rfl, fun earlier used => ⟨earlier, used, le_refl _⟩⟩

theorem Evolves.trans (first : before.Evolves middle) (second : middle.Evolves after) :
    before.Evolves after := by
  refine ⟨second.fixed.trans first.fixed, second.digest.trans first.digest, ?_, ?_⟩
  · intro revoked
    have same := first.revoked revoked
    rw [same] at second
    exact second.revoked revoked
  · intro earlier used
    obtain ⟨between, known, advanced⟩ := first.used earlier used
    obtain ⟨later, last, moved⟩ := second.used between known
    exact ⟨later, last, advanced.trans moved⟩

theorem Evolves.id (evolves : before.Evolves after) : after.id = before.id :=
  congrArg FixedKey.id evolves.fixed

/-- A recorded use advances an active key. -/
theorem evolves_used {keyId clientId : Uuid} {usedAt : Timestamp} {row : ApiKeyRow}
    (usable : AuthDatabase.usable keyId clientId usedAt row) :
    row.Evolves { row with lastUsedAt := some usedAt } := by
  simp only [AuthDatabase.usable, Bool.and_eq_true, Option.isNone_iff_eq_none] at usable
  obtain ⟨⟨-, active⟩, newer⟩ := usable
  refine ⟨rfl, rfl, ?_, ?_⟩
  · intro revoked
    simp [active] at revoked
  · intro earlier used
    exact ⟨usedAt, rfl, le_of_lt (by simpa [used] using newer)⟩

/-- A revocation ends an active key. -/
theorem evolves_revoked {keyId clientId : Uuid} {revokedAt : Timestamp} {row : ApiKeyRow}
    (revocable : AuthDatabase.revocable keyId clientId row) :
    row.Evolves { row with revokedAt := some revokedAt } := by
  simp only [AuthDatabase.revocable, Bool.and_eq_true, Option.isNone_iff_eq_none] at revocable
  refine ⟨rfl, rfl, ?_, fun earlier used => ⟨earlier, used, le_refl _⟩⟩
  intro revoked
  simp [revocable.2] at revoked

end ApiKeyRow

/-- No stored row disappears, and each stored key evolves. -/
structure AuthDatabase.Evolves (before after : AuthDatabase) : Prop where
  clients : ∀ row ∈ before.clients, row ∈ after.clients
  keys : ∀ row ∈ before.apiKeys, ∃ later ∈ after.apiKeys, row.Evolves later

namespace AuthDatabase

variable {before middle after : AuthDatabase}

theorem Evolves.refl (database : AuthDatabase) : database.Evolves database :=
  ⟨fun _ member => member, fun row member => ⟨row, member, .refl row⟩⟩

theorem Evolves.trans (first : before.Evolves middle) (second : middle.Evolves after) :
    before.Evolves after := by
  refine ⟨fun row member => second.clients row (first.clients row member), ?_⟩
  intro row member
  obtain ⟨between, stored, moved⟩ := first.keys row member
  obtain ⟨later, kept, evolved⟩ := second.keys between stored
  exact ⟨later, kept, moved.trans evolved⟩

/-- The later row of an identifier evolved from the earlier one. -/
theorem Evolves.row (evolves : before.Evolves after) {earlier later : ApiKeyRow}
    (stored : earlier ∈ before.apiKeys) (kept : later ∈ after.apiKeys)
    (same : earlier.id = later.id) : earlier.Evolves later := by
  obtain ⟨found, member, evolved⟩ := evolves.keys earlier stored
  rw [id_unique kept member (same.symm.trans evolved.id.symm)]
  exact evolved

/-- A revoked row stays as it is. -/
theorem Evolves.frozen (evolves : before.Evolves after) {row : ApiKeyRow}
    (stored : row ∈ before.apiKeys) (revoked : row.revokedAt.isSome) : row ∈ after.apiKeys := by
  obtain ⟨later, kept, evolved⟩ := evolves.keys row stored
  rwa [evolved.revoked revoked] at kept

end AuthDatabase

section Writes

variable {before after : AuthDatabase} {write : Write} {writes : List Write}

/-- The key rows that a transaction writes. -/
def keyRows (writes : List Write) : List ApiKeyRow := writes.filterMap Write.keyRow

/-- A write follows a database when it evolves the stored row of its identifier. -/
def Follows (database : AuthDatabase) (row : ApiKeyRow) : Prop :=
  ∀ stored ∈ database.apiKeys, stored.id = row.id → stored.Evolves row

/-- A later write of the same key evolves the earlier one. -/
def Ordered (rows : List ApiKeyRow) : Prop :=
  rows.Pairwise fun first second => first.id = second.id → first.Evolves second

/-- An inserted key shares its identifier with no stored one. -/
theorem insertKey_fresh {row : ApiKeyRow} (inserted : before.insertKey row = .ok after) :
    ∀ stored ∈ before.apiKeys, stored.id ≠ row.id := by
  intro stored member
  have unique := after.apiKeysPkey
  rw [(AuthDatabase.insertKey_eq_ok inserted).1, List.map_append, List.nodup_append] at unique
  exact unique.2.2 _ (List.mem_map_of_mem member) _ (by simp)

theorem Write.apply_version {row : ApiKeyRow}
    (applied : (Write.version row).apply before = .ok after) :
    after.clients = before.clients ∧
      after.apiKeys = before.apiKeys.map
        (AuthDatabase.rewriteRow (fun stored => stored.id = row.id) fun _ => row) := by
  rw [Write.apply] at applied
  cases updated : before.updateKeys (fun stored => stored.id = row.id) (fun _ => row) with
  | error error =>
      rw [updated] at applied
      cases applied
  | ok result =>
      rw [updated] at applied
      cases applied
      obtain ⟨-, keys, clients⟩ := AuthDatabase.updateKeys_eq_ok updated
      exact ⟨clients, keys⟩

/-- A row of the later database is the written one, or it was stored under another identifier. -/
theorem Write.mem_apply (applied : write.apply before = .ok after) {row : ApiKeyRow}
    (member : row ∈ after.apiKeys) :
    write.keyRow = some row ∨
      row ∈ before.apiKeys ∧ ∀ written, write.keyRow = some written → row.id ≠ written.id := by
  cases write with
  | client client =>
      rw [(AuthDatabase.insertClient_eq_ok applied).1] at member
      exact .inr ⟨member, nofun⟩
  | key added =>
      rw [(AuthDatabase.insertKey_eq_ok applied).1] at member
      rcases List.mem_append.mp member with old | new
      · right
        refine ⟨old, ?_⟩
        rintro written ⟨⟩
        exact insertKey_fresh applied row old
      · left
        rw [List.mem_singleton.mp new, Write.keyRow]
  | version version =>
      rw [(Write.apply_version applied).2, List.mem_map] at member
      obtain ⟨stored, old, rfl⟩ := member
      by_cases same : stored.id = version.id
      · left
        simp [AuthDatabase.rewriteRow, same, Write.keyRow]
      · right
        simp only [AuthDatabase.rewriteRow, same, decide_false, Bool.false_eq_true, if_false]
        refine ⟨old, ?_⟩
        rintro written ⟨⟩
        exact same

/-- A write keeps every row of another identifier. -/
theorem Write.apply_kept (applied : write.apply before = .ok after) {row : ApiKeyRow}
    (member : row ∈ before.apiKeys)
    (other : ∀ written, write.keyRow = some written → row.id ≠ written.id) :
    row ∈ after.apiKeys := by
  cases write with
  | client client => rwa [(AuthDatabase.insertClient_eq_ok applied).1]
  | key added =>
      rw [(AuthDatabase.insertKey_eq_ok applied).1]
      exact List.mem_append_left _ member
  | version version =>
      rw [(Write.apply_version applied).2, List.mem_map]
      refine ⟨row, member, ?_⟩
      simp [AuthDatabase.rewriteRow, other version rfl]

/-- A write that follows its database evolves it. -/
theorem Write.apply_evolves (applied : write.apply before = .ok after)
    (follows : ∀ row, write.keyRow = some row → Follows before row) : before.Evolves after := by
  have inserted {rows : List ApiKeyRow} (keys : after.apiKeys = before.apiKeys ++ rows) :
      ∀ row ∈ before.apiKeys, ∃ later ∈ after.apiKeys, row.Evolves later := by
    intro row member
    rw [keys]
    exact ⟨row, List.mem_append_left _ member, .refl row⟩
  cases write with
  | client client =>
      obtain ⟨keys, clients⟩ := AuthDatabase.insertClient_eq_ok applied
      refine ⟨fun row member => ?_, inserted (by rw [keys, List.append_nil])⟩
      rw [clients]
      exact List.mem_append_left _ member
  | key added =>
      obtain ⟨keys, clients⟩ := AuthDatabase.insertKey_eq_ok applied
      exact ⟨fun row member => clients ▸ member, inserted keys⟩
  | version version =>
      obtain ⟨clients, keys⟩ := Write.apply_version applied
      refine ⟨fun row member => clients ▸ member, fun row member => ?_⟩
      rw [keys]
      refine ⟨_, List.mem_map_of_mem member, ?_⟩
      by_cases same : row.id = version.id
      · simpa [AuthDatabase.rewriteRow, same] using follows version rfl row member same
      · simpa [AuthDatabase.rewriteRow, same] using ApiKeyRow.Evolves.refl row

theorem mem_keyRows_cons {row : ApiKeyRow} :
    row ∈ keyRows (write :: writes) ↔ write.keyRow = some row ∨ row ∈ keyRows writes := by
  rw [keyRows, List.filterMap_cons]
  cases write.keyRow <;> simp [keyRows, eq_comm]

theorem ordered_cons : Ordered (keyRows (write :: writes)) ↔
    (∀ row, write.keyRow = some row → ∀ later ∈ keyRows writes, row.id = later.id →
      row.Evolves later) ∧ Ordered (keyRows writes) := by
  rw [keyRows, List.filterMap_cons]
  cases write.keyRow <;> simp [keyRows, Ordered]

theorem applyAll_cons (applied : before.applyAll (write :: writes) = .ok after) :
    ∃ middle, write.apply before = .ok middle ∧ middle.applyAll writes = .ok after := by
  rw [AuthDatabase.applyAll, List.foldlM_cons] at applied
  cases first : write.apply before with
  | error error =>
      rw [first] at applied
      cases applied
  | ok middle =>
      rw [first] at applied
      exact ⟨middle, rfl, applied⟩

/-- A row after a transaction is one of its writes, or no write has its identifier. -/
theorem mem_applyAll (applied : before.applyAll writes = .ok after) {row : ApiKeyRow}
    (member : row ∈ after.apiKeys) :
    row ∈ keyRows writes ∨
      row ∈ before.apiKeys ∧ ∀ written ∈ keyRows writes, row.id ≠ written.id := by
  induction writes generalizing before with
  | nil =>
      cases applied
      exact .inr ⟨member, nofun⟩
  | cons write rest ih =>
      obtain ⟨middle, first, last⟩ := applyAll_cons applied
      simp only [mem_keyRows_cons]
      rcases ih last with new | ⟨kept, others⟩
      · exact .inl (.inr new)
      · rcases Write.mem_apply first kept with key | ⟨old, other⟩
        · exact .inl (.inl key)
        · right
          refine ⟨old, ?_⟩
          rintro written (key | found)
          · exact other written key
          · exact others written found

/-- A transaction keeps every row of another identifier. -/
theorem applyAll_kept (applied : before.applyAll writes = .ok after) {row : ApiKeyRow}
    (member : row ∈ before.apiKeys) (other : ∀ written ∈ keyRows writes, row.id ≠ written.id) :
    row ∈ after.apiKeys := by
  induction writes generalizing before with
  | nil =>
      cases applied
      exact member
  | cons write rest ih =>
      obtain ⟨middle, first, last⟩ := applyAll_cons applied
      apply ih last
      · exact Write.apply_kept first member fun written key =>
          other written (mem_keyRows_cons.mpr (.inl key))
      · intro written found
        exact other written (mem_keyRows_cons.mpr (.inr found))

/-- A write keeps every identifier. -/
theorem Write.apply_ids (applied : write.apply before = .ok after) {id : Uuid}
    (stored : ∃ row ∈ before.apiKeys, row.id = id) : ∃ row ∈ after.apiKeys, row.id = id := by
  obtain ⟨row, member, rfl⟩ := stored
  by_cases other : ∀ written, write.keyRow = some written → row.id ≠ written.id
  · exact ⟨row, Write.apply_kept applied member other, rfl⟩
  · push Not at other
    obtain ⟨written, key, same⟩ := other
    cases write with
    | client client => cases key
    | key added =>
        refine ⟨row, ?_, rfl⟩
        rw [(AuthDatabase.insertKey_eq_ok applied).1]
        exact List.mem_append_left _ member
    | version version =>
        cases key
        refine ⟨written, ?_, same.symm⟩
        rw [(Write.apply_version applied).2, List.mem_map]
        exact ⟨row, member, by simp [AuthDatabase.rewriteRow, same]⟩

theorem applyAll_ids (applied : before.applyAll writes = .ok after) {id : Uuid}
    (stored : ∃ row ∈ before.apiKeys, row.id = id) : ∃ row ∈ after.apiKeys, row.id = id := by
  induction writes generalizing before with
  | nil =>
      cases applied
      exact stored
  | cons write rest ih =>
      obtain ⟨middle, first, last⟩ := applyAll_cons applied
      exact ih last (Write.apply_ids first stored)

/-- An inserted key is stored after its transaction. -/
theorem applyAll_inserted (applied : before.applyAll writes = .ok after) {added : ApiKeyRow}
    (member : Write.key added ∈ writes) : ∃ row ∈ after.apiKeys, row.id = added.id := by
  induction writes generalizing before with
  | nil => cases member
  | cons write rest ih =>
      obtain ⟨middle, first, last⟩ := applyAll_cons applied
      cases member with
      | tail _ found => exact ih last found
      | head =>
          refine applyAll_ids last ⟨added, ?_, rfl⟩
          rw [(AuthDatabase.insertKey_eq_ok first).1]
          exact List.mem_append_right _ (List.mem_singleton_self added)

/-- The writes of a transaction together evolve the rows that they follow. -/
theorem applyAll_evolves (applied : before.applyAll writes = .ok after)
    (follows : ∀ row ∈ keyRows writes, Follows before row) (ordered : Ordered (keyRows writes)) :
    before.Evolves after ∧
      ∀ row ∈ after.apiKeys, ∀ written ∈ keyRows writes, written.id = row.id →
        written.Evolves row := by
  induction writes generalizing before with
  | nil =>
      cases applied
      exact ⟨.refl _, nofun⟩
  | cons write rest ih =>
      obtain ⟨middle, first, last⟩ := applyAll_cons applied
      obtain ⟨advances, ordered⟩ := ordered_cons.mp ordered
      have moved := Write.apply_evolves first fun row key =>
        follows row (mem_keyRows_cons.mpr (.inl key))
      have follows (row : ApiKeyRow) (member : row ∈ keyRows rest) : Follows middle row := by
        intro stored found same
        rcases Write.mem_apply first found with key | ⟨old, _⟩
        · exact advances stored key row member same
        · exact follows row (mem_keyRows_cons.mpr (.inr member)) stored old same
      obtain ⟨evolved, newest⟩ := ih last follows ordered
      refine ⟨moved.trans evolved, ?_⟩
      intro row stored written member same
      rcases mem_keyRows_cons.mp member with wrote | member
      · rcases mem_applyAll last stored with new | ⟨kept, _⟩
        · exact advances written wrote row new same
        · rcases Write.mem_apply first kept with key | ⟨_, other⟩
          · rw [Option.some.inj (wrote.symm.trans key)]
            exact .refl row
          · exact absurd same.symm (other written wrote)
      · exact newest row stored written member same

/-- A statement writes rows that it owns and that evolve the stored ones. -/
structure Effect.Sound {Rows : Type} (database : AuthDatabase) (effect : Effect Rows) : Prop where
  owned : ∀ row ∈ keyRows effect.writes, Resource.row row.id ∈ effect.resources
  present : ∀ row ∈ keyRows effect.writes,
    (∃ stored ∈ database.apiKeys, stored.id = row.id) ∨ Write.key row ∈ effect.writes
  follows : ∀ row ∈ keyRows effect.writes, Follows database row
  ordered : Ordered (keyRows effect.writes)

@[simp] theorem keyRows_versions (rows : List ApiKeyRow) :
    keyRows (rows.map .version) = rows := by
  simp [keyRows, List.filterMap_map, Function.comp_def, Write.keyRow]

/-- A statement without writes is sound. -/
theorem Effect.Sound.read {Rows : Type} {database : AuthDatabase} {rows : Rows}
    {resources : List Resource} : (⟨rows, [], resources⟩ : Effect Rows).Sound database :=
  ⟨nofun, nofun, nofun, List.Pairwise.nil⟩

/-- An update is sound when its assignment evolves each matching row. -/
theorem Effect.Sound.update {Rows : Type} {reply : Rows} {database later : AuthDatabase}
    {matching : ApiKeyRow → Bool} {assign : ApiKeyRow → ApiKeyRow} {rows : List ApiKeyRow}
    (updated : database.updateKeys matching assign = .ok (rows, later))
    (evolves : ∀ row, matching row → row.Evolves (assign row)) :
    (Effect.ofUpdate reply rows).Sound database := by
  obtain ⟨rfl, -, -⟩ := AuthDatabase.updateKeys_eq_ok updated
  have written (row : ApiKeyRow) (member : row ∈ (database.apiKeys.filter matching).map assign) :
      ∃ stored ∈ database.apiKeys, stored.Evolves row ∧ assign stored = row := by
    obtain ⟨stored, found, rfl⟩ := List.mem_map.mp member
    obtain ⟨found, matched⟩ := List.mem_filter.mp found
    exact ⟨stored, found, evolves stored matched, rfl⟩
  refine ⟨?_, ?_, ?_, ?_⟩
  · intro row member
    rw [Effect.ofUpdate, keyRows_versions] at member
    exact List.mem_map_of_mem member
  · intro row member
    rw [Effect.ofUpdate, keyRows_versions] at member
    obtain ⟨origin, kept, evolved, -⟩ := written row member
    exact .inl ⟨origin, kept, evolved.id.symm⟩
  · intro row member stored found same
    rw [Effect.ofUpdate, keyRows_versions] at member
    obtain ⟨origin, kept, evolved, -⟩ := written row member
    rw [AuthDatabase.id_unique found kept (same.trans evolved.id)]
    exact evolved
  · rw [Effect.ofUpdate, keyRows_versions]
    apply List.Pairwise.imp_of_mem (R := fun _ _ => True)
    · intro first second one two _ same
      obtain ⟨origin, kept, evolved, rfl⟩ := written first one
      obtain ⟨other, found, moved, rfl⟩ := written second two
      rw [AuthDatabase.id_unique kept found (evolved.id.symm.trans (same.trans moved.id))]
      exact .refl _
    · exact List.pairwise_of_forall fun _ _ => trivial

theorem Statement.evaluate_sound {database : AuthDatabase} {statement : Statement}
    {effect : Effect statement.Rows} (evaluated : statement.evaluate database = .ok effect) :
    effect.Sound database := by
  cases statement with
  | acquire | begin | commit | rollback | findByDigest | lockByDigest | findOwned | page =>
      cases evaluated
      exact .read
  | insertClient client =>
      cases inserted : database.insertClient client.toRow with
      | error error =>
          rw [Statement.evaluate, inserted] at evaluated
          cases evaluated
      | ok later =>
          rw [Statement.evaluate, inserted] at evaluated
          cases evaluated
          exact ⟨nofun, nofun, nofun, List.Pairwise.nil⟩
  | insertKey key =>
      cases inserted : database.insertKey key.toRow with
      | error error =>
          rw [Statement.evaluate, inserted] at evaluated
          cases evaluated
      | ok later =>
          rw [Statement.evaluate, inserted] at evaluated
          cases evaluated
          refine ⟨?_, ?_, ?_, List.pairwise_singleton _ _⟩
          · rintro row (_ | ⟨_, ⟨⟩⟩)
            exact List.mem_cons_self
          · rintro row (_ | ⟨_, ⟨⟩⟩)
            exact .inr List.mem_cons_self
          · rintro row (_ | ⟨_, ⟨⟩⟩)
            intro stored found same
            exact absurd same (insertKey_fresh inserted stored found)
  | touch keyId clientId usedAt =>
      cases touched : database.touch keyId clientId usedAt with
      | error error =>
          rw [Statement.evaluate, touched] at evaluated
          cases evaluated
      | ok result =>
          rw [Statement.evaluate, touched] at evaluated
          cases evaluated
          exact .update touched fun row => ApiKeyRow.evolves_used
  | revoke keyId clientId revokedAt =>
      cases revoked : database.revoke keyId clientId revokedAt with
      | error error =>
          rw [Statement.evaluate, revoked] at evaluated
          cases evaluated
      | ok result =>
          rw [Statement.evaluate, revoked] at evaluated
          cases evaluated
          exact .update revoked fun row => ApiKeyRow.evolves_revoked

end Writes

end Opmux.Auth
