import IntegraIntake.Library.Machine
import IntegraIntake.Library.PyString
import IntegraIntake.Library.Table
import IntegraIntake.Auth.ApiKeys
import Mathlib.Logic.Function.Basic

/-!
# Provisioning

`scripts/seed_demo.py`: a script takes the keys that a tenant has of one kind out of use
and adds a new one, in one transaction.  Scripts may run side by side.  Each of the two
SELECTs of a script sees what is committed when it begins, and what the script writes is
seen when it commits.

The steps are told apart once (`provisioningMove_of_step`), and a commit by what it does
to each of the two tables (`storeKey_keeps`, `Rotation.storeTenant_keeps`).  Scripts that
run side by side do not find each other's keys, so that both keys stay in use
(`activeKeys_commit`).
-/

namespace IntegraIntake

open Library InboundWebhook

/-- What a key is made for. -/
inductive Provision where
  | service
  | operator (actorRef : String)
  deriving DecidableEq

namespace Provision

/-- The kind of principal that the script makes a key for. -/
def principalType : Provision → PrincipalType
  | service => .service
  | operator _ => .operator

/-- What the principal may do. -/
def capability : Provision → Capability
  | service => .none
  | operator _ => .approvalDecider

/-- Whom the decisions of the principal are ascribed to. -/
def actorRef : Provision → Option String
  | service => none
  | operator actorRef => some actorRef

end Provision

/-- What a script raises. -/
inductive SeedError where
  | valueError (message : String)
  | unicodeEncodeError
  /-- A constraint is violated, the transaction is chosen to end a deadlock, or the
  connection is lost. -/
  | databaseError
  deriving DecidableEq

/-- The transaction of a script behind its SELECT of the tenant. -/
structure Rotation where
  provision : Provision
  slug : String
  /-- The tenant as it will be stored. -/
  tenant : Tenant
  /-- There is no row of it yet. -/
  isNew : Bool
  deriving DecidableEq

/-- What a script has done. -/
structure IssuedKey where
  rotation : Rotation
  /-- The keys that it has taken out of use. -/
  replaced : List Uuid
  keyId : Uuid
  rawKey : PyText
  deriving DecidableEq

/-! ## The scripts -/

/-- `seed_demo_tenant` up to the tenant, which gets the identifier `newId` if it is new. -/
def demoTenant (slug : String) (newId : Uuid) (db : CredentialTables) : Rotation :=
  match Table.lookup Tenant.slug slug db.tenants with
  | none => ⟨.service, slug, ⟨newId, slug, "Demo tenant", true⟩, true⟩
  | some tenant => ⟨.service, slug, { tenant with active := true }, false⟩

/-- `seed_operator_key` up to the tenant. -/
def operatorTenant (actorRef slug : String) (db : CredentialTables) : Except SeedError Rotation :=
  let normalizedActorRef := PyString.strip actorRef
  if normalizedActorRef = "" ∨ 255 < PyString.len normalizedActorRef then
    .error (.valueError "operator actor_ref must be non-blank and at most 255 characters")
  else
    match Table.lookup Tenant.slug slug db.tenants with
    | none => .error (.valueError "tenant must be seeded before an operator key")
    | some tenant =>
      if tenant.active then .ok ⟨.operator normalizedActorRef, slug, tenant, false⟩
      else .error (.valueError "tenant must be active before an operator key")

namespace Rotation

/-- The SELECT of the keys in use. -/
def activeKeys (rotation : Rotation) (db : CredentialTables) : List Uuid :=
  (db.apiKeys.filter fun key => key.tenantId = rotation.tenant.id ∧ key.isActive = true ∧
    key.principalType = rotation.provision.principalType).map ApiKey.id

/-- The row of the new key. -/
def apiKey (rotation : Rotation) (keyId : Uuid) (rawKey : PyText) (keyHash : String) : ApiKey where
  id := keyId
  tenantId := rotation.tenant.id
  keyPrefix := rawKey.take safePrefixLength
  keyHash := keyHash
  isActive := true
  principalType := rotation.provision.principalType
  capability := rotation.provision.capability
  actorRef := rotation.provision.actorRef

/-- The writes to `tenants`; `none` if a constraint or the length of a column forbids
them.  Only `seed_demo_tenant` sets the status. -/
def storeTenant (rotation : Rotation) (tenants : List Tenant) : Option (List Tenant) :=
  if rotation.isNew then
    if (∃ other ∈ tenants, other.id = rotation.tenant.id ∨ other.slug = rotation.tenant.slug) ∨
        255 < PyString.len rotation.tenant.slug then
      none
    else some (tenants ++ [rotation.tenant])
  else if rotation.provision.principalType = .service then
    some (tenants.map fun old =>
      if old.id = rotation.tenant.id then { old with active := true } else old)
  else some tenants

end Rotation

/-- The writes to `api_keys`. -/
def storeKey (key : ApiKey) (replaced : List Uuid) (apiKeys : List ApiKey) :
    Option (List ApiKey) :=
  if ∃ other ∈ apiKeys, other.id = key.id ∨ other.keyHash = key.keyHash then none
  else
    some ((apiKeys.map fun old =>
      if old.id ∈ replaced then { old with isActive := false } else old) ++ [key])

/-- The end of a script: the new key is made and everything is committed. -/
def Rotation.commit (sha256 : Bytes → String) (rotation : Rotation) (replaced : List Uuid)
    (keyId : Uuid) (random : Vector UInt8 32) (db : CredentialTables) :
    Except SeedError (CredentialTables × IssuedKey) :=
  let rawKey := generateApiKey random
  match hashApiKey sha256 rawKey with
  | .error _ => .error .unicodeEncodeError
  | .ok keyHash =>
    match rotation.storeTenant db.tenants,
      storeKey (rotation.apiKey keyId rawKey keyHash) replaced db.apiKeys with
    | some tenants, some apiKeys => .ok (⟨tenants, apiKeys⟩, ⟨rotation, replaced, keyId, rawKey⟩)
    | _, _ => .error .databaseError

/-! ## Scripts side by side -/

/-- Where a script stands. -/
inductive ScriptState where
  | notStarted
  | tenantRead (rotation : Rotation)
  | keysRead (rotation : Rotation) (replaced : List Uuid)
  | returned (issued : IssuedKey)
  | raised (error : SeedError)
  deriving DecidableEq

/-- The committed tables, with the scripts. -/
structure ProvisioningState where
  db : CredentialTables
  scripts : ℕ → ScriptState

/-- The next statement of a script, with what it gets from outside. -/
inductive ProvisioningStep where
  | seedDemoTenant (script : ℕ) (slug : String) (newId : Uuid)
  | seedOperatorKey (script : ℕ) (actorRef slug : String)
  | selectKeys (script : ℕ)
  | commit (script : ℕ) (keyId : Uuid) (random : Vector UInt8 32)
  | rollback (script : ℕ)

namespace ProvisioningState

/-- A script moves on. -/
def setScript (state : ProvisioningState) (script : ℕ) (stage : ScriptState) :
    ProvisioningState :=
  { state with scripts := Function.update state.scripts script stage }

/-- A transaction commits. -/
def setDb (state : ProvisioningState) (db : CredentialTables) : ProvisioningState :=
  { state with db := db }

end ProvisioningState

/-- The result of one step; `none` when it is not enabled. -/
def provisioningStep (sha256 : Bytes → String) (state : ProvisioningState) :
    ProvisioningStep → Option ProvisioningState
  | .seedDemoTenant script slug newId =>
    match state.scripts script with
    | .notStarted => some (state.setScript script (.tenantRead (demoTenant slug newId state.db)))
    | _ => none
  | .seedOperatorKey script actorRef slug =>
    match state.scripts script with
    | .notStarted =>
      match operatorTenant actorRef slug state.db with
      | .ok rotation => some (state.setScript script (.tenantRead rotation))
      | .error error => some (state.setScript script (.raised error))
    | _ => none
  | .selectKeys script =>
    match state.scripts script with
    | .tenantRead rotation =>
      some (state.setScript script (.keysRead rotation (rotation.activeKeys state.db)))
    | _ => none
  | .commit script keyId random =>
    match state.scripts script with
    | .keysRead rotation replaced =>
      match rotation.commit sha256 replaced keyId random state.db with
      | .ok (db, issued) => some ((state.setDb db).setScript script (.returned issued))
      | .error error => some (state.setScript script (.raised error))
    | _ => none
  | .rollback script =>
    match state.scripts script with
    | .tenantRead _ => some (state.setScript script (.raised .databaseError))
    | .keysRead _ _ => some (state.setScript script (.raised .databaseError))
    | _ => none

/-- Any tables that meet their constraints, and no script has started. -/
def provisioningMachine (sha256 : Bytes → String) :
    Machine ProvisioningState ProvisioningStep where
  initial state := state.db.WellFormed ∧ ∀ script, state.scripts script = .notStarted
  step := provisioningStep sha256

/-! ## What a step does -/

/-- A transaction that may go on: its tenant is new, or its row is there. -/
structure Rotation.Stands (rotation : Rotation) (db : CredentialTables) : Prop where
  slug : rotation.tenant.slug = rotation.slug
  active : rotation.tenant.active = true
  actor : rotation.provision.actorRef ≠ some ""
  stored : rotation.isNew = false → ∃ old ∈ db.tenants,
    { old with active := true } = rotation.tenant ∧
      (rotation.provision.principalType = .service ∨ old.active = true)

/-- What a step can be. -/
inductive ProvisioningMove (sha256 : Bytes → String) (state : ProvisioningState) :
    ProvisioningState → Prop
  | starts {script : ℕ} {rotation : Rotation} (hidle : state.scripts script = .notStarted)
      (hstands : rotation.Stands state.db) :
      ProvisioningMove sha256 state (state.setScript script (.tenantRead rotation))
  | selects {script : ℕ} {rotation : Rotation}
      (hread : state.scripts script = .tenantRead rotation) :
      ProvisioningMove sha256 state
        (state.setScript script (.keysRead rotation (rotation.activeKeys state.db)))
  | fails {script : ℕ} {error : SeedError}
      (hopen : ∀ issued, state.scripts script ≠ .returned issued) :
      ProvisioningMove sha256 state (state.setScript script (.raised error))
  | commits {script : ℕ} {rotation : Rotation} {replaced : List Uuid} {keyId : Uuid}
      {random : Vector UInt8 32} {db : CredentialTables} {issued : IssuedKey}
      (hread : state.scripts script = .keysRead rotation replaced)
      (hcommit : rotation.commit sha256 replaced keyId random state.db = .ok (db, issued)) :
      ProvisioningMove sha256 state ((state.setDb db).setScript script (.returned issued))

theorem demoTenant_stands (slug : String) (newId : Uuid) (db : CredentialTables) :
    (demoTenant slug newId db).Stands db := by
  unfold demoTenant
  split
  · exact ⟨rfl, rfl, nofun, nofun⟩
  · rename_i tenant hfound
    have hslug : tenant.slug = slug := Table.key_of_lookup hfound
    exact ⟨hslug, rfl, nofun, fun _ => ⟨tenant, Table.mem_of_lookup hfound, rfl, .inl rfl⟩⟩

theorem operatorTenant_stands {actorRef slug : String} {db : CredentialTables}
    {rotation : Rotation} (h : operatorTenant actorRef slug db = .ok rotation) :
    rotation.Stands db := by
  unfold operatorTenant at h
  dsimp only at h
  split at h
  · cases h
  · rename_i hactor
    split at h
    · cases h
    · rename_i tenant hfound
      split at h
      · rename_i hactive
        cases h
        refine ⟨Table.key_of_lookup hfound, hactive, fun hempty => ?_, fun _ =>
          ⟨tenant, Table.mem_of_lookup hfound, ?_, .inr hactive⟩⟩
        · exact hactor (.inl (Option.some.inj hempty))
        · rw [← hactive]
      · cases h

section Steps

variable {sha256 : Bytes → String} {state next : ProvisioningState}

theorem provisioningMove_of_step {step : ProvisioningStep}
    (h : provisioningStep sha256 state step = some next) : ProvisioningMove sha256 state next := by
  cases step with
  | seedDemoTenant script slug newId =>
      rw [provisioningStep] at h
      split at h
      · rename_i hidle
        cases h
        exact .starts hidle (demoTenant_stands slug newId state.db)
      · cases h
  | seedOperatorKey script actorRef slug =>
      rw [provisioningStep] at h
      split at h
      · rename_i hidle
        split at h
        · rename_i htenant
          cases h
          exact .starts hidle (operatorTenant_stands htenant)
        · cases h
          exact .fails (by simp [hidle])
      · cases h
  | selectKeys script =>
      rw [provisioningStep] at h
      split at h
      · rename_i hread
        cases h
        exact .selects hread
      · cases h
  | commit script keyId random =>
      rw [provisioningStep] at h
      split at h
      · rename_i hread
        split at h
        · rename_i hcommit
          cases h
          exact .commits hread hcommit
        · cases h
          exact .fails (by simp [hread])
      · cases h
  | rollback script =>
      rw [provisioningStep] at h
      split at h
      · rename_i hread
        cases h
        exact .fails (by simp [hread])
      · rename_i hread
        cases h
        exact .fails (by simp [hread])
      · cases h

end Steps

/-! ## What a commit does -/

/-- A tenant keeps its row, which at most becomes active. -/
def TenantKept (tenants : List Tenant) (tenant : Tenant) : Prop :=
  tenant ∈ tenants ∨ { tenant with active := true } ∈ tenants

section Commits

variable {sha256 : Bytes → String} {rotation : Rotation} {replaced : List Uuid} {keyId : Uuid}
  {random : Vector UInt8 32} {db after : CredentialTables} {issued : IssuedKey}
  {tenants tenants' : List Tenant} {apiKeys apiKeys' : List ApiKey} {key : ApiKey}

theorem Rotation.commit_eq_ok
    (h : rotation.commit sha256 replaced keyId random db = .ok (after, issued)) :
    ∃ keyHash, hashApiKey sha256 (generateApiKey random) = .ok keyHash ∧
      issued = ⟨rotation, replaced, keyId, generateApiKey random⟩ ∧
      rotation.storeTenant db.tenants = some after.tenants ∧
      storeKey (rotation.apiKey keyId (generateApiKey random) keyHash) replaced db.apiKeys =
        some after.apiKeys := by
  unfold Rotation.commit at h
  dsimp only at h
  split at h
  · cases h
  · rename_i keyHash hhash
    split at h
    · rename_i htenants hkeys
      cases h
      exact ⟨keyHash, hhash, rfl, htenants, hkeys⟩
    · cases h

/-- The row of the new key is fresh, and the keys that are replaced go out of use. -/
theorem storeKey_eq_some (h : storeKey key replaced apiKeys = some apiKeys') :
    (∀ other ∈ apiKeys, other.id ≠ key.id ∧ other.keyHash ≠ key.keyHash) ∧
      apiKeys' = (apiKeys.map fun old =>
        if old.id ∈ replaced then { old with isActive := false } else old) ++ [key] := by
  unfold storeKey at h
  split at h
  · cases h
  · rename_i hfresh
    refine ⟨fun other hother => ?_, (Option.some.inj h).symm⟩
    exact ⟨fun hid => hfresh ⟨other, hother, .inl hid⟩, fun hhash =>
      hfresh ⟨other, hother, .inr hhash⟩⟩

/-- A column that no update changes stays unique if the new key has a fresh value in it. -/
theorem storeKey_unique {Column : Type} {column : ApiKey → Column}
    (hcolumn : ∀ old : ApiKey, column { old with isActive := false } = column old)
    (hunique : Table.Unique column apiKeys) (hfresh : ∀ other ∈ apiKeys, column other ≠ column key)
    (h : storeKey key replaced apiKeys = some apiKeys') : Table.Unique column apiKeys' := by
  obtain ⟨-, rfl⟩ := storeKey_eq_some h
  have hkept : ∀ old : ApiKey, column (if old.id ∈ replaced then { old with isActive := false }
      else old) = column old := by
    intro old
    split
    · exact hcolumn old
    · rfl
  refine (hunique.map hkept).append fun other hother => ?_
  obtain ⟨old, hold, rfl⟩ := List.mem_map.1 hother
  rw [hkept]
  exact hfresh old hold

/-- What happens to a key that is there. -/
theorem storeKey_keeps (h : storeKey key replaced apiKeys = some apiKeys') {old : ApiKey}
    (hold : old ∈ apiKeys) : ∃ later ∈ apiKeys', later.id = old.id ∧
      { later with isActive := true } = { old with isActive := true } ∧
      (later.isActive = true ↔ old.isActive = true ∧ old.id ∉ replaced) := by
  obtain ⟨-, rfl⟩ := storeKey_eq_some h
  refine ⟨_, List.mem_append_left _ (List.mem_map_of_mem hold), ?_⟩
  split
  · rename_i hreplaced
    exact ⟨rfl, rfl, by simp [hreplaced]⟩
  · rename_i hkept
    exact ⟨rfl, rfl, by simp [hkept]⟩

theorem storeKey_new (h : storeKey key replaced apiKeys = some apiKeys') : key ∈ apiKeys' := by
  obtain ⟨-, rfl⟩ := storeKey_eq_some h
  exact List.mem_append_right _ List.mem_cons_self

namespace Rotation

theorem storeTenant_unique (hid : Table.Unique Tenant.id tenants)
    (hslug : Table.Unique Tenant.slug tenants)
    (h : rotation.storeTenant tenants = some tenants') :
    Table.Unique Tenant.id tenants' ∧ Table.Unique Tenant.slug tenants' := by
  unfold storeTenant at h
  split at h
  · split at h
    · cases h
    · rename_i hfresh
      cases h
      exact ⟨hid.append fun other hother heq => hfresh (.inl ⟨other, hother, .inl heq⟩),
        hslug.append fun other hother heq => hfresh (.inl ⟨other, hother, .inr heq⟩)⟩
  · split at h
    · cases h
      exact ⟨hid.map fun old => by split <;> rfl, hslug.map fun old => by split <;> rfl⟩
    · cases h
      exact ⟨hid, hslug⟩

theorem storeTenant_keeps (h : rotation.storeTenant tenants = some tenants') {tenant : Tenant}
    (hmem : tenant ∈ tenants) : TenantKept tenants' tenant := by
  unfold storeTenant at h
  split at h
  · split at h
    · cases h
    · cases h
      exact .inl (List.mem_append_left _ hmem)
  · split at h
    · cases h
      by_cases hsame : tenant.id = rotation.tenant.id
      · exact .inr (List.mem_map.2 ⟨tenant, hmem, if_pos hsame⟩)
      · exact .inl (List.mem_map.2 ⟨tenant, hmem, if_neg hsame⟩)
    · cases h
      exact .inl hmem

/-- The tenant of the new key is stored, and it is active. -/
theorem storeTenant_stored (hstands : rotation.Stands db)
    (h : rotation.storeTenant db.tenants = some tenants') : rotation.tenant ∈ tenants' := by
  unfold storeTenant at h
  split at h
  · split at h
    · cases h
    · cases h
      exact List.mem_append_right _ List.mem_cons_self
  · rename_i hnew
    obtain ⟨old, hold, hrow, hactive⟩ := hstands.stored (by simpa using hnew)
    have hid : old.id = rotation.tenant.id := by rw [← hrow]
    split at h
    · cases h
      exact List.mem_map.2 ⟨old, hold, (if_pos hid).trans hrow⟩
    · rename_i hother
      cases h
      have hsame : { old with active := true } = old := by rw [← hactive.resolve_left hother]
      exact (hrow ▸ hsame ▸ hold :)

/-- A commit leaves in use, of the keys of its kind, the new one and those that its script
has not found. -/
theorem activeKeys_commit
    (h : rotation.commit sha256 replaced keyId random db = .ok (after, issued)) :
    rotation.activeKeys after = (rotation.activeKeys db).filter (· ∉ replaced) ++ [keyId] := by
  obtain ⟨keyHash, -, -, -, hkeys⟩ := commit_eq_ok h
  obtain ⟨-, hrows⟩ := storeKey_eq_some hkeys
  rw [activeKeys, hrows, List.filter_append, List.map_append, List.filter_map, List.map_map,
    activeKeys, List.filter_map, List.filter_filter]
  congr 1
  · have hid : ApiKey.id ∘ (fun old : ApiKey =>
        if old.id ∈ replaced then { old with isActive := false } else old) = ApiKey.id := by
      funext old
      dsimp only [Function.comp_apply]
      split <;> rfl
    rw [hid]
    congr 1
    refine List.filter_congr fun old _ => ?_
    dsimp only [Function.comp_apply]
    split
    · rename_i hreplaced
      simp [hreplaced]
    · rename_i hkept
      simp [hkept]
  · simp [apiKey]

end Rotation

end Commits

end IntegraIntake
