import IntegraIntake.Auth.Provisioning

/-!
# Issued keys

A key that a script has returned lets its holder in, as what it was made for, until
another script that has found it in use commits, and never again after that
(`issued_key_authenticates`).  Every request is let in as a tenant or as an operator, never
as both, or it is answered by 401 (`requests_answered`).

Three facts carry the invariant.  The row of an open transaction's tenant stays there
(`Rotation.Stands`).  A script has found only keys that are stored, so that none of them
is a key that comes later.  And a returned key is in use exactly as long as it is not
among what a committed script has found (`IssuedKey.Stored`).
-/

namespace IntegraIntake

open Library InboundWebhook

/-! ## The invariant -/

namespace ScriptState

/-- The transaction that is open. -/
def rotation? : ScriptState → Option Rotation
  | tenantRead rotation => some rotation
  | keysRead rotation _ => some rotation
  | _ => none

/-- The keys that the script has found. -/
def replaced : ScriptState → List Uuid
  | keysRead _ replaced => replaced
  | returned issued => issued.replaced
  | _ => []

end ScriptState

namespace ProvisioningState

/-- A script that has found the key in use has committed. -/
def RotatedOut (state : ProvisioningState) (keyId : Uuid) : Prop :=
  ∃ script issued, state.scripts script = .returned issued ∧ keyId ∈ issued.replaced

variable (state : ProvisioningState) {script other : ℕ} {stage : ScriptState}

@[simp] theorem setScript_self : (state.setScript script stage).scripts script = stage :=
  Function.update_self ..

theorem setScript_of_ne (hne : other ≠ script) :
    (state.setScript script stage).scripts other = state.scripts other :=
  Function.update_of_ne hne ..

variable {state}

/-- A script that has returned is not one that takes a step. -/
theorem returned_setScript (hopen : ∀ issued, state.scripts script ≠ .returned issued)
    {issued : IssuedKey} (h : state.scripts other = .returned issued) :
    (state.setScript script stage).scripts other = .returned issued := by
  have hother : other ≠ script := by
    rintro rfl
    exact hopen issued h
  exact (setScript_of_ne state hother).trans h

theorem returned_setScript_iff (hopen : ∀ issued, state.scripts script ≠ .returned issued)
    (hstage : ∀ issued, stage ≠ .returned issued) {issued : IssuedKey} :
    (state.setScript script stage).scripts other = .returned issued ↔
      state.scripts other = .returned issued := by
  by_cases hsame : other = script
  · subst hsame
    rw [setScript_self]
    exact iff_of_false (hstage issued) (hopen issued)
  · rw [setScript_of_ne state hsame]

theorem rotatedOut_setScript_iff (hopen : ∀ issued, state.scripts script ≠ .returned issued)
    (hstage : ∀ issued, stage ≠ .returned issued) {keyId : Uuid} :
    (state.setScript script stage).RotatedOut keyId ↔ state.RotatedOut keyId := by
  simp only [RotatedOut, returned_setScript_iff hopen hstage]

/-- A commit takes the keys that its script has found out of use, and no others. -/
theorem rotatedOut_commit_iff (hopen : ∀ issued, state.scripts script ≠ .returned issued)
    (db : CredentialTables) {issued : IssuedKey} {keyId : Uuid} :
    ((state.setDb db).setScript script (.returned issued)).RotatedOut keyId ↔
      state.RotatedOut keyId ∨ keyId ∈ issued.replaced := by
  constructor
  · rintro ⟨other, found, hreturned, hmem⟩
    by_cases hsame : other = script
    · subst hsame
      rw [setScript_self] at hreturned
      cases hreturned
      exact .inr hmem
    · rw [setScript_of_ne _ hsame] at hreturned
      exact .inl ⟨other, found, hreturned, hmem⟩
  · rintro (⟨other, found, hreturned, hmem⟩ | hmem)
    · exact ⟨other, found, returned_setScript hopen hreturned, hmem⟩
    · exact ⟨script, issued, setScript_self _, hmem⟩

end ProvisioningState

/-- The rows of a key that a script has returned. -/
structure IssuedKey.Stored (sha256 : Bytes → String) (issued : IssuedKey)
    (state : ProvisioningState) : Prop where
  form : matchesTokenPattern issued.rawKey = true
  slug : issued.rotation.tenant.slug = issued.rotation.slug
  active : issued.rotation.tenant.active = true
  actor : issued.rotation.provision.actorRef ≠ some ""
  tenant : issued.rotation.tenant ∈ state.db.tenants
  key : ∃ keyHash, hashApiKey sha256 issued.rawKey = .ok keyHash ∧ ∃ key ∈ state.db.apiKeys,
    { key with isActive := true } = issued.rotation.apiKey issued.keyId issued.rawKey keyHash ∧
      (key.isActive = true ↔ ¬ state.RotatedOut issued.keyId)

/-- What holds in every state that provisioning reaches. -/
structure ProvisioningInvariant (sha256 : Bytes → String) (state : ProvisioningState) :
    Prop where
  tables : state.db.WellFormed
  stands : ∀ script rotation, (state.scripts script).rotation? = some rotation →
    rotation.Stands state.db
  /-- A script finds only keys that are there, so that no later key is among them. -/
  replaced : ∀ script, ∀ keyId ∈ (state.scripts script).replaced,
    ∃ key ∈ state.db.apiKeys, key.id = keyId
  issued : ∀ script issued, state.scripts script = .returned issued → issued.Stored sha256 state

theorem Rotation.Stands.mono {rotation : Rotation} {db after : CredentialTables}
    (h : rotation.Stands db) (hkept : ∀ tenant ∈ db.tenants, TenantKept after.tenants tenant) :
    rotation.Stands after := by
  refine { h with stored := fun hnew => ?_ }
  obtain ⟨old, hold, hrow, hactive⟩ := h.stored hnew
  rcases hkept old hold with hmem | hmem
  · exact ⟨old, hmem, hrow, hactive⟩
  · exact ⟨_, hmem, hrow, .inr rfl⟩

namespace ProvisioningInvariant

open ProvisioningState

variable {sha256 : Bytes → String} {state : ProvisioningState} {script : ℕ}

/-- A step that commits nothing. -/
theorem setScript (h : ProvisioningInvariant sha256 state) {stage : ScriptState}
    (hopen : ∀ issued, state.scripts script ≠ .returned issued)
    (hstage : ∀ issued, stage ≠ .returned issued)
    (hstands : ∀ rotation, stage.rotation? = some rotation → rotation.Stands state.db)
    (hreplaced : ∀ keyId ∈ stage.replaced, ∃ key ∈ state.db.apiKeys, key.id = keyId) :
    ProvisioningInvariant sha256 (state.setScript script stage) where
  tables := h.tables
  stands other rotation hother := by
    by_cases hsame : other = script
    · rw [hsame, setScript_self] at hother
      exact hstands rotation hother
    · rw [setScript_of_ne state hsame] at hother
      exact h.stands other rotation hother
  replaced other := by
    by_cases hsame : other = script
    · rw [hsame, setScript_self]
      exact hreplaced
    · rw [setScript_of_ne state hsame]
      exact h.replaced other
  issued other issued hreturned := by
    obtain ⟨form, slug, active, actor, tenant, keyHash, hhash, key, hkey, hrow, hactive⟩ :=
      h.issued other issued ((returned_setScript_iff hopen hstage).1 hreturned)
    exact ⟨form, slug, active, actor, tenant, keyHash, hhash, key, hkey, hrow,
      hactive.trans (not_congr (rotatedOut_setScript_iff hopen hstage)).symm⟩

section Commit

variable {rotation : Rotation} {replaced : List Uuid} {keyId : Uuid} {random : Vector UInt8 32}
  {db : CredentialTables} {issued : IssuedKey}

theorem wellFormed_commit (h : state.db.WellFormed)
    (hcommit : rotation.commit sha256 replaced keyId random state.db = .ok (db, issued)) :
    db.WellFormed := by
  obtain ⟨keyHash, -, -, htenants, hkeys⟩ := Rotation.commit_eq_ok hcommit
  have hfresh := (storeKey_eq_some hkeys).1
  obtain ⟨htenantId, htenantSlug⟩ :=
    Rotation.storeTenant_unique h.tenant_id h.tenant_slug htenants
  exact ⟨htenantId, htenantSlug,
    storeKey_unique (fun _ => rfl) h.key_id (fun other hother => (hfresh other hother).1) hkeys,
    storeKey_unique (fun _ => rfl) h.key_hash (fun other hother => (hfresh other hother).2) hkeys⟩

/-- A key that has been returned before goes out of use if the script has found it. -/
theorem stored_commit {earlier : IssuedKey} (h : earlier.Stored sha256 state)
    (hopen : ∀ issued, state.scripts script ≠ .returned issued)
    (hcommit : rotation.commit sha256 replaced keyId random state.db = .ok (db, issued)) :
    earlier.Stored sha256 ((state.setDb db).setScript script (.returned issued)) := by
  obtain ⟨_, -, rfl, htenants, hkeys⟩ := Rotation.commit_eq_ok hcommit
  obtain ⟨form, slug, active, actor, tenant, keyHash, hhash, key, hkey, hrow, hactive⟩ := h
  obtain ⟨later, hlater, -, hsameRow, hlaterActive⟩ := storeKey_keeps hkeys hkey
  have hkeyId : key.id = earlier.keyId := congrArg ApiKey.id hrow
  have htenant : earlier.rotation.tenant ∈ db.tenants := by
    rcases Rotation.storeTenant_keeps htenants tenant with hmem | hmem
    · exact hmem
    · have hsame : { earlier.rotation.tenant with active := true } = earlier.rotation.tenant := by
        rw [← active]
      exact hsame ▸ hmem
  refine ⟨form, slug, active, actor, htenant, keyHash, hhash, later, hlater,
    hsameRow.trans hrow, ?_⟩
  rw [hlaterActive, hactive, rotatedOut_commit_iff hopen db, hkeyId, not_or]

/-- The new key is in use, since no script has found it. -/
theorem stored_of_commit (h : ProvisioningInvariant sha256 state)
    (hread : state.scripts script = .keysRead rotation replaced)
    (hcommit : rotation.commit sha256 replaced keyId random state.db = .ok (db, issued)) :
    issued.Stored sha256 ((state.setDb db).setScript script (.returned issued)) := by
  obtain ⟨keyHash, hhash, rfl, htenants, hkeys⟩ := Rotation.commit_eq_ok hcommit
  have hfresh := (storeKey_eq_some hkeys).1
  have hstands : rotation.Stands state.db := h.stands script rotation (by rw [hread]; rfl)
  have hnot : ∀ other, keyId ∉ (state.scripts other).replaced := by
    intro other hmem
    obtain ⟨key, hkey, hid⟩ := h.replaced other keyId hmem
    exact (hfresh key hkey).1 hid
  refine ⟨generateApiKey_matches random, hstands.slug, hstands.active, hstands.actor,
    Rotation.storeTenant_stored hstands htenants, keyHash, hhash, _, storeKey_new hkeys, rfl,
    iff_of_true rfl ?_⟩
  rw [rotatedOut_commit_iff (by simp [hread]) db]
  rintro (⟨other, found, hreturned, hmem⟩ | hmem)
  · exact hnot other (by rwa [hreturned])
  · exact hnot script (by rwa [hread])

theorem commit (h : ProvisioningInvariant sha256 state)
    (hread : state.scripts script = .keysRead rotation replaced)
    (hcommit : rotation.commit sha256 replaced keyId random state.db = .ok (db, issued)) :
    ProvisioningInvariant sha256 ((state.setDb db).setScript script (.returned issued)) := by
  have hopen : ∀ issued, state.scripts script ≠ .returned issued := by simp [hread]
  obtain ⟨_, -, rfl, htenants, hkeys⟩ := Rotation.commit_eq_ok hcommit
  have hkeyKept : ∀ other, ∀ id ∈ (state.scripts other).replaced,
      ∃ key ∈ db.apiKeys, key.id = id := by
    intro other id hmem
    obtain ⟨key, hkey, rfl⟩ := h.replaced other id hmem
    obtain ⟨later, hlater, hid, -⟩ := storeKey_keeps hkeys hkey
    exact ⟨later, hlater, hid⟩
  refine ⟨wellFormed_commit h.tables hcommit, fun other found hother => ?_,
    fun other id hmem => ?_, fun other found hreturned => ?_⟩
  · by_cases hsame : other = script
    · rw [hsame, setScript_self] at hother
      cases hother
    · rw [setScript_of_ne _ hsame] at hother
      exact (h.stands other found hother).mono fun _ => Rotation.storeTenant_keeps htenants
  · by_cases hsame : other = script
    · rw [hsame, setScript_self] at hmem
      exact hkeyKept script id (by rwa [hread])
    · rw [setScript_of_ne _ hsame] at hmem
      exact hkeyKept other id hmem
  · by_cases hsame : other = script
    · rw [hsame, setScript_self] at hreturned
      cases hreturned
      exact h.stored_of_commit hread hcommit
    · rw [setScript_of_ne _ hsame] at hreturned
      exact stored_commit (h.issued other found hreturned) hopen hcommit

end Commit

theorem step (h : ProvisioningInvariant sha256 state) {next : ProvisioningState}
    (hmove : ProvisioningMove sha256 state next) : ProvisioningInvariant sha256 next := by
  cases hmove with
  | starts hidle hstands =>
      refine h.setScript (by simp [hidle]) nofun (fun _ hrotation => ?_) nofun
      cases hrotation
      exact hstands
  | selects hread =>
      refine h.setScript (by simp [hread]) nofun (fun _ hrotation => ?_) fun keyId hmem => ?_
      · cases hrotation
        exact h.stands _ _ (by rw [hread]; rfl)
      · obtain ⟨key, hkey, hid⟩ := List.mem_map.1 hmem
        exact ⟨key, List.mem_of_mem_filter hkey, hid⟩
  | fails hopen => exact h.setScript hopen nofun nofun nofun
  | commits hread hcommit => exact h.commit hread hcommit

end ProvisioningInvariant

theorem provisioningInvariant_of_reachable {sha256 : Bytes → String} {state : ProvisioningState}
    (h : (provisioningMachine sha256).Reachable state) : ProvisioningInvariant sha256 state := by
  refine h.invariant (P := ProvisioningInvariant sha256) ?_ fun _ _ _ _ hinvariant hstep =>
    hinvariant.step (provisioningMove_of_step hstep)
  rintro start ⟨htables, hidle⟩
  refine ⟨htables, fun script rotation hrotation => ?_, fun script keyId hmem => ?_,
    fun script issued hreturned => ?_⟩
  · rw [hidle script] at hrotation
    cases hrotation
  · rw [hidle script] at hmem
    cases hmem
  · rw [hidle script] at hreturned
    cases hreturned

/-! ## Who is let in -/

namespace IssuedKey

/-- What the holder of a key in use is, where a tenant is asked for. -/
def asTenant (issued : IssuedKey) : Except AuthError Tenant :=
  match issued.rotation.provision with
  | .service => .ok issued.rotation.tenant
  | .operator _ => .error (.http ⟨401, "Invalid API key"⟩)

/-- What the holder of a key in use is, where an operator is asked for. -/
def asOperator (issued : IssuedKey) : Except AuthError AuthenticatedOperator :=
  match issued.rotation.provision with
  | .service => .error (.http ⟨401, "Invalid operator API key"⟩)
  | .operator actorRef => .ok ⟨issued.rotation.tenant.id, actorRef, issued.keyId⟩

end IssuedKey

section Holders

open CredentialTables

variable {sha256 : Bytes → String} {state later : ProvisioningState} {script : ℕ}
  {issued : IssuedKey}

/-- A key that has been returned stays so. -/
theorem ProvisioningMove.returned (hmove : ProvisioningMove sha256 state later)
    (h : state.scripts script = .returned issued) : later.scripts script = .returned issued := by
  cases hmove with
  | starts hidle => exact ProvisioningState.returned_setScript (by simp [hidle]) h
  | selects hread => exact ProvisioningState.returned_setScript (by simp [hread]) h
  | fails hopen => exact ProvisioningState.returned_setScript hopen h
  | commits hread =>
      exact ProvisioningState.returned_setScript (by simp [ProvisioningState.setDb, hread]) h

theorem returned_later (h : (provisioningMachine sha256).Reachable state)
    (hlater : (provisioningMachine sha256).Later state later)
    (hissued : state.scripts script = .returned issued) :
    later.scripts script = .returned issued := by
  refine hlater.preorder (R := fun state later => ∀ script issued,
      state.scripts script = .returned issued → later.scripts script = .returned issued)
    (fun _ _ _ hsame => hsame) ?_ ?_ h script issued hissued
  · intro first second third hfirst hsecond script issued hreturned
    exact hsecond script issued (hfirst script issued hreturned)
  · intro state step next _ hstep script issued hreturned
    exact (provisioningMove_of_step hstep).returned hreturned

/-- What the key of a script opens depends only on whether it is in use. -/
theorem IssuedKey.Stored.authenticates (h : issued.Stored sha256 state)
    (htables : state.db.WellFormed) :
    (¬ state.RotatedOut issued.keyId →
      getCurrentTenant sha256 state.db (some issued.rawKey) = issued.asTenant ∧
        getCurrentOperator sha256 state.db (some issued.rawKey) = issued.asOperator) ∧
      (state.RotatedOut issued.keyId →
        getCurrentTenant sha256 state.db (some issued.rawKey) =
            .error (.http ⟨401, "Invalid API key"⟩) ∧
          getCurrentOperator sha256 state.db (some issued.rawKey) =
            .error (.http ⟨401, "Invalid operator API key"⟩)) := by
  obtain ⟨hform, -, htenantActive, hactor, htenant, keyHash, hhash, key, hkey, hrow, hactive⟩ := h
  have hid : key.id = issued.keyId := congrArg ApiKey.id hrow
  have htenantId : key.tenantId = issued.rotation.tenant.id := congrArg ApiKey.tenantId hrow
  have hkeyHash : key.keyHash = keyHash := congrArg ApiKey.keyHash hrow
  have htype : key.principalType = issued.rotation.provision.principalType :=
    congrArg ApiKey.principalType hrow
  have hcapability : key.capability = issued.rotation.provision.capability :=
    congrArg ApiKey.capability hrow
  have hactorRef : key.actorRef = issued.rotation.provision.actorRef :=
    congrArg ApiKey.actorRef hrow
  have hjoined : (key, issued.rotation.tenant) ∈ state.db.joined :=
    mem_joined.2 ⟨hkey, htenant, htenantId⟩
  have honly : ∀ row ∈ state.db.joined, row.1.keyHash = keyHash →
      row = (key, issued.rotation.tenant) := fun row hmem hsame =>
    htables.joined_eq hmem hjoined (hsame.trans hkeyHash.symm)
  constructor
  · intro hin
    have hinUse : key.isActive = true := hactive.2 hin
    unfold IssuedKey.asTenant IssuedKey.asOperator
    cases hprovision : issued.rotation.provision with
    | service =>
        rw [hprovision] at htype hcapability
        have hservice : IsService keyHash (key, issued.rotation.tenant) :=
          ⟨hkeyHash, hinUse, htype, hcapability, htenantActive⟩
        refine ⟨getCurrentTenant_of_isService htables hform hhash hjoined hservice,
          getCurrentOperator_of_none hform hhash fun row hmem hoperator => ?_⟩
        obtain rfl := honly row hmem hoperator.1
        cases htype.symm.trans hoperator.2.2.1
    | operator actorRef =>
        rw [hprovision] at htype hcapability hactorRef hactor
        have hoperator : IsOperator keyHash (key, issued.rotation.tenant) :=
          ⟨hkeyHash, hinUse, htype, hcapability, by rw [hactorRef]; nofun, htenantActive⟩
        refine ⟨getCurrentTenant_of_none hform hhash fun row hmem hservice => ?_, ?_⟩
        · obtain rfl := honly row hmem hservice.1
          cases htype.symm.trans hservice.2.2.1
        · have hnonempty : actorRef ≠ "" := fun hempty => hactor (congrArg some hempty)
          rw [getCurrentOperator_of_isOperator htables hform hhash hjoined hoperator hactorRef,
            if_neg hnonempty, htenantId, hid]
  · intro hout
    have hunused : key.isActive ≠ true := fun hinUse => hactive.1 hinUse hout
    refine ⟨getCurrentTenant_of_none hform hhash fun row hmem hservice => ?_,
      getCurrentOperator_of_none hform hhash fun row hmem hoperator => ?_⟩
    · obtain rfl := honly row hmem hservice.1
      exact hunused hservice.2.1
    · obtain rfl := honly row hmem hoperator.1
      exact hunused hoperator.2.1

/-- A key that a script has returned is for the tenant that was asked for.  It lets its
holder in as what it was made for until a script that has found it in use commits, and
never again after that. -/
theorem issued_key_authenticates (h : (provisioningMachine sha256).Reachable state)
    (hissued : state.scripts script = .returned issued)
    (hlater : (provisioningMachine sha256).Later state later) :
    issued.rotation.tenant.slug = issued.rotation.slug ∧
      (¬ later.RotatedOut issued.keyId →
        getCurrentTenant sha256 later.db (some issued.rawKey) = issued.asTenant ∧
          getCurrentOperator sha256 later.db (some issued.rawKey) = issued.asOperator) ∧
      (later.RotatedOut issued.keyId →
        getCurrentTenant sha256 later.db (some issued.rawKey) =
            .error (.http ⟨401, "Invalid API key"⟩) ∧
          getCurrentOperator sha256 later.db (some issued.rawKey) =
            .error (.http ⟨401, "Invalid operator API key"⟩)) ∧
      (state.RotatedOut issued.keyId → later.RotatedOut issued.keyId) := by
  have hinvariant := provisioningInvariant_of_reachable (hlater.reachable h)
  have hstored := hinvariant.issued script issued (returned_later h hlater hissued)
  obtain ⟨hin, hout⟩ := hstored.authenticates hinvariant.tables
  refine ⟨hstored.slug, hin, hout, ?_⟩
  rintro ⟨other, found, hreturned, hmem⟩
  exact ⟨other, found, returned_later h hlater hreturned, hmem⟩

/-- No request leads to an exception other than 401, and none is let in both as a tenant
and as an operator. -/
theorem requests_answered (h : (provisioningMachine sha256).Reachable state)
    (xApiKey : Option PyText) :
    (getCurrentTenant sha256 state.db xApiKey = .error (.http ⟨401, "Invalid API key"⟩) ∨
      ∃ tenant ∈ state.db.tenants, tenant.active = true ∧
        getCurrentTenant sha256 state.db xApiKey = .ok tenant) ∧
    (getCurrentOperator sha256 state.db xApiKey =
        .error (.http ⟨401, "Invalid operator API key"⟩) ∨
      ∃ operator, ∃ tenant ∈ state.db.tenants, tenant.active = true ∧
        operator.tenantId = tenant.id ∧
        getCurrentOperator sha256 state.db xApiKey = .ok operator) ∧
    (getCurrentTenant sha256 state.db xApiKey = .error (.http ⟨401, "Invalid API key"⟩) ∨
      getCurrentOperator sha256 state.db xApiKey =
        .error (.http ⟨401, "Invalid operator API key"⟩)) := by
  have htables := (provisioningInvariant_of_reachable h).tables
  rcases getCurrentTenant_answers htables sha256 xApiKey with hrefused |
    ⟨rawKey, keyHash, row, hrow, hkey, hhash, hservice, htenant⟩
  · refine ⟨.inl hrefused, ?_, .inl hrefused⟩
    rcases getCurrentOperator_answers htables sha256 xApiKey with hrefused |
      ⟨_, _, actorRef, row, hrow, -, -, hoperator, -, hanswer⟩
    · exact .inl hrefused
    · obtain ⟨-, hmem, hid⟩ := mem_joined.1 hrow
      exact .inr ⟨_, row.2, hmem, hoperator.2.2.2.2.2, hid, hanswer⟩
  · obtain ⟨-, hmem, -⟩ := mem_joined.1 hrow
    have hnotOperator : getCurrentOperator sha256 state.db xApiKey =
        .error (.http ⟨401, "Invalid operator API key"⟩) := by
      rcases getCurrentOperator_answers htables sha256 xApiKey with hrefused |
        ⟨other, otherHash, -, otherRow, hotherRow, hsame, hotherHash, hoperator, -, -⟩
      · exact hrefused
      · -- the hash is that of one row, whose kind is one of the two
        obtain rfl := Option.some.inj (hkey.symm.trans hsame)
        have hhashes : keyHash = otherHash := Except.ok.inj (hhash.symm.trans hotherHash)
        obtain rfl := htables.joined_eq hrow hotherRow
          (hservice.1.trans (hhashes.trans hoperator.1.symm))
        cases hservice.2.2.1.symm.trans hoperator.2.2.1
    exact ⟨.inr ⟨row.2, hmem, hservice.2.2.2.2, htenant⟩, .inl hnotOperator, .inr hnotOperator⟩

end Holders

/-! ### Two scripts -/

/-- The hashes of two keys, which differ in their last character. -/
def exampleDigests (bytes : Bytes) : String :=
  if bytes.getLast? = some 0x38 then
    "ce24c170f47cc299bcfc0a6318323e6b0bef06d0ae7dc5b79bc0c09ba91a8ca4"
  else "7c02713014568e7c6a23ccce8e98f0d6e165f7f779f274859610460060faf803"

def unseeded : ProvisioningState := ⟨⟨[], []⟩, fun _ => .notStarted⟩

/-- A tenant gets a key, and then another in its place. -/
def firstSeed : List ProvisioningStep :=
  [.seedDemoTenant 0 "north" 1, .selectKeys 0, .commit 0 5 (Vector.replicate 32 0)]

def secondSeed : List ProvisioningStep :=
  [.seedDemoTenant 1 "north" 2, .selectKeys 1, .commit 1 6 (Vector.replicate 32 255)]

def seededState : ProvisioningState :=
  ((provisioningMachine exampleDigests).run unseeded firstSeed).getD unseeded

def reseededState : ProvisioningState :=
  ((provisioningMachine exampleDigests).run seededState secondSeed).getD seededState

theorem unseeded_reachable : (provisioningMachine exampleDigests).Reachable unseeded :=
  .initial ⟨⟨.nil, .nil, .nil, .nil⟩, fun _ => rfl⟩

theorem run_firstSeed : (provisioningMachine exampleDigests).run unseeded firstSeed =
    some seededState := rfl

theorem run_secondSeed : (provisioningMachine exampleDigests).run seededState secondSeed =
    some reseededState := by
  have hruns : ((provisioningMachine exampleDigests).run seededState secondSeed).isSome = true := by
    decide +kernel
  obtain ⟨final, hfinal⟩ := Option.isSome_iff_exists.1 hruns
  rw [reseededState, hfinal]
  rfl

theorem seededState_reachable : (provisioningMachine exampleDigests).Reachable seededState :=
  unseeded_reachable.run firstSeed run_firstSeed

/-- The first key is let in until the second script has committed. -/
theorem issued_key_authenticates_replaced : ∃ issued,
    seededState.scripts 0 = .returned issued ∧
      getCurrentTenant exampleDigests seededState.db (some issued.rawKey) =
        .ok ⟨1, "north", "Demo tenant", true⟩ ∧
      reseededState.RotatedOut issued.keyId ∧
      getCurrentTenant exampleDigests reseededState.db (some issued.rawKey) =
        .error (.http ⟨401, "Invalid API key"⟩) := by
  have hissued : seededState.scripts 0 = .returned ⟨demoTenant "north" 1 unseeded.db, [], 5,
      generateApiKey (Vector.replicate 32 0)⟩ := rfl
  have hidle : ∀ script, script ≠ 0 → seededState.scripts script = .notStarted := fun script hne =>
    (ProvisioningState.setScript_of_ne _ hne).trans
      ((ProvisioningState.setScript_of_ne _ hne).trans
        (ProvisioningState.setScript_of_ne unseeded hne))
  have hinUse : ¬ seededState.RotatedOut 5 := by
    rintro ⟨script, found, hreturned, hmem⟩
    by_cases hfirst : script = 0
    · rw [hfirst, hissued] at hreturned
      cases hreturned
      cases hmem
    · rw [hidle script hfirst] at hreturned
      cases hreturned
  have hsecond : reseededState.scripts 1 = .returned ⟨demoTenant "north" 2 seededState.db, [5], 6,
      generateApiKey (Vector.replicate 32 255)⟩ := by decide +kernel
  have hout : reseededState.RotatedOut 5 := ⟨1, _, hsecond, List.mem_cons_self⟩
  have hbefore := issued_key_authenticates seededState_reachable hissued (.refl _ _)
  have hafter := issued_key_authenticates seededState_reachable hissued
    (.of_run secondSeed run_secondSeed)
  exact ⟨_, hissued, (hbefore.2.1 hinUse).1, hout, (hafter.2.2.1 hout).1⟩

/-- The second key lets nobody in as an operator. -/
theorem requests_answered_reseeded :
    getCurrentTenant exampleDigests reseededState.db
        (some (generateApiKey (Vector.replicate 32 255))) =
      .error (.http ⟨401, "Invalid API key"⟩) ∨
    getCurrentOperator exampleDigests reseededState.db
        (some (generateApiKey (Vector.replicate 32 255))) =
      .error (.http ⟨401, "Invalid operator API key"⟩) :=
  (requests_answered (seededState_reachable.run secondSeed run_secondSeed) _).2.2

end IntegraIntake
