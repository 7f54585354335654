import IntegraIntake.Auth.InboundWebhook
import IntegraIntake.Database.Schema
import IntegraIntake.Library.Base64

/-!
# API keys

`app/auth/api_keys.py`: how a key is made, and how a request with one is authenticated.
A key stands in the database as its hash, with the principal that it is for: the service
of a tenant, or an operator who decides approvals.  SHA-256 is the parameter `sha256`, from
bytes to the hexadecimal digest.
-/

namespace IntegraIntake

open Library InboundWebhook

/-! ## The tables -/

/-- A tenant.  The check on the status allows two values. -/
structure Tenant where
  id : Uuid
  slug : String
  name : String
  active : Bool
  deriving DecidableEq

/-- The `principal_type` of a key. -/
inductive PrincipalType where
  | service | operator
  deriving DecidableEq, Repr

/-- The `capability` of a key. -/
inductive Capability where
  | none | approvalDecider
  deriving DecidableEq, Repr

/-- `ApiKey`. -/
structure ApiKey where
  id : Uuid
  tenantId : Uuid
  keyPrefix : PyText
  keyHash : String
  isActive : Bool
  principalType : PrincipalType
  capability : Capability
  actorRef : Option String
  deriving DecidableEq

/-- The two tables that authentication reads. -/
structure CredentialTables where
  tenants : List Tenant
  apiKeys : List ApiKey

/-! ## Keys -/

/-- `ik_`. -/
def apiKeyPrefix : PyText := PyText.ofString "ik_"

/-- `API_KEY_TOKEN_LENGTH`. -/
def apiKeyTokenLength : ℕ := 43

/-- `SAFE_PREFIX_LENGTH`. -/
def safePrefixLength : ℕ := 11

/-- `[A-Za-z0-9_-]`. -/
def isTokenChar (c : CodePoint) : Bool :=
  (0x41 ≤ c.val && c.val ≤ 0x5A) || (0x61 ≤ c.val && c.val ≤ 0x7A) ||
    (0x30 ≤ c.val && c.val ≤ 0x39) || c.val == 0x5F || c.val == 0x2D

/-- `API_KEY_TOKEN_PATTERN.fullmatch`. -/
def matchesTokenPattern (rawKey : PyText) : Bool :=
  rawKey.take 3 == apiKeyPrefix && (rawKey.drop 3).length == apiKeyTokenLength &&
    (rawKey.drop 3).all isTokenChar

/-- `hash_api_key`. -/
def hashApiKey (sha256 : Bytes → String) (rawKey : PyText) : Except SigningError String :=
  (encodeUtf8 rawKey).map sha256

/-- A character of base64 in the alphabet for URLs. -/
def urlsafeChar (c : Char) : Char :=
  if c = '+' then '-' else if c = '/' then '_' else c

/-- `secrets.token_urlsafe(32)` for the bytes that were drawn. -/
def tokenUrlsafe (random : Vector UInt8 32) : PyText :=
  (((Base64.encode random.toList).map urlsafeChar).filter (· ≠ '=')).map CodePoint.ofChar

/-- The raw key of `generate_api_key`. -/
def generateApiKey (random : Vector UInt8 32) : PyText := apiKeyPrefix ++ tokenUrlsafe random

/-! ## A key that is made -/

/-- Every character that base64 writes is one of a token. -/
theorem isTokenChar_urlsafe : ∀ bits < 64,
    isTokenChar (CodePoint.ofChar (urlsafeChar (Base64.char bits))) = true := by decide

theorem urlsafeChar_eq_pad_iff (c : Char) : urlsafeChar c = '=' ↔ c = '=' := by
  unfold urlsafeChar
  split
  · rename_i h
    simp [h]
  · split
    · rename_i h
      simp [h]
    · rfl

theorem tokenUrlsafe_eq (random : Vector UInt8 32) : tokenUrlsafe random =
    ((Base64.encode random.toList).filter (· ≠ '=')).map
      fun c => CodePoint.ofChar (urlsafeChar c) := by
  rw [tokenUrlsafe, List.filter_map, List.map_map]
  congr 1
  refine List.filter_congr fun c _ => ?_
  simp [urlsafeChar_eq_pad_iff]

theorem length_tokenUrlsafe (random : Vector UInt8 32) :
    (tokenUrlsafe random).length = apiKeyTokenLength := by
  rw [tokenUrlsafe_eq, List.length_map, Base64.length_unpadded, Vector.length_toList]
  rfl

theorem isTokenChar_of_mem {random : Vector UInt8 32} {c : CodePoint}
    (h : c ∈ tokenUrlsafe random) : isTokenChar c = true := by
  rw [tokenUrlsafe_eq] at h
  obtain ⟨written, hwritten, rfl⟩ := List.mem_map.1 h
  obtain ⟨hencoded, hnot⟩ := List.mem_filter.1 hwritten
  rcases Base64.isBase64_of_mem_encode hencoded with rfl | ⟨bits, hbits, rfl⟩
  · exact absurd rfl (of_decide_eq_true hnot)
  · exact isTokenChar_urlsafe bits hbits

/-- A key that is made has the form that authentication asks for. -/
theorem generateApiKey_matches (random : Vector UInt8 32) :
    matchesTokenPattern (generateApiKey random) = true := by
  have hlength : apiKeyPrefix.length = 3 := rfl
  have htake : (generateApiKey random).take 3 = apiKeyPrefix := List.take_left' hlength
  have hdrop : (generateApiKey random).drop 3 = tokenUrlsafe random := List.drop_left' hlength
  have hall : (tokenUrlsafe random).all isTokenChar = true :=
    List.all_eq_true.2 fun _ => isTokenChar_of_mem
  rw [matchesTokenPattern, htake, hdrop, length_tokenUrlsafe, hall]
  simp

theorem isSurrogate_of_isTokenChar {c : CodePoint} (h : isTokenChar c = true) :
    c.isSurrogate = false := by
  have hle : c.val ≤ 0x7A := by
    simp only [isTokenChar, Bool.or_eq_true, Bool.and_eq_true, decide_eq_true_eq,
      beq_iff_eq] at h
    omega
  have hnot : ¬ 0xD800 ≤ c.val := by omega
  simp [CodePoint.isSurrogate, hnot]

/-- A text of that form can be encoded, so that it has a hash. -/
theorem hashApiKey_of_matches {rawKey : PyText} (h : matchesTokenPattern rawKey = true)
    (sha256 : Bytes → String) : ∃ keyHash, hashApiKey sha256 rawKey = .ok keyHash := by
  have hencodable : rawKey.encodable = true := by
    simp only [matchesTokenPattern, Bool.and_eq_true, beq_iff_eq] at h
    have hmark : apiKeyPrefix.encodable = true := PyText.encodable_ofString _
    rw [← List.take_append_drop 3 rawKey, h.1.1, PyText.encodable, List.all_append,
      Bool.and_eq_true]
    refine ⟨hmark, List.all_eq_true.2 fun c hc => ?_⟩
    rw [isSurrogate_of_isTokenChar (List.all_eq_true.1 h.2 c hc)]
    rfl
  rw [hashApiKey, encodeUtf8, PyText.toString?, if_pos hencodable]
  exact ⟨_, rfl⟩

/-! ## Authentication -/

/-- `HTTPException`. -/
structure HttpException where
  statusCode : ℕ
  detail : String
  deriving DecidableEq, Repr

/-- What authentication raises. -/
inductive AuthError where
  | http (error : HttpException)
  | multipleResultsFound
  | unicodeEncodeError
  deriving DecidableEq, Repr

/-- `scalar_one_or_none`. -/
def scalarOneOrNone {α : Type} : List α → Except AuthError (Option α)
  | [] => .ok none
  | [row] => .ok (some row)
  | _ => .error .multipleResultsFound

/-- The hash of a key that a request brings. -/
def requestedHash (sha256 : Bytes → String) (rawKey : PyText) : Except AuthError String :=
  match hashApiKey sha256 rawKey with
  | .ok digest => .ok digest
  | .error _ => .error .unicodeEncodeError

namespace CredentialTables

/-- The rows of keys joined with their tenants. -/
def joined (db : CredentialTables) : List (ApiKey × Tenant) :=
  db.apiKeys.flatMap fun key =>
    (db.tenants.filter fun tenant => key.tenantId = tenant.id).map fun tenant => (key, tenant)

/-- The condition of `_resolve_active_tenant`. -/
def IsService (keyHash : String) (row : ApiKey × Tenant) : Prop :=
  row.1.keyHash = keyHash ∧ row.1.isActive = true ∧ row.1.principalType = .service ∧
    row.1.capability = .none ∧ row.2.active = true

/-- The condition of `get_current_operator`. -/
def IsOperator (keyHash : String) (row : ApiKey × Tenant) : Prop :=
  row.1.keyHash = keyHash ∧ row.1.isActive = true ∧ row.1.principalType = .operator ∧
    row.1.capability = .approvalDecider ∧ row.1.actorRef ≠ none ∧ row.2.active = true

instance (keyHash : String) (row : ApiKey × Tenant) : Decidable (IsService keyHash row) :=
  inferInstanceAs (Decidable (_ ∧ _))

instance (keyHash : String) (row : ApiKey × Tenant) : Decidable (IsOperator keyHash row) :=
  inferInstanceAs (Decidable (_ ∧ _))

end CredentialTables

/-- `_resolve_active_tenant`. -/
def resolveActiveTenant (sha256 : Bytes → String) (db : CredentialTables) (rawKey : PyText) :
    Except AuthError (Option Tenant) :=
  match requestedHash sha256 rawKey with
  | .error error => .error error
  | .ok keyHash =>
    scalarOneOrNone ((db.joined.filter fun row =>
      CredentialTables.IsService keyHash row).map Prod.snd)

/-- `get_current_tenant`. -/
def getCurrentTenant (sha256 : Bytes → String) (db : CredentialTables)
    (xApiKey : Option PyText) : Except AuthError Tenant :=
  match xApiKey.filter matchesTokenPattern with
  | none => .error (.http ⟨401, "Invalid API key"⟩)
  | some rawKey =>
    match resolveActiveTenant sha256 db rawKey with
    | .error error => .error error
    | .ok none => .error (.http ⟨401, "Invalid API key"⟩)
    | .ok (some tenant) => .ok tenant

/-- `AuthenticatedOperator`. -/
structure AuthenticatedOperator where
  tenantId : Uuid
  actorRef : String
  credentialId : Uuid
  deriving DecidableEq

/-- `get_current_operator`. -/
def getCurrentOperator (sha256 : Bytes → String) (db : CredentialTables)
    (xApiKey : Option PyText) : Except AuthError AuthenticatedOperator :=
  match xApiKey.filter matchesTokenPattern with
  | none => .error (.http ⟨401, "Invalid operator API key"⟩)
  | some rawKey =>
    match requestedHash sha256 rawKey with
    | .error error => .error error
    | .ok keyHash =>
      match scalarOneOrNone ((db.joined.filter fun row =>
        CredentialTables.IsOperator keyHash row).map Prod.fst) with
      | .error error => .error error
      | .ok none => .error (.http ⟨401, "Invalid operator API key"⟩)
      | .ok (some credential) =>
        match credential.actorRef with
        | none => .error (.http ⟨401, "Invalid operator API key"⟩)
        | some actorRef =>
          if actorRef = "" then .error (.http ⟨401, "Invalid operator API key"⟩)
          else .ok ⟨credential.tenantId, actorRef, credential.id⟩

/-! ## What a request is answered -/

namespace CredentialTables

/-- The constraints of the two tables. -/
structure WellFormed (db : CredentialTables) : Prop where
  tenant_id : Table.Unique Tenant.id db.tenants
  tenant_slug : Table.Unique Tenant.slug db.tenants
  key_id : Table.Unique ApiKey.id db.apiKeys
  key_hash : Table.Unique ApiKey.keyHash db.apiKeys

variable {db : CredentialTables} {row other : ApiKey × Tenant} {keyHash : String}

theorem mem_joined : row ∈ db.joined ↔
    row.1 ∈ db.apiKeys ∧ row.2 ∈ db.tenants ∧ row.1.tenantId = row.2.id := by
  obtain ⟨key, tenant⟩ := row
  simp only [joined, List.mem_flatMap, List.mem_map, List.mem_filter, decide_eq_true_eq,
    Prod.mk.injEq]
  constructor
  · rintro ⟨key, hkey, tenant, ⟨htenant, hid⟩, rfl, rfl⟩
    exact ⟨hkey, htenant, hid⟩
  · rintro ⟨hkey, htenant, hid⟩
    exact ⟨key, hkey, tenant, ⟨htenant, hid⟩, rfl, rfl⟩

theorem WellFormed.nodup_joined (h : db.WellFormed) : db.joined.Nodup := by
  have hkeys : db.apiKeys.Nodup := h.key_id.of_map
  have htenants : db.tenants.Nodup := h.tenant_id.of_map
  refine List.nodup_flatMap.2 ⟨fun key _ => ?_, hkeys.imp fun hne => ?_⟩
  · exact (htenants.filter _).map (Prod.mk_right_injective key)
  · rintro ⟨key, tenant⟩ hleft hright
    obtain ⟨_, -, hfirst⟩ := List.mem_map.1 hleft
    obtain ⟨_, -, hsecond⟩ := List.mem_map.1 hright
    exact hne ((Prod.mk.inj hfirst).1.trans (Prod.mk.inj hsecond).1.symm)

/-- A hash belongs to one key of one tenant. -/
theorem WellFormed.joined_eq (h : db.WellFormed) (hrow : row ∈ db.joined)
    (hother : other ∈ db.joined) (hhash : row.1.keyHash = other.1.keyHash) : row = other := by
  obtain ⟨hkey, htenant, hid⟩ := mem_joined.1 hrow
  obtain ⟨hotherKey, hotherTenant, hotherId⟩ := mem_joined.1 hother
  have hsame : row.1 = other.1 := h.key_hash.eq hkey hotherKey hhash
  have htenants : row.2.id = other.2.id := by rw [← hid, hsame, hotherId]
  exact Prod.ext hsame (h.tenant_id.eq htenant hotherTenant htenants)

/-- A select by the hash has the one row that it asks for. -/
theorem WellFormed.select_eq (h : db.WellFormed) {p : ApiKey × Tenant → Prop} [DecidablePred p]
    (hp : ∀ row, p row → row.1.keyHash = keyHash) (hrow : row ∈ db.joined) (hmeets : p row) :
    (db.joined.filter fun row => p row) = [row] :=
  Table.filter_eq_singleton h.nodup_joined hrow (decide_eq_true hmeets) fun other hother hsame =>
    h.joined_eq hother hrow ((hp other (of_decide_eq_true hsame)).trans (hp row hmeets).symm)

theorem select_eq_nil {p : ApiKey × Tenant → Prop} [DecidablePred p]
    (hnone : ∀ row ∈ db.joined, ¬ p row) : (db.joined.filter fun row => p row) = [] :=
  List.filter_eq_nil_iff.2 fun row hrow => by simpa using hnone row hrow

end CredentialTables

section Answers

open CredentialTables

variable {sha256 : Bytes → String} {db : CredentialTables} {rawKey : PyText} {keyHash : String}
  {row : ApiKey × Tenant}

theorem getCurrentTenant_of_isService (h : db.WellFormed)
    (hmatches : matchesTokenPattern rawKey = true) (hhash : hashApiKey sha256 rawKey = .ok keyHash)
    (hrow : row ∈ db.joined) (hservice : IsService keyHash row) :
    getCurrentTenant sha256 db (some rawKey) = .ok row.2 := by
  have hselect := h.select_eq (fun _ hmeets => hmeets.1) hrow hservice
  simp only [getCurrentTenant, Option.filter_some, hmatches, if_true, resolveActiveTenant,
    requestedHash, hhash, hselect, List.map_cons, List.map_nil, scalarOneOrNone]

theorem getCurrentTenant_of_none (hmatches : matchesTokenPattern rawKey = true)
    (hhash : hashApiKey sha256 rawKey = .ok keyHash)
    (hnone : ∀ row ∈ db.joined, ¬ IsService keyHash row) :
    getCurrentTenant sha256 db (some rawKey) = .error (.http ⟨401, "Invalid API key"⟩) := by
  have hselect := select_eq_nil hnone
  simp only [getCurrentTenant, Option.filter_some, hmatches, if_true, resolveActiveTenant,
    requestedHash, hhash, hselect, List.map_nil, scalarOneOrNone]

theorem getCurrentOperator_of_isOperator (h : db.WellFormed)
    (hmatches : matchesTokenPattern rawKey = true) (hhash : hashApiKey sha256 rawKey = .ok keyHash)
    (hrow : row ∈ db.joined) (hoperator : IsOperator keyHash row) {actorRef : String}
    (hactor : row.1.actorRef = some actorRef) :
    getCurrentOperator sha256 db (some rawKey) =
      if actorRef = "" then .error (.http ⟨401, "Invalid operator API key"⟩)
      else .ok ⟨row.1.tenantId, actorRef, row.1.id⟩ := by
  have hselect := h.select_eq (fun _ hmeets => hmeets.1) hrow hoperator
  simp only [getCurrentOperator, Option.filter_some, hmatches, if_true, requestedHash, hhash,
    hselect, List.map_cons, List.map_nil, scalarOneOrNone, hactor]

theorem getCurrentOperator_of_none (hmatches : matchesTokenPattern rawKey = true)
    (hhash : hashApiKey sha256 rawKey = .ok keyHash)
    (hnone : ∀ row ∈ db.joined, ¬ IsOperator keyHash row) :
    getCurrentOperator sha256 db (some rawKey) =
      .error (.http ⟨401, "Invalid operator API key"⟩) := by
  have hselect := select_eq_nil hnone
  simp only [getCurrentOperator, Option.filter_some, hmatches, if_true, requestedHash, hhash,
    hselect, List.map_nil, scalarOneOrNone]

/-- A request for a tenant is let in by a service key that is in use, or it is refused. -/
theorem getCurrentTenant_answers (h : db.WellFormed) (sha256 : Bytes → String)
    (xApiKey : Option PyText) :
    getCurrentTenant sha256 db xApiKey = .error (.http ⟨401, "Invalid API key"⟩) ∨
      ∃ rawKey keyHash, ∃ row ∈ db.joined, xApiKey = some rawKey ∧
        hashApiKey sha256 rawKey = .ok keyHash ∧ IsService keyHash row ∧
        getCurrentTenant sha256 db xApiKey = .ok row.2 := by
  cases hfilter : xApiKey.filter matchesTokenPattern with
  | none => exact .inl (by simp only [getCurrentTenant, hfilter])
  | some rawKey =>
      obtain ⟨rfl, hmatches⟩ := Option.filter_eq_some_iff.1 hfilter
      obtain ⟨keyHash, hhash⟩ := hashApiKey_of_matches hmatches sha256
      by_cases hrow : ∃ row ∈ db.joined, IsService keyHash row
      · obtain ⟨row, hrow, hservice⟩ := hrow
        exact .inr ⟨rawKey, keyHash, row, hrow, rfl, hhash, hservice,
          getCurrentTenant_of_isService h hmatches hhash hrow hservice⟩
      · push Not at hrow
        exact .inl (getCurrentTenant_of_none hmatches hhash hrow)

/-- The same for an operator. -/
theorem getCurrentOperator_answers (h : db.WellFormed) (sha256 : Bytes → String)
    (xApiKey : Option PyText) :
    getCurrentOperator sha256 db xApiKey = .error (.http ⟨401, "Invalid operator API key"⟩) ∨
      ∃ rawKey keyHash actorRef, ∃ row ∈ db.joined, xApiKey = some rawKey ∧
        hashApiKey sha256 rawKey = .ok keyHash ∧ IsOperator keyHash row ∧
        row.1.actorRef = some actorRef ∧
        getCurrentOperator sha256 db xApiKey = .ok ⟨row.1.tenantId, actorRef, row.1.id⟩ := by
  cases hfilter : xApiKey.filter matchesTokenPattern with
  | none => exact .inl (by simp only [getCurrentOperator, hfilter])
  | some rawKey =>
      obtain ⟨rfl, hmatches⟩ := Option.filter_eq_some_iff.1 hfilter
      obtain ⟨keyHash, hhash⟩ := hashApiKey_of_matches hmatches sha256
      by_cases hrow : ∃ row ∈ db.joined, IsOperator keyHash row
      · obtain ⟨row, hrow, hoperator⟩ := hrow
        obtain ⟨actorRef, hactor⟩ := Option.ne_none_iff_exists'.1 hoperator.2.2.2.2.1
        have hanswer := getCurrentOperator_of_isOperator h hmatches hhash hrow hoperator hactor
        by_cases hempty : actorRef = ""
        · exact .inl (by rw [hanswer, if_pos hempty])
        · exact .inr ⟨rawKey, keyHash, actorRef, row, hrow, rfl, hhash, hoperator, hactor, by
            rw [hanswer, if_neg hempty]⟩
      · push Not at hrow
        exact .inl (getCurrentOperator_of_none hmatches hhash hrow)

end Answers

end IntegraIntake
