import NodeNexus.Content.Formats
import NodeNexus.Core.ErrorSanitize
import NodeNexus.Lib.Table
import NodeNexus.Lib.Traverse

/-!
# Who may call

A request carries an `Authorization: Bearer` token, an `X-API-Key` header, or both;
a WebSocket carries the text of an API key.  `api/deps.py` and `v2/websocket.py`
decide what each of them may do.

* `getCurrentPrincipal`, `requireWriteOrJwtScope` — the two decisions about a
  request; a token that is there decides alone.
* `validateWsToken` — the decision about a WebSocket.
* `FailClosed` — every input is decided, the right to write is granted by three
  credentials only, and who may write may read.
* `authorization_fail_closed_iff` — this holds exactly when every text that is compared with the
  master key is ASCII, and the master key too: `hmac.compare_digest` raises
  `TypeError` on other strings.
-/

namespace NodeNexus
namespace Authorization

open Content (Formats Uuid)
open Node (DomainErrorClass)
open NodeNexus.Core (domainErrorStatus)

/-! ## API keys -/

/-- A moment, in microseconds. -/
abbrev Moment : Type := Int

/-- The scopes that the column allows. -/
inductive Scope where
  | readOnly
  | readWrite
  deriving DecidableEq

/-- A row of `api_keys`. -/
structure APIKeyModel where
  id : Uuid
  keyHash : String
  keyPrefix : String
  isActive : Bool
  scope : Scope
  expiresAt : Option Moment
  lastUsedAt : Option Moment

/-- The rows of `api_keys`. -/
abbrev KeyStore : Type := Table APIKeyModel.keyHash

/-- `touch_last_used`. -/
def touchLastUsed (store : KeyStore) (id : Uuid) (usedAt : Moment) : KeyStore :=
  store.mapRows (fun row => if row.id = id then { row with lastUsedAt := some usedAt } else row)
    fun row => by split <;> rfl

/-- The settings, and what runs outside: the hash of a key, the decoder of tokens and
the clock. -/
structure AuthEnv where
  /-- `settings.MASTER_API_KEY`; empty when it is not configured. -/
  masterApiKey : String
  hash : String → String
  /-- `jwt_handler.decode_token`; `none` when it raises. -/
  decodeToken : String → Option Json.Fields
  fmt : Formats
  now : Moment

/-! ## Failures -/

/-- What an authorization function raises. -/
inductive AuthFailure where
  | httpException (statusCode : Nat) (detail : String)
  | domainError (cls : DomainErrorClass) (text : String)
  | typeError
  deriving DecidableEq

/-- The status of the response: `TypeError` has no handler of its own. -/
def AuthFailure.status : AuthFailure → Nat
  | .httpException statusCode _ => statusCode
  | .domainError cls _ => domainErrorStatus cls
  | .typeError => 500

/-- `HTTPException(status_code=401, detail="Not authenticated")`. -/
def notAuthenticated : AuthFailure := .httpException 401 "Not authenticated"

/-! ## The master key -/

/-- `text.isascii()`. -/
def isAscii (text : String) : Bool :=
  text.toList.all fun c => c.toNat < 128

/-- `hmac.compare_digest` of two strings. -/
def compareDigest (a b : String) : Except AuthFailure Bool :=
  if isAscii a && isAscii b then .ok (a = b) else .error .typeError

/-- `settings.MASTER_API_KEY and hmac.compare_digest(text, settings.MASTER_API_KEY)`. -/
def isMaster (env : AuthEnv) (text : String) : Except AuthFailure Bool :=
  if env.masterApiKey = "" then .ok false else compareDigest text env.masterApiKey

/-! ## Keys that are presented -/

/-- `AuthenticatedPrincipal`. -/
structure AuthenticatedPrincipal where
  keyId : Uuid
  keyPrefix : String
  scope : Scope
  keyType : String := "managed"

/-- `_LAST_USED_UPDATE_INTERVAL`. -/
def lastUsedUpdateInterval : Int := 5 * 60 * 1000000

/-- `record.expires_at is not None and record.expires_at < now`. -/
def APIKeyModel.expired (record : APIKeyModel) (now : Moment) : Bool :=
  record.expiresAt.any (· < now)

/-- Is the last use that the row has too long ago? -/
def APIKeyModel.stale (record : APIKeyModel) (now : Moment) : Bool :=
  record.lastUsedAt.all fun usedAt => lastUsedUpdateInterval ≤ now - usedAt

/-- `APIKeyAuthenticationService.authenticate`. -/
def authenticate (env : AuthEnv) (store : KeyStore) (plainKey : String) :
    Except AuthFailure AuthenticatedPrincipal × KeyStore :=
  match store.find? (env.hash plainKey) with
  | none => (.error (.domainError .authenticationError "Invalid API key"), store)
  | some record =>
      if !record.isActive then
        (.error (.domainError .apiKeyRevokedError "API key has been revoked"), store)
      else if record.expired env.now then
        (.error (.domainError .apiKeyExpiredError "API key has expired"), store)
      else
        (.ok { keyId := record.id, keyPrefix := record.keyPrefix, scope := record.scope },
          if record.stale env.now then touchLastUsed store record.id env.now else store)

/-! ## Requests -/

/-- `Principal.source`. -/
inductive Source where
  | jwt
  | apiKey
  deriving DecidableEq

/-- `Principal`. -/
structure Principal where
  source : Source
  identifier : String
  deriving DecidableEq

/-- What `_decode_access_token` returns. -/
structure AccessToken where
  userId : Uuid
  claims : Json.Fields

/-- `_decode_access_token`. -/
def decodeAccessToken (env : AuthEnv) (token : String) : Except AuthFailure AccessToken :=
  match env.decodeToken token with
  | none => .error (.httpException 401 "Invalid or expired token")
  | some payload =>
      match Json.get payload "sub" with
      | none => .error (.httpException 401 "Invalid or expired token")
      | some (.str sub) =>
          match env.fmt.parseUuid sub with
          | none => .error (.httpException 401 "Invalid or expired token")
          | some userId => .ok ⟨userId, payload⟩
      | some _ => .error (.httpException 401 "Invalid token payload")

/-- Is the claim `x-api-key` of a token the master key? -/
def claimsMaster (env : AuthEnv) (claims : Json.Fields) : Except AuthFailure Bool :=
  match Json.get claims "x-api-key" with
  | some (.str claim) => isMaster env claim
  | _ => .ok false

/-- A credential that is there: `if api_key`, `if not token`. -/
def given (credential : Option String) : Option String := credential.filter (· ≠ "")

/-- What both functions do without a token: the fallback to `X-API-Key`.  A key that
is not the master key is authenticated, then `rule` decides. -/
def byApiKey (env : AuthEnv) (store : KeyStore) (apiKey : Option String)
    (rule : AuthenticatedPrincipal → Except AuthFailure Principal) :
    Except AuthFailure Principal × KeyStore :=
  match given apiKey with
  | none => (.error notAuthenticated, store)
  | some key =>
      match isMaster env key with
      | .error failure => (.error failure, store)
      | .ok true => (.ok ⟨.jwt, "master"⟩, store)
      | .ok false => ((authenticate env store key).1 >>= rule, (authenticate env store key).2)

/-- The principal of a token, to read. -/
def readByToken (env : AuthEnv) (token : String) : Except AuthFailure Principal := do
  let access ← decodeAccessToken env token
  let master ← claimsMaster env access.claims
  return if master then ⟨.jwt, "master"⟩ else ⟨.jwt, env.fmt.printUuid access.userId⟩

/-- The principal of a token, to write. -/
def writeByToken (env : AuthEnv) (token : String) : Except AuthFailure Principal := do
  let access ← decodeAccessToken env token
  if Json.truthyAt access.claims "is_superuser" then return ⟨.jwt, env.fmt.printUuid access.userId⟩
  else throw (.httpException 403 "Superuser privileges required")

/-- The principal of an API key, to read. -/
def admitRead (principal : AuthenticatedPrincipal) : Except AuthFailure Principal :=
  .ok ⟨.apiKey, principal.keyPrefix⟩

/-- The principal of an API key, to write. -/
def admitWrite (principal : AuthenticatedPrincipal) : Except AuthFailure Principal :=
  if principal.scope = .readOnly then .error (.httpException 403 "API key has read-only scope")
  else .ok ⟨.apiKey, principal.keyPrefix⟩

/-- `get_current_principal`. -/
def getCurrentPrincipal (env : AuthEnv) (store : KeyStore) (bearer apiKey : Option String) :
    Except AuthFailure Principal × KeyStore :=
  match bearer with
  | some token => (readByToken env token, store)
  | none => byApiKey env store apiKey admitRead

/-- `require_write_or_jwt_scope`. -/
def requireWriteOrJwtScope (env : AuthEnv) (store : KeyStore) (bearer apiKey : Option String) :
    Except AuthFailure Principal × KeyStore :=
  match bearer with
  | some token => (writeByToken env token, store)
  | none => byApiKey env store apiKey admitWrite

/-! ## WebSockets -/

/-- What becomes of a WebSocket. -/
inductive WsOutcome where
  | accepted
  | closed (code : Nat) (reason : String)
  deriving DecidableEq

/-- What `_validate_ws_token` makes of the answer of `authenticate`. -/
def wsOutcome : Except AuthFailure AuthenticatedPrincipal → WsOutcome
  | .ok principal =>
      if principal.scope ≠ .readWrite then .closed 4003 "Insufficient scope" else .accepted
  | .error _ => .closed 4003 "Invalid API key"

/-- `_validate_ws_token`: the master key is compared outside of the `try`. -/
def validateWsToken (env : AuthEnv) (store : KeyStore) (token : Option String) :
    Except AuthFailure WsOutcome × KeyStore :=
  match given token with
  | none => (.ok (.closed 4001 "Missing token"), store)
  | some text =>
      match isMaster env text with
      | .error failure => (.error failure, store)
      | .ok true => (.ok .accepted, store)
      | .ok false =>
          (.ok (wsOutcome (authenticate env store text).1), (authenticate env store text).2)

/-! ## What is promised -/

/-- The token names a user. -/
structure Carries (env : AuthEnv) (token : String) (access : AccessToken) : Prop where
  decoded : env.decodeToken token = some access.claims
  subject : ∃ sub, Json.get access.claims "sub" = some (.str sub) ∧
    env.fmt.parseUuid sub = some access.userId

/-- The key is stored, active and not expired. -/
structure IsValidKey (env : AuthEnv) (store : KeyStore) (key : String) (record : APIKeyModel) :
    Prop where
  stored : store.find? (env.hash key) = some record
  active : record.isActive = true
  unexpired : ∀ expiresAt, record.expiresAt = some expiresAt → env.now ≤ expiresAt

/-- What grants the right to write. -/
inductive GrantsWrite (env : AuthEnv) (store : KeyStore) (bearer apiKey : Option String) : Prop
  | superuser (token : String) (access : AccessToken) (present : bearer = some token)
      (valid : Carries env token access)
      (superuser : Json.truthyAt access.claims "is_superuser" = true)
  | masterKey (absent : bearer = none) (configured : env.masterApiKey ≠ "")
      (presented : apiKey = some env.masterApiKey)
  | readWriteKey (key : String) (record : APIKeyModel) (absent : bearer = none)
      (presented : apiKey = some key) (valid : IsValidKey env store key record)
      (scope : record.scope = .readWrite)

/-- The input is accepted or denied. -/
def Decided {α : Type} (result : Except AuthFailure α) : Prop :=
  ∀ failure, result = .error failure → failure.status = 401 ∨ failure.status = 403

/-- What is promised of the credentials of a request and the text of a WebSocket. -/
structure FailClosed (env : AuthEnv) (store : KeyStore) (bearer apiKey token : Option String) :
    Prop where
  read : Decided (getCurrentPrincipal env store bearer apiKey).1
  write : Decided (requireWriteOrJwtScope env store bearer apiKey).1
  /-- An invalid token is not replaced by the API key. -/
  invalid : ∀ text, bearer = some text → (∀ access, ¬ Carries env text access) →
    ∃ detail, (getCurrentPrincipal env store bearer apiKey).1 = .error (.httpException 401 detail) ∧
      (requireWriteOrJwtScope env store bearer apiKey).1 = .error (.httpException 401 detail)
  grants : ∀ principal, (requireWriteOrJwtScope env store bearer apiKey).1 = .ok principal →
    GrantsWrite env store bearer apiKey
  /-- Who may write may read. -/
  ordered : Returns (requireWriteOrJwtScope env store bearer apiKey).1 →
    Returns (getCurrentPrincipal env store bearer apiKey).1
  socket : Returns (validateWsToken env store token).1

/-- The master key is not configured, or `hmac.compare_digest` can compare the text
with it. -/
def Comparable (env : AuthEnv) (text : String) : Prop :=
  env.masterApiKey = "" ∨ isAscii text = true ∧ isAscii env.masterApiKey = true

/-- Every text that is compared with the master key can be: the claim `x-api-key` of a
valid token, the API key of a request without a token, and the text of a WebSocket. -/
structure ComparesText (env : AuthEnv) (bearer apiKey token : Option String) : Prop where
  claim : ∀ text, bearer = some text → ∀ access claim, Carries env text access →
    Json.get access.claims "x-api-key" = some (.str claim) → Comparable env claim
  key : bearer = none → ∀ text ∈ given apiKey, Comparable env text
  socket : ∀ text ∈ given token, Comparable env text

/-! ## The master key -/

section Master

variable {env : AuthEnv} {text : String}

theorem isMaster_of_comparable (h : Comparable env text) :
    isMaster env text = .ok (env.masterApiKey ≠ "" && text = env.masterApiKey) := by
  unfold isMaster
  by_cases hempty : env.masterApiKey = ""
  · simp [hempty]
  · obtain ⟨htext, hmaster⟩ := h.resolve_left hempty
    rw [if_neg hempty, compareDigest, htext, hmaster]
    simp [hempty]

theorem isMaster_of_not_comparable (h : ¬ Comparable env text) :
    isMaster env text = .error .typeError := by
  obtain ⟨hempty, hascii⟩ := not_or.1 h
  rw [isMaster, if_neg hempty, compareDigest, if_neg]
  rwa [Bool.and_eq_true]

theorem comparable_of_isMaster {answer : Bool} (h : isMaster env text = .ok answer) :
    Comparable env text := by
  by_contra hnot
  rw [isMaster_of_not_comparable hnot] at h
  cases h

theorem isMaster_eq_true (h : isMaster env text = .ok true) :
    env.masterApiKey ≠ "" ∧ text = env.masterApiKey := by
  rw [isMaster_of_comparable (comparable_of_isMaster h)] at h
  simpa using h

theorem returns_isMaster : Returns (isMaster env text) ↔ Comparable env text := by
  constructor
  · rintro ⟨answer, hanswer⟩
    exact comparable_of_isMaster hanswer
  · intro h
    exact ⟨_, isMaster_of_comparable h⟩

end Master

/-! ## Decisions -/

section Decisions

variable {α β : Type}

@[simp] theorem decided_ok (a : α) : Decided (.ok a : Except AuthFailure α) := by
  intro failure h
  cases h

theorem decided_error {failure : AuthFailure} :
    Decided (.error failure : Except AuthFailure α) ↔
      failure.status = 401 ∨ failure.status = 403 := by
  constructor
  · intro h
    exact h failure rfl
  · rintro h failure' hfailure'
    cases hfailure'
    exact h

theorem not_decided_typeError : ¬ Decided (.error .typeError : Except AuthFailure α) := by
  rw [decided_error]
  decide

/-- What is decided step by step is decided. -/
theorem Decided.bind {x : Except AuthFailure α} {f : α → Except AuthFailure β} (hx : Decided x)
    (hf : ∀ a, Decided (f a)) : Decided (x >>= f) := by
  cases x with
  | error failure => exact decided_error.2 (decided_error.1 hx)
  | ok a => exact hf a

/-- A comparison with the master key leaves nothing undecided but texts that it cannot
compare. -/
theorem decided_isMaster_bind {env : AuthEnv} {text : String} {f : Bool → Except AuthFailure α}
    (hf : ∀ master, Decided (f master)) :
    Decided (isMaster env text >>= f) ↔ Comparable env text := by
  constructor
  · intro h
    by_contra hnot
    rw [isMaster_of_not_comparable hnot] at h
    exact not_decided_typeError h
  · intro h
    rw [isMaster_of_comparable h]
    exact hf _

end Decisions

/-! ## Tokens -/

section Tokens

variable {env : AuthEnv} {token : String} {access : AccessToken} {claims : Json.Fields}

theorem decodeAccessToken_eq_ok :
    decodeAccessToken env token = .ok access ↔ Carries env token access := by
  unfold decodeAccessToken
  constructor
  · intro h
    split at h
    · cases h
    · rename_i payload hdecoded
      split at h
      · cases h
      · rename_i sub hsub
        split at h
        · cases h
        · rename_i userId hparsed
          cases h
          exact ⟨hdecoded, sub, hsub, hparsed⟩
      · cases h
  · rintro ⟨hdecoded, sub, hsub, hparsed⟩
    simp only [hdecoded, hsub, hparsed]

/-- A token that names no user is denied. -/
theorem decodeAccessToken_of_invalid (h : ∀ access, ¬ Carries env token access) :
    ∃ detail, decodeAccessToken env token = .error (.httpException 401 detail) := by
  cases hdecoded : decodeAccessToken env token with
  | ok access => exact absurd (decodeAccessToken_eq_ok.1 hdecoded) (h access)
  | error failure =>
      unfold decodeAccessToken at hdecoded
      split at hdecoded
      · cases hdecoded
        exact ⟨_, rfl⟩
      · split at hdecoded
        · cases hdecoded
          exact ⟨_, rfl⟩
        · split at hdecoded
          · cases hdecoded
            exact ⟨_, rfl⟩
          · cases hdecoded
        · cases hdecoded
          exact ⟨_, rfl⟩

theorem readByToken_of_carries (h : Carries env token access) :
    readByToken env token = claimsMaster env access.claims >>= fun master =>
      .ok (if master then ⟨.jwt, "master"⟩ else ⟨.jwt, env.fmt.printUuid access.userId⟩) := by
  unfold readByToken
  rw [bind_of_eq_ok (decodeAccessToken_eq_ok.2 h)]
  rfl

theorem writeByToken_of_carries (h : Carries env token access) :
    writeByToken env token =
      if Json.truthyAt access.claims "is_superuser" then
        .ok ⟨.jwt, env.fmt.printUuid access.userId⟩
      else .error (.httpException 403 "Superuser privileges required") := by
  unfold writeByToken
  rw [bind_of_eq_ok (decodeAccessToken_eq_ok.2 h)]
  rfl

/-- Both decisions about a token that names no user. -/
theorem byToken_of_invalid (h : ∀ access, ¬ Carries env token access) :
    ∃ detail, readByToken env token = .error (.httpException 401 detail) ∧
      writeByToken env token = .error (.httpException 401 detail) := by
  obtain ⟨detail, hdetail⟩ := decodeAccessToken_of_invalid h
  refine ⟨detail, ?_, ?_⟩
  · rw [readByToken, hdetail]
    rfl
  · rw [writeByToken, hdetail]
    rfl

/-- What has to be comparable of the claims of a token. -/
theorem returns_claimsMaster : Returns (claimsMaster env claims) ↔
    ∀ claim, Json.get claims "x-api-key" = some (.str claim) → Comparable env claim := by
  unfold claimsMaster
  split
  · rename_i claim hclaim
    rw [returns_isMaster, hclaim]
    simp only [Option.some.injEq, Json.str.injEq, forall_eq']
  · rename_i hnone
    exact iff_of_true (returns_ok _) fun claim hclaim => absurd hclaim (hnone claim)

theorem decided_claimsMaster_bind {f : Bool → Except AuthFailure Principal}
    (hf : ∀ master, Decided (f master)) : Decided (claimsMaster env claims >>= f) ↔
      ∀ claim, Json.get claims "x-api-key" = some (.str claim) → Comparable env claim := by
  unfold claimsMaster
  split
  · rename_i claim hclaim
    rw [decided_isMaster_bind hf, hclaim]
    simp only [Option.some.injEq, Json.str.injEq, forall_eq']
  · rename_i hnone
    exact iff_of_true (hf false) fun claim hclaim => absurd hclaim (hnone claim)

/-- A reader is decided on exactly when the claim can be compared. -/
theorem decided_readByToken : Decided (readByToken env token) ↔
    ∀ access claim, Carries env token access →
      Json.get access.claims "x-api-key" = some (.str claim) → Comparable env claim := by
  by_cases hvalid : ∃ access, Carries env token access
  · obtain ⟨access, hcarries⟩ := hvalid
    rw [readByToken_of_carries hcarries, decided_claimsMaster_bind fun _ => decided_ok _]
    constructor
    · intro h access' claim hcarries' hclaim
      have hsame : access'.claims = access.claims :=
        Option.some.inj (hcarries'.decoded.symm.trans hcarries.decoded)
      exact h claim (hsame ▸ hclaim)
    · intro h claim hclaim
      exact h access claim hcarries hclaim
  · rw [not_exists] at hvalid
    obtain ⟨detail, hread, -⟩ := byToken_of_invalid hvalid
    rw [hread]
    exact iff_of_true (decided_error.2 (.inl rfl)) fun access _ h => absurd h (hvalid access)

theorem decided_writeByToken (env : AuthEnv) (token : String) :
    Decided (writeByToken env token) := by
  by_cases hvalid : ∃ access, Carries env token access
  · obtain ⟨access, hcarries⟩ := hvalid
    rw [writeByToken_of_carries hcarries]
    split
    · exact decided_ok _
    · exact decided_error.2 (.inr rfl)
  · rw [not_exists] at hvalid
    obtain ⟨detail, -, hwrite⟩ := byToken_of_invalid hvalid
    rw [hwrite]
    exact decided_error.2 (.inl rfl)

/-- A writer with a token is a superuser. -/
theorem writeByToken_eq_ok {principal : Principal} (h : writeByToken env token = .ok principal) :
    ∃ access, Carries env token access ∧ Json.truthyAt access.claims "is_superuser" = true := by
  obtain ⟨access, hdecoded, -⟩ := bind_eq_ok.1 h
  have hcarries := decodeAccessToken_eq_ok.1 hdecoded
  refine ⟨access, hcarries, ?_⟩
  rw [writeByToken_of_carries hcarries] at h
  by_contra hnot
  rw [if_neg hnot] at h
  cases h

end Tokens

/-! ## Keys -/

section Keys

variable {env : AuthEnv} {store : KeyStore} {key : String}

theorem decided_authenticate : Decided (authenticate env store key).1 := by
  unfold authenticate
  split
  · exact decided_error.2 (.inl rfl)
  · split
    · exact decided_error.2 (.inl rfl)
    · split
      · exact decided_error.2 (.inl rfl)
      · exact decided_ok _

theorem authenticate_eq_ok {principal : AuthenticatedPrincipal}
    (h : (authenticate env store key).1 = .ok principal) :
    ∃ record, IsValidKey env store key record ∧ principal.scope = record.scope := by
  unfold authenticate at h
  split at h
  · cases h
  · rename_i record hfound
    split at h
    · cases h
    · rename_i hactive
      split at h
      · cases h
      · rename_i hfresh
        cases h
        refine ⟨record, ⟨hfound, by simpa using hactive, fun expiresAt hexpires => ?_⟩, rfl⟩
        rw [APIKeyModel.expired, hexpires] at hfresh
        simpa using hfresh

theorem given_eq_some {credential : Option String} {text : String}
    (h : given credential = some text) : credential = some text :=
  (Option.filter_eq_some_iff.1 h).1

section ByApiKey

variable {apiKey : Option String} {rule : AuthenticatedPrincipal → Except AuthFailure Principal}

theorem byApiKey_of_absent (h : given apiKey = none) :
    (byApiKey env store apiKey rule).1 = .error notAuthenticated := by
  rw [byApiKey, h]

theorem byApiKey_of_given (h : given apiKey = some key) :
    (byApiKey env store apiKey rule).1 = isMaster env key >>= fun master =>
      if master then .ok ⟨.jwt, "master"⟩ else (authenticate env store key).1 >>= rule := by
  simp only [byApiKey, h]
  cases isMaster env key with
  | error failure => rfl
  | ok master => cases master <;> rfl

/-- A request without a token is decided exactly when its key can be compared. -/
theorem decided_byApiKey (hrule : ∀ principal, Decided (rule principal)) :
    Decided (byApiKey env store apiKey rule).1 ↔ ∀ text ∈ given apiKey, Comparable env text := by
  cases hgiven : given apiKey with
  | none =>
      rw [byApiKey_of_absent hgiven]
      exact iff_of_true (decided_error.2 (.inl rfl)) fun text h =>
        absurd h (Option.not_mem_none text)
  | some key =>
      rw [byApiKey_of_given hgiven, decided_isMaster_bind fun master => ?_]
      · simp only [Option.mem_some_iff, forall_eq']
      · cases master with
        | true => exact decided_ok _
        | false => exact decided_authenticate.bind hrule

/-- A request without a token that is accepted has the master key or a valid key that
the rule lets through. -/
theorem byApiKey_eq_ok {principal : Principal}
    (h : (byApiKey env store apiKey rule).1 = .ok principal) :
    (env.masterApiKey ≠ "" ∧ apiKey = some env.masterApiKey) ∨
      ∃ key record authenticated, apiKey = some key ∧ IsValidKey env store key record ∧
        authenticated.scope = record.scope ∧ rule authenticated = .ok principal := by
  cases hgiven : given apiKey with
  | none =>
      rw [byApiKey_of_absent hgiven] at h
      cases h
  | some key =>
      rw [byApiKey_of_given hgiven] at h
      obtain ⟨master, hmaster, h⟩ := bind_eq_ok.1 h
      cases master with
      | true =>
          obtain ⟨hconfigured, hkey⟩ := isMaster_eq_true hmaster
          exact .inl ⟨hconfigured, hkey ▸ given_eq_some hgiven⟩
      | false =>
          obtain ⟨authenticated, hauthenticated, hrule⟩ := bind_eq_ok.1 h
          obtain ⟨record, hvalid, hscope⟩ := authenticate_eq_ok hauthenticated
          exact .inr ⟨key, record, authenticated, given_eq_some hgiven, hvalid, hscope, hrule⟩

/-- A rule that lets more principals through accepts more requests. -/
theorem returns_byApiKey_mono {rule' : AuthenticatedPrincipal → Except AuthFailure Principal}
    (hrule : ∀ principal, Returns (rule principal) → Returns (rule' principal))
    (h : Returns (byApiKey env store apiKey rule).1) :
    Returns (byApiKey env store apiKey rule').1 := by
  cases hgiven : given apiKey with
  | none =>
      rw [byApiKey_of_absent hgiven] at h
      exact absurd h (not_returns_error _)
  | some key =>
      rw [byApiKey_of_given hgiven] at h ⊢
      obtain ⟨master, hmaster, h⟩ := returns_bind.1 h
      refine returns_bind.2 ⟨master, hmaster, ?_⟩
      cases master with
      | true => exact returns_ok _
      | false =>
          obtain ⟨authenticated, hauthenticated, hreturns⟩ := returns_bind.1 h
          exact returns_bind.2 ⟨authenticated, hauthenticated, hrule _ hreturns⟩

end ByApiKey

theorem admitWrite_eq_ok {authenticated : AuthenticatedPrincipal} {principal : Principal}
    (h : admitWrite authenticated = .ok principal) : authenticated.scope = .readWrite := by
  unfold admitWrite at h
  split at h
  · cases h
  · rename_i hscope
    cases hcase : authenticated.scope with
    | readOnly => exact absurd hcase hscope
    | readWrite => rfl

theorem decided_admitWrite (principal : AuthenticatedPrincipal) :
    Decided (admitWrite principal) := by
  unfold admitWrite
  split
  · exact decided_error.2 (.inr rfl)
  · exact decided_ok _

/-- A WebSocket is accepted or closed exactly when its text can be compared. -/
theorem returns_validateWsToken {token : Option String} :
    Returns (validateWsToken env store token).1 ↔ ∀ text ∈ given token, Comparable env text := by
  unfold validateWsToken
  cases given token with
  | none => exact iff_of_true (returns_ok _) fun text h => absurd h (Option.not_mem_none text)
  | some text =>
      simp only [Option.mem_some_iff, forall_eq']
      rw [← returns_isMaster]
      cases isMaster env text with
      | error failure => exact iff_of_false (not_returns_error _) (not_returns_error _)
      | ok master => cases master <;> exact iff_of_true (returns_ok _) (returns_ok _)

end Keys

/-! ## All credentials -/

section FailClosed

variable {env : AuthEnv} {store : KeyStore} {bearer apiKey token : Option String}

/-- A reader is decided on exactly when the claim and the key can be compared. -/
theorem decided_getCurrentPrincipal : Decided (getCurrentPrincipal env store bearer apiKey).1 ↔
    (∀ text, bearer = some text → ∀ access claim, Carries env text access →
      Json.get access.claims "x-api-key" = some (.str claim) → Comparable env claim) ∧
    (bearer = none → ∀ text ∈ given apiKey, Comparable env text) := by
  cases bearer with
  | some text =>
      refine decided_readByToken.trans ?_
      simp only [Option.some.injEq, forall_eq', reduceCtorEq, false_implies, and_true]
  | none =>
      refine (decided_byApiKey fun principal => decided_ok _).trans ?_
      simp only [reduceCtorEq, false_implies, implies_true, true_and, forall_const]

theorem decided_requireWriteOrJwtScope
    (hkey : bearer = none → ∀ text ∈ given apiKey, Comparable env text) :
    Decided (requireWriteOrJwtScope env store bearer apiKey).1 := by
  cases bearer with
  | some text => exact decided_writeByToken env text
  | none => exact (decided_byApiKey decided_admitWrite).2 (hkey rfl)

theorem grantsWrite_of_ok {principal : Principal}
    (h : (requireWriteOrJwtScope env store bearer apiKey).1 = .ok principal) :
    GrantsWrite env store bearer apiKey := by
  cases bearer with
  | some text =>
      obtain ⟨access, hcarries, hsuperuser⟩ := writeByToken_eq_ok h
      exact .superuser text access rfl hcarries hsuperuser
  | none =>
      rcases byApiKey_eq_ok h with ⟨hconfigured, hmaster⟩ | hrest
      · exact .masterKey rfl hconfigured hmaster
      · obtain ⟨key, record, authenticated, hkey, hvalid, hscope, hrule⟩ := hrest
        exact .readWriteKey key record rfl hkey hvalid (hscope ▸ admitWrite_eq_ok hrule)

/-- Who may write may read, where the claim of the token can be compared. -/
theorem returns_getCurrentPrincipal
    (hclaim : ∀ text, bearer = some text → ∀ access claim, Carries env text access →
      Json.get access.claims "x-api-key" = some (.str claim) → Comparable env claim)
    (h : Returns (requireWriteOrJwtScope env store bearer apiKey).1) :
    Returns (getCurrentPrincipal env store bearer apiKey).1 := by
  cases bearer with
  | some text =>
      obtain ⟨principal, hprincipal⟩ := h
      obtain ⟨access, hcarries, -⟩ := writeByToken_eq_ok hprincipal
      have hmaster := returns_claimsMaster.2 fun claim => hclaim text rfl access claim hcarries
      show Returns (readByToken env text)
      rw [readByToken_of_carries hcarries]
      obtain ⟨master, hanswer⟩ := hmaster
      exact returns_bind.2 ⟨master, hanswer, returns_ok _⟩
  | none => exact returns_byApiKey_mono (fun principal _ => returns_ok _) h

end FailClosed

/-- **Authorization is fail-closed** on an input exactly when every text of the input that
is compared with the master key can be compared. -/
theorem authorization_fail_closed_iff (env : AuthEnv) (store : KeyStore)
    (bearer apiKey token : Option String) :
    FailClosed env store bearer apiKey token ↔ ComparesText env bearer apiKey token := by
  constructor
  · intro h
    obtain ⟨hclaim, hkey⟩ := decided_getCurrentPrincipal.1 h.read
    exact ⟨hclaim, hkey, returns_validateWsToken.1 h.socket⟩
  · intro h
    refine ⟨decided_getCurrentPrincipal.2 ⟨h.claim, h.key⟩,
      decided_requireWriteOrJwtScope h.key, ?_, fun principal => grantsWrite_of_ok,
      returns_getCurrentPrincipal h.claim, returns_validateWsToken.2 h.socket⟩
    rintro text rfl hinvalid
    exact byToken_of_invalid hinvalid

/-- Settings with a master key, under which no token is valid. -/
def masterOnly : AuthEnv where
  masterApiKey := "0123456789abcdef0123456789abcdef"
  hash := id
  decodeToken _ := none
  fmt := Content.canonicalFormats
  now := 0

/-- A header with one letter that is not ASCII makes the comparison raise. -/
theorem not_authorization_fail_closed : ¬ ∀ env store bearer apiKey token,
    FailClosed env store bearer apiKey token := by
  intro h
  have hread := (h masterOnly .empty none (some "clé") none).read .typeError (by decide)
  revert hread
  decide

end Authorization
end NodeNexus
