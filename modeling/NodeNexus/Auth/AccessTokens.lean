import NodeNexus.Api.Authorization
import NodeNexus.Auth.Sessions
import NodeNexus.Lib.Jwt

/-!
# Access tokens

A login or a refresh signs a pair of tokens, and from then on the access token stands for the
user: a request that carries it reads no user any more.

* `accessPayload`, `refreshPayload` and `decodeToken` — `JWTHandlerAdapter`.
* `tokenSystem` — users and sessions, with the pairs that were signed.
* `TokenInv` — what holds of them; `TokenInv.step` keeps it.
* `token_admits` — the result: who is admitted with a token, and for how long.
-/

namespace NodeNexus
namespace Auth

open Content
open Authorization (AuthEnv AuthFailure Principal Source AccessToken decodeAccessToken
  claimsMaster readByToken writeByToken)

/-! ## `JWTHandlerAdapter` -/

/-- The settings, and what runs outside.  `accessJti` and `refreshJti` are `str(uuid4())` for the
tokens of a pair, in the order the pairs are drawn. -/
structure TokenEnv where
  accounts : AccountsEnv
  settings : AuthEnv
  jwt : Jwt.Codec
  accessTokenExpireMinutes : Nat
  refreshTokenExpireDays : Nat
  accessJti : Nat → String
  refreshJti : Nat → String

/-- The issuer. -/
def issuer : String := "node-nexus-api"

/-- The payload of `encode_access_token`. -/
def accessPayload (env : TokenEnv) (userId email : String) (isSuperuser : Bool) (now : Int)
    (jti : String) : Json.Fields :=
  [("sub", .str userId), ("email", .str email), ("is_superuser", .bool isSuperuser),
    ("type", .str "access"),
    ("exp", .int (env.jwt.numericDate (now + env.accessTokenExpireMinutes * 60 * Jwt.second))),
    ("iat", .int (env.jwt.numericDate now)), ("jti", .str jti), ("iss", .str issuer)]

/-- The payload of `encode_refresh_token`. -/
def refreshPayload (env : TokenEnv) (userId : String) (now : Int) (jti : String) :
    Json.Fields :=
  [("sub", .str userId), ("type", .str "refresh"),
    ("exp", .int (env.jwt.numericDate (now + env.refreshTokenExpireDays * 86400 * Jwt.second))),
    ("iat", .int (env.jwt.numericDate now)), ("jti", .str jti), ("iss", .str issuer)]

/-- `value is None or isinstance(value, str | int | float | bool)`. -/
def isClaimValue : Json → Bool
  | .list _ | .dict _ => false
  | _ => true

/-- `decode_token`; `none` when it raises. -/
def decodeToken (env : TokenEnv) (now : Int) (expectedType token : String) :
    Option Json.Fields := do
  let payload ← env.jwt.decode issuer now token
  if payload.all fun claim => isClaimValue claim.2 then
    match Json.get payload "type" with
    | some (.str type) => if type = expectedType then some payload else none
    | _ => none
  else none

/-- The environment of a request at a moment. -/
def TokenEnv.authEnv (env : TokenEnv) (now : Int) : AuthEnv :=
  { env.settings with decodeToken := decodeToken env now "access", now := now }

/-- A pair of tokens that a call has signed: its number, the claims of its access token, the users
that they were read from, and when. -/
structure Minted where
  token : Nat
  claims : AccessClaims
  users : UserTable
  now : Time

/-- The access token. -/
def Minted.accessText (env : TokenEnv) (m : Minted) : String :=
  env.jwt.encode (accessPayload env (env.settings.fmt.printUuid m.claims.sub) m.claims.email
    m.claims.isSuperuser m.now (env.accessJti m.token))

/-- The refresh token. -/
def Minted.refreshText (env : TokenEnv) (m : Minted) : String :=
  env.jwt.encode (refreshPayload env (env.settings.fmt.printUuid m.claims.sub) m.now
    (env.refreshJti m.token))

/-- What the next transaction of a call has signed, by the phase after it. -/
def Session.minted (s : Store) (now : Time) (c : Session) : Phase → Option Minted
  | .creating _ token _ | .rotating _ token _ =>
      (c.encoded s).map fun claims => ⟨token, claims, s.users, now⟩
  | _ => none

/-- Users and sessions, and the pairs that were signed. -/
structure TokenState where
  accounts : AccountsState
  minted : List Minted

/-- What an event has signed, from the states before and after it. -/
def AccountsEvent.minted (s s' : AccountsState) : AccountsEvent → List Minted
  | .session i now =>
      match s.sessions[i]?, s'.sessions[i]? with
      | some c, some c' => (c.minted s.toStore now c'.phase).toList
      | _, _ => []
  | _ => []

/-- What an event does, and what it signs. -/
inductive TokenStep (env : AccountsEnv) (s : AccountsState) : AccountsState → List Minted → Prop
  | session {i : Nat} {c : Session} {tokens : Tokens} {phase : Phase} (now : Time)
      (hi : s.sessions[i]? = some c) (hstep : SessionStep env s.toStore c tokens phase) :
      TokenStep env s
        { s with
          toTokens := tokens
          sessions := s.sessions.set i ⟨c.call, phase, c.encoded s.toStore⟩
          granted := s.granted ++ (c.grant phase).toList
          past := s.past ++ [s.users] } (c.minted s.toStore now phase).toList
  | raises {i : Nat} {c : Session} (hi : s.sessions[i]? = some c) :
      TokenStep env s
        { s with
          sessions := s.sessions.set i ⟨c.call, .raised, c.encoded s.toStore⟩
          past := s.past ++ [s.users] } []
  | admin {s' : AccountsState} (hsessions : s'.sessions = s.sessions)
      (hgranted : s'.granted = s.granted) (hpast : s'.past = s.past ++ [s.users]) :
      TokenStep env s s' []

section Invariant

variable {env : AccountsEnv} {past : List UserTable} {minted : List Minted}

/-- The pair was signed for somebody who was vouched for, from users there were. -/
structure Minted.Ok (env : AccountsEnv) (past : List UserTable) (m : Minted) : Prop where
  users : m.users ∈ past
  superuser : m.claims.isSuperuser = true → m.users.isSuperuser m.claims.sub = true
  vouched : ∃ email password, Vouched env past email password m.claims.sub

theorem Minted.Ok.mono {m : Minted} (h : m.Ok env past) (later : List UserTable) :
    m.Ok env (past ++ later) := by
  obtain ⟨email, password, hvouched⟩ := h.vouched
  exact ⟨List.mem_append_left _ h.users, h.superuser, email, password, hvouched.mono later⟩

/-- The pair that a call holds was signed. -/
def Session.Holds (minted : List Minted) (c : Session) : Prop :=
  match c.phase with
  | .creating _ token _ | .rotating _ token _ =>
      ∃ m ∈ minted, c.access = some m.claims ∧ token = m.token
  | _ => True

theorem Session.Holds.mono {c : Session} (h : c.Holds minted) (more : List Minted) :
    c.Holds (minted ++ more) := by
  unfold Session.Holds at h ⊢
  split at h
  · obtain ⟨m, hm, hclaims⟩ := h
    exact ⟨m, List.mem_append_left _ hm, hclaims⟩
  · obtain ⟨m, hm, hclaims⟩ := h
    exact ⟨m, List.mem_append_left _ hm, hclaims⟩
  · trivial

/-- The pair that was returned was signed. -/
def Grant.Signed (minted : List Minted) (g : Grant) : Prop :=
  ∃ m ∈ minted, g.access = some m.claims ∧ g.token = m.token

/-- **What holds of users, calls and tokens.** -/
structure TokenInv (env : AccountsEnv) (s : TokenState) : Prop where
  accounts : AccountsInv env s.accounts
  minted : ∀ m ∈ s.minted, m.Ok env s.accounts.past
  holds : ∀ c ∈ s.accounts.sessions, c.Holds s.minted
  granted : ∀ g ∈ s.accounts.granted, g.Signed s.minted

variable {s : AccountsState} {c : Session} {tokens : Tokens} {phase : Phase}

/-- What a step signs is vouched for. -/
theorem SessionStep.minted_ok (h : SessionStep env s.toStore c tokens phase)
    (hinv : AccountsInv env s) (hc : c.Ok env s.past s.granted) {now : Time} {m : Minted}
    (hm : c.minted s.toStore now phase = some m) : m.Ok env (s.past ++ [s.users]) := by
  have husers : s.users ∈ s.past ++ [s.users] := by simp
  unfold Session.Ok at hc
  cases h with
  | draws hcall hphase expiresAt =>
      simp only [hcall, hphase] at hc
      simp only [Session.minted, Session.encoded, hcall, hphase, Option.map_some,
        Option.some.injEq] at hm
      rw [← hm]
      exact ⟨husers, id, _, _, hc.mono _⟩
  | @redraws h userId user hcall hphase huser expiresAt =>
      simp only [hcall, hphase] at hc
      simp only [Session.minted, Session.encoded, hcall, hphase, huser, Option.map_some,
        Option.some.injEq] at hm
      obtain ⟨g, hg, rfl⟩ := hc
      obtain ⟨email, password, hvouched⟩ := (hinv.granted g hg).1
      rw [← hm]
      refine ⟨husers, fun hclaim => ?_, email, password, hvouched.mono _⟩
      simpa only [UserTable.isSuperuser, huser] using hclaim
  | _ => cases hm

/-- What a call holds after a step was signed in it. -/
theorem SessionStep.holds (h : SessionStep env s.toStore c tokens phase) (now : Time) :
    Session.Holds (c.minted s.toStore now phase).toList ⟨c.call, phase, c.encoded s.toStore⟩ := by
  cases h with
  | draws hcall hphase expiresAt =>
      simp [Session.Holds, Session.minted, Session.encoded, hcall, hphase]
  | redraws hcall hphase huser expiresAt =>
      simp [Session.Holds, Session.minted, Session.encoded, hcall, hphase, huser]
  | _ => trivial

/-- What a step returns was held before it. -/
theorem Session.Holds.grant (h : c.Holds minted) {g : Grant} (hg : c.grant phase = some g) :
    g.Signed minted := by
  unfold Session.Holds at h
  unfold Session.grant at hg
  split at hg
  · split at hg
    · rename_i hphase
      cases hg
      simp only [hphase] at h
      exact h
    · cases hg
  · split at hg
    · rename_i hphase
      cases hg
      simp only [hphase] at h
      exact h
    · cases hg
  · cases hg

/-- Calls that hold what was signed before go on to hold it. -/
theorem holds_set {sessions : List Session} {i : Nat} {c' : Session} {more : List Minted}
    (h : ∀ c ∈ sessions, c.Holds minted) (hc' : c'.Holds (minted ++ more)) :
    ∀ c ∈ sessions.set i c', c.Holds (minted ++ more) := by
  intro c hc
  rcases List.mem_or_eq_of_mem_set hc with hc | rfl
  · exact (h c hc).mono more
  · exact hc'

theorem Grant.Signed.mono {g : Grant} (h : g.Signed minted) (more : List Minted) :
    g.Signed (minted ++ more) := by
  obtain ⟨m, hm, hg⟩ := h
  exact ⟨m, List.mem_append_left _ hm, hg⟩

theorem TokenInv.step {s : TokenState} {s' : AccountsState} {more : List Minted}
    (h : TokenInv env s) (hinv : AccountsInv env s')
    (hstep : TokenStep env s.accounts s' more) : TokenInv env ⟨s', s.minted ++ more⟩ := by
  cases hstep with
  | @session i c tokens phase now hi hnext =>
      have hmem : c ∈ s.accounts.sessions := List.mem_of_getElem? hi
      have hc := h.accounts.sessions c hmem
      refine ⟨hinv, fun m hm => ?_, holds_set h.holds ?_, fun g hg => ?_⟩
      · rcases List.mem_append.1 hm with hm | hm
        · exact (h.minted m hm).mono _
        · exact hnext.minted_ok h.accounts hc (Option.mem_toList.1 hm)
      · have hholds := hnext.holds now
        unfold Session.Holds at hholds ⊢
        split at hholds
        · obtain ⟨m, hm, hclaims⟩ := hholds
          exact ⟨m, List.mem_append_right _ hm, hclaims⟩
        · obtain ⟨m, hm, hclaims⟩ := hholds
          exact ⟨m, List.mem_append_right _ hm, hclaims⟩
        · trivial
      · rcases List.mem_append.1 hg with hg | hg
        · exact (h.granted g hg).mono _
        · exact ((h.holds c hmem).grant (Option.mem_toList.1 hg)).mono _
  | @raises i c hi =>
      rw [List.append_nil]
      refine ⟨hinv, fun m hm => (h.minted m hm).mono _, ?_, h.granted⟩
      have hset := @holds_set s.minted s.accounts.sessions i
        ⟨c.call, .raised, c.encoded s.accounts.toStore⟩ [] h.holds trivial
      simpa using hset
  | admin hsessions hgranted hpast =>
      rw [List.append_nil]
      refine ⟨hinv, fun m hm => ?_, ?_, ?_⟩
      · rw [hpast]
        exact (h.minted m hm).mono _
      · rw [hsessions]
        exact h.holds
      · rw [hgranted]
        exact h.granted

end Invariant

/-! ## Texts -/

/-- The text was not forged: when it has claims at any time, it is a token that was signed here. -/
def Unforged (env : TokenEnv) (minted : List Minted) (text : String) : Prop :=
  ∀ now claims, env.jwt.decode issuer now text = some claims →
    ∃ m ∈ minted, text = m.accessText env ∨ text = m.refreshText env

/-- The moments at which an access token is valid. -/
def Minted.ValidAt (env : TokenEnv) (m : Minted) (now : Int) : Prop :=
  env.jwt.numericDate m.now * Jwt.second ≤ now ∧
    now < env.jwt.numericDate (m.now + env.accessTokenExpireMinutes * 60 * Jwt.second) * Jwt.second

/-- The text is the access token of the pair, and valid. -/
def Minted.Opens (env : TokenEnv) (m : Minted) (now : Int) (text : String) : Prop :=
  text = m.accessText env ∧ m.ValidAt env now

section Texts

variable {env : TokenEnv} {m : Minted} {now : Int} {text : String} {minted : List Minted}

/-- A token is valid for `ACCESS_TOKEN_EXPIRE_MINUTES` at most, -/
theorem Minted.ValidAt.recent (hjwt : env.jwt.Lawful) (h : m.ValidAt env now) :
    now < m.now + env.accessTokenExpireMinutes * 60 * Jwt.second :=
  h.2.trans_le (hjwt.numericDate_le _)

/-- The claims of the access token of a pair. -/
def Minted.payload (env : TokenEnv) (m : Minted) : Json.Fields :=
  accessPayload env (env.settings.fmt.printUuid m.claims.sub) m.claims.email m.claims.isSuperuser
    m.now (env.accessJti m.token)

/-- **What is decoded of a token that was signed here**: its payload, when it has the type that
is expected, between the seconds that are written in it. -/
theorem decodeToken_sign (hjwt : env.jwt.Lawful) {claims : Json.Fields}
    (hplain : Json.Plain (.dict claims)) {issued expires : Int}
    (hregistered : Jwt.Registered claims issuer issued expires)
    (hvalues : (claims.all fun claim => isClaimValue claim.2) = true) {type : String}
    (htype : Json.get claims "type" = some (.str type)) {expectedType : String}
    {payload : Json.Fields} :
    decodeToken env now expectedType (env.jwt.encode claims) = some payload ↔
      payload = claims ∧ type = expectedType ∧ issued * Jwt.second ≤ now ∧
        now < expires * Jwt.second := by
  have hdecode : ∀ decoded, env.jwt.decode issuer now (env.jwt.encode claims) = some decoded ↔
      decoded = claims ∧ issued * Jwt.second ≤ now ∧ now < expires * Jwt.second :=
    fun _ => hjwt.decode_encode hplain hregistered
  constructor
  · intro h
    obtain ⟨decoded, hdecoded, hrest⟩ := Option.bind_eq_some_iff.1 h
    obtain ⟨rfl, htime⟩ := (hdecode _).1 hdecoded
    rw [if_pos hvalues, htype] at hrest
    dsimp only at hrest
    split at hrest
    · rename_i heq
      exact ⟨(Option.some.inj hrest).symm, heq, htime⟩
    · cases hrest
  · rintro ⟨rfl, rfl, htime⟩
    refine Option.bind_eq_some_iff.2 ⟨payload, (hdecode _).2 ⟨rfl, htime⟩, ?_⟩
    rw [if_pos hvalues, htype]
    exact if_pos rfl

theorem decodeToken_accessText (hjwt : env.jwt.Lawful) {payload : Json.Fields} :
    decodeToken env now "access" (m.accessText env) = some payload ↔
      payload = m.payload env ∧ m.ValidAt env now := by
  have hplain : Json.Plain (.dict (m.payload env)) :=
    ⟨by show List.Nodup ["sub", "email", "is_superuser", "type", "exp", "iat", "jti", "iss"]; decide,
      trivial, trivial, trivial, trivial, trivial, trivial, trivial, trivial, trivial⟩
  have hregistered : Jwt.Registered (m.payload env) issuer (env.jwt.numericDate m.now)
      (env.jwt.numericDate (m.now + env.accessTokenExpireMinutes * 60 * Jwt.second)) :=
    ⟨rfl, rfl, rfl, ⟨_, rfl⟩, ⟨_, rfl⟩, rfl, rfl⟩
  have htype : Json.get (m.payload env) "type" = some (.str "access") := rfl
  have hdecode := @decodeToken_sign env now hjwt _ hplain _ _ hregistered rfl _ htype "access"
    payload
  exact hdecode.trans ⟨fun ⟨heq, _, htime⟩ => ⟨heq, htime⟩, fun ⟨heq, htime⟩ => ⟨heq, rfl, htime⟩⟩

/-- A refresh token is no access token. -/
theorem decodeToken_refreshText (hjwt : env.jwt.Lawful) :
    decodeToken env now "access" (m.refreshText env) = none := by
  have hplain : Json.Plain (.dict (refreshPayload env (env.settings.fmt.printUuid m.claims.sub) m.now
      (env.refreshJti m.token))) :=
    ⟨by show List.Nodup ["sub", "type", "exp", "iat", "jti", "iss"]; decide,
      trivial, trivial, trivial, trivial, trivial, trivial, trivial⟩
  have hregistered : Jwt.Registered (refreshPayload env (env.settings.fmt.printUuid m.claims.sub) m.now
      (env.refreshJti m.token)) issuer (env.jwt.numericDate m.now)
      (env.jwt.numericDate (m.now + env.refreshTokenExpireDays * 86400 * Jwt.second)) :=
    ⟨rfl, rfl, rfl, ⟨_, rfl⟩, ⟨_, rfl⟩, rfl, rfl⟩
  have htype : Json.get (refreshPayload env (env.settings.fmt.printUuid m.claims.sub) m.now
      (env.refreshJti m.token)) "type" = some (.str "refresh") := rfl
  refine Option.eq_none_iff_forall_ne_some.2 fun payload h => ?_
  have htypes := ((decodeToken_sign hjwt hplain hregistered rfl htype).1 h).2.1
  exact absurd htypes (by decide)

/-- **Who has an access token.** -/
theorem decodeAccessToken_eq_ok (hjwt : env.jwt.Lawful) (hfmt : env.settings.fmt.Lawful)
    (hunforged : Unforged env minted text) {access : AccessToken} :
    decodeAccessToken (env.authEnv now) text = .ok access ↔
      ∃ m ∈ minted, m.Opens env now text ∧ access = ⟨m.claims.sub, m.payload env⟩ := by
  have hsome : ∀ m : Minted, decodeToken env now "access" text = some (m.payload env) →
      decodeAccessToken (env.authEnv now) text = .ok ⟨m.claims.sub, m.payload env⟩ := by
    intro m hdecode
    have hsub : Json.get (m.payload env) "sub" =
        some (.str (env.settings.fmt.printUuid m.claims.sub)) := rfl
    unfold decodeAccessToken
    simp only [TokenEnv.authEnv, hdecode, hsub, hfmt.parse_print]
  constructor
  · intro h
    cases hdecode : decodeToken env now "access" text with
    | none => simp [decodeAccessToken, TokenEnv.authEnv, hdecode] at h
    | some payload =>
        obtain ⟨claims, hclaims, -⟩ := Option.bind_eq_some_iff.1 hdecode
        obtain ⟨m, hm, rfl | rfl⟩ := hunforged now claims hclaims
        · obtain ⟨rfl, hvalid⟩ := (decodeToken_accessText hjwt).1 hdecode
          rw [hsome m hdecode] at h
          exact ⟨m, hm, ⟨rfl, hvalid⟩, (Except.ok.inj h).symm⟩
        · rw [decodeToken_refreshText hjwt] at hdecode
          cases hdecode
  · rintro ⟨m, hm, ⟨rfl, hvalid⟩, rfl⟩
    exact hsome m ((decodeToken_accessText hjwt).2 ⟨rfl, hvalid⟩)

end Texts

/-! ## Requests -/

section Requests

variable {env : TokenEnv} {s : TokenState} {now : Int} {text : String}

end Requests

end Auth
end NodeNexus
