import NodeNexus.Auth.Accounts
import NodeNexus.Lib.Amortized

/-!
# Whose sessions there are

A login reads `users` in four transactions, a refresh in two, and users change in
between.  What is certain nevertheless:

* `SessionStep` and `AdminStep` say once what a step can do; `AccountsInv` is
  what holds of users, tokens and calls, and `AccountsInv.step` keeps it.
* `sessions_ok` — every pair of tokens goes back to a password, however many
  refreshes ago, and what is stored belongs to a user.
* `closed_exec` — a user who is deactivated gets no more tokens than were on
  their way.
* `erased_exec` — a user who is deleted gets none, and none is stored.
-/

namespace NodeNexus
namespace Auth

open Content

variable {env : AccountsEnv}

/-! ## What a step can do -/

/-- What a step of a session can do to the tokens and to the call. -/
inductive SessionStep (env : AccountsEnv) (s : Store) (c : Session) : Tokens → Phase → Prop
  | raises (hended : c.phase.ended = false) : SessionStep env s c s.toTokens .raised
  | identified {email password : String} {user : UserModel} (hcall : c.call = .login email password)
      (hphase : c.phase = .start) (huser : s.users.getByEmail email = some user) :
      SessionStep env s c s.toTokens (.identified user.id)
  | verified {email password : String} {user : UserModel} {userId : Uuid}
      (hcall : c.call = .login email password) (hphase : c.phase = .identified userId)
      (huser : s.users.getByEmail email = some user)
      (hverify : env.verify password user.hashedPassword = true) :
      SessionStep env s c s.toTokens (.verified userId)
  | active {email password : String} {userId : Uuid} (hcall : c.call = .login email password)
      (hphase : c.phase = .verified userId) (hactive : s.users.isUserActive userId = true) :
      SessionStep env s c s.toTokens (.active userId)
  | cleaned {email password : String} {userId : Uuid} (hcall : c.call = .login email password)
      (hphase : c.phase = .active userId) (now : Time) :
      SessionStep env s c
        { s.toTokens with table := (deleteExpiredByUser s.table now userId).2 } (.cleaned userId)
  | draws {email password : String} {userId : Uuid} (hcall : c.call = .login email password)
      (hphase : c.phase = .cleaned userId) (expiresAt : Time) :
      SessionStep env s c { s.toTokens with drawn := s.drawn + 1 }
        (.creating userId s.drawn expiresAt)
  | loggedIn {email password : String} {userId : Uuid} {token : Nat} {expiresAt : Time}
      {user : UserModel} (hcall : c.call = .login email password)
      (hphase : c.phase = .creating userId token expiresAt)
      (huser : s.users.getById userId = some user) :
      SessionStep env s c
        { s.toTokens with
          table := s.table.put ⟨userId, env.hashToken token, expiresAt⟩
          issued := s.issued ++ [(token, expiresAt)] } (.loggedIn token)
  | found {h : String} {row : TokenRow} (hcall : c.call = .refreshAccessToken h)
      (hphase : c.phase = .start) (hrow : s.table.find? h = some row) :
      SessionStep env s c s.toTokens (.found row.userId)
  | allowed {h : String} {userId : Uuid} (hcall : c.call = .refreshAccessToken h)
      (hphase : c.phase = .found userId) (hactive : s.users.isUserActive userId = true) :
      SessionStep env s c s.toTokens (.allowed userId)
  | redraws {h : String} {userId : Uuid} {user : UserModel}
      (hcall : c.call = .refreshAccessToken h) (hphase : c.phase = .allowed userId)
      (huser : s.users.getById userId = some user) (expiresAt : Time) :
      SessionStep env s c { s.toTokens with drawn := s.drawn + 1 }
        (.rotating userId s.drawn expiresAt)
  | refreshed {h : String} {row : TokenRow} {token : Nat} {expiresAt : Time}
      (hcall : c.call = .refreshAccessToken h)
      (hphase : c.phase = .rotating row.userId token expiresAt)
      (hrow : s.table.find? h = some row) :
      SessionStep env s c
        { s.toTokens with
          table := (s.table.erase h).put ⟨row.userId, env.hashToken token, expiresAt⟩
          issued := s.issued ++ [(token, expiresAt)] } (.refreshed token)
  | loggedOut {h : String} (hcall : c.call = .logout h) (hphase : c.phase = .start) :
      SessionStep env s c { s.toTokens with table := s.table.erase h } .loggedOut

section Transactions

variable {s : Store} {access : Option AccessClaims} {now : Time} {tokens : Tokens} {phase : Phase}

/-- The next transaction of a call is answered. -/
def Answered (env : AccountsEnv) (s : Store) (now : Time) (c : Session) (tokens : Tokens)
    (phase : Phase) : Prop :=
  Phase.advance env.hashToken env.lifetime s.toTokens c.call.call c.phase
    (c.call.answer env s now c.phase) = some (tokens, phase)

theorem sessionStep_getUserIdByEmail {email password : String}
    (h : Answered env s now ⟨.login email password, .start, access⟩ tokens phase) :
    SessionStep env s ⟨.login email password, .start, access⟩ tokens phase := by
  change Phase.advance env.hashToken env.lifetime s.toTokens .login .start
    (.userId ((s.users.getByEmail email).map (·.id))) = _ at h
  cases huser : s.users.getByEmail email with
  | none =>
      rw [huser] at h
      cases h
      exact .raises rfl
  | some user =>
      rw [huser] at h
      cases h
      exact .identified rfl rfl huser

theorem sessionStep_getHashedPassword {email password : String} {userId : Uuid}
    (h : Answered env s now ⟨.login email password, .identified userId, access⟩ tokens phase) :
    SessionStep env s ⟨.login email password, .identified userId, access⟩ tokens phase := by
  simp only [Answered, AuthCall.call, AuthCall.answer, Phase.advance] at h
  cases huser : s.users.getByEmail email with
  | none =>
      simp only [huser] at h
      cases h
      exact .raises rfl
  | some user =>
      simp only [huser] at h
      cases hverify : env.verify password user.hashedPassword with
      | false =>
          rw [hverify] at h
          cases h
          exact .raises rfl
      | true =>
          rw [hverify] at h
          cases h
          exact .verified rfl rfl huser hverify

theorem sessionStep_isUserActive {email password : String} {userId : Uuid}
    (h : Answered env s now ⟨.login email password, .verified userId, access⟩ tokens phase) :
    SessionStep env s ⟨.login email password, .verified userId, access⟩ tokens phase := by
  change Phase.advance env.hashToken env.lifetime s.toTokens .login (.verified userId)
    (.userActive (s.users.isUserActive userId)) = _ at h
  cases hactive : s.users.isUserActive userId with
  | false =>
      rw [hactive] at h
      cases h
      exact .raises rfl
  | true =>
      rw [hactive] at h
      cases h
      exact .active rfl rfl hactive

/-- The token of a login is stored, unless the user is gone or the hash is taken. -/
theorem sessionStep_create {email password : String} {userId : Uuid} {token : Nat}
    {expiresAt : Time}
    (h : Answered env s now ⟨.login email password, .creating userId token expiresAt, access⟩
      tokens phase) :
    SessionStep env s ⟨.login email password, .creating userId token expiresAt, access⟩ tokens
      phase := by
  change Phase.advance env.hashToken env.lifetime s.toTokens .login (.creating userId token expiresAt)
    (if (s.users.getById userId).isSome then .tokens now else .fail) = _ at h
  cases huser : s.users.getById userId with
  | none =>
      simp only [huser] at h
      cases h
      exact .raises rfl
  | some user =>
      simp only [huser, Option.isSome_some, if_true, Phase.advance] at h
      split at h
      · rename_i table hcreate
        cases h
        obtain ⟨-, rfl⟩ := create_eq_some hcreate
        exact .loggedIn rfl rfl huser
      · cases h
        exact .raises rfl

theorem sessionStep_getByHash {hash : String}
    (h : Answered env s now ⟨.refreshAccessToken hash, .start, access⟩ tokens phase) :
    SessionStep env s ⟨.refreshAccessToken hash, .start, access⟩ tokens phase := by
  change Phase.advance env.hashToken env.lifetime s.toTokens (.refreshAccessToken hash) .start
    (.tokens now) = _ at h
  simp only [Phase.advance] at h
  split at h
  · rename_i userId hfound
    cases h
    obtain ⟨row, hrow, rfl, -⟩ := getUserIdByHash_eq_some hfound
    exact .found rfl rfl hrow
  · cases h
    exact .raises rfl

theorem sessionStep_isOwnerActive {hash : String} {userId : Uuid}
    (h : Answered env s now ⟨.refreshAccessToken hash, .found userId, access⟩ tokens phase) :
    SessionStep env s ⟨.refreshAccessToken hash, .found userId, access⟩ tokens phase := by
  change Phase.advance env.hashToken env.lifetime s.toTokens (.refreshAccessToken hash) (.found userId)
    (.userActive (s.users.isUserActive userId)) = _ at h
  cases hactive : s.users.isUserActive userId with
  | false =>
      rw [hactive] at h
      cases h
      exact .raises rfl
  | true =>
      rw [hactive] at h
      cases h
      exact .allowed rfl rfl hactive

theorem sessionStep_getUser {hash : String} {userId : Uuid}
    (h : Answered env s now ⟨.refreshAccessToken hash, .allowed userId, access⟩ tokens phase) :
    SessionStep env s ⟨.refreshAccessToken hash, .allowed userId, access⟩ tokens phase := by
  change Phase.advance env.hashToken env.lifetime s.toTokens (.refreshAccessToken hash) (.allowed userId)
    (.user (s.users.getById userId).isSome now) = _ at h
  cases huser : s.users.getById userId with
  | none =>
      rw [huser] at h
      cases h
      exact .raises rfl
  | some user =>
      rw [huser] at h
      cases h
      exact .redraws rfl rfl huser _

/-- The token is exchanged, unless it is gone, expired or another user's. -/
theorem sessionStep_rotate {hash : String} {userId : Uuid} {token : Nat} {expiresAt : Time}
    (h : Answered env s now ⟨.refreshAccessToken hash, .rotating userId token expiresAt, access⟩
      tokens phase) :
    SessionStep env s ⟨.refreshAccessToken hash, .rotating userId token expiresAt, access⟩ tokens
      phase := by
  change Phase.advance env.hashToken env.lifetime s.toTokens (.refreshAccessToken hash) (.rotating userId token expiresAt)
    (.tokens now) = _ at h
  simp only [Phase.advance] at h
  split at h
  · rename_i table hrotate
    cases h
    obtain ⟨row, hrow, rfl, -, -, rfl⟩ := rotate_eq_true hrotate
    exact .refreshed rfl rfl hrow
  · cases h
    exact .raises rfl
  · cases h
    exact .raises rfl

/-- Only a login creates a token. -/
theorem sessionStep_not_login {call : AuthCall} {userId : Uuid} {token : Nat} {expiresAt : Time}
    (hcall : call.call ≠ .login)
    (h : Answered env s now ⟨call, .creating userId token expiresAt, access⟩ tokens phase) :
    SessionStep env s ⟨call, .creating userId token expiresAt, access⟩ tokens phase := by
  cases call with
  | login => exact absurd rfl hcall
  | refreshAccessToken hash =>
      change Phase.advance env.hashToken env.lifetime s.toTokens (.refreshAccessToken hash) (.creating userId token expiresAt)
        (if (s.users.getById userId).isSome then .tokens now else .fail) = _ at h
      split at h
      · cases h
      · cases h
        exact .raises rfl
  | logout hash =>
      change Phase.advance env.hashToken env.lifetime s.toTokens (.logout hash) (.creating userId token expiresAt)
        (if (s.users.getById userId).isSome then .tokens now else .fail) = _ at h
      split at h
      · cases h
      · cases h
        exact .raises rfl

/-- A session step, when nothing fails. -/
theorem sessionStep_of_answer {c : Session} (h : Answered env s now c tokens phase) :
    SessionStep env s c tokens phase := by
  obtain ⟨call, before, access⟩ := c
  cases call with
  | login email password =>
      cases before with
      | start => exact sessionStep_getUserIdByEmail h
      | identified userId => exact sessionStep_getHashedPassword h
      | verified userId => exact sessionStep_isUserActive h
      | active userId =>
          cases h
          exact .cleaned rfl rfl now
      | cleaned userId =>
          cases h
          exact .draws rfl rfl _
      | creating userId token expiresAt => exact sessionStep_create h
      | _ => cases h
  | refreshAccessToken hash =>
      cases before with
      | start => exact sessionStep_getByHash h
      | found userId => exact sessionStep_isOwnerActive h
      | allowed userId => exact sessionStep_getUser h
      | rotating userId token expiresAt => exact sessionStep_rotate h
      | creating userId token expiresAt => exact sessionStep_not_login (fun hcall => by cases hcall) h
      | _ => cases h
  | logout hash =>
      cases before with
      | start =>
          cases h
          exact .loggedOut rfl rfl
      | creating userId token expiresAt => exact sessionStep_not_login (fun hcall => by cases hcall) h
      | _ => cases h

end Transactions

/-- A step of a session, or its failure. -/
theorem sessionStep_of_fail {s : Store} {c : Session} {tokens : Tokens} {phase : Phase}
    (h : Phase.advance env.hashToken env.lifetime s.toTokens c.call.call c.phase .fail =
      some (tokens, phase)) : SessionStep env s c tokens phase := by
  unfold Phase.advance at h
  split at h
  all_goals try contradiction
  split at h
  · cases h
  · rename_i hended
    cases h
    exact .raises (Bool.eq_false_iff.2 hended)

/-- What a call of `UserService` can do to the store. -/
inductive AdminStep (s : Store) (call : AdminCall) : Store → Prop
  | quiet : AdminStep s call s
  | created (user : UserModel) {users : UserTable} (hid : user.id = s.nextId)
      (hrows : users.table.rows = s.users.table.rows ++ [user]) :
      AdminStep s call { s with users := users, nextId := s.nextId + 1 }
  | patched {userId : Uuid} {data : UserUpdate} (hcall : call = .patchUser userId data)
      {users : UserTable} (hash : String → String)
      (htable : users.table = s.users.table.modify userId (data.apply hash) (data.apply_id hash)) :
      AdminStep s call { s with users := users }
  | deleted {userId : Uuid} (hcall : call = .deleteUser userId) :
      AdminStep s call { s with
        users := s.users.delete userId
        table := s.table.keep fun row => decide (row.userId ≠ userId) }

theorem insert_eq_some {users users' : UserTable} {user : UserModel}
    (h : users.insert user = some users') :
    users'.table.rows = users.table.rows ++ [user] := by
  simp only [UserTable.insert] at h
  split at h
  · cases h
    rfl
  · cases h

theorem update_eq_some {users users' : UserTable} {id : Uuid} {f : UserModel → UserModel}
    {hf : ∀ user, (f user).id = user.id} (h : users.update id f hf = some users') :
    users'.table = users.table.modify id f hf := by
  simp only [UserTable.update] at h
  split at h
  · cases h
    rfl
  · cases h

theorem adminStep_write (salt : Nat) (s : Store) (call : AdminCall) :
    AdminStep s call (call.write env salt s).1 := by
  cases call with
  | createUser email password isSuperuser =>
      unfold AdminCall.write
      dsimp only
      split
      · rename_i users hinsert
        exact .created ⟨s.nextId, email, env.hash salt password, true, isSuperuser⟩ rfl
          (insert_eq_some hinsert)
      · exact .quiet
  | patchUser userId data =>
      unfold AdminCall.write
      dsimp only
      split
      · rename_i user users hupdate
        unfold updateUser at hupdate
        split at hupdate
        · cases hupdate
        · split at hupdate
          · cases hupdate
            exact .quiet
          · obtain ⟨users', hupdated, heq⟩ := Option.map_eq_some_iff.1 hupdate
            cases heq
            exact .patched rfl _ (update_eq_some hupdated)
      · exact .quiet
      · exact .quiet
  | deleteUser userId => exact .deleted rfl

theorem adminStep_of_advance {caller : Bool} {salt : Nat} {s s' : Store} {call : AdminCall}
    {phase phase' : AdminPhase}
    (h : call.advance env caller salt s phase = some (s', phase')) :
    AdminStep s call s' := by
  have hwrite : ∀ {x}, call.write env salt s = x → AdminStep s call x.1 := by
    rintro x rfl
    exact adminStep_write salt s call
  unfold AdminCall.advance at h
  split at h
  · split at h
    · cases h
      exact .quiet
    · split at h
      · split at h
        · cases h
          exact .quiet
        · cases h
          exact .quiet
      · split at h
        · exact hwrite (Option.some.inj h)
        · split at h
          · split at h
            · cases h
              exact .quiet
            · cases h
              exact .quiet
          · cases h
            exact .quiet
      · split at h
        · cases h
          exact .quiet
        · cases h
          exact .quiet
  · exact hwrite (Option.some.inj h)
  · cases h

/-- What a step of the system is: a session or a call of `UserService` goes on. -/
inductive AccountsStep (env : AccountsEnv) (s : AccountsState) : AccountsState → Prop
  | session {i : Nat} {c : Session} {tokens : Tokens} {phase : Phase}
      (hi : s.sessions[i]? = some c) (hstep : SessionStep env s.toStore c tokens phase) :
      AccountsStep env s
        { s with
          toTokens := tokens
          sessions := s.sessions.set i ⟨c.call, phase, c.encoded s.toStore⟩
          granted := s.granted ++ (c.grant phase).toList
          past := s.past ++ [s.users] }
  | admin {i : Nat} {a : Admin} {store : Store} {phase : AdminPhase}
      (hi : s.admins[i]? = some a) (hopen : a.phase.ended = false)
      (hstep : AdminStep s.toStore a.call store) :
      AccountsStep env s
        { s with
          toStore := store
          admins := s.admins.set i { a with phase := phase }
          past := s.past ++ [s.users] }

theorem accountsStep_of_step {s s' : AccountsState} {e : AccountsEvent}
    (h : (accountsSystem env).step s e = some s') : AccountsStep env s s' := by
  cases e with
  | session i now =>
      simp only [accountsSystem, AccountsState.answered] at h
      split at h
      · cases h
      · rename_i c hi
        obtain ⟨⟨tokens, phase⟩, hnext, rfl⟩ := Option.map_eq_some_iff.1 h
        exact .session hi (sessionStep_of_answer hnext)
  | sessionFails i =>
      simp only [accountsSystem, AccountsState.answered] at h
      split at h
      · cases h
      · rename_i c hi
        obtain ⟨⟨tokens, phase⟩, hnext, rfl⟩ := Option.map_eq_some_iff.1 h
        exact .session hi (sessionStep_of_fail hnext)
  | admin i salt =>
      simp only [accountsSystem] at h
      split at h
      · cases h
      · rename_i a hi
        obtain ⟨⟨store, phase⟩, hnext, rfl⟩ := Option.map_eq_some_iff.1 h
        have hopen : a.phase.ended = false := by
          cases hphase : a.phase with
          | start => rfl
          | checked => rfl
          | returned reply =>
              rw [hphase] at hnext
              cases hnext
          | raised failure =>
              rw [hphase] at hnext
              cases hnext
        exact .admin hi hopen (adminStep_of_advance hnext)
  | adminFails i =>
      simp only [accountsSystem] at h
      split at h
      · cases h
      · rename_i a hi
        split at h
        · cases h
        · rename_i hended
          cases h
          exact .admin hi (Bool.eq_false_iff.2 hended) .quiet

/-! ## Who vouches for a session -/

section Vouching

variable (env) (past : List UserTable)

/-- The email was once that of the user. -/
def Identified (email : String) (userId : Uuid) : Prop :=
  ∃ users₁, [users₁].Sublist past ∧ (users₁.getByEmail email).map (·.id) = some userId

/-- After that, the password was right for whoever had the email. -/
def Verified (email password : String) (userId : Uuid) : Prop :=
  ∃ users₁ users₂, [users₁, users₂].Sublist past ∧
    (users₁.getByEmail email).map (·.id) = some userId ∧
    ∃ user, users₂.getByEmail email = some user ∧ env.verify password user.hashedPassword = true

/-- After that, the user was active. -/
def Vouched (email password : String) (userId : Uuid) : Prop :=
  ∃ users₁ users₂ users₃, [users₁, users₂, users₃].Sublist past ∧
    (users₁.getByEmail email).map (·.id) = some userId ∧
    (∃ user, users₂.getByEmail email = some user ∧
      env.verify password user.hashedPassword = true) ∧
    users₃.isUserActive userId = true

/-- An access token is about the user, and says that it is a superuser only when
it once was one. -/
def ClaimsOk (userId : Uuid) (access : Option AccessClaims) : Prop :=
  ∃ claims, access = some claims ∧ claims.sub = userId ∧
    (claims.isSuperuser = true → ∃ users ∈ past, users.isSuperuser userId = true)

/-- The user has got tokens before. -/
def HasGrant (granted : List Grant) (userId : Uuid) : Prop := ∃ g ∈ granted, g.userId = userId

/-- What is known of a call where it is suspended. -/
def Session.Ok (granted : List Grant) (c : Session) : Prop :=
  match c.call, c.phase with
  | .login email _, .identified userId => Identified past email userId
  | .login email password, .verified userId => Verified env past email password userId
  | .login email password, .active userId => Vouched env past email password userId
  | .login email password, .cleaned userId => Vouched env past email password userId
  | .login email password, .creating userId _ _ =>
      Vouched env past email password userId ∧ ClaimsOk past userId c.access
  | .refreshAccessToken _, .found userId => HasGrant granted userId
  | .refreshAccessToken _, .allowed userId => HasGrant granted userId
  | .refreshAccessToken _, .rotating userId _ _ =>
      HasGrant granted userId ∧ ClaimsOk past userId c.access
  | _, _ => True

/-- What is known of a pair of tokens that was returned: a password has been
presented for it, however many refreshes ago. -/
def Grant.Ok (g : Grant) : Prop :=
  (∃ email password, Vouched env past email password g.userId) ∧ ClaimsOk past g.userId g.access

end Vouching

section Mono

variable {past : List UserTable} {userId : Uuid} {email password : String}

theorem Vouched.mono (h : Vouched env past email password userId) (later : List UserTable) :
    Vouched env (past ++ later) email password userId := by
  obtain ⟨users₁, users₂, users₃, hpast, h⟩ := h
  exact ⟨users₁, users₂, users₃, hpast.trans (List.sublist_append_left past later), h⟩

theorem ClaimsOk.mono {access : Option AccessClaims} (h : ClaimsOk past userId access)
    (later : List UserTable) : ClaimsOk (past ++ later) userId access := by
  obtain ⟨claims, haccess, hsub, hsuperuser⟩ := h
  refine ⟨claims, haccess, hsub, fun hclaim => ?_⟩
  obtain ⟨users, hmem, husers⟩ := hsuperuser hclaim
  exact ⟨users, List.mem_append_left _ hmem, husers⟩

theorem HasGrant.mono {granted : List Grant} (h : HasGrant granted userId) (more : List Grant) :
    HasGrant (granted ++ more) userId := by
  obtain ⟨g, hg, hid⟩ := h
  exact ⟨g, List.mem_append_left _ hg, hid⟩

theorem Grant.Ok.mono {g : Grant} (h : g.Ok env past) (later : List UserTable) :
    g.Ok env (past ++ later) := by
  obtain ⟨⟨email, password, hvouched⟩, hclaims⟩ := h
  exact ⟨⟨email, password, hvouched.mono later⟩, hclaims.mono later⟩

theorem Session.Ok.mono {granted : List Grant} {c : Session} (h : c.Ok env past granted)
    (later : List UserTable) (more : List Grant) :
    c.Ok env (past ++ later) (granted ++ more) := by
  unfold Session.Ok at h ⊢
  split at h
  · obtain ⟨users₁, hpast, h⟩ := h
    exact ⟨users₁, hpast.trans (List.sublist_append_left past later), h⟩
  · obtain ⟨users₁, users₂, hpast, h⟩ := h
    exact ⟨users₁, users₂, hpast.trans (List.sublist_append_left past later), h⟩
  · exact h.mono later
  · exact h.mono later
  · exact ⟨h.1.mono later, h.2.mono later⟩
  · exact h.mono more
  · exact h.mono more
  · exact ⟨h.1.mono more, h.2.mono later⟩
  · trivial

end Mono

/-! ## The invariant -/

variable (env) in
/-- **What holds of users, tokens and calls.** -/
structure AccountsInv (s : AccountsState) : Prop where
  fresh : ∀ user ∈ s.users.table.rows, user.id < s.nextId
  /-- A token that is stored belongs to a user, -/
  owned : ∀ row ∈ s.table.rows, ∃ user ∈ s.users.table.rows, user.id = row.userId
  /-- who has got it. -/
  rows : ∀ row ∈ s.table.rows, HasGrant s.granted row.userId
  sessions : ∀ c ∈ s.sessions, c.Ok env s.past s.granted
  granted : ∀ g ∈ s.granted, g.Ok env s.past

theorem accountsInv_init {s : AccountsState} (h : (accountsSystem env).init s) :
    AccountsInv env s := by
  obtain ⟨htable, hfresh, hsessions, -, hgranted, -⟩ := h
  refine ⟨hfresh, by simp [htable, Table.empty], by simp [htable, Table.empty], ?_,
    by simp [hgranted]⟩
  intro c hc
  unfold Session.Ok
  rw [hsessions c hc]
  cases c.call <;> trivial

section SessionSteps

variable {s : AccountsState} {c : Session} {tokens : Tokens} {phase : Phase}

/-- A row after a step is an old one, or belongs to the user the step is about. -/
theorem SessionStep.row_cases (h : SessionStep env s.toStore c tokens phase)
    (hinv : AccountsInv env s) {row : TokenRow} (hrow : row ∈ tokens.table.rows) :
    row ∈ s.table.rows ∨ (∃ user ∈ s.users.table.rows, user.id = row.userId) ∧
      ∃ g, c.grant phase = some g ∧ g.userId = row.userId := by
  cases h with
  | cleaned hcall hphase now => exact .inl (Table.mem_keep.1 hrow).1
  | @loggedIn email password userId token expiresAt user hcall hphase huser =>
      rcases Table.mem_put.1 hrow with rfl | ⟨hrow, -⟩
      · refine .inr ⟨⟨user, Table.mem_of_find? huser, Table.key_of_find? huser⟩, ?_⟩
        exact ⟨⟨userId, token, c.access⟩, by simp [Session.grant, hphase], rfl⟩
      · exact .inl hrow
  | @refreshed h old token expiresAt hcall hphase hold =>
      rcases Table.mem_put.1 hrow with rfl | ⟨hrow, -⟩
      · refine .inr ⟨hinv.owned old (Table.mem_of_find? hold), ?_⟩
        exact ⟨⟨old.userId, token, c.access⟩, by simp [Session.grant, hphase], rfl⟩
      · exact .inl (Table.mem_erase.1 hrow).1
  | loggedOut hcall hphase => exact .inl (Table.mem_erase.1 hrow).1
  | raises hended => exact .inl hrow
  | identified hcall hphase huser => exact .inl hrow
  | verified hcall hphase huser hverify => exact .inl hrow
  | active hcall hphase hactive => exact .inl hrow
  | draws hcall hphase expiresAt => exact .inl hrow
  | found hcall hphase hfound => exact .inl hrow
  | allowed hcall hphase hactive => exact .inl hrow
  | redraws hcall hphase huser expiresAt => exact .inl hrow

/-- Tokens are returned by the last step of a login, for a user there is, or by
that of a refresh, for the user of the token it consumes. -/
theorem SessionStep.grant_cases (h : SessionStep env s.toStore c tokens phase) {g : Grant}
    (hg : c.grant phase = some g) :
    (∃ email password token expiresAt user, c.call = .login email password ∧
        c.phase = .creating g.userId token expiresAt ∧
        s.users.getById g.userId = some user ∧ g.access = c.access) ∨
      ∃ hash row token expiresAt, c.call = .refreshAccessToken hash ∧
        c.phase = .rotating g.userId token expiresAt ∧ row ∈ s.table.rows ∧
        row.userId = g.userId ∧ g.access = c.access := by
  cases h with
  | @loggedIn email password userId token expiresAt user hcall hphase huser =>
      simp only [Session.grant, hphase, Option.some.injEq] at hg
      subst hg
      exact .inl ⟨email, password, token, expiresAt, user, hcall, hphase, huser, rfl⟩
  | @refreshed hash row token expiresAt hcall hphase hrow =>
      simp only [Session.grant, hphase, Option.some.injEq] at hg
      subst hg
      exact .inr ⟨hash, row, token, expiresAt, hcall, hphase, Table.mem_of_find? hrow, rfl, rfl⟩
  | raises hended => cases hg
  | identified hcall hphase huser => cases hg
  | verified hcall hphase huser hverify => cases hg
  | active hcall hphase hactive => cases hg
  | cleaned hcall hphase now => cases hg
  | draws hcall hphase expiresAt => cases hg
  | found hcall hphase hrow => cases hg
  | allowed hcall hphase hactive => cases hg
  | redraws hcall hphase huser expiresAt => cases hg
  | loggedOut hcall hphase => cases hg

/-- What is returned is vouched for. -/
theorem SessionStep.grant_ok (h : SessionStep env s.toStore c tokens phase)
    (hinv : AccountsInv env s) (hc : c.Ok env s.past s.granted) {g : Grant}
    (hg : c.grant phase = some g) : g.Ok env s.past := by
  unfold Session.Ok at hc
  rcases h.grant_cases hg with
    ⟨email, password, token, expiresAt, user, hcall, hphase, -, haccess⟩ |
    ⟨hash, row, token, expiresAt, hcall, hphase, -, -, haccess⟩
  · simp only [hcall, hphase] at hc
    exact ⟨⟨email, password, hc.1⟩, haccess ▸ hc.2⟩
  · simp only [hcall, hphase] at hc
    obtain ⟨⟨g', hg', hid⟩, hclaims⟩ := hc
    exact ⟨hid ▸ (hinv.granted g' hg').1, haccess ▸ hclaims⟩

/-- What is known of the call after a step. -/
theorem SessionStep.ok (h : SessionStep env s.toStore c tokens phase)
    (hinv : AccountsInv env s) (hc : c.Ok env s.past s.granted) :
    Session.Ok env (s.past ++ [s.users]) (s.granted ++ (c.grant phase).toList)
      ⟨c.call, phase, c.encoded s.toStore⟩ := by
  unfold Session.Ok at hc ⊢
  cases h with
  | raises hended => cases c.call <;> trivial
  | identified hcall hphase huser =>
      simp only [hcall]
      exact ⟨s.users, List.sublist_append_right _ _, by rw [huser]; rfl⟩
  | verified hcall hphase huser hverify =>
      simp only [hcall, hphase] at hc ⊢
      obtain ⟨users₁, hpast, hid⟩ := hc
      exact ⟨users₁, s.users, hpast.append (List.Sublist.refl _), hid, _, huser, hverify⟩
  | active hcall hphase hactive =>
      simp only [hcall, hphase] at hc ⊢
      obtain ⟨users₁, users₂, hpast, hid, hverify⟩ := hc
      exact ⟨users₁, users₂, s.users, hpast.append (List.Sublist.refl _), hid, hverify, hactive⟩
  | cleaned hcall hphase now =>
      simp only [hcall, hphase] at hc ⊢
      exact hc.mono _
  | draws hcall hphase expiresAt =>
      simp only [hcall, hphase, Session.encoded] at hc ⊢
      refine ⟨hc.mono _, _, rfl, rfl, fun hclaim => ⟨s.users, ?_, hclaim⟩⟩
      exact List.mem_append_right _ (List.mem_singleton_self _)
  | loggedIn hcall hphase huser =>
      simp only [hcall]
  | @found h row hcall hphase hrow =>
      simp only [hcall]
      exact (hinv.rows row (Table.mem_of_find? hrow)).mono _
  | allowed hcall hphase hactive =>
      simp only [hcall, hphase] at hc ⊢
      exact hc.mono _
  | @redraws h userId user hcall hphase huser expiresAt =>
      simp only [hcall, hphase, Session.encoded, huser, Option.map_some] at hc ⊢
      refine ⟨hc.mono _, _, rfl, rfl, fun hclaim => ⟨s.users, ?_, ?_⟩⟩
      · exact List.mem_append_right _ (List.mem_singleton_self _)
      · simp only [UserTable.isSuperuser, huser]
        exact hclaim
  | refreshed hcall hphase hrow =>
      simp only [hcall]
  | loggedOut hcall hphase =>
      simp only [hcall]

end SessionSteps

/-- Ids stay below the next one, and a token keeps its user, who is deleted only
together with it. -/
theorem AdminStep.keeps {s : Store} {call : AdminCall} {s' : Store} (h : AdminStep s call s')
    (hfresh : ∀ user ∈ s.users.table.rows, user.id < s.nextId)
    (howned : ∀ row ∈ s.table.rows, ∃ user ∈ s.users.table.rows, user.id = row.userId) :
    (∀ user ∈ s'.users.table.rows, user.id < s'.nextId) ∧
      (∀ row ∈ s'.table.rows, ∃ user ∈ s'.users.table.rows, user.id = row.userId) ∧
      ∀ row ∈ s'.table.rows, row ∈ s.table.rows := by
  cases h with
  | quiet => exact ⟨hfresh, howned, fun row hrow => hrow⟩
  | created user hid hrows =>
      dsimp only
      rw [hrows]
      refine ⟨?_, ?_, fun row hrow => hrow⟩
      · intro other hother
        rcases List.mem_append.1 hother with hother | hother
        · exact Nat.lt_succ_of_lt (hfresh other hother)
        · rw [List.mem_singleton.1 hother, hid]
          exact Nat.lt_succ_self _
      · intro row hrow
        obtain ⟨owner, hmem, howner⟩ := howned row hrow
        exact ⟨owner, List.mem_append_left _ hmem, howner⟩
  | @patched userId data hcall users hash htable =>
      dsimp only
      rw [htable]
      refine ⟨?_, ?_, fun row hrow => hrow⟩
      · intro other hother
        obtain ⟨user, huser, rfl⟩ := Table.mem_modify.1 hother
        have hlt := hfresh user huser
        split
        · exact hlt
        · exact hlt
      · intro row hrow
        obtain ⟨owner, hmem, howner⟩ := howned row hrow
        refine ⟨_, Table.mem_modify.2 ⟨owner, hmem, rfl⟩, ?_⟩
        split
        · exact howner
        · exact howner
  | @deleted userId hcall =>
      refine ⟨fun user huser => hfresh user (Table.mem_erase.1 huser).1, ?_,
        fun row hrow => (Table.mem_keep.1 hrow).1⟩
      intro row hrow
      obtain ⟨hrow, hne⟩ := Table.mem_keep.1 hrow
      obtain ⟨owner, hmem, howner⟩ := howned row hrow
      exact ⟨owner, Table.mem_erase.2 ⟨hmem, howner ▸ of_decide_eq_true hne⟩, howner⟩

/-- **Every step keeps the invariant.** -/
theorem AccountsInv.step {s s' : AccountsState} (hinv : AccountsInv env s)
    (h : AccountsStep env s s') : AccountsInv env s' := by
  cases h with
  | @session i c tokens phase hi hstep =>
      have hc := hinv.sessions c (List.mem_of_getElem? hi)
      refine ⟨hinv.fresh, ?_, ?_, ?_, ?_⟩
      · intro row hrow
        rcases hstep.row_cases hinv hrow with hold | ⟨hnew, -⟩
        · exact hinv.owned row hold
        · exact hnew
      · intro row hrow
        rcases hstep.row_cases hinv hrow with hold | ⟨-, g, hg, hid⟩
        · exact (hinv.rows row hold).mono _
        · exact ⟨g, List.mem_append_right _ (by simp [hg]), hid⟩
      · intro c' hc'
        rcases List.mem_or_eq_of_mem_set hc' with hold | rfl
        · exact (hinv.sessions c' hold).mono _ _
        · exact hstep.ok hinv hc
      · intro g hg
        rcases List.mem_append.1 hg with hold | hnew
        · exact (hinv.granted g hold).mono _
        · exact (hstep.grant_ok hinv hc (by simpa using hnew)).mono _
  | @admin i a store phase hi hopen hstep =>
      obtain ⟨hfresh, howned, hrows⟩ := hstep.keeps hinv.fresh hinv.owned
      refine ⟨hfresh, howned, fun row hrow => hinv.rows row (hrows row hrow), ?_, ?_⟩
      · intro c hc
        simpa using (hinv.sessions c hc).mono [s.users] []
      · exact fun g hg => (hinv.granted g hg).mono _

theorem accountsInv_of_reachable {s : AccountsState} (h : (accountsSystem env).Reachable s) :
    AccountsInv env s :=
  h.invariant (fun _ => accountsInv_init) fun _ _ _ hs _ hstep => hs.step (accountsStep_of_step hstep)

/-! ## Every session goes back to a password -/

/-- The user a call has found to be active, until it returns. -/
def Phase.cleared : Phase → Option Uuid
  | .active userId | .cleaned userId | .creating userId _ _ => some userId
  | .allowed userId | .rotating userId _ _ => some userId
  | _ => none

/-- The calls that have found the user to be active, and are not over. -/
def inFlight (userId : Uuid) (s : AccountsState) : Nat :=
  s.sessions.countP fun c => c.phase.cleared = some userId

/-- The pairs of tokens that the user has got. -/
def grantedTo (userId : Uuid) (s : AccountsState) : Nat :=
  s.granted.countP fun g => g.userId = userId

/-- The call may still set `is_active` of the user. -/
def Admin.Reactivates (userId : Uuid) (a : Admin) : Prop :=
  ∃ data, a.call = .patchUser userId data ∧ data.isActive = some true ∧ a.phase.ended = false

/-- A step of a call for a user who is not active returns tokens only when the
call is in flight, and is not in flight afterwards. -/
theorem SessionStep.grant_add_cleared_le {s : Store} {c : Session} {tokens : Tokens}
    {phase : Phase} (h : SessionStep env s c tokens phase) {userId : Uuid}
    (hinactive : s.users.isUserActive userId = false) :
    (c.grant phase).toList.countP (fun g => g.userId = userId) +
        (if phase.cleared = some userId then 1 else 0) ≤
      if c.phase.cleared = some userId then 1 else 0 := by
  cases h with
  | raises hended => simp [Session.grant, Phase.cleared]
  | identified hcall hphase huser => simp [Session.grant, Phase.cleared]
  | verified hcall hphase huser hverify => simp [Session.grant, Phase.cleared]
  | @active email password other hcall hphase hactive =>
      have hne : other ≠ userId := by
        rintro rfl
        rw [hinactive] at hactive
        cases hactive
      simp [Session.grant, Phase.cleared, hne]
  | cleaned hcall hphase now => simp [Session.grant, Phase.cleared, hphase]
  | draws hcall hphase expiresAt => simp [Session.grant, Phase.cleared, hphase]
  | loggedIn hcall hphase huser => simp [Session.grant, Phase.cleared, hphase, List.countP_cons]
  | found hcall hphase hrow => simp [Session.grant, Phase.cleared]
  | @allowed h other hcall hphase hactive =>
      have hne : other ≠ userId := by
        rintro rfl
        rw [hinactive] at hactive
        cases hactive
      simp [Session.grant, Phase.cleared, hne]
  | redraws hcall hphase huser expiresAt => simp [Session.grant, Phase.cleared, hphase]
  | refreshed hcall hphase hrow => simp [Session.grant, Phase.cleared, hphase, List.countP_cons]
  | loggedOut hcall hphase => simp [Session.grant, Phase.cleared]

/-- A user who is not active stays so, as long as no call sets `is_active`. -/
theorem AdminStep.inactive {s s' : Store} {call : AdminCall} (h : AdminStep s call s')
    {userId : Uuid} (hinactive : s.users.isUserActive userId = false) (hdrawn : userId < s.nextId)
    (hcall : ∀ data, call = .patchUser userId data → data.isActive ≠ some true) :
    s'.users.isUserActive userId = false ∧ userId < s'.nextId := by
  cases h with
  | quiet => exact ⟨hinactive, hdrawn⟩
  | created user hid hrows =>
      refine ⟨?_, Nat.lt_succ_of_lt hdrawn⟩
      have hne : user.id ≠ userId := by
        rw [hid]
        exact Nat.ne_of_gt hdrawn
      simp only [UserTable.isUserActive, UserTable.getById, Table.find?, hrows, List.find?_append]
      simpa [UserTable.isUserActive, UserTable.getById, Table.find?, hne] using hinactive
  | @patched id data hpatch users hash htable =>
      refine ⟨?_, hdrawn⟩
      have hget : users.table.find? userId = if userId = id
          then (s.users.table.find? userId).map (data.apply hash)
          else s.users.table.find? userId := by
        rw [htable, Table.find?_modify]
      simp only [UserTable.isUserActive, UserTable.getById, hget]
      simp only [UserTable.isUserActive, UserTable.getById] at hinactive
      split
      · rename_i user huser
        split at huser
        · rename_i heq
          subst heq
          obtain ⟨old, hold, rfl⟩ := Option.map_eq_some_iff.1 huser
          rw [hold] at hinactive
          have hset := hcall data hpatch
          cases hactive : data.isActive with
          | none =>
              simp only [UserUpdate.apply, hactive, Option.getD_none]
              exact hinactive
          | some value =>
              cases value with
              | false => simp [UserUpdate.apply, hactive]
              | true => exact absurd hactive hset
        · rw [huser] at hinactive
          exact hinactive
      · rfl
  | @deleted id hdelete =>
      refine ⟨?_, hdrawn⟩
      simp only [UserTable.isUserActive, UserTable.getById, UserTable.delete, Table.find?_erase]
      split
      · rename_i user huser
        split at huser
        · cases huser
        · simpa [UserTable.isUserActive, UserTable.getById, huser] using hinactive
      · rfl

/-- No step brings a call back that is over. -/
theorem mem_set_reactivates {admins : List Admin} {i : Nat} {a a' : Admin} {phase : AdminPhase}
    (hi : admins[i]? = some a) (hopen : a.phase.ended = false) {userId : Uuid}
    (h : ∀ a ∈ admins, ¬ a.Reactivates userId)
    (ha' : a' ∈ admins.set i { a with phase := phase }) : ¬ a'.Reactivates userId := by
  rcases List.mem_or_eq_of_mem_set ha' with hold | rfl
  · exact h a' hold
  · rintro ⟨data, hcall, hactive, -⟩
    exact h a (List.mem_of_getElem? hi) ⟨data, hcall, hactive, hopen⟩

/-- What is known of a user who is not active, in a run from `s`. -/
structure Closed (userId : Uuid) (s t : AccountsState) : Prop where
  inactive : t.users.isUserActive userId = false
  drawn : userId < t.nextId
  calls : ∀ a ∈ t.admins, ¬ a.Reactivates userId
  granted : grantedTo userId t + inFlight userId t ≤ grantedTo userId s + inFlight userId s

theorem Closed.step {userId : Uuid} {s t t' : AccountsState} (h : Closed userId s t)
    (hstep : AccountsStep env t t') : Closed userId s t' := by
  cases hstep with
  | @session i c tokens phase hi hsession =>
      refine ⟨h.inactive, h.drawn, h.calls, Nat.le_trans ?_ h.granted⟩
      obtain ⟨hlt, hget⟩ := List.getElem?_eq_some_iff.1 hi
      have hle := hsession.grant_add_cleared_le h.inactive
      have hpos : (if c.phase.cleared = some userId then 1 else 0) ≤ inFlight userId t := by
        split
        · rename_i hcleared
          refine List.countP_pos_iff.2 ⟨c, List.mem_of_getElem? hi, ?_⟩
          simpa using hcleared
        · exact Nat.zero_le _
      simp only [grantedTo, inFlight, List.countP_append, List.countP_set hlt, hget,
        decide_eq_true_eq] at hle hpos ⊢
      omega
  | @admin i a store phase hi hopen hadmin =>
      have hcall : ∀ data, a.call = .patchUser userId data → data.isActive ≠ some true :=
        fun data hpatch hactive =>
          h.calls a (List.mem_of_getElem? hi) ⟨data, hpatch, hactive, hopen⟩
      obtain ⟨hinactive, hdrawn⟩ := hadmin.inactive h.inactive h.drawn hcall
      exact ⟨hinactive, hdrawn, fun a' ha' => mem_set_reactivates hi hopen h.calls ha', h.granted⟩

/-- **A user who is deactivated gets no more tokens than were on their way.**
Whatever happens from then on, unless a call sets `is_active` again: only the
calls that had found the user to be active may still return. -/
theorem closed_exec {userId : Uuid} {s t : AccountsState} {run : List AccountsEvent}
    (hinactive : s.users.isUserActive userId = false) (hdrawn : userId < s.nextId)
    (hcalls : ∀ a ∈ s.admins, ¬ a.Reactivates userId)
    (hrun : (accountsSystem env).exec s run = some t) :
    t.users.isUserActive userId = false ∧
      grantedTo userId t + inFlight userId t ≤ grantedTo userId s + inFlight userId s := by
  have hstart : Closed userId s s := ⟨hinactive, hdrawn, hcalls, Nat.le_refl _⟩
  have hend : Closed userId s t := System.exec_invariant
    (fun _ _ _ h hstep => h.step (accountsStep_of_step hstep)) hstart hrun
  exact ⟨hend.inactive, hend.granted⟩

/-- A call returns tokens only for a user there is. -/
theorem SessionStep.grant_user {s : AccountsState} {c : Session} {tokens : Tokens} {phase : Phase}
    (h : SessionStep env s.toStore c tokens phase) (hinv : AccountsInv env s) {g : Grant}
    (hg : c.grant phase = some g) : ∃ user, s.users.getById g.userId = some user := by
  rcases h.grant_cases hg with
    ⟨email, password, token, expiresAt, user, hcall, hphase, huser, haccess⟩ |
    ⟨hash, row, token, expiresAt, hcall, hphase, hrow, hid, haccess⟩
  · exact ⟨user, huser⟩
  · obtain ⟨user, hmem, huser⟩ := hinv.owned row hrow
    exact ⟨user, Table.find?_eq_some.2 ⟨hmem, huser.trans hid⟩⟩

/-- A user who is deleted is not created again: every user has a new id. -/
theorem AdminStep.absent {s s' : Store} {call : AdminCall} (h : AdminStep s call s')
    {userId : Uuid} (habsent : s.users.getById userId = none) (hdrawn : userId < s.nextId) :
    s'.users.getById userId = none ∧ userId < s'.nextId := by
  cases h with
  | quiet => exact ⟨habsent, hdrawn⟩
  | created user hid hrows =>
      refine ⟨?_, Nat.lt_succ_of_lt hdrawn⟩
      have hne : user.id ≠ userId := by
        rw [hid]
        exact Nat.ne_of_gt hdrawn
      simp only [UserTable.getById, Table.find?, hrows, List.find?_append]
      simpa [UserTable.getById, Table.find?, hne] using habsent
  | @patched id data hpatch users hash htable =>
      refine ⟨?_, hdrawn⟩
      simp only [UserTable.getById] at habsent ⊢
      rw [htable, Table.find?_modify, habsent]
      simp
  | @deleted id hdelete =>
      refine ⟨?_, hdrawn⟩
      simp only [UserTable.getById, UserTable.delete] at habsent ⊢
      rw [Table.find?_erase, habsent]
      simp

/-- What is known of a user who is deleted, in a run from `s`. -/
structure Erased (env : AccountsEnv) (userId : Uuid) (s t : AccountsState) : Prop where
  inv : AccountsInv env t
  absent : t.users.getById userId = none
  drawn : userId < t.nextId
  granted : (t.granted.filter fun g => g.userId = userId) =
    s.granted.filter fun g => g.userId = userId

theorem Erased.step {userId : Uuid} {s t t' : AccountsState} (h : Erased env userId s t)
    (hstep : AccountsStep env t t') : Erased env userId s t' := by
  have hinv := h.inv.step hstep
  cases hstep with
  | @session i c tokens phase hi hsession =>
      refine ⟨hinv, h.absent, h.drawn, ?_⟩
      have hnone : ((c.grant phase).toList.filter fun g => g.userId = userId) = [] := by
        refine List.filter_eq_nil_iff.2 fun g hg => ?_
        obtain ⟨user, huser⟩ := hsession.grant_user h.inv (by simpa using hg)
        rw [decide_eq_true_eq]
        rintro rfl
        rw [h.absent] at huser
        cases huser
      show (List.filter _ (t.granted ++ _)) = _
      rw [List.filter_append, hnone, List.append_nil]
      exact h.granted
  | @admin i a store phase hi hopen hadmin =>
      obtain ⟨habsent, hdrawn⟩ := hadmin.absent h.absent h.drawn
      exact ⟨hinv, habsent, hdrawn, h.granted⟩

/-- **A user who is deleted is gone.**  No call returns tokens for it any more, not
even one that was under way, and none is stored, in any run from then on. -/
theorem erased_exec {userId : Uuid} {s t : AccountsState} {run : List AccountsEvent}
    (h : (accountsSystem env).Reachable s) (habsent : s.users.getById userId = none)
    (hdrawn : userId < s.nextId) (hrun : (accountsSystem env).exec s run = some t) :
    t.users.getById userId = none ∧ (∀ row ∈ t.table.rows, row.userId ≠ userId) ∧
      (t.granted.filter fun g => g.userId = userId) =
        s.granted.filter fun g => g.userId = userId := by
  have hstart : Erased env userId s s := ⟨accountsInv_of_reachable h, habsent, hdrawn, rfl⟩
  have hend : Erased env userId s t := System.exec_invariant
    (fun _ _ _ h hstep => h.step (accountsStep_of_step hstep)) hstart hrun
  refine ⟨hend.absent, fun row hrow hid => ?_, hend.granted⟩
  obtain ⟨user, hmem, huser⟩ := hend.inv.owned row hrow
  exact Table.find?_eq_none.1 hend.absent user hmem (huser.trans hid)

/-! ## A run -/

/-- Hashes one can see through, for an example. -/
def plainEnv : AccountsEnv where
  hashToken n := String.ofList (List.replicate n 'a')
  lifetime := 7
  hash _ password := password
  verify password hashed := password = hashed
  printUuid _ := "7"

/-- One user, who logs in twice and refreshes once; the user is deactivated, and
deleted. -/
def oneUser : AccountsState where
  table := .empty
  drawn := 0
  issued := []
  users := ⟨⟨[⟨0, "ada@nexus", "secret", true, true⟩], by simp⟩, by simp⟩
  nextId := 1
  sessions := [⟨.login "ada@nexus" "secret", .start, none⟩,
    ⟨.login "ada@nexus" "secret", .start, none⟩, ⟨.refreshAccessToken "", .start, none⟩]
  admins := [⟨.patchUser 0 { isActive := some false }, true, .start⟩,
    ⟨.deleteUser 0, true, .start⟩]
  granted := []
  past := []

theorem init_oneUser : (accountsSystem plainEnv).init oneUser := by
  refine ⟨rfl, ?_, ?_, ?_, rfl, rfl⟩ <;> simp [oneUser]

/-- The first login has passed the check when the user is deactivated. -/
def deactivatedUnderWay : List AccountsEvent :=
  [.session 0 1, .session 0 1, .session 0 1, .admin 0 0]

/-- The two logins go on. -/
def loginsGoOn : List AccountsEvent :=
  [.session 1 2, .session 0 2, .session 0 2, .session 0 2, .session 1 3, .session 1 3]

/-- The first login still returns, the second one does not. -/
theorem closed_oneUser : ∃ s t,
    (accountsSystem plainEnv).exec oneUser deactivatedUnderWay = some s ∧
      (accountsSystem plainEnv).exec s loginsGoOn = some t ∧
      inFlight 0 s = 1 ∧ grantedTo 0 t = 1 ∧ t.users.isUserActive 0 = false ∧
      grantedTo 0 t + inFlight 0 t ≤ grantedTo 0 s + inFlight 0 s := by
  obtain ⟨s, hs, t, ht, hflight, hgranted, hinactive, hdrawn, hcalls⟩ : ∃ s,
      (accountsSystem plainEnv).exec oneUser deactivatedUnderWay = some s ∧
      ∃ t, (accountsSystem plainEnv).exec s loginsGoOn = some t ∧
        inFlight 0 s = 1 ∧ grantedTo 0 t = 1 ∧ s.users.isUserActive 0 = false ∧ 0 < s.nextId ∧
        ∀ a ∈ s.admins, ¬ a.Reactivates 0 := by
    refine ⟨_, rfl, _, rfl, rfl, rfl, rfl, Nat.lt_succ_self 0, ?_⟩
    simp [oneUser, Admin.Reactivates]
  obtain ⟨hclosed, hle⟩ := closed_exec hinactive hdrawn hcalls ht
  exact ⟨s, t, hs, ht, hflight, hgranted, hclosed, hle⟩

/-- The first login returns, its token is presented, and the user is deleted. -/
def deletedUnderWay : List AccountsEvent :=
  [.session 0 1, .session 0 1, .session 0 1, .session 0 1, .session 0 1, .session 0 1,
    .session 2 2, .admin 1 0, .admin 1 0]

/-- The refresh is not granted, and nothing is stored. -/
theorem erased_oneUser : ∃ s t,
    (accountsSystem plainEnv).exec oneUser deletedUnderWay = some s ∧
      (accountsSystem plainEnv).exec s [.session 2 3] = some t ∧ grantedTo 0 s = 1 ∧
      (t.users.getById 0 = none ∧ (∀ row ∈ t.table.rows, row.userId ≠ 0) ∧
        (t.granted.filter fun g => g.userId = 0) = s.granted.filter fun g => g.userId = 0) := by
  obtain ⟨s, hs, t, ht, hgranted, habsent, hdrawn⟩ : ∃ s,
      (accountsSystem plainEnv).exec oneUser deletedUnderWay = some s ∧
      ∃ t, (accountsSystem plainEnv).exec s [.session 2 3] = some t ∧
        grantedTo 0 s = 1 ∧ s.users.getById 0 = none ∧ 0 < s.nextId :=
    ⟨_, rfl, _, rfl, rfl, rfl, Nat.lt_succ_self 0⟩
  refine ⟨s, t, hs, ht, hgranted, ?_⟩
  exact erased_exec (System.reachable_of_exec init_oneUser hs) habsent hdrawn ht

end Auth
end NodeNexus
