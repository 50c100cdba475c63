import NodeNexus.Auth.RefreshTokens
import NodeNexus.Node.Service

/-!
# Users and their sessions: the code

`UserService` writes `users`, `AuthService` reads it at every step of a login and
of a refresh.  Each gateway method is a transaction of its own, so users are
renamed, deactivated and deleted between any two steps of a login.

* `UserTable` is `users` under its two unique indexes; `updateUser` is the only
  write with a branch.
* `AdminCall.advance` is the next transaction of a call of `UserService`.
* `AuthCall.answer` is what the reads of `AuthService` answer; `Phase.advance`
  says what an answer makes of a call.
* `accountsSystem` lets all of them take turns.
-/

namespace NodeNexus
namespace Auth

open Content
open Node (DomainErrorClass)

/-! ## The user table -/

/-- `UserModel`. -/
structure UserModel where
  id : Uuid
  email : String
  hashedPassword : String
  isActive : Bool
  isSuperuser : Bool

/-- `users`, with its primary key and `ix_users_email`. -/
structure UserTable where
  table : Table UserModel.id
  emails : (table.rows.map (·.email)).Nodup

namespace UserTable

/-- `get_by_id`. -/
def getById (users : UserTable) (id : Uuid) : Option UserModel := users.table.find? id

/-- `get_by_email`. -/
def getByEmail (users : UserTable) (email : String) : Option UserModel :=
  users.table.rows.find? fun user => user.email = email

/-- INSERT; `none` when a unique index raises. -/
def insert (users : UserTable) (user : UserModel) : Option UserTable :=
  let rows := users.table.rows ++ [user]
  if h : (rows.map (·.id)).Nodup ∧ (rows.map (·.email)).Nodup then some ⟨⟨rows, h.1⟩, h.2⟩
  else none

/-- UPDATE; `none` when the unique index raises. -/
def update (users : UserTable) (id : Uuid) (f : UserModel → UserModel)
    (hf : ∀ user, (f user).id = user.id) : Option UserTable :=
  let table := users.table.modify id f hf
  if h : (table.rows.map (·.email)).Nodup then some ⟨table, h⟩ else none

/-- DELETE. -/
def delete (users : UserTable) (id : Uuid) : UserTable where
  table := users.table.erase id
  emails := (List.Sublist.map _ List.filter_sublist).nodup users.emails

/-- `is_user_active`. -/
def isUserActive (users : UserTable) (id : Uuid) : Bool :=
  match users.getById id with
  | some user => user.isActive
  | none => false

/-- `is_superuser`. -/
def isSuperuser (users : UserTable) (id : Uuid) : Bool :=
  match users.getById id with
  | some user => user.isSuperuser
  | none => false

end UserTable

/-- `UserUpdateDTO`. -/
structure UserUpdate where
  email : Option String := none
  password : Option String := none
  isActive : Option Bool := none
  isSuperuser : Option Bool := none

/-- `if not payload`. -/
def UserUpdate.isEmpty (data : UserUpdate) : Bool :=
  data.email.isNone && data.password.isNone && data.isActive.isNone && data.isSuperuser.isNone

/-- What `setattr` makes of the row, field by field. -/
def UserUpdate.apply (hash : String → String) (data : UserUpdate) (user : UserModel) :
    UserModel where
  id := user.id
  email := data.email.getD user.email
  hashedPassword := (data.password.map hash).getD user.hashedPassword
  isActive := data.isActive.getD user.isActive
  isSuperuser := data.isSuperuser.getD user.isSuperuser

theorem UserUpdate.apply_id (hash : String → String) (data : UserUpdate) (user : UserModel) :
    (data.apply hash user).id = user.id := rfl

/-- `update_user`: the user afterwards, if there is one; `none` when the unique
index raises. -/
def updateUser (hash : String → String) (users : UserTable) (id : Uuid) (data : UserUpdate) :
    Option (Option UserModel × UserTable) :=
  match users.getById id with
  | none => some (none, users)
  | some user =>
      if data.isEmpty then some (some user, users)
      else (users.update id (data.apply hash) (data.apply_id hash)).map fun users =>
        (some (data.apply hash user), users)

/-! ## The store, and what runs outside -/

/-- What the transactions work on.  Ids are numbered in the order they are
drawn. -/
structure Store extends Tokens where
  users : UserTable
  nextId : Uuid

/-- `hash_token` of the tokens in the order they are drawn,
`refresh_token_expire_days`, and the password hasher, whose `hash` takes its
salt. -/
structure AccountsEnv where
  hashToken : Nat → String
  lifetime : Time
  hash : Nat → String → String
  verify : String → String → Bool
  printUuid : Uuid → String

/-! ## `UserService` -/

/-- The calls of `UserService` that write. -/
inductive AdminCall where
  | createUser (email password : String) (isSuperuser : Bool)
  | patchUser (userId : Uuid) (data : UserUpdate)
  | deleteUser (userId : Uuid)

/-- What a call raises. -/
inductive AdminFailure where
  | domainError (cls : DomainErrorClass) (text : String)
  /-- A unique index has raised. -/
  | integrityError
  /-- The database is not there. -/
  | other

/-- What a call returns: the user, or `True` or `False`. -/
inductive AdminReply where
  | view (user : UserModel)
  | deleted (result : Bool)

/-- Where a call is suspended: before its first transaction, or between the check
and the write. -/
inductive AdminPhase where
  | start
  | checked
  | returned (reply : AdminReply)
  | raised (failure : AdminFailure)

/-- The call is over. -/
def AdminPhase.ended : AdminPhase → Bool
  | .returned _ | .raised _ => true
  | _ => false

/-- `InsufficientPermissionsError`, with the text of each call. -/
def AdminCall.forbidden : AdminCall → AdminFailure
  | .createUser .. => .domainError .insufficientPermissionsError "Only superusers can create users"
  | .patchUser .. => .domainError .insufficientPermissionsError "Only superusers can update users"
  | .deleteUser .. => .domainError .insufficientPermissionsError "Only superusers can delete users"

/-- `UserAlreadyExistsError`. -/
def alreadyExists (email : String) : AdminFailure :=
  .domainError .userAlreadyExistsError s!"User with email '{email}' already exists"

section Admin

variable (env : AccountsEnv)

/-- `UserNotFoundError`. -/
def AccountsEnv.userNotFound (userId : Uuid) : AdminFailure :=
  .domainError .userNotFoundError s!"User {env.printUuid userId} not found"

/-- The write of a call, one transaction.  A user that is deleted takes the
refresh tokens along. -/
def AdminCall.write (salt : Nat) (s : Store) : AdminCall → Store × AdminPhase
  | .createUser email password isSuperuser =>
      let user : UserModel := ⟨s.nextId, email, env.hash salt password, true, isSuperuser⟩
      match s.users.insert user with
      | some users =>
          ({ s with users := users, nextId := s.nextId + 1 }, .returned (.view user))
      | none => (s, .raised .integrityError)
  | .patchUser userId data =>
      match updateUser (env.hash salt) s.users userId data with
      | some (some user, users) => ({ s with users := users }, .returned (.view user))
      | some (none, _) => (s, .raised (env.userNotFound userId))
      | none => (s, .raised .integrityError)
  | .deleteUser userId =>
      ({ s with
          users := s.users.delete userId
          table := s.table.keep fun row => decide (row.userId ≠ userId) },
        .returned (.deleted (s.users.getById userId).isSome))

/-- The next transaction of a call; `caller` is `caller_is_superuser`. -/
def AdminCall.advance (caller : Bool) (salt : Nat) (s : Store) (call : AdminCall) :
    AdminPhase → Option (Store × AdminPhase)
  | .start =>
      if !caller then some (s, .raised call.forbidden)
      else match call with
        | .createUser email _ _ =>
            match s.users.getByEmail email with
            | some _ => some (s, .raised (alreadyExists email))
            | none => some (s, .checked)
        | .patchUser userId data =>
            match data.email with
            | none => some (call.write env salt s)
            | some email =>
                match s.users.getByEmail email with
                | some existing =>
                    if existing.id ≠ userId then some (s, .raised (alreadyExists email))
                    else some (s, .checked)
                | none => some (s, .checked)
        | .deleteUser userId =>
            match s.users.getById userId with
            | none => some (s, .raised (env.userNotFound userId))
            | some _ => some (s, .checked)
  | .checked => some (call.write env salt s)
  | _ => none

end Admin

/-! ## `AuthService` -/

/-- The calls of `AuthService` that touch the tokens. -/
inductive AuthCall where
  | login (email password : String)
  | refreshAccessToken (refreshTokenHash : String)
  | logout (refreshTokenHash : String)

/-- The call without its credentials. -/
def AuthCall.call : AuthCall → Call
  | .login .. => .login
  | .refreshAccessToken h => .refreshAccessToken h
  | .logout h => .logout h

/-- The claims of an access token that say whose it is. -/
structure AccessClaims where
  sub : Uuid
  email : String
  isSuperuser : Bool

/-- A call, where it is suspended, and the access token it has encoded. -/
structure Session where
  call : AuthCall
  phase : Phase
  access : Option AccessClaims

section Sessions

variable (env : AccountsEnv)

/-- What the next transaction of a call answers. -/
def AuthCall.answer (s : Store) (now : Time) : AuthCall → Phase → Answer
  | .login email _, .start => .userId ((s.users.getByEmail email).map (·.id))
  | .login email password, .identified _ =>
      .password (match s.users.getByEmail email with
        | some user => env.verify password user.hashedPassword
        | none => false)
  | _, .verified userId => .userActive (s.users.isUserActive userId)
  | _, .found userId => .userActive (s.users.isUserActive userId)
  | _, .cleaned _ => .superuser now
  | _, .allowed userId => .user (s.users.getById userId).isSome now
  -- the foreign key raises
  | _, .creating userId _ _ => if (s.users.getById userId).isSome then .tokens now else .fail
  | _, _ => .tokens now

/-- `encode_access_token`, when the call comes to it. -/
def Session.encoded (s : Store) (c : Session) : Option AccessClaims :=
  match c.call, c.phase with
  | .login email _, .cleaned userId => some ⟨userId, email, s.users.isSuperuser userId⟩
  | _, .allowed userId => (s.users.getById userId).map fun user =>
      ⟨userId, user.email, user.isSuperuser⟩
  | _, _ => c.access

/-- A pair of tokens that a call has returned. -/
structure Grant where
  userId : Uuid
  token : Nat
  access : Option AccessClaims

/-- What a step of a call returns, by its phases before and after. -/
def Session.grant (c : Session) : Phase → Option Grant
  | .loggedIn _ =>
      match c.phase with
      | .creating userId token _ => some ⟨userId, token, c.access⟩
      | _ => none
  | .refreshed _ =>
      match c.phase with
      | .rotating userId token _ => some ⟨userId, token, c.access⟩
      | _ => none
  | _ => none

/-- A call of `UserService`, and where it is suspended. -/
structure Admin where
  call : AdminCall
  caller : Bool
  phase : AdminPhase

/-- The store, the calls, what was returned, and the users before each step. -/
structure AccountsState extends Store where
  sessions : List Session
  admins : List Admin
  granted : List Grant
  past : List UserTable

/-- What happens: a call goes on, or its next transaction raises. -/
inductive AccountsEvent where
  | session (i : Nat) (now : Time)
  | sessionFails (i : Nat)
  | admin (i : Nat) (salt : Nat)
  | adminFails (i : Nat)

/-- Session `i` gets an answer. -/
def AccountsState.answered (s : AccountsState) (i : Nat) (answer : Session → Answer) :
    Option AccountsState :=
  match s.sessions[i]? with
  | none => none
  | some c =>
      (Phase.advance env.hashToken env.lifetime s.toTokens c.call.call c.phase (answer c)).map
        fun next =>
          { s with
            toTokens := next.1
            sessions := s.sessions.set i ⟨c.call, next.2, c.encoded s.toStore⟩
            granted := s.granted ++ (c.grant next.2).toList
            past := s.past ++ [s.users] }

/-- Users and sessions.  In the beginning there are users but no tokens, and no
call has started. -/
def accountsSystem : System AccountsState AccountsEvent where
  init s := s.table = .empty ∧ (∀ user ∈ s.users.table.rows, user.id < s.nextId) ∧
    (∀ c ∈ s.sessions, c.phase = .start) ∧ (∀ a ∈ s.admins, a.phase = .start) ∧
    s.granted = [] ∧ s.past = []
  step s e :=
    match e with
    | .session i now => s.answered env i fun c => c.call.answer env s.toStore now c.phase
    | .sessionFails i => s.answered env i fun _ => .fail
    | .admin i salt =>
        match s.admins[i]? with
        | none => none
        | some a => (a.call.advance env a.caller salt s.toStore a.phase).map fun next =>
            { s with
              toStore := next.1
              admins := s.admins.set i { a with phase := next.2 }
              past := s.past ++ [s.users] }
    | .adminFails i =>
        match s.admins[i]? with
        | none => none
        | some a =>
            if a.phase.ended then none
            else some { s with
              admins := s.admins.set i { a with phase := .raised .other }
              past := s.past ++ [s.users] }

end Sessions

end Auth
end NodeNexus
