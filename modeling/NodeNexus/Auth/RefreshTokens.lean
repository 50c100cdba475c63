import NodeNexus.Lib.Table
import NodeNexus.Lib.Traverse
import NodeNexus.Lib.Transition
import NodeNexus.Content.Formats

/-!
# Refresh tokens: the code

`AuthService` issues refresh tokens, exchanges them and deletes them.  A call is
a sequence of gateway methods, each a transaction of its own, and calls
interleave at every await: whether a token is valid is checked first, the user
is read, and the token is consumed later.

* `getUserIdByHash`, `create`, `rotate`, `delete` and `deleteExpiredByUser` are
  the methods of `RefreshTokenRepository`.
* `Phase.advance` says what the next transaction of a call does; what the reads
  of the user answer is part of the event.
* `authSystem` lets any number of calls take turns.
* `Advanced` says once what a step can do.
-/

namespace NodeNexus
namespace Auth

open Content

abbrev Time : Type := Nat

/-! ## The token table -/

/-- `RefreshTokenModel`. -/
structure TokenRow where
  userId : Uuid
  tokenHash : String
  expiresAt : Time

/-- `refresh_tokens` under its unique index on `token_hash`. -/
abbrev TokenTable : Type := Table TokenRow.tokenHash

/-- `get_user_id_by_hash`. -/
def getUserIdByHash (t : TokenTable) (now : Time) (tokenHash : String) : Option Uuid :=
  match t.find? tokenHash with
  | some row => if now < row.expiresAt then some row.userId else none
  | none => none

/-- `create`; `none` when the unique index raises. -/
def create (t : TokenTable) (userId : Uuid) (tokenHash : String) (expiresAt : Time) :
    Option TokenTable :=
  match t.find? tokenHash with
  | some _ => none
  | none => some (t.put ⟨userId, tokenHash, expiresAt⟩)

/-- `rotate`, one transaction; `none` when the unique index raises. -/
def rotate (t : TokenTable) (now : Time) (oldTokenHash : String) (userId : Uuid)
    (newTokenHash : String) (expiresAt : Time) : Option (Bool × TokenTable) :=
  match t.find? oldTokenHash with
  | some row =>
      if row.userId = userId ∧ now < row.expiresAt then
        (create (t.erase oldTokenHash) userId newTokenHash expiresAt).map fun t => (true, t)
      else some (false, t)
  | none => some (false, t)

/-- `delete`. -/
def delete (t : TokenTable) (tokenHash : String) : Bool × TokenTable :=
  ((t.find? tokenHash).isSome, t.erase tokenHash)

/-- `delete_expired_by_user`. -/
def deleteExpiredByUser (t : TokenTable) (now : Time) (userId : Uuid) : Nat × TokenTable :=
  let left := t.keep fun row => !(row.userId = userId && row.expiresAt ≤ now)
  (t.rows.length - left.rows.length, left)

theorem create_eq_some {t t' : TokenTable} {userId : Uuid} {tokenHash : String}
    {expiresAt : Time} (h : create t userId tokenHash expiresAt = some t') :
    t.find? tokenHash = none ∧ t' = t.put ⟨userId, tokenHash, expiresAt⟩ := by
  unfold create at h
  split at h
  · cases h
  · rename_i hnew
    cases h
    exact ⟨hnew, rfl⟩

theorem getUserIdByHash_eq_some {t : TokenTable} {now : Time} {tokenHash : String}
    {userId : Uuid} (h : getUserIdByHash t now tokenHash = some userId) :
    ∃ row, t.find? tokenHash = some row ∧ row.userId = userId ∧ now < row.expiresAt := by
  unfold getUserIdByHash at h
  split at h
  · rename_i row hrow
    split at h
    · rename_i hvalid
      exact ⟨row, hrow, Option.some.inj h, hvalid⟩
    · cases h
  · cases h

/-- A rotation that succeeds has found the old token valid, and exchanged it. -/
theorem rotate_eq_true {t t' : TokenTable} {now : Time} {oldTokenHash newTokenHash : String}
    {userId : Uuid} {expiresAt : Time}
    (h : rotate t now oldTokenHash userId newTokenHash expiresAt = some (true, t')) :
    ∃ row, t.find? oldTokenHash = some row ∧ row.userId = userId ∧ now < row.expiresAt ∧
      (t.erase oldTokenHash).find? newTokenHash = none ∧
      t' = (t.erase oldTokenHash).put ⟨userId, newTokenHash, expiresAt⟩ := by
  unfold rotate at h
  split at h
  · rename_i row hrow
    split at h
    · rename_i hvalid
      obtain ⟨table, hcreate, heq⟩ := Option.map_eq_some_iff.1 h
      cases heq
      obtain ⟨hnew, hput⟩ := create_eq_some hcreate
      exact ⟨row, hrow, hvalid.1, hvalid.2, hnew, hput⟩
    · cases h
  · cases h

/-! ## One call -/

/-- The calls of `AuthService` that touch the table. -/
inductive Call where
  | login
  | refreshAccessToken (refreshTokenHash : String)
  | logout (refreshTokenHash : String)

/-- Where a call is suspended. -/
inductive Phase where
  | start
  /-- `login`: `get_user_id_by_email` has found a user, -/
  | identified (userId : Uuid)
  /-- the password is right, -/
  | verified (userId : Uuid)
  /-- the user is active, -/
  | active (userId : Uuid)
  /-- the expired tokens of the user are deleted, -/
  | cleaned (userId : Uuid)
  /-- and the new token is to be stored. -/
  | creating (userId : Uuid) (token : Nat) (expiresAt : Time)
  | loggedIn (token : Nat)
  /-- `refresh_access_token`: `get_by_hash` has found a user, -/
  | found (userId : Uuid)
  /-- the user is active, -/
  | allowed (userId : Uuid)
  /-- and the token is to be rotated. -/
  | rotating (userId : Uuid) (token : Nat) (expiresAt : Time)
  | refreshed (token : Nat)
  | loggedOut
  | raised

/-- The call is over. -/
def Phase.ended : Phase → Bool
  | .loggedIn _ | .refreshed _ | .loggedOut | .raised => true
  | _ => false

/-- The next transaction of a call, with its answer when it reads the users, and
with the time the call sees. -/
inductive Answer where
  /-- `get_user_id_by_email`. -/
  | userId (found : Option Uuid)
  /-- `get_hashed_password`, and what `verify` says. -/
  | password (ok : Bool)
  /-- `is_user_active`. -/
  | userActive (active : Bool)
  /-- `is_superuser`; then the call goes on at this time. -/
  | superuser (now : Time)
  /-- `get_user`; then the call goes on at this time. -/
  | user (found : Bool) (now : Time)
  /-- A transaction on the token table. -/
  | tokens (now : Time)
  /-- A transaction that raises. -/
  | fail

/-- The token table, how many tokens were drawn, and which ones were issued,
each with the time at which it expires. -/
structure Tokens where
  table : TokenTable
  drawn : Nat
  issued : List (Nat × Time)

section Calls

-- `hash_token` of the tokens in the order they are drawn, and
-- `refresh_token_expire_days`.
variable (hash : Nat → String) (lifetime : Time)

/-- What an answer makes of a call. -/
def Phase.advance (s : Tokens) : Call → Phase → Answer → Option (Tokens × Phase)
  | .login, .start, .userId (some userId) => some (s, .identified userId)
  | .login, .start, .userId none => some (s, .raised)
  | .login, .identified userId, .password ok =>
      some (s, if ok then .verified userId else .raised)
  | .login, .verified userId, .userActive ok =>
      some (s, if ok then .active userId else .raised)
  | .login, .active userId, .tokens now =>
      some ({ s with table := (deleteExpiredByUser s.table now userId).2 }, .cleaned userId)
  | .login, .cleaned userId, .superuser now =>
      some ({ s with drawn := s.drawn + 1 }, .creating userId s.drawn (now + lifetime))
  | .login, .creating userId token expiresAt, .tokens _ =>
      match create s.table userId (hash token) expiresAt with
      | some table =>
          some ({ s with table := table, issued := s.issued ++ [(token, expiresAt)] },
            .loggedIn token)
      | none => some (s, .raised)
  | .refreshAccessToken h, .start, .tokens now =>
      match getUserIdByHash s.table now h with
      | some userId => some (s, .found userId)
      | none => some (s, .raised)
  | .refreshAccessToken _, .found userId, .userActive ok =>
      some (s, if ok then .allowed userId else .raised)
  | .refreshAccessToken _, .allowed userId, .user ok now =>
      if ok then
        some ({ s with drawn := s.drawn + 1 }, .rotating userId s.drawn (now + lifetime))
      else some (s, .raised)
  | .refreshAccessToken h, .rotating userId token expiresAt, .tokens now =>
      match rotate s.table now h userId (hash token) expiresAt with
      | some (true, table) =>
          some ({ s with table := table, issued := s.issued ++ [(token, expiresAt)] },
            .refreshed token)
      | some (false, _) => some (s, .raised)
      | none => some (s, .raised)
  | .logout h, .start, .tokens _ =>
      some ({ s with table := (delete s.table h).2 }, .loggedOut)
  | _, phase, .fail => if phase.ended then none else some (s, .raised)
  | _, _, _ => none

/-- The token that a call has drawn and not stored yet. -/
def Phase.held : Phase → Option Nat
  | .creating _ token _ | .rotating _ token _ => some token
  | _ => none

/-- What a step can do, case by case. -/
inductive Advanced (s : Tokens) (call : Call) (phase : Phase) (answer : Answer) :
    Tokens → Phase → Prop
  /-- It raises, or only reads. -/
  | quiet {phase' : Phase} (hended : phase.ended = false) (hheld : phase'.held = none)
      (hopen : ∀ token, phase' ≠ .refreshed token ∧ phase' ≠ .loggedIn token) :
      Advanced s call phase answer s phase'
  /-- A token is drawn. -/
  | draws {phase' : Phase} (hended : phase.ended = false) (hheld : phase'.held = some s.drawn)
      (hopen : ∀ token, phase' ≠ .refreshed token ∧ phase' ≠ .loggedIn token) :
      Advanced s call phase answer { s with drawn := s.drawn + 1 } phase'
  /-- `login` deletes the expired tokens of the user. -/
  | cleaned {userId : Uuid} {now : Time} (hcall : call = .login) (hphase : phase = .active userId) :
      Advanced s call phase answer
        { s with table := (deleteExpiredByUser s.table now userId).2 } (.cleaned userId)
  /-- `login` stores its token. -/
  | loggedIn {userId : Uuid} {token : Nat} {expiresAt : Time} (hcall : call = .login)
      (hphase : phase = .creating userId token expiresAt)
      (hnew : s.table.find? (hash token) = none) :
      Advanced s call phase answer
        { s with
          table := s.table.put ⟨userId, hash token, expiresAt⟩
          issued := s.issued ++ [(token, expiresAt)] } (.loggedIn token)
  /-- `refresh_access_token` consumes a token and stores the new one. -/
  | refreshed {h : String} {token : Nat} {expiresAt now : Time} {row : TokenRow}
      (hcall : call = .refreshAccessToken h) (hphase : phase = .rotating row.userId token expiresAt)
      (hanswer : answer = .tokens now) (hrow : s.table.find? h = some row)
      (hvalid : now < row.expiresAt) (hnew : (s.table.erase h).find? (hash token) = none) :
      Advanced s call phase answer
        { s with
          table := (s.table.erase h).put ⟨row.userId, hash token, expiresAt⟩
          issued := s.issued ++ [(token, expiresAt)] } (.refreshed token)
  /-- `logout` deletes a token. -/
  | loggedOut {h : String} (hcall : call = .logout h) (hphase : phase = .start) :
      Advanced s call phase answer { s with table := s.table.erase h } .loggedOut

theorem advanced_of_advance {s s' : Tokens} {call : Call} {phase phase' : Phase} {answer : Answer}
    (h : Phase.advance hash lifetime s call phase answer = some (s', phase')) :
    Advanced hash s call phase answer s' phase' := by
  unfold Phase.advance at h
  split at h
  · cases h
    exact .quiet rfl rfl (by simp)
  · cases h
    exact .quiet rfl rfl (by simp)
  · rename_i userId ok
    cases h
    cases ok with
    | true => exact .quiet rfl rfl (by simp)
    | false => exact .quiet rfl rfl (by simp)
  · rename_i userId ok
    cases h
    cases ok with
    | true => exact .quiet rfl rfl (by simp)
    | false => exact .quiet rfl rfl (by simp)
  · cases h
    exact .cleaned rfl rfl
  · cases h
    exact .draws rfl rfl (by simp)
  · rename_i userId token expiresAt _
    split at h
    · rename_i table hcreate
      cases h
      obtain ⟨hnew, rfl⟩ := create_eq_some hcreate
      exact .loggedIn rfl rfl hnew
    · cases h
      exact .quiet rfl rfl (by simp)
  · split at h
    · cases h
      exact .quiet rfl rfl (by simp)
    · cases h
      exact .quiet rfl rfl (by simp)
  · rename_i userId ok
    cases h
    cases ok with
    | true => exact .quiet rfl rfl (by simp)
    | false => exact .quiet rfl rfl (by simp)
  · rename_i userId ok now
    cases ok with
    | true =>
        cases h
        exact .draws rfl rfl (by simp)
    | false =>
        cases h
        exact .quiet rfl rfl (by simp)
  · rename_i old userId token expiresAt now
    split at h
    · rename_i table hrotate
      cases h
      obtain ⟨row, hrow, rfl, hvalid, hnew, rfl⟩ := rotate_eq_true hrotate
      exact .refreshed rfl rfl rfl hrow hvalid hnew
    · cases h
      exact .quiet rfl rfl (by simp)
    · cases h
      exact .quiet rfl rfl (by simp)
  · cases h
    exact .loggedOut rfl rfl
  · split at h
    · cases h
    · rename_i hended
      cases h
      exact .quiet (Bool.eq_false_iff.2 hended) rfl (by simp)
  · cases h

/-! ## Any number of calls -/

/-- The tokens, and the calls with where they are suspended. -/
structure AuthState extends Tokens where
  calls : List (Call × Phase)

/-- The calls take turns; in the beginning there are no tokens, and no call has
started. -/
def authSystem : System AuthState (Nat × Answer) where
  init s := s.table = .empty ∧ s.drawn = 0 ∧ s.issued = [] ∧ ∀ c ∈ s.calls, c.2 = .start
  step s e :=
    match s.calls[e.1]? with
    | none => none
    | some (call, phase) =>
        (Phase.advance hash lifetime s.toTokens call phase e.2).map fun next =>
          ⟨next.1, s.calls.set e.1 (call, next.2)⟩

/-- What a step is: one call advances. -/
theorem authSystem_step {s s' : AuthState} {e : Nat × Answer}
    (h : (authSystem hash lifetime).step s e = some s') :
    ∃ call phase tokens phase', s.calls[e.1]? = some (call, phase) ∧
      Advanced hash s.toTokens call phase e.2 tokens phase' ∧
      s' = ⟨tokens, s.calls.set e.1 (call, phase')⟩ := by
  simp only [authSystem] at h
  split at h
  · cases h
  · rename_i call phase hcall
    obtain ⟨⟨tokens, phase'⟩, hnext, rfl⟩ := Option.map_eq_some_iff.1 h
    exact ⟨call, phase, tokens, phase', hcall, advanced_of_advance hash lifetime hnext, rfl⟩

end Calls

end Auth
end NodeNexus
