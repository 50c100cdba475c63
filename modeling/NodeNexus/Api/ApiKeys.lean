import NodeNexus.Api.Authorization
import NodeNexus.Lib.Amortized

/-!
# API keys over time

`SqlAlchemyAPIKeyGateway` opens a short transaction for each call.  `update_api_key` and
`revoke_api_key` load a row, change the instance, and write the columns in which it differs from
what was loaded; `authenticate` reads in one transaction and writes `last_used_at` in another.
In between, other calls come and go.

* `Attributes.set` and `flush` — what becomes of an instance, and the UPDATE that is sent.
* `KeyCall.advance` — the next transaction of a call; `keySystem` lets calls take turns.
* `authenticate_eq` — `authenticate` of one request is the two transactions in a row.
* `revoked_exec` — the result: a key that is revoked stays revoked, and admits nobody.
-/

namespace NodeNexus
namespace Authorization

open Content (Uuid)
open Node (DomainErrorClass)

/-! ## Instances -/

/-- An entry of `APIKeyUpdateDTO.changes`; `none` is `None`. -/
inductive Change where
  | name (value : Option String)
  | isActive (value : Option Bool)
  | scope (value : Option Scope)
  | expiresAt (value : Option Moment)

/-- The attributes of an instance that may change; of the name, whether it is there. -/
structure Attributes where
  hasName : Bool
  isActive : Option Bool
  scope : Option Scope
  expiresAt : Option Moment

/-- The attributes of an instance that is loaded. -/
def APIKeyModel.attributes (row : APIKeyModel) : Attributes :=
  ⟨true, some row.isActive, some row.scope, row.expiresAt⟩

/-- `setattr(model, field, value)`. -/
def Attributes.set (a : Attributes) : Change → Attributes
  | .name value => { a with hasName := value.isSome }
  | .isActive value => { a with isActive := value }
  | .scope value => { a with scope := value }
  | .expiresAt value => { a with expiresAt := value }

/-- A column keeps its value unless the attribute differs from what was loaded. -/
def written {α : Type} [DecidableEq α] (loaded value current : α) : α :=
  if value = loaded then current else value

/-- `flush`: what the UPDATE makes of the row as it is by then.  `none` when a column would be
null that must not be. -/
def flush (loaded : APIKeyModel) (a : Attributes) : Option (APIKeyModel → APIKeyModel) :=
  match a.hasName, a.isActive, a.scope with
  | true, some isActive, some scope => some fun row =>
      { row with
        isActive := written loaded.isActive isActive row.isActive
        scope := written loaded.scope scope row.scope
        expiresAt := written loaded.expiresAt a.expiresAt row.expiresAt }
  | _, _, _ => none

/-- An UPDATE of the row with an id. -/
def updateRow (store : KeyStore) (id : Uuid) (f : APIKeyModel → APIKeyModel) : KeyStore :=
  store.mapRows (fun row => if row.id = id then { f row with keyHash := row.keyHash } else row)
    fun row => by split <;> rfl

/-- `_get_model`. -/
def getModel (store : KeyStore) (id : Uuid) : Option APIKeyModel :=
  store.rows.find? fun row => row.id = id

/-! ## Calls -/

/-- The calls of `APIKeyManagementService` that write, and `authenticate`. -/
inductive KeyCall where
  | createApiKey (keyHash keyPrefix : String) (scope : Scope)
  | updateApiKey (id : Uuid) (changes : List Change)
  | revokeApiKey (id : Uuid)
  | authenticate (plainKey : String)

/-- Where a call is suspended. -/
inductive KeyPhase where
  | start
  /-- The row is loaded. -/
  | loaded (row : APIKeyModel)
  /-- The key is accepted, and its last use is to be written. -/
  | accepted (principal : AuthenticatedPrincipal) (usedAt : Moment)
  | authenticated (principal : AuthenticatedPrincipal)
  | returned
  | raised (failure : Option AuthFailure)

/-- `raise APIKeyNotFoundError(f"API key {key_id} not found")`. -/
def keyNotFound (env : AuthEnv) (id : Uuid) : KeyPhase :=
  .raised (some (.domainError .apiKeyNotFoundError
    ("API key " ++ env.fmt.printUuid id ++ " not found")))

/-- The first transaction of `authenticate`, and what it decides. -/
def lookup (env : AuthEnv) (store : KeyStore) (plainKey : String) : KeyPhase :=
  match store.find? (env.hash plainKey) with
  | none => .raised (some (.domainError .authenticationError "Invalid API key"))
  | some record =>
      if !record.isActive then
        .raised (some (.domainError .apiKeyRevokedError "API key has been revoked"))
      else if record.expired env.now then
        .raised (some (.domainError .apiKeyExpiredError "API key has expired"))
      else
        let principal := { keyId := record.id, keyPrefix := record.keyPrefix, scope := record.scope }
        if record.stale env.now then .accepted principal env.now else .authenticated principal

/-- The rows, and the ids that were drawn. -/
structure KeyTable where
  keys : KeyStore
  nextId : Uuid

/-- `create_api_key`; `none` when the unique index raises. -/
def KeyTable.createApiKey (s : KeyTable) (keyHash keyPrefix : String) (scope : Scope) : Option KeyTable :=
  match s.keys.find? keyHash with
  | some _ => none
  | none => some ⟨s.keys.put ⟨s.nextId, keyHash, keyPrefix, true, scope, none, none⟩, s.nextId + 1⟩

/-- The next transaction of a call. -/
def KeyCall.advance (env : AuthEnv) (s : KeyTable) : KeyCall → KeyPhase → Option (KeyTable × KeyPhase)
  | .createApiKey keyHash keyPrefix scope, .start =>
      match s.createApiKey keyHash keyPrefix scope with
      | some s' => some (s', .returned)
      | none => some (s, .raised none)
  | .updateApiKey id _, .start | .revokeApiKey id, .start =>
      match getModel s.keys id with
      | some row => some (s, .loaded row)
      | none => some (s, keyNotFound env id)
  | .updateApiKey id changes, .loaded row =>
      match flush row (changes.foldl Attributes.set row.attributes) with
      | some f => some ({ s with keys := updateRow s.keys id f }, .returned)
      | none => some (s, .raised none)
  | .revokeApiKey id, .loaded row =>
      match flush row { row.attributes with isActive := some false } with
      | some f => some ({ s with keys := updateRow s.keys id f }, .returned)
      | none => some (s, .raised none)
  | .authenticate plainKey, .start => some (s, lookup env s.keys plainKey)
  | .authenticate _, .accepted principal usedAt =>
      some ({ s with keys := touchLastUsed s.keys principal.keyId usedAt }, .authenticated principal)
  | _, _ => none

/-- A call, and where it is suspended. -/
structure KeyTask where
  call : KeyCall
  phase : KeyPhase

/-- The rows and the calls. -/
structure KeysState extends KeyTable where
  tasks : List KeyTask

/-- What happens: a call goes on at a moment, or its transaction fails. -/
inductive KeyEvent where
  | next (i : Nat) (now : Moment)
  | fails (i : Nat)

/-- The API keys, from rows whose ids were drawn. -/
def keySystem (env : AuthEnv) : System KeysState KeyEvent where
  init s := (∀ row ∈ s.keys.rows, row.id < s.nextId) ∧ ∀ task ∈ s.tasks, task.phase = .start
  step s e :=
    match e with
    | .next i now =>
        match s.tasks[i]? with
        | none => none
        | some task =>
            (task.call.advance { env with now := now } s.toKeyTable task.phase).map fun next =>
              ⟨next.1, s.tasks.set i ⟨task.call, next.2⟩⟩
    | .fails i =>
        match s.tasks[i]? with
        | none => none
        | some task => some { s with tasks := s.tasks.set i ⟨task.call, .raised none⟩ }

/-! ## One request -/

/-- What `authenticate` answers, when it is over. -/
def KeyPhase.answer : KeyPhase → Except AuthFailure AuthenticatedPrincipal
  | .accepted principal _ | .authenticated principal => .ok principal
  | .raised (some failure) => .error failure
  | _ => .error .typeError

/-- What it writes. -/
def KeyPhase.touch (store : KeyStore) : KeyPhase → KeyStore
  | .accepted principal usedAt => touchLastUsed store principal.keyId usedAt
  | _ => store

/-- **`authenticate` of one request**: the two transactions of the call in a row. -/
theorem authenticate_eq (env : AuthEnv) (store : KeyStore) (plainKey : String) :
    authenticate env store plainKey =
      ((lookup env store plainKey).answer, (lookup env store plainKey).touch store) := by
  unfold authenticate lookup
  cases store.find? (env.hash plainKey) with
  | none => rfl
  | some record =>
      dsimp only
      split
      · rfl
      · split
        · rfl
        · split <;> rfl

/-! ## A key that is revoked -/

/-- The call will set `is_active` of a key that it has seen, or will see, inactive. -/
def KeyTask.Reactivates (id : Uuid) (task : KeyTask) : Prop :=
  ∃ changes, task.call = .updateApiKey id changes ∧ Change.isActive (some true) ∈ changes ∧
    (task.phase = .start ∨ ∃ row, task.phase = .loaded row ∧ row.isActive = false)

/-- The call was admitted with the key. -/
def KeyPhase.Admits (id : Uuid) : KeyPhase → Prop
  | .accepted principal _ | .authenticated principal => principal.keyId = id
  | _ => False

/-- Without a change that sets it, `is_active` does not come up. -/
theorem foldl_set_isActive {changes : List Change} {a : Attributes}
    (h : Change.isActive (some true) ∉ changes) (ha : a.isActive ≠ some true) :
    (changes.foldl Attributes.set a).isActive ≠ some true := by
  induction changes generalizing a with
  | nil => exact ha
  | cons change changes ih =>
      rw [List.mem_cons, not_or] at h
      refine ih h.2 ?_
      cases change with
      | isActive value => exact fun hvalue => h.1 (congrArg Change.isActive hvalue.symm)
      | _ => exact ha

/-- A write of an instance leaves an inactive row inactive, unless the instance was loaded
inactive and made active. -/
theorem flush_inactive {loaded row : APIKeyModel} {a : Attributes}
    {f : APIKeyModel → APIKeyModel} (h : flush loaded a = some f)
    (hactive : loaded.isActive = false → a.isActive ≠ some true) (hrow : row.isActive = false) :
    (f row).isActive = false := by
  unfold flush at h
  split at h
  · rename_i isActive scope hname hisActive hscope
    cases h
    show written loaded.isActive isActive row.isActive = false
    unfold written
    split
    · exact hrow
    · rename_i hne
      rw [hisActive] at hactive
      cases hloaded : loaded.isActive <;> simp_all
  · cases h

theorem mem_updateRow {store : KeyStore} {id : Uuid} {f : APIKeyModel → APIKeyModel}
    {row' : APIKeyModel} (h : row' ∈ (updateRow store id f).rows) : ∃ row ∈ store.rows,
      row.id = id ∧ row' = { f row with keyHash := row.keyHash } ∨ row.id ≠ id ∧ row' = row := by
  obtain ⟨row, hrow, rfl⟩ := List.mem_map.1 h
  by_cases hid : row.id = id
  · exact ⟨row, hrow, .inl ⟨hid, if_pos hid⟩⟩
  · exact ⟨row, hrow, .inr ⟨hid, if_neg hid⟩⟩

theorem flush_id {loaded row : APIKeyModel} {a : Attributes} {f : APIKeyModel → APIKeyModel}
    (h : flush loaded a = some f) : (f row).id = row.id := by
  unfold flush at h
  split at h
  · cases h
    rfl
  · cases h

/-- All rows with the id are inactive. -/
def Inactive (id : Uuid) (store : KeyStore) : Prop :=
  ∀ row ∈ store.rows, row.id = id → row.isActive = false

theorem Inactive.update {id id' : Uuid} {store : KeyStore} (h : Inactive id store)
    {loaded : APIKeyModel} {a : Attributes} {f : APIKeyModel → APIKeyModel}
    (hf : flush loaded a = some f)
    (hactive : id' = id → loaded.isActive = false → a.isActive ≠ some true) :
    Inactive id (updateRow store id' f) := by
  intro row' hrow' hid
  obtain ⟨row, hrow, ⟨heq, rfl⟩ | ⟨-, rfl⟩⟩ := mem_updateRow hrow'
  · have hrowId : row.id = id := (flush_id hf).symm.trans hid
    exact flush_inactive hf (hactive (heq.symm.trans hrowId)) (h row hrow hrowId)
  · exact h row' hrow hid

theorem Inactive.touch {id : Uuid} {store : KeyStore} (h : Inactive id store) (id' : Uuid)
    (usedAt : Moment) : Inactive id (touchLastUsed store id' usedAt) := by
  intro row' hrow' hid
  obtain ⟨row, hrow, rfl⟩ := List.mem_map.1 hrow'
  by_cases hrowId : row.id = id'
  · rw [if_pos hrowId] at hid ⊢
    exact h row hrow hid
  · rw [if_neg hrowId] at hid ⊢
    exact h row hrow hid

/-- A lookup does not admit with a key that is inactive. -/
theorem Inactive.lookup {id : Uuid} {store : KeyStore} (h : Inactive id store) (env : AuthEnv)
    (plainKey : String) : ¬ (lookup env store plainKey).Admits id := by
  unfold Authorization.lookup
  cases hfind : store.find? (env.hash plainKey) with
  | none => exact fun hfalse => hfalse
  | some record =>
      dsimp only
      split
      · exact fun hfalse => hfalse
      · rename_i hactive
        have hne : record.id ≠ id := by
          intro hid
          exact hactive (by rw [h record (Table.mem_of_find? hfind) hid]; rfl)
        split
        · exact fun hfalse => hfalse
        · split <;> exact hne

/-- A row is still to be loaded, or to be changed. -/
def KeyPhase.Pending : KeyPhase → Prop
  | .start => True
  | .loaded _ => True
  | _ => False

/-- A call that is over, or that is to write the last use, reactivates nothing. -/
theorem not_reactivates {keyId : Uuid} {call : KeyCall} {phase : KeyPhase}
    (hphase : ¬ phase.Pending) : ¬ (KeyTask.mk call phase).Reactivates keyId := by
  rintro ⟨changes, -, -, hstart | ⟨row, hloaded, -⟩⟩
  · obtain rfl : phase = .start := hstart
    exact hphase trivial
  · obtain rfl : phase = .loaded row := hloaded
    exact hphase trivial

/-- What holds after the next transaction of a call. -/
structure Advanced (keyId : Uuid) (s : KeyTable) (task task' : KeyTask) : Prop where
  inactive : Inactive keyId s.keys
  drawn : keyId < s.nextId
  quiet : ¬ task'.Reactivates keyId
  admits : task'.phase.Admits keyId → task.phase.Admits keyId

/-- The next transaction of a call that does not reactivate the key. -/
theorem Inactive.advance {env : AuthEnv} {keyId : Uuid} {s s' : KeyTable} {task : KeyTask}
    {phase : KeyPhase} (h : Inactive keyId s.keys) (hdrawn : keyId < s.nextId)
    (htask : ¬ task.Reactivates keyId)
    (hstep : task.call.advance env s task.phase = some (s', phase)) :
    Advanced keyId s' task ⟨task.call, phase⟩ := by
  have hover := @not_reactivates keyId task.call
  obtain ⟨call, before⟩ := task
  dsimp only at hstep hover ⊢
  cases call with
  | createApiKey keyHash keyPrefix scope =>
      cases before with
      | start =>
          simp only [KeyCall.advance, KeyTable.createApiKey] at hstep
          cases hfind : s.keys.find? keyHash with
          | some row =>
              rw [hfind] at hstep
              cases hstep
              exact ⟨h, hdrawn, hover not_false, False.elim⟩
          | none =>
              rw [hfind] at hstep
              cases hstep
              refine ⟨fun row hrow hid => ?_, Nat.lt_succ_of_lt hdrawn, hover not_false, False.elim⟩
              rcases Table.mem_put.1 hrow with rfl | ⟨hrow, -⟩
              · exact absurd hid (Nat.ne_of_gt hdrawn)
              · exact h row hrow hid
      | _ => cases hstep
  | updateApiKey id changes =>
      cases before with
      | start =>
          simp only [KeyCall.advance] at hstep
          cases hmodel : getModel s.keys id with
          | none =>
              rw [hmodel] at hstep
              cases hstep
              exact ⟨h, hdrawn, hover not_false, False.elim⟩
          | some row =>
              rw [hmodel] at hstep
              cases hstep
              refine ⟨h, hdrawn, ?_, False.elim⟩
              rintro ⟨changes', hcall, hchange, -⟩
              exact htask ⟨changes', hcall, hchange, .inl rfl⟩
      | loaded row =>
          simp only [KeyCall.advance] at hstep
          cases hflush : flush row (changes.foldl Attributes.set row.attributes) with
          | none =>
              rw [hflush] at hstep
              cases hstep
              exact ⟨h, hdrawn, hover not_false, False.elim⟩
          | some f =>
              rw [hflush] at hstep
              cases hstep
              refine ⟨h.update hflush ?_, hdrawn, hover not_false, False.elim⟩
              rintro rfl hinactive
              have hchange : Change.isActive (some true) ∉ changes := fun hmem =>
                htask ⟨changes, rfl, hmem, .inr ⟨row, rfl, hinactive⟩⟩
              exact foldl_set_isActive hchange (by simp [APIKeyModel.attributes, hinactive])
      | _ => cases hstep
  | revokeApiKey id =>
      cases before with
      | start =>
          simp only [KeyCall.advance] at hstep
          cases hmodel : getModel s.keys id with
          | none =>
              rw [hmodel] at hstep
              cases hstep
              exact ⟨h, hdrawn, hover not_false, False.elim⟩
          | some row =>
              rw [hmodel] at hstep
              cases hstep
              refine ⟨h, hdrawn, ?_, False.elim⟩
              rintro ⟨changes, hcall, -⟩
              cases hcall
      | loaded row =>
          have hflush : flush row { row.attributes with isActive := some false } = some _ := rfl
          cases hstep
          exact ⟨h.update hflush (by simp), hdrawn, hover not_false, False.elim⟩
      | _ => cases hstep
  | authenticate plainKey =>
      cases before with
      | start =>
          cases hstep
          have hlookup := h.lookup env plainKey
          refine ⟨h, hdrawn, ?_, fun hadmits => absurd hadmits hlookup⟩
          rintro ⟨changes, hcall, -⟩
          cases hcall
      | accepted principal usedAt =>
          cases hstep
          exact ⟨h.touch _ _, hdrawn, hover not_false, fun hadmits => hadmits⟩
      | _ => cases hstep

/-- What holds in a run that begins in `s` once a key is revoked. -/
structure Revoked (keyId : Uuid) (s t : KeysState) : Prop where
  inactive : Inactive keyId t.keys
  drawn : keyId < t.nextId
  tasks : ∀ task ∈ t.tasks, ¬ task.Reactivates keyId
  /-- Whoever is admitted has been before. -/
  admits : ∀ (i : Nat) (task' : KeyTask), t.tasks[i]? = some task' → task'.phase.Admits keyId →
    ∃ task : KeyTask, s.tasks[i]? = some task ∧ task.phase.Admits keyId

theorem Revoked.step {env : AuthEnv} {keyId : Uuid} {s t t' : KeysState} {e : KeyEvent}
    (h : Revoked keyId s t) (hstep : (keySystem env).step t e = some t') : Revoked keyId s t' := by
  have hset : ∀ {i : Nat} {task task' : KeyTask}, t.tasks[i]? = some task →
      (task'.phase.Admits keyId → task.phase.Admits keyId) → ∀ (j : Nat) (task'' : KeyTask),
      (t.tasks.set i task')[j]? = some task'' → task''.phase.Admits keyId →
      ∃ task : KeyTask, s.tasks[j]? = some task ∧ task.phase.Admits keyId := by
    intro i task task' hi hadmits j task'' hj hphase
    rw [List.getElem?_set] at hj
    split at hj
    · rename_i hij
      split at hj
      · cases hj
        exact h.admits j task (hij ▸ hi) (hadmits hphase)
      · cases hj
    · exact h.admits j task'' hj hphase
  cases e with
  | next i now =>
      simp only [keySystem] at hstep
      cases hi : t.tasks[i]? with
      | none =>
          rw [hi] at hstep
          cases hstep
      | some task =>
          rw [hi] at hstep
          obtain ⟨⟨keys, phase⟩, hnext, rfl⟩ := Option.map_eq_some_iff.1 hstep
          have hadvanced := h.inactive.advance h.drawn
            (h.tasks task (List.mem_of_getElem? hi)) hnext
          refine ⟨hadvanced.inactive, hadvanced.drawn, fun task' hmem => ?_,
            hset hi hadvanced.admits⟩
          rcases List.mem_or_eq_of_mem_set hmem with hmem | rfl
          · exact h.tasks task' hmem
          · exact hadvanced.quiet
  | fails i =>
      simp only [keySystem] at hstep
      cases hi : t.tasks[i]? with
      | none =>
          rw [hi] at hstep
          cases hstep
      | some task =>
          rw [hi] at hstep
          cases hstep
          refine ⟨h.inactive, h.drawn, fun task' hmem => ?_, hset hi False.elim⟩
          rcases List.mem_or_eq_of_mem_set hmem with hmem | rfl
          · exact h.tasks task' hmem
          · exact not_reactivates not_false

/-- A call that revokes a key it has loaded active leaves it inactive. -/
theorem inactive_of_revoke {env : AuthEnv} {keyId : Uuid} {s s' : KeyTable} {row : APIKeyModel}
    {phase : KeyPhase} (hactive : row.isActive = true)
    (hstep : (KeyCall.revokeApiKey keyId).advance env s (.loaded row) = some (s', phase)) :
    Inactive keyId s'.keys ∧ phase = .returned := by
  cases hstep
  refine ⟨fun row' hrow' hid => ?_, rfl⟩
  obtain ⟨row₀, hrow₀, ⟨-, rfl⟩ | ⟨hne, rfl⟩⟩ := mem_updateRow hrow'
  · show written row.isActive false row₀.isActive = false
    simp [written, hactive]
  · exact absurd hid hne

/-- **A key that is revoked stays revoked.**  However creations, updates, revocations and
authentications interleave, and whichever of them fail: unless a call sets `is_active` of a key
that it has loaded inactive, or will load, the key stays inactive, every request that presents it
is refused, and nobody is admitted with it who was not by the time it was revoked.  An update that
sets `is_active` and has loaded the row before the revocation does not undo it. -/
theorem revoked_exec {env : AuthEnv} {keyId : Uuid} {s t : KeysState} {run : List KeyEvent}
    (hinactive : Inactive keyId s.keys) (hdrawn : keyId < s.nextId)
    (htasks : ∀ task ∈ s.tasks, ¬ task.Reactivates keyId)
    (hrun : (keySystem env).exec s run = some t) :
    Inactive keyId t.keys ∧
      (∀ plainKey now record, t.keys.find? (env.hash plainKey) = some record → record.id = keyId →
        authenticate { env with now := now } t.keys plainKey =
          (.error (.domainError .apiKeyRevokedError "API key has been revoked"), t.keys)) ∧
      ∀ (i : Nat) (task' : KeyTask), t.tasks[i]? = some task' → task'.phase.Admits keyId →
        ∃ task : KeyTask, s.tasks[i]? = some task ∧ task.phase.Admits keyId := by
  have hstart : Revoked keyId s s :=
    ⟨hinactive, hdrawn, htasks, fun i task hi hadmits => ⟨task, hi, hadmits⟩⟩
  have hend : Revoked keyId s t :=
    System.exec_invariant (fun _ _ _ h hstep => h.step hstep) hstart hrun
  refine ⟨hend.inactive, fun plainKey now record hrecord hid => ?_, hend.admits⟩
  have hoff := hend.inactive record (Table.mem_of_find? hrecord) hid
  simp [authenticate, hrecord, hoff]

/-- Two clients change a key, which is revoked in between. -/
def oneKey : KeysState where
  keys := ⟨[⟨0, "h", "nnk_abcd", true, .readWrite, none, none⟩], by simp⟩
  nextId := 1
  tasks := [⟨.updateApiKey 0 [.isActive (some true), .scope (some .readOnly)], .start⟩,
    ⟨.revokeApiKey 0, .start⟩, ⟨.authenticate "h", .start⟩]

/-- The update has loaded the key before it is revoked. -/
theorem revoked_oneKey : ∃ s t,
    (keySystem masterOnly).exec oneKey [.next 0 1, .next 1 2, .next 1 3] = some s ∧
      (keySystem masterOnly).exec s [.next 0 4, .next 2 5] = some t ∧ Inactive 0 t.keys ∧
      t.keys.rows.map (·.scope) = [.readOnly] := by
  obtain ⟨s, hs, t, ht, hinactive, htasks, hscope⟩ : ∃ s,
      (keySystem masterOnly).exec oneKey [.next 0 1, .next 1 2, .next 1 3] = some s ∧
      ∃ t, (keySystem masterOnly).exec s [.next 0 4, .next 2 5] = some t ∧
        Inactive 0 s.keys ∧ (∀ task ∈ s.tasks, ¬ task.Reactivates 0) ∧
        t.keys.rows.map (·.scope) = [.readOnly] := by
    refine ⟨_, rfl, _, rfl, ?_, ?_, rfl⟩
    · simp [Inactive, oneKey, updateRow, Table.mapRows, written, APIKeyModel.attributes]
    · simp [oneKey, KeyTask.Reactivates]
  exact ⟨s, t, hs, ht, (revoked_exec hinactive (by cases hs; decide) htasks ht).1, hscope⟩

end Authorization
end NodeNexus
