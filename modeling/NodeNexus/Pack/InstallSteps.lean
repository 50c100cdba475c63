import NodeNexus.Lib.Transition
import NodeNexus.Pack.Phases

/-!
# Installations in parallel: the code

Several calls of `install_pack` for one pack run at the same time.  Each is one
transaction, but a transaction is a sequence of statements: it reads the pack
and checks that it is not installed, reads the names of the commands, reads the
names of the scripts, writes, and commits.  Under READ COMMITTED every SELECT
sees the rows that are committed at that moment.

* `planInstall`, `flush` and `Store.commit` are `_install_in_session`, cut where
  it awaits the database; `installInSession_eq_ok_iff` puts them together again.
* `Phase` says where a transaction stands, and `Phase.advance` what one of its
  statements does.
* `installSystem` lets any number of transactions take turns.
-/

namespace NodeNexus
namespace Pack

open Content

/-! ## One transaction, statement by statement -/

/-- What is known after phases 1 and 2: the rows to write, and the error items. -/
structure InstallPlan where
  commands : List (String × Values CommandBody)
  scripts : List (String × Values ScriptBody)
  errors : List PackInstallItem

/-- Phases 1 and 2, on the names that were read. -/
def planInstall (env : Env) (onConflict : OnConflict) (pack : PackRow)
    (existingCommands existingScripts : List String) : Except Failure InstallPlan := do
  let plannedCommands ← planNames env .command onConflict existingCommands [] pack.commands
  let plannedScripts ← planNames env .script onConflict existingScripts [] pack.scripts
  let printable := env.unicode.isPrintable
  .ok
    { commands := validPlanned (validateCommandPayload printable) plannedCommands
      scripts := validPlanned (validateScriptPayload printable) plannedScripts
      errors := errorItems .command (validateCommandPayload printable) plannedCommands ++
        errorItems .script (validateScriptPayload printable) plannedScripts }

/-- What a transaction has written and not yet committed; `pack` is the row as
the transaction read it, `next` the id after the last one it drew. -/
structure Written where
  pack : PackRow
  now : Time
  commands : List CommandRow
  scripts : List ScriptRow
  links : List Installation
  next : Uuid
  result : PackInstallResult

/-- Phase 3: the statements of its flushes, against the committed rows. -/
def flush (env : Env) (now : Time) (s : Store) (pack : PackRow) (plan : InstallPlan) :
    Except Failure Written := do
  let nextScript := s.nextId + plan.commands.length
  let nextLink := nextScript + plan.scripts.length
  let ok := okItems .command s.nextId plan.commands ++ okItems .script nextScript plan.scripts
  let commands ← bindRows commandModel env.db pack.id s.nextId plan.commands
  let scripts ← bindRows scriptModel env.db pack.id nextScript plan.scripts
  let _ ← s.commands.saveAll commandModel commands
  let _ ← s.scripts.saveAll scriptModel scripts
  let links := linkRows now pack.id nextLink ok
  .ok
    { pack, now, commands, scripts, links
      next := nextLink + links.length
      result :=
        { packId := pack.id
          version := pack.version
          total := ok.length + plan.errors.length
          succeeded := ok.length
          failed := plan.errors.length
          results := ok ++ plan.errors } }

/-- The UPDATE of the pack sets three columns of the row it finds. -/
def Store.setInstalled (s : Store) (w : Written) : Table PackRow.id :=
  match s.packs.find? w.pack.id with
  | some row => s.packs.put { row with
      installedVersion := some w.pack.version, installedAt := some w.now, updatedAt := w.now }
  | none => s.packs

/-- COMMIT: what was written is seen by everyone. -/
def Store.commit (s : Store) (w : Written) : Store :=
  { s with
    packs := if w.result.succeeded = 0 then s.packs else s.setInstalled w
    installations := s.installations.putAll w.links
    commands := s.commands.putAll w.commands
    scripts := s.scripts.putAll w.scripts }

/-- The arguments of a call, and the time it writes. -/
structure InstallCall where
  onConflict : OnConflict
  now : Time

/-- Where a transaction stands. -/
inductive Phase where
  /-- Before its first statement. -/
  | idle
  /-- The pack was read, is not installed and has some content. -/
  | checked (pack : PackRow)
  /-- `existing_commands` is read. -/
  | commandsRead (pack : PackRow) (existingCommands : List String)
  /-- `existing_scripts` is read too, phases 1 and 2 are done. -/
  | planned (pack : PackRow) (plan : InstallPlan)
  /-- Everything is flushed. -/
  | written (w : Written)
  | committed (w : Written)
  /-- It has returned for a pack without content. -/
  | returned
  /-- It has raised and is rolled back. -/
  | raised (e : Failure)

/-- The statements of a transaction. -/
inductive Statement where
  | getPack
  | readCommands
  | readScripts
  | write
  | commit
  /-- The connection breaks, or the database ends a deadlock. -/
  | fail (e : Failure)

/-- The transaction is over. -/
def Phase.ended : Phase → Bool
  | .committed _ | .returned | .raised _ => true
  | _ => false

/-- Does a transaction hold one of the planned names, in a row that is not
committed yet?  An INSERT of this name waits until that transaction is over. -/
def Phase.holds (plan : InstallPlan) : Phase → Bool
  | .written w => (w.commands.any fun r => r.name ∈ plan.commands.map (·.1)) ||
      w.scripts.any fun r => r.name ∈ plan.scripts.map (·.1)
  | _ => false

/-- What a statement of a call does: the committed rows, and where the
transaction stands next.  `none` when the statement is not its next one, or has
to wait. -/
def Phase.advance (env : Env) (packId : Uuid) (others : List Phase) (s : Store)
    (call : InstallCall) : Phase → Statement → Option (Store × Phase)
  | .idle, .getPack =>
      match s.packs.find? packId with
      | none => some (s, .raised (packNotFound env packId))
      | some pack =>
          if pack.installedVersion.isSome then
            some (s, .raised (.packConflictError
              ("Pack " ++ env.fmt.printUuid pack.id ++ " already installed")))
          else if pack.commands.isEmpty && pack.scripts.isEmpty then some (s, .returned)
          else some (s, .checked pack)
  | .checked pack, .readCommands => some (s, .commandsRead pack s.commands.names)
  | .commandsRead pack existingCommands, .readScripts =>
      match planInstall env call.onConflict pack existingCommands s.scripts.names with
      | .ok plan => some (s, .planned pack plan)
      | .error e => some (s, .raised e)
  | .planned pack plan, .write =>
      if others.any (Phase.holds plan) then none
      else match flush env call.now s pack plan with
        | .ok w => some ({ s with nextId := w.next }, .written w)
        | .error e => some (s, .raised e)
  | .written w, .commit => some (s.commit w, .committed w)
  | phase, .fail e => if phase.ended then none else some (s, .raised e)
  | _, _ => none

/-- What a statement can do, case by case. -/
inductive Advanced (env : Env) (packId : Uuid) (others : List Phase) (s : Store)
    (call : InstallCall) : Phase → Statement → Store → Phase → Prop
  /-- The transaction raises, in whatever way. -/
  | raised {phase : Phase} {statement : Statement} (e : Failure) (hended : phase.ended = false) :
      Advanced env packId others s call phase statement s (.raised e)
  | returned {pack : PackRow} (hfind : s.packs.find? packId = some pack)
      (hnot : pack.installedVersion = none)
      (hempty : (pack.commands.isEmpty && pack.scripts.isEmpty) = true) :
      Advanced env packId others s call .idle .getPack s .returned
  | checked {pack : PackRow} (hfind : s.packs.find? packId = some pack)
      (hnot : pack.installedVersion = none)
      (hcontent : (pack.commands.isEmpty && pack.scripts.isEmpty) = false) :
      Advanced env packId others s call .idle .getPack s (.checked pack)
  | commandsRead {pack : PackRow} :
      Advanced env packId others s call (.checked pack) .readCommands s
        (.commandsRead pack s.commands.names)
  | planned {pack : PackRow} {existingCommands : List String} {plan : InstallPlan}
      (hplan : planInstall env call.onConflict pack existingCommands s.scripts.names = .ok plan) :
      Advanced env packId others s call (.commandsRead pack existingCommands) .readScripts s
        (.planned pack plan)
  | written {pack : PackRow} {plan : InstallPlan} {w : Written}
      (hfree : ∀ phase ∈ others, phase.holds plan = false)
      (hflush : flush env call.now s pack plan = .ok w) :
      Advanced env packId others s call (.planned pack plan) .write { s with nextId := w.next }
        (.written w)
  | committed {w : Written} :
      Advanced env packId others s call (.written w) .commit (s.commit w) (.committed w)

theorem advanced_of_advance {env : Env} {packId : Uuid} {others : List Phase} {s s' : Store}
    {call : InstallCall} {phase phase' : Phase} {statement : Statement}
    (h : phase.advance env packId others s call statement = some (s', phase')) :
    Advanced env packId others s call phase statement s' phase' := by
  unfold Phase.advance at h
  split at h
  · split at h
    · cases h
      exact .raised _ rfl
    · rename_i pack hfind
      split at h
      · cases h
        exact .raised _ rfl
      · rename_i hinstalled
        have hnot : pack.installedVersion = none := by simpa using hinstalled
        split at h
        · rename_i hempty
          cases h
          exact .returned hfind hnot hempty
        · rename_i hcontent
          cases h
          exact .checked hfind hnot (Bool.eq_false_iff.2 hcontent)
  · cases h
    exact .commandsRead
  · split at h
    · rename_i hplan
      cases h
      exact .planned hplan
    · cases h
      exact .raised _ rfl
  · split at h
    · cases h
    · rename_i hfree
      split at h
      · rename_i hflush
        cases h
        refine .written (fun phase hphase => ?_) hflush
        exact Bool.eq_false_iff.2 fun hholds => hfree (List.any_eq_true.2 ⟨phase, hphase, hholds⟩)
      · cases h
        exact .raised _ rfl
  · cases h
    exact .committed
  · split at h
    · cases h
    · rename_i hended
      cases h
      exact .raised _ (Bool.eq_false_iff.2 hended)
  · cases h

/-! ## Any number of transactions -/

/-- The committed rows, and the calls with their transactions. -/
structure InstallState where
  store : Store
  calls : List (InstallCall × Phase)

/-- The calls of `install_pack` for one pack, from a store in which none of them
has started.  An event names the call whose next statement is executed. -/
def installSystem (env : Env) (packId : Uuid) (s₀ : Store) :
    System InstallState (Nat × Statement) where
  init s := s.store = s₀ ∧ ∀ c ∈ s.calls, c.2 = .idle
  step s e :=
    match s.calls[e.1]? with
    | none => none
    | some (call, phase) =>
        (phase.advance env packId (s.calls.map (·.2)) s.store call e.2).map fun next =>
          ⟨next.1, s.calls.set e.1 (call, next.2)⟩

/-- What a step is: one call advances. -/
theorem installSystem_step {env : Env} {packId : Uuid} {s₀ : Store} {s s' : InstallState}
    {e : Nat × Statement} (h : (installSystem env packId s₀).step s e = some s') :
    ∃ call phase store phase', s.calls[e.1]? = some (call, phase) ∧
      Advanced env packId (s.calls.map (·.2)) s.store call phase e.2 store phase' ∧
      s' = ⟨store, s.calls.set e.1 (call, phase')⟩ := by
  simp only [installSystem] at h
  split at h
  · cases h
  · rename_i call phase hcall
    obtain ⟨⟨store, phase'⟩, hnext, rfl⟩ := Option.map_eq_some_iff.1 h
    exact ⟨call, phase, store, phase', hcall, advanced_of_advance hnext, rfl⟩

/-! ## The statements together -/

/-- **The statements of a transaction that runs alone are `_install_in_session`**:
for a pack with some content that is not installed, it returns what planning,
flushing and committing one after the other return. -/
theorem installInSession_eq_ok_iff {env : Env} {now : Time} {onConflict : OnConflict}
    {s s' : Store} {pack : PackRow} {result : PackInstallResult}
    (hfind : s.packs.find? pack.id = some pack) (hnot : pack.installedVersion = none)
    (hcontent : (pack.commands.isEmpty && pack.scripts.isEmpty) = false) :
    installInSession env now onConflict s pack = .ok (s', result) ↔
      ∃ plan w, planInstall env onConflict pack s.commands.names s.scripts.names = .ok plan ∧
        flush env now s pack plan = .ok w ∧ s' = { s.commit w with nextId := w.next } ∧
        result = w.result := by
  unfold installInSession
  rw [if_neg (by simp [hnot]), if_neg (by simp [hcontent])]
  simp only [planInstall, flush, bind_eq_ok]
  constructor
  · rintro ⟨pC, hpC, pS, hpS, newC, hnewC, newS, hnewS, rowsC, hrowsC, rowsS, hrowsS, h⟩
    cases h
    refine ⟨_, _, ⟨pC, hpC, pS, hpS, rfl⟩,
      ⟨newC, hnewC, newS, hnewS, rowsC, hrowsC, rowsS, hrowsS, rfl⟩, ?_, rfl⟩
    rw [Rows.saveAll_eq_ok hrowsC, Rows.saveAll_eq_ok hrowsS]
    simp only [Store.commit, Store.setInstalled, hfind, List.isEmpty_iff_length_eq_zero]
  · rintro ⟨plan, w, ⟨pC, hpC, pS, hpS, hplan⟩,
      ⟨newC, hnewC, newS, hnewS, rowsC, hrowsC, rowsS, hrowsS, hw⟩, rfl, rfl⟩
    cases hplan
    cases hw
    refine ⟨pC, hpC, pS, hpS, newC, hnewC, newS, hnewS, rowsC, hrowsC, rowsS, hrowsS, ?_⟩
    rw [Rows.saveAll_eq_ok hrowsC, Rows.saveAll_eq_ok hrowsS]
    simp only [Store.commit, Store.setInstalled, hfind, List.isEmpty_iff_length_eq_zero]

end Pack
end NodeNexus
