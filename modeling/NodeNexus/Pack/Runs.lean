import Mathlib.Data.List.Induction
import NodeNexus.Lib.Transition
import NodeNexus.Content.Requests
import NodeNexus.Pack.Gateway

/-!
# Runs of the store

Packs are created, synchronised, installed, updated and deleted while users
write commands and scripts.  Every operation is one transaction: `transaction`
says what it does to the store, and where it raises it is rolled back.

`storeSystem` is the system whose runs are the sequences of such operations, and
`runStore` computes one run.
-/

namespace NodeNexus
namespace Pack

open Content

/-- The operations on the store, with the moment in which they happen. -/
inductive Event where
  | createPack (now : Time) (data : PackCreate)
  | installPack (now : Time) (packId : Uuid) (onConflict : OnConflict)
  | uninstallPack (now : Time) (packId : Uuid)
  | updatePack (now : Time) (packId : Uuid) (onConflict : OnConflict)
  | upsertSyncedPack (now : Time) (data : SyncedPack)
  | patchPack (now : Time) (packId : Uuid) (data : PackUpdate)
  | deletePack (now : Time) (packId : Uuid)
  | createCommand (data : CommandCreate)
  | updateCommand (id : Uuid) (data : CommandUpdate)
  | deleteCommand (id : Uuid)
  | createScript (data : ScriptCreate)
  | updateScript (id : Uuid) (data : ScriptUpdate)
  | deleteScript (id : Uuid)
  /-- `import_config`, its commands and scripts. -/
  | importConfig (commands : List CommandExport) (scripts : List ScriptExport)

/-- `import_config`, for the commands and the scripts of a configuration. -/
def importConfig (env : Env) (s : Store) (commands : List CommandExport)
    (scripts : List ScriptExport) : Except Failure Store := do
  let (commandRows, next, _, _) ← importRows commandModel env.db "Command" s.commands
    s.commands.names s.nextId (commands.map (·.values))
  let (scriptRows, next, _, _) ← importRows scriptModel env.db "Script" s.scripts
    s.scripts.names next (scripts.map (·.values env.fmt))
  .ok { s with commands := commandRows, scripts := scriptRows, nextId := next }

/-- What an operation makes of the store, when it does not raise. -/
def transaction (env : Env) (s : Store) : Event → Except Failure Store
  | .createPack now data => createPack env now s data
  | .installPack now packId onConflict => (installPack env now s packId onConflict).map (·.1)
  | .uninstallPack now packId => uninstallPack env now s packId
  | .updatePack now packId onConflict => (updatePack env now s packId onConflict).map (·.1)
  | .upsertSyncedPack now data => (upsertSyncedPack env now s data).map (·.1)
  | .patchPack now packId data => (patchPack env now s packId data).map (·.1)
  | .deletePack now packId => deletePack env now s packId
  | .createCommand data => do
      let (commands, _) ← createCommand env.db s.commands s.nextId data.dto
      .ok { s with commands := commands, nextId := s.nextId + 1 }
  | .updateCommand id data => do
      let (commands, _) ← updateCommand env.db s.commands id data.changes
      .ok { s with commands := commands }
  | .deleteCommand id => .ok { s with commands := (deleteRow s.commands id).1 }
  | .createScript data => do
      let (scripts, _) ← createScript env.fmt env.db s.scripts s.nextId data.dto
      .ok { s with scripts := scripts, nextId := s.nextId + 1 }
  | .updateScript id data => do
      let (scripts, _) ← updateScript env.fmt env.db s.scripts id data.changes
      .ok { s with scripts := scripts }
  | .deleteScript id => .ok { s with scripts := (deleteRow s.scripts id).1 }
  | .importConfig commands scripts => importConfig env s commands scripts

/-- The store after an operation: a transaction that raises is rolled back. -/
def perform (env : Env) (s : Store) (e : Event) : Store :=
  match transaction env s e with
  | .ok s' => s'
  | .error _ => s

/-- The runs of the store, from an empty one. -/
def storeSystem (env : Env) : System Store Event where
  init s := ∃ registries, s = Store.empty registries
  step s e := some (perform env s e)

/-- The store after a list of operations. -/
def runStore (env : Env) (registries : List Uuid) (es : List Event) : Store :=
  es.foldl (perform env) (Store.empty registries)

theorem runStore_concat (env : Env) (registries : List Uuid) (es : List Event) (e : Event) :
    runStore env registries (es ++ [e]) = perform env (runStore env registries es) e := by
  unfold runStore
  rw [List.foldl_append]
  rfl

/-- What a list of operations computes is reachable. -/
theorem reachable_runStore (env : Env) (registries : List Uuid) (es : List Event) :
    (storeSystem env).Reachable (runStore env registries es) := by
  induction es using List.reverseRecOn with
  | nil => exact .start ⟨registries, rfl⟩
  | append_singleton es e ih =>
      rw [runStore_concat]
      exact .next ih trivial rfl

/-- An operation either does what its transaction says or nothing. -/
theorem perform_cases (env : Env) (s : Store) (e : Event) :
    transaction env s e = .ok (perform env s e) ∨ perform env s e = s := by
  unfold perform
  cases h : transaction env s e with
  | ok s' => exact .inl rfl
  | error f => exact .inr rfl

end Pack
end NodeNexus
