import Mathlib.Logic.Function.Basic
import NodeNexus.Lib.Transition

/-!
# Scheduler ownership: the code

Every replica of the API runs its own APScheduler, and only the replica that
holds one PostgreSQL advisory lock may execute the jobs that fire.  This file
is the code's side of that: the port `SqlAlchemySchedulerOwnership` (its
`_connection` and `_acquired`), the part of `ApschedulerRuntime` that talks to
it (`acquire_ownership`, `_monitor_ownership_with_port`, `stop`,
`_execute_scheduled_script`) and the lock server, for any number of replicas.

The coroutines are cut at their awaits.  `Await` says which await a replica's
port coroutine is suspended in, and one `OwnershipEvent` is one stretch of code
between two awaits, one answer of the server, or the death of a session.  A
replica has at most one such coroutine in flight: the provider awaits
`acquire_ownership` before it starts the monitor, and `stop` cancels and awaits
the monitor before it calls `release`.

The port is configured and the engine is PostgreSQL throughout, so of the
branches on `self._ownership` and `is_postgres` only those are here.
-/

namespace NodeNexus
namespace Scheduler

/-! ## The lock server -/

/-- A database session.  A session belongs to the connection pool of one
replica; a pool may hand the same session out again after it was closed. -/
structure Session (Replica : Type) where
  /-- The replica whose pool the session belongs to. -/
  replica : Replica
  /-- Its number within that pool. -/
  number : Nat
  deriving DecidableEq

/-- The PostgreSQL side: which sessions are alive, and which session holds the
scheduler's advisory lock. -/
structure LockServer (Replica : Type) where
  /-- Is the session alive? -/
  live : Session Replica → Bool
  /-- The holder of the advisory lock. -/
  holder : Option (Session Replica)

variable {Replica : Type} [DecidableEq Replica]

namespace LockServer

/-- A session is opened, or taken from the pool. -/
def connect (srv : LockServer Replica) (c : Session Replica) : LockServer Replica :=
  { srv with live := Function.update srv.live c true }

/-- `pg_try_advisory_lock`: granted when the lock is free or already the
session's own. -/
def tryLock (srv : LockServer Replica) (c : Session Replica) : Bool :=
  decide (srv.holder = none) || decide (srv.holder = some c)

/-- The lock changes hands. -/
def grant (srv : LockServer Replica) (c : Session Replica) : LockServer Replica :=
  { srv with holder := some c }

/-- `pg_advisory_unlock` by the holder. -/
def unlock (srv : LockServer Replica) : LockServer Replica :=
  { srv with holder := none }

/-- A session dies, and its lock with it. -/
def die (srv : LockServer Replica) (c : Session Replica) : LockServer Replica where
  live := Function.update srv.live c false
  holder := if srv.holder = some c then none else srv.holder

end LockServer

/-! ## One replica -/

/-- The fields of `SqlAlchemySchedulerOwnership`. -/
structure SchedulerOwnership (Replica : Type) where
  /-- `_connection`, the session the lock was taken on. -/
  connection : Option (Session Replica)
  /-- `_acquired`. -/
  acquired : Bool

/-- `SqlAlchemySchedulerOwnership.is_acquired`. -/
def SchedulerOwnership.isAcquired (p : SchedulerOwnership Replica) : Bool := p.acquired

/-- Where the port coroutine of a replica is suspended.  The flag `tick` says
whether `try_acquire` was called from a pass of the ownership monitor. -/
inductive Await (Replica : Type) where
  /-- No port coroutine is in flight. -/
  | idle
  /-- `await self._engine.connect()`. -/
  | connecting (tick : Bool)
  /-- `await conn.scalar(pg_try_advisory_lock)`, the server has not answered. -/
  | locking (c : Session Replica) (tick : Bool)
  /-- The server has answered, the coroutine has not run on yet. -/
  | answered (c : Session Replica) (granted : Bool) (tick : Bool)
  /-- `await conn.close()`, after a refusal or (`raising`) after an exception. -/
  | closing (raising : Bool) (tick : Bool)
  /-- `await self._connection.execute("SELECT 1")` in `probe`. -/
  | probing (c : Session Replica)
  /-- `await self._connection.execute(pg_advisory_unlock)` in `release`. -/
  | unlocking (c : Session Replica)
  /-- `await self._connection.close()` in `release`; `freed` says whether the
  unlock before it gave the lock back. -/
  | releasing (freed : Bool)

/-- The fields of `ApschedulerRuntime` that ownership is about. -/
structure ApschedulerRuntime (Replica : Type) where
  /-- `_ownership`, the port. -/
  ownership : SchedulerOwnership Replica
  /-- `_owns_execution`. -/
  ownsExecutionFlag : Bool
  /-- Is `_executor` configured? -/
  executor : Bool
  /-- The port coroutine in flight. -/
  pending : Await Replica

namespace ApschedulerRuntime

/-- A runtime as `__init__` leaves it, with a fresh port. -/
def initial (executor : Bool) : ApschedulerRuntime Replica where
  ownership := ⟨none, false⟩
  ownsExecutionFlag := true
  executor := executor
  pending := .idle

/-- The property `owns_execution`: with a port configured it is the port's
`is_acquired`, and `_owns_execution` is not looked at. -/
def ownsExecution (rt : ApschedulerRuntime Replica) : Bool := rt.ownership.isAcquired

/-- What `_execute_scheduled_script` does with a job that fires. -/
inductive JobOutcome where
  /-- `scheduler.job.skipped_no_ownership`. -/
  | skipped
  /-- `RuntimeError("Scheduled script executor is not configured")`. -/
  | notConfigured
  /-- The job is handed to the executor. -/
  | handedOver
  deriving DecidableEq

/-- `_execute_scheduled_script`, up to the call of the executor. -/
def executeScheduledScript (rt : ApschedulerRuntime Replica) : JobOutcome :=
  if !rt.ownsExecution then .skipped
  else if !rt.executor then .notConfigured
  else .handedOver

/-- `acquire_ownership` up to its first await: `try_acquire` returns at once
when the port says the lock is held, and opens a connection otherwise. -/
def acquireOwnership (rt : ApschedulerRuntime Replica) (tick : Bool) :
    ApschedulerRuntime Replica :=
  if rt.ownership.acquired && rt.ownership.connection.isSome then
    { rt with ownsExecutionFlag := true }
  else { rt with pending := .connecting tick }

/-- One pass of `_monitor_ownership_with_port` up to its first await. -/
def monitorOwnershipWithPort (rt : ApschedulerRuntime Replica) : ApschedulerRuntime Replica :=
  if !rt.ownership.isAcquired then rt.acquireOwnership true
  else match rt.ownership.connection with
    -- `probe` returns `False` without an await when there is no connection
    | none => { rt with ownsExecutionFlag := false }
    | some c => { rt with pending := .probing c }

/-- `try_acquire` returns `True` on the session `c`, and `acquire_ownership`
stores the answer. -/
def acquired (rt : ApschedulerRuntime Replica) (c : Session Replica) :
    ApschedulerRuntime Replica :=
  { rt with ownership := ⟨some c, true⟩, ownsExecutionFlag := true, pending := .idle }

/-- `try_acquire` returns `False`, and `acquire_ownership` stores the answer. -/
def refused (rt : ApschedulerRuntime Replica) : ApschedulerRuntime Replica :=
  { rt with
    ownership := { rt.ownership with acquired := false }
    ownsExecutionFlag := false
    pending := .idle }

/-- `try_acquire` raises.  The monitor logs `scheduler.owner.lost` and clears
`_owns_execution`; at startup the exception leaves the runtime as it is. -/
def acquireRaised (rt : ApschedulerRuntime Replica) (tick : Bool) :
    ApschedulerRuntime Replica :=
  { rt with
    ownsExecutionFlag := if tick then false else rt.ownsExecutionFlag
    pending := .idle }

/-- `probe` has answered.  On `False` the monitor raises `probe failed`, logs
`scheduler.owner.lost` and clears `_owns_execution`; the port is left alone. -/
def probed (rt : ApschedulerRuntime Replica) (ok : Bool) : ApschedulerRuntime Replica :=
  { rt with
    ownsExecutionFlag := if ok then rt.ownsExecutionFlag else false
    pending := .idle }

/-- `release` up to its first await. -/
def release (rt : ApschedulerRuntime Replica) : ApschedulerRuntime Replica :=
  match rt.ownership.connection with
  | none => { rt with ownership := ⟨none, false⟩, ownsExecutionFlag := false }
  | some c => { rt with pending := .unlocking c }

/-- `release` is over, and `stop` clears `_owns_execution` too. -/
def released (rt : ApschedulerRuntime Replica) : ApschedulerRuntime Replica :=
  { rt with ownership := ⟨none, false⟩, ownsExecutionFlag := false, pending := .idle }

end ApschedulerRuntime

/-! ## The cluster -/

/-- Everything the replicas share, and every replica. -/
structure Cluster (Replica : Type) where
  /-- The database. -/
  server : LockServer Replica
  /-- The runtime of each replica. -/
  runtime : Replica → ApschedulerRuntime Replica

/-- Replace the runtime of one replica. -/
def Cluster.put (s : Cluster Replica) (r : Replica) (rt : ApschedulerRuntime Replica) :
    Cluster Replica :=
  { s with runtime := Function.update s.runtime r rt }

/-- What can happen next. -/
inductive OwnershipEvent (Replica : Type) where
  /-- The provider calls `acquire_ownership`. -/
  | acquire (r : Replica)
  /-- The monitor of a replica starts a pass. -/
  | tick (r : Replica)
  /-- `stop` calls `release`. -/
  | release (r : Replica)
  /-- `connect()` returns the session with this number. -/
  | connected (r : Replica) (number : Nat)
  /-- `connect()` raises. -/
  | connectFailed (r : Replica)
  /-- The server answers `pg_try_advisory_lock`. -/
  | lockAnswered (r : Replica)
  /-- `pg_try_advisory_lock` raises. -/
  | lockFailed (r : Replica)
  /-- The coroutine runs on after the server's answer. -/
  | resumed (r : Replica)
  /-- `conn.close()` returns, and `try_acquire` is over. -/
  | closed (r : Replica)
  /-- `SELECT 1` returns (`ok`) or raises. -/
  | probed (r : Replica) (ok : Bool)
  /-- `pg_advisory_unlock` gave the lock back (`freed`), or did not. -/
  | unlocked (r : Replica) (freed : Bool)
  /-- `close()` returns, and `release` is over. -/
  | released (r : Replica)
  /-- `stop` cancels the monitor in the middle of a pass. -/
  | cancelled (r : Replica)
  /-- A session dies. -/
  | died (c : Session Replica)
  /-- A job fires. -/
  | fired (r : Replica)

namespace Cluster

/-- What an event does to the cluster. -/
def step (s : Cluster Replica) : OwnershipEvent Replica → Option (Cluster Replica)
  | .acquire r => match (s.runtime r).pending with
      | .idle => some (s.put r ((s.runtime r).acquireOwnership false))
      | _ => none
  | .tick r => match (s.runtime r).pending with
      | .idle => some (s.put r (s.runtime r).monitorOwnershipWithPort)
      | _ => none
  | .release r => match (s.runtime r).pending with
      | .idle => some (s.put r (s.runtime r).release)
      | _ => none
  | .connected r n => match (s.runtime r).pending with
      | .connecting tick =>
          -- the pool never hands out the session the port still holds
          if (s.runtime r).ownership.connection = some ⟨r, n⟩ then none
          else some ({ s with server := s.server.connect ⟨r, n⟩ }.put r
            { s.runtime r with pending := .locking ⟨r, n⟩ tick })
      | _ => none
  | .connectFailed r => match (s.runtime r).pending with
      | .connecting tick => some (s.put r ((s.runtime r).acquireRaised tick))
      | _ => none
  | .lockAnswered r => match (s.runtime r).pending with
      | .locking c tick =>
          if s.server.live c = true then
            if s.server.tryLock c then
              some ({ s with server := s.server.grant c }.put r
                { s.runtime r with pending := .answered c true tick })
            else some (s.put r { s.runtime r with pending := .answered c false tick })
          else none
      | _ => none
  | .lockFailed r => match (s.runtime r).pending with
      | .locking _ tick => some (s.put r { s.runtime r with pending := .closing true tick })
      | _ => none
  | .resumed r => match (s.runtime r).pending with
      | .answered c true _ => some (s.put r ((s.runtime r).acquired c))
      | .answered _ false tick =>
          some (s.put r { s.runtime r with pending := .closing false tick })
      | _ => none
  | .closed r => match (s.runtime r).pending with
      | .closing true tick => some (s.put r ((s.runtime r).acquireRaised tick))
      | .closing false _ => some (s.put r (s.runtime r).refused)
      | _ => none
  | .probed r ok => match (s.runtime r).pending with
      | .probing c =>
          -- `SELECT 1` cannot return on a dead session
          if ok = true ∧ s.server.live c = false then none
          else some (s.put r ((s.runtime r).probed ok))
      | _ => none
  | .unlocked r freed => match (s.runtime r).pending with
      | .unlocking c =>
          if freed = true then
            if s.server.live c = true ∧ s.server.holder = some c then
              some ({ s with server := s.server.unlock }.put r
                { s.runtime r with pending := .releasing true })
            else none
          else some (s.put r { s.runtime r with pending := .releasing false })
      | _ => none
  | .released r => match (s.runtime r).pending with
      | .releasing _ => some (s.put r (s.runtime r).released)
      | _ => none
  | .cancelled r => match (s.runtime r).pending with
      | .connecting true => some (s.put r { s.runtime r with pending := .idle })
      | .locking _ true => some (s.put r { s.runtime r with pending := .idle })
      | .answered _ _ true => some (s.put r { s.runtime r with pending := .idle })
      | .closing _ true => some (s.put r { s.runtime r with pending := .idle })
      | .probing _ => some (s.put r { s.runtime r with pending := .idle })
      | _ => none
  | .died c => if s.server.live c = true then some { s with server := s.server.die c } else none
  | .fired _ => some s

end Cluster

/-! ## What a step does -/

/-- An await that only belongs to a pass of the monitor, which `stop` may cancel. -/
def Await.OfTick : Await Replica → Prop
  | .connecting tick | .locking _ tick | .answered _ _ tick | .closing _ tick => tick = true
  | .probing _ => True
  | _ => False

/-- The steps of a cluster, each with where it is possible and what it leaves. -/
inductive ClusterStep (s : Cluster Replica) : OwnershipEvent Replica → Cluster Replica → Prop where
  | acquire {r : Replica} : (s.runtime r).pending = .idle →
      ClusterStep s (.acquire r) (s.put r ((s.runtime r).acquireOwnership false))
  | tick {r : Replica} : (s.runtime r).pending = .idle →
      ClusterStep s (.tick r) (s.put r (s.runtime r).monitorOwnershipWithPort)
  | release {r : Replica} : (s.runtime r).pending = .idle →
      ClusterStep s (.release r) (s.put r (s.runtime r).release)
  | connected {r : Replica} {n : Nat} {tick : Bool} : (s.runtime r).pending = .connecting tick →
      (s.runtime r).ownership.connection ≠ some ⟨r, n⟩ →
      ClusterStep s (.connected r n) ({ s with server := s.server.connect ⟨r, n⟩ }.put r
        { s.runtime r with pending := .locking ⟨r, n⟩ tick })
  | connectFailed {r : Replica} {tick : Bool} : (s.runtime r).pending = .connecting tick →
      ClusterStep s (.connectFailed r) (s.put r ((s.runtime r).acquireRaised tick))
  | granted {r : Replica} {c : Session Replica} {tick : Bool} :
      (s.runtime r).pending = .locking c tick → s.server.live c = true →
      s.server.tryLock c = true →
      ClusterStep s (.lockAnswered r) ({ s with server := s.server.grant c }.put r
        { s.runtime r with pending := .answered c true tick })
  | taken {r : Replica} {c : Session Replica} {tick : Bool} :
      (s.runtime r).pending = .locking c tick → s.server.live c = true →
      ¬ s.server.tryLock c = true →
      ClusterStep s (.lockAnswered r)
        (s.put r { s.runtime r with pending := .answered c false tick })
  | lockFailed {r : Replica} {c : Session Replica} {tick : Bool} :
      (s.runtime r).pending = .locking c tick →
      ClusterStep s (.lockFailed r) (s.put r { s.runtime r with pending := .closing true tick })
  | acquired {r : Replica} {c : Session Replica} {tick : Bool} :
      (s.runtime r).pending = .answered c true tick →
      ClusterStep s (.resumed r) (s.put r ((s.runtime r).acquired c))
  | refused {r : Replica} {c : Session Replica} {tick : Bool} :
      (s.runtime r).pending = .answered c false tick →
      ClusterStep s (.resumed r) (s.put r { s.runtime r with pending := .closing false tick })
  | closedRaised {r : Replica} {tick : Bool} : (s.runtime r).pending = .closing true tick →
      ClusterStep s (.closed r) (s.put r ((s.runtime r).acquireRaised tick))
  | closedRefused {r : Replica} {tick : Bool} : (s.runtime r).pending = .closing false tick →
      ClusterStep s (.closed r) (s.put r (s.runtime r).refused)
  | probed {r : Replica} {ok : Bool} {c : Session Replica} : (s.runtime r).pending = .probing c →
      ¬ (ok = true ∧ s.server.live c = false) →
      ClusterStep s (.probed r ok) (s.put r ((s.runtime r).probed ok))
  | unlocked {r : Replica} {c : Session Replica} : (s.runtime r).pending = .unlocking c →
      s.server.live c = true → s.server.holder = some c →
      ClusterStep s (.unlocked r true) ({ s with server := s.server.unlock }.put r
        { s.runtime r with pending := .releasing true })
  | unlockFailed {r : Replica} {c : Session Replica} : (s.runtime r).pending = .unlocking c →
      ClusterStep s (.unlocked r false)
        (s.put r { s.runtime r with pending := .releasing false })
  | released {r : Replica} {freed : Bool} : (s.runtime r).pending = .releasing freed →
      ClusterStep s (.released r) (s.put r (s.runtime r).released)
  | cancelled {r : Replica} : (s.runtime r).pending.OfTick →
      ClusterStep s (.cancelled r) (s.put r { s.runtime r with pending := .idle })
  | died {c : Session Replica} : s.server.live c = true →
      ClusterStep s (.died c) { s with server := s.server.die c }
  | fired {r : Replica} : ClusterStep s (.fired r) s

/-- What an event does is one of these steps. -/
theorem Cluster.clusterStep_of_step {s s' : Cluster Replica} {e : OwnershipEvent Replica}
    (h : s.step e = some s') : ClusterStep s e s' := by
  cases e with
  | acquire r =>
      simp only [step] at h
      split at h <;> try contradiction
      cases h
      exact .acquire ‹_›
  | tick r =>
      simp only [step] at h
      split at h <;> try contradiction
      cases h
      exact .tick ‹_›
  | release r =>
      simp only [step] at h
      split at h <;> try contradiction
      cases h
      exact .release ‹_›
  | connected r n =>
      simp only [step] at h
      split at h <;> try contradiction
      split at h <;> try contradiction
      cases h
      exact .connected ‹_› ‹_›
  | connectFailed r =>
      simp only [step] at h
      split at h <;> try contradiction
      cases h
      exact .connectFailed ‹_›
  | lockAnswered r =>
      simp only [step] at h
      split at h <;> try contradiction
      split at h <;> try contradiction
      split at h
      · cases h
        exact .granted ‹_› ‹_› ‹_›
      · cases h
        exact .taken ‹_› ‹_› ‹_›
  | lockFailed r =>
      simp only [step] at h
      split at h <;> try contradiction
      cases h
      exact .lockFailed ‹_›
  | resumed r =>
      simp only [step] at h
      split at h <;> try contradiction
      · cases h
        exact .acquired ‹_›
      · cases h
        exact .refused ‹_›
  | closed r =>
      simp only [step] at h
      split at h <;> try contradiction
      · cases h
        exact .closedRaised ‹_›
      · cases h
        exact .closedRefused ‹_›
  | probed r ok =>
      simp only [step] at h
      split at h <;> try contradiction
      split at h <;> try contradiction
      cases h
      exact .probed ‹_› ‹_›
  | unlocked r freed =>
      simp only [step] at h
      split at h <;> try contradiction
      cases freed with
      | true =>
          simp only [if_true] at h
          split at h <;> try contradiction
          rename_i hheld
          cases h
          exact .unlocked ‹_› hheld.1 hheld.2
      | false =>
          simp only [Bool.false_eq_true, if_false] at h
          cases h
          exact .unlockFailed ‹_›
  | released r =>
      simp only [step] at h
      split at h <;> try contradiction
      cases h
      exact .released ‹_›
  | cancelled r =>
      simp only [step] at h
      split at h <;> try contradiction
      all_goals
        rename_i hp
        cases h
        refine .cancelled ?_
        rw [hp]
        trivial
  | died c =>
      simp only [step] at h
      split at h <;> try contradiction
      cases h
      exact .died ‹_›
  | fired r =>
      cases h
      exact .fired

end Scheduler
end NodeNexus
