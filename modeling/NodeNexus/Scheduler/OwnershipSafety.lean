import NodeNexus.Scheduler.Ownership

/-!
# Scheduler ownership: who may execute

What the ownership code of `NodeNexus.Scheduler.Ownership` is for: at most one
replica owns execution, and a replica whose lock session died stops owning once
its monitor has looked.  "Has looked since" is not a field of the program, so
a `Watch` is run next to the cluster that records it.

The code does not deliver this.  A failing probe clears `_owns_execution`, but
with a port configured `owns_execution` reads the port's `_acquired`, which
only `release` and a refused `try_acquire` clear; and `release` gives the lock
back one await before it clears the flag.  `OwnershipSafe` is therefore proved
of the runs that never take these two turns (`KeepsLock`), and refuted in
general.
-/

namespace NodeNexus
namespace Scheduler

variable {Replica : Type} [DecidableEq Replica]

/-! ## What is observed of a run -/

/-- The port holds a session that is dead. -/
def ApschedulerRuntime.lockSessionDead (rt : ApschedulerRuntime Replica)
    (srv : LockServer Replica) : Bool :=
  match rt.ownership.connection with
  | some c => rt.ownership.acquired && !srv.live c
  | none => false

/-- Which passes of the ownership monitor have been completed. -/
structure Watch (Replica : Type) where
  /-- The pass in flight began after the last death of a session. -/
  inTick : Replica → Bool
  /-- The pass in flight began over a dead lock session. -/
  overDead : Replica → Bool
  /-- A pass was completed that began after the last death of a session. -/
  ticked : Replica → Bool
  /-- A pass was completed that began over a dead lock session, and the lock was
  not acquired since. -/
  lost : Replica → Bool

namespace Watch

/-- The replica completes the pass in flight. -/
def complete (w : Watch Replica) (r : Replica) : Watch Replica :=
  { w with
    ticked := Function.update w.ticked r (w.ticked r || w.inTick r)
    lost := Function.update w.lost r (w.lost r || w.overDead r) }

/-- The replica starts a pass. -/
def begin (w : Watch Replica) (r : Replica) (dead : Bool) : Watch Replica :=
  { w with
    inTick := Function.update w.inTick r true
    overDead := Function.update w.overDead r dead }

/-- What an event adds to the observations; `s` is the cluster before it. -/
def observe (s : Cluster Replica) (w : Watch Replica) : OwnershipEvent Replica → Watch Replica
  | .died _ => { w with inTick := fun _ => false, ticked := fun _ => false }
  | .tick r =>
      let w' := w.begin r ((s.runtime r).lockSessionDead s.server)
      match (s.runtime r).monitorOwnershipWithPort.pending with
      | .idle => w'.complete r
      | _ => w'
  | .connectFailed r => match (s.runtime r).pending with
      | .connecting true => w.complete r
      | _ => w
  | .resumed r => match (s.runtime r).pending with
      | .answered _ true true =>
          { w.complete r with lost := Function.update w.lost r false }
      | .answered _ true false => { w with lost := Function.update w.lost r false }
      | _ => w
  | .closed r => match (s.runtime r).pending with
      | .closing _ true => w.complete r
      | _ => w
  | .probed r _ => w.complete r
  | _ => w

end Watch

/-- The cluster together with what is observed of it.  A run starts with every
runtime as `__init__` leaves it, no session open and the lock free. -/
def ownershipSystem (Replica : Type) [DecidableEq Replica] :
    System (Cluster Replica × Watch Replica) (OwnershipEvent Replica) where
  init x := (∀ r, ∃ executor, x.1.runtime r = .initial executor) ∧
    (∀ c, x.1.server.live c = false) ∧ x.1.server.holder = none ∧
    ∀ r, x.2.ticked r = true ∧ x.2.lost r = false ∧ x.2.overDead r = false
  step x e := (x.1.step e).map fun s' => (s', x.2.observe x.1 e)

/-! ## The property -/

/-- Mutual exclusion of scheduled execution: a replica that has completed a
pass over its dead lock session does not own execution until it acquires the
lock again; and when every replica has completed a pass since the last death of
a session, at most one of them owns execution, and only an owner hands a fired
job to the executor. -/
def OwnershipSafe (x : Cluster Replica × Watch Replica) : Prop :=
  (∀ r, x.2.lost r = true → (x.1.runtime r).ownsExecution = false) ∧
  ((∀ r, x.2.ticked r = true) →
    (∀ r r', (x.1.runtime r).ownsExecution = true → (x.1.runtime r').ownsExecution = true →
      r = r') ∧
    ∀ r, (x.1.runtime r).executeScheduledScript = .handedOver →
      (x.1.runtime r).ownsExecution = true)

/-- The two turns the code may not take: a pass of the monitor over a lock
session that has died, and a `try_acquire` that succeeds while another replica
is in `release`, between giving the lock back and clearing its flag. -/
def KeepsLock (x : Cluster Replica × Watch Replica) : OwnershipEvent Replica → Prop
  | .tick r => (x.1.runtime r).lockSessionDead x.1.server = false
  | .resumed r => (∃ c tick, (x.1.runtime r).pending = .answered c true tick) →
      ∀ r', r' ≠ r → (x.1.runtime r').pending ≠ .releasing true
  | _ => True

/-! ## The invariant -/

/-- The sessions a replica's port refers to: the one it holds, and the one its
`try_acquire` is working on. -/
def ApschedulerRuntime.Uses (rt : ApschedulerRuntime Replica) (c : Session Replica) : Prop :=
  rt.ownership.connection = some c ∨
    (∃ tick, rt.pending = .locking c tick) ∨ ∃ granted tick, rt.pending = .answered c granted tick

/-- What is known at each await. -/
def AwaitOk (srv : LockServer Replica) (r : Replica) (conn : Option (Session Replica)) :
    Await Replica → Prop
  | .idle => True
  | .connecting _ => conn = none
  | .locking c _ => conn = none ∧ c.replica = r
  | .answered c granted _ => conn = none ∧ c.replica = r ∧
      (granted = true → srv.live c = true → srv.holder = some c)
  | .closing _ _ => conn = none
  | .probing c => conn = some c
  | .unlocking c => conn = some c
  | .releasing _ => True

/-- The facts about one replica. -/
structure ReplicaOk (srv : LockServer Replica) (r : Replica) (rt : ApschedulerRuntime Replica) :
    Prop where
  /-- The two fields of the port are set and cleared together. -/
  acquired_eq : rt.ownership.acquired = rt.ownership.connection.isSome
  /-- The port holds a session of its own pool. -/
  own : ∀ c, rt.ownership.connection = some c → c.replica = r
  /-- A live session the port holds has the lock, except in the last stretch of `release`. -/
  holds : ∀ c, rt.ownership.connection = some c → srv.live c = true →
    srv.holder = some c ∨ rt.pending = .releasing true
  /-- The await is in order. -/
  await : AwaitOk srv r rt.ownership.connection rt.pending

/-- The invariant of the runs that keep the lock. -/
structure OwnershipInv (x : Cluster Replica × Watch Replica) : Prop where
  /-- Every replica is in order. -/
  replicaOk : ∀ r, ReplicaOk x.1.server r (x.1.runtime r)
  /-- A replica that refers to a dead session has not completed a pass since,
  and is not in one that would count. -/
  stale : ∀ r c, (x.1.runtime r).Uses c → x.1.server.live c = false →
    x.2.ticked r = false ∧ x.2.inTick r = false
  /-- While a replica is in the last stretch of `release`, every session another
  port holds is dead. -/
  alone : ∀ r, (x.1.runtime r).pending = .releasing true → ∀ r' c, r' ≠ r →
    (x.1.runtime r').ownership.connection = some c → x.1.server.live c = false
  /-- No pass began over a dead lock session. -/
  calm : ∀ r, x.2.lost r = false ∧ x.2.overDead r = false

omit [DecidableEq Replica] in
theorem ReplicaOk.uses_replica {srv : LockServer Replica} {r : Replica}
    {rt : ApschedulerRuntime Replica} (h : ReplicaOk srv r rt) {c : Session Replica}
    (hc : rt.Uses c) : c.replica = r := by
  rcases hc with hc | ⟨tick, hp⟩ | ⟨granted, tick, hp⟩
  · exact h.own c hc
  · have := h.await
    rw [hp] at this
    exact this.2
  · have := h.await
    rw [hp] at this
    exact this.2.1

omit [DecidableEq Replica] in
/-- A replica does not notice changes to the sessions of other pools. -/
theorem ReplicaOk.frame {srv srv' : LockServer Replica} {r : Replica}
    {rt : ApschedulerRuntime Replica} (h : ReplicaOk srv r rt)
    (hlive : ∀ c : Session Replica, c.replica = r → srv'.live c = true → srv.live c = true)
    (hhold : ∀ c : Session Replica, c.replica = r → srv'.live c = true →
      srv.holder = some c → srv'.holder = some c) :
    ReplicaOk srv' r rt where
  acquired_eq := h.acquired_eq
  own := h.own
  holds c hc hl := by
    have hr := h.own c hc
    rcases h.holds c hc (hlive c hr hl) with hh | hp
    · exact Or.inl (hhold c hr hl hh)
    · exact Or.inr hp
  await := by
    have ha := h.await
    cases hp : rt.pending with
    | answered c granted tick =>
        rw [hp] at ha
        obtain ⟨h1, h2, h3⟩ := ha
        exact ⟨h1, h2, fun hg hl => hhold c h2 hl (h3 hg (hlive c h2 hl))⟩
    | _ => rw [hp] at ha; exact ha

/-- The one lemma the events go through: the event changes the runtime of the
replica `r`, sessions of its own pool, and the observations of `r`. -/
theorem OwnershipInv.change {s : Cluster Replica} {w w' : Watch Replica}
    {r : Replica} {rt' : ApschedulerRuntime Replica}
    (h : OwnershipInv (s, w)) (srv' : LockServer Replica)
    (hlive : ∀ c : Session Replica, c.replica ≠ r → srv'.live c = s.server.live c)
    (hhold : ∀ c : Session Replica, c.replica ≠ r → s.server.holder = some c →
      srv'.holder = some c)
    (hok : ReplicaOk srv' r rt')
    (hother : ∀ r', r' ≠ r → w'.ticked r' = w.ticked r' ∧ w'.inTick r' = w.inTick r')
    (hstale : ∀ c, rt'.Uses c → srv'.live c = false → w'.ticked r = false ∧ w'.inTick r = false)
    (hcalm : ∀ r', w'.lost r' = false ∧ w'.overDead r' = false)
    (hleave : rt'.pending = .releasing true → ∀ r' c, r' ≠ r →
      (s.runtime r').ownership.connection = some c → s.server.live c = false)
    (hgain : ∀ c, rt'.ownership.connection = some c → srv'.live c = true →
      (s.runtime r).ownership.connection = some c ∧ s.server.live c = true ∨
      ∀ r', r' ≠ r → (s.runtime r').pending ≠ .releasing true) :
    OwnershipInv ({ s with server := srv' }.put r rt', w') where
  replicaOk r' := by
    by_cases hr : r' = r
    · subst hr
      simpa [Cluster.put] using hok
    · have hold := h.replicaOk r'
      simp only [Cluster.put, Function.update_of_ne hr]
      refine hold.frame (fun c hc hl => ?_) (fun c hc _ hh => hhold c (by rw [hc]; exact hr) hh)
      rwa [hlive c (by rw [hc]; exact hr)] at hl
  stale r' c hu hl := by
    by_cases hr : r' = r
    · subst hr
      simp only [Cluster.put, Function.update_self] at hu hl
      exact hstale c hu hl
    · simp only [Cluster.put, Function.update_of_ne hr] at hu hl
      have hc : c.replica ≠ r := by
        rw [(h.replicaOk r').uses_replica hu]
        exact hr
      rw [hlive c hc] at hl
      obtain ⟨h1, h2⟩ := h.stale r' c hu hl
      obtain ⟨h3, h4⟩ := hother r' hr
      exact ⟨h3.trans h1, h4.trans h2⟩
  alone r₀ hp r' c hne hc := by
    by_cases hr₀ : r₀ = r
    · subst hr₀
      simp only [Cluster.put, Function.update_self] at hp
      simp only [Cluster.put, Function.update_of_ne hne] at hc ⊢
      rw [hlive c (by rw [(h.replicaOk r').own c hc]; exact hne)]
      exact hleave hp r' c hne hc
    · simp only [Cluster.put, Function.update_of_ne hr₀] at hp
      by_cases hr' : r' = r
      · subst hr'
        simp only [Cluster.put, Function.update_self] at hc ⊢
        by_contra hl
        rw [Bool.not_eq_false] at hl
        rcases hgain c hc hl with ⟨h1, h2⟩ | h1
        · exact absurd (h.alone r₀ hp r' c hne h1) (by simp [h2])
        · exact h1 r₀ hr₀ hp
      · simp only [Cluster.put, Function.update_of_ne hr'] at hc ⊢
        rw [hlive c (by rw [(h.replicaOk r').own c hc]; exact hr')]
        exact h.alone r₀ hp r' c hne hc
  calm := hcalm

/-- An event that leaves the port of the replica `r` and the server alone, and
lets its coroutine refer to no new session. -/
theorem OwnershipInv.move {s : Cluster Replica} {w w' : Watch Replica} {r : Replica}
    {rt' : ApschedulerRuntime Replica} (h : OwnershipInv (s, w))
    (hown : rt'.ownership = (s.runtime r).ownership)
    (hbefore : (s.runtime r).pending ≠ .releasing true) (hafter : rt'.pending ≠ .releasing true)
    (hawait : AwaitOk s.server r (s.runtime r).ownership.connection rt'.pending)
    (hother : ∀ r', r' ≠ r → w'.ticked r' = w.ticked r' ∧ w'.inTick r' = w.inTick r')
    (hstale : ∀ c, rt'.Uses c → s.server.live c = false →
      w'.ticked r = false ∧ w'.inTick r = false)
    (hcalm : ∀ r', w'.lost r' = false ∧ w'.overDead r' = false) :
    OwnershipInv (s.put r rt', w') := by
  have hok : ReplicaOk s.server r (s.runtime r) := h.replicaOk r
  refine h.change s.server (fun _ _ => rfl) (fun _ _ hc => hc) ?_ hother hstale hcalm
    (fun hp => absurd hp hafter) ?_
  · refine ⟨?_, ?_, ?_, ?_⟩
    · rw [hown]
      exact hok.acquired_eq
    · rw [hown]
      exact hok.own
    · rw [hown]
      intro c hc hl
      exact (hok.holds c hc hl).imp_right fun hp => absurd hp hbefore
    · rw [hown]
      exact hawait
  · rw [hown]
    exact fun c hc hl => Or.inl ⟨hc, hl⟩

omit [DecidableEq Replica] in
/-- A coroutine that is suspended nowhere, or waits for no session, refers to
no session but the one the port holds. -/
theorem uses_of_pending (rt : ApschedulerRuntime Replica) {c : Session Replica}
    (h₁ : ∀ d tick, rt.pending ≠ .locking d tick)
    (h₂ : ∀ d granted tick, rt.pending ≠ .answered d granted tick)
    (hu : rt.Uses c) : rt.ownership.connection = some c := by
  rcases hu with hc | ⟨tick, hp⟩ | ⟨granted, tick, hp⟩
  · exact hc
  · exact absurd hp (h₁ c tick)
  · exact absurd hp (h₂ c granted tick)

theorem Watch.complete_other {w : Watch Replica} {r r' : Replica} (h : r' ≠ r) :
    (w.complete r).ticked r' = w.ticked r' ∧ (w.complete r).inTick r' = w.inTick r' :=
  ⟨Function.update_of_ne h _ _, rfl⟩

theorem Watch.complete_stale {w : Watch Replica} {r : Replica}
    (h : w.ticked r = false ∧ w.inTick r = false) :
    (w.complete r).ticked r = false ∧ (w.complete r).inTick r = false := by
  refine ⟨?_, h.2⟩
  simp [Watch.complete, h.1, h.2]

theorem Watch.complete_calm {w : Watch Replica} {r : Replica}
    (h : ∀ r', w.lost r' = false ∧ w.overDead r' = false) (r' : Replica) :
    (w.complete r).lost r' = false ∧ (w.complete r).overDead r' = false := by
  refine ⟨?_, (h r').2⟩
  by_cases hr : r' = r
  · subst hr
    simp [Watch.complete, (h r').1, (h r').2]
  · simpa [Watch.complete, Function.update_of_ne hr] using (h r').1

/-! ## One step -/

/-- A pass of the monitor starts. -/
theorem OwnershipInv.tick {s : Cluster Replica} {w : Watch Replica} {r : Replica}
    (h : OwnershipInv (s, w)) (hk : (s.runtime r).lockSessionDead s.server = false)
    (hp : (s.runtime r).pending = .idle) :
    OwnershipInv (s.put r (s.runtime r).monitorOwnershipWithPort, w.observe s (.tick r)) := by
  have hok : ReplicaOk s.server r (s.runtime r) := h.replicaOk r
  have hother : ∀ r', r' ≠ r → (w.begin r false).ticked r' = w.ticked r' ∧
      (w.begin r false).inTick r' = w.inTick r' :=
    fun r' hr => ⟨rfl, Function.update_of_ne hr _ _⟩
  have hcalm : ∀ r', (w.begin r false).lost r' = false ∧
      (w.begin r false).overDead r' = false := by
    intro r'
    refine ⟨(h.calm r').1, ?_⟩
    by_cases hr : r' = r
    · subst hr
      simp [Watch.begin]
    · simpa [Watch.begin, Function.update_of_ne hr] using (h.calm r').2
  cases hc : (s.runtime r).ownership.connection with
  | none =>
      have hacq : (s.runtime r).ownership.acquired = false := by
        rw [hok.acquired_eq, hc]
        rfl
      have hm : (s.runtime r).monitorOwnershipWithPort =
          { s.runtime r with pending := .connecting true } := by
        simp [ApschedulerRuntime.monitorOwnershipWithPort, SchedulerOwnership.isAcquired, hacq,
          ApschedulerRuntime.acquireOwnership]
      have hw : w.observe s (.tick r) = w.begin r false := by
        simp [Watch.observe, hm, hk]
      rw [hm, hw]
      refine h.move rfl (by rw [hp]; simp) (by simp) (by simpa [AwaitOk] using hc) hother ?_ hcalm
      intro c hu _
      have := uses_of_pending _ (by simp) (by simp) hu
      simp [hc] at this
  | some c =>
      have hacq : (s.runtime r).ownership.acquired = true := by
        rw [hok.acquired_eq, hc]
        rfl
      have hm : (s.runtime r).monitorOwnershipWithPort =
          { s.runtime r with pending := .probing c } := by
        simp [ApschedulerRuntime.monitorOwnershipWithPort, SchedulerOwnership.isAcquired, hacq, hc]
      have hw : w.observe s (.tick r) = w.begin r false := by
        simp [Watch.observe, hm, hk]
      have hlive : s.server.live c = true := by
        simpa [ApschedulerRuntime.lockSessionDead, hc, hacq] using hk
      rw [hm, hw]
      refine h.move rfl (by rw [hp]; simp) (by simp) (by simpa [AwaitOk] using hc) hother ?_ hcalm
      intro d hu hd
      have hdc := uses_of_pending _ (by simp) (by simp) hu
      simp only [hc, Option.some.injEq] at hdc
      rw [← hdc, hlive] at hd
      exact absurd hd (by simp)

/-- `connect()` returns a session. -/
theorem OwnershipInv.connected {s : Cluster Replica} {w : Watch Replica} {r : Replica} {n : Nat}
    {tick : Bool} (h : OwnershipInv (s, w)) (hp : (s.runtime r).pending = .connecting tick) :
    OwnershipInv ({ s with server := s.server.connect ⟨r, n⟩ }.put r
      { s.runtime r with pending := .locking ⟨r, n⟩ tick }, w) := by
  have hok : ReplicaOk s.server r (s.runtime r) := h.replicaOk r
  have hnone : (s.runtime r).ownership.connection = none := by
    have := hok.await
    rw [hp] at this
    exact this
  refine h.change _ (fun c hc => ?_) (fun _ _ hh => hh) ?_ (fun _ _ => ⟨rfl, rfl⟩) ?_ h.calm
    (fun hp' => by simp at hp') ?_
  · have hne : c ≠ ⟨r, n⟩ := fun hcn => hc (by rw [hcn])
    simp [LockServer.connect, Function.update_of_ne hne]
  · exact ⟨hok.acquired_eq, hok.own, by simp [hnone], ⟨hnone, rfl⟩⟩
  · intro c hu hl
    have hc : c = ⟨r, n⟩ := by
      rcases hu with hu | ⟨t, hu⟩ | ⟨g, t, hu⟩
      · simp [hnone] at hu
      · simp only [Await.locking.injEq] at hu
        exact hu.1.symm
      · simp at hu
    simp [hc, LockServer.connect] at hl
  · simp [hnone]

/-- The server answers `pg_try_advisory_lock`. -/
theorem OwnershipInv.lockAnswered {s : Cluster Replica} {w : Watch Replica} {r : Replica}
    {c : Session Replica} {tick : Bool} (h : OwnershipInv (s, w))
    (hp : (s.runtime r).pending = .locking c tick) (hlive : s.server.live c = true)
    (hfree : s.server.tryLock c = true) :
    OwnershipInv ({ s with server := s.server.grant c }.put r
      { s.runtime r with pending := .answered c true tick }, w) := by
  have hok : ReplicaOk s.server r (s.runtime r) := h.replicaOk r
  have hawait := hok.await
  rw [hp] at hawait
  obtain ⟨hnone, hrep⟩ := hawait
  refine h.change _ (fun _ _ => rfl) (fun d hd hh => ?_) ?_ (fun _ _ => ⟨rfl, rfl⟩) ?_ h.calm
    (fun hp' => by simp at hp') ?_
  · -- the lock was free, or already with this very session
    simp only [LockServer.tryLock, hh, Bool.or_eq_true, decide_eq_true_eq, reduceCtorEq,
      Option.some.injEq, false_or] at hfree
    exact absurd (by rw [hfree, hrep]) hd
  · exact ⟨hok.acquired_eq, hok.own, by simp [hnone], ⟨hnone, hrep, fun _ _ => rfl⟩⟩
  · intro d hu hl
    have hd : d = c := by
      rcases hu with hu | ⟨t, hu⟩ | ⟨g, t, hu⟩
      · simp [hnone] at hu
      · simp at hu
      · simp only [Await.answered.injEq] at hu
        exact hu.1.symm
    rw [hd] at hl
    simp [LockServer.grant, hlive] at hl
  · simp [hnone]

/-- `try_acquire` succeeds. -/
theorem OwnershipInv.acquired {s : Cluster Replica} {w w' : Watch Replica} {r : Replica}
    {c : Session Replica} {tick : Bool} (h : OwnershipInv (s, w))
    (hp : (s.runtime r).pending = .answered c true tick)
    (hk : ∀ r', r' ≠ r → (s.runtime r').pending ≠ .releasing true)
    (hother : ∀ r', r' ≠ r → w'.ticked r' = w.ticked r' ∧ w'.inTick r' = w.inTick r')
    (hstale : w.ticked r = false ∧ w.inTick r = false →
      w'.ticked r = false ∧ w'.inTick r = false)
    (hcalm : ∀ r', w'.lost r' = false ∧ w'.overDead r' = false) :
    OwnershipInv (s.put r ((s.runtime r).acquired c), w') := by
  have hok : ReplicaOk s.server r (s.runtime r) := h.replicaOk r
  have hawait := hok.await
  rw [hp] at hawait
  obtain ⟨-, hrep, hhold⟩ := hawait
  refine h.change s.server (fun _ _ => rfl) (fun _ _ hh => hh) ?_ hother ?_ hcalm
    (fun hp' => by simp [ApschedulerRuntime.acquired] at hp') (fun _ _ _ => Or.inr hk)
  · refine ⟨rfl, ?_, ?_, trivial⟩
    · intro d hd
      simp only [ApschedulerRuntime.acquired, Option.some.injEq] at hd
      rw [← hd]
      exact hrep
    · intro d hd hl
      simp only [ApschedulerRuntime.acquired, Option.some.injEq] at hd
      rw [← hd] at hl ⊢
      exact Or.inl (hhold rfl hl)
  · intro d hu hl
    have hd := uses_of_pending _ (by simp [ApschedulerRuntime.acquired])
      (by simp [ApschedulerRuntime.acquired]) hu
    simp only [ApschedulerRuntime.acquired, Option.some.injEq] at hd
    refine hstale (h.stale r c (Or.inr (Or.inr ⟨true, tick, hp⟩)) ?_)
    rw [hd]
    exact hl

/-- `pg_advisory_unlock` gives the lock back. -/
theorem OwnershipInv.unlocked {s : Cluster Replica} {w : Watch Replica} {r : Replica}
    {c : Session Replica} (h : OwnershipInv (s, w)) (hp : (s.runtime r).pending = .unlocking c)
    (hlive : s.server.live c = true) (hhold : s.server.holder = some c) :
    OwnershipInv ({ s with server := s.server.unlock }.put r
      { s.runtime r with pending := .releasing true }, w) := by
  have hok : ReplicaOk s.server r (s.runtime r) := h.replicaOk r
  have hconn : (s.runtime r).ownership.connection = some c := by
    have := hok.await
    rw [hp] at this
    exact this
  have hrep := hok.own c hconn
  refine h.change _ (fun _ _ => rfl) (fun d hd hh => ?_) ?_ (fun _ _ => ⟨rfl, rfl⟩) ?_ h.calm ?_ ?_
  · rw [hhold, Option.some.injEq] at hh
    exact absurd (by rw [← hh, hrep]) hd
  · exact ⟨hok.acquired_eq, hok.own, fun _ _ _ => Or.inr rfl, trivial⟩
  · intro d hu hl
    have hd := uses_of_pending { s.runtime r with pending := .releasing true }
      (by simp) (by simp) hu
    exact h.stale r d (Or.inl hd) hl
  · -- nobody else holds a live session: it would hold the lock, or be releasing too
    intro _ r' d hne hd
    by_contra hl
    rw [Bool.not_eq_false] at hl
    rcases (h.replicaOk r').holds d hd hl with hh | hrel
    · rw [hhold, Option.some.injEq] at hh
      exact hne (by rw [← (h.replicaOk r').own d hd, ← hh, hrep])
    · exact absurd (h.alone r' hrel r c (Ne.symm hne) hconn) (by simp [hlive])
  · exact fun d hd hl => Or.inl ⟨hd, hl⟩

/-- A session dies. -/
theorem OwnershipInv.died {s : Cluster Replica} {w : Watch Replica} {c : Session Replica}
    (h : OwnershipInv (s, w)) :
    OwnershipInv ({ s with server := s.server.die c }, w.observe s (.died c)) where
  replicaOk r := by
    refine (h.replicaOk r).frame (fun d _ hl => ?_) (fun d _ hl hh => ?_)
    · by_cases hd : d = c
      · simp [LockServer.die, hd] at hl
      · simpa [LockServer.die, Function.update_of_ne hd] using hl
    · have hd : d ≠ c := by
        rintro rfl
        simp [LockServer.die] at hl
      change (if s.server.holder = some c then none else s.server.holder) = some d
      change s.server.holder = some d at hh
      rw [hh, if_neg fun he => hd (Option.some.inj he)]
  stale _ _ _ _ := ⟨rfl, rfl⟩
  alone r hp r' d hne hd := by
    have := h.alone r hp r' d hne hd
    by_cases hdc : d = c
    · simp [LockServer.die, hdc]
    · simpa [LockServer.die, Function.update_of_ne hdc] using this
  calm := h.calm

/-- A coroutine that ends, or goes on to an await that concerns no session. -/
theorem OwnershipInv.settle {s : Cluster Replica} {w w' : Watch Replica} {r : Replica}
    {rt' : ApschedulerRuntime Replica} (h : OwnershipInv (s, w))
    (hown : rt'.ownership = (s.runtime r).ownership)
    (hbefore : (s.runtime r).pending ≠ .releasing true)
    (hafter : rt'.pending = .idle ∨ rt'.pending = .releasing false ∨
      ∃ raising tick, rt'.pending = .closing raising tick ∧
        (s.runtime r).ownership.connection = none)
    (hw : w' = w ∨ w' = w.complete r) : OwnershipInv (s.put r rt', w') := by
  have hstale : ∀ c, rt'.Uses c → s.server.live c = false →
      w.ticked r = false ∧ w.inTick r = false := by
    intro c hu hl
    refine h.stale r c (Or.inl ?_) hl
    rw [← hown]
    refine uses_of_pending _ ?_ ?_ hu <;> intros <;>
      rcases hafter with hp | hp | ⟨_, _, hp, -⟩ <;> rw [hp] <;> simp
  have hafter' : rt'.pending ≠ .releasing true := by
    rcases hafter with hp | hp | ⟨_, _, hp, -⟩ <;> rw [hp] <;> simp
  have hawait : AwaitOk s.server r (s.runtime r).ownership.connection rt'.pending := by
    rcases hafter with hp | hp | ⟨_, _, hp, hc⟩ <;> rw [hp]
    · trivial
    · trivial
    · exact hc
  rcases hw with rfl | rfl
  · exact h.move hown hbefore hafter' hawait (fun _ _ => ⟨rfl, rfl⟩) hstale h.calm
  · exact h.move hown hbefore hafter' hawait (fun _ hr => Watch.complete_other hr)
      (fun c hu hl => Watch.complete_stale (hstale c hu hl)) (Watch.complete_calm h.calm)

/-- The port is empty: `try_acquire` was refused, or `release` is over. -/
theorem OwnershipInv.empty {s : Cluster Replica} {w w' : Watch Replica} {r : Replica}
    {rt' : ApschedulerRuntime Replica} (h : OwnershipInv (s, w))
    (hown : rt'.ownership = ⟨none, false⟩) (hp : rt'.pending = .idle)
    (hw : w' = w ∨ w' = w.complete r) : OwnershipInv (s.put r rt', w') := by
  have hstale : ∀ c, rt'.Uses c → s.server.live c = false →
      w'.ticked r = false ∧ w'.inTick r = false := by
    intro c hu _
    have := uses_of_pending _ (by simp [hp]) (by simp [hp]) hu
    simp [hown] at this
  have hok : ReplicaOk s.server r rt' := by
    refine ⟨by simp [hown], by simp [hown], by simp [hown], ?_⟩
    rw [hp]
    trivial
  have hgain : ∀ c, rt'.ownership.connection = some c → s.server.live c = true →
      (s.runtime r).ownership.connection = some c ∧ s.server.live c = true ∨
      ∀ r', r' ≠ r → (s.runtime r').pending ≠ .releasing true := by
    simp [hown]
  rcases hw with rfl | rfl
  · exact h.change _ (fun _ _ => rfl) (fun _ _ hh => hh) hok (fun _ _ => ⟨rfl, rfl⟩) hstale h.calm
      (by simp [hp]) hgain
  · exact h.change _ (fun _ _ => rfl) (fun _ _ hh => hh) hok (fun _ hr => Watch.complete_other hr)
      hstale (Watch.complete_calm h.calm) (by simp [hp]) hgain

/-- `acquire_ownership` returns at once, or goes to ask for a session. -/
theorem OwnershipInv.acquire {s : Cluster Replica} {w : Watch Replica} {r : Replica}
    (h : OwnershipInv (s, w)) (hp : (s.runtime r).pending = .idle) :
    OwnershipInv (s.put r ((s.runtime r).acquireOwnership false), w) := by
  simp only [ApschedulerRuntime.acquireOwnership]
  split
  · exact h.settle rfl (by rw [hp]; simp) (Or.inl hp) (Or.inl rfl)
  · rename_i hacquired
    have hok : ReplicaOk s.server r (s.runtime r) := h.replicaOk r
    have hnone : (s.runtime r).ownership.connection = none := by
      cases hconn : (s.runtime r).ownership.connection with
      | none => rfl
      | some c => simp [hok.acquired_eq, hconn] at hacquired
    refine h.move rfl (by rw [hp]; simp) (by simp) hnone (fun _ _ => ⟨rfl, rfl⟩) ?_ h.calm
    intro c hu _
    have hconn := uses_of_pending _ (by simp) (by simp) hu
    simp [hnone] at hconn

/-- `release` unlocks the session of the port, where it has one. -/
theorem OwnershipInv.release {s : Cluster Replica} {w : Watch Replica} {r : Replica}
    (h : OwnershipInv (s, w)) (hp : (s.runtime r).pending = .idle) :
    OwnershipInv (s.put r (s.runtime r).release, w) := by
  cases hc : (s.runtime r).ownership.connection with
  | none =>
      simp only [ApschedulerRuntime.release, hc]
      exact h.empty rfl hp (Or.inl rfl)
  | some c =>
      simp only [ApschedulerRuntime.release, hc]
      refine h.move rfl (by rw [hp]; simp) (by simp) hc (fun _ _ => ⟨rfl, rfl⟩) ?_ h.calm
      intro d hu hl
      exact h.stale r d (Or.inl (uses_of_pending
        { s.runtime r with pending := .unlocking c } (by simp) (by simp) hu)) hl

/-- The server answers that the lock is taken. -/
theorem OwnershipInv.taken {s : Cluster Replica} {w : Watch Replica} {r : Replica}
    {c : Session Replica} {tick : Bool} (h : OwnershipInv (s, w))
    (hp : (s.runtime r).pending = .locking c tick) :
    OwnershipInv (s.put r { s.runtime r with pending := .answered c false tick }, w) := by
  have hawait : AwaitOk s.server r (s.runtime r).ownership.connection (s.runtime r).pending :=
    (h.replicaOk r).await
  rw [hp] at hawait
  refine h.move rfl (by rw [hp]; simp) (by simp) ⟨hawait.1, hawait.2, by simp⟩
    (fun _ _ => ⟨rfl, rfl⟩) ?_ h.calm
  intro d hu hd
  refine h.stale r d ?_ hd
  rcases hu with hu | ⟨t, hu⟩ | ⟨g, t, hu⟩
  · exact Or.inl hu
  · simp at hu
  · simp only [Await.answered.injEq] at hu
    exact Or.inr (Or.inl ⟨tick, hu.1 ▸ hp⟩)

/-- A `try_acquire` that has not got the lock closes its session. -/
theorem OwnershipInv.closing {s : Cluster Replica} {w w' : Watch Replica} {r : Replica}
    {c : Session Replica} {tick : Bool} (raising : Bool) (h : OwnershipInv (s, w))
    (hp : (s.runtime r).pending = .locking c tick ∨
      (s.runtime r).pending = .answered c false tick) (hw : w' = w) :
    OwnershipInv (s.put r { s.runtime r with pending := .closing raising tick }, w') := by
  subst hw
  have hawait : AwaitOk s.server r (s.runtime r).ownership.connection (s.runtime r).pending :=
    (h.replicaOk r).await
  rcases hp with hp | hp
  · rw [hp] at hawait
    exact h.settle rfl (by rw [hp]; simp) (Or.inr (Or.inr ⟨raising, tick, rfl, hawait.1⟩))
      (Or.inl rfl)
  · rw [hp] at hawait
    exact h.settle rfl (by rw [hp]; simp) (Or.inr (Or.inr ⟨raising, tick, rfl, hawait.1⟩))
      (Or.inl rfl)

/-- `try_acquire` goes on after the lock was granted. -/
theorem OwnershipInv.resumed {s : Cluster Replica} {w : Watch Replica} {r : Replica}
    {c : Session Replica} {tick : Bool} (h : OwnershipInv (s, w))
    (hp : (s.runtime r).pending = .answered c true tick)
    (hk : ∀ r', r' ≠ r → (s.runtime r').pending ≠ .releasing true) :
    OwnershipInv (s.put r ((s.runtime r).acquired c), w.observe s (.resumed r)) := by
  have hcalm : ∀ r', Function.update w.lost r false r' = false ∧ w.overDead r' = false := by
    intro r'
    refine ⟨?_, (h.calm r').2⟩
    by_cases hr : r' = r
    · subst hr
      simp
    · simpa [Function.update_of_ne hr] using (h.calm r').1
  cases tick with
  | true =>
      have hw : w.observe s (.resumed r) =
          { w.complete r with lost := Function.update w.lost r false } := by
        simp only [Watch.observe, hp]
      rw [hw]
      exact h.acquired hp hk (fun _ hr => Watch.complete_other hr)
        (fun hst => Watch.complete_stale hst) hcalm
  | false =>
      have hw : w.observe s (.resumed r) = { w with lost := Function.update w.lost r false } := by
        simp only [Watch.observe, hp]
      rw [hw]
      exact h.acquired hp hk (fun _ _ => ⟨rfl, rfl⟩) (fun hst => hst) hcalm

/-- The session of a refused `try_acquire` is closed: the port stays empty. -/
theorem OwnershipInv.closedRefused {s : Cluster Replica} {w w' : Watch Replica} {r : Replica}
    {tick : Bool} (h : OwnershipInv (s, w)) (hp : (s.runtime r).pending = .closing false tick)
    (hw : w' = w ∨ w' = w.complete r) : OwnershipInv (s.put r (s.runtime r).refused, w') := by
  have hawait : AwaitOk s.server r (s.runtime r).ownership.connection (s.runtime r).pending :=
    (h.replicaOk r).await
  rw [hp] at hawait
  refine h.empty ?_ rfl hw
  change (SchedulerOwnership.mk (s.runtime r).ownership.connection false) = _
  rw [show (s.runtime r).ownership.connection = none from hawait]

omit [DecidableEq Replica] in
theorem Await.OfTick.ne_releasing {await : Await Replica} (h : await.OfTick) (freed : Bool) :
    await ≠ .releasing freed := by
  rintro rfl
  exact h

/-- The end of a `try_acquire` counts as a pass where it was called from one. -/
theorem Watch.observe_connectFailed {s : Cluster Replica} {w : Watch Replica} {r : Replica}
    {tick : Bool} (hp : (s.runtime r).pending = .connecting tick) :
    w.observe s (.connectFailed r) = w ∨ w.observe s (.connectFailed r) = w.complete r := by
  simp only [Watch.observe, hp]
  cases tick
  · exact Or.inl rfl
  · exact Or.inr rfl

theorem Watch.observe_closed {s : Cluster Replica} {w : Watch Replica} {r : Replica}
    {raising tick : Bool} (hp : (s.runtime r).pending = .closing raising tick) :
    w.observe s (.closed r) = w ∨ w.observe s (.closed r) = w.complete r := by
  simp only [Watch.observe, hp]
  cases tick
  · exact Or.inl rfl
  · exact Or.inr rfl

/-- Every event that takes none of the two turns keeps the invariant. -/
theorem ownershipInv_step {x x' : Cluster Replica × Watch Replica} {e : OwnershipEvent Replica}
    (h : OwnershipInv x) (hk : KeepsLock x e)
    (hs : (ownershipSystem Replica).step x e = some x') : OwnershipInv x' := by
  obtain ⟨s, w⟩ := x
  obtain ⟨s', hs', rfl⟩ := Option.map_eq_some_iff.1 hs
  have hstep : ClusterStep s e s' := Cluster.clusterStep_of_step hs'
  cases hstep with
  | acquire hp => exact h.acquire hp
  | tick hp => exact h.tick hk hp
  | release hp => exact h.release hp
  | connected hp _ => exact h.connected hp
  | connectFailed hp =>
      exact h.settle rfl (by rw [hp]; simp) (Or.inl rfl) (Watch.observe_connectFailed hp)
  | granted hp hlive hfree => exact h.lockAnswered hp hlive hfree
  | taken hp _ _ => exact h.taken hp
  | lockFailed hp => exact h.closing true (Or.inl hp) rfl
  | acquired hp => exact h.resumed hp (hk ⟨_, _, hp⟩)
  | refused hp => exact h.closing false (Or.inr hp) (by simp only [Watch.observe, hp])
  | closedRaised hp =>
      exact h.settle rfl (by rw [hp]; simp) (Or.inl rfl) (Watch.observe_closed hp)
  | closedRefused hp => exact h.closedRefused hp (Watch.observe_closed hp)
  | probed hp _ => exact h.settle rfl (by rw [hp]; simp) (Or.inl rfl) (Or.inr rfl)
  | unlocked hp hlive hheld => exact h.unlocked hp hlive hheld
  | unlockFailed hp => exact h.settle rfl (by rw [hp]; simp) (Or.inr (Or.inl rfl)) (Or.inl rfl)
  | released => exact h.empty rfl rfl (Or.inl rfl)
  | cancelled htick => exact h.settle rfl (htick.ne_releasing true) (Or.inl rfl) (Or.inl rfl)
  | died => exact h.died
  | fired => exact h

/-! ## The result -/

theorem ownershipInv_init {x : Cluster Replica × Watch Replica}
    (h : (ownershipSystem Replica).init x) : OwnershipInv x := by
  obtain ⟨hrt, hlive, hfree, hw⟩ := h
  have hconn : ∀ r, (x.1.runtime r).ownership = ⟨none, false⟩ ∧
      (x.1.runtime r).pending = .idle := by
    intro r
    obtain ⟨executor, he⟩ := hrt r
    rw [he]
    exact ⟨rfl, rfl⟩
  refine ⟨fun r => ?_, fun r c hu _ => ?_, fun r hp => ?_, fun r => (hw r).2⟩
  · obtain ⟨ho, hp⟩ := hconn r
    refine ⟨by simp [ho], by simp [ho], by simp [ho], ?_⟩
    rw [hp]
    trivial
  · obtain ⟨ho, hp⟩ := hconn r
    have := uses_of_pending _ (by simp [hp]) (by simp [hp]) hu
    simp [ho] at this
  · rw [(hconn r).2] at hp
    exact absurd hp (by simp)

/-- **Mutual exclusion.**  In every run in which no monitor passes over a dead
lock session, and nobody acquires the lock in the last stretch of another
replica's `release`, ownership is safe in every state. -/
theorem ownership_safe {x : Cluster Replica × Watch Replica}
    (h : (ownershipSystem Replica).Reach KeepsLock x) : OwnershipSafe x := by
  have hinv : OwnershipInv x :=
    h.invariant (fun _ hi => ownershipInv_init hi) fun _ _ _ hi hc hs => ownershipInv_step hi hc hs
  refine ⟨fun r hr => absurd hr (by simp [(hinv.calm r).1]), fun hticked => ⟨?_, ?_⟩⟩
  · -- an owner's session is alive, since a dead one would have kept it from ticking
    have live (r : Replica) (ho : (x.1.runtime r).ownsExecution = true) :
        ∃ c, (x.1.runtime r).ownership.connection = some c ∧ x.1.server.live c = true := by
      have ha : (x.1.runtime r).ownership.acquired = true := ho
      rw [(hinv.replicaOk r).acquired_eq, Option.isSome_iff_exists] at ha
      obtain ⟨c, hc⟩ := ha
      refine ⟨c, hc, ?_⟩
      by_contra hl
      rw [Bool.not_eq_true] at hl
      have := (hinv.stale r c (Or.inl hc) hl).1
      simp [hticked r] at this
    intro r r' ho ho'
    obtain ⟨c, hc, hl⟩ := live r ho
    obtain ⟨c', hc', hl'⟩ := live r' ho'
    by_contra hne
    rcases (hinv.replicaOk r).holds c hc hl with hh | hrel
    · rcases (hinv.replicaOk r').holds c' hc' hl' with hh' | hrel'
      · rw [hh, Option.some.injEq] at hh'
        exact hne (by rw [← (hinv.replicaOk r).own c hc, hh', (hinv.replicaOk r').own c' hc'])
      · exact absurd (hinv.alone r' hrel' r c hne hc) (by simp [hl])
    · exact absurd (hinv.alone r hrel r' c' (Ne.symm hne) hc') (by simp [hl'])
  · intro r hj
    by_contra ho
    rw [Bool.not_eq_true] at ho
    rw [ApschedulerRuntime.executeScheduledScript, ho] at hj
    exact absurd hj (by simp)

/-! ## Why the two turns are excluded -/

/-- A pass of the monitor over a dead lock session always ends in a state that
breaks the property: the session is known to be lost, and the replica still
owns execution. -/
theorem lost_session_still_owns {x x₁ x₂ : Cluster Replica × Watch Replica} {r : Replica}
    {ok : Bool} (hdead : (x.1.runtime r).lockSessionDead x.1.server = true)
    (h₁ : (ownershipSystem Replica).step x (.tick r) = some x₁)
    (h₂ : (ownershipSystem Replica).step x₁ (.probed r ok) = some x₂) :
    x₂.2.lost r = true ∧ (x₂.1.runtime r).ownsExecution = true := by
  obtain ⟨s, w⟩ := x
  obtain ⟨s₁, hs₁, rfl⟩ := Option.map_eq_some_iff.1 h₁
  obtain ⟨s₂, hs₂, rfl⟩ := Option.map_eq_some_iff.1 h₂
  simp only [ApschedulerRuntime.lockSessionDead] at hdead
  split at hdead <;> try contradiction
  rename_i c hc
  rw [Bool.and_eq_true] at hdead
  obtain ⟨hacq, hl⟩ := hdead
  have hm : (s.runtime r).monitorOwnershipWithPort = { s.runtime r with pending := .probing c } := by
    simp [ApschedulerRuntime.monitorOwnershipWithPort, SchedulerOwnership.isAcquired, hacq, hc]
  simp only [Cluster.step] at hs₁
  split at hs₁ <;> try contradiction
  cases hs₁
  rw [hm] at hs₂
  simp only [Cluster.step, Cluster.put, Function.update_self] at hs₂
  split at hs₂ <;> try contradiction
  cases hs₂
  constructor
  · simp [Watch.observe, Watch.complete, Watch.begin, hm, ApschedulerRuntime.lockSessionDead, hc,
      hacq, hl]
  · simp [ApschedulerRuntime.ownsExecution, ApschedulerRuntime.probed,
      SchedulerOwnership.isAcquired, hacq]

/-- Two replicas that have just been started, with executors configured. -/
def coldStart : Cluster Bool × Watch Bool :=
  (⟨⟨fun _ => false, none⟩, fun _ => .initial true⟩,
    ⟨fun _ => false, fun _ => false, fun _ => true, fun _ => false⟩)

theorem coldStart_init : (ownershipSystem Bool).init coldStart :=
  ⟨fun _ => ⟨true, rfl⟩, fun _ => rfl, rfl, fun _ => ⟨rfl, rfl, rfl⟩⟩

/-- One replica acquires the lock and its session dies; its monitor passes, the
other replica takes over and its monitor passes too: both own execution. -/
def failover : List (OwnershipEvent Bool) :=
  [.acquire false, .connected false 0, .lockAnswered false, .resumed false, .died ⟨false, 0⟩,
    .tick false, .probed false false, .acquire true, .connected true 0, .lockAnswered true,
    .resumed true, .tick true, .probed true true]

theorem failover_two_owners : ∃ x, (ownershipSystem Bool).exec coldStart failover = some x ∧
    (∀ r, x.2.ticked r = true) ∧ ∀ r, (x.1.runtime r).ownsExecution = true :=
  ⟨_, rfl, by decide, by decide⟩

/-- Ownership is not safe in every reachable state. -/
theorem not_ownership_safe :
    ¬ ∀ x, (ownershipSystem Bool).Reachable x → OwnershipSafe x := by
  intro h
  obtain ⟨x, hx, hticked, howns⟩ := failover_two_owners
  have hsafe := h x (System.reachable_of_exec coldStart_init hx)
  exact absurd ((hsafe.2 hticked).1 false true (howns false) (howns true)) (by decide)

/-- A run that keeps the lock: one replica acquires it, its monitor finds the
session alive, and the other replica is refused. -/
theorem ownership_safe_standby : ∃ x : Cluster Bool × Watch Bool,
    (x.1.runtime false).ownsExecution = true ∧ (x.1.runtime true).ownsExecution = false ∧
    OwnershipSafe x := by
  have free : ∀ r' : Bool, r' ≠ false →
      (Await.idle : Await Bool) ≠ .releasing true := fun _ _ => by simp
  refine ⟨_, ?_, ?_, ownership_safe (.next (e := .closed true) (.next (e := .resumed true)
    (.next (e := .lockAnswered true) (.next (e := .connected true 0) (.next (e := .acquire true)
    (.next (e := .probed false true) (.next (e := .tick false) (.next (e := .resumed false)
    (.next (e := .lockAnswered false) (.next (e := .connected false 0) (.next (e := .acquire false)
    (.start coldStart_init) trivial rfl) trivial rfl) trivial rfl) ?_ rfl) ?_ rfl) trivial rfl)
    trivial rfl) trivial rfl) trivial rfl) ?_ rfl) trivial rfl)⟩
  · rfl
  · rfl
  · intro _ r' hr'
    cases r'
    · exact absurd rfl hr'
    · exact free true hr'
  · rfl
  · rintro ⟨c, tick, hp⟩
    exact absurd hp (by intro hc; injection hc with _ hg; exact absurd hg (by decide))

end Scheduler
end NodeNexus
