import Mathlib.Data.List.Infix
import NodeNexus.Lib.Transition
import NodeNexus.Lib.UnitOfWork

/-!
# Commit before response

`CommitOnResponseMiddleware` commits the session of a request when the application sends
`http.response.start`.

* `GatewayCall` — the gateways that write through the session of the request.
* `requestStep` — the operations of a handler, the message of the response, and the provider
  of the session, which commits after the response.
* `CommittedFirst` — what was made when the message was passed on is committed, and after a
  failed commit no success is reported.
* `SeesChanges` — at the message some object is pending, or nothing was flushed.
* `commit_before_response` — every run of such messages keeps `CommittedFirst`, and any other
  message breaks it: a flush empties the sets that the middleware looks at.
-/

namespace NodeNexus
namespace Lifecycle

open UnitOfWork

variable {ω ν : Type} [DecidableEq ω]

/-! ## Gateways -/

/-- A call of a gateway on the session of the request. -/
inductive GatewayCall (ω ν : Type) where
  /-- `RequestAuditOutbox.enqueue`. -/
  | enqueue (event : ω)
  | addFavorite (model : ω)
  /-- An update of the favorite that the query finds. -/
  | updateFavorite (row : Option ω) (name note : Option ν)
  /-- A removal of the favorite that the query finds. -/
  | removeFavorite (row : Option ω)

/-- What a call does with the session, where nothing raises. -/
def GatewayCall.ops : GatewayCall ω ν → List (Op ω ν)
  | .enqueue event => [.beginNested, .add event, .flush, .release]
  | .addFavorite model => [.add model, .flush]
  | .updateFavorite none _ _ => [.query]
  | .updateFavorite (some row) name note =>
      .query :: ((name.toList ++ note.toList).map (.set row) ++ [.flush])
  | .removeFavorite none => [.query]
  | .removeFavorite (some row) => [.query, .delete row]

/-- **All gateways but one leave nothing pending.** -/
theorem unflushed_ops (u : UnitOfWork ω ν) (call : GatewayCall ω ν) :
    (u.applyAll call.ops).unflushed =
      match call with
      | .removeFavorite (some row) => [.delete row]
      | _ => [] := by
  cases call with
  | enqueue event => rfl
  | addFavorite model => rfl
  | updateFavorite row name note =>
      cases row with
      | none => rfl
      | some row =>
          simp only [GatewayCall.ops, applyAll_cons, applyAll_append]
          rfl
  | removeFavorite row =>
      cases row with
      | none => rfl
      | some row => simp [GatewayCall.ops, UnitOfWork.apply, UnitOfWork.flush, UnitOfWork.new]

/-! ## A request -/

/-- `EXCLUDED_PATHS`. -/
def excludedPaths : List String := ["/health", "/ready", "/metrics"]

/-- A request in progress. -/
structure RequestState (ω ν : Type) where
  session : UnitOfWork ω ν
  /-- The flag of the middleware. -/
  committed : Bool
  /-- The `http.response.start` that was passed on, and whether it starts the success response
  of the handler. -/
  passed : Option Bool
  /-- What had been made by then. -/
  promised : List (Change ω ν)
  /-- The middleware has raised `CommitFailedError`. -/
  refused : Bool
  /-- The provider has closed the session. -/
  closed : Bool

/-- A step of a request; a commit may fail. -/
inductive RequestEvent (ω ν : Type) where
  | op (op : Op ω ν)
  | start (success fails : Bool)
  | close (fails : Bool)

/-- The message is passed on. -/
def RequestState.pass (s : RequestState ω ν) (success : Bool) : RequestState ω ν :=
  { s with passed := some success, promised := s.session.made }

/-- `send_with_commit` for the message. -/
def sendWithCommit (s : RequestState ω ν) (success fails : Bool) : RequestState ω ν :=
  if s.committed = false then
    if s.session.new ≠ [] ∨ s.session.dirty ≠ [] ∨ s.session.deleted ≠ [] then
      if fails then { s with session := s.session.rollback, refused := true }
      else { { s with session := s.session.commit }.pass success with committed := true }
    else { s.pass success with committed := true }
  else s.pass success

/-- One step of a request for a path.  The handlers of the excluded paths only query, a
response starts once, and a handler whose message raised does not send it again. -/
def requestStep (path : String) (s : RequestState ω ν) : RequestEvent ω ν → Option (RequestState ω ν)
  | .op op =>
      if s.closed = true then none
      else
        match op with
        | .query => some { s with session := s.session.apply .query }
        | op =>
            if path ∈ excludedPaths then none else some { s with session := s.session.apply op }
  | .start success fails =>
      if s.closed = true ∨ s.passed.isSome = true ∨ (success = true ∧ s.refused = true) then none
      else if path ∈ excludedPaths then some (s.pass success)
      else some (sendWithCommit s success fails)
  | .close fails =>
      if s.closed = true then none
      else
        some { s with
          session := if fails then s.session.rollback else s.session.commit
          closed := true }

/-- All runs of a request, over any database. -/
def requestSystem (ω ν : Type) [DecidableEq ω] (path : String) :
    System (RequestState ω ν) (RequestEvent ω ν) where
  init s := ∃ db, s = ⟨fresh db, false, none, [], false, false⟩
  step := requestStep path

/-- What was made when the response started is committed, and a failed commit is not followed
by the success response. -/
structure CommittedFirst (s : RequestState ω ν) : Prop where
  promised : s.promised <+: s.session.committed
  honest : s.refused = true → s.passed ≠ some true

/-- At the message the middleware sees a change, or nothing was flushed. -/
def SeesChanges (s : RequestState ω ν) : RequestEvent ω ν → Prop
  | .start _ _ =>
      s.session.sent = [] ∨ s.session.new ≠ [] ∨ s.session.dirty ≠ [] ∨ s.session.deleted ≠ []
  | _ => True

/-! ## The steps -/

section Steps

variable {s s' : RequestState ω ν}

/-- What holds besides. -/
structure RequestInv (path : String) (s : RequestState ω ν) : Prop extends CommittedFirst s where
  /-- The handlers of the excluded paths make no change. -/
  excluded : path ∈ excludedPaths → s.session.live = []
  flagged : s.committed = true → s.passed.isSome = true

omit [DecidableEq ω] in
theorem CommittedFirst.mono {s s' : RequestState ω ν} (h : CommittedFirst s)
    (hpromised : s'.promised = s.promised)
    (hcommitted : s.session.committed <+: s'.session.committed) (hrefused : s'.refused = s.refused)
    (hpassed : s'.passed = s.passed) : CommittedFirst s' where
  promised := by
    rw [hpromised]
    exact h.promised.trans hcommitted
  honest := by
    rw [hrefused, hpassed]
    exact h.honest

omit [DecidableEq ω] in
theorem prefix_made (u : UnitOfWork ω ν) : u.committed <+: u.made :=
  List.prefix_append _ _

theorem requestStep_start (path : String) (s : RequestState ω ν) (success fails : Bool) :
    requestStep path s (.start success fails) =
      if s.closed = true ∨ s.passed.isSome = true ∨ (success = true ∧ s.refused = true) then none
      else if path ∈ excludedPaths then some (s.pass success)
      else some (sendWithCommit s success fails) := rfl

/-- **A message that starts the response** where the middleware sees the changes. -/
theorem RequestInv.start {path : String} (h : RequestInv path s) {success fails : Bool}
    (hsees : SeesChanges s (.start success fails))
    (hstep : requestStep path s (.start success fails) = some s') : RequestInv path s' := by
  rw [requestStep_start] at hstep
  split at hstep
  · cases hstep
  · rename_i hguard
    have hpassed : s.passed = none := by
      cases hp : s.passed with
      | none => rfl
      | some b => exact absurd (.inr (.inl (by rw [hp]; rfl))) hguard
    have hhonest : s.refused = true → success ≠ true := fun hrefused hsuccess =>
      hguard (.inr (.inr ⟨hsuccess, hrefused⟩))
    have hhonest' : s.refused = true → some success ≠ some true := fun hrefused hsuccess =>
      hhonest hrefused (Option.some.inj hsuccess)
    split at hstep
    · rename_i hpath
      cases hstep
      refine ⟨⟨?_, hhonest'⟩, h.excluded, fun _ => rfl⟩
      show s.session.committed ++ s.session.live <+: s.session.committed
      rw [h.excluded hpath, List.append_nil]
    · rename_i hpath
      cases hstep
      have hflag : s.committed = false := by
        cases hc : s.committed with
        | false => rfl
        | true =>
            have hsome := h.flagged hc
            rw [hpassed] at hsome
            cases hsome
      unfold sendWithCommit
      rw [if_pos hflag]
      split
      · split
        · refine ⟨⟨h.promised, fun _ => ?_⟩, fun hin => absurd hin hpath, h.flagged⟩
          show s.passed ≠ some true
          rw [hpassed]
          exact fun hnone => nomatch hnone
        · refine ⟨⟨?_, hhonest'⟩, fun hin => absurd hin hpath, fun _ => rfl⟩
          show s.session.made ++ [] <+: s.session.made
          rw [List.append_nil]
      · rename_i hnone
        refine ⟨⟨?_, hhonest'⟩, fun hin => absurd hin hpath, fun _ => rfl⟩
        -- nothing is pending, so nothing was sent either
        have hsent : s.session.sent = [] := hsees.resolve_right hnone
        have hunflushed : s.session.unflushed = [] := by
          by_contra hne
          exact hnone ((pending_iff s.session).2 hne)
        show s.session.committed ++ (s.session.sent ++ s.session.unflushed) <+: s.session.committed
        rw [hsent, hunflushed, List.append_nil, List.append_nil]

theorem RequestInv.step {path : String} {e : RequestEvent ω ν} (h : RequestInv path s)
    (hsees : SeesChanges s e) (hstep : requestStep path s e = some s') : RequestInv path s' := by
  cases e with
  | op op =>
      simp only [requestStep] at hstep
      split at hstep
      · cases hstep
      · split at hstep
        · cases hstep
          refine ⟨h.toCommittedFirst.mono rfl (List.prefix_refl _) rfl rfl, fun hin => ?_, h.flagged⟩
          show s.session.flush.live = []
          rw [live_flush]
          exact h.excluded hin
        · split at hstep
          · cases hstep
          · rename_i hpath
            cases hstep
            refine ⟨h.toCommittedFirst.mono rfl ?_ rfl rfl, fun hin => absurd hin hpath, h.flagged⟩
            show s.session.committed <+: (s.session.apply op).committed
            rw [committed_apply]
  | start success fails => exact h.start hsees hstep
  | close fails =>
      simp only [requestStep] at hstep
      split at hstep
      · cases hstep
      · cases hstep
        refine ⟨h.toCommittedFirst.mono rfl ?_ rfl rfl, fun _ => ?_, h.flagged⟩
        · cases fails with
          | true => exact List.prefix_refl _
          | false => exact prefix_made s.session
        · cases fails <;> rfl

/-- A message that the middleware lets pass although something was flushed. -/
theorem not_committedFirst_start {path : String} (hpath : path ∉ excludedPaths)
    (hflag : s.committed = false) {success fails : Bool}
    (hsees : ¬ SeesChanges s (.start success fails))
    (hstep : requestStep path s (.start success fails) = some s') : ¬ CommittedFirst s' := by
  intro h
  obtain ⟨hsent, hnone⟩ := not_or.1 hsees
  rw [requestStep_start, if_neg hpath] at hstep
  split at hstep
  · cases hstep
  · cases hstep
    have hpromised := h.promised
    unfold sendWithCommit at hpromised
    rw [if_pos hflag, if_neg hnone] at hpromised
    have hlength := hpromised.length_le
    simp only [RequestState.pass, made, live, List.length_append] at hlength
    have hpos : 0 < s.session.sent.length := List.length_pos_iff.2 hsent
    omega

/-- After the other gateways the middleware sees nothing of what they flushed. -/
theorem not_seesChanges_calls {u : UnitOfWork ω ν} {call : GatewayCall ω ν}
    (hcall : ∀ row, call ≠ .removeFavorite (some row)) (hs : s.session = u.applyAll call.ops)
    (hlive : s.session.live ≠ []) (success fails : Bool) :
    ¬ SeesChanges s (.start success fails) := by
  have hunflushed : s.session.unflushed = [] := by
    rw [hs, unflushed_ops]
    split
    · exact absurd rfl (hcall _)
    · rfl
  rintro (hsent | hpending)
  · apply hlive
    rw [live, hsent, hunflushed]
    rfl
  · exact (pending_iff s.session).1 hpending hunflushed

end Steps

/-! ## All runs -/

/-- **Commit before response.**  In every run of a request whose response starts where the
middleware sees the changes, what was made by then is committed, and a failed commit is not
followed by the success response; a response that starts elsewhere breaks this. -/
theorem commit_before_response (path : String) (s : RequestState ω ν)
    (h : (requestSystem ω ν path).Reach SeesChanges s) :
    CommittedFirst s ∧ ∀ success fails s', requestStep path s (.start success fails) = some s' →
      ¬ SeesChanges s (.start success fails) → ¬ CommittedFirst s' := by
  have hinv : RequestInv path s := by
    refine h.invariant (I := RequestInv path) ?_ fun s e s' hs hsees hstep => hs.step hsees hstep
    rintro s ⟨db, rfl⟩
    exact ⟨⟨List.nil_prefix, fun hfalse => nomatch hfalse⟩, fun _ => rfl, fun hfalse => nomatch hfalse⟩
  refine ⟨hinv.toCommittedFirst, fun success fails s' hstep hsees => ?_⟩
  have hpath : path ∉ excludedPaths := by
    intro hin
    have hlive := hinv.excluded hin
    exact hsees (.inl (List.append_eq_nil_iff.1 hlive).1)
  have hflag : s.committed = false := by
    cases hc : s.committed with
    | false => rfl
    | true =>
        rw [requestStep_start, if_pos (.inr (.inl (hinv.flagged hc)))] at hstep
        cases hstep
  exact not_committedFirst_start hpath hflag hsees hstep

/-- Whatever a handler does, the response starts after the commit. -/
def AlwaysCommittedFirst (ω ν : Type) [DecidableEq ω] : Prop :=
  ∀ path (s : RequestState ω ν), (requestSystem ω ν path).Reachable s → CommittedFirst s

/-- A request before its handler. -/
def idleRequest : RequestState Nat String := ⟨fresh [], false, none, [], false, false⟩

/-- A favorite is added, and the response starts before it is committed. -/
theorem not_alwaysCommittedFirst : ¬ AlwaysCommittedFirst Nat String := by
  intro h
  obtain ⟨s, hrun, hpromised, hcommitted⟩ : ∃ s,
      (requestSystem Nat String "/api/v2/favorites/").exec idleRequest
        (((GatewayCall.addFavorite 1).ops.map .op) ++ [.start true false]) = some s ∧
      s.promised = [.add 1] ∧ s.session.committed = [] := ⟨_, rfl, rfl, rfl⟩
  have hstart : (requestSystem Nat String "/api/v2/favorites/").init idleRequest := ⟨[], rfl⟩
  have hprefix := (h _ s (System.reachable_of_exec hstart hrun)).promised
  rw [hpromised, hcommitted] at hprefix
  have hlength := hprefix.length_le
  simp at hlength

/-- A favorite is removed, and that is committed before the response. -/
theorem commit_before_response_removed : ∃ s,
    (requestSystem Nat String "/api/v2/favorites/").exec idleRequest
      (((GatewayCall.removeFavorite (some 1)).ops.map .op) ++ [.start true false]) = some s ∧
    s.promised = [.delete 1] ∧ CommittedFirst s := by
  have hstart : (requestSystem Nat String "/api/v2/favorites/").Reach SeesChanges idleRequest :=
    .start ⟨[], rfl⟩
  have hquery := System.Reach.next hstart (e := RequestEvent.op .query) trivial rfl
  have hdelete := System.Reach.next hquery (e := RequestEvent.op (.delete 1)) trivial rfl
  have hpass := System.Reach.next hdelete (e := RequestEvent.start true false)
    (.inr (.inr (.inr (List.cons_ne_nil _ _)))) rfl
  exact ⟨_, rfl, rfl, (commit_before_response "/api/v2/favorites/" _ hpass).1⟩

end Lifecycle
end NodeNexus
