import NodeNexus.Command.ErrorTexts

/-!
# Texts of errors in check results

The handler of bulk checks, and when its response conceals internal errors.

* `bulkCheckNodes` — the handler, over `NodeBulkOperationService.bulk_check` in both modes.
* `detailOutcome` — what the check of one node comes to.
* `CheckConceals` — no internal error gets into the detail of a node: the texts of the session
  and of the status update are taken as they are.
* `bulk_errors_concealed_iff` — when the three bulk handlers conceal.
-/

namespace NodeNexus
namespace Command

open Content Node
open NodeNexus.Core

/-! ## The handler -/

/-- `NodeChecksRequest`. -/
structure NodeChecksRequest where
  ids : List Uuid
  ids_ok : 1 ≤ ids.length ∧ ids.length ≤ 100

/-- `BulkNodeUpdateResult`. -/
structure BulkNodeUpdateResult where
  nodeId : Uuid
  status : ItemStatus
  error : String
  deriving DecidableEq

/-- `BulkResult[BulkNodeUpdateResult]`, with the status 207 or that of the route. -/
structure NodeChecksResponse where
  multiStatus : Bool
  total : Nat
  succeeded : Nat
  failed : Nat
  results : List BulkNodeUpdateResult

/-- What the handler answers. -/
inductive ChecksReply where
  /-- `HTTPException(status_code=422, detail=…)`. -/
  | refused (detail : String)
  | checked (response : NodeChecksResponse)

/-- `NodeBulkOperator.bulk_check`. -/
def existingNodes (nodeIds : List String) : Endpoint BulkNodeCheckResultDTO :=
  if nodeIds = [] then pure ⟨0, 0, 0, [], []⟩
  else do
    let existing : List Uuid ← ask (.existingIds nodeIds)
    pure ⟨nodeIds.length, existing.length, nodeIds.length - existing.length, existing, []⟩

/-- The details of the event of a check. -/
def checkEvent (result : BulkNodeCheckResultDTO) (mode : String) : Json.Fields :=
  [("total", .int result.total), ("succeeded", .int result.succeeded),
    ("failed", .int result.failed), ("mode", .str mode)]

/-- `NodeBulkOperationService.bulk_check`. -/
def serviceBulkCheck (cfg : Setting) (nodeIds : List String) (mode : String) :
    Endpoint BulkNodeCheckResultDTO :=
  if mode = "db" then do
    let result ← existingNodes nodeIds
    ofService 0 none (cfg.log "bulk_nodes.check" none (checkEvent result mode))
    pure result
  else ofService 0 none (bulkCheck cfg nodeIds)

/-- `by_id.get`; of two details of a node the last one counts. -/
def detailOf (details : List CheckDetail) (nodeId : String) : Option CheckDetail :=
  details.reverse.find? fun d => decide (d.nodeId = nodeId)

/-- `d.error or "Node not found"`. -/
def reasonOf : Option String → String
  | none => "Node not found"
  | some text => if text = "" then "Node not found" else text

/-- The result of a node with the detail of its check. -/
def resultOf (nodeId : Uuid) : Option CheckDetail → BulkNodeUpdateResult
  | none => ⟨nodeId, .error, "Node not found"⟩
  | some d => if d.success then ⟨nodeId, .success, ""⟩ else ⟨nodeId, .error, reasonOf d.error⟩

/-- The result of a node without details. -/
def existsResult (existing : List Uuid) (nodeId : Uuid) : BulkNodeUpdateResult :=
  if nodeId ∈ existing then ⟨nodeId, .success, ""⟩ else ⟨nodeId, .error, "Node not found"⟩

/-- The results of the nodes. -/
def checkResults (cfg : Setting) (ids : List Uuid) (result : BulkNodeCheckResultDTO) :
    List BulkNodeUpdateResult :=
  if result.details ≠ [] then
    ids.map fun nodeId => resultOf nodeId (detailOf result.details (cfg.printUuid nodeId))
  else ids.map (existsResult result.nodeIds)

/-- The response with its counts. -/
def checksResponse (results : List BulkNodeUpdateResult) : NodeChecksResponse :=
  let succeeded := (results.filter fun r => decide (r.status = .success)).length
  let failed := results.length - succeeded
  ⟨decide (0 < failed ∧ 0 < succeeded), results.length, succeeded, failed, results⟩

/-- `bulk_check_nodes`. -/
def bulkCheckNodes (cfg : Setting) (data : NodeChecksRequest) (mode : String) :
    Endpoint ChecksReply :=
  if mode ≠ "db" ∧ mode ≠ "ssh" then pure (.refused "Invalid mode, use db or ssh")
  else do
    let result ← serviceBulkCheck cfg (data.ids.map cfg.printUuid) mode
    pure (.checked (checksResponse (checkResults cfg data.ids result)))

/-! ## What the check of a node comes to -/

/-- Why a status is not stored. -/
def writeFailure (cfg : Setting) (written : Except NodeFailure (Option NodeViewDTO)) :
    Option String :=
  if cfg.statusWriter then
    match written with
    | .ok (some _) => none
    | .ok none => some "Node not found on status update"
    | .error e => some ("Status update failed: " ++ e.text)
  else none

/-- The session of a check. -/
def checkSession (answers : Answers) (task : Nat) (connector : SshConnector) :
    Except NodeFailure SshOutput :=
  answers (.service 0 (.execute task connector "echo ok"))

/-- The update of the status that the session has shown. -/
def statusUpdate (answers : Answers) (task : Nat) (nodeId : Uuid)
    (session : Except NodeFailure SshOutput) : Except NodeFailure (Option NodeViewDTO) :=
  answers (.service 0 (.updateNodeStatus task nodeId (checkedStatus session).1))

/-- The detail of a node that was found. -/
def foundDetail (cfg : Setting) (text : String) (session : Except NodeFailure SshOutput)
    (written : Except NodeFailure (Option NodeViewDTO)) : CheckDetail where
  nodeId := text
  success := (writeFailure cfg written).isNone && (checkedStatus session).2.isNone
  error := (writeFailure cfg written).or (checkedStatus session).2
  newStatus := some (checkedStatus session).1

/-- What `_check_one` comes to, once the node was looked up. -/
def lookedUpOutcome (cfg : Setting) (answers : Answers) (t : String × Nat) :
    Option NodeConnectionDTO → Except NodeFailure CheckDetail
  | none => .ok ⟨t.1, false, some "Node not found", none⟩
  | some node =>
      (openConnector answers 0 t.2 node none).map fun connector =>
        foundDetail cfg t.1 (checkSession answers t.2 connector)
          (statusUpdate answers t.2 node.id (checkSession answers t.2 connector))

/-- What `_check_one` comes to. -/
def detailOutcome (cfg : Setting) (answers : Answers) (t : String × Nat) :
    Except NodeFailure CheckDetail :=
  match cfg.parseUuid t.1 with
  | none => .ok ⟨t.1, false, some "Invalid node id", none⟩
  | some id => answers (.service 0 (.getConnection id)) >>= lookedUpOutcome cfg answers t

/-- The event of a check is stored, or there is none. -/
def checkLogged (cfg : Setting) (answers : Answers) (ids : List String)
    (details : List CheckDetail) : Except NodeFailure Unit :=
  optionalOutcome cfg answers 0 "bulk_nodes.check" none
    (checkEvent (checkResult cfg ids details) "ssh")

section Outcome

variable {cfg : Setting} {answers : Answers}

theorem lookedUpOutcome_some (t : String × Nat) (node : NodeConnectionDTO) :
    lookedUpOutcome cfg answers t (some node) =
      (openConnector answers 0 t.2 node none).map fun connector =>
        foundDetail cfg t.1 (checkSession answers t.2 connector)
          (statusUpdate answers t.2 node.id (checkSession answers t.2 connector)) := rfl

theorem answered_readOldStatus (read : Bool) (nodeId : Uuid) : ∃ old,
    Program.answered (partAnswers answers 0 none) (readOldStatus read nodeId) = .ok old := by
  unfold readOldStatus
  split
  · exact ⟨none, rfl⟩
  · rw [Program.answered_bind, Program.answered_attempt, Program.answered_call]
    cases partAnswers answers 0 none (.getNode nodeId) with
    | error e => exact ⟨none, rfl⟩
    | ok node =>
        cases node with
        | none => exact ⟨none, rfl⟩
        | some node => exact ⟨some node.status.text, rfl⟩

theorem answered_saveStatusChange (task : Nat) (write : Bool) (change : NodeStatusChangeDTO) :
    Program.answered (partAnswers answers 0 none) (saveStatusChange task write change) =
      .ok () := by
  unfold saveStatusChange
  split
  · rw [Program.answered_bind, Program.answered_attempt]
    rfl
  · rfl

theorem answered_writeStatus (task : Nat) (nodeId : Uuid) (status : NodeStatus) :
    Program.answered (partAnswers answers 0 none) (writeStatus cfg task nodeId status) =
      .ok (writeFailure cfg (answers (.service 0 (.updateNodeStatus task nodeId status)))) := by
  unfold writeStatus writeFailure
  split
  · rw [Program.answered_bind, Program.answered_attempt, Program.answered_call]
    have hanswer : partAnswers answers 0 none (.updateNodeStatus task nodeId status) =
        answers (.service 0 (.updateNodeStatus task nodeId status)) := rfl
    rw [hanswer]
    cases answers (.service 0 (.updateNodeStatus task nodeId status)) with
    | error e => rfl
    | ok node => cases node <;> rfl
  · rfl

theorem answered_checkFound (t : String × Nat) (node : NodeConnectionDTO) :
    Program.answered (partAnswers answers 0 none) (checkFound cfg t.2 t.1 node) =
      lookedUpOutcome cfg answers t (some node) := by
  unfold checkFound
  rw [lookedUpOutcome_some, Program.answered_bind, answered_buildSshConnector]
  cases openConnector answers 0 t.2 node none with
  | error e => rfl
  | ok connector =>
      show Program.answered _ (_ >>= _) = _
      rw [Program.answered_bind, Program.answered_attempt, Program.answered_call]
      show Program.answered _ (_ >>= _) = _
      obtain ⟨old, hold⟩ := answered_readOldStatus cfg.nodeViewReader node.id
      rw [Program.answered_bind, hold]
      show Program.answered _ (_ >>= _) = _
      rw [Program.answered_bind, answered_writeStatus]
      show Program.answered _ (_ >>= _) = _
      rw [Program.answered_bind, answered_saveStatusChange]
      rfl

theorem answered_checkOne (t : String × Nat) :
    Program.answered (partAnswers answers 0 none) (checkOne cfg t.2 t.1) =
      detailOutcome cfg answers t := by
  unfold checkOne detailOutcome
  cases cfg.parseUuid t.1 with
  | none => rfl
  | some id =>
      show Program.answered _ (_ >>= _) = answers (.service 0 (.getConnection id)) >>= _
      rw [Program.answered_bind, Program.answered_call]
      show answers (.service 0 (.getConnection id)) >>= _ = _
      cases answers (.service 0 (.getConnection id)) with
      | error e => rfl
      | ok node =>
          cases node with
          | none => rfl
          | some node => exact answered_checkFound t node

/-- **What a check in the ssh mode comes to.** -/
theorem answered_sshCheck (ids : List String) :
    Program.answered answers (serviceBulkCheck cfg ids "ssh") =
      ids.zipIdx.mapM (detailOutcome cfg answers) >>= fun details =>
        (checkLogged cfg answers ids details).map fun _ => checkResult cfg ids details := by
  unfold serviceBulkCheck
  rw [if_neg (by decide), answered_ofService]
  unfold bulkCheck
  rw [Program.answered_bind, Program.answered_gather]
  simp only [answered_checkOne]
  cases ids.zipIdx.mapM (detailOutcome cfg answers) with
  | error e => rfl
  | ok details =>
      show Program.answered _ (_ >>= _) = _
      rw [Program.answered_bind, answered_log]
      show optionalOutcome cfg answers 0 "bulk_nodes.check" none
        (checkEvent (checkResult cfg ids details) "ssh") >>= _ =
          (optionalOutcome cfg answers 0 "bulk_nodes.check" none
            (checkEvent (checkResult cfg ids details) "ssh")).map _
      cases optionalOutcome cfg answers 0 "bulk_nodes.check" none
        (checkEvent (checkResult cfg ids details) "ssh") <;> rfl

end Outcome

/-! ## Sites of a check -/

/-- The check of a node whose detail counts: the last one of its id. -/
def lastCheck (ids : List String) (nodeId : String) : Option (String × Nat) :=
  ids.zipIdx.reverse.find? fun t => decide (t.1 = nodeId)

/-- Neither text that a detail may show is internal. -/
structure DetailConceals (cfg : Setting) (session : Except NodeFailure SshOutput)
    (written : Except NodeFailure (Option NodeViewDTO)) : Prop where
  /-- The text of a status update that failed. -/
  updates : cfg.statusWriter = true → PublicOnly written
  /-- The text of a session that failed, where the status is stored. -/
  sessions : writeFailure cfg written = none → PublicOnly session

/-- No internal error gets into the detail of a node. -/
def CheckConceals (cfg : Setting) (run : RunOutcomes) (t : String × Nat) : Prop :=
  ∀ id node connector, cfg.parseUuid t.1 = some id →
    run.answers (.service 0 (.getConnection id)) = .ok (some node) →
    openConnector run.answers 0 t.2 node none = .ok connector →
    DetailConceals cfg (checkSession run.answers t.2 connector)
      (statusUpdate run.answers t.2 node.id (checkSession run.answers t.2 connector))

/-- A check returns: no lookup and no secret of a node raises, and the event is stored. -/
structure CheckReturns (cfg : Setting) (run : RunOutcomes) (ids : List String)
    (details : List CheckDetail) : Prop where
  checked : ids.zipIdx.mapM (detailOutcome cfg run.answers) = .ok details
  logged : checkLogged cfg run.answers ids details = .ok ()

/-- No internal error gets into a detail that counts, of a check that returns. -/
def ChecksConceal (cfg : Setting) (run : RunOutcomes) (data : NodeChecksRequest) : Prop :=
  ∀ details, CheckReturns cfg run (data.ids.map cfg.printUuid) details →
    ∀ nodeId ∈ data.ids, ∀ t,
      lastCheck (data.ids.map cfg.printUuid) (cfg.printUuid nodeId) = some t →
      CheckConceals cfg run t

section Sites

variable {cfg : Setting} {run run' : RunOutcomes} {text : String}
  {session session' : Except NodeFailure SshOutput}
  {written written' : Except NodeFailure (Option NodeViewDTO)}

/-- The status does not depend on the text of the exception. -/
theorem checkedStatus_fst (h : Alike SameFailure Eq session session') :
    (checkedStatus session).1 = (checkedStatus session').1 := by
  cases h with
  | ok hv => rw [hv]
  | error he =>
      unfold checkedStatus
      simp only [he.kind]
      split <;> rfl

theorem checkedStatus_isNone (h : Alike SameFailure Eq session session') :
    (checkedStatus session).2.isNone = (checkedStatus session').2.isNone := by
  cases h with
  | ok hv => rw [hv]
  | error he =>
      unfold checkedStatus
      simp only [he.kind]
      split <;> rfl

theorem checkedStatus_snd (e : NodeFailure) : (checkedStatus (.error e)).2 = some e.text := by
  show (if e.kind = .credentialDecryptionError then (NodeStatus.error, some e.text)
    else (NodeStatus.unreachable, some e.text)).2 = some e.text
  split <;> rfl

theorem writeFailure_isNone (cfg : Setting) (h : Alike SameFailure Eq written written') :
    (writeFailure cfg written).isNone = (writeFailure cfg written').isNone := by
  unfold writeFailure
  cases h with
  | ok hv => rw [hv]
  | error he => split <;> rfl

/-- **A concealing detail is the same in both runs.** -/
theorem DetailConceals.foundDetail_eq (hc : DetailConceals cfg session written)
    (hs : Alike SameFailure Eq session session') (hw : Alike SameFailure Eq written written') :
    foundDetail cfg text session written = foundDetail cfg text session' written' := by
  have hfailure : writeFailure cfg written = writeFailure cfg written' := by
    by_cases hwriter : cfg.statusWriter = true
    · rw [eq_of_publicOnly hw (hc.updates hwriter)]
    · unfold writeFailure
      rw [if_neg hwriter, if_neg hwriter]
  unfold foundDetail
  rw [← hfailure, ← checkedStatus_fst hs]
  cases hnone : writeFailure cfg written with
  | none => rw [eq_of_publicOnly hs (hc.sessions hnone)]
  | some reason => rfl

/-- The details agree in all that is counted. -/
structure SameOutline (d d' : CheckDetail) : Prop where
  nodeId : d.nodeId = d'.nodeId
  success : d.success = d'.success

theorem sameOutline_foundDetail (hs : Alike SameFailure Eq session session')
    (hw : Alike SameFailure Eq written written') :
    SameOutline (foundDetail cfg text session written) (foundDetail cfg text session' written') := by
  refine ⟨rfl, ?_⟩
  show (_ && _) = (_ && _)
  rw [writeFailure_isNone cfg hw, checkedStatus_isNone hs]

theorem SameButTexts.checkSession (h : SameButTexts run run') (task : Nat)
    (connector : SshConnector) : Alike SameFailure Eq
      (checkSession run.answers task connector) (checkSession run'.answers task connector) :=
  h.service 0 (.execute task connector "echo ok")

theorem SameButTexts.statusUpdate (h : SameButTexts run run')
    (hs : Alike SameFailure Eq session session') (task : Nat) (nodeId : Uuid) :
    Alike SameFailure Eq (statusUpdate run.answers task nodeId session)
      (statusUpdate run'.answers task nodeId session') := by
  unfold Command.statusUpdate
  rw [← checkedStatus_fst hs]
  exact h.service 0 (.updateNodeStatus task nodeId (checkedStatus session).1)

theorem SameButTexts.detailOutcome (h : SameButTexts run run') (cfg : Setting) (t : String × Nat) :
    Alike SameFailure SameOutline (detailOutcome cfg run.answers t)
      (detailOutcome cfg run'.answers t) := by
  unfold Command.detailOutcome
  cases cfg.parseUuid t.1 with
  | none => exact .ok ⟨rfl, rfl⟩
  | some id =>
      apply (h.service 0 (.getConnection id)).bind
      rintro node _ rfl
      cases node with
      | none => exact .ok ⟨rfl, rfl⟩
      | some node =>
          rw [lookedUpOutcome_some, lookedUpOutcome_some]
          have hopened := h.openConnector 0 t.2 node none
          generalize Command.openConnector run.answers 0 t.2 node none = x at hopened ⊢
          generalize Command.openConnector run'.answers 0 t.2 node none = x' at hopened ⊢
          cases hopened with
          | error he => exact .error he
          | @ok connector _ hv =>
              subst hv
              have hs := h.checkSession t.2 connector
              exact .ok (sameOutline_foundDetail hs (h.statusUpdate hs t.2 node.id))

/-- The detail of a node that was found and whose secrets decrypt. -/
theorem detailOutcome_of_found {answers : Answers} {t : String × Nat} {id : Uuid}
    {node : NodeConnectionDTO} {connector : SshConnector} (hid : cfg.parseUuid t.1 = some id)
    (hnode : answers (.service 0 (.getConnection id)) = .ok (some node))
    (hopened : openConnector answers 0 t.2 node none = .ok connector) :
    detailOutcome cfg answers t = .ok (foundDetail cfg t.1 (checkSession answers t.2 connector)
      (statusUpdate answers t.2 node.id (checkSession answers t.2 connector))) := by
  unfold detailOutcome
  rw [hid]
  show answers (.service 0 (.getConnection id)) >>= _ = _
  rw [hnode]
  show lookedUpOutcome cfg answers t (some node) = _
  rw [lookedUpOutcome_some, hopened]
  rfl

theorem nodeId_of_detailOutcome {answers : Answers} {t : String × Nat} {d : CheckDetail}
    (h : detailOutcome cfg answers t = .ok d) : d.nodeId = t.1 := by
  unfold detailOutcome at h
  cases hid : cfg.parseUuid t.1 with
  | none =>
      rw [hid] at h
      cases h
      rfl
  | some id =>
      rw [hid] at h
      obtain ⟨found, -, hlooked⟩ := bind_eq_ok.1 h
      cases found with
      | none =>
          cases hlooked
          rfl
      | some node =>
          rw [lookedUpOutcome_some] at hlooked
          obtain ⟨connector, -, rfl⟩ := map_eq_ok.1 hlooked
          rfl

theorem CheckConceals.detail_eq {t : String × Nat} {d : CheckDetail}
    (hc : CheckConceals cfg run t) (h : SameButTexts run run')
    (hd : detailOutcome cfg run.answers t = .ok d) : detailOutcome cfg run'.answers t = .ok d := by
  cases hid : cfg.parseUuid t.1 with
  | none =>
      unfold Command.detailOutcome at hd ⊢
      rw [hid] at hd ⊢
      exact hd
  | some id =>
      have hd' := hd
      unfold Command.detailOutcome at hd'
      rw [hid] at hd'
      obtain ⟨found, hfound, hlooked⟩ := bind_eq_ok.1 hd'
      have hfound' := (h.service 0 (.getConnection id)).eq_ok hfound
      cases found with
      | none =>
          unfold Command.detailOutcome
          rw [hid]
          show run'.answers (.service 0 (.getConnection id)) >>= _ = _
          rw [hfound']
          exact hlooked
      | some node =>
          rw [lookedUpOutcome_some] at hlooked
          obtain ⟨connector, hopened, -⟩ := map_eq_ok.1 hlooked
          have hopened' := (h.openConnector 0 t.2 node none).eq_ok hopened
          have hs := h.checkSession t.2 connector
          rw [detailOutcome_of_found hid hfound hopened] at hd
          rw [detailOutcome_of_found hid hfound' hopened',
            ← (hc id node connector hid hfound hopened).foundDetail_eq hs
              (h.statusUpdate hs t.2 node.id)]
          exact hd

/-! ## The site that is shown -/

/-- An exception with another text gives another reason. -/
theorem isPublic_of_reason {e : NodeFailure}
    (h : reasonOf (some e.text) = reasonOf (some (reword e).text)) : isPublic e.kind = true := by
  by_contra hinternal
  have htext : (reword e).text = e.text ++ "!" := by
    unfold reword
    rw [if_neg hinternal]
  have hsome : e.text ++ "!" ≠ "" := by
    intro hnil
    have hlength := congrArg String.length hnil
    simp at hlength
  unfold reasonOf at h
  simp only [htext, if_neg hsome] at h
  split at h
  · rename_i hnil
    rw [hnil] at h
    revert h
    decide
  · have hlength := congrArg String.length h
    simp at hlength

theorem isPublic_of_updateReason {e : NodeFailure}
    (h : reasonOf (some ("Status update failed: " ++ e.text)) =
      reasonOf (some ("Status update failed: " ++ (reword e).text))) :
    isPublic e.kind = true := by
  have hsome : ∀ text : String, "Status update failed: " ++ text ≠ "" := by
    intro text hnil
    have hlength := congrArg String.length hnil
    simp at hlength
  unfold reasonOf at h
  simp only [if_neg (hsome _)] at h
  exact isPublic_of_reword (String.append_right_inj _ |>.1 h)

/-- **A result that is the same with other texts conceals.** -/
theorem detailConceals_of_shown {nodeId : Uuid}
    (h : resultOf nodeId (some (foundDetail cfg text session written)) =
      resultOf nodeId (some (foundDetail cfg text (session.mapError reword)
        (written.mapError reword)))) : DetailConceals cfg session written := by
  constructor
  · rintro hwriter e rfl
    have hfailure : ∀ e, writeFailure cfg (.error e) =
        some ("Status update failed: " ++ e.text) := by
      intro e
      unfold writeFailure
      rw [if_pos hwriter]
    unfold foundDetail at h
    simp only [Except.mapError, hfailure] at h
    exact isPublic_of_updateReason (congrArg BulkNodeUpdateResult.error h)
  · rintro hstored e rfl
    have hstored' : writeFailure cfg (written.mapError reword) = none := by
      have hnone := writeFailure_isNone cfg (alike_mapError sameFailure_reword written)
      rw [hstored] at hnone
      exact Option.isNone_iff_eq_none.1 hnone.symm
    have hsession : (Except.error e : Except NodeFailure SshOutput).mapError reword =
        .error (reword e) := rfl
    unfold foundDetail at h
    simp only [hsession, hstored, hstored', checkedStatus_snd] at h
    exact isPublic_of_reason (congrArg BulkNodeUpdateResult.error h)

end Sites

/-! ## The handler of checks -/

section Handler

variable {cfg : Setting} {run run' : RunOutcomes} {ids : List String} {details : List CheckDetail}

/-- The detail of an id is that of its last check. -/
theorem rel_detailOf {answers : Answers}
    (h : ids.zipIdx.mapM (detailOutcome cfg answers) = .ok details) (nodeId : String) :
    Option.Rel (fun t d => detailOutcome cfg answers t = .ok d) (lastCheck ids nodeId)
      (detailOf details nodeId) := by
  refine rel_find?_of_forall₂ (List.forall₂_reverse_iff.2 (mapM_eq_ok_iff.1 h)) fun t d htd => ?_
  rw [nodeId_of_detailOutcome htd]

theorem CheckReturns.answered (h : CheckReturns cfg run ids details) :
    Program.answered run.answers (serviceBulkCheck cfg ids "ssh") =
      .ok (checkResult cfg ids details) := by
  rw [answered_sshCheck, h.checked]
  show (checkLogged cfg run.answers ids details).map _ = _
  rw [h.logged]
  rfl

/-- The event of a check says the same in both runs. -/
theorem checkEvent_congr {details' : List CheckDetail}
    (h : List.Forall₂ SameOutline details details') (mode : String) :
    checkEvent (checkResult cfg ids details) mode =
      checkEvent (checkResult cfg ids details') mode := by
  have hfilter : ∀ p : Bool → Bool, (details.filter fun d => p d.success).length =
      (details'.filter fun d => p d.success).length := by
    intro p
    induction h with
    | nil => rfl
    | cons hd _ ih =>
        rw [List.filter_cons, List.filter_cons, hd.success]
        split
        · rw [List.length_cons, List.length_cons, ih]
        · exact ih
  unfold checkEvent checkResult
  have hsucceeded := hfilter id
  have hfailed := hfilter (!·)
  simp only [id_eq] at hsucceeded hfailed
  simp only [hsucceeded, hfailed]

theorem SameButTexts.optionalOutcome (h : SameButTexts run run') (cfg : Setting) (item : Nat)
    (action : String) (nodeId : Option Uuid) (details : Json.Fields) :
    optionalOutcome cfg run.answers item action nodeId details =
      optionalOutcome cfg run'.answers item action nodeId details := by
  unfold Command.optionalOutcome
  split
  · exact eventOutcome_congr (h.service item (.enqueueOptional _))
  · rfl

/-- The checks of both runs return, or both raise alike. -/
theorem SameButTexts.sshCheck (h : SameButTexts run run') (cfg : Setting) (ids : List String) :
    Alike SameFailure
      (fun result result' => ∃ details details', CheckReturns cfg run ids details ∧
        CheckReturns cfg run' ids details' ∧ result = checkResult cfg ids details ∧
        result' = checkResult cfg ids details')
      (Program.answered run.answers (serviceBulkCheck cfg ids "ssh"))
      (Program.answered run'.answers (serviceBulkCheck cfg ids "ssh")) := by
  rw [answered_sshCheck, answered_sshCheck]
  have hall := Alike.mapM (fun t => h.detailOutcome cfg t) ids.zipIdx
  apply hall.bind_of_ok
  intro details details' hchecked hchecked' houtline
  have hlogged : checkLogged cfg run.answers ids details =
      checkLogged cfg run'.answers ids details' := by
    unfold checkLogged
    rw [checkEvent_congr houtline]
    exact h.optionalOutcome ..
  cases hlog : checkLogged cfg run.answers ids details with
  | error e =>
      rw [← hlogged, hlog]
      exact .error ⟨rfl, fun _ => rfl⟩
  | ok u =>
      rw [← hlogged, hlog]
      exact .ok ⟨details, details', ⟨hchecked, hlog⟩, ⟨hchecked', hlogged ▸ hlog⟩, rfl, rfl⟩

theorem SameButTexts.checkReturns (h : SameButTexts run run')
    (hreturns : CheckReturns cfg run ids details) :
    ∃ details', CheckReturns cfg run' ids details' := by
  have halike := h.sshCheck cfg ids
  rw [hreturns.answered] at halike
  generalize Program.answered run'.answers (serviceBulkCheck cfg ids "ssh") = x' at halike
  cases halike with
  | ok hresults =>
      obtain ⟨_, details', -, hreturns', -, -⟩ := hresults
      exact ⟨details', hreturns'⟩

/-- In the db mode no text is shown at all. -/
theorem SameButTexts.dbCheck (h : SameButTexts run run') (ids : List String) :
    Alike SameFailure Eq (Program.answered run.answers (serviceBulkCheck cfg ids "db"))
      (Program.answered run'.answers (serviceBulkCheck cfg ids "db")) := by
  have hexisting : Alike SameFailure Eq (Program.answered run.answers (existingNodes ids))
      (Program.answered run'.answers (existingNodes ids)) := by
    unfold existingNodes
    split
    · exact .ok rfl
    · rw [Program.answered_bind, Program.answered_bind, Program.answered_call,
        Program.answered_call]
      apply (h (.existingIds ids) nofun).bind
      rintro existing _ rfl
      exact .ok rfl
  unfold serviceBulkCheck
  rw [if_pos rfl, Program.answered_bind, Program.answered_bind]
  apply hexisting.bind
  rintro result _ rfl
  rw [Program.answered_bind, Program.answered_bind, answered_ofService, answered_ofService,
    answered_log, answered_log]
  rw [← h.optionalOutcome]
  cases Command.optionalOutcome cfg run.answers 0 "bulk_nodes.check" none (checkEvent result "db") with
  | error e => exact .error ⟨rfl, fun _ => rfl⟩
  | ok u => exact .ok rfl

/-- A check of some nodes answers with a result for each detail that counts. -/
theorem CheckReturns.checkResults_eq {data : NodeChecksRequest}
    (h : CheckReturns cfg run (data.ids.map cfg.printUuid) details) :
    checkResults cfg data.ids (checkResult cfg (data.ids.map cfg.printUuid) details) =
      data.ids.map fun nodeId => resultOf nodeId (detailOf details (cfg.printUuid nodeId)) := by
  have hlength := (mapM_eq_ok_iff.1 h.checked).length_eq
  rw [List.length_zipIdx, List.length_map] at hlength
  have hsome : details ≠ [] := by
    rintro rfl
    have hids := data.ids_ok.1
    rw [hlength] at hids
    exact absurd hids (by decide)
  exact if_pos hsome

/-- The reply to a check. -/
def checkReply (cfg : Setting) (data : NodeChecksRequest) (result : BulkNodeCheckResultDTO) :
    ChecksReply :=
  .checked (checksResponse (checkResults cfg data.ids result))

theorem bodyOf_bulkCheckNodes (data : NodeChecksRequest) {mode : String}
    (hmode : mode = "db" ∨ mode = "ssh") :
    bodyOf id (Program.answered run.answers (bulkCheckNodes cfg data mode)) =
      bodyOf (checkReply cfg data)
        (Program.answered run.answers (serviceBulkCheck cfg (data.ids.map cfg.printUuid) mode)) := by
  have hallowed : ¬ (mode ≠ "db" ∧ mode ≠ "ssh") := by
    rintro ⟨hdb, hssh⟩
    cases hmode with
    | inl h => exact hdb h
    | inr h => exact hssh h
  unfold bulkCheckNodes
  rw [if_neg hallowed, Program.answered_bind]
  cases Program.answered run.answers
    (serviceBulkCheck cfg (data.ids.map cfg.printUuid) mode) <;> rfl

/-- **When the check over ssh conceals internal errors.** -/
theorem conceals_sshChecks_iff (data : NodeChecksRequest) :
    Conceals id run (bulkCheckNodes cfg data "ssh") ↔ ChecksConceal cfg run data := by
  unfold Conceals
  simp only [bodyOf_bulkCheckNodes data (.inr rfl)]
  constructor
  · intro h details hreturns nodeId hmem t hlast id node connector hid hnode hopened
    have hsame := sameButTexts_reworded run
    obtain ⟨details', hreturns'⟩ := hsame.checkReturns hreturns
    have hbody := h run.reworded hsame
    rw [hreturns.answered, hreturns'.answered] at hbody
    have hresults : checkResults cfg data.ids (checkResult cfg (data.ids.map cfg.printUuid) details) =
        checkResults cfg data.ids (checkResult cfg (data.ids.map cfg.printUuid) details') :=
      congrArg NodeChecksResponse.results (ChecksReply.checked.inj (Except.ok.inj hbody))
    rw [hreturns.checkResults_eq, hreturns'.checkResults_eq] at hresults
    have hresult := List.map_inj_left.1 hresults nodeId hmem
    have hnode' := reworded_of_ok hnode
    have hopened' : openConnector run.reworded.answers 0 t.2 node none = .ok connector :=
      (hsame.openConnector 0 t.2 node none).eq_ok hopened
    have hdetail := rel_detailOf hreturns.checked (cfg.printUuid nodeId)
    have hdetail' := rel_detailOf hreturns'.checked (cfg.printUuid nodeId)
    rw [hlast] at hdetail hdetail'
    generalize detailOf details (cfg.printUuid nodeId) = d at hdetail hresult
    generalize detailOf details' (cfg.printUuid nodeId) = d' at hdetail' hresult
    cases hdetail with
    | some hd =>
        cases hdetail' with
        | some hd' =>
            rw [detailOutcome_of_found hid hnode hopened] at hd
            rw [detailOutcome_of_found hid hnode' hopened'] at hd'
            cases hd
            cases hd'
            have hstatus := checkedStatus_fst (hsame.checkSession t.2 connector)
            have hupdate : statusUpdate run.reworded.answers t.2 node.id
                (checkSession run.reworded.answers t.2 connector) =
                  (statusUpdate run.answers t.2 node.id
                    (checkSession run.answers t.2 connector)).mapError reword := by
              unfold statusUpdate
              rw [← hstatus]
              rfl
            rw [hupdate] at hresult
            exact detailConceals_of_shown hresult
  · intro hc run' hsame
    refine bodyOf_congr (hsame.sshCheck cfg (data.ids.map cfg.printUuid)) ?_
    rintro _ _ ⟨details, details', hreturns, hreturns', rfl, rfl⟩
    unfold checkReply
    rw [hreturns.checkResults_eq, hreturns'.checkResults_eq]
    have hresults : ∀ nodeId ∈ data.ids, detailOf details (cfg.printUuid nodeId) =
        detailOf details' (cfg.printUuid nodeId) := by
      intro nodeId hmem
      have hdetail := rel_detailOf hreturns.checked (cfg.printUuid nodeId)
      have hdetail' := rel_detailOf hreturns'.checked (cfg.printUuid nodeId)
      cases hlast : lastCheck (data.ids.map cfg.printUuid) (cfg.printUuid nodeId) with
      | none =>
          rw [hlast] at hdetail hdetail'
          generalize detailOf details (cfg.printUuid nodeId) = d at hdetail ⊢
          generalize detailOf details' (cfg.printUuid nodeId) = d' at hdetail' ⊢
          cases hdetail
          cases hdetail'
          rfl
      | some t =>
          rw [hlast] at hdetail hdetail'
          have hcheck := hc details hreturns nodeId hmem t hlast
          generalize detailOf details (cfg.printUuid nodeId) = d at hdetail ⊢
          generalize detailOf details' (cfg.printUuid nodeId) = d' at hdetail' ⊢
          cases hdetail with
          | some hd =>
              cases hdetail' with
              | some hd' =>
                  rw [hcheck.detail_eq hsame hd] at hd'
                  rw [Except.ok.inj hd']
    rw [List.map_congr_left fun nodeId hmem => by rw [hresults nodeId hmem]]

theorem conceals_dbChecks (data : NodeChecksRequest) :
    Conceals id run (bulkCheckNodes cfg data "db") := by
  intro run' hsame
  rw [bodyOf_bulkCheckNodes data (.inl rfl), bodyOf_bulkCheckNodes data (.inl rfl)]
  exact bodyOf_congr (hsame.dbCheck _) fun _ _ h => by rw [h]

/-- **When bulk responses conceal internal errors.**  All runs that differ in texts of internal
errors at most answer alike exactly where no such error gets to a site that shows its text. -/
theorem bulk_errors_concealed_iff (cfg : Setting) (unicode : Unicode) (run : RunOutcomes)
    (data : CommandExecutionsRequest) (raw : RawExecutionsRequest) (checks : NodeChecksRequest)
    (mode : String) :
    (Conceals BatchReply.withoutId run (bulkExecutions cfg unicode data) ↔
        exceedsLimit data.commandIds.length data.nodeIds data.nodeTags = true ∨
          ∀ t ∈ data.commandIds.zipIdx, CommandConceals cfg unicode run data t) ∧
      (Conceals BatchReply.withoutId run (bulkRawExecutions cfg raw) ↔
        exceedsLimit raw.commands.length raw.nodeIds raw.nodeTags = true ∨
          ∀ t ∈ raw.commands.zipIdx, BulkConceals cfg run t.2 (raw.bulkRequest t.1)) ∧
      (Conceals id run (bulkCheckNodes cfg checks mode) ↔
        (mode = "ssh" → ChecksConceal cfg run checks)) := by
  refine ⟨conceals_executions_iff data, conceals_rawExecutions_iff raw, ?_⟩
  by_cases hssh : mode = "ssh"
  · subst hssh
    rw [conceals_sshChecks_iff, forall_prop_of_true rfl]
  · refine iff_of_true ?_ fun h => absurd h hssh
    by_cases hdb : mode = "db"
    · subst hdb
      exact conceals_dbChecks checks
    · intro run' _
      unfold bulkCheckNodes
      rw [if_pos ⟨hdb, hssh⟩]
      rfl

/-- A run in which the database refuses the connection, with a text of its driver. -/
def refusing (text : String) : RunOutcomes where
  answers
    | .uuid4 _ => .ok 0
    | _ => .error ⟨.other, text⟩
  drawn _ := 0
  saved _ _ := .error ⟨.other, text⟩
  draws _ := rfl
  saves _ _ _ _ := rfl

/-- Two drivers, two bodies: the text of the exception stands in `stderr`. -/
theorem not_bulkErrorsConcealed :
    ¬ ∀ (cfg : Setting) (raw : RawExecutionsRequest) (run run' : RunOutcomes),
      SameButTexts run run' →
        bodyOf BatchReply.withoutId (Program.answered run.answers (bulkRawExecutions cfg raw)) =
          bodyOf BatchReply.withoutId
            (Program.answered run'.answers (bulkRawExecutions cfg raw)) := by
  intro h
  have hconceals : Conceals BatchReply.withoutId (refusing "10.0.0.5:5432 refused")
      (bulkRawExecutions plainSetting uptimeOnOne) := fun run' hrun => h _ _ _ run' hrun
  cases (conceals_rawExecutions_iff uptimeOnOne).1 hconceals with
  | inl hexceeds =>
      revert hexceeds
      decide
  | inr hitems =>
      have hinternal := (hitems ("uptime", 0) (List.mem_singleton_self _)).targets _ rfl
      revert hinternal
      decide

end Handler

end Command
end NodeNexus
