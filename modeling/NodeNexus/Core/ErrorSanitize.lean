import NodeNexus.Node.Service

/-!
# Messages for clients

`core/error_sanitize.py`: the HTTP status of each error of the domain, and the text that an
item of a bulk answer shows of an exception; `api/error_mapping.py`: the problem response of an
exception that leaves a handler.

* `statusForDomainError` — every class is registered itself, so its own entry is the most
  specific one.
* `sanitizeBulkError` and `problemContent` — a text of its own only for errors below 500.
-/

namespace NodeNexus
namespace Core

open Node

/-- The entries of `DOMAIN_ERROR_STATUS` for the other classes. -/
def domainErrorStatus : DomainErrorClass → Nat
  | .commandNotFoundError | .scriptNotFoundError | .apiKeyNotFoundError | .tagNotFoundError
  | .containerNotFoundError | .networkNotFoundError | .volumeNotFoundError | .imageNotFoundError
  | .scheduleNotFoundError | .executionNotFoundError | .favoriteNotFoundError | .userNotFoundError
  | .composeProjectNotFoundError | .packNotFoundError | .registryNotFoundError => 404
  | .userAlreadyExistsError | .composeProjectAlreadyExistsError | .packConflictError
  | .registryConflictError => 409
  | .apiKeyRevokedError | .apiKeyExpiredError | .authenticationError | .invalidCredentialsError
  | .tokenExpiredError | .invalidTokenError => 401
  | .insufficientPermissionsError => 403
  | .templateRenderError | .dockerValidationError | .unsupportedConfigFormatError
  | .scheduleValidationError | .scheduledScriptExecutionError | .domainError => 422
  | .hostKeyFetchError | .dockerDaemonError | .schedulerOwnershipError
  | .schedulePersistenceError | .commitFailedError => 503
  | .dockerError => 502
  | .requestTimeoutError => 504
  | .auditStatsUnavailableError => 501
  | .auditReadError => 500

/-- `status_for_domain_error`; `none` of an exception that is no error of the domain. -/
def statusForDomainError : FailureKind → Option Nat
  | .nodeNotFoundError => some 404
  | .nodeNameConflictError => some 409
  | .auditWriteError => some 503
  | .credentialDecryptionError => some 503
  | .connectionFailedError => some 503
  | .domain cls => some (domainErrorStatus cls)
  | .other => none

/-- `PUBLIC_ERROR_MESSAGES`. -/
def publicErrorMessage : FailureKind → Option String
  | .connectionFailedError => some "Remote connection failed"
  | .domain .hostKeyFetchError => some "SSH host key verification failed"
  | .credentialDecryptionError => some "Credential processing failed"
  | .domain .containerNotFoundError => some "Docker container not found"
  | .domain .networkNotFoundError => some "Docker network not found"
  | .domain .volumeNotFoundError => some "Docker volume not found"
  | .domain .imageNotFoundError => some "Docker image not found"
  | .domain .dockerDaemonError => some "Docker daemon unavailable"
  | .domain .dockerError => some "Docker operation failed"
  | _ => none

/-- `sanitize_bulk_error`. -/
def sanitizeBulkError (e : NodeFailure) : String :=
  match statusForDomainError e.kind with
  | some status =>
      if 500 ≤ status then (publicErrorMessage e.kind).getD "Internal server error"
      else (publicErrorMessage e.kind).getD e.text
  | none => "Internal error"

/-- A domain error below 500: its text is meant for clients. -/
def isPublic (kind : FailureKind) : Bool :=
  (statusForDomainError kind).any (· < 500)

/-- **The text of an internal error is not shown.** -/
theorem sanitizeBulkError_of_internal {e e' : NodeFailure} (hkind : e.kind = e'.kind)
    (h : isPublic e.kind = false) : sanitizeBulkError e = sanitizeBulkError e' := by
  unfold sanitizeBulkError
  unfold isPublic at h
  rw [← hkind]
  cases hstatus : statusForDomainError e.kind with
  | none => rfl
  | some status =>
      rw [hstatus] at h
      have hge : 500 ≤ status := by simpa using h
      simp only [if_pos hge]

/-! ## Problems -/

/-- What a problem response says of an exception: its status, its code and its message. -/
structure Problem where
  statusCode : Nat
  /-- The class of the exception; `none` is `InternalError`. -/
  code : Option FailureKind
  message : String
  deriving DecidableEq

/-- `domain_error_handler`, and the handler of all other exceptions. -/
def problemContent (e : NodeFailure) : Problem :=
  match statusForDomainError e.kind with
  | some status =>
      ⟨status, some e.kind,
        if 500 ≤ status then (publicErrorMessage e.kind).getD "Internal server error"
        else (publicErrorMessage e.kind).getD e.text⟩
  | none => ⟨500, none, "Internal server error"⟩

/-- The problem of an internal error does not show its text. -/
theorem problemContent_of_internal {e e' : NodeFailure} (hkind : e.kind = e'.kind)
    (h : isPublic e.kind = false) : problemContent e = problemContent e' := by
  unfold problemContent
  unfold isPublic at h
  rw [← hkind]
  cases hstatus : statusForDomainError e.kind with
  | none => rfl
  | some status =>
      rw [hstatus] at h
      have hge : 500 ≤ status := by simpa using h
      simp only [if_pos hge]

end Core
end NodeNexus
