import Mathlib

/-!
# Jobs and their table

A job is a row of the table `jobs`.  A database session reads the row into an object, changes the
object and writes back the columns it has changed (`flush`); an object that a session has already
loaded is not read again, also under `FOR UPDATE`, so it can be older than the row.

The repository methods `start`, `succeed` and `fail` look at the state of the object.
-/

namespace Terraformer.Jobs

/-- `JobType`. -/
inductive JobType where
  | refreshDevice
  | captureConfig
  | discoverSsh
  | runDiagnostic
  | analyzeNetwork
  | applyChange
  deriving DecidableEq

/-- `JobState`. -/
inductive JobState where
  | queued
  | started
  | succeeded
  | failed
  | cancelled
  deriving DecidableEq

/-- `_TERMINAL_STATES`. -/
def terminalStates : List JobState := [.succeeded, .failed, .cancelled]

/-- `Job`, without its times: `Id` names devices, `Input` and `Result` are what the types of jobs
take and give. -/
structure Job (Id Input Result : Type) where
  type : JobType
  deviceId : Option Id
  state : JobState := .queued
  input : Input
  rqJobId : Option String := none
  result : Option Result := none
  errorCode : Option String := none
  errorMessage : Option String := none

/-- What a worker or a request can catch: an `AppError`, or another `Exception`. -/
inductive Raised where
  | app (code message : String)
  | other
  deriving DecidableEq

/-- `exc.code if isinstance(exc, AppError) else …`. -/
def Raised.code : Raised → String
  | app code _ => code
  | other => "job_execution_failed"

/-- `exc.message if isinstance(exc, AppError) else …`. -/
def Raised.message : Raised → String
  | app _ message => message
  | other => "Background job execution failed"

/-- `QueueUnavailableError()`. -/
def queueUnavailableError : Raised :=
  .app "queue_unavailable" "The background job queue is unavailable"

/-- `ConflictError(message)`. -/
def conflictError (message : String) : Raised := .app "conflict" message

namespace Job

variable {Id Input Result : Type}

/-- `JobRepository.set_rq_id`. -/
def setRqId (job : Job Id Input Result) (rqJobId : String) : Job Id Input Result :=
  { job with rqJobId := some rqJobId }

/-- `JobRepository.start`. -/
def start (job : Job Id Input Result) : Except Raised (Job Id Input Result) :=
  if job.state ≠ .queued then .error (conflictError "Only queued jobs can be started")
  else .ok { job with state := .started }

/-- `JobRepository.succeed`. -/
def succeed (job : Job Id Input Result) (result : Result) :
    Except Raised (Job Id Input Result) :=
  if job.state ∈ terminalStates then .error (conflictError "Job has already completed")
  else .ok { job with state := .succeeded, result := some result }

/-- `JobRepository.fail`; `sanitizeText` is that of the logs. -/
def fail (sanitizeText : String → String) (job : Job Id Input Result) (code message : String) :
    Job Id Input Result :=
  if job.state ∈ terminalStates then job
  else
    { job with
      state := .failed
      errorCode := some (String.ofList (code.toList.take 100))
      errorMessage := some (String.ofList ((sanitizeText message).toList.take 4000)) }

/-- A column is written when its value has changed since it was loaded. -/
def written {β : Type} [DecidableEq β] (loaded changed row : β) : β :=
  if changed = loaded then row else changed

/-- `session.flush()`: the changed columns of an object are written to its row. -/
def flush [DecidableEq Result] (loaded changed row : Job Id Input Result) :
    Job Id Input Result :=
  { row with
    state := written loaded.state changed.state row.state
    rqJobId := written loaded.rqJobId changed.rqJobId row.rqJobId
    result := written loaded.result changed.result row.result
    errorCode := written loaded.errorCode changed.errorCode row.errorCode
    errorMessage := written loaded.errorMessage changed.errorMessage row.errorMessage }

variable {sanitizeText : String → String} {job job' row : Job Id Input Result}

/-- A field that was loaded with its present value is written as it was changed. -/
lemma written_self {β : Type} [DecidableEq β] (changed row : β) :
    written row changed row = changed := by
  unfold written
  split
  · rename_i h
    exact h.symm
  · rfl

/-- A field that was not changed is not written. -/
lemma written_of_eq {β : Type} [DecidableEq β] (value row : β) : written value value row = row :=
  if_pos rfl

/-- A job is started when it is queued, and then only its state changes. -/
lemma start_eq_ok_iff :
    job.start = .ok job' ↔ job.state = .queued ∧ job' = { job with state := .started } := by
  unfold start
  split
  · rename_i h
    simp [h]
  · rename_i h
    simp only [Except.ok.injEq, not_not.mp h, true_and]
    exact eq_comm

/-- A job succeeds unless it has ended. -/
lemma succeed_eq_ok_iff {result : Result} : job.succeed result = .ok job' ↔
    job.state ∉ terminalStates ∧ job' = { job with state := .succeeded, result := some result } := by
  unfold succeed
  split
  · rename_i h
    simp [h]
  · rename_i h
    simp only [Except.ok.injEq, h, not_false_eq_true, true_and]
    exact eq_comm

/-- A job that has ended is not failed. -/
lemma fail_of_terminal {code message : String} (h : job.state ∈ terminalStates) :
    job.fail sanitizeText code message = job := if_pos h

/-- A job that has not ended is failed. -/
lemma state_fail {code message : String} (h : job.state ∉ terminalStates) :
    (job.fail sanitizeText code message).state = .failed := by
  rw [fail, if_neg h]

end Job

end Terraformer.Jobs
