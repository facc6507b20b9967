import Terraformer.Transitions
import Terraformer.Jobs.Table

/-!
# Requests and workers over the table of jobs

A request enqueues a job: `JobService.enqueue` checks, inserts and commits the row, hands the job
to the queue and then writes the row once more, with what the queue answered.  A worker is
delivered a job and executes it: `execute_job` starts it, runs its body, and writes how it ended.
Each of their transactions is one action of `step`, and the actions of any number of requests and
workers come in any order; the queue may deliver a job as soon as its row is committed, and more
than once.

A worker opens a session for each transaction, so it sees the row as it is.  A request keeps its
session, so the object that it changes at the end is the one it has inserted: `queueRaises` fails
a job that was queued once, whatever has become of it.
-/

namespace Terraformer.Jobs

variable {Id Input Result : Type} [DecidableEq Id] [DecidableEq Result]

/-- `_EXCLUSIVE_JOB_TYPES`. -/
def exclusiveJobTypes : JobType → Option String
  | .discoverSsh => some "A discovery job is already active"
  | .analyzeNetwork => some "An analysis job is already active"
  | _ => none

/-- Where a request is in `JobService.enqueue`. -/
inductive Request (Id Input Result : Type) where
  | idle
  /-- It was refused before it inserted a job. -/
  | refused
  /-- The checks have passed. -/
  | checked (type : JobType) (deviceId : Option Id) (input : Input)
  /-- The job is committed and the queue is called; `copy` is the loaded object. -/
  | queueing (jobId : Id) (copy : Job Id Input Result)
  /-- The queue has answered with the id of its own. -/
  | queued (jobId : Id)
  /-- The queue was unavailable, and the job was failed. -/
  | failed (jobId : Id)

/-- The job that a request has inserted. -/
def Request.jobId : Request Id Input Result → Option Id
  | idle | refused | checked .. => none
  | queueing jobId _ | queued jobId | failed jobId => some jobId

/-- Where a worker is in `execute_job`, once the job is started. -/
inductive Phase (Result : Type) where
  /-- The body runs. -/
  | running
  /-- The body has returned. -/
  | returned (result : Result)
  /-- The worker is in its `except` arm; `outcome` is how the body ended. -/
  | failing (outcome : Except Raised Result) (exc : Raised)
  | ended (outcome : Except Raised Result)

/-- The body has returned. -/
def Phase.bodyReturned : Phase Result → Bool
  | running => false
  | returned _ => true
  | failing outcome _ | ended outcome => outcome.toBool

/-- A delivery of a job to a worker. -/
inductive Delivery (Id Result : Type) where
  | idle
  /-- The job could not be started. -/
  | refused
  | executing (jobId : Id) (phase : Phase Result)

/-- The committed rows, and where the requests and the workers are. -/
structure World (Id Input Result : Type) where
  jobs : AList fun _ : Id => Job Id Input Result
  requests : Id → Request Id Input Result
  deliveries : Id → Delivery Id Result

namespace World

variable (w : World Id Input Result)

/-- Nothing has happened. -/
def empty : World Id Input Result := ⟨∅, fun _ => .idle, fun _ => .idle⟩

/-- The row of a job is written. -/
def setJob (j : Id) (row : Job Id Input Result) : World Id Input Result :=
  { w with jobs := w.jobs.insert j row }

/-- A request moves on. -/
def setRequest (r : Id) (request : Request Id Input Result) : World Id Input Result :=
  { w with requests := Function.update w.requests r request }

/-- A delivery moves on. -/
def setDelivery (d : Id) (delivery : Delivery Id Result) : World Id Input Result :=
  { w with deliveries := Function.update w.deliveries d delivery }

/-- `JobRepository.has_active`. -/
def hasActive (type : JobType) (deviceId : Option Id := none) : Bool :=
  w.jobs.entries.any fun entry =>
    entry.2.type == type && (entry.2.state == .queued || entry.2.state == .started) &&
      (deviceId.isNone || entry.2.deviceId == deviceId)

/-- The state of a job. -/
def state (j : Id) : Option JobState := (w.jobs.lookup j).map Job.state

end World

/-- What happens next. -/
inductive Action (Id Input Result : Type) where
  /-- A request calls `JobService.enqueue`; `deviceFound` says whether the device exists. -/
  | check (r : Id) (type : JobType) (deviceId : Option Id) (input : Input) (deviceFound : Bool)
  /-- The request inserts its job under the id `j` and commits. -/
  | insert (r j : Id)
  /-- The call of the queue returns, and the request writes the id. -/
  | queueReturns (r : Id) (rqJobId : String)
  /-- The call of the queue raises, and the request fails the job. -/
  | queueRaises (r : Id)
  /-- The job `j` is delivered to a worker, which starts it. -/
  | deliver (d j : Id)
  | bodyReturns (d : Id) (result : Result)
  | bodyRaises (d : Id) (exc : Raised)
  /-- The worker's transaction after the body, or the one of its `except` arm. -/
  | finish (d : Id)

variable (sanitizeText : String → String)

/-- One transaction of a request or of a worker. -/
def step (w : World Id Input Result) : Action Id Input Result → Option (World Id Input Result)
  | .check r type deviceId input deviceFound =>
    match w.requests r with
    | .idle =>
      if (exclusiveJobTypes type).isSome && w.hasActive type then w.setRequest r .refused
      else if deviceId.isSome && !deviceFound then w.setRequest r .refused
      else w.setRequest r (.checked type deviceId input)
    | _ => none
  | .insert r j =>
    match w.requests r, w.jobs.lookup j with
    | .checked type deviceId input, none =>
      let job : Job Id Input Result := { type, deviceId, input }
      (w.setJob j job).setRequest r (.queueing j job)
    | _, _ => none
  | .queueReturns r rqJobId =>
    match w.requests r with
    | .queueing j copy => (w.jobs.lookup j).map fun row =>
      (w.setJob j (Job.flush copy (copy.setRqId rqJobId) row)).setRequest r (.queued j)
    | _ => none
  | .queueRaises r =>
    match w.requests r with
    | .queueing j copy => (w.jobs.lookup j).map fun row =>
      let exc := queueUnavailableError
      (w.setJob j (Job.flush copy (copy.fail sanitizeText exc.code exc.message) row)).setRequest r
        (.failed j)
    | _ => none
  | .deliver d j =>
    match w.deliveries d with
    | .idle =>
      match w.jobs.lookup j with
      | none => w.setDelivery d .refused
      | some row =>
        match row.start with
        | .error _ => w.setDelivery d .refused
        | .ok job => (w.setJob j (Job.flush row job row)).setDelivery d (.executing j .running)
    | _ => none
  | .bodyReturns d result =>
    match w.deliveries d with
    | .executing j .running => w.setDelivery d (.executing j (.returned result))
    | _ => none
  | .bodyRaises d exc =>
    match w.deliveries d with
    | .executing j .running => w.setDelivery d (.executing j (.failing (.error exc) exc))
    | _ => none
  | .finish d =>
    match w.deliveries d with
    | .executing j (.returned result) => (w.jobs.lookup j).map fun row =>
      match row.succeed result with
      | .error exc => w.setDelivery d (.executing j (.failing (.ok result) exc))
      | .ok job =>
        (w.setJob j (Job.flush row job row)).setDelivery d (.executing j (.ended (.ok result)))
    | .executing j (.failing outcome exc) => (w.jobs.lookup j).map fun row =>
      let job := row.fail sanitizeText exc.code exc.message
      (w.setJob j (Job.flush row job row)).setDelivery d (.executing j (.ended outcome))
    | _ => none

end Terraformer.Jobs
