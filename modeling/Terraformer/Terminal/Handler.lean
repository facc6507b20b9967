import Terraformer.Transitions
import Terraformer.Admission.Connection
import Terraformer.Text.Json

/-!
# The terminal WebSocket handler

The handler awaits one thing after another: the client's acknowledgement, the device record, a
permit of the connection gate, the session with the device, the relay of the terminal.  `Pc` says
what it awaits, and an `Action` is what becomes of that: the awaited call returns or raises, or
the handler's task is cancelled.  Between two awaits the code runs without interruption, so `step`
does all of it at once.

Three places differ from the rest.  A permit is acquired in a thread that goes on when the handler
is cancelled; what it acquires is then released (`rollingBack`, `releasingLate`).  A shell that
cannot be created has its connection closed, which cancellations only delay
(`closingConnection`).  The cleanup runs as a task of its own: the first cancellation interrupts
the handler's shielded wait for it, and every further one is passed on to the task.

`log` records what was done, in order.
-/

namespace Terraformer.Terminal

open Admission (SSHCompatibility enforceCompatibilityPolicy policyError)

/-! ## Failures -/

/-- The phases of a terminal's failures, and the phase of an audit without one. -/
inductive Phase where
  | authorization
  | tcpConnection
  | sshNegotiation
  | hostKeyVerification
  | authentication
  | ptyCreation
  | terminalIo
  | complete
  deriving DecidableEq

/-- `_FAILURES`: the phase of each code. -/
def failures : List (String × Phase) :=
  [("direct_mode_required", .authorization), ("terminal_disabled_by_policy", .authorization),
    ("legacy_mode_disabled_by_policy", .authorization),
    ("legacy_group1_disabled_by_policy", .authorization),
    ("very_old_mode_disabled_by_policy", .authorization),
    ("telnet_disabled_by_policy", .authorization),
    ("telnet_requires_lab_device", .authorization),
    ("telnet_direct_mode_required", .authorization),
    ("connection_gate_unavailable", .authorization),
    ("device_connection_rate_limited", .authorization),
    ("device_authentication_rate_limited", .authorization),
    ("device_connection_limit_reached", .authorization),
    ("terminal_session_limit_reached", .authorization), ("not_found", .authorization),
    ("terminal_shell_rejected", .ptyCreation), ("terminal_idle_timeout", .terminalIo),
    ("terminal_session_expired", .terminalIo), ("terminal_input_limit", .terminalIo),
    ("terminal_output_limit", .terminalIo), ("invalid_terminal_message", .terminalIo),
    ("invalid_terminal_size", .terminalIo), ("device_connection_timeout", .tcpConnection),
    ("device_connection_failed", .tcpConnection), ("device_connection_refused", .tcpConnection),
    ("device_connection_lost", .tcpConnection), ("device_name_resolution_failed", .tcpConnection),
    ("device_host_key_unknown", .hostKeyVerification),
    ("device_host_key_changed", .hostKeyVerification),
    ("legacy_ssh_negotiation_failed", .sshNegotiation),
    ("device_authentication_failed", .authentication), ("terminal_pty_rejected", .ptyCreation),
    ("terminal_transport_failed", .terminalIo)]

/-- The phase of a code, when it is known. -/
def failurePhase (code : String) : Option Phase := failures.lookup code

/-- The kinds of `OSError` that the handler tells apart; `TimeoutError` is one. -/
inductive OsKind where
  | timeout
  | refused
  | nameResolution
  | other
  deriving DecidableEq

/-- The kinds of `asyncssh.Error` that the handler tells apart. -/
inductive SshKind where
  | permissionDenied
  /-- `changed` says whether the reason speaks of a changed or untrusted key. -/
  | hostKeyNotVerifiable (changed : Bool)
  | keyExchangeFailed
  | protocolError
  | connectionLost
  | channelOpen
  | process
  | other
  deriving DecidableEq

/-- What an await can raise. -/
inductive Exc where
  /-- `_TerminalFailure(code)`. -/
  | terminal (code : String)
  /-- An `AppError`. -/
  | app (code : String)
  /-- `WebSocketDisconnect`. -/
  | disconnect
  | os (kind : OsKind)
  | ssh (kind : SshKind)
  /-- `RuntimeError`. -/
  | runtime
  /-- `asyncio.CancelledError`. -/
  | cancelled
  | other
  deriving DecidableEq

/-- `_connection_failure_code`, for an `OSError`. -/
def osFailureCode : OsKind → String
  | .timeout => "device_connection_timeout"
  | .refused => "device_connection_refused"
  | .nameResolution => "device_name_resolution_failed"
  | .other => "device_connection_failed"

/-- `_connection_failure_code`, for an `asyncssh.Error`. -/
def sshFailureCode : SshKind → String
  | .permissionDenied => "device_authentication_failed"
  | .hostKeyNotVerifiable true => "device_host_key_changed"
  | .hostKeyNotVerifiable false => "device_host_key_unknown"
  | .keyExchangeFailed | .protocolError => "legacy_ssh_negotiation_failed"
  | .connectionLost => "device_connection_lost"
  | _ => "device_connection_failed"

/-- What becomes of an exception of `asyncssh.connect`. -/
def connectFailure : Exc → Exc
  | .os kind => .terminal (osFailureCode kind)
  | .ssh kind => .terminal (sshFailureCode kind)
  | exc => exc

/-- What becomes of an exception of `connection.create_process`. -/
def processFailure : Exc → Exc
  | .os _ => .terminal "terminal_pty_rejected"
  | .ssh .channelOpen | .ssh .process => .terminal "terminal_shell_rejected"
  | .ssh _ => .terminal "terminal_pty_rejected"
  | exc => exc

/-- What becomes of an exception of `open_telnet_session`; `_telnet_failure_code` gives the codes
that `_connection_failure_code` gives for an `OSError`. -/
def telnetFailure : Exc → Exc
  | .os kind => .terminal (osFailureCode kind)
  | exc => exc

/-- `_close_websocket` swallows it. -/
def closeSwallows : Exc → Bool
  | .os _ | .runtime | .disconnect => true
  | _ => false

/-! ## What the client and the device record say -/

/-- How the console of a device is reached. -/
inductive ConsoleTransport where
  | ssh
  | telnet
  deriving DecidableEq

/-- `_TerminalTarget`, without what only the connection itself uses. -/
structure Target where
  compatibility : SSHCompatibility
  consoleTransport : ConsoleTransport
  isLab : Bool

/-- The flags of an accepted acknowledgement. -/
structure Acknowledgement where
  group1 : Bool
  veryOld : Bool
  telnet : Bool
  deriving DecidableEq

/-- `data.get(name, False)` when it is a boolean. -/
def flag (data : JsonObject) (name : String) : Option Bool :=
  match data.lookup name with
  | none => some false
  | some (.bool value) => some value
  | some _ => none

/-- The acknowledgement of Direct Mode, when the message is one. -/
def acknowledgement : Json → Option Acknowledgement
  | .obj data =>
    match data.lookup "type" with
    | some (.str "accept_direct_mode") => do
      let group1 ← flag data "group1_risk_acknowledged"
      let veryOld ← flag data "very_old_risk_acknowledged"
      let telnet ← flag data "telnet_cleartext_acknowledged"
      return ⟨group1, veryOld, telnet⟩
    | _ => none
  | _ => none

/-- The settings that the handler looks at. -/
structure Settings extends Admission.Settings where
  sshTerminalEnabled : Bool
  telnetEnabled : Bool

/-- The code of the first policy check that fails. -/
def policyFailure (settings : Settings) (target : Target) (ack : Acknowledgement) :
    Option String :=
  if settings.sshTerminalEnabled = false then some "terminal_disabled_by_policy"
  else if target.consoleTransport = .telnet ∧ settings.telnetEnabled = false then
    some "telnet_disabled_by_policy"
  else if target.consoleTransport = .telnet ∧ target.isLab = false then
    some "telnet_requires_lab_device"
  else if target.consoleTransport = .telnet ∧ ack.telnet = false then
    some "telnet_direct_mode_required"
  else if enforceCompatibilityPolicy target.compatibility settings.toSettings ack.group1
      ack.veryOld then none
  else some (policyError target.compatibility settings.toSettings ack.veryOld).code

/-! ## The machine -/

/-- What was done, in order.  Of a call in a thread the log has that it was made. -/
inductive Effect where
  /-- The acknowledgement of Direct Mode was accepted. -/
  | accepted
  /-- Every policy check passed. -/
  | policyPassed
  /-- `gate.acquire` gave a permit. -/
  | acquired
  /-- `gate.release` -/
  | released
  /-- `_connection_parameters`, which decrypts the credentials for a target. -/
  | decrypted (transport : Option ConsoleTransport)
  /-- A connection to the device was opened. -/
  | opened
  /-- It was closed. -/
  | closed
  /-- The handler's body ended with an exception, with a permit or without. -/
  | failed (exc : Exc) (permitted : Bool)
  /-- `gate.authentication_failed` -/
  | reportedFailed
  /-- `gate.authentication_succeeded` -/
  | reportedSucceeded
  /-- The event `terminal.opened`. -/
  | eventOpened
  /-- The event `terminal.closed`. -/
  | eventClosed
  /-- The event `ssh.connection_admission`; the decision is "allowed" or "denied". -/
  | audited (phase : Phase) (allowed : Bool) (result : String)
  deriving DecidableEq

/-- The awaits of `cleanup`. -/
inductive Stage where
  | gathering
  | closingSession
  | auditing
  | recordingClosed
  | closingWebsocket
  | releasing
  deriving DecidableEq

/-- What the handler awaits. -/
inductive Pc where
  | acknowledging
  | readingTarget (ack : Acknowledgement)
  | acquiring
  /-- Cancelled while the thread acquires. -/
  | rollingBack
  /-- A permit came after the cancellation. -/
  | releasingLate
  | sendingConnecting
  | openingTelnet
  | decrypting
  | connecting
  | creatingProcess
  /-- The process could not be created. -/
  | closingConnection (exc : Exc)
  | reportingSuccess
  /-- The one call here that is not awaited: it cannot be cancelled. -/
  | recordingOpened
  | sendingConnected
  | relaying
  | reportingFailed
  /-- The connection stands, but no shell or terminal came of it. -/
  | reportingLateSuccess
  | sendingError
  /-- `interrupted`: the shielded wait for the cleanup was cancelled, and the handler now awaits
  the cleanup's task itself. -/
  | cleaning (stage : Stage) (interrupted : Bool)
  | done
  deriving DecidableEq

/-- The variables of the handler that its later steps read. -/
structure State where
  pc : Pc
  target : Option Target
  permit : Bool
  session : Bool
  /-- `relay_tasks` is not empty. -/
  relaying : Bool
  opened : Bool
  auditPhase : Phase
  /-- `audit_decision` is "allowed". -/
  auditAllowed : Bool
  auditResult : String
  log : List Effect

/-- What becomes of an await. -/
inductive Action where
  /-- `receive_json` returns the acknowledgement. -/
  | message (message : Json)
  /-- `_terminal_target` returns. -/
  | target (target : Target)
  /-- `_connection_parameters` returns; `unknownHost` when it has no known hosts. -/
  | parameters (unknownHost : Bool)
  | ok
  | raises (exc : Exc)
  /-- The handler's task is cancelled.  A call that waits in a thread is made all the same when
  `ran`, and dropped otherwise. -/
  | cancel (ran : Bool)

/-- The call of the await is made. -/
def Action.ran : Action → Bool
  | .cancel ran => ran
  | _ => true

/-- What the handler reads once: the settings, and whether `UUID(device_id)` succeeds. -/
structure Request where
  settings : Settings
  deviceParsed : Bool

namespace State

/-- Do something. -/
def emit (s : State) (effect : Effect) : State := { s with log := s.log ++ [effect] }

/-- Go on to another await. -/
def goto (s : State) (pc : Pc) : State := { s with pc }

/-- The call of an await, when it is made. -/
def call (s : State) (effect : Effect) (action : Action) : State :=
  if action.ran then s.emit effect else s

/-- `audit_phase` and `audit_result` -/
def note (s : State) (phase : Phase) (code : String) : State :=
  { s with auditPhase := phase, auditResult := code }

/-! ### The cleanup, from each of its awaits -/

/-- Go on to the release of the permit, if there is one. -/
def release (s : State) (interrupted : Bool) : State :=
  if s.permit then s.goto (.cleaning .releasing interrupted) else s.goto .done

/-- Go on to the websocket. -/
def closeWebsocket (s : State) (interrupted : Bool) : State :=
  s.goto (.cleaning .closingWebsocket interrupted)

/-- Go on to the closing event, if the opening was recorded. -/
def recordClosed (s : State) (interrupted : Bool) : State :=
  if s.opened then s.goto (.cleaning .recordingClosed interrupted)
  else s.closeWebsocket interrupted

/-- Go on to the audit row, if there is to be one. -/
def audit (s : State) (interrupted : Bool) : State :=
  if s.target.isSome then s.goto (.cleaning .auditing interrupted)
  else s.recordClosed interrupted

/-- Go on to the open session, if there is one. -/
def closeSession (s : State) (interrupted : Bool) : State :=
  if s.session then s.goto (.cleaning .closingSession interrupted) else s.audit interrupted

/-- The `finally` clause, up to its first await. -/
def toFinally (s : State) : State :=
  if s.relaying then s.goto (.cleaning .gathering false) else s.closeSession false

/-! ### The `except` clauses -/

/-- Notes a code and awaits the error message to the client; a code without a specification
raises `KeyError`. -/
def sendError (s : State) (code : String) : State :=
  match failurePhase code with
  | none => s.toFinally
  | some phase => (s.note phase code).goto .sendingError

/-- `except _TerminalFailure` -/
def failTerminal (s : State) (code : String) : State :=
  match failurePhase code with
  | none => s.toFinally
  | some phase =>
    if s.permit && phase = .authentication then (s.note phase code).goto .reportingFailed
    else if s.permit && (phase = .ptyCreation || phase = .terminalIo) && !s.opened then
      (s.note phase code).goto .reportingLateSuccess
    else (s.note phase code).goto .sendingError

/-- The body ends with an exception. -/
def fail (s : State) (exc : Exc) : State :=
  let t := s.emit (.failed exc s.permit)
  match exc with
  | .terminal code => t.failTerminal code
  | .app code =>
    t.sendError (if (failurePhase code).isSome then code else "terminal_transport_failed")
  | .disconnect =>
    (t.note .terminalIo (if s.opened then "success" else "terminal_transport_failed")).toFinally
  | .cancelled => (t.note .terminalIo "terminal_transport_failed").toFinally
  | _ => t.sendError "terminal_transport_failed"

/-- An await of the body: when it returns the body goes on, and what it raises ends the body. -/
def await (s : State) (next : State) (translate : Exc → Exc) : Action → Option State
  | .ok => some next
  | .raises exc => some (s.fail (translate exc))
  | .cancel _ => some (s.fail .cancelled)
  | _ => none

/-- The call of the gate in the handler of a `_TerminalFailure`. -/
def report (s : State) : Action → Option State
  | .ok => some (s.goto .sendingError)
  | .raises (.app code) => some (s.sendError code)
  | .raises _ | .cancel _ => some s.toFinally
  | _ => none

/-- An await of the cleanup, apart from the first cancellation. -/
def cleanup (s : State) (stage : Stage) (interrupted : Bool) (action : Action) : Option State :=
  match stage, action with
  | _, .message _ | _, .target _ | _, .parameters _ => none
  | .gathering, .ok => some (s.closeSession interrupted)
  | .gathering, .raises _ => none
  -- Nothing around `gather` swallows a cancellation, so the cleanup ends here.
  | .gathering, .cancel _ => some (s.goto .done)
  | .closingSession, .cancel _ => some s
  | .closingSession, _ =>
    some (({ s with session := false }.emit .closed).audit interrupted)
  | .auditing, .raises _ => some (s.recordClosed interrupted)
  | .auditing, _ =>
    some ((s.call (.audited s.auditPhase s.auditAllowed s.auditResult) action).recordClosed
      interrupted)
  | .recordingClosed, .raises _ => some (s.closeWebsocket interrupted)
  | .recordingClosed, _ => some ((s.call .eventClosed action).closeWebsocket interrupted)
  | .closingWebsocket, .ok => some (s.release interrupted)
  | .closingWebsocket, .raises exc =>
    some (if closeSwallows exc then s.release interrupted else s.goto .done)
  -- Nor does `_close_websocket`.
  | .closingWebsocket, .cancel _ => some (s.goto .done)
  | .releasing, _ => some ({ s.call .released action with permit := false }.goto .done)

end State

/-- `terminal`, once the socket is accepted: from one await to the next. -/
def step (request : Request) (s : State) (action : Action) : Option State :=
  match s.pc with
  | .acknowledging =>
    match action with
    | .message message =>
      match acknowledgement message with
      | none => some (s.fail (.terminal "direct_mode_required"))
      | some ack =>
        some (if request.deviceParsed then (s.emit .accepted).goto (.readingTarget ack)
          else (s.emit .accepted).fail (.terminal "not_found"))
    | .raises (.os .timeout) => some (s.fail (.terminal "direct_mode_required"))
    | .raises exc => some (s.fail exc)
    | .cancel _ => some (s.fail .cancelled)
    | _ => none
  | .readingTarget ack =>
    match action with
    | .target target =>
      let t := { s with target := some target }
      match policyFailure request.settings target ack with
      | some code => some (t.fail (.terminal code))
      | none => some ((t.emit .policyPassed).goto .acquiring)
    | .raises exc => some (s.fail exc)
    | .cancel _ => some (s.fail .cancelled)
    | _ => none
  | .acquiring =>
    match action with
    | .ok =>
      some ({ s.emit .acquired with permit := true, auditAllowed := true }.goto .sendingConnecting)
    | .raises exc => some (s.fail exc)
    | .cancel _ => some (s.goto .rollingBack)
    | _ => none
  | .rollingBack =>
    match action with
    | .ok => some ((s.emit .acquired).goto .releasingLate)
    | .raises _ => some (s.fail .cancelled)
    | .cancel _ => some s
    | _ => none
  | .releasingLate =>
    match action with
    | .ok | .raises _ => some ((s.emit .released).fail .cancelled)
    | .cancel _ => some s
    | _ => none
  | .sendingConnecting =>
    s.await (s.goto (match s.target with
      | some ⟨_, .telnet, _⟩ => .openingTelnet
      | _ => .decrypting)) id action
  | .openingTelnet =>
    s.await ({ s.emit .opened with session := true }.goto .reportingSuccess) telnetFailure action
  | .decrypting =>
    let t := s.call (.decrypted (s.target.map (·.consoleTransport))) action
    match action with
    | .parameters true => some (t.fail (.terminal "device_host_key_unknown"))
    | .parameters false => some (t.goto .connecting)
    | .raises exc => some (t.fail exc)
    | .cancel _ => some (t.fail .cancelled)
    | _ => none
  | .connecting => s.await ((s.emit .opened).goto .creatingProcess) connectFailure action
  | .creatingProcess =>
    match action with
    | .ok => some ({ s with session := true }.goto .reportingSuccess)
    | .raises exc => some (s.goto (.closingConnection exc))
    | .cancel _ => some (s.goto (.closingConnection .cancelled))
    | _ => none
  | .closingConnection exc =>
    match action with
    | .ok => some ((s.emit .closed).fail (processFailure exc))
    | .cancel _ => some s
    | _ => none
  | .reportingSuccess =>
    let t := s.call .reportedSucceeded action
    t.await (t.goto .recordingOpened) id action
  | .recordingOpened =>
    match action with
    | .ok => some ({ s.emit .eventOpened with opened := true }.goto .sendingConnected)
    | .raises exc => some (s.fail exc)
    | _ => none
  | .sendingConnected => s.await ({ s with relaying := true }.goto .relaying) id action
  | .relaying =>
    s.await (s.note .complete "success").toFinally
      (fun exc => if exc = .os .timeout then .terminal "terminal_session_expired" else exc) action
  | .reportingFailed => (s.call .reportedFailed action).report action
  | .reportingLateSuccess => (s.call .reportedSucceeded action).report action
  | .sendingError =>
    match action with
    | .ok | .raises _ | .cancel _ => some s.toFinally
    | _ => none
  | .cleaning stage interrupted =>
    match interrupted, action with
    | false, .cancel _ => some (s.goto (.cleaning stage true))
    | _, _ => s.cleanup stage interrupted action
  | .done => none

/-- The handler after `accept`. -/
def start : State where
  pc := .acknowledging
  target := none
  permit := false
  session := false
  relaying := false
  opened := false
  auditPhase := .authorization
  auditAllowed := false
  auditResult := "direct_mode_required"
  log := []

end Terraformer.Terminal
