import Terraformer.Admission.Connection
import Terraformer.Changes.Reads
import Terraformer.Drivers.Interfaces
import Terraformer.Drivers.Routing
import Terraformer.Drivers.Switchports
import Terraformer.Drivers.Vlans

/-!
# Reading a device

The sessions of the IOS-XE driver as runs: each command has a session of its own, and what comes
of it is given from outside.  A device may reject a command; most reads take that for an empty
table (`orRejected`).
-/

namespace Terraformer

open Text Pattern Admission

/-! ## Sessions -/

/-- What the driver sends to a device within a session. -/
inductive DriverCall where
  | command (line : String)
  /-- Configuration commands, of which the first `delivered` reach the device. -/
  | applyConfiguration (commands : List String) (delivered : ℕ)
  | rollback (commands : List String) (delivered : ℕ)
  deriving DecidableEq

/-- What comes of a session: whether it opens, and how what is sent is answered. -/
structure SessionOutcome (α : Type) where
  opened : Except Fault Unit
  answer : Except Fault α

/-- What comes of configuration commands. -/
structure ConfigOutcome extends SessionOutcome Unit where
  delivered : ℕ

/-- The device rejected a command. -/
def DriverCommandRejectedError : AppError := ⟨"device_command_rejected", some "terminal_io"⟩

variable {ω α : Type}

/-- What is done with a device, on the way of a session. -/
abbrev DriverRun (ω α : Type) := Run (BodyEffect DriverCall ω) Fault α

/-- `_session`, with one call in it. -/
def inSession (outcome : SessionOutcome α) (call : DriverCall) : DriverRun ω α := do
  .ofExcept outcome.opened
  .emit (.driver call)
  .ofExcept outcome.answer

/-- `_command`. -/
def sendCommand (outcome : SessionOutcome String) (line : String) : DriverRun ω String :=
  inSession outcome (.command line)

/-- `apply_configuration`. -/
def applyConfiguration (outcome : ConfigOutcome) (commands : List String) : DriverRun ω Unit :=
  inSession outcome.toSessionOutcome (.applyConfiguration commands outcome.delivered)

/-- `rollback`. -/
def rollback (outcome : ConfigOutcome) (commands : List String) : DriverRun ω Unit :=
  inSession outcome.toSessionOutcome (.rollback commands outcome.delivered)

/-- `except DriverCommandRejectedError: return …`. -/
def orRejected (rejected : α) (run : DriverRun ω α) : DriverRun ω α :=
  run.orElse fun
    | .app error =>
      if error.code = DriverCommandRejectedError.code then pure rejected else .raise (.app error)
    | fault => .raise fault

/-- The outcome of a parser that may raise a `ValueError`. -/
def parsed (facts : Option α) : DriverRun ω α :=
  .ofExcept (facts.elim (.error .exception) .ok)

/-! ## Reads -/

/-- `^(\S+) uptime is (.+)$`, but for the `^` in front; `.+` ends where a line does anyway. -/
def uptimeLine : Pattern :=
  .seq (.group "1" (.plus (.char fun c => !isSpace c))) (.seq (.literal " uptime is ")
    (.group "2" (.plus (.char (· != '\n')))))

/-- `parse_show_version(output).hostname`. -/
def parseHostname (output : String) : Option String :=
  (search uptimeLine lineStart output).bind fun found => captured found "1"

/-- Whether the lookup of names is on: IOS writes a line only when it is off. -/
def parseDomainLookup (output : String) : Bool :=
  !(splitlines output).any fun line => startswith (strip line) "no ip domain"

/-- What comes of the commands that a change may need. -/
structure ReadOutcomes where
  version : SessionOutcome String
  interfaces : SessionOutcome String
  vlans : SessionOutcome String
  switchports : SessionOutcome String
  staticRoutes : SessionOutcome String
  domainLookup : SessionOutcome String
  routingProcesses : SessionOutcome String

section

variable [UnicodeDatabase] (isalnum : Char → Bool) (outcomes : ReadOutcomes)

/-- `get_facts(…).hostname`. -/
def getHostname : DriverRun ω (Option String) := do
  let output ← sendCommand outcomes.version "show version"
  pure (parseHostname output)

/-- `get_interfaces`. -/
def getInterfaces : DriverRun ω (List InterfaceRecord) := do
  let output ← sendCommand outcomes.interfaces "show interfaces"
  parsed (parseShowInterfaces isalnum output)

/-- `get_vlans`. -/
def getVlans : DriverRun ω (List VlanFacts) :=
  orRejected [] do
    let output ← sendCommand outcomes.vlans "show vlan brief"
    pure (parseShowVlanBrief output)

/-- `get_switchports`. -/
def getSwitchports : DriverRun ω (List SwitchportFacts) :=
  orRejected [] do
    let output ← sendCommand outcomes.switchports "show interfaces switchport"
    parsed (parseShowInterfacesSwitchport output)

/-- `get_static_routes`. -/
def getStaticRoutes : DriverRun ω (List StaticRouteFacts) :=
  orRejected [] do
    let output ← sendCommand outcomes.staticRoutes "show running-config | include ^ip route"
    pure (parseStaticRoutes output)

/-- `get_domain_lookup`: a device that does not answer is no evidence that lookup is on. -/
def getDomainLookup : DriverRun ω Bool := do
  let output ← sendCommand outcomes.domainLookup "show running-config | include ip domain.lookup"
  pure (parseDomainLookup output)

/-- `get_routing_processes`. -/
def getRoutingProcesses : DriverRun ω (List RoutingProcessFacts) :=
  orRejected [] do
    let output ← sendCommand outcomes.routingProcesses "show running-config | section ^router"
    pure (parseRoutingProcesses output)

/-- What was read; what was not needed is empty. -/
structure DeviceReads where
  interfaces : List InterfaceRecord := []
  hostname : Option String := none
  domainLookup : Option Bool := none
  vlans : List VlanFacts := []
  switchports : List SwitchportFacts := []
  staticRoutes : List StaticRouteFacts := []
  routingProcesses : List RoutingProcessFacts := []

/-- A read that is made only where it is needed. -/
def whenNeeded (needed : Bool) (otherwise : α) (run : DriverRun ω α) : DriverRun ω α :=
  if needed then run else pure otherwise

/-- What the service reads for a change, before it and after it. -/
def readDevice (changeType : ChangeType) : DriverRun ω DeviceReads := do
  let interfaces ← whenNeeded changeType.targetsInterface [] (getInterfaces isalnum outcomes)
  let hostname ← whenNeeded (changeType == .hostname) none (getHostname outcomes)
  let domainLookup ← whenNeeded (changeType == .domainLookup) none
    (do pure (some (← getDomainLookup outcomes)))
  let vlans ← whenNeeded changeType.needsVlans [] (getVlans outcomes)
  let switchports ← whenNeeded changeType.needsSwitchports [] (getSwitchports outcomes)
  let staticRoutes ← whenNeeded changeType.needsStaticRoutes [] (getStaticRoutes outcomes)
  let routingProcesses ← whenNeeded changeType.needsRoutingProcesses []
    (getRoutingProcesses outcomes)
  pure { interfaces, hostname, domainLookup, vlans, switchports, staticRoutes, routingProcesses }

end

/-- The interface of a name, among those that were read. -/
def DeviceReads.interface (reads : DeviceReads) (target : String) : Option InterfaceFacts :=
  (reads.interfaces.find? fun interface => interface.name == target).map fun interface =>
    interface.toInterfaceFacts

/-- The context of a change, as it was read. -/
def DeviceReads.context (reads : DeviceReads) (target : String) : ChangeContext where
  interface := reads.interface target
  vlans := reads.vlans
  switchports := reads.switchports
  staticRoutes := reads.staticRoutes
  routingProcesses := reads.routingProcesses
  hostname := reads.hostname
  domainLookup := reads.domainLookup

end Terraformer
