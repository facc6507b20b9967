import Terraformer.Compensation
import Terraformer.Device.Config

/-!
# Configuration commands

How the device reads a configuration line and what the line does.  White space separates the
words of a line; a configuration mode (`Cursor`) says which port, VLAN or process the
attribute lines are about.  `Device.execute` is `none` for a line the device rejects, and
`Device.sendConfig` is a batch in a configuration session of its own, stopped at the first
rejected line.
-/

namespace Terraformer

open Text Compensation

/-- What one configuration line asks for. -/
inductive Command where
  | interface (words : List String)
  | description (text : String)
  | noDescription
  | shutdown (down : Bool)
  | mode (mode : PortMode)
  | accessVlan (vlanId : ℕ)
  | noAccessVlan
  | encapsulation (encapsulation : Encapsulation)
  | allowed (vlans : Finset ℕ)
  | vlan (vlanId : ℕ)
  | noVlan (vlanId : ℕ)
  | name (name : String)
  | route (key : RouteKey) (options : List String)
  | noRoute (key : RouteKey)
  | router (name : String)
  | noRouter (name : String)
  | statement (line : String)
  | noStatement (line : String)
  | hostname (name : String)
  | domainLookup (enabled : Bool)
  deriving DecidableEq

/-- The command is known in every mode. -/
def Command.isGlobal : Command → Bool
  | .interface _ | .vlan _ | .noVlan _ | .route _ _ | .noRoute _ | .router _ | .noRouter _
  | .hostname _ | .domainLookup _ => true
  | _ => false

namespace Device

/-! ## Reading a line -/

/-- A VLAN id in range, of at most four digits. -/
def readVlanId (word : String) : Option ℕ :=
  if word.toList.length ≤ 4 then (numeral word).filter fun n => decide (1 ≤ n) && decide (n ≤ 4094)
  else none

/-- One part of a VLAN list, an id or a range. -/
def readVlanRange (part : String) : Option (Finset ℕ) :=
  match splitAt '-' part with
  | [word] => (readVlanId word).map fun n => {n}
  | [low, high] =>
    match readVlanId low, readVlanId high with
    | some a, some b => if a ≤ b then some (Finset.Icc a b) else none
    | _, _ => none
  | _ => none

/-- The union of the parts of a VLAN list. -/
def readVlanParts : List String → Option (Finset ℕ)
  | [] => some ∅
  | part :: parts =>
    match readVlanRange part, readVlanParts parts with
    | some ids, some rest => some (ids ∪ rest)
    | _, _ => none

/-- A list of VLAN ids and ranges. -/
def readVlanList (text : String) : Option (Finset ℕ) :=
  readVlanParts (splitAt ',' text)

/-- Destination, mask, next hop and options of a route. -/
def readRoute : List String → Option (RouteKey × List String)
  | destination :: mask :: nextHop :: options =>
    match Ipv4.ofText destination, Ipv4.ofText mask with
    | some d, some m => some (⟨d, m, nextHop⟩, options)
    | _, _ => none
  | _ => none

/-- The words after `switchport`. -/
def readSwitchport : List String → Option Command
  | ["mode", "trunk"] => some (.mode .trunk)
  | ["mode", "access"] => some (.mode .staticAccess)
  | ["mode", "dynamic", "auto"] => some (.mode .dynamicAuto)
  | ["mode", "dynamic", "desirable"] => some (.mode .dynamicDesirable)
  | ["access", "vlan", word] => (readVlanId word).map .accessVlan
  | ["trunk", "encapsulation", "dot1q"] => some (.encapsulation .dot1q)
  | ["trunk", "allowed", "vlan", list] => (readVlanList list).map .allowed
  | _ => none

/-- The words after `no`. -/
def readNo : List String → Option Command
  | ["description"] => some .noDescription
  | ["shutdown"] => some (.shutdown false)
  | ["switchport", "access", "vlan"] => some .noAccessVlan
  | ["switchport", "trunk", "allowed", "vlan"] => some (.allowed allVlans)
  | ["vlan", word] => (readVlanId word).map .noVlan
  | "ip" :: "route" :: words => (readRoute words).map fun r => .noRoute r.1
  | ["ip", "domain-lookup"] => some (.domainLookup false)
  | "router" :: word :: words => some (.noRouter (join (word :: words)))
  | ["version"] => some (.noStatement "version")
  | "network" :: words => some (.noStatement (join ("network" :: words)))
  | "neighbor" :: words => some (.noStatement (join ("neighbor" :: words)))
  | _ => none

/-- The text behind the first word of a line, without white space around it. -/
def afterWord (line : String) : String :=
  strip (String.ofList ((line.toList.dropWhile isSpace).dropWhile fun c => !isSpace c))

/-- The command of a line; `none` when the device does not know it. -/
def readCommand (line : String) : Option Command :=
  match split line with
  | "no" :: words => readNo words
  | "interface" :: words => some (.interface words)
  | "description" :: _ :: _ => some (.description (afterWord line))
  | ["shutdown"] => some (.shutdown true)
  | "switchport" :: words => readSwitchport words
  | ["vlan", word] => (readVlanId word).map .vlan
  | ["name", word] => some (.name word)
  | "ip" :: "route" :: words => (readRoute words).map fun r => .route r.1 r.2
  | ["ip", "domain-lookup"] => some (.domainLookup true)
  | "router" :: word :: words => some (.router (join (word :: words)))
  | "network" :: words => some (.statement (join ("network" :: words)))
  | "version" :: words => some (.statement (join ("version" :: words)))
  | "neighbor" :: words => some (.statement (join ("neighbor" :: words)))
  | ["hostname", word] => some (.hostname word)
  | _ => none

/-! ## Statements of a routing process -/

section Statements

variable [UnicodeDatabase]

/-- The statement is a `version` line. -/
def isVersion (line : String) : Bool :=
  (split (normalizeStatement line)).head? == some "version"

/-- The statement is about the peer. -/
def isOfPeer (peer line : String) : Bool :=
  (split (normalizeStatement line)).take 2 == ["neighbor", peer]

/-- The statement sets the remote AS of the peer. -/
def isRemoteAs (peer line : String) : Bool :=
  (split (normalizeStatement line)).take 3 == ["neighbor", peer, "remote-as"]

/-- The statements with one more: a version or a remote AS takes the place of the old one, and
any other statement is added once. -/
def addStatement (statements : Finset String) (line : String) : Finset String :=
  match split (normalizeStatement line) with
  | "version" :: _ =>
    insert (normalizeStatement line) (statements.filter fun s => isVersion s = false)
  | "neighbor" :: peer :: "remote-as" :: _ =>
    insert (normalizeStatement line) (statements.filter fun s => isRemoteAs peer s = false)
  | _ =>
    if ∃ s ∈ statements, normalizeStatement s = normalizeStatement line then statements
    else insert (normalizeStatement line) statements

/-- The statements without those a `no` line withdraws: the version, all of a peer, or the
one statement. -/
def removeStatement (statements : Finset String) (line : String) : Finset String :=
  match split (normalizeStatement line) with
  | ["version"] => statements.filter fun s => isVersion s = false
  | ["neighbor", peer] => statements.filter fun s => isOfPeer peer s = false
  | _ => statements.filter fun s => normalizeStatement s ≠ normalizeStatement line

end Statements

/-! ## Executing a line -/

/-- The configuration mode of a session. -/
inductive Cursor (Port : Type*) where
  | global
  | interface (port : Port)
  | vlan (vlanId : ℕ)
  | router (name : String)

/-- A configuration session. -/
structure Session (Port : Type*) where
  config : Config Port
  cursor : Cursor Port := .global

/-- The name of a VLAN that was created without one. -/
def defaultVlanName (n : ℕ) : String :=
  let digits := Nat.toDigits 10 n
  "VLAN" ++ String.ofList (List.replicate (4 - digits.length) '0' ++ digits)

variable {Port : Type*} [DecidableEq Port]

/-- The configuration with a VLAN in the database, under its default name if it is new. -/
def createVlan (c : Config Port) (n : ℕ) : Config Port :=
  match c.vlans n with
  | some _ => c
  | none => c.setVlan n (some (defaultVlanName n))

variable [UnicodeDatabase]

/-- The attribute commands of a port. -/
def portEffect (port : PortConfig) : Command → Option PortConfig
  | .description text => some { port with description := some text }
  | .noDescription => some { port with description := none }
  | .shutdown down => some { port with shutdown := down }
  | .mode mode =>
    -- trunk mode is refused until an encapsulation is chosen
    if mode = .trunk ∧ port.encapsulation = .negotiate then none
    else some { port with mode }
  | .accessVlan n => some { port with accessVlan := n }
  | .noAccessVlan => some { port with accessVlan := 1 }
  | .encapsulation encapsulation => some { port with encapsulation }
  | .allowed allowed => some { port with allowed }
  | _ => none

/-- An attribute command in the mode of a port.  Assigning a VLAN that does not exist creates
it. -/
def executePort (c : Config Port) (p : Port) (command : Command) : Option (Config Port) :=
  (portEffect (c.ports p) command).map fun port =>
    match command with
    | .accessVlan n => createVlan (c.setPort p port) n
    | _ => c.setPort p port

/-- The lines of a VLAN. -/
def executeVlan (c : Config Port) (n : ℕ) : Command → Option (Config Port)
  | .name name => some (c.setVlan n (some name))
  | _ => none

/-- The statement commands of a routing process. -/
def statementEffect (statements : Finset String) : Command → Option (Finset String)
  | .statement line => some (addStatement statements line)
  | .noStatement line => some (removeStatement statements line)
  | _ => none

/-- A statement command in the mode of a routing process. -/
def executeRouter (c : Config Port) (name : String) (command : Command) :
    Option (Config Port) :=
  (c.processes name).bind fun statements =>
    (statementEffect statements command).map fun s => c.setProcess name (some s)

/-- The lines known in every mode. -/
def executeGlobal (naming : Naming Port) (c : Config Port) : Command → Option (Session Port)
  | .interface words => (naming.resolve words).map fun p => ⟨c, .interface p⟩
  | .vlan n => some ⟨createVlan c n, .vlan n⟩
  | .noVlan n => some ⟨c.setVlan n none, .global⟩
  | .route key options => some ⟨c.setRoute key (some options), .global⟩
  | .noRoute key => some ⟨c.setRoute key none, .global⟩
  | .router name =>
    let key := normalizeStatement name
    match c.processes key with
    | some _ => some ⟨c, .router key⟩
    | none => some ⟨c.setProcess key (some ∅), .router key⟩
  | .noRouter name => some ⟨c.setProcess (normalizeStatement name) none, .global⟩
  | .hostname name => some ⟨{ c with hostname := name }, .global⟩
  | .domainLookup enabled => some ⟨{ c with domainLookup := enabled }, .global⟩
  | _ => none

/-- An attribute line of the mode a session is in. -/
def executeInMode (s : Session Port) (command : Command) : Option (Config Port) :=
  match s.cursor with
  | .global => none
  | .interface p => executePort s.config p command
  | .vlan n => executeVlan s.config n command
  | .router name => executeRouter s.config name command

/-- What a command does in a session: an attribute line of the mode, or a line known in every
mode. -/
def perform (naming : Naming Port) (s : Session Port) (command : Command) :
    Option (Session Port) :=
  match executeInMode s command with
  | some c => some ⟨c, s.cursor⟩
  | none => executeGlobal naming s.config command

/-- What a line does in a session; `none` when the device rejects it. -/
def executeLine (naming : Naming Port) (s : Session Port) (line : String) :
    Option (Session Port) :=
  (readCommand line).bind (perform naming s)

/-- `transport.send_config`: a batch of lines in a session of its own, stopped at the first
rejected line. -/
def sendConfig (naming : Naming Port) (c : Config Port) (lines : List String) : Config Port :=
  send (fun c => ⟨c, .global⟩) Session.config (executeLine naming) c lines

/-- The device executes all lines of a batch, and is left with the second configuration. -/
def Executes (naming : Naming Port) (c : Config Port) (lines : List String) (d : Config Port) :
    Prop :=
  ∃ s, lines.foldlM (executeLine naming) ⟨c, .global⟩ = some s ∧ s.config = d

/-- Wherever the device stops the commands, the inverse commands restore the configuration. -/
def Reverts (naming : Naming Port) (c : Config Port) (rendered : RenderedChange) : Prop :=
  Undoes (fun c => ⟨c, .global⟩) Session.config (executeLine naming) rendered.commands
    rendered.inverseCommands c

end Device

end Terraformer
