import Terraformer.Admission.Connection
import Terraformer.Optimistic

/-!
# The connection gate

`RedisConnectionGate` as a system of optimistic transactions.  An acquired permit is a key that
expires, and a member of up to four sorted sets, with the time at which it expires as its score;
admissions that are rationed and failed authentications are members of windows.  The digests that
name an endpoint or a permit stand here for what they digest.
-/

namespace Terraformer.Admission

open Expiring Optimistic

/-! ## Settings and keys -/

/-- The settings of the gate, as the environment sets them. -/
structure GateSettings where
  maxDeviceConnections : ℕ
  maxConnectionsPerDevice : ℕ
  maxTerminalSessions : ℕ
  maxTerminalSessionsPerDevice : ℕ
  connectionPermitTtlSeconds : ℕ
  connectionTestRateLimit : ℕ
  terminalOpenRateLimit : ℕ
  connectionRateWindowSeconds : ℕ
  authenticationFailureLimit : ℕ
  authenticationFailureWindowSeconds : ℕ
  authenticationCooldownSeconds : ℕ

/-- The server's clock counts microseconds. -/
def micros (seconds : ℕ) : ℤ := 1000000 * seconds

namespace GateSettings

variable (settings : GateSettings)

/-- How long a permit is good, in microseconds. -/
def permitTtl : ℤ := micros settings.connectionPermitTtlSeconds

/-- The window in which connections are counted, in microseconds. -/
def rateWindow : ℤ := micros settings.connectionRateWindowSeconds

/-- The window in which failed logins are counted, in microseconds. -/
def failureWindow : ℤ := micros settings.authenticationFailureWindowSeconds

/-- How long an endpoint rests after too many failed logins, in microseconds. -/
def cooldown : ℤ := micros settings.authenticationCooldownSeconds

end GateSettings

/-- What the endpoint digest and the credential profile name together. -/
structure Endpoint where
  host : String
  port : ℕ
  credentialProfileId : Uuid
  deriving DecidableEq

/-- What a target shares with the other devices at its endpoint. -/
def ConnectionTarget.endpoint (target : ConnectionTarget) : Endpoint :=
  ⟨target.host, target.port, target.credentialProfileId⟩

/-- The keys that hold texts. -/
inductive TextKey where
  | permit (identifier : Uuid)
  | authenticationCooldown (endpoint : Endpoint)
  deriving DecidableEq

/-- The keys that hold sorted sets. -/
inductive SetKey where
  | globalActive
  | deviceActive (deviceId : Uuid)
  | terminalActive
  | terminalDeviceActive (deviceId : Uuid)
  | connectionTestRate (endpoint : Endpoint)
  | terminalRate (deviceId : Uuid)
  | authenticationFailures (endpoint : Endpoint)
  deriving DecidableEq

/-- The texts: the fingerprint of a permit, or the mark of a cooldown. -/
inductive GateText where
  | fingerprint (operation : ConnectionOperation) (target : ConnectionTarget)
  | mark
  deriving DecidableEq

/-- The text that the key of a permit holds. -/
def permitFingerprint (permit : ConnectionPermit) : GateText :=
  .fingerprint permit.operation permit.target

/-- `_rate_limit`: the window that rations an operation, and how many it admits. -/
def rateLimit (settings : GateSettings) (operation : ConnectionOperation)
    (target : ConnectionTarget) : Option (SetKey × ℕ) :=
  match operation with
  | .connectionTest => some (.connectionTestRate target.endpoint, settings.connectionTestRateLimit)
  | .terminal => target.deviceId.map fun deviceId =>
    (.terminalRate deviceId, settings.terminalOpenRateLimit)
  | .structuredRead | .structuredWrite => none

/-- `_active_keys`. -/
def activeKeys (permit : ConnectionPermit) : List SetKey :=
  .globalActive :: (permit.target.deviceId.map SetKey.deviceActive).toList ++
    if permit.operation = .terminal then
      .terminalActive :: (permit.target.deviceId.map SetKey.terminalDeviceActive).toList
    else []

/-- A terminal session is on a registered device. -/
def namesDevice (permit : ConnectionPermit) : Bool :=
  !(permit.operation == .terminal && permit.target.deviceId.isNone)

/-- Too many connections in the window. -/
def DeviceConnectionRateLimitedError : AppError := { code := "device_connection_rate_limited" }

/-- Too many failed logins, and the endpoint rests. -/
def DeviceAuthenticationRateLimitedError : AppError :=
  { code := "device_authentication_rate_limited" }

/-- Too many connections at a time. -/
def DeviceConnectionLimitReachedError : AppError := { code := "device_connection_limit_reached" }

/-- Too many terminal sessions at a time. -/
def TerminalSessionLimitReachedError : AppError := { code := "terminal_session_limit_reached" }

/-! ## Callbacks -/

/-- A callback of the gate stops with an error, or because there is nothing to do. -/
abbrev GateCallback := Callback TextKey SetKey GateText Uuid (Except AppError Unit)

/-- A command of the gate's transactions. -/
abbrev GateCommand := StoreCommand TextKey SetKey GateText Uuid

/-- What the gate keeps in the store. -/
abbrev GateStore := Store TextKey SetKey GateText Uuid

/-- An error is raised unless fewer than `limit` members of a set have a score above a time. -/
def below (key : SetKey) (above : ℤ) (limit : ℕ) (error : AppError) (next : GateCallback) :
    GateCallback :=
  .zcount key above fun count => if limit ≤ count then .stop (.error error) else next

variable (settings : GateSettings)

/-- The commands that admit a permit. -/
def admission (permit : ConnectionPermit) (now : ℤ) : List GateCommand :=
  (rateLimit settings permit.operation permit.target).toList.flatMap (fun rate =>
    enter (now - settings.rateWindow) permit.identifier now settings.rateWindow rate.1) ++
  .set (.permit permit.identifier) (permitFingerprint permit) settings.permitTtl ::
  (activeKeys permit).flatMap
    (enter now permit.identifier (now + settings.permitTtl) settings.permitTtl)

/-- The check of the rate of an operation. -/
def checkRate (permit : ConnectionPermit) (now : ℤ) (next : GateCallback) : GateCallback :=
  match rateLimit settings permit.operation permit.target with
  | some (key, limit) =>
    below key (now - settings.rateWindow) limit DeviceConnectionRateLimitedError next
  | none => next

/-- The checks of the number of terminal sessions. -/
def checkTerminal (permit : ConnectionPermit) (now : ℤ) (next : GateCallback) : GateCallback :=
  match permit.operation, permit.target.deviceId with
  | .terminal, some deviceId =>
    below .terminalActive now settings.maxTerminalSessions TerminalSessionLimitReachedError <|
    below (.terminalDeviceActive deviceId) now settings.maxTerminalSessionsPerDevice
      TerminalSessionLimitReachedError next
  | _, _ => next

/-- The check of the number of connections to a device. -/
def checkDevice (permit : ConnectionPermit) (now : ℤ) (next : GateCallback) : GateCallback :=
  match permit.target.deviceId with
  | some deviceId =>
    below (.deviceActive deviceId) now settings.maxConnectionsPerDevice
      DeviceConnectionLimitReachedError next
  | none => next

/-- `acquire.admit`. -/
def admitPermit (permit : ConnectionPermit) (now : ℤ) : GateCallback :=
  .get (.authenticationCooldown permit.target.endpoint) fun cooldown =>
    if cooldown.isSome then .stop (.error DeviceAuthenticationRateLimitedError)
    else
      checkRate settings permit now <|
      below .globalActive now settings.maxDeviceConnections DeviceConnectionLimitReachedError <|
      checkTerminal settings permit now <|
      checkDevice settings permit now <|
      .commit (admission settings permit now)

/-- The commands that record a failure after a number of them. -/
def failureCommands (target : ConnectionTarget) (identifier : Uuid) (now : ℤ) (failures : ℕ) :
    List GateCommand :=
  enter (now - settings.failureWindow) identifier now settings.failureWindow
      (.authenticationFailures target.endpoint) ++
    if settings.authenticationFailureLimit ≤ failures + 1 then
      [.set (.authenticationCooldown target.endpoint) .mark settings.cooldown]
    else []

/-- `authentication_failed.record_failure`. -/
def recordFailure (target : ConnectionTarget) (identifier : Uuid) (now : ℤ) : GateCallback :=
  .zcount (.authenticationFailures target.endpoint) (now - settings.failureWindow) fun failures =>
    .commit (failureCommands settings target identifier now failures)

/-- The commands that release a permit. -/
def releaseCommands (permit : ConnectionPermit) : List GateCommand :=
  .delete (.permit permit.identifier) ::
    (activeKeys permit).map fun key => .zrem key permit.identifier

/-- `release.release_permit`. -/
def releasePermit (permit : ConnectionPermit) : GateCallback :=
  .get (.permit permit.identifier) fun stored =>
    if stored = some (permitFingerprint permit) then
      .commit (releaseCommands permit)
    else .stop (.ok ())

/-! ## The system -/

/-- The requests to the gate that are transactions; `uuid4` draws the identifier of a permit when
it is acquired, and that of a failure. -/
inductive GateRequest where
  | acquire (permit : ConnectionPermit)
  | authenticationFailed (target : ConnectionTarget) (identifier : Uuid)
  | release (permit : ConnectionPermit)
  deriving DecidableEq

/-- `authentication_succeeded`, which is one command. -/
inductive GateOrder where
  | authenticationSucceeded (target : ConnectionTarget)

/-- A transaction of the gate, which ends well or with a denial. -/
abbrev GateTransaction := Transaction TextKey SetKey GateText Uuid (Except AppError Unit)

/-- A request that names no device where one is required. -/
def unavailable : GateTransaction where
  watched := []
  body _ := .stop (.error ConnectionGateUnavailableError)
  readsOnly _ := trivial

/-- The keys `acquire` watches. -/
def acquireWatched (permit : ConnectionPermit) : List (TextKey ⊕ SetKey) :=
  .inl (.authenticationCooldown permit.target.endpoint) :: .inl (.permit permit.identifier) ::
    (activeKeys permit).map .inr ++
      ((rateLimit settings permit.operation permit.target).map fun rate => .inr rate.1).toList

/-! ### What is read is watched -/

/-- A check of a watched set reads only what is watched. -/
lemma readsOnly_below {watched : List (TextKey ⊕ SetKey)} {key : SetKey} {above : ℤ} {limit : ℕ}
    {error : AppError} {next : GateCallback} (hkey : .inr key ∈ watched)
    (h : next.ReadsOnly watched) : (below key above limit error next).ReadsOnly watched := by
  refine ⟨hkey, fun count => ?_⟩
  simp only
  split
  · trivial
  · exact h

variable {settings} {permit : ConnectionPermit} {now : ℤ}

/-- The sets of a permit are watched while it is acquired. -/
lemma mem_acquireWatched {key : SetKey} (h : key ∈ activeKeys permit) :
    .inr key ∈ acquireWatched settings permit :=
  List.mem_append_left _ (List.mem_cons_of_mem _ (List.mem_cons_of_mem _
    (List.mem_map_of_mem h)))

/-- Every permit is in the set of all connections. -/
lemma globalActive_mem : SetKey.globalActive ∈ activeKeys permit := List.mem_cons_self

/-- The permit of a device is in the set of this device. -/
lemma deviceActive_mem {deviceId : Uuid} (h : permit.target.deviceId = some deviceId) :
    SetKey.deviceActive deviceId ∈ activeKeys permit := by
  simp [activeKeys, h]

/-- The permit of a terminal is in the set of all terminals. -/
lemma terminalActive_mem (h : permit.operation = .terminal) :
    SetKey.terminalActive ∈ activeKeys permit := by
  simp [activeKeys, h]

/-- The permit of a device's terminal is in the set of this device's terminals. -/
lemma terminalDeviceActive_mem {deviceId : Uuid} (h : permit.operation = .terminal)
    (hdevice : permit.target.deviceId = some deviceId) :
    SetKey.terminalDeviceActive deviceId ∈ activeKeys permit := by
  simp [activeKeys, h, hdevice]

/-- A permit is admitted by reading keys that are watched. -/
lemma readsOnly_admitPermit (permit : ConnectionPermit) (now : ℤ) :
    (admitPermit settings permit now).ReadsOnly (acquireWatched settings permit) := by
  have hdevice : (checkDevice settings permit now (.commit (admission settings permit now))).ReadsOnly
      (acquireWatched settings permit) := by
    rw [checkDevice]
    split
    · next deviceId heq =>
      exact readsOnly_below (mem_acquireWatched (deviceActive_mem heq)) trivial
    · trivial
  have hterminal : (checkTerminal settings permit now
      (checkDevice settings permit now (.commit (admission settings permit now)))).ReadsOnly
      (acquireWatched settings permit) := by
    rw [checkTerminal]
    split
    · next deviceId hoperation heq =>
      exact readsOnly_below (mem_acquireWatched (terminalActive_mem hoperation))
        (readsOnly_below (mem_acquireWatched (terminalDeviceActive_mem hoperation heq)) hdevice)
    · exact hdevice
  have hglobal : (below .globalActive now settings.maxDeviceConnections
      DeviceConnectionLimitReachedError (checkTerminal settings permit now
        (checkDevice settings permit now (.commit (admission settings permit now))))).ReadsOnly
      (acquireWatched settings permit) :=
    readsOnly_below (mem_acquireWatched globalActive_mem) hterminal
  refine ⟨List.mem_cons_self, fun cooldown => ?_⟩
  beta_reduce
  split
  · trivial
  · rw [checkRate]
    split
    · next key limit heq =>
      refine readsOnly_below ?_ hglobal
      rw [acquireWatched, heq]
      exact List.mem_append_right _ (List.mem_singleton_self _)
    · exact hglobal

variable (settings)

/-- `RedisConnectionGate.acquire`. -/
def acquire (permit : ConnectionPermit) : GateTransaction :=
  if namesDevice permit then
    { watched := acquireWatched settings permit
      body := admitPermit settings permit
      readsOnly := readsOnly_admitPermit permit }
  else unavailable

/-- `RedisConnectionGate.authentication_failed`. -/
def authenticationFailed (target : ConnectionTarget) (identifier : Uuid) : GateTransaction where
  watched := [.inr (.authenticationFailures target.endpoint),
    .inl (.authenticationCooldown target.endpoint)]
  body := recordFailure settings target identifier
  readsOnly _ := ⟨List.mem_cons_self, fun _ => trivial⟩

/-- `RedisConnectionGate.release`. -/
def release (permit : ConnectionPermit) : GateTransaction :=
  if namesDevice permit then
    { watched := .inl (.permit permit.identifier) :: (activeKeys permit).map .inr
      body := fun _ => releasePermit permit
      readsOnly := fun _ => ⟨List.mem_cons_self, fun stored => by
        beta_reduce
        split <;> trivial⟩ }
  else unavailable

/-- The connection gate. -/
def gate : System TextKey SetKey GateText Uuid (Except AppError Unit) GateRequest GateOrder Uuid where
  transaction
    | .acquire permit => acquire settings permit
    | .authenticationFailed target identifier => authenticationFailed settings target identifier
    | .release permit => release permit
  order
    | .authenticationSucceeded target => [.deleteSet (.authenticationFailures target.endpoint)]
  drawn
    | .acquire permit => some permit.identifier
    | .authenticationFailed _ identifier => some identifier
    | .release _ => none
  attempts := 8

/-! ### What a transaction that is performed has found -/

variable {settings}

/-- A check lets through what is below the limit and passes what follows. -/
lemma eval_below {key : SetKey} {above : ℤ} {limit : ℕ} {error : AppError} {next : GateCallback}
    {store : GateStore} {commands : List GateCommand} :
    (below key above limit error next).eval store = .ok commands ↔
      store.zcount key above < limit ∧ next.eval store = .ok commands := by
  rw [below, Callback.eval]
  split
  · next h =>
    rw [Callback.eval]
    exact iff_of_false (by simp) (by omega)
  · next h => exact ⟨fun heval => ⟨by omega, heval⟩, fun heval => heval.2⟩

/-- What `acquire` has found when its commands are performed. -/
structure Admits (settings : GateSettings) (store : GateStore) (permit : ConnectionPermit)
    (now : ℤ) : Prop where
  names_device : namesDevice permit = true
  cooldown : store.get (.authenticationCooldown permit.target.endpoint) = none
  rate : ∀ key limit, rateLimit settings permit.operation permit.target = some (key, limit) →
    store.zcount key (now - settings.rateWindow) < limit
  overall : store.zcount .globalActive now < settings.maxDeviceConnections
  terminal : permit.operation = .terminal →
    store.zcount .terminalActive now < settings.maxTerminalSessions
  terminalDevice : permit.operation = .terminal → ∀ deviceId,
    permit.target.deviceId = some deviceId →
      store.zcount (.terminalDeviceActive deviceId) now < settings.maxTerminalSessionsPerDevice
  device : ∀ deviceId, permit.target.deviceId = some deviceId →
    store.zcount (.deviceActive deviceId) now < settings.maxConnectionsPerDevice

/-- The check of the rate lets through what is below the limit of its key. -/
lemma eval_checkRate {next : GateCallback} {store : GateStore} {commands : List GateCommand}
    (h : (checkRate settings permit now next).eval store = .ok commands) :
    (∀ key limit, rateLimit settings permit.operation permit.target = some (key, limit) →
      store.zcount key (now - settings.rateWindow) < limit) ∧ next.eval store = .ok commands := by
  rw [checkRate] at h
  split at h
  · next key limit heq =>
    obtain ⟨hcount, hnext⟩ := eval_below.mp h
    refine ⟨fun key' limit' heq' => ?_, hnext⟩
    obtain ⟨rfl, rfl⟩ := Prod.mk.inj (Option.some.inj (heq.symm.trans heq'))
    exact hcount
  · next heq =>
    refine ⟨fun key' limit' heq' => ?_, h⟩
    rw [heq] at heq'
    cases heq'

/-- The checks of a terminal let through what is below the limits on terminals. -/
lemma eval_checkTerminal {next : GateCallback} {store : GateStore} {commands : List GateCommand}
    (hdevice : namesDevice permit = true)
    (h : (checkTerminal settings permit now next).eval store = .ok commands) :
    (permit.operation = .terminal →
      store.zcount .terminalActive now < settings.maxTerminalSessions) ∧
    (permit.operation = .terminal → ∀ deviceId, permit.target.deviceId = some deviceId →
      store.zcount (.terminalDeviceActive deviceId) now <
        settings.maxTerminalSessionsPerDevice) ∧ next.eval store = .ok commands := by
  rw [checkTerminal] at h
  split at h
  · next deviceId hoperation heq =>
    obtain ⟨hterminal, h⟩ := eval_below.mp h
    obtain ⟨hterminalDevice, hnext⟩ := eval_below.mp h
    refine ⟨fun _ => hterminal, fun _ deviceId' heq' => ?_, hnext⟩
    obtain rfl := Option.some.inj (heq.symm.trans heq')
    exact hterminalDevice
  · next hother =>
    have hnot : permit.operation ≠ .terminal := by
      intro hoperation
      cases heq : permit.target.deviceId with
      | some deviceId => exact hother deviceId hoperation heq
      | none => simp [namesDevice, hoperation, heq] at hdevice
    exact ⟨fun hoperation => absurd hoperation hnot, fun hoperation => absurd hoperation hnot, h⟩

/-- The check of the device lets through what is below the limit on its connections. -/
lemma eval_checkDevice {next : GateCallback} {store : GateStore} {commands : List GateCommand}
    (h : (checkDevice settings permit now next).eval store = .ok commands) :
    (∀ deviceId, permit.target.deviceId = some deviceId →
      store.zcount (.deviceActive deviceId) now < settings.maxConnectionsPerDevice) ∧
    next.eval store = .ok commands := by
  rw [checkDevice] at h
  split at h
  · next deviceId heq =>
    obtain ⟨hcount, hnext⟩ := eval_below.mp h
    refine ⟨fun deviceId' heq' => ?_, hnext⟩
    obtain rfl := Option.some.inj (heq.symm.trans heq')
    exact hcount
  · next heq =>
    refine ⟨fun deviceId heq' => ?_, h⟩
    rw [heq] at heq'
    cases heq'

/-- A permit is admitted within the limits. -/
lemma admits_of_eval {store : GateStore} {commands : List GateCommand}
    (h : ((acquire settings permit).body now).eval store = .ok commands) :
    Admits settings store permit now ∧ commands = admission settings permit now := by
  rw [acquire] at h
  split at h
  · next hdevice =>
    change (admitPermit settings permit now).eval store = .ok commands at h
    rw [admitPermit, Callback.eval] at h
    split at h
    · cases h
    · next hcooldown =>
      obtain ⟨hrate, h⟩ := eval_checkRate h
      obtain ⟨hoverall, h⟩ := eval_below.mp h
      obtain ⟨hterminal, hterminalDevice, h⟩ := eval_checkTerminal hdevice h
      obtain ⟨hper, h⟩ := eval_checkDevice h
      refine ⟨⟨hdevice, by simpa using hcooldown, hrate, hoverall, hterminal, hterminalDevice,
        hper⟩, ?_⟩
      exact (Except.ok.inj h).symm
  · cases h

/-- A permit is released where it is stored. -/
lemma eval_release {store : GateStore} {commands : List GateCommand}
    (h : ((release permit).body now).eval store = .ok commands) :
    store.get (.permit permit.identifier) = some (permitFingerprint permit) ∧
      commands = releaseCommands permit := by
  rw [release] at h
  split at h
  · change (releasePermit permit).eval store = .ok commands at h
    rw [releasePermit, Callback.eval] at h
    split at h
    · next hstored => exact ⟨hstored, (Except.ok.inj h).symm⟩
    · cases h
  · cases h

/-- A failure is recorded with the number of failures in the window before it. -/
lemma eval_authenticationFailed {target : ConnectionTarget} {identifier : Uuid}
    {store : GateStore} {commands : List GateCommand}
    (h : ((authenticationFailed settings target identifier).body now).eval store = .ok commands) :
    commands = failureCommands settings target identifier now
      (store.zcount (.authenticationFailures target.endpoint) (now - settings.failureWindow)) :=
  (Except.ok.inj h).symm

/-! ### What is performed -/

/-- A permit is put into each of its sets once. -/
lemma nodup_activeKeys (permit : ConnectionPermit) : (activeKeys permit).Nodup := by
  rw [activeKeys]
  cases permit.target.deviceId with
  | none => split <;> simp
  | some deviceId => split <;> simp

/-- The sets that count permits. -/
def SetKey.isActive : SetKey → Bool
  | .globalActive | .deviceActive _ | .terminalActive | .terminalDeviceActive _ => true
  | .connectionTestRate _ | .terminalRate _ | .authenticationFailures _ => false

/-- The sets of a permit count connections that are open. -/
lemma isActive_of_mem {key : SetKey} (h : key ∈ activeKeys permit) : key.isActive = true := by
  rw [activeKeys] at h
  cases hdevice : permit.target.deviceId with
  | none =>
    simp only [hdevice, Option.map_none, Option.toList_none] at h
    split at h
    · simp only [List.cons_append, List.nil_append, List.mem_cons, List.not_mem_nil, or_false] at h
      rcases h with rfl | rfl <;> rfl
    · simp only [List.append_nil, List.mem_singleton] at h
      rw [h]
      rfl
  | some deviceId =>
    simp only [hdevice, Option.map_some, Option.toList_some] at h
    split at h
    · simp only [List.cons_append, List.nil_append, List.mem_cons, List.not_mem_nil, or_false] at h
      rcases h with rfl | rfl | rfl | rfl <;> rfl
    · simp only [List.append_nil, List.mem_cons, List.not_mem_nil, or_false] at h
      rcases h with rfl | rfl <;> rfl

/-- The sets of the rates do not count connections that are open. -/
lemma isActive_rateLimit {operation : ConnectionOperation} {target : ConnectionTarget}
    {key : SetKey} {limit : ℕ} (h : rateLimit settings operation target = some (key, limit)) :
    key.isActive = false := by
  cases operation with
  | connectionTest =>
    obtain ⟨rfl, -⟩ := Prod.mk.inj (Option.some.inj h)
    rfl
  | terminal =>
    obtain ⟨deviceId, -, heq⟩ := Option.map_eq_some_iff.mp h
    obtain ⟨rfl, -⟩ := Prod.mk.inj heq
    rfl
  | structuredRead => cases h
  | structuredWrite => cases h

/-- The rate of a connection is not counted in the set of failed logins. -/
lemma isFailures_rateLimit {operation : ConnectionOperation} {target : ConnectionTarget}
    {limit : ℕ} {endpoint : Endpoint} :
    rateLimit settings operation target ≠ some (.authenticationFailures endpoint, limit) := by
  intro h
  cases operation with
  | connectionTest => cases (Prod.mk.inj (Option.some.inj h)).1
  | terminal =>
    obtain ⟨deviceId, -, heq⟩ := Option.map_eq_some_iff.mp h
    cases (Prod.mk.inj heq).1
  | structuredRead => cases h
  | structuredWrite => cases h

section Performed

variable {clock : ℤ} {store : GateStore}

/-- Admitting a permit stores its fingerprint. -/
lemma texts_admission (key : TextKey) :
    (performAll clock store (admission settings permit now)).texts key =
      if key = .permit permit.identifier then
        ⟨some (permitFingerprint permit), some (clock + settings.permitTtl)⟩
      else store.texts key := by
  rw [admission, performAll_append, performAll_cons, texts_performAll_enterAll]
  by_cases h : key = .permit permit.identifier
  · rw [if_pos h, h]
    exact Function.update_self _ _ _
  · rw [if_neg h]
    refine (Function.update_of_ne h _ _).trans ?_
    refine texts_performAll fun command hcommand heq => ?_
    obtain ⟨rate, -, hcommand⟩ := List.mem_flatMap.mp hcommand
    simp only [enter, List.mem_cons, List.not_mem_nil, or_false] at hcommand
    rcases hcommand with rfl | rfl | rfl <;> cases heq

/-- Admitting a permit enters it into the window that rations it. -/
lemma sets_rate (key : SetKey) :
    (performAll clock store ((rateLimit settings permit.operation permit.target).toList.flatMap
      fun rate => enter (now - settings.rateWindow) permit.identifier now settings.rateWindow
        rate.1)).sets key =
      if (rateLimit settings permit.operation permit.target).map Prod.fst = some key then
        entered clock (now - settings.rateWindow) permit.identifier now settings.rateWindow
          (store.sets key)
      else store.sets key := by
  cases h : rateLimit settings permit.operation permit.target with
  | none => rfl
  | some rate =>
    rw [Option.toList_some, List.flatMap_cons, List.flatMap_nil, List.append_nil,
      sets_performAll_enter, Option.map_some]
    by_cases hkey : key = rate.1
    · rw [if_pos hkey, if_pos (congrArg some hkey.symm), hkey]
    · rw [if_neg hkey, if_neg fun heq => hkey (Option.some.inj heq).symm]

/-- Admitting a permit enters it into the sets that count it. -/
lemma sets_admission_active {key : SetKey} (h : key.isActive = true) :
    (performAll clock store (admission settings permit now)).sets key =
      if key ∈ activeKeys permit then
        entered clock now permit.identifier (now + settings.permitTtl) settings.permitTtl
          (store.sets key)
      else store.sets key := by
  rw [admission, performAll_append, performAll_cons, sets_performAll_enterAll (nodup_activeKeys _)]
  have hrate : (rateLimit settings permit.operation permit.target).map Prod.fst ≠ some key := by
    intro heq
    obtain ⟨⟨key', limit⟩, hlimit, rfl⟩ := Option.map_eq_some_iff.mp heq
    rw [isActive_rateLimit hlimit] at h
    cases h
  have hsame : (perform clock (performAll clock store
      ((rateLimit settings permit.operation permit.target).toList.flatMap fun rate =>
        enter (now - settings.rateWindow) permit.identifier now settings.rateWindow rate.1))
      (.set (.permit permit.identifier) (permitFingerprint permit) settings.permitTtl)).sets key =
      store.sets key := (sets_rate key).trans (if_neg hrate)
  rw [hsame]

/-- The other sets change only by the window that rations the operation. -/
lemma sets_admission_inactive {key : SetKey} (h : key.isActive = false) :
    (performAll clock store (admission settings permit now)).sets key =
      if (rateLimit settings permit.operation permit.target).map Prod.fst = some key then
        entered clock (now - settings.rateWindow) permit.identifier now settings.rateWindow
          (store.sets key)
      else store.sets key := by
  rw [admission, performAll_append, performAll_cons, sets_performAll_enterAll (nodup_activeKeys _)]
  have hnot : key ∉ activeKeys permit := by
    intro hmem
    rw [isActive_of_mem hmem] at h
    cases h
  rw [if_neg hnot]
  exact sets_rate key

/-- A release deletes the text of the permit. -/
lemma texts_release (key : TextKey) :
    (performAll clock store (releaseCommands permit)).texts key =
      if key = .permit permit.identifier then absent else store.texts key := by
  rw [releaseCommands, performAll_cons]
  have hzrem : ∀ store : GateStore, (performAll clock store
      ((activeKeys permit).map fun key => .zrem key permit.identifier)).texts key =
      store.texts key := by
    refine fun store => texts_performAll fun command hcommand heq => ?_
    obtain ⟨key', -, rfl⟩ := List.mem_map.mp hcommand
    cases heq
  rw [hzrem]
  by_cases h : key = .permit permit.identifier
  · rw [if_pos h, h]
    exact Function.update_self _ _ _
  · rw [if_neg h]
    exact Function.update_of_ne h _ _

/-- A release takes the permit out of the sets that count it. -/
lemma sets_release (key : SetKey) :
    (performAll clock store (releaseCommands permit)).sets key =
      if key ∈ activeKeys permit then
        nonempty { store.sets key with
          value := (store.sets key).value.filter fun member => member.1 ≠ permit.identifier }
      else store.sets key :=
  sets_performAll_leaveAll (nodup_activeKeys permit) key

/-- A release takes the permit out of its sets, and nothing else out of any. -/
lemma members_release (key : SetKey) :
    (performAll clock store (releaseCommands permit)).members key =
      if key ∈ activeKeys permit then
        (store.members key).filter fun member => member.1 ≠ permit.identifier
      else store.members key := by
  rw [Store.members, sets_release]
  split
  · exact nonempty_value _
  · rfl

/-- A release does not change how long a set is kept. -/
lemma expiresAt_release {key : SetKey} {member : Uuid × ℤ}
    (h : member ∈ (performAll clock store (releaseCommands permit)).members key) :
    ((performAll clock store (releaseCommands permit)).sets key).expiresAt =
      (store.sets key).expiresAt := by
  rw [Store.members, sets_release] at h
  rw [sets_release]
  by_cases hkey : key ∈ activeKeys permit
  · rw [if_pos hkey] at h ⊢
    rw [nonempty_value] at h
    rw [nonempty, if_neg (List.ne_nil_of_mem h)]
  · rw [if_neg hkey]

/-- Recording a failure changes the failures of its endpoint. -/
lemma sets_failure {target : ConnectionTarget} {identifier : Uuid} {failures : ℕ} (key : SetKey) :
    (performAll clock store (failureCommands settings target identifier now failures)).sets key =
      if key = .authenticationFailures target.endpoint then
        entered clock (now - settings.failureWindow) identifier now settings.failureWindow
          (store.sets (.authenticationFailures target.endpoint))
      else store.sets key := by
  have hcooldown : ∀ store : GateStore, (performAll clock store
      (if settings.authenticationFailureLimit ≤ failures + 1 then
        [.set (.authenticationCooldown target.endpoint) .mark settings.cooldown]
      else [])).sets key = store.sets key := by
    intro store
    split <;> rfl
  rw [failureCommands, performAll_append, hcooldown, sets_performAll_enter]

/-- Recording a failure may begin a cooldown of its endpoint. -/
lemma texts_failure {target : ConnectionTarget} {identifier : Uuid} {failures : ℕ}
    (key : TextKey) :
    (performAll clock store (failureCommands settings target identifier now failures)).texts key =
      if key = .authenticationCooldown target.endpoint ∧
        settings.authenticationFailureLimit ≤ failures + 1 then
        ⟨some .mark, some (clock + settings.cooldown)⟩
      else store.texts key := by
  have henter : (performAll clock store (enter (now - settings.failureWindow) identifier now
      settings.failureWindow (.authenticationFailures target.endpoint))).texts key =
      store.texts key := by
    refine texts_performAll fun command hcommand heq => ?_
    simp only [enter, List.mem_cons, List.not_mem_nil, or_false] at hcommand
    rcases hcommand with rfl | rfl | rfl <;> cases heq
  rw [failureCommands, performAll_append]
  by_cases hlimit : settings.authenticationFailureLimit ≤ failures + 1
  · rw [if_pos hlimit, performAll_cons, performAll_nil]
    by_cases hkey : key = .authenticationCooldown target.endpoint
    · rw [if_pos ⟨hkey, hlimit⟩, hkey]
      exact Function.update_self _ _ _
    · rw [if_neg fun h => hkey h.1]
      exact (Function.update_of_ne hkey _ _).trans henter
  · rw [if_neg hlimit, performAll_nil, if_neg fun h => hlimit h.2]
    exact henter

end Performed

/-! ### What can become of the core -/

/-- What the gate keeps, and what it has done. -/
abbrev GateCore := Core TextKey SetKey GateText Uuid GateRequest GateOrder

/-- The core after commands that were performed. -/
abbrev performed (core : GateCore) (commands : List GateCommand)
    (event : Event GateRequest GateOrder) : GateCore :=
  (core.write core.clock (performAll core.clock core.store commands)).note event

/-- No key that a request watches was changed after a time. -/
def QuietSince (settings : GateSettings) (core : GateCore) (request : GateRequest) (now : ℤ) :
    Prop :=
  ∀ key ∈ ((gate settings).transaction request).watched, core.changedAt key ≤ now

/-- One step of the gate, of whichever client. -/
inductive GateStep (settings : GateSettings) (core : GateCore) : GateCore → Prop where
  | quiet : GateStep settings core core
  | tick (duration : ℕ) : GateStep settings core
      (core.write (core.clock + duration) (core.store.purge (core.clock + duration)))
  | acquire {permit : ConnectionPermit} {now : ℤ} (hadmits : Admits settings core.store permit now)
      (hnow : now ≤ core.clock) (hquiet : QuietSince settings core (.acquire permit) now)
      (hfresh : permit.identifier ∉ core.drawn (gate settings)) : GateStep settings core
        (performed core (admission settings permit now) (.committed (.acquire permit) now core.clock))
  | failed {target : ConnectionTarget} {identifier : Uuid} {now : ℤ} (hnow : now ≤ core.clock)
      (hquiet : QuietSince settings core (.authenticationFailed target identifier) now)
      (hfresh : identifier ∉ core.drawn (gate settings)) : GateStep settings core
        (performed core (failureCommands settings target identifier now
          (core.store.zcount (.authenticationFailures target.endpoint)
            (now - settings.failureWindow)))
          (.committed (.authenticationFailed target identifier) now core.clock))
  | release {permit : ConnectionPermit} {now : ℤ}
      (hstored : core.store.get (.permit permit.identifier) = some (permitFingerprint permit)) :
      GateStep settings core
        (performed core (releaseCommands permit) (.committed (.release permit) now core.clock))
  | succeeded (target : ConnectionTarget) : GateStep settings core
      (performed core [.deleteSet (.authenticationFailures target.endpoint)]
        (.ordered (.authenticationSucceeded target) core.clock))

/-- What becomes of the core is a step of the gate. -/
lemma gateStep_of_evolves {core core' : GateCore} (h : Core.Evolves (gate settings) core core') :
    GateStep settings core core' := by
  cases h with
  | quiet => exact .quiet
  | tick duration => exact .tick duration
  | @commit request now commands heval hnow hchanged hfresh =>
    cases request with
    | acquire permit =>
      obtain ⟨hadmits, rfl⟩ := admits_of_eval heval
      exact .acquire hadmits hnow hchanged (hfresh _ rfl)
    | authenticationFailed target identifier =>
      obtain rfl := eval_authenticationFailed heval
      exact .failed hnow hchanged (hfresh _ rfl)
    | release permit =>
      obtain ⟨hstored, rfl⟩ := eval_release heval
      exact .release hstored
  | order order =>
    cases order with
    | authenticationSucceeded target => exact .succeeded target

end Terraformer.Admission
