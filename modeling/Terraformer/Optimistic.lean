import Terraformer.Expiring
import Terraformer.Transitions

/-!
# Optimistic transactions

Clients work on one store of expiring keys.  A transaction watches keys, asks the server for the
time, reads, and then has its commands performed at once, unless a watched key has changed since;
then it is tried again.  Between any two of these steps other clients may take theirs.

What the clients have done to the store is its `Core`: the store and the log of what was performed.
`evolves_of_step` says that each step of a client leaves the core alone or changes it as an atomic
transaction would (`Core.Evolves`): the reads come to what they would come to at the time of the
commands, and no watched key has changed since the time that was asked for.
-/

namespace Terraformer

namespace Optimistic

open Expiring

variable {σ ζ ν μ ρ R D ι C : Type}

/-! ## Transactions -/

/-- What a client does after it has asked for the time. -/
inductive Callback (σ ζ ν μ ρ : Type) where
  /-- Nothing is performed. -/
  | stop (result : ρ)
  | commit (commands : List (StoreCommand σ ζ ν μ))
  | get (key : σ) (next : Option ν → Callback σ ζ ν μ ρ)
  | zcount (key : ζ) (above : ℤ) (next : ℕ → Callback σ ζ ν μ ρ)

namespace Callback

/-- What the reads come to on one store. -/
def eval (store : Store σ ζ ν μ) : Callback σ ζ ν μ ρ → Except ρ (List (StoreCommand σ ζ ν μ))
  | .stop result => .error result
  | .commit commands => .ok commands
  | .get key next => (next (store.get key)).eval store
  | .zcount key above next => (next (store.zcount key above)).eval store

/-- Every key that is read is watched. -/
def ReadsOnly (watched : List (σ ⊕ ζ)) : Callback σ ζ ν μ ρ → Prop
  | .stop _ | .commit _ => True
  | .get key next => .inl key ∈ watched ∧ ∀ value, (next value).ReadsOnly watched
  | .zcount key _ next => .inr key ∈ watched ∧ ∀ count, (next count).ReadsOnly watched

end Callback

/-- The two stores hold the same under a key. -/
def SameAt (store store' : Store σ ζ ν μ) : σ ⊕ ζ → Prop
  | .inl key => store'.texts key = store.texts key
  | .inr key => store'.sets key = store.sets key

/-- Whether two stores agree at a key can be decided. -/
instance [DecidableEq ν] [DecidableEq μ] (store store' : Store σ ζ ν μ) :
    DecidablePred (SameAt store store')
  | .inl key => inferInstanceAs (Decidable (store'.texts key = store.texts key))
  | .inr key => inferInstanceAs (Decidable (store'.sets key = store.sets key))

/-- A store agrees with itself. -/
lemma sameAt_refl {store : Store σ ζ ν μ} (key : σ ⊕ ζ) : SameAt store store key := by
  cases key with
  | inl key => rfl
  | inr key => rfl

/-- Stores that hold the same under the watched keys are read alike. -/
lemma Callback.eval_congr {store store' : Store σ ζ ν μ} {watched : List (σ ⊕ ζ)}
    (hsame : ∀ key ∈ watched, SameAt store store' key) {callback : Callback σ ζ ν μ ρ}
    (h : callback.ReadsOnly watched) : callback.eval store' = callback.eval store := by
  induction callback with
  | stop | commit => rfl
  | get key next ih =>
    have hkey : store'.get key = store.get key := congrArg Timed.value (hsame _ h.1)
    rw [eval, eval, hkey, ih _ (h.2 _)]
  | zcount key above next ih =>
    have hkey : store'.zcount key above = store.zcount key above := by
      rw [Store.zcount, Store.zcount, Store.members, Store.members]
      rw [show store'.sets key = store.sets key from hsame _ h.1]
    rw [eval, eval, hkey, ih _ (h.2 _)]

/-- The keys a transaction watches, and what it does at the time it is told. -/
structure Transaction (σ ζ ν μ ρ : Type) where
  watched : List (σ ⊕ ζ)
  body : ℤ → Callback σ ζ ν μ ρ
  readsOnly : ∀ now, (body now).ReadsOnly watched

/-- What the clients may ask for: transactions, and orders that are performed without one.  A
request may have drawn an identifier. -/
structure System (σ ζ ν μ ρ R D ι : Type) where
  transaction : R → Transaction σ ζ ν μ ρ
  order : D → List (StoreCommand σ ζ ν μ)
  drawn : R → Option ι
  /-- How often a transaction is tried. -/
  attempts : ℕ

/-! ## The store and its log -/

/-- What has been performed, and when; a transaction with the time it was told. -/
inductive Event (R D : Type) where
  | committed (request : R) (time clock : ℤ)
  | ordered (order : D) (clock : ℤ)

/-- The server's clock and store, when each key was last changed, and the log. -/
structure Core (σ ζ ν μ R D : Type) where
  clock : ℤ
  store : Store σ ζ ν μ
  changedAt : σ ⊕ ζ → ℤ
  log : List (Event R D)

namespace Core

variable [DecidableEq ν] [DecidableEq μ]

/-- Nothing has happened. -/
def initial (clock : ℤ) : Core σ ζ ν μ R D := ⟨clock, Store.empty, fun _ => clock, []⟩

/-- The store is replaced at a time. -/
def write (core : Core σ ζ ν μ R D) (clock : ℤ) (store : Store σ ζ ν μ) : Core σ ζ ν μ R D where
  clock := clock
  store := store
  changedAt key := if SameAt core.store store key then core.changedAt key else clock
  log := core.log

/-- An event is added to the log. -/
def note (core : Core σ ζ ν μ R D) (event : Event R D) : Core σ ζ ν μ R D :=
  { core with log := core.log ++ [event] }

variable (core : Core σ ζ ν μ R D) (clock : ℤ) (store : Store σ ζ ν μ) (event : Event R D)

/-- What is written comes with its clock. -/
@[simp] lemma write_clock : (core.write clock store).clock = clock := rfl

/-- What is written is the new store. -/
@[simp] lemma write_store : (core.write clock store).store = store := rfl

/-- Writing notes nothing. -/
@[simp] lemma write_log : (core.write clock store).log = core.log := rfl

omit [DecidableEq ν] [DecidableEq μ] in
/-- Noting does not move the clock. -/
@[simp] lemma note_clock : (core.note event).clock = core.clock := rfl

omit [DecidableEq ν] [DecidableEq μ] in
/-- Noting does not change the store. -/
@[simp] lemma note_store : (core.note event).store = core.store := rfl

omit [DecidableEq ν] [DecidableEq μ] in
/-- Noting does not change when the keys were changed. -/
@[simp] lemma note_changedAt : (core.note event).changedAt = core.changedAt := rfl

end Core

/-- The identifier that an event's request has drawn. -/
def Event.drawn (system : System σ ζ ν μ ρ R D ι) : Event R D → Option ι
  | .committed request _ _ => system.drawn request
  | .ordered _ _ => none

section Evolves

variable [DecidableEq σ] [DecidableEq ζ] [DecidableEq ν] [DecidableEq μ]
  (system : System σ ζ ν μ ρ R D ι)

/-- What can become of a core: time passes, a transaction is performed, or an order. -/
inductive Core.Evolves : Core σ ζ ν μ R D → Core σ ζ ν μ R D → Prop where
  | quiet (core : Core σ ζ ν μ R D) : Evolves core core
  | tick (core : Core σ ζ ν μ R D) (duration : ℕ) :
      Evolves core (core.write (core.clock + duration) (core.store.purge (core.clock + duration)))
  | commit {core : Core σ ζ ν μ R D} {request : R} {now : ℤ} {commands : List (StoreCommand σ ζ ν μ)}
      (heval : ((system.transaction request).body now).eval core.store = .ok commands)
      (hnow : now ≤ core.clock)
      (hchanged : ∀ key ∈ (system.transaction request).watched, core.changedAt key ≤ now)
      (hfresh : ∀ id, system.drawn request = some id →
        id ∉ core.log.filterMap (Event.drawn system)) :
      Evolves core ((core.write core.clock (performAll core.clock core.store commands)).note
        (.committed request now core.clock))
  | order (core : Core σ ζ ν μ R D) (order : D) :
      Evolves core ((core.write core.clock
        (performAll core.clock core.store (system.order order))).note (.ordered order core.clock))

end Evolves

/-! ## Clients -/

/-- How a request ended. -/
inductive Outcome (ρ : Type) where
  | performed
  | stopped (result : ρ)
  | unavailable

/-- One attempt at a transaction: how many are left with it, and the versions of the keys when it
began to watch them. -/
structure Attempt (σ ζ R : Type) where
  request : R
  left : ℕ
  versions : σ ⊕ ζ → ℕ

/-- Where a client is. -/
inductive Client (σ ζ ν μ ρ R : Type) where
  | idle
  | ready (request : R) (left : ℕ)
  | watching (attempt : Attempt σ ζ R)
  | reading (attempt : Attempt σ ζ R) (now : ℤ) (rest : Callback σ ζ ν μ ρ)
  | ended (request : R) (outcome : Outcome ρ)

/-- The request that a client is at. -/
def Client.request? : Client σ ζ ν μ ρ R → Option R
  | .idle | .ended _ _ => none
  | .ready request _ => some request
  | .watching attempt | .reading attempt _ _ => some attempt.request

/-- The core, how often each key was changed, the requests that were begun, and the clients. -/
structure World (σ ζ ν μ ρ R D C : Type) where
  core : Core σ ζ ν μ R D
  versions : σ ⊕ ζ → ℕ
  begun : List R
  clients : C → Client σ ζ ν μ ρ R

/-- What happens next. -/
inductive Action (R D C : Type) where
  | tick (duration : ℕ)
  | begin (client : C) (request : R)
  /-- `WATCH` -/
  | watch (client : C)
  /-- `TIME` -/
  | time (client : C)
  /-- One read. -/
  | read (client : C)
  /-- `EXEC`, or the end of a callback that performs nothing. -/
  | exec (client : C)
  /-- The server refuses the transaction although no watched key holds anything else. -/
  | refuse (client : C)
  /-- The client fails. -/
  | drop (client : C)
  | order (order : D)

/-- The client that takes a step. -/
def Action.client? : Action R D C → Option C
  | .begin client _ | .watch client | .time client | .read client | .exec client
  | .refuse client | .drop client => some client
  | .tick _ | .order _ => none

namespace World

variable [DecidableEq ν] [DecidableEq μ]

/-- Nothing has happened. -/
def initial (clock : ℤ) : World σ ζ ν μ ρ R D C :=
  ⟨Core.initial clock, fun _ => 0, [], fun _ => .idle⟩

variable (w : World σ ζ ν μ ρ R D C)

/-- The core is replaced. -/
def setCore (core : Core σ ζ ν μ R D) : World σ ζ ν μ ρ R D C where
  core := core
  versions key := if SameAt w.core.store core.store key then w.versions key else w.versions key + 1
  begun := w.begun
  clients := w.clients

variable [DecidableEq C]

/-- A client moves on. -/
def setClient (client : C) (state : Client σ ζ ν μ ρ R) : World σ ζ ν μ ρ R D C :=
  { w with clients := Function.update w.clients client state }

omit [DecidableEq ν] [DecidableEq μ] in
/-- The client is where it was put. -/
@[simp] lemma setClient_self (client : C) (state : Client σ ζ ν μ ρ R) :
    (w.setClient client state).clients client = state :=
  Function.update_self _ _ _

omit [DecidableEq ν] [DecidableEq μ] in
/-- The other clients stay where they are. -/
@[simp] lemma setClient_of_ne {client other : C} (h : other ≠ client)
    (state : Client σ ζ ν μ ρ R) : (w.setClient client state).clients other = w.clients other :=
  Function.update_of_ne h _ _

/-- A transaction that was refused is tried again. -/
def retry (client : C) (attempt : Attempt σ ζ R) : World σ ζ ν μ ρ R D C :=
  if attempt.left ≤ 1 then w.setClient client (.ended attempt.request .unavailable)
  else w.setClient client (.ready attempt.request (attempt.left - 1))

omit [DecidableEq ν] [DecidableEq μ] in
/-- A retry leaves what is shared. -/
lemma retry_core (client : C) (attempt : Attempt σ ζ R) :
    (w.retry client attempt).core = w.core := by
  rw [retry]
  split <;> rfl

end World

section Step

variable [DecidableEq σ] [DecidableEq ζ] [DecidableEq ν] [DecidableEq μ] [DecidableEq ι]
  [DecidableEq C] (system : System σ ζ ν μ ρ R D ι)

/-- No watched key has changed since. -/
def Unchanged (w : World σ ζ ν μ ρ R D C) (attempt : Attempt σ ζ R) : Prop :=
  ∀ key ∈ (system.transaction attempt.request).watched, attempt.versions key = w.versions key

/-- Whether the watched keys are unchanged can be decided. -/
instance (w : World σ ζ ν μ ρ R D C) (attempt : Attempt σ ζ R) :
    Decidable (Unchanged system w attempt) :=
  inferInstanceAs (Decidable (∀ key ∈ _, attempt.versions key = w.versions key))

/-- The identifier the request has drawn is a new one. -/
def Fresh (w : World σ ζ ν μ ρ R D C) (request : R) : Prop :=
  ∀ id ∈ system.drawn request, id ∉ w.begun.filterMap system.drawn

/-- Whether a request is fresh can be decided. -/
instance (w : World σ ζ ν μ ρ R D C) (request : R) : Decidable (Fresh system w request) :=
  inferInstanceAs (Decidable (∀ id ∈ system.drawn request, _))

/-- One step of the server's clock or of a client. -/
def step (w : World σ ζ ν μ ρ R D C) : Action R D C → Option (World σ ζ ν μ ρ R D C)
  | .tick duration =>
    let clock := w.core.clock + duration
    some (w.setCore (w.core.write clock (w.core.store.purge clock)))
  | .begin client request =>
    if (w.clients client).request?.isNone ∧ Fresh system w request then
      some { w.setClient client (.ready request system.attempts) with begun := w.begun ++ [request] }
    else none
  | .watch client =>
    match w.clients client with
    | .ready request left => some (w.setClient client (.watching ⟨request, left, w.versions⟩))
    | _ => none
  | .time client =>
    match w.clients client with
    | .watching attempt =>
      let now := w.core.clock
      let body := (system.transaction attempt.request).body now
      some (w.setClient client (.reading attempt now body))
    | _ => none
  | .read client =>
    match w.clients client with
    | .reading attempt now (.get key next) =>
      some (w.setClient client (.reading attempt now (next (w.core.store.get key))))
    | .reading attempt now (.zcount key above next) =>
      some (w.setClient client (.reading attempt now (next (w.core.store.zcount key above))))
    | _ => none
  | .exec client =>
    match w.clients client with
    | .reading attempt _ (.stop result) =>
      some (w.setClient client (.ended attempt.request (.stopped result)))
    | .reading attempt now (.commit commands) =>
      if Unchanged system w attempt then
        let store := performAll w.core.clock w.core.store commands
        let core := (w.core.write w.core.clock store).note
          (.committed attempt.request now w.core.clock)
        some ((w.setCore core).setClient client (.ended attempt.request .performed))
      else some (w.retry client attempt)
    | _ => none
  | .refuse client =>
    match w.clients client with
    | .reading attempt _ _ => some (w.retry client attempt)
    | _ => none
  | .drop client =>
    match (w.clients client).request? with
    | some request => some (w.setClient client (.ended request .unavailable))
    | none => none
  | .order order =>
    let store := performAll w.core.clock w.core.store (system.order order)
    some (w.setCore ((w.core.write w.core.clock store).note (.ordered order w.core.clock)))

end Step

/-! ## What clients know of the core -/

section Sound

variable [DecidableEq σ] [DecidableEq ζ] [DecidableEq ν] [DecidableEq μ] [DecidableEq ι]
  [DecidableEq C] (system : System σ ζ ν μ ρ R D ι)

/-- The identifiers that were drawn by the requests that were performed. -/
def Core.drawn (core : Core σ ζ ν μ R D) : List ι := core.log.filterMap (Event.drawn system)

/-- What is known of an attempt while the watched keys have not changed: they were last changed
before the time that was asked for, and the reads that were done came to what they would now. -/
structure Reads (w : World σ ζ ν μ ρ R D C) (attempt : Attempt σ ζ R) (now : ℤ)
    (rest : Callback σ ζ ν μ ρ) : Prop where
  now_le : now ≤ w.core.clock
  changedAt : ∀ key, attempt.versions key = w.versions key → w.core.changedAt key ≤ now
  eval : Unchanged system w attempt →
    ((system.transaction attempt.request).body now).eval w.core.store = rest.eval w.core.store
  readsOnly : rest.ReadsOnly (system.transaction attempt.request).watched

/-- What is known of a client. -/
def Follows (w : World σ ζ ν μ ρ R D C) : Client σ ζ ν μ ρ R → Prop
  | .watching attempt => ∀ key, attempt.versions key ≤ w.versions key
  | .reading attempt now rest =>
    (∀ key, attempt.versions key ≤ w.versions key) ∧ Reads system w attempt now rest
  | _ => True

/-- A client is at the request that has drawn the identifier. -/
def HasDrawn (w : World σ ζ ν μ ρ R D C) (client : C) (id : ι) : Prop :=
  ∃ request, (w.clients client).request? = some request ∧ system.drawn request = some id

/-- What holds in every reachable world. -/
structure Sound (w : World σ ζ ν μ ρ R D C) : Prop where
  changedAt_le : ∀ key, w.core.changedAt key ≤ w.core.clock
  follows : ∀ client, Follows system w (w.clients client)
  begun : ∀ client id, HasDrawn system w client id → id ∈ w.begun.filterMap system.drawn
  logged : ∀ id ∈ w.core.drawn system, id ∈ w.begun.filterMap system.drawn
  fresh : ∀ client id, HasDrawn system w client id → id ∉ w.core.drawn system
  apart : ∀ client client' id, HasDrawn system w client id → HasDrawn system w client' id →
    client = client'

variable {system} {w : World σ ζ ν μ ρ R D C}

omit [DecidableEq σ] [DecidableEq ζ] [DecidableEq ν] [DecidableEq μ] [DecidableEq ι]
  [DecidableEq C] in
/-- The invariant holds at the beginning. -/
lemma sound_initial (clock : ℤ) :
    Sound system (World.initial clock : World σ ζ ν μ ρ R D C) where
  changedAt_le _ := le_rfl
  follows _ := trivial
  begun := by
    rintro client id ⟨request, hrequest, -⟩
    cases hrequest
  logged := by
    intro id hid
    cases hid
  fresh := by
    rintro client id ⟨request, hrequest, -⟩
    cases hrequest
  apart := by
    rintro client client' id ⟨request, hrequest, -⟩
    cases hrequest

/-- The core was replaced by one that is later. -/
structure Later (core core' : Core σ ζ ν μ R D) : Prop where
  clock : core.clock ≤ core'.clock
  changedAt : ∀ key, core'.changedAt key =
    if SameAt core.store core'.store key then core.changedAt key else core'.clock

omit [DecidableEq σ] [DecidableEq ζ] [DecidableEq ι] [DecidableEq C] in
/-- What is known of a client stays known when the core is replaced. -/
lemma Follows.setCore {client : Client σ ζ ν μ ρ R} {core : Core σ ζ ν μ R D}
    (hlater : Later w.core core) (h : Follows system w client) :
    Follows system (w.setCore core) client := by
  have hversions : ∀ key, w.versions key ≤ (w.setCore core).versions key := by
    intro key
    simp only [World.setCore]
    split
    · exact le_rfl
    · exact Nat.le_succ _
  cases client with
  | watching attempt => exact fun key => (h key).trans (hversions key)
  | reading attempt now rest =>
    obtain ⟨hle, hreads⟩ := h
    -- a key whose version is still the one of the attempt was not changed
    have hsame : ∀ key, attempt.versions key = (w.setCore core).versions key →
        SameAt w.core.store core.store key ∧ attempt.versions key = w.versions key := by
      intro key heq
      simp only [World.setCore] at heq
      split at heq
      · next hkey => exact ⟨hkey, heq⟩
      · have hkey := hle key
        omega
    refine ⟨fun key => (hle key).trans (hversions key), hreads.now_le.trans hlater.clock, ?_, ?_,
      hreads.readsOnly⟩
    · intro key heq
      obtain ⟨hkey, hbefore⟩ := hsame key heq
      have hchanged := hlater.changedAt key
      rw [if_pos hkey] at hchanged
      exact hchanged.le.trans (hreads.changedAt key hbefore)
    · intro hunchanged
      have hkeys : ∀ key ∈ (system.transaction attempt.request).watched,
          SameAt w.core.store core.store key := fun key hkey => (hsame key (hunchanged key hkey)).1
      have hbefore : Unchanged system w attempt :=
        fun key hkey => (hsame key (hunchanged key hkey)).2
      have hbody := Callback.eval_congr hkeys ((system.transaction attempt.request).readsOnly now)
      have hrest := Callback.eval_congr hkeys hreads.readsOnly
      exact hbody.trans ((hreads.eval hbefore).trans hrest.symm)
  | idle | ready | ended => trivial

omit [DecidableEq σ] [DecidableEq ζ] [DecidableEq ι] [DecidableEq C] in
/-- The invariant survives whatever moves on what is shared, and draws what is fresh. -/
lemma Sound.setCore {core : Core σ ζ ν μ R D} (h : Sound system w) (hlater : Later w.core core)
    (hlogged : ∀ id ∈ core.drawn system, id ∈ w.begun.filterMap system.drawn)
    (hfresh : ∀ client id, HasDrawn system w client id → id ∉ core.drawn system) :
    Sound system (w.setCore core) where
  changedAt_le key := by
    have hchanged := hlater.changedAt key
    have hle := h.changedAt_le key
    have hclock := hlater.clock
    simp only [World.setCore]
    rw [hchanged]
    split
    · exact hle.trans hclock
    · exact le_rfl
  follows client := (h.follows client).setCore hlater
  begun := h.begun
  logged := hlogged
  fresh := hfresh
  apart := h.apart

omit [DecidableEq σ] [DecidableEq ζ] [DecidableEq ν] [DecidableEq μ] [DecidableEq ι]
  [DecidableEq C] in
/-- What is known of a client is about the core and the versions. -/
lemma Follows.congr {w' : World σ ζ ν μ ρ R D C} {client : Client σ ζ ν μ ρ R}
    (h : Follows system w client) (hcore : w'.core = w.core) (hversions : w'.versions = w.versions) :
    Follows system w' client := by
  obtain ⟨core, versions, begun, clients⟩ := w
  obtain ⟨core', versions', begun', clients'⟩ := w'
  obtain rfl : core' = core := hcore
  obtain rfl : versions' = versions := hversions
  cases client with
  | reading attempt now rest =>
    obtain ⟨hle, hnow, hchanged, heval, hreads⟩ := h
    exact ⟨hle, hnow, hchanged, heval, hreads⟩
  | _ => exact h

omit [DecidableEq σ] [DecidableEq ζ] [DecidableEq ν] [DecidableEq μ] [DecidableEq ι] in
/-- A client goes on with its request, or ends it. -/
lemma Sound.setClient {client : C} {state : Client σ ζ ν μ ρ R} (h : Sound system w)
    (hfollows : Follows system w state)
    (hrequest : ∀ request, state.request? = some request →
      (w.clients client).request? = some request) :
    Sound system (w.setClient client state) := by
  have hdrawn : ∀ other id, HasDrawn system (w.setClient client state) other id →
      HasDrawn system w other id := by
    rintro other id ⟨request, hstate, hid⟩
    by_cases hother : other = client
    · subst hother
      rw [World.setClient_self] at hstate
      exact ⟨request, hrequest request hstate, hid⟩
    · rw [World.setClient_of_ne w hother] at hstate
      exact ⟨request, hstate, hid⟩
  refine ⟨h.changedAt_le, fun other => ?_, fun other id hid => h.begun other id (hdrawn _ _ hid),
    h.logged, fun other id hid => h.fresh other id (hdrawn _ _ hid),
    fun other other' id hid hid' => h.apart other other' id (hdrawn _ _ hid) (hdrawn _ _ hid')⟩
  by_cases hother : other = client
  · subst hother
    rw [World.setClient_self]
    exact hfollows.congr rfl rfl
  · rw [World.setClient_of_ne w hother]
    exact (h.follows other).congr rfl rfl

omit [DecidableEq σ] [DecidableEq ζ] [DecidableEq ν] [DecidableEq μ] [DecidableEq ι] in
/-- A refused transaction is tried again, or given up. -/
lemma Sound.retry {client : C} {attempt : Attempt σ ζ R} (h : Sound system w)
    (hrequest : (w.clients client).request? = some attempt.request) :
    Sound system (w.retry client attempt) := by
  rw [World.retry]
  split
  · exact h.setClient trivial fun request hended => by cases hended
  · refine h.setClient trivial fun request hready => ?_
    rw [← hready]
    exact hrequest

omit [DecidableEq σ] [DecidableEq ζ] [DecidableEq ν] [DecidableEq μ] [DecidableEq ι] in
/-- A client begins a request. -/
lemma Sound.begin {client : C} {request : R} {left : ℕ} (h : Sound system w)
    (hidle : (w.clients client).request? = none) (hfresh : Fresh system w request) :
    Sound system { w.setClient client (.ready request left) with begun := w.begun ++ [request] } := by
  have hdrawn : ∀ other id, HasDrawn system { w.setClient client (.ready request left) with
      begun := w.begun ++ [request] } other id →
      (other = client ∧ system.drawn request = some id) ∨
        (other ≠ client ∧ HasDrawn system w other id) := by
    rintro other id ⟨request', hstate, hid⟩
    by_cases hother : other = client
    · subst hother
      rw [World.setClient_self] at hstate
      obtain rfl := Option.some.inj hstate
      exact Or.inl ⟨rfl, hid⟩
    · rw [World.setClient_of_ne w hother] at hstate
      exact Or.inr ⟨hother, request', hstate, hid⟩
  have hold : ∀ id ∈ w.begun.filterMap system.drawn,
      id ∈ (w.begun ++ [request]).filterMap system.drawn := by
    intro id hid
    rw [List.filterMap_append]
    exact List.mem_append_left _ hid
  refine ⟨h.changedAt_le, fun other => ?_, fun other id hid => ?_,
    fun id hid => hold id (h.logged id hid), fun other id hid => ?_,
    fun other other' id hid hid' => ?_⟩
  · by_cases hother : other = client
    · subst hother
      change Follows system _ ((w.setClient other (.ready request left)).clients other)
      rw [World.setClient_self]
      trivial
    · change Follows system _ ((w.setClient client (.ready request left)).clients other)
      rw [World.setClient_of_ne w hother]
      exact (h.follows other).congr rfl rfl
  · rcases hdrawn other id hid with ⟨-, hnew⟩ | ⟨-, hid⟩
    · rw [List.filterMap_append]
      exact List.mem_append_right _ (List.mem_filterMap.mpr ⟨request, List.mem_singleton_self _, hnew⟩)
    · exact hold id (h.begun other id hid)
  · rcases hdrawn other id hid with ⟨-, hnew⟩ | ⟨-, hid⟩
    · exact fun hlogged => hfresh id hnew (h.logged id hlogged)
    · exact h.fresh other id hid
  · rcases hdrawn other id hid with ⟨hself, hnew⟩ | ⟨-, hkept⟩
    · rcases hdrawn other' id hid' with ⟨hself', -⟩ | ⟨-, hkept'⟩
      · rw [hself, hself']
      · exact absurd (h.begun other' id hkept') (hfresh id hnew)
    · rcases hdrawn other' id hid' with ⟨-, hnew⟩ | ⟨-, hkept'⟩
      · exact absurd (h.begun other id hkept) (hfresh id hnew)
      · exact h.apart other other' id hkept hkept'

omit [DecidableEq σ] [DecidableEq ζ] in
/-- What is written is later. -/
lemma later_write {core : Core σ ζ ν μ R D} {clock : ℤ} {store : Store σ ζ ν μ}
    (h : core.clock ≤ clock) : Later core (core.write clock store) :=
  ⟨h, fun _ => rfl⟩

omit [DecidableEq σ] [DecidableEq ζ] in
/-- What is noted is later. -/
lemma later_note {core : Core σ ζ ν μ R D} {store : Store σ ζ ν μ} {event : Event R D} :
    Later core ((core.write core.clock store).note event) :=
  ⟨le_rfl, fun _ => rfl⟩

omit [DecidableEq σ] [DecidableEq ζ] [DecidableEq ι] in
/-- A noted event has been drawn, besides those before it. -/
lemma drawn_note {core : Core σ ζ ν μ R D} {store : Store σ ζ ν μ} {event : Event R D} {id : ι} :
    id ∈ ((core.write core.clock store).note event).drawn system ↔
      id ∈ core.drawn system ∨ event.drawn system = some id := by
  rw [Core.drawn, Core.note, List.filterMap_append, List.mem_append]
  refine or_congr Iff.rfl ?_
  rw [List.filterMap_cons, List.filterMap_nil]
  cases h : event.drawn system with
  | none => simp
  | some other => simp [eq_comm]

omit [DecidableEq ι] in
/-- A transaction whose watched keys have not changed is performed as if at once. -/
lemma Sound.commit {client : C} {attempt : Attempt σ ζ R} {now : ℤ}
    {commands : List (StoreCommand σ ζ ν μ)} (h : Sound system w)
    (hclient : w.clients client = .reading attempt now (.commit commands))
    (hunchanged : Unchanged system w attempt) :
    Sound system ((w.setCore ((w.core.write w.core.clock
        (performAll w.core.clock w.core.store commands)).note
          (.committed attempt.request now w.core.clock))).setClient client
            (.ended attempt.request .performed)) ∧
      Core.Evolves system w.core ((w.core.write w.core.clock
        (performAll w.core.clock w.core.store commands)).note
          (.committed attempt.request now w.core.clock)) := by
  have hrequest : (w.clients client).request? = some attempt.request := by rw [hclient]; rfl
  have hfollows := h.follows client
  rw [hclient] at hfollows
  obtain ⟨-, hreads⟩ := hfollows
  have hfresh : ∀ id, system.drawn attempt.request = some id → id ∉ w.core.drawn system :=
    fun id hid => h.fresh client id ⟨_, hrequest, hid⟩
  refine ⟨?_, Core.Evolves.commit (hreads.eval hunchanged) hreads.now_le
    (fun key hkey => hreads.changedAt key (hunchanged key hkey)) hfresh⟩
  have hended : Sound system (w.setClient client (.ended attempt.request .performed)) :=
    h.setClient trivial fun request hrequest => by cases hrequest
  have hother : ∀ other id, HasDrawn system (w.setClient client
      (.ended attempt.request .performed)) other id → other ≠ client := by
    rintro other id ⟨request, hstate, -⟩ rfl
    rw [World.setClient_self] at hstate
    cases hstate
  -- the request ends first, so that no other client is at the identifier that is logged then
  refine hended.setCore later_note (fun id hid => ?_) (fun other id hid hlogged => ?_)
  · rcases drawn_note.mp hid with hid | hid
    · exact h.logged id hid
    · exact h.begun client id ⟨_, hrequest, hid⟩
  · rcases drawn_note.mp hlogged with hlogged | hlogged
    · exact hended.fresh other id hid hlogged
    · have hsame : HasDrawn system w other id := by
        obtain ⟨request, hstate, hdrawn⟩ := hid
        rw [World.setClient_of_ne w (hother other id ⟨request, hstate, hdrawn⟩)] at hstate
        exact ⟨request, hstate, hdrawn⟩
      exact hother other id hid (h.apart other client id hsame ⟨_, hrequest, hlogged⟩)

omit [DecidableEq σ] [DecidableEq ζ] [DecidableEq ι] [DecidableEq C] in
/-- The clock may go on. -/
lemma Sound.tick (h : Sound system w) (duration : ℕ) :
    Sound system (w.setCore (w.core.write (w.core.clock + duration)
      (w.core.store.purge (w.core.clock + duration)))) :=
  h.setCore (later_write (by omega)) h.logged h.fresh

omit [DecidableEq σ] [DecidableEq ζ] [DecidableEq ν] [DecidableEq μ] [DecidableEq ι] in
/-- A client that watches knows the versions of the keys. -/
lemma Sound.watch {client : C} {request : R} {left : ℕ} (h : Sound system w)
    (hclient : w.clients client = .ready request left) :
    Sound system (w.setClient client (.watching ⟨request, left, w.versions⟩)) := by
  refine h.setClient (fun key => le_rfl) fun other hother => ?_
  rw [hclient]
  exact hother

omit [DecidableEq σ] [DecidableEq ζ] [DecidableEq ν] [DecidableEq μ] [DecidableEq ι] in
/-- A client that asks for the time has read nothing yet. -/
lemma Sound.time {client : C} {attempt : Attempt σ ζ R} (h : Sound system w)
    (hclient : w.clients client = .watching attempt) :
    Sound system (w.setClient client (.reading attempt w.core.clock
      ((system.transaction attempt.request).body w.core.clock))) := by
  have hfollows := h.follows client
  rw [hclient] at hfollows
  refine h.setClient ⟨hfollows, le_rfl, fun key _ => h.changedAt_le key, fun _ => rfl,
    (system.transaction attempt.request).readsOnly _⟩ fun other hother => ?_
  rw [hclient]
  exact hother

omit [DecidableEq σ] [DecidableEq ζ] [DecidableEq ν] [DecidableEq μ] [DecidableEq ι] in
/-- A client that has read what the store holds goes on with what comes to the same. -/
lemma Sound.read {client : C} {attempt : Attempt σ ζ R} {now : ℤ} {rest rest' : Callback σ ζ ν μ ρ}
    (h : Sound system w) (hclient : w.clients client = .reading attempt now rest)
    (heval : rest'.eval w.core.store = rest.eval w.core.store)
    (honly : rest.ReadsOnly (system.transaction attempt.request).watched →
      rest'.ReadsOnly (system.transaction attempt.request).watched) :
    Sound system (w.setClient client (.reading attempt now rest')) := by
  have hfollows := h.follows client
  rw [hclient] at hfollows
  obtain ⟨hle, hreads⟩ := hfollows
  refine h.setClient ⟨hle, hreads.now_le, hreads.changedAt, fun hunchanged => ?_,
    honly hreads.readsOnly⟩ fun other hother => ?_
  · exact (hreads.eval hunchanged).trans heval.symm
  · rw [hclient]
    exact hother

omit [DecidableEq ι] [DecidableEq C] in
/-- An order is performed at once, and draws no identifier. -/
lemma Sound.order (h : Sound system w) (order : D) :
    Sound system (w.setCore ((w.core.write w.core.clock
      (performAll w.core.clock w.core.store (system.order order))).note
        (.ordered order w.core.clock))) := by
  have hdrawn : ∀ {id : ι}, id ∈ ((w.core.write w.core.clock
      (performAll w.core.clock w.core.store (system.order order))).note
        (.ordered order w.core.clock)).drawn system → id ∈ w.core.drawn system := by
    intro id hid
    rcases drawn_note.mp hid with hid | hid
    · exact hid
    · cases hid
  exact h.setCore later_note (fun id hid => h.logged id (hdrawn hid))
    fun client id hid hlogged => h.fresh client id hid (hdrawn hlogged)

/-- A step keeps what clients know, and changes the core as an atomic transaction would. -/
theorem evolves_of_step {action : Action R D C} {w' : World σ ζ ν μ ρ R D C} (h : Sound system w)
    (hstep : step system w action = some w') :
    Sound system w' ∧ Core.Evolves system w.core w'.core := by
  cases action with
  | tick duration =>
    obtain rfl := Option.some.inj hstep
    exact ⟨h.tick duration, Core.Evolves.tick w.core duration⟩
  | begin client request =>
    simp only [step] at hstep
    split at hstep
    · next hnew =>
      obtain rfl := Option.some.inj hstep
      exact ⟨h.begin (Option.isNone_iff_eq_none.mp hnew.1) hnew.2, Core.Evolves.quiet _⟩
    · cases hstep
  | watch client =>
    cases hclient : w.clients client with
    | ready request left =>
      simp only [step, hclient, Option.some.injEq] at hstep
      obtain rfl := hstep
      exact ⟨h.watch hclient, Core.Evolves.quiet _⟩
    | _ => simp only [step, hclient, reduceCtorEq] at hstep
  | time client =>
    cases hclient : w.clients client with
    | watching attempt =>
      simp only [step, hclient, Option.some.injEq] at hstep
      obtain rfl := hstep
      exact ⟨h.time hclient, Core.Evolves.quiet _⟩
    | _ => simp only [step, hclient, reduceCtorEq] at hstep
  | read client =>
    cases hclient : w.clients client with
    | reading attempt now rest =>
      cases rest with
      | get key next =>
        simp only [step, hclient, Option.some.injEq] at hstep
        obtain rfl := hstep
        exact ⟨h.read hclient rfl fun honly => honly.2 _, Core.Evolves.quiet _⟩
      | zcount key above next =>
        simp only [step, hclient, Option.some.injEq] at hstep
        obtain rfl := hstep
        exact ⟨h.read hclient rfl fun honly => honly.2 _, Core.Evolves.quiet _⟩
      | _ => simp only [step, hclient, reduceCtorEq] at hstep
    | _ => simp only [step, hclient, reduceCtorEq] at hstep
  | exec client =>
    cases hclient : w.clients client with
    | reading attempt now rest =>
      cases rest with
      | stop result =>
        simp only [step, hclient, Option.some.injEq] at hstep
        obtain rfl := hstep
        exact ⟨h.setClient trivial (fun other hother => by cases hother), Core.Evolves.quiet _⟩
      | commit commands =>
        simp only [step, hclient] at hstep
        split at hstep
        · next hunchanged =>
          obtain rfl := Option.some.inj hstep
          exact h.commit hclient hunchanged
        · obtain rfl := Option.some.inj hstep
          refine ⟨h.retry (by rw [hclient]; rfl), ?_⟩
          rw [World.retry_core]
          exact Core.Evolves.quiet _
      | _ => simp only [step, hclient, reduceCtorEq] at hstep
    | _ => simp only [step, hclient, reduceCtorEq] at hstep
  | refuse client =>
    cases hclient : w.clients client with
    | reading attempt now rest =>
      simp only [step, hclient, Option.some.injEq] at hstep
      obtain rfl := hstep
      refine ⟨h.retry (by rw [hclient]; rfl), ?_⟩
      rw [World.retry_core]
      exact Core.Evolves.quiet _
    | _ => simp only [step, hclient, reduceCtorEq] at hstep
  | drop client =>
    cases hrequest : (w.clients client).request? with
    | some request =>
      simp only [step, hrequest, Option.some.injEq] at hstep
      obtain rfl := hstep
      exact ⟨h.setClient trivial (fun other hother => by cases hother), Core.Evolves.quiet _⟩
    | none => simp only [step, hrequest, reduceCtorEq] at hstep
  | order order =>
    obtain rfl := Option.some.inj hstep
    exact ⟨h.order order, Core.Evolves.order _ _⟩

omit [DecidableEq σ] [DecidableEq ζ] [DecidableEq ν] [DecidableEq μ] [DecidableEq ι] in
/-- A transaction that was refused is not performed. -/
lemma World.retry_clients_ne (client : C) (attempt : Attempt σ ζ R) (request : R) :
    (w.retry client attempt).clients client ≠ .ended request .performed := by
  intro h
  rw [World.retry] at h
  split at h
  · rw [World.setClient_self] at h
    cases h
  · rw [World.setClient_self] at h
    cases h

/-- A client's step leaves the core alone, or performs the client's request. -/
lemma core_of_step {action : Action R D C} {client : C} {request : R}
    {w' : World σ ζ ν μ ρ R D C} (h : Sound system w) (hclient : action.client? = some client)
    (hrequest : (w.clients client).request? = some request)
    (hstep : step system w action = some w') :
    (w'.core = w.core ∧ w'.clients client ≠ .ended request .performed) ∨
      (w'.clients client = .ended request .performed ∧ ∃ now commands,
        ((system.transaction request).body now).eval w.core.store = .ok commands ∧
        w'.core = (w.core.write w.core.clock (performAll w.core.clock w.core.store commands)).note
          (.committed request now w.core.clock)) := by
  have hset : ∀ state, state ≠ .ended request .performed →
      ((w.setClient client state).core = w.core ∧
        (w.setClient client state).clients client ≠ .ended request .performed) := by
    intro state hstate
    rw [World.setClient_self]
    exact ⟨rfl, hstate⟩
  cases action with
  | tick duration => cases hclient
  | order order => cases hclient
  | begin other request' =>
    obtain rfl := Option.some.inj hclient
    simp only [step] at hstep
    split at hstep
    · next hidle =>
      rw [Option.isNone_iff_eq_none] at hidle
      exact absurd (hidle.1.symm.trans hrequest) (Option.some_ne_none request).symm
    · cases hstep
  | watch other =>
    obtain rfl := Option.some.inj hclient
    simp only [step] at hstep
    split at hstep
    · obtain rfl := Option.some.inj hstep
      exact Or.inl (hset _ (by simp))
    · cases hstep
  | time other =>
    obtain rfl := Option.some.inj hclient
    simp only [step] at hstep
    split at hstep
    · obtain rfl := Option.some.inj hstep
      exact Or.inl (hset _ (by simp))
    · cases hstep
  | read other =>
    obtain rfl := Option.some.inj hclient
    simp only [step] at hstep
    split at hstep
    · obtain rfl := Option.some.inj hstep
      exact Or.inl (hset _ (by simp))
    · obtain rfl := Option.some.inj hstep
      exact Or.inl (hset _ (by simp))
    · cases hstep
  | exec other =>
    obtain rfl := Option.some.inj hclient
    simp only [step] at hstep
    split at hstep
    · obtain rfl := Option.some.inj hstep
      exact Or.inl (hset _ (by simp))
    · next attempt now commands hstate =>
      rw [hstate] at hrequest
      obtain rfl := Option.some.inj hrequest
      split at hstep
      · next hunchanged =>
        obtain rfl := Option.some.inj hstep
        have hfollows := h.follows other
        rw [hstate] at hfollows
        exact Or.inr ⟨World.setClient_self _ _ _, now, commands, hfollows.2.eval hunchanged, rfl⟩
      · obtain rfl := Option.some.inj hstep
        exact Or.inl ⟨World.retry_core _ _ _, World.retry_clients_ne _ _ _⟩
    · cases hstep
  | refuse other =>
    obtain rfl := Option.some.inj hclient
    simp only [step] at hstep
    split at hstep
    · obtain rfl := Option.some.inj hstep
      exact Or.inl ⟨World.retry_core _ _ _, World.retry_clients_ne _ _ _⟩
    · cases hstep
  | drop other =>
    obtain rfl := Option.some.inj hclient
    simp only [step] at hstep
    split at hstep
    · obtain rfl := Option.some.inj hstep
      exact Or.inl (hset _ (by simp))
    · cases hstep

/-- A key that holds what it held has the version it had. -/
lemma versions_of_step {action : Action R D C} {w' : World σ ζ ν μ ρ R D C}
    (hstep : step system w action = some w') {key : σ ⊕ ζ}
    (hsame : SameAt w.core.store w'.core.store key) : w'.versions key = w.versions key := by
  have hset : ∀ core : Core σ ζ ν μ R D, SameAt w.core.store core.store key →
      (w.setCore core).versions key = w.versions key := fun core hsame => if_pos hsame
  have hretry : ∀ client attempt, (w.retry client attempt).versions = w.versions := by
    intro client attempt
    rw [World.retry]
    split <;> rfl
  cases action with
  | tick duration =>
    obtain rfl := Option.some.inj hstep
    exact hset _ hsame
  | order order =>
    obtain rfl := Option.some.inj hstep
    exact hset _ hsame
  | begin client request =>
    simp only [step] at hstep
    split at hstep
    · obtain rfl := Option.some.inj hstep
      rfl
    · cases hstep
  | exec client =>
    simp only [step] at hstep
    split at hstep
    · obtain rfl := Option.some.inj hstep
      rfl
    · split at hstep
      · obtain rfl := Option.some.inj hstep
        exact hset _ hsame
      · obtain rfl := Option.some.inj hstep
        exact congrFun (hretry _ _) key
    · cases hstep
  | refuse client =>
    simp only [step] at hstep
    split at hstep
    · obtain rfl := Option.some.inj hstep
      exact congrFun (hretry _ _) key
    · cases hstep
  | read client =>
    simp only [step] at hstep
    split at hstep
    · obtain rfl := Option.some.inj hstep
      rfl
    · obtain rfl := Option.some.inj hstep
      rfl
    · cases hstep
  | watch client | time client | drop client =>
    simp only [step] at hstep
    split at hstep
    · obtain rfl := Option.some.inj hstep
      rfl
    · cases hstep

end Sound

end Optimistic

end Terraformer
