import Mathlib

/-!
# A store of expiring keys

The store has keys of two kinds, those that hold a text and those that hold a sorted set of members
with scores.  A key may have a time at which it expires, and is gone from then on (`purge`).

`perform` is what a command does to a store.  `enter` are the three commands by which a member
enters a window: those with low scores leave, it is added, and the key is kept for a while;
`sets_performAll_enter` says what they come to.
-/

namespace Terraformer

namespace Expiring

variable {α σ ζ ν μ : Type}

/-- A value, and when it expires. -/
@[ext]
structure Timed (α : Type) where
  value : α
  expiresAt : Option ℤ
  deriving DecidableEq

/-- Nothing is stored. -/
def absent [Inhabited α] : Timed α := ⟨default, none⟩

/-- What is left of a value at a time. -/
def Timed.purge [Inhabited α] (clock : ℤ) (timed : Timed α) : Timed α :=
  if timed.expiresAt.any (· ≤ clock) then absent else timed

/-- A purge leaves a value, or takes it out because its time has come. -/
lemma Timed.purge_cases [Inhabited α] (clock : ℤ) (timed : Timed α) :
    timed.purge clock = timed ∨
      timed.purge clock = absent ∧ ∃ time, timed.expiresAt = some time ∧ time ≤ clock := by
  by_cases h : timed.expiresAt.any (· ≤ clock) = true
  · right
    refine ⟨if_pos h, ?_⟩
    simpa [Option.any_eq_true] using h
  · exact Or.inl (if_neg h)

/-- What has not expired is left. -/
lemma Timed.purge_of_lt [Inhabited α] {clock time : ℤ} {timed : Timed α}
    (h : timed.expiresAt = some time) (hlt : clock < time) : timed.purge clock = timed :=
  if_neg (by simp [h, hlt])

/-- What is left was not purged. -/
lemma Timed.purge_eq_of_value [Inhabited α] {clock : ℤ} {timed : Timed α}
    (h : (timed.purge clock).value ≠ default) : timed.purge clock = timed := by
  rcases timed.purge_cases clock with hsame | ⟨hgone, -⟩
  · exact hsame
  · rw [hgone] at h
    exact absurd rfl h

/-- The texts and the sorted sets of a store. -/
structure Store (σ ζ ν μ : Type) where
  texts : σ → Timed (Option ν)
  sets : ζ → Timed (List (μ × ℤ))

namespace Store

variable (store : Store σ ζ ν μ)

/-- Nothing is stored. -/
def empty : Store σ ζ ν μ := ⟨fun _ => absent, fun _ => absent⟩

/-- What is left of the store at a time. -/
def purge (clock : ℤ) : Store σ ζ ν μ where
  texts key := (store.texts key).purge clock
  sets key := (store.sets key).purge clock

/-- `GET key`. -/
def get (key : σ) : Option ν := (store.texts key).value

/-- The members of a sorted set with their scores. -/
def members (key : ζ) : List (μ × ℤ) := (store.sets key).value

/-- `ZCOUNT key (above +inf`. -/
def zcount (key : ζ) (above : ℤ) : ℕ :=
  (store.members key).countP fun member => above < member.2

end Store

/-! ## Commands -/

/-- Commands that change a store.  A time to live counts from the time of the command. -/
inductive StoreCommand (σ ζ ν μ : Type) where
  | set (key : σ) (value : ν) (ttl : ℤ)
  | delete (key : σ)
  | deleteSet (key : ζ)
  | zadd (key : ζ) (member : μ) (score : ℤ)
  | zrem (key : ζ) (member : μ)
  | zremrangebyscore (key : ζ) (maximum : ℤ)
  | expire (key : ζ) (ttl : ℤ)

/-- A set that has lost its last member is gone. -/
def nonempty (set : Timed (List (μ × ℤ))) : Timed (List (μ × ℤ)) :=
  if set.value = [] then absent else set

/-- Dropping an empty set does not change what is in it. -/
@[simp] lemma nonempty_value (set : Timed (List (μ × ℤ))) : (nonempty set).value = set.value := by
  by_cases h : set.value = []
  · rw [nonempty, if_pos h, h]
    rfl
  · rw [nonempty, if_neg h]

section Perform

variable [DecidableEq σ] [DecidableEq ζ] [DecidableEq μ]

/-- One text is replaced. -/
def Store.setText (store : Store σ ζ ν μ) (key : σ) (text : Timed (Option ν)) : Store σ ζ ν μ :=
  { store with texts := Function.update store.texts key text }

/-- One set is replaced. -/
def Store.setSet (store : Store σ ζ ν μ) (key : ζ) (set : Timed (List (μ × ℤ))) : Store σ ζ ν μ :=
  { store with sets := Function.update store.sets key set }

/-- What a command does at a time. -/
def perform (clock : ℤ) (store : Store σ ζ ν μ) : StoreCommand σ ζ ν μ → Store σ ζ ν μ
  | .set key value ttl => store.setText key ⟨some value, some (clock + ttl)⟩
  | .delete key => store.setText key absent
  | .deleteSet key => store.setSet key absent
  | .zadd key member score =>
    let set := store.sets key
    store.setSet key
      { set with value := set.value.filter (fun other => other.1 ≠ member) ++ [(member, score)] }
  | .zrem key member =>
    let set := store.sets key
    store.setSet key (nonempty { set with value := set.value.filter fun other => other.1 ≠ member })
  | .zremrangebyscore key maximum =>
    let set := store.sets key
    store.setSet key (nonempty { set with value := set.value.filter fun other => maximum < other.2 })
  | .expire key ttl =>
    let set := store.sets key
    store.setSet key (if set.value = [] then set else { set with expiresAt := some (clock + ttl) })

/-- What commands do one after another. -/
def performAll (clock : ℤ) (store : Store σ ζ ν μ) (commands : List (StoreCommand σ ζ ν μ)) :
    Store σ ζ ν μ :=
  commands.foldl (perform clock) store

variable {clock : ℤ} {store : Store σ ζ ν μ} {commands front back : List (StoreCommand σ ζ ν μ)}

/-- No command changes nothing. -/
@[simp] lemma performAll_nil : performAll clock store [] = store := rfl

/-- The first command is performed first. -/
@[simp] lemma performAll_cons {command : StoreCommand σ ζ ν μ} :
    performAll clock store (command :: commands) =
      performAll clock (perform clock store command) commands := rfl

/-- Two lists of commands are performed one after the other. -/
@[simp] lemma performAll_append :
    performAll clock store (front ++ back) = performAll clock (performAll clock store front) back :=
  List.foldl_append

/-- The key of a text that a command is on. -/
def StoreCommand.text? : StoreCommand σ ζ ν μ → Option σ
  | .set key _ _ | .delete key => some key
  | _ => none

/-- The key of a set that a command is on. -/
def StoreCommand.set? : StoreCommand σ ζ ν μ → Option ζ
  | .zadd key _ _ | .zrem key _ | .zremrangebyscore key _ | .expire key _ | .deleteSet key =>
    some key
  | _ => none

/-- A command leaves the texts that it does not name. -/
lemma texts_perform {command : StoreCommand σ ζ ν μ} {key : σ} (h : command.text? ≠ some key) :
    (perform clock store command).texts key = store.texts key := by
  cases command with
  | set other value ttl =>
    exact Function.update_of_ne (fun heq => h (congrArg some heq.symm)) _ _
  | delete other => exact Function.update_of_ne (fun heq => h (congrArg some heq.symm)) _ _
  | _ => rfl

/-- A command leaves the sets that it does not name. -/
lemma sets_perform {command : StoreCommand σ ζ ν μ} {key : ζ} (h : command.set? ≠ some key) :
    (perform clock store command).sets key = store.sets key := by
  cases command with
  | set | delete => rfl
  | _ => exact Function.update_of_ne (fun heq => h (congrArg some heq.symm)) _ _

/-- Commands leave the texts they are not on. -/
lemma texts_performAll {key : σ} (h : ∀ command ∈ commands, command.text? ≠ some key) :
    (performAll clock store commands).texts key = store.texts key := by
  induction commands generalizing store with
  | nil => rfl
  | cons command commands ih =>
    rw [performAll_cons, ih fun other hother => h other (List.mem_cons_of_mem _ hother),
      texts_perform (h command List.mem_cons_self)]

/-- Commands leave the sets they are not on. -/
lemma sets_performAll {key : ζ} (h : ∀ command ∈ commands, command.set? ≠ some key) :
    (performAll clock store commands).sets key = store.sets key := by
  induction commands generalizing store with
  | nil => rfl
  | cons command commands ih =>
    rw [performAll_cons, ih fun other hother => h other (List.mem_cons_of_mem _ hother),
      sets_perform (h command List.mem_cons_self)]

end Perform

/-! ## Entering a window -/

/-- The commands by which a member enters a window: members with scores up to a maximum leave, and
the window is kept for a while. -/
def enter (maximum : ℤ) (member : μ) (score ttl : ℤ) (key : ζ) : List (StoreCommand σ ζ ν μ) :=
  [.zremrangebyscore key maximum, .zadd key member score, .expire key ttl]

/-- A window that a member has entered. -/
def entered [DecidableEq μ] (clock maximum : ℤ) (member : μ) (score ttl : ℤ)
    (window : Timed (List (μ × ℤ))) : Timed (List (μ × ℤ)) where
  value := (window.value.filter fun other => maximum < other.2).filter
    (fun other => other.1 ≠ member) ++ [(member, score)]
  expiresAt := some (clock + ttl)

section Enter

variable [DecidableEq σ] [DecidableEq ζ] [DecidableEq μ] {clock maximum score ttl : ℤ} {member : μ}
  {store : Store σ ζ ν μ}

/-- Entering a member changes its set and no other. -/
lemma sets_performAll_enter (key key' : ζ) :
    (performAll clock store (enter maximum member score ttl key)).sets key' =
      if key' = key then entered clock maximum member score ttl (store.sets key)
      else store.sets key' := by
  by_cases h : key' = key
  · subst h
    rw [if_pos rfl]
    simp [enter, performAll, perform, Store.setSet, entered, nonempty_value]
  · rw [if_neg h]
    refine sets_performAll fun command hcommand heq => h ?_
    simp only [enter, List.mem_cons, List.not_mem_nil, or_false] at hcommand
    rcases hcommand with rfl | rfl | rfl <;> exact (Option.some.inj heq).symm

/-- A member that enters several windows enters each. -/
lemma sets_performAll_enterAll {keys : List ζ} (hnodup : keys.Nodup) (key : ζ) :
    (performAll clock store (keys.flatMap (enter maximum member score ttl))).sets key =
      if key ∈ keys then entered clock maximum member score ttl (store.sets key)
      else store.sets key := by
  induction keys generalizing store with
  | nil => rfl
  | cons first keys ih =>
    rw [List.nodup_cons] at hnodup
    rw [List.flatMap_cons, performAll_append, ih hnodup.2, sets_performAll_enter]
    by_cases hfirst : key = first
    · subst hfirst
      rw [if_neg hnodup.1, if_pos rfl, if_pos List.mem_cons_self]
    · rw [if_neg hfirst]
      simp only [List.mem_cons, hfirst, false_or]

/-- Entering a member changes no text. -/
lemma texts_performAll_enterAll {keys : List ζ} (key : σ) :
    (performAll clock store (keys.flatMap (enter maximum member score ttl))).texts key =
      store.texts key := by
  refine texts_performAll fun command hcommand heq => ?_
  obtain ⟨first, -, hcommand⟩ := List.mem_flatMap.mp hcommand
  simp only [enter, List.mem_cons, List.not_mem_nil, or_false] at hcommand
  rcases hcommand with rfl | rfl | rfl <;> cases heq

/-- A member that leaves sets leaves each. -/
lemma sets_performAll_leaveAll {keys : List ζ} (hnodup : keys.Nodup) (key : ζ) :
    (performAll clock store (keys.map fun key => StoreCommand.zrem key member)).sets key =
      if key ∈ keys then
        nonempty { store.sets key with
          value := (store.sets key).value.filter fun other => other.1 ≠ member }
      else store.sets key := by
  induction keys generalizing store with
  | nil => rfl
  | cons first keys ih =>
    rw [List.nodup_cons] at hnodup
    rw [List.map_cons, performAll_cons, ih hnodup.2]
    by_cases hfirst : key = first
    · subst hfirst
      rw [if_neg hnodup.1, if_pos List.mem_cons_self]
      exact Function.update_self _ _ _
    · have hsame : (perform clock store (.zrem first member)).sets key = store.sets key :=
        Function.update_of_ne hfirst _ _
      rw [hsame]
      simp only [List.mem_cons, hfirst, false_or]

end Enter

end Expiring

end Terraformer
