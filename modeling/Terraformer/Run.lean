import Mathlib

/-!
# Runs

A run is what a procedure did, in order, and how it ended: with a value, or with a fault that
it raised.  Runs compose as in an imperative program, with `try` and `finally`; an effect that
was done stays done when the run faults.

A caller may also abandon a run: then a beginning of its effects was done (`List.IsPrefix`).
`prefix_append_cases` tells the two ways to abandon one run after another apart.
-/

namespace Terraformer

/-- The effects of a procedure and its result. -/
@[ext]
structure Run (ε φ α : Type) where
  effects : List ε
  result : Except φ α

namespace Run

variable {ε φ α β : Type}

/-- Nothing is done. -/
def done (a : α) : Run ε φ α := ⟨[], .ok a⟩

/-- One effect. -/
def emit (e : ε) : Run ε φ Unit := ⟨[e], .ok ()⟩

/-- Several effects. -/
def emitAll (effects : List ε) : Run ε φ Unit := ⟨effects, .ok ()⟩

/-- A fault. -/
def raise (f : φ) : Run ε φ α := ⟨[], .error f⟩

/-- The outcome of a collaborator. -/
def ofExcept (x : Except φ α) : Run ε φ α := ⟨[], x⟩

/-- One run and then another, unless the first faults. -/
def andThen (x : Run ε φ α) (f : α → Run ε φ β) : Run ε φ β :=
  match x.result with
  | .ok a => ⟨x.effects ++ (f a).effects, (f a).result⟩
  | .error fault => ⟨x.effects, .error fault⟩

/-- Runs are chained as the statements of the source are. -/
instance : Monad (Run ε φ) where
  pure := done
  bind := andThen

/-- `try … except`: a fault is handled. -/
def orElse (x : Run ε φ α) (handler : φ → Run ε φ α) : Run ε φ α :=
  match x.result with
  | .ok _ => x
  | .error fault => ⟨x.effects ++ (handler fault).effects, (handler fault).result⟩

/-- A run whose fault is its value. -/
def attempt (x : Run ε φ α) : Run ε φ (Except φ α) := ⟨x.effects, .ok x.result⟩

/-- `try … finally`: the cleanup runs in any case, and its fault replaces the result. -/
def andFinally (x : Run ε φ α) (cleanup : Run ε φ Unit) : Run ε φ α where
  effects := x.effects ++ cleanup.effects
  result :=
    match cleanup.result with
    | .ok () => x.result
    | .error fault => .error fault

/-- Returning has no effects. -/
@[simp] lemma effects_pure (a : α) : (pure a : Run ε φ α).effects = [] := rfl

/-- Returning ends with its value. -/
@[simp] lemma result_pure (a : α) : (pure a : Run ε φ α).result = .ok a := rfl

/-- An effect is all that its emission has. -/
@[simp] lemma effects_emit (e : ε) : (emit e : Run ε φ Unit).effects = [e] := rfl

/-- An emission ends well. -/
@[simp] lemma result_emit (e : ε) : (emit e : Run ε φ Unit).result = .ok () := rfl

/-- The effects are all that their emission has. -/
@[simp] lemma effects_emitAll (effects : List ε) :
    (emitAll effects : Run ε φ Unit).effects = effects := rfl

/-- Emitted effects come before those that follow. -/
@[simp] lemma effects_emitAll_bind (effects : List ε) (f : Unit → Run ε φ β) :
    (emitAll effects >>= f).effects = effects ++ (f ()).effects := rfl

/-- Emitted effects do not change how the run ends. -/
@[simp] lemma result_emitAll_bind (effects : List ε) (f : Unit → Run ε φ β) :
    (emitAll effects >>= f).result = (f ()).result := rfl

/-- Raising has no effects. -/
@[simp] lemma effects_raise (f : φ) : (raise f : Run ε φ α).effects = [] := rfl

/-- Raising ends with the fault. -/
@[simp] lemma result_raise (f : φ) : (raise f : Run ε φ α).result = .error f := rfl

/-- An answer has no effects. -/
@[simp] lemma effects_ofExcept (x : Except φ α) : (ofExcept x : Run ε φ α).effects = [] := rfl

/-- An answer is how the run ends. -/
@[simp] lemma result_ofExcept (x : Except φ α) : (ofExcept x : Run ε φ α).result = x := rfl

/-- An attempt has the effects of its run. -/
@[simp] lemma effects_attempt (x : Run ε φ α) : x.attempt.effects = x.effects := rfl

/-- An attempt ends well with what the run ended with. -/
@[simp] lemma result_attempt (x : Run ε φ α) : x.attempt.result = .ok x.result := rfl

/-- A run that ends well is followed by the effects of the next. -/
lemma effects_bind_of_ok {x : Run ε φ α} {a : α} (h : x.result = .ok a) (f : α → Run ε φ β) :
    (x >>= f).effects = x.effects ++ (f a).effects := by
  show (andThen x f).effects = _
  rw [andThen, h]

/-- Two runs end as the second does when the first ends well. -/
lemma result_bind_of_ok {x : Run ε φ α} {a : α} (h : x.result = .ok a) (f : α → Run ε φ β) :
    (x >>= f).result = (f a).result := by
  show (andThen x f).result = _
  rw [andThen, h]

/-- A run that raises is followed by nothing. -/
lemma effects_bind_of_error {x : Run ε φ α} {fault : φ} (h : x.result = .error fault)
    (f : α → Run ε φ β) : (x >>= f).effects = x.effects := by
  show (andThen x f).effects = _
  rw [andThen, h]

/-- A run that raises ends what it is part of. -/
lemma result_bind_of_error {x : Run ε φ α} {fault : φ} (h : x.result = .error fault)
    (f : α → Run ε φ β) : (x >>= f).result = .error fault := by
  show (andThen x f).result = _
  rw [andThen, h]

/-- The effects of two runs, however the first ends. -/
lemma effects_bind (x : Run ε φ α) (f : α → Run ε φ β) :
    (x >>= f).effects = x.effects ++
      match x.result with
      | .ok a => (f a).effects
      | .error _ => [] := by
  cases h : x.result with
  | ok a => exact effects_bind_of_ok h f
  | error fault => rw [effects_bind_of_error h, List.append_nil]

/-- A composed run that ends with a value had a value in the middle. -/
lemma exists_of_result_bind_eq_ok {x : Run ε φ α} {f : α → Run ε φ β} {b : β}
    (h : (x >>= f).result = .ok b) : ∃ a, x.result = .ok a ∧ (f a).result = .ok b ∧
      (x >>= f).effects = x.effects ++ (f a).effects := by
  cases hx : x.result with
  | error fault =>
    rw [result_bind_of_error hx] at h
    cases h
  | ok a =>
    rw [result_bind_of_ok hx] at h
    exact ⟨a, rfl, h, effects_bind_of_ok hx f⟩

/-- Two runs end well together when each does. -/
lemma result_bind_eq_ok_iff {x : Run ε φ α} {f : α → Run ε φ β} {b : β} :
    (x >>= f).result = .ok b ↔ ∃ a, x.result = .ok a ∧ (f a).result = .ok b := by
  constructor
  · intro h
    obtain ⟨a, hx, hf, -⟩ := exists_of_result_bind_eq_ok h
    exact ⟨a, hx, hf⟩
  · rintro ⟨a, hx, hf⟩
    rw [result_bind_of_ok hx, hf]

/-- A run that is known to end well is followed by the next. -/
@[simp] lemma mk_ok_bind (effects : List ε) (a : α) (f : α → Run ε φ β) :
    ((⟨effects, .ok a⟩ : Run ε φ α) >>= f) = ⟨effects ++ (f a).effects, (f a).result⟩ := rfl

/-- A run that is known to raise is not followed. -/
@[simp] lemma mk_error_bind (effects : List ε) (fault : φ) (f : α → Run ε φ β) :
    ((⟨effects, .error fault⟩ : Run ε φ α) >>= f) = ⟨effects, .error fault⟩ := rfl

/-- A good answer is handed on. -/
@[simp] lemma ofExcept_ok_bind (a : α) (f : α → Run ε φ β) :
    (ofExcept (.ok a) >>= f) = f a := rfl

/-- A bad answer is raised. -/
@[simp] lemma ofExcept_error_bind (fault : φ) (f : α → Run ε φ β) :
    (ofExcept (.error fault) >>= f) = raise fault := rfl

/-- The cleanup's effects come after those of the run. -/
@[simp] lemma effects_andFinally (x : Run ε φ α) (cleanup : Run ε φ Unit) :
    (x.andFinally cleanup).effects = x.effects ++ cleanup.effects := rfl

/-- An attempt is followed by the next run, however it ends. -/
@[simp] lemma effects_attempt_bind (x : Run ε φ α) (f : Except φ α → Run ε φ β) :
    (x.attempt >>= f).effects = x.effects ++ (f x.result).effects := rfl

/-- What follows an attempt decides how both end. -/
@[simp] lemma result_attempt_bind (x : Run ε φ α) (f : Except φ α → Run ε φ β) :
    (x.attempt >>= f).result = (f x.result).result := rfl

/-- An emitted effect comes before those that follow. -/
@[simp] lemma effects_emit_bind (e : ε) (f : Unit → Run ε φ β) :
    (emit e >>= f).effects = e :: (f ()).effects := rfl

/-- An emitted effect does not change how the run ends. -/
@[simp] lemma result_emit_bind (e : ε) (f : Unit → Run ε φ β) :
    (emit e >>= f).result = (f ()).result := rfl

/-- What follows a returned value has all the effects. -/
@[simp] lemma effects_pure_bind (a : α) (f : α → Run ε φ β) :
    (pure a >>= f).effects = (f a).effects := rfl

/-- What follows a returned value decides how both end. -/
@[simp] lemma result_pure_bind (a : α) (f : α → Run ε φ β) :
    (pure a >>= f).result = (f a).result := rfl

/-- What follows a raise has no effects. -/
@[simp] lemma effects_raise_bind (fault : φ) (f : α → Run ε φ β) :
    (raise fault >>= f).effects = [] := rfl

/-- What follows a raise does not change how the run ends. -/
@[simp] lemma result_raise_bind (fault : φ) (f : α → Run ε φ β) :
    (raise fault >>= f).result = .error fault := rfl

/-! ### What holds of every effect -/

/-- Every effect of a run has a property. -/
def All (P : ε → Prop) (run : Run ε φ α) : Prop := ∀ e ∈ run.effects, P e

variable {P : ε → Prop}

/-- Returning has no effect that could be wrong. -/
lemma all_pure (a : α) : (pure a : Run ε φ α).All P := fun _ h => by cases h

/-- Raising has no effect that could be wrong. -/
lemma all_raise (f : φ) : (raise f : Run ε φ α).All P := fun _ h => by cases h

/-- An answer has no effect that could be wrong. -/
lemma all_ofExcept (x : Except φ α) : (ofExcept x : Run ε φ α).All P := fun _ h => by cases h

/-- An emission has the property of its effect. -/
lemma all_emit {e : ε} (h : P e) : (emit e : Run ε φ Unit).All P := by
  rintro e' he
  rw [List.mem_singleton.mp he]
  exact h

/-- Two runs have the property if both do, whatever is handed on. -/
lemma All.bind {x : Run ε φ α} (hx : x.All P) {f : α → Run ε φ β} (hf : ∀ a, (f a).All P) :
    (x >>= f).All P := by
  intro e he
  rw [effects_bind] at he
  rcases List.mem_append.mp he with he | he
  · exact hx e he
  · split at he
    · exact hf _ e he
    · cases he

/-- A run with a handler has the property if both do. -/
lemma All.orElse {x : Run ε φ α} (hx : x.All P) {handler : φ → Run ε φ α}
    (hhandler : ∀ f, (handler f).All P) : (x.orElse handler).All P := by
  intro e he
  rw [Run.orElse] at he
  split at he
  · exact hx e he
  · rcases List.mem_append.mp he with he | he
    · exact hx e he
    · exact hhandler _ e he

/-- An attempt has the property of its run. -/
lemma All.attempt {x : Run ε φ α} (hx : x.All P) : x.attempt.All P := hx

/-- A run has every weaker property. -/
lemma All.mono {Q : ε → Prop} {x : Run ε φ α} (hx : x.All P) (h : ∀ e, P e → Q e) : x.All Q :=
  fun e he => h e (hx e he)

end Run

/-- What ends with a value had a value at each step. -/
lemma exists_of_bind_eq_ok {φ α β : Type*} {x : Except φ α} {f : α → Except φ β} {b : β}
    (h : x.bind f = .ok b) : ∃ a, x = .ok a ∧ f a = .ok b := by
  cases x with
  | error fault => cases h
  | ok a => exact ⟨a, rfl, h⟩

/-- A beginning of two lists on end is one of the first, or all of it with one of the second. -/
lemma prefix_append_cases {α : Type*} {p a b : List α} (h : p <+: a ++ b) :
    p <+: a ∨ ∃ q, p = a ++ q ∧ q <+: b := by
  obtain ⟨t, ht⟩ := h
  rcases List.append_eq_append_iff.mp ht with ⟨r, rfl, -⟩ | ⟨r, rfl, rfl⟩
  · exact Or.inl (List.prefix_append _ _)
  · exact Or.inr ⟨r, rfl, List.prefix_append _ _⟩

end Terraformer
