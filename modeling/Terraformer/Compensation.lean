import Mathlib

/-!
# Compensation

Batches of instructions that stop at the first refused one, and batches that undo them.  A
batch runs in a session: it starts from a session state entered from a stored value and leaves
a stored value behind.  `Undoes` asks the inverse batch to bring the stored value back from
wherever the forward batch may have stopped.

The rule for proving it is a frame: a set of session states that the forward instructions do
not leave, and from all of which the inverse batch restores the stored value.
-/

namespace Terraformer.Compensation

variable {κ σ ι : Type*}

/-- Executes instructions up to the first refused one; what was done before it stays. -/
def execute (step : σ → ι → Option σ) : σ → List ι → σ
  | s, [] => s
  | s, i :: is =>
    match step s i with
    | some t => execute step t is
    | none => s

section Execute

variable {step : σ → ι → Option σ}

/-- Executing nothing changes nothing. -/
@[simp] lemma execute_nil (s : σ) : execute step s [] = s := rfl

/-- An instruction that is taken is followed by the rest. -/
lemma execute_cons_of_some {s t : σ} {i : ι} (h : step s i = some t) (is : List ι) :
    execute step s (i :: is) = execute step t is := by
  rw [execute, h]

/-- Nothing is executed behind an instruction that is refused. -/
lemma execute_cons_of_none {s : σ} {i : ι} (h : step s i = none) (is : List ι) :
    execute step s (i :: is) = s := by
  rw [execute, h]

/-- What every executed instruction preserves holds after the whole batch. -/
theorem execute_invariant {P : σ → Prop} {is : List ι} {s : σ} (hs : P s)
    (hstep : ∀ i ∈ is, ∀ s t, P s → step s i = some t → P t) : P (execute step s is) := by
  induction is generalizing s with
  | nil => exact hs
  | cons i is ih =>
    cases h : step s i with
    | none => rwa [execute_cons_of_none h]
    | some t =>
      rw [execute_cons_of_some h]
      exact ih (hstep i (by simp) s t hs h) fun j hj => hstep j (by simp [hj])

/-- A machine that simulates another one step by step, on the states `f` gives it, simulates
its batches. -/
theorem execute_map {τ ι' : Type*} {step' : τ → ι' → Option τ} (f : τ → σ) (g : ι → ι')
    {is : List ι} (hstep : ∀ t, ∀ i ∈ is, step (f t) i = (step' t (g i)).map f) (t : τ) :
    execute step (f t) is = f (execute step' t (is.map g)) := by
  induction is generalizing t with
  | nil => rfl
  | cons i is ih =>
    have h := hstep t i (by simp)
    rw [List.map_cons]
    cases h' : step' t (g i) with
    | none =>
      rw [h', Option.map_none] at h
      rw [execute_cons_of_none h, execute_cons_of_none h']
    | some u =>
      rw [h', Option.map_some] at h
      rw [execute_cons_of_some h, execute_cons_of_some h']
      exact ih (fun t j hj => hstep t j (by simp [hj])) u

end Execute

section Session

variable (enter : κ → σ) (leave : σ → κ) (step : σ → ι → Option σ)

/-- The stored value after a batch in a session of its own. -/
def send (c : κ) (is : List ι) : κ :=
  leave (execute step (enter c) is)

/-- Wherever the forward batch stops, the inverse batch brings the stored value back. -/
def Undoes (forward inverse : List ι) (c : κ) : Prop :=
  ∀ k, send enter leave step (send enter leave step c (forward.take k)) inverse = c

variable {enter leave step}

/-- The frame rule: the forward instructions stay in the frame, and from every state of the
frame the inverse batch restores the stored value. -/
theorem undoes_of_frame {forward inverse : List ι} {c : κ} (Frame : σ → Prop)
    (hstart : Frame (enter c))
    (hstep : ∀ i ∈ forward, ∀ s t, Frame s → step s i = some t → Frame t)
    (hinverse : ∀ s, Frame s → send enter leave step (leave s) inverse = c) :
    Undoes enter leave step forward inverse c := by
  intro k
  refine hinverse _ (execute_invariant hstart fun i hi s t => hstep i ?_ s t)
  exact List.mem_of_mem_take hi

/-- Batches whose first instructions are both refused change nothing. -/
lemma undoes_of_refused {i j : ι} {forward inverse : List ι} {c : κ}
    (hleave : leave (enter c) = c) (hi : step (enter c) i = none)
    (hj : step (enter c) j = none) :
    Undoes enter leave step (i :: forward) (j :: inverse) c := by
  intro k
  have hforward : send enter leave step c ((i :: forward).take k) = c := by
    cases k with
    | zero => exact hleave
    | succ k => rw [send, List.take_succ_cons, execute_cons_of_none hi, hleave]
  rw [hforward, send, execute_cons_of_none hj, hleave]

/-- An undone batch is in particular undone when all of it was executed. -/
lemma Undoes.all {forward inverse : List ι} {c : κ}
    (h : Undoes enter leave step forward inverse c) :
    send enter leave step (send enter leave step c forward) inverse = c := by
  have h' := h forward.length
  rwa [List.take_length] at h'

/-- A forward batch need only be stopped within its length. -/
lemma undoes_iff_le {forward inverse : List ι} {c : κ} :
    Undoes enter leave step forward inverse c ↔ ∀ k ≤ forward.length,
      send enter leave step (send enter leave step c (forward.take k)) inverse = c := by
  refine ⟨fun h k _ => h k, fun h k => ?_⟩
  rcases Nat.le_total k forward.length with hk | hk
  · exact h k hk
  · have hall := h forward.length (Nat.le_refl _)
    rw [List.take_length] at hall
    rwa [List.take_of_length_le hk]

variable (enter leave step) in
/-- The component rule: two batches that both begin with the header of a component work on the
component alone, so the inverse undoes the forward batch exactly when it does so there. -/
theorem undoes_component_iff {τ ι' : Type*} (step' : τ → ι' → Option τ) (f : τ → σ) (g : ι → ι')
    (header : ι) {forward inverse : List ι} (t : τ)
    (hleave : leave (enter (leave (f t))) = leave (f t))
    (hheader : ∀ u, step (enter (leave (f u))) header = some (f u))
    (hinj : Function.Injective fun u => leave (f u))
    (hstep : ∀ u, ∀ i ∈ forward ++ inverse, step (f u) i = (step' u (g i)).map f) :
    Undoes enter leave step (header :: forward) (header :: inverse) (leave (f t)) ↔
      Undoes id id step' (forward.map g) (inverse.map g) t := by
  have hsend : ∀ u is, (∀ i ∈ is, i ∈ forward ++ inverse) →
      send enter leave step (leave (f u)) (header :: is) =
        leave (f (execute step' u (is.map g))) := by
    intro u is his
    rw [send, execute_cons_of_some (hheader u),
      execute_map f g fun v i hi => hstep v i (his i hi)]
  have hforward : ∀ k, ∀ i ∈ forward.take k, i ∈ forward ++ inverse := fun k i hi =>
    List.mem_append_left _ (List.mem_of_mem_take hi)
  have hinverse : ∀ i ∈ inverse, i ∈ forward ++ inverse := fun i hi =>
    List.mem_append_right _ hi
  constructor
  · intro h k
    have hk := h (k + 1)
    rw [List.take_succ_cons, hsend _ _ (hforward k), hsend _ _ hinverse] at hk
    rw [send, send, ← List.map_take]
    exact hinj hk
  · intro h k
    cases k with
    | zero =>
      have h0 : execute step' t (inverse.map g) = t := h 0
      show send enter leave step (leave (enter (leave (f t)))) (header :: inverse) = leave (f t)
      rw [hleave, hsend _ _ hinverse, h0]
    | succ k =>
      have hk := h k
      rw [send, send, ← List.map_take] at hk
      rw [List.take_succ_cons, hsend _ _ (hforward k), hsend _ _ hinverse]
      exact congrArg (fun u => leave (f u)) hk

end Session

end Terraformer.Compensation
