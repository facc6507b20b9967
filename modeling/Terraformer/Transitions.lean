import Mathlib

/-!
# Transitions

A system takes one action after another: `step s a` is the state that the action `a` leads to
from `s`, or `none` where the action is not possible.

`after` is the state that a list of actions leads to, and `Along` says that something holds of
every step on the way.  `along_of_inv` is the invariant rule; `along_iff_of_inv` compares two
properties of the steps of a run while the invariant lasts.
-/

namespace Terraformer

variable {σ α : Type*} {step : σ → α → Option σ}

variable (step) in
/-- The state that a list of actions leads to. -/
def after : σ → List α → Option σ
  | s, [] => some s
  | s, a :: actions => (step s a).bind fun t => after t actions

variable (step) in
/-- `C` holds of every step: of the state before it, the action and the state after it. -/
def Along (C : σ → α → σ → Prop) : σ → List α → Prop
  | _, [] => True
  | s, a :: actions => ∀ t, step s a = some t → C s a t ∧ Along C t actions

/-- Whether a condition holds along given actions can be decided. -/
instance decidableAlong (C : σ → α → σ → Prop) [∀ s a t, Decidable (C s a t)] :
    ∀ (s : σ) (actions : List α), Decidable (Along step C s actions)
  | _, [] => isTrue trivial
  | s, a :: actions =>
    match h : step s a with
    | none => isTrue fun _ ht => nomatch h.symm.trans ht
    | some t =>
      have := decidableAlong C t actions
      decidable_of_iff (C s a t ∧ Along step C t actions)
        ⟨fun hC _ hu => Option.some.inj (h.symm.trans hu) ▸ hC, fun hC => hC t h⟩

variable {C D : σ → α → σ → Prop} {Inv : σ → Prop} {s t u : σ}
  {actions : List α}

/-- What holds of every step holds of each. -/
lemma Along.holds {front back : List α} {a : α} (h : Along step C s (front ++ a :: back))
    (hfront : after step s front = some t) (ha : step t a = some u) : C t a u := by
  induction front generalizing s with
  | nil =>
    obtain rfl := Option.some.inj hfront
    exact (h u ha).1
  | cons b front ih =>
    obtain ⟨r, hr, hafter⟩ := Option.bind_eq_some_iff.mp hfront
    exact ih (h r hr).2 hafter

/-- A stronger condition holds along fewer runs. -/
lemma Along.mono (h : Along step C s actions) (hCD : ∀ s a t, C s a t → D s a t) :
    Along step D s actions := by
  induction actions generalizing s with
  | nil => trivial
  | cons a actions ih => exact fun t ht => ⟨hCD _ _ _ (h t ht).1, ih (h t ht).2⟩

/-- The trivial condition holds along every run. -/
lemma along_true (s : σ) (actions : List α) : Along step (fun _ _ _ => True) s actions := by
  induction actions generalizing s with
  | nil => trivial
  | cons a actions ih => exact fun t _ => ⟨trivial, ih t⟩

/-- What an invariant gives of one step holds of every step. -/
lemma along_of_inv (hstep : ∀ s a t, Inv s → step s a = some t → C s a t → D s a t ∧ Inv t)
    (hs : Inv s) (hC : Along step C s actions) : Along step D s actions := by
  induction actions generalizing s with
  | nil => trivial
  | cons a actions ih =>
    intro t ht
    obtain ⟨hD, hInv⟩ := hstep s a t hs ht (hC t ht).1
    exact ⟨hD, ih hInv (hC t ht).2⟩

/-- Two properties of steps that agree while an invariant lasts, and keep it, agree on runs. -/
lemma along_iff_of_inv (hstep : ∀ s a t, Inv s → step s a = some t → (D s a t ↔ C s a t))
    (hinv : ∀ s a t, Inv s → step s a = some t → C s a t → Inv t) (hs : Inv s) :
    Along step D s actions ↔ Along step C s actions := by
  induction actions generalizing s with
  | nil => exact Iff.rfl
  | cons a actions ih =>
    refine forall₂_congr fun t ht => ?_
    rw [hstep s a t hs ht]
    exact and_congr_right fun hC => ih (hinv s a t hs ht hC)

/-- Where a step that does not meet the condition spoils the state for good, a run either meets it
throughout and keeps the invariant, or ends spoilt. -/
lemma along_or_spoilt {Spoilt : σ → Prop}
    (hinv : ∀ s a t, Inv s → step s a = some t → C s a t → Inv t)
    (hspoil : ∀ s a t, Inv s → step s a = some t → ¬C s a t → Spoilt t)
    (hlast : ∀ s a t, Spoilt s → step s a = some t → Spoilt t) (hs : Inv s)
    (ht : after step s actions = some t) :
    (Along step C s actions ∧ Inv t) ∨ (¬Along step C s actions ∧ Spoilt t) := by
  have hforever : ∀ (rest : List α) (u : σ), Spoilt u → after step u rest = some t → Spoilt t := by
    intro rest
    induction rest with
    | nil => rintro u hu ⟨⟩; exact hu
    | cons a rest ih =>
      intro u hu hrest
      obtain ⟨r, hr, hafter⟩ := Option.bind_eq_some_iff.mp hrest
      exact ih r (hlast u a r hu hr) hafter
  induction actions generalizing s with
  | nil =>
    obtain rfl := Option.some.inj ht
    exact Or.inl ⟨trivial, hs⟩
  | cons a actions ih =>
    obtain ⟨r, hr, hafter⟩ := Option.bind_eq_some_iff.mp ht
    by_cases hC : C s a r
    · have hiff : Along step C s (a :: actions) ↔ Along step C r actions := by
        refine ⟨fun h => (h r hr).2, fun h u hu => ?_⟩
        obtain rfl := Option.some.inj (hr.symm.trans hu)
        exact ⟨hC, h⟩
      rw [hiff]
      exact ih (hinv s a r hs hr hC) hafter
    · exact Or.inr ⟨fun h => hC (h r hr).1, hforever actions r (hspoil s a r hs hr hC) hafter⟩

end Terraformer
