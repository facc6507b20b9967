import Mathlib

/-!
# Scanners

A scanner takes tokens from the front of an input, one after another, until what is left does
not hold a whole token.  `Scanner` carries the two facts that make it work on input that arrives
in pieces: a token is never empty input, and it does not depend on what follows it.

`scan` gives the tokens and the input that is left over.  `scan_append` and `feed_eq_scan` say
that a reader who keeps what is left over for its next piece gets the tokens of the whole input,
however it is cut.
-/

namespace Terraformer

/-- A way to take one token from the front of an input. -/
structure Scanner (β γ : Type*) where
  step : List β → Option (γ × List β)
  shorter : ∀ {x t r}, step x = some (t, r) → r.length < x.length
  stable : ∀ {x t r} (y), step x = some (t, r) → step (x ++ y) = some (t, r ++ y)

namespace Scanner

variable {β γ : Type*} (s : Scanner β γ)

/-- The tokens of an input, and what is left over. -/
def scan (x : List β) : List γ × List β :=
  match h : s.step x with
  | none => ([], x)
  | some (t, r) =>
    have := s.shorter h
    (t :: (scan r).1, (scan r).2)
termination_by x.length

variable {s}

/-- Where no step is possible the scan ends. -/
lemma scan_of_none {x : List β} (h : s.step x = none) : s.scan x = ([], x) := by
  rw [scan]
  split
  · rfl
  · rename_i hsome
    rw [h] at hsome
    cases hsome

/-- The scan goes on behind a step. -/
lemma scan_of_some {x r : List β} {t : γ} (h : s.step x = some (t, r)) :
    s.scan x = (t :: (s.scan r).1, (s.scan r).2) := by
  rw [scan]
  split
  · rename_i hnone
    rw [h] at hnone
    cases hnone
  · rename_i t' r' hsome
    obtain ⟨rfl, rfl⟩ := Prod.mk.inj (Option.some.inj (h.symm.trans hsome))
    rfl

/-- Induction along the tokens of an input. -/
lemma scan_induction {motive : List β → Prop} (hnone : ∀ x, s.step x = none → motive x)
    (hsome : ∀ x t r, s.step x = some (t, r) → motive r → motive x) (x : List β) : motive x := by
  induction hn : x.length using Nat.strongRecOn generalizing x with
  | _ n ih =>
    cases h : s.step x with
    | none => exact hnone x h
    | some p => exact hsome x p.1 p.2 h (ih _ (hn ▸ s.shorter h) _ rfl)

/-- The tokens of an input are those of its first part, and then those of what that left over
with the second part behind it. -/
lemma scan_append (x y : List β) :
    s.scan (x ++ y) = ((s.scan x).1 ++ (s.scan ((s.scan x).2 ++ y)).1,
      (s.scan ((s.scan x).2 ++ y)).2) := by
  induction x using scan_induction (s := s) with
  | hnone x h => simp [scan_of_none h]
  | hsome x t r h ih => simp [scan_of_some h, scan_of_some (s.stable y h), ih]

/-- What is left over holds no whole token. -/
lemma step_scan (x : List β) : s.step (s.scan x).2 = none := by
  induction x using scan_induction (s := s) with
  | hnone x h => rw [scan_of_none h, h]
  | hsome x t r h ih => rw [scan_of_some h, ih]

/-- There is nothing more to scan in what is left over. -/
@[simp] lemma scan_scan (x : List β) : s.scan (s.scan x).2 = ([], (s.scan x).2) :=
  scan_of_none (step_scan x)

variable (s)

/-- The next piece of the input: its tokens, with what was left over in front. -/
def feed (state : List γ × List β) (piece : List β) : List γ × List β :=
  (state.1 ++ (s.scan (state.2 ++ piece)).1, (s.scan (state.2 ++ piece)).2)

variable {s}

/-- An input that arrives in pieces is scanned as if it arrived at once. -/
lemma foldl_feed (pieces : List (List β)) (x : List β) :
    pieces.foldl s.feed (s.scan x) = s.scan (x ++ pieces.flatten) := by
  induction pieces generalizing x with
  | nil => simp
  | cons piece pieces ih =>
    rw [List.foldl_cons, feed, ← scan_append, ih, List.flatten_cons, List.append_assoc]

/-- There is no step at the end. -/
@[simp] lemma step_nil : s.step [] = none := by
  rw [Option.eq_none_iff_forall_not_mem]
  rintro ⟨t, r⟩ h
  exact absurd (s.shorter h) (Nat.not_lt_zero _)

/-- There is nothing to scan at the end. -/
@[simp] lemma scan_nil : s.scan [] = ([], []) := scan_of_none step_nil

/-- Feeding pieces is scanning what they make together. -/
lemma feed_eq_scan (pieces : List (List β)) :
    pieces.foldl s.feed ([], []) = s.scan pieces.flatten := by
  have h := foldl_feed (s := s) pieces []
  rwa [scan_nil, List.nil_append] at h

end Scanner

end Terraformer
