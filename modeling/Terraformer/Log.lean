import Mathlib

/-!
# Logs

A log is the list of what was done, in order.  A rule says of an entry what the entries before it
must be; a log obeys the rule when every entry does.
-/

namespace Terraformer

variable {ε : Type*} {rule : List ε → ε → Prop} {log more : List ε} {entry : ε}

/-- Every entry keeps the rule, given the entries before it. -/
def Obeys (rule : List ε → ε → Prop) (log : List ε) : Prop :=
  ∀ front entry back, log = front ++ entry :: back → rule front entry

/-- The empty log obeys every rule. -/
lemma obeys_nil : Obeys rule [] := by
  intro front entry back h
  simp at h

/-- What obeys a rule did so at every earlier time. -/
lemma Obeys.of_append (h : Obeys rule (log ++ more)) : Obeys rule log := by
  intro front entry back hlog
  exact h front entry (back ++ more) (by rw [hlog, List.append_assoc, List.cons_append])

/-- A log obeys a rule if it did before and the new entry may come behind it. -/
@[simp] lemma obeys_concat :
    Obeys rule (log ++ [entry]) ↔ Obeys rule log ∧ rule log entry := by
  refine ⟨fun h => ⟨h.of_append, h log entry [] rfl⟩, fun ⟨hlog, hentry⟩ => ?_⟩
  intro front other back h
  rcases List.eq_nil_or_concat back with rfl | ⟨rest, last, rfl⟩
  · obtain ⟨rfl, hother⟩ := List.append_inj' h rfl
    rwa [← List.singleton_inj.mp hother]
  · refine hlog front other rest ?_
    have hsplit : log ++ [entry] = (front ++ other :: rest) ++ [last] := by simpa using h
    exact (List.append_inj' hsplit rfl).1

end Terraformer
