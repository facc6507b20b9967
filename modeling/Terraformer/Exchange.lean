import Mathlib

/-!
# Announced calls and their answers

Sequences of messages in which a message may announce calls and later messages answer them.
A sequence is settled when the answers to a message's calls follow it directly, one for each
call in any order (`Settled`).

Settled sequences may be put together and cut before any message that is no answer
(`settled_append_iff`).  A cut elsewhere orphans answers at the front of the second part and
leaves calls open at the end of the first: dropping the leading answers of the second part
settles it (`Settled.dropWhile_drop`), while the first part stays unsettled
(`Settled.take_cases`).
-/

namespace Terraformer.Exchange

variable {μ ι : Type*}

/-- What a message is to an exchange. -/
inductive Kind (ι : Type*) where
  | plain
  /-- The message announces calls, none if the list is empty. -/
  | announce (calls : List ι)
  | answer (call : ι)

/-- The message answers a call. -/
def Kind.isAnswer : Kind ι → Bool
  | .answer _ => true
  | _ => false

variable {kind : μ → Kind ι}

/-- Each announced call is answered exactly once before the next message that is no answer, and
nothing else is answered. -/
inductive Settled (kind : μ → Kind ι) : List μ → Prop
  | nil : Settled kind []
  | plain {m : μ} {l : List μ} (hm : kind m = .plain) (hl : Settled kind l) :
      Settled kind (m :: l)
  | announce {m : μ} {calls : List ι} {answers l : List μ} (hm : kind m = .announce calls)
      (hanswers : List.Perm (answers.map kind) (calls.map .answer)) (hl : Settled kind l) :
      Settled kind (m :: (answers ++ l))

/-- Messages that settle a list of calls are answers. -/
lemma isAnswer_of_perm {calls : List ι} {answers : List μ}
    (h : List.Perm (answers.map kind) (calls.map .answer)) {m : μ} (hm : m ∈ answers) :
    (kind m).isAnswer = true := by
  have hmem := h.mem_iff.mp (List.mem_map_of_mem hm)
  obtain ⟨call, -, hcall⟩ := List.mem_map.mp hmem
  rw [← hcall]
  rfl

namespace Settled

/-- A settled sequence does not begin with an answer. -/
lemma isAnswer_head {m : μ} {l : List μ} (h : Settled kind (m :: l)) :
    (kind m).isAnswer = false := by
  cases h with
  | plain hm _ => rw [hm]; rfl
  | announce hm _ _ => rw [hm]; rfl

/-- A settled sequence has no leading answers to drop. -/
lemma dropWhile_eq {l : List μ} (h : Settled kind l) :
    l.dropWhile (fun m => (kind m).isAnswer) = l := by
  cases l with
  | nil => rfl
  | cons m l => rw [List.dropWhile_cons, h.isAnswer_head, if_neg (by decide)]

/-- Two exchanges that are settled are settled one after the other. -/
lemma append {a b : List μ} (ha : Settled kind a) (hb : Settled kind b) :
    Settled kind (a ++ b) := by
  induction ha with
  | nil => exact hb
  | plain hm _ ih => exact .plain hm ih
  | announce hm hanswers _ ih =>
    rw [List.cons_append, List.append_assoc]
    exact .announce hm hanswers ih

/-- Cut anywhere, the second part of a settled sequence is settled once the answers it begins
with are dropped. -/
lemma dropWhile_drop {l : List μ} (h : Settled kind l) (n : ℕ) :
    Settled kind ((l.drop n).dropWhile fun m => (kind m).isAnswer) := by
  induction h generalizing n with
  | nil => simpa using Settled.nil
  | @plain m l hm hl ih =>
    cases n with
    | zero =>
      rw [List.drop_zero, (Settled.plain hm hl).dropWhile_eq]
      exact .plain hm hl
    | succ n => exact ih n
  | @announce m calls answers l hm hanswers hl ih =>
    cases n with
    | zero =>
      rw [List.drop_zero, (Settled.announce hm hanswers hl).dropWhile_eq]
      exact .announce hm hanswers hl
    | succ n =>
      have hdrop : (answers.drop n).dropWhile (fun m => (kind m).isAnswer) = [] :=
        List.dropWhile_eq_nil_iff.mpr fun m hm =>
          isAnswer_of_perm hanswers (List.mem_of_mem_drop hm)
      rw [List.drop_succ_cons, List.drop_append, List.dropWhile_append, hdrop]
      exact ih _

end Settled

/-- A sequence may be cut before a message that is no answer. -/
theorem settled_append_iff {a b : List μ} (hb : ∀ m ∈ b.head?, (kind m).isAnswer = false) :
    Settled kind (a ++ b) ↔ Settled kind a ∧ Settled kind b := by
  refine ⟨fun h => ?_, fun h => h.1.append h.2⟩
  generalize hl : a ++ b = l at h
  induction h generalizing a with
  | nil =>
    obtain ⟨rfl, rfl⟩ := List.append_eq_nil_iff.mp hl
    exact ⟨.nil, .nil⟩
  | @plain m l hm hsettled ih =>
    cases a with
    | nil =>
      obtain rfl : b = m :: l := hl
      exact ⟨.nil, .plain hm hsettled⟩
    | cons m' a =>
      obtain ⟨rfl, htail⟩ := List.cons.inj ((List.cons_append ..).symm.trans hl)
      exact ⟨.plain hm (ih htail).1, (ih htail).2⟩
  | @announce m calls answers l hm hanswers hsettled ih =>
    cases a with
    | nil =>
      obtain rfl : b = m :: (answers ++ l) := hl
      exact ⟨.nil, .announce hm hanswers hsettled⟩
    | cons m' a =>
      obtain ⟨rfl, htail⟩ := List.cons.inj ((List.cons_append ..).symm.trans hl)
      rcases List.append_eq_append_iff.mp htail with ⟨rest, rfl, rfl⟩ | ⟨rest, rfl, hrest⟩
      · -- the cut lies behind some of the answers, and the next message is none
        cases rest with
        | nil =>
          rw [List.append_nil] at hanswers
          have h := Settled.announce hm hanswers .nil
          rw [List.append_nil] at h
          exact ⟨h, hsettled⟩
        | cons r rest =>
          have hanswer := isAnswer_of_perm hanswers (m := r) (by simp)
          rw [hb r rfl] at hanswer
          cases hanswer
      · obtain ⟨h, h'⟩ := ih hrest.symm
        exact ⟨.announce hm hanswers h, h'⟩

/-- A plain message in front changes nothing. -/
lemma settled_plain_cons_iff {m : μ} {l : List μ} (hm : kind m = .plain) :
    Settled kind (m :: l) ↔ Settled kind l := by
  refine ⟨fun h => ?_, .plain hm⟩
  generalize hl : m :: l = l' at h
  cases h with
  | nil => cases hl
  | plain _ h =>
    obtain ⟨-, rfl⟩ := List.cons.inj hl
    exact h
  | announce hm' _ _ =>
    obtain ⟨rfl, -⟩ := List.cons.inj hl
    rw [hm] at hm'
    cases hm'

/-- An announcement with answers behind it is settled exactly when these are one for each
call. -/
lemma settled_announce_iff {m : μ} {calls : List ι} {answers : List μ}
    (hm : kind m = .announce calls) (hanswers : ∀ a ∈ answers, (kind a).isAnswer = true) :
    Settled kind (m :: answers) ↔ List.Perm (answers.map kind) (calls.map .answer) := by
  constructor
  · intro h
    generalize hl : m :: answers = l at h
    cases h with
    | nil => cases hl
    | plain hm' _ =>
      obtain ⟨rfl, -⟩ := List.cons.inj hl
      rw [hm] at hm'
      cases hm'
    | @announce _ calls' answers' rest hm' hanswers' hrest =>
      obtain ⟨rfl, rfl⟩ := List.cons.inj hl
      rw [hm] at hm'
      cases hm'
      -- what follows the answers is itself settled, so there is nothing
      cases rest with
      | nil => simpa using hanswers'
      | cons r rest =>
        have hr := hanswers r (by simp)
        rw [hrest.isAnswer_head] at hr
        cases hr
  · intro h
    have h := Settled.announce hm h .nil
    rwa [List.append_nil] at h

/-- A map that keeps what messages announce and answer keeps whether they are settled. -/
lemma settled_map_iff {ν : Type*} {kind' : ν → Kind ι} {f : μ → ν}
    (hf : ∀ m, kind' (f m) = kind m) {l : List μ} : Settled kind' (l.map f) ↔ Settled kind l := by
  have hmap : ∀ answers : List μ, (answers.map f).map kind' = answers.map kind := fun answers => by
    rw [List.map_map]
    exact List.map_congr_left fun m _ => hf m
  constructor
  · intro h
    generalize hl : l.map f = l' at h
    induction h generalizing l with
    | nil =>
      obtain rfl := List.map_eq_nil_iff.mp hl
      exact .nil
    | plain hm _ ih =>
      obtain ⟨m, l, rfl, rfl, hrest⟩ := List.map_eq_cons_iff.mp hl
      exact .plain ((hf m).symm.trans hm) (ih hrest)
    | announce hm hanswers _ ih =>
      obtain ⟨m, l, rfl, rfl, hrest⟩ := List.map_eq_cons_iff.mp hl
      obtain ⟨answers, rest, rfl, rfl, htail⟩ := List.map_eq_append_iff.mp hrest
      rw [hmap] at hanswers
      exact .announce ((hf m).symm.trans hm) hanswers (ih htail)
  · intro h
    induction h with
    | nil => exact .nil
    | plain hm _ ih => exact .plain ((hf _).trans hm) ih
    | announce hm hanswers _ ih =>
      rw [List.map_cons, List.map_append]
      refine .announce ((hf _).trans hm) ?_ ih
      rwa [hmap]

/-- A beginning of a settled sequence is settled, or ends in an announcement whose calls are
not all answered. -/
theorem Settled.take_cases {l : List μ} (h : Settled kind l) (n : ℕ) :
    Settled kind (l.take n) ∨ ∃ front m calls answers, l.take n = front ++ m :: answers ∧
      Settled kind front ∧ kind m = .announce calls ∧
      (∀ a ∈ answers, (kind a).isAnswer = true) ∧ answers.length < calls.length := by
  induction h generalizing n with
  | nil => exact Or.inl (by rw [List.take_nil]; exact .nil)
  | @plain m l hm hl ih =>
    cases n with
    | zero => exact Or.inl .nil
    | succ n =>
      rw [List.take_succ_cons]
      rcases ih n with h | ⟨front, m', calls, answers, heq, hfront, hrest⟩
      · exact Or.inl (.plain hm h)
      · exact Or.inr ⟨m :: front, m', calls, answers, by rw [heq, List.cons_append],
          .plain hm hfront, hrest⟩
  | @announce m calls answers l hm hanswers hl ih =>
    cases n with
    | zero => exact Or.inl .nil
    | succ n =>
      rw [List.take_succ_cons, List.take_append]
      rcases Nat.lt_or_ge n answers.length with hn | hn
      · -- the cut lies among the answers
        rw [Nat.sub_eq_zero_of_le (Nat.le_of_lt hn), List.take_zero, List.append_nil]
        refine Or.inr ⟨[], m, calls, answers.take n, rfl, .nil, hm, fun a ha =>
          isAnswer_of_perm hanswers (List.mem_of_mem_take ha), ?_⟩
        have hlength := hanswers.length_eq
        rw [List.length_map, List.length_map] at hlength
        rw [List.length_take]
        omega
      · rw [List.take_of_length_le hn]
        rcases ih (n - answers.length) with h | ⟨front, m', calls', answers', heq, hfront, hrest⟩
        · exact Or.inl (.announce hm hanswers h)
        · exact Or.inr ⟨m :: (answers ++ front), m', calls', answers', by
            rw [heq, List.cons_append, List.append_assoc], .announce hm hanswers hfront, hrest⟩

end Terraformer.Exchange
