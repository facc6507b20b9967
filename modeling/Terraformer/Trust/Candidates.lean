import Terraformer.Admission.Connection
import Terraformer.Transitions

/-!
# Host-key candidates

`HostKeyCandidateStore` over time.  A candidate is kept in Redis under a fresh id with the digest
of the connection fields it was collected for, and it expires after a quarter of an hour.

Whatever the store holds was collected (`Collected`), and what it holds of a candidate never
changes while it holds it (`candidates_of_after`), so two looks at one candidate see the same key.
-/

namespace Terraformer.Trust

open Admission

variable {β : Type}

/-! ## The store -/

/-- `_CANDIDATE_TTL_SECONDS`, in microseconds. -/
def candidateTtl : ℤ := 15 * 60 * 1000000

/-- A host key that was collected: under which id, for what, and when. -/
structure Collection where
  id : Uuid
  binding : HostKeyCandidateBinding
  key : HostKey
  time : ℤ

/-- When a candidate expires. -/
def Collection.expiresAt (c : Collection) : ℤ := c.time + candidateTtl

/-- A candidate as it is stored under the digest of its binding. -/
def Collection.stored (digest : HostKeyCandidateBinding → β) (c : Collection) :
    StoredCandidate β :=
  ⟨digest c.binding, c.key, c.expiresAt⟩

/-- The candidates that Redis holds, and everything that was collected so far. -/
structure CandidateStore (β : Type) extends Moment β where
  collected : List Collection

/-- The store at the beginning holds nothing. -/
def CandidateStore.initial (now : ℤ) : CandidateStore β where
  candidates _ := none
  now := now
  collected := []

/-- What may happen next to the store. -/
inductive CandidateAction where
  /-- `HostKeyCandidateStore.create`, with the id that `uuid4` draws. -/
  | create (id : Uuid) (request : DeviceConnectionFields) (material : HostKey)
  /-- `HostKeyCandidateStore.delete`, or Redis drops a candidate. -/
  | drop (id : Uuid)
  | wait (duration : ℕ)

/-- What an action does to the store. -/
def step (digest : HostKeyCandidateBinding → β) (store : CandidateStore β) :
    CandidateAction → Option (CandidateStore β)
  | .create id request material =>
    -- `uuid4` draws no id twice.
    if store.collected.any (·.id = id) then none
    else
      let collection : Collection :=
        ⟨id, request.toHostKeyCandidateBinding, material, store.now⟩
      some
        { store with
          candidates := Function.update store.candidates id (some (collection.stored digest))
          collected := collection :: store.collected }
  | .drop id => some { store with candidates := Function.update store.candidates id none }
  | .wait duration => some { store with now := store.now + duration }

/-! ## What the store holds -/

/-- Every candidate in the store was collected. -/
def Collected (digest : HostKeyCandidateBinding → β) (store : CandidateStore β) : Prop :=
  ∀ id candidate, store.candidates id = some candidate →
    ∃ c ∈ store.collected, c.id = id ∧ candidate = c.stored digest

variable {digest : HostKeyCandidateBinding → β} {store store' : CandidateStore β}
  {action : CandidateAction}

/-- At the beginning there is no candidate. -/
lemma collected_initial (now : ℤ) : Collected digest (.initial now : CandidateStore β) :=
  fun _ _ h => by cases h

/-- What a step leaves of a candidate, or adds as a new one. -/
lemma candidates_of_step (h : step digest store action = some store') (id : Uuid) :
    store'.candidates id = none ∨ store'.candidates id = store.candidates id ∨
      ∃ c ∈ store'.collected, c.id = id ∧ (∀ d ∈ store.collected, d.id ≠ id) ∧
        store'.candidates id = some (c.stored digest) := by
  cases action with
  | create id' request material =>
    rw [step] at h
    split_ifs at h with hfresh
    obtain rfl := Option.some.inj h
    rcases eq_or_ne id id' with rfl | hne
    · refine Or.inr (Or.inr ⟨_, List.mem_cons_self, rfl, fun d hd heq => hfresh ?_,
        Function.update_self ..⟩)
      exact List.any_eq_true.mpr ⟨d, hd, by simpa using heq⟩
    · exact Or.inr (Or.inl (Function.update_of_ne hne ..))
  | drop id' =>
    obtain rfl := Option.some.inj h
    rcases eq_or_ne id id' with rfl | hne
    · exact Or.inl (Function.update_self ..)
    · exact Or.inr (Or.inl (Function.update_of_ne hne ..))
  | wait duration =>
    obtain rfl := Option.some.inj h
    exact Or.inr (Or.inl rfl)

/-- No collection is forgotten. -/
lemma collected_subset_of_step (h : step digest store action = some store') :
    store.collected ⊆ store'.collected := by
  cases action with
  | create id request material =>
    rw [step] at h
    split_ifs at h
    obtain rfl := Option.some.inj h
    exact List.subset_cons_self ..
  | drop id | wait duration =>
    obtain rfl := Option.some.inj h
    exact List.Subset.refl _

/-- A step keeps the store to what was collected. -/
lemma Collected.step (hstore : Collected digest store)
    (h : step digest store action = some store') : Collected digest store' := by
  intro id candidate hcandidate
  rcases candidates_of_step h id with hnone | heq | ⟨c, hc, hid, -, heq⟩
  · rw [hnone] at hcandidate
    cases hcandidate
  · obtain ⟨c, hc, hid, hstored⟩ := hstore id candidate (heq ▸ hcandidate)
    exact ⟨c, collected_subset_of_step h hc, hid, hstored⟩
  · exact ⟨c, hc, hid, Option.some.inj (hcandidate.symm.trans heq)⟩

/-- A run keeps the store to what was collected. -/
lemma Collected.after {actions : List CandidateAction} (hstore : Collected digest store)
    (h : after (Trust.step digest) store actions = some store') : Collected digest store' := by
  induction actions generalizing store with
  | nil =>
    obtain rfl := Option.some.inj h
    exact hstore
  | cons action actions ih =>
    obtain ⟨between, hstep, hafter⟩ := Option.bind_eq_some_iff.mp h
    exact ih (hstore.step hstep) hafter

/-- A step drops a candidate that was collected, or leaves it. -/
lemma candidates_of_step_of_collected {id : Uuid} (h : step digest store action = some store')
    (hid : ∃ c ∈ store.collected, c.id = id) :
    store'.candidates id = none ∨ store'.candidates id = store.candidates id := by
  rcases candidates_of_step h id with hnone | heq | ⟨-, -, -, hfresh, -⟩
  · exact Or.inl hnone
  · exact Or.inr heq
  · obtain ⟨c, hc, hc'⟩ := hid
    exact absurd hc' (hfresh c hc)

/-- A candidate that was collected is gone later, or it is still what it was. -/
lemma candidates_of_after {actions : List CandidateAction} {id : Uuid}
    (h : after (step digest) store actions = some store')
    (hid : ∃ c ∈ store.collected, c.id = id) :
    store'.candidates id = none ∨ store'.candidates id = store.candidates id := by
  induction actions generalizing store with
  | nil =>
    obtain rfl := Option.some.inj h
    exact Or.inr rfl
  | cons action actions ih =>
    obtain ⟨between, hstep, hafter⟩ := Option.bind_eq_some_iff.mp h
    have hbetween := candidates_of_step_of_collected hstep hid
    obtain ⟨c, hc, hc'⟩ := hid
    rcases ih hafter ⟨c, collected_subset_of_step hstep hc, hc'⟩ with hnone | heq
    · exact Or.inl hnone
    · rwa [heq]

end Terraformer.Trust
