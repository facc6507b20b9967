import Terraformer.Expiring

/-!
# Windows

A sorted set can serve as a sliding window: what enters it is scored with the time, what is older
than the width of the window leaves when something enters, and the key expires when nothing has
entered for that long.  `Records` says that a window still holds what may be counted of the entries
that were recorded, and `length_recent_concat` that a limit is kept in every interval of that width
if it is checked at each entry.
-/

namespace Terraformer.Expiring

variable {μ : Type}

/-- The entries of the half-open interval that ends at a time. -/
def recent (width time : ℤ) (entries : List (μ × ℤ)) : List (μ × ℤ) :=
  entries.filter fun entry => time - width < entry.2 ∧ entry.2 ≤ time

/-- A window that was last changed at a time holds what may be counted from then on. -/
structure Records (width changedAt : ℤ) (window : Timed (List (μ × ℤ))) (entries : List (μ × ℤ)) :
    Prop where
  nodup : (entries.map Prod.fst).Nodup
  member : ∀ entry ∈ window.value, entry ∈ entries
  time_le : ∀ entry ∈ entries, entry.2 ≤ changedAt
  kept : ∀ entry ∈ entries, entry ∈ window.value ∨ entry.2 + width ≤ changedAt
  expires : ∀ entry ∈ window.value,
    ∃ time, window.expiresAt = some time ∧ entry.2 + width ≤ time

variable {width changedAt clock now : ℤ} {window : Timed (List (μ × ℤ))} {entries : List (μ × ℤ)}

/-- Where nothing was recorded, nothing needs to be held. -/
lemma records_absent : Records width changedAt (absent : Timed (List (μ × ℤ))) [] where
  nodup := List.nodup_nil
  member _ hentry := by cases hentry
  time_le _ hentry := by cases hentry
  kept _ hentry := by cases hentry
  expires _ hentry := by cases hentry

/-- A window that expires held nothing that may be counted any longer. -/
lemma Records.purge {changedAt' : ℤ} (h : Records width changedAt window entries)
    (hsame : window.purge clock = window → changedAt' = changedAt)
    (hgone : window.purge clock ≠ window → changedAt' = clock) (hle : changedAt ≤ clock) :
    Records width changedAt' (window.purge clock) entries := by
  by_cases hpurge : window.purge clock = window
  · rw [hpurge, hsame hpurge]
    exact h
  · rw [hgone hpurge]
    rcases window.purge_cases clock with hkept | ⟨habsent, time, htime, htimele⟩
    · exact absurd hkept hpurge
    · rw [habsent]
      have hnone : ∀ entry, entry ∉ (absent : Timed (List (μ × ℤ))).value :=
        fun _ => List.not_mem_nil
      refine ⟨h.nodup, fun entry hentry => absurd hentry (hnone entry), fun entry hentry =>
        (h.time_le entry hentry).trans hle, fun entry hentry => Or.inr ?_,
        fun entry hentry => absurd hentry (hnone entry)⟩
      rcases h.kept entry hentry with hmember | hold
      · obtain ⟨time', htime', hle'⟩ := h.expires entry hmember
        obtain rfl := Option.some.inj (htime.symm.trans htime')
        exact hle'.trans htimele
      · exact hold.trans hle

/-- At a time from its last change on, a window counts what was recorded within its width. -/
lemma Records.length_recent_le (h : Records width changedAt window entries)
    (hnow : changedAt ≤ now) : (recent width now entries).length ≤
      window.value.countP fun entry => now - width < entry.2 := by
  rw [List.countP_eq_length_filter]
  have hnodup : entries.Nodup := List.Nodup.of_map Prod.fst h.nodup
  refine List.Subperm.length_le ((hnodup.filter _).subperm fun entry hentry => ?_)
  rw [List.mem_filter, decide_eq_true_eq] at hentry
  obtain ⟨hentry, hafter, -⟩ := hentry
  refine List.mem_filter.mpr ⟨?_, decide_eq_true hafter⟩
  rcases h.kept entry hentry with hmember | hold
  · exact hmember
  · -- what has left the window is too old
    omega

section Enter

variable [DecidableEq μ] {member : μ}

/-- A window that something new has entered is another. -/
lemma entered_ne {maximum ttl : ℤ} (h : ∀ entry ∈ window.value, entry.1 ≠ member) :
    entered clock maximum member now ttl window ≠ window := by
  intro heq
  have hmember : (member, now) ∈ (entered clock maximum member now ttl window).value :=
    List.mem_append_right _ (List.mem_singleton_self _)
  rw [heq] at hmember
  exact h _ hmember rfl

/-- What enters a window is recorded. -/
lemma Records.enter (h : Records width changedAt window entries) (hchanged : changedAt ≤ now)
    (hclock : now ≤ clock) (hfresh : member ∉ entries.map Prod.fst) :
    Records width clock (entered clock (now - width) member now width window)
      (entries ++ [(member, now)]) := by
  have hother : ∀ entry ∈ entries, entry.1 ≠ member := by
    rintro entry hentry rfl
    exact hfresh (List.mem_map_of_mem hentry)
  have hvalue : ∀ entry, entry ∈ (entered clock (now - width) member now width window).value ↔
      (entry ∈ window.value ∧ now - width < entry.2) ∨ entry = (member, now) := by
    intro entry
    rw [entered, List.mem_append, List.mem_singleton, List.mem_filter, List.mem_filter,
      decide_eq_true_eq, decide_eq_true_eq]
    refine or_congr_left ⟨fun hentry => hentry.1, fun hentry => ⟨hentry, ?_⟩⟩
    exact hother entry (h.member entry hentry.1)
  refine ⟨?_, fun entry hentry => ?_, fun entry hentry => ?_, fun entry hentry => ?_,
    fun entry hentry => ⟨_, rfl, ?_⟩⟩
  · rw [List.map_append]
    exact h.nodup.append (List.nodup_singleton _) (List.disjoint_singleton.mpr hfresh)
  · rcases (hvalue entry).mp hentry with ⟨hmember, -⟩ | rfl
    · exact List.mem_append_left _ (h.member entry hmember)
    · exact List.mem_append_right _ (List.mem_singleton_self _)
  · rcases List.mem_append.mp hentry with hold | hnew
    · exact (h.time_le entry hold).trans (hchanged.trans hclock)
    · rw [List.mem_singleton.mp hnew]
      exact hclock
  · rcases List.mem_append.mp hentry with hold | hnew
    · rcases h.kept entry hold with hmember | hgone
      · by_cases hafter : now - width < entry.2
        · exact Or.inl ((hvalue entry).mpr (Or.inl ⟨hmember, hafter⟩))
        · right
          omega
      · right
        omega
    · exact Or.inl ((hvalue entry).mpr (Or.inr (List.mem_singleton.mp hnew)))
  · have hnow : entry.2 ≤ now := by
      rcases (hvalue entry).mp hentry with ⟨hmember, -⟩ | rfl
      · exact (h.time_le entry (h.member entry hmember)).trans hchanged
      · exact le_rfl
    omega

end Enter

/-- One more entry is at most one more that is counted. -/
lemma length_recent_concat_le (time : ℤ) (entry : μ × ℤ) :
    (recent width time (entries ++ [entry])).length ≤ (recent width time entries).length + 1 := by
  rw [recent, List.filter_append, List.length_append]
  exact Nat.add_le_add_left (List.length_filter_le _ _) _

/-- A limit that is checked whenever something is recorded is kept in every interval. -/
lemma length_recent_concat {limit : ℕ} {member : μ} (hle : ∀ entry ∈ entries, entry.2 ≤ now)
    (hlimit : (recent width now entries).length < limit)
    (hall : ∀ time, (recent width time entries).length ≤ limit) (time : ℤ) :
    (recent width time (entries ++ [(member, now)])).length ≤ limit := by
  by_cases htime : time < now
  · have hnot : recent width time [(member, now)] = [] := by
      refine List.filter_eq_nil_iff.mpr fun entry hentry => ?_
      rw [List.mem_singleton.mp hentry, decide_eq_true_eq]
      exact fun hin => absurd hin.2 (not_le.mpr htime)
    rw [recent, List.filter_append, List.length_append]
    rw [recent] at hnot
    rw [hnot]
    exact hall time
  · -- what is recorded is no later than now, so a later interval holds no more than the one now
    have hsub : (recent width time entries).Sublist (recent width now entries) := by
      rw [recent, recent]
      have hfilter : entries.filter (fun entry => time - width < entry.2 ∧ entry.2 ≤ time) =
          (entries.filter fun entry => now - width < entry.2 ∧ entry.2 ≤ now).filter
            fun entry => time - width < entry.2 ∧ entry.2 ≤ time := by
        rw [List.filter_filter]
        refine List.filter_congr fun entry hentry => ?_
        have hentryle := hle entry hentry
        rw [← Bool.decide_and]
        refine decide_eq_decide.mpr ⟨fun hin => ⟨hin, ?_⟩, fun hin => hin.1⟩
        omega
      rw [hfilter]
      exact List.filter_sublist
    refine (length_recent_concat_le time _).trans ?_
    have hlength := hsub.length_le
    omega

end Terraformer.Expiring
