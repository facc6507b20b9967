import Mathlib

/-!
# Journals

A database session writes rows, commits them or rolls them back.  `Journal` is what it has
written so far: the rows of the open transaction, and the rows that are committed.  A commit
makes every pending row durable; a rollback loses them.

The facts below say what a list of entries does to a journal: durable rows stay durable
(`durable_prefix_play`), only rows that are written become durable (`mem_of_mem_durable_play`), and
a row is durable when a commit follows it before a rollback does (`mem_durable_play`).  `commits`
says which rows became durable together.
-/

namespace Terraformer

/-- What a session does with its transaction. -/
inductive Entry (ω : Type*) where
  | write (row : ω)
  | commit
  | rollback
  deriving DecidableEq

/-- The rows of the open transaction and the committed rows, in the order written. -/
structure Journal (ω : Type*) where
  pending : List ω := []
  durable : List ω := []

namespace Journal

variable {ω : Type*}

/-- One entry. -/
def step (journal : Journal ω) : Entry ω → Journal ω
  | .write row => { journal with pending := journal.pending ++ [row] }
  | .commit => { pending := [], durable := journal.durable ++ journal.pending }
  | .rollback => { journal with pending := [] }

/-- The entries one after another. -/
def play (journal : Journal ω) (entries : List (Entry ω)) : Journal ω :=
  entries.foldl step journal

/-- No entry changes nothing. -/
@[simp] lemma play_nil (journal : Journal ω) : journal.play [] = journal := rfl

/-- The first entry is played first. -/
@[simp] lemma play_cons (journal : Journal ω) (e : Entry ω) (entries : List (Entry ω)) :
    journal.play (e :: entries) = (journal.step e).play entries := rfl

/-- Two lists of entries are played one after the other. -/
@[simp] lemma play_append (journal : Journal ω) (a b : List (Entry ω)) :
    journal.play (a ++ b) = (journal.play a).play b :=
  List.foldl_append

/-- Durable rows stay durable. -/
lemma durable_prefix_play (journal : Journal ω) (entries : List (Entry ω)) :
    journal.durable <+: (journal.play entries).durable := by
  induction entries generalizing journal with
  | nil => exact List.prefix_refl _
  | cons e entries ih =>
    refine List.IsPrefix.trans ?_ (ih (journal.step e))
    cases e with
    | write row => exact List.prefix_refl _
    | commit => exact List.prefix_append _ _
    | rollback => exact List.prefix_refl _

/-- Without a commit no row becomes durable. -/
lemma durable_play_of_no_commit {journal : Journal ω} {entries : List (Entry ω)}
    (h : .commit ∉ entries) : (journal.play entries).durable = journal.durable := by
  induction entries generalizing journal with
  | nil => rfl
  | cons e entries ih =>
    rw [List.mem_cons, not_or] at h
    rw [play_cons, ih h.2]
    cases e with
    | write row => rfl
    | commit => exact absurd rfl h.1
    | rollback => rfl

/-- A row that is written is pending or durable until a rollback. -/
lemma mem_play_of_no_rollback {journal : Journal ω} {row : ω} {entries : List (Entry ω)}
    (hrow : row ∈ journal.pending ∨ row ∈ journal.durable) (h : .rollback ∉ entries) :
    row ∈ (journal.play entries).pending ∨ row ∈ (journal.play entries).durable := by
  induction entries generalizing journal with
  | nil => exact hrow
  | cons e entries ih =>
    rw [List.mem_cons, not_or] at h
    rw [play_cons]
    refine ih ?_ h.2
    cases e with
    | write _ => exact hrow.imp_left (List.mem_append_left _)
    | commit => exact Or.inr (List.mem_append.mpr hrow.symm)
    | rollback => exact absurd rfl h.1

/-- A row is durable when a commit follows it and no rollback comes between. -/
lemma mem_durable_play (journal : Journal ω) {row : ω} (before : List (Entry ω))
    {between : List (Entry ω)} (h : .rollback ∉ between) (after : List (Entry ω)) :
    row ∈ (journal.play (before ++ .write row :: (between ++ .commit :: after))).durable := by
  rw [play_append, play_cons, play_append, play_cons]
  refine (durable_prefix_play _ after).subset ?_
  have hrow : row ∈ ((journal.play before).step (.write row)).pending := by simp [step]
  exact List.mem_append.mpr (mem_play_of_no_rollback (Or.inl hrow) h).symm

/-- Only rows that are written become durable. -/
lemma mem_of_mem_durable_play {journal : Journal ω} {entries : List (Entry ω)} {row : ω}
    (h : row ∈ (journal.play entries).durable) :
    row ∈ journal.durable ∨ row ∈ journal.pending ∨ .write row ∈ entries := by
  induction entries generalizing journal with
  | nil => exact Or.inl h
  | cons e entries ih =>
    rw [play_cons] at h
    rcases ih h with h | h | h
    · cases e with
      | write _ => exact Or.inl h
      | commit => exact (List.mem_append.mp h).imp_right Or.inl
      | rollback => exact Or.inl h
    · cases e with
      | write _ =>
        rcases List.mem_append.mp h with h | h
        · exact Or.inr (Or.inl h)
        · rw [List.mem_singleton.mp h]
          exact Or.inr (Or.inr (List.mem_cons_self))
      | commit => cases h
      | rollback => cases h
    · exact Or.inr (Or.inr (List.mem_cons_of_mem _ h))

/-- The rows that are committed together, commit by commit; `pending` are written already. -/
def commits (pending : List ω) : List (Entry ω) → List (List ω)
  | [] => []
  | .write row :: entries => commits (pending ++ [row]) entries
  | .commit :: entries => pending :: commits [] entries
  | .rollback :: entries => commits [] entries

/-- Without a commit nothing is committed. -/
@[simp] lemma commits_nil (pending : List ω) : commits pending [] = [] := rfl

/-- A commit makes what is pending one transaction. -/
@[simp] lemma commits_commit (pending : List ω) (entries : List (Entry ω)) :
    commits pending (.commit :: entries) = pending :: commits [] entries := rfl

/-- A rollback drops what is pending. -/
@[simp] lemma commits_rollback (pending : List ω) (entries : List (Entry ω)) :
    commits pending (.rollback :: entries) = commits [] entries := rfl

/-- A written row is pending. -/
@[simp] lemma commits_write (pending : List ω) (row : ω) (entries : List (Entry ω)) :
    commits pending (.write row :: entries) = commits (pending ++ [row]) entries := rfl

/-- Rows written one after another wait for the same commit. -/
@[simp] lemma commits_map_write_append (pending rows : List ω) (entries : List (Entry ω)) :
    commits pending (rows.map .write ++ entries) = commits (pending ++ rows) entries := by
  induction rows generalizing pending with
  | nil => simp
  | cons row rows ih => simp [ih]

/-- Rows that are only written are not committed. -/
@[simp] lemma commits_map_write (pending rows : List ω) :
    commits pending (rows.map .write) = [] := by
  simpa using commits_map_write_append pending rows []

/-! ### A part of the rows -/

section FilterMap

variable {ω' : Type*} (f : ω → Option ω')

/-- What an entry means to a part of the rows. -/
def part : Entry ω → Option (Entry ω')
  | .write row => (f row).map .write
  | .commit => some .commit
  | .rollback => some .rollback

/-- The part of a journal. -/
def ofPart (journal : Journal ω) : Journal ω' :=
  ⟨journal.pending.filterMap f, journal.durable.filterMap f⟩

/-- A part of the rows is written, committed and lost as if there were no others. -/
lemma ofPart_play (journal : Journal ω) (entries : List (Entry ω)) :
    (journal.play entries).ofPart f = (journal.ofPart f).play (entries.filterMap (part f)) := by
  induction entries generalizing journal with
  | nil => rfl
  | cons e entries ih =>
    rw [play_cons, ih]
    cases e with
    | write row =>
      cases h : f row with
      | none => simp [part, h, step, ofPart]
      | some row' => simp [part, h, step, ofPart]
    | commit => simp [part, step, ofPart]
    | rollback => simp [part, step, ofPart]

/-- Commits change nothing when nothing is pending. -/
lemma play_commits {journal : Journal ω} {entries : List (Entry ω)}
    (h : ∀ e ∈ entries, e = .commit) (hpending : journal.pending = []) :
    journal.play entries = journal := by
  induction entries with
  | nil => rfl
  | cons e entries ih =>
    have hstep : journal.step .commit = journal := by
      obtain ⟨pending, durable⟩ := journal
      obtain rfl : pending = [] := hpending
      simp [step]
    rw [play_cons, h e List.mem_cons_self, hstep]
    exact ih fun e he => h e (List.mem_cons_of_mem _ he)

end FilterMap

end Journal

end Terraformer
