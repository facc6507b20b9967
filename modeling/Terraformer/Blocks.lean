import Mathlib

/-!
# Reports made of blocks

A report is read line by line into blocks: a line begins a block, belongs to the block that is
open, ends it, or is passed over.  `Prints` describes the reports that hold given blocks, with
lines between them that belong to none, and `read_of_prints` says that reading such a report
gives the blocks.
-/

namespace Terraformer

/-- What a line does to the block that is open. -/
inductive LineAction (β : Type*) where
  | begins (block : β)
  | grows (grow : β → β)
  | ends
  | skips

namespace Blocks

variable {α β : Type*}

/-- The blocks of a report, of which one may be open already. -/
def read (action : α → LineAction β) : Option β → List α → List β
  | isOpen, [] => isOpen.toList
  | isOpen, line :: lines =>
    match action line with
    | .begins block => isOpen.toList ++ read action (some block) lines
    | .grows grow => read action (isOpen.map grow) lines
    | .ends => isOpen.toList ++ read action none lines
    | .skips => read action isOpen lines

/-- What a line makes of the open block. -/
def grown (action : α → LineAction β) (block : β) (line : α) : β :=
  match action line with
  | .grows grow => grow block
  | _ => block

/-- A line that belongs to the open block, or is passed over in it. -/
def Belongs (action : α → LineAction β) (line : α) : Prop :=
  action line = .skips ∨ ∃ grow, action line = .grows grow

/-- Lines between two blocks: some that are passed over, and behind the first that ends the open
block any that begin none. -/
def Separates (action : α → LineAction β) (lines : List α) : Prop :=
  ∃ front back, lines = front ++ back ∧ (∀ line ∈ front, action line = .skips) ∧
    (∀ line ∈ back, ∀ block, action line ≠ .begins block) ∧
    ∀ line ∈ back.head?, action line = .ends

/-- The report prints the blocks, each from its first line on. -/
inductive Prints (action : α → LineAction β) : List β → List α → Prop
  | nil : Prints action [] []
  | cons {first : β} {blocks : List β} {head : α} {body gap lines : List α}
      (hhead : action head = .begins first) (hbody : ∀ line ∈ body, Belongs action line)
      (hgap : Separates action gap) (hlines : Prints action blocks lines) :
      Prints action (body.foldl (grown action) first :: blocks) (head :: (body ++ (gap ++ lines)))

variable {action : α → LineAction β}

/-- A line that begins a block ends the open one. -/
lemma read_begins {line : α} {block : β} (h : action line = .begins block) (isOpen : Option β)
    (lines : List α) :
    read action isOpen (line :: lines) = isOpen.toList ++ read action (some block) lines := by
  rw [read, h]

/-- Without an open block, nothing is read before the first line that begins one. -/
lemma read_none {front : List α} (h : ∀ line ∈ front, ∀ block, action line ≠ .begins block)
    (lines : List α) : read action none (front ++ lines) = read action none lines := by
  induction front with
  | nil => rfl
  | cons line front ih =>
    have hline := h line List.mem_cons_self
    have ih := ih fun k hk => h k (List.mem_cons_of_mem line hk)
    rw [List.cons_append, read]
    split
    · next block heq => exact absurd heq (hline block)
    · exact ih
    · exact ih
    · exact ih

/-- Lines that are skipped leave the open block. -/
lemma read_skips {front : List α} (h : ∀ line ∈ front, action line = .skips) (isOpen : Option β)
    (lines : List α) : read action isOpen (front ++ lines) = read action isOpen lines := by
  induction front with
  | nil => rfl
  | cons line front ih =>
    rw [List.cons_append, read, h line List.mem_cons_self]
    exact ih fun k hk => h k (List.mem_cons_of_mem line hk)

/-- The lines of a block make it what it is. -/
lemma read_body {body : List α} (h : ∀ line ∈ body, Belongs action line) (block : β)
    (lines : List α) :
    read action (some block) (body ++ lines) =
      read action (some (body.foldl (grown action) block)) lines := by
  induction body generalizing block with
  | nil => rfl
  | cons line body ih =>
    have ih := ih fun k hk => h k (List.mem_cons_of_mem line hk)
    rw [List.cons_append, read, List.foldl_cons, grown]
    rcases h line List.mem_cons_self with hskips | ⟨grow, hgrows⟩
    · rw [hskips]
      exact ih block
    · rw [hgrows]
      exact ih (grow block)

/-- A printed report begins with a block or is empty, so it closes the open block. -/
lemma read_some_of_prints {blocks : List β} {lines : List α} (h : Prints action blocks lines)
    (block : β) : read action (some block) lines = block :: read action none lines := by
  cases h with
  | nil => rfl
  | cons hhead _ _ _ => rw [read_begins hhead, read_begins hhead]; rfl

/-- What separates two blocks closes the first. -/
lemma read_gap {gap : List α} (hgap : Separates action gap) {blocks : List β} {lines : List α}
    (h : Prints action blocks lines) (block : β) :
    read action (some block) (gap ++ lines) = block :: read action none lines := by
  obtain ⟨front, back, rfl, hfront, hback, hends⟩ := hgap
  rw [List.append_assoc, read_skips hfront]
  cases back with
  | nil => exact read_some_of_prints h block
  | cons line back =>
    rw [List.cons_append, read, hends line rfl]
    have hnone := read_none (fun k hk => hback k (List.mem_cons_of_mem line hk)) lines
    exact congrArg (block :: ·) hnone

/-- Reading a report gives the blocks it prints. -/
theorem read_of_prints {blocks : List β} {lines : List α} (h : Prints action blocks lines) :
    read action none lines = blocks := by
  induction h with
  | nil => rfl
  | cons hhead hbody hgap hlines ih =>
    rw [read_begins hhead, read_body hbody, read_gap hgap hlines, ih]
    rfl

end Blocks

end Terraformer
