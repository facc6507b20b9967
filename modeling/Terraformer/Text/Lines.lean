import Terraformer.Text.Basic

/-!
# Lines of a text

`str.splitlines` with Python's line boundaries, and the joining of lines by `"\n"`.  The
main result, `splitlines_joinLines_iff`, says when joining lines and splitting the text
again gives the lines back: exactly when none of them holds a line boundary.
-/

namespace Terraformer

section ListLines

variable {α : Type*} {p : α → Bool}

/-- Pieces without separators, joined by a separator, are split into the same pieces. -/
lemma splitOnP_intercalate {c : α} (hc : p c = true) {ls : List (List α)} (hne : ls ≠ [])
    (hls : ∀ l ∈ ls, ∀ d ∈ l, p d = false) : ([c].intercalate ls).splitOnP p = ls := by
  induction ls with
  | nil => exact absurd rfl hne
  | cons l ls ih =>
    have hl := hls l (by simp)
    cases ls with
    | nil => simpa using List.splitOnP_eq_singleton hl
    | cons m ls =>
      have ih := ih (by simp) fun k hk => hls k (by simp [hk])
      rw [List.intercalate_cons_cons, List.append_assoc, List.singleton_append,
        List.splitOnP_append_cons_of_forall_mem hl c hc, ih]

/-- The pieces of a split without the empty one after a last separator. -/
def dropEmptyEnd (ls : List (List α)) : List (List α) :=
  match ls.getLast? with
  | some [] => ls.dropLast
  | _ => ls

/-- What is left without the empty end was there. -/
lemma mem_of_mem_dropEmptyEnd {ls : List (List α)} {l : List α} (h : l ∈ dropEmptyEnd ls) :
    l ∈ ls := by
  unfold dropEmptyEnd at h
  split at h
  · exact (List.dropLast_sublist ls).subset h
  · exact h

/-- Without an empty line at the end all lines are left. -/
lemma dropEmptyEnd_eq_self {ls : List (List α)} (h : ∀ l ∈ ls, l ≠ []) :
    dropEmptyEnd ls = ls := by
  unfold dropEmptyEnd
  split
  · rename_i hlast
    exact absurd rfl (h [] (List.mem_of_getLast? hlast))
  · rfl

end ListLines

namespace Text

/-- `"\r\n"` is one line boundary. -/
def mergeCrLf : List Char → List Char
  | '\r' :: '\n' :: cs => '\n' :: mergeCrLf cs
  | c :: cs => c :: mergeCrLf cs
  | [] => []

/-- Without a carriage return nothing is merged. -/
lemma mergeCrLf_eq_self {cs : List Char} (h : '\r' ∉ cs) : mergeCrLf cs = cs := by
  induction cs using mergeCrLf.induct with
  | case1 cs ih => simp at h
  | case2 c cs hcrlf ih =>
    rw [mergeCrLf.eq_2 _ _ hcrlf, ih fun hr => h (List.mem_cons_of_mem _ hr)]
  | case3 => rfl

/-- `text.splitlines()`. -/
def splitlines (text : String) : List String :=
  (dropEmptyEnd ((mergeCrLf text.toList).splitOnP isLineBreak)).map String.ofList

/-- `raw[:1].isspace()`. -/
def isIndented (raw : String) : Bool :=
  raw.toList.head?.any isSpace

/-- `"\n".join(lines)`. -/
def joinLines (lines : List String) : String :=
  String.intercalate "\n" lines

/-- What `splitlines` returns holds no line boundary. -/
lemma oneLine_of_mem_splitlines {text l : String} (h : l ∈ splitlines text) : OneLine l := by
  obtain ⟨k, hk, rfl⟩ := List.mem_map.mp h
  intro c hc
  rw [String.toList_ofList] at hc
  exact (mem_of_mem_splitOnP (mem_of_mem_dropEmptyEnd hk) hc).1

/-- Every character of joined lines is `'\n'` or a character of a line. -/
lemma mem_toList_joinLines {lines : List String} {c : Char}
    (h : c ∈ (joinLines lines).toList) : c = '\n' ∨ ∃ l ∈ lines, c ∈ l.toList := by
  rw [joinLines, String.toList_intercalate] at h
  rcases mem_of_mem_intercalate h with h | ⟨k, hk, hck⟩
  · exact Or.inl h
  · obtain ⟨l, hl, rfl⟩ := List.mem_map.mp hk
    exact Or.inr ⟨l, hl, hck⟩

/-- Non-empty lines without line boundaries survive joining and splitting. -/
lemma splitlines_joinLines {lines : List String} (hne : ∀ l ∈ lines, l ≠ "")
    (h : ∀ l ∈ lines, OneLine l) : splitlines (joinLines lines) = lines := by
  have hcr : '\r' ∉ (joinLines lines).toList := by
    intro hr
    rcases mem_toList_joinLines hr with hr | ⟨l, hl, hr⟩
    · exact absurd hr (by decide)
    · exact absurd (h l hl _ hr) (by decide)
  rw [splitlines, mergeCrLf_eq_self hcr]
  cases lines with
  | nil => rfl
  | cons l lines =>
    have hsplit : (joinLines (l :: lines)).toList.splitOnP isLineBreak =
        (l :: lines).map String.toList := by
      rw [joinLines, String.toList_intercalate]
      refine splitOnP_intercalate (by decide) (by simp) ?_
      intro k hk
      obtain ⟨m, hm, rfl⟩ := List.mem_map.mp hk
      exact h m hm
    rw [hsplit, dropEmptyEnd_eq_self, List.map_map]
    · simp [Function.comp_def]
    · intro k hk
      obtain ⟨m, hm, rfl⟩ := List.mem_map.mp hk
      simpa using hne m hm

/-- Joining non-empty lines and splitting the text again gives the lines back exactly when
no line holds a line boundary. -/
theorem splitlines_joinLines_iff {lines : List String} (hne : ∀ l ∈ lines, l ≠ "") :
    splitlines (joinLines lines) = lines ↔ ∀ l ∈ lines, OneLine l := by
  constructor
  · intro h l hl
    rw [← h] at hl
    exact oneLine_of_mem_splitlines hl
  · exact splitlines_joinLines hne

example : splitlines "a\r\nb\n\nc\n" = ["a", "b", "", "c"] := by decide

end Text

end Terraformer
