import Terraformer.Text.Pattern

/-!
# Searching a text

`re.finditer` and `re.search`: the matches of a pattern from left to right, none overlapping the
one before.  A pattern that begins with an assertion (`^` with `re.MULTILINE`, `\b`) is searched
for at the places where that holds, which the character before a place decides.

`finditerFrom_lines` is the rule for texts made of lines: a pattern that is searched for at the
beginnings of lines, and does not match at white space, is not found in indented lines.
-/

namespace Terraformer

/-- A match in a text: where it begins, and what its groups captured. -/
structure Found where
  start : ℕ
  captures : Captures

namespace Pattern

/-- `^` with `re.MULTILINE`. -/
def lineStart (before : Option Char) : Bool :=
  before.all (· == '\n')

/-- No assertion. -/
def anywhere (_ : Option Char) : Bool := true

/-- The matches from a place on, for a pattern that does not match the empty text: `skip` says how
much of the text is still part of the match before, and `before` is the character before the
place. -/
def finditerFrom (r : Pattern) (admits : Option Char → Bool) :
    ℕ → ℕ → Option Char → List Char → List Found
  | _, _, _, [] => []
  | start, skip + 1, _, c :: text => finditerFrom r admits (start + 1) skip (some c) text
  | start, 0, before, c :: text =>
    match if admits before then (results r (c :: text)).head? else none with
    | some m =>
      ⟨start, m.1⟩ ::
        finditerFrom r admits (start + 1) (text.length - m.2.length) (some c) text
    | none => finditerFrom r admits (start + 1) 0 (some c) text

/-- `re.finditer(r, text)`. -/
def finditer (r : Pattern) (admits : Option Char → Bool) (text : String) : List Found :=
  finditerFrom r admits 0 0 none text.toList

/-- `re.search(r, text)`. -/
def search (r : Pattern) (admits : Option Char → Bool) (text : String) : Option Captures :=
  (finditer r admits text).head?.map Found.captures

example : (finditer (literal "ab") anywhere "abcab").map Found.start = [0, 3] := by decide

/-- `$` with `re.MULTILINE`, of the text that follows. -/
def atLineEnd (following : List Char) : Bool :=
  following.head?.all (· == '\n')

/-- The first match whose end meets an assertion, with backtracking. -/
def searchUntilFrom (r : Pattern) (admits : Option Char → Bool) (ends : List Char → Bool) :
    Option Char → List Char → Option Captures
  | before, text =>
    match if admits before then (results r text).find? (fun m => ends m.2) else none with
    | some m => some m.1
    | none =>
      match text with
      | [] => none
      | c :: rest => searchUntilFrom r admits ends (some c) rest

/-- `re.search(r, text)` for a pattern that ends in an assertion. -/
def searchUntil (r : Pattern) (admits : Option Char → Bool) (ends : List Char → Bool)
    (text : String) : Option Captures :=
  searchUntilFrom r admits ends none text.toList

/-! ## Places where a pattern is not found -/

variable {r : Pattern} {admits : Option Char → Bool} {before : Option Char} {text : List Char}
  {start : ℕ}

/-- The search passes a place where no match may begin. -/
lemma finditerFrom_of_not_admits (h : admits before = false) (c : Char) :
    finditerFrom r admits start 0 before (c :: text) =
      finditerFrom r admits (start + 1) 0 (some c) text := by
  simp [finditerFrom, h]

/-- The search passes a place where the pattern does not match. -/
lemma finditerFrom_of_results_eq_nil {c : Char} (h : results r (c :: text) = []) :
    finditerFrom r admits start 0 before (c :: text) =
      finditerFrom r admits (start + 1) 0 (some c) text := by
  simp [finditerFrom, h]

/-- The rest of a line holds no place where a line begins, so it is passed over. -/
lemma finditerFrom_line {w : List Char} {d : Char} (hd : d ≠ '\n') (hw : '\n' ∉ w) {skip : ℕ}
    (hskip : skip ≤ w.length) (start : ℕ) (rest : List Char) : ∃ e,
      finditerFrom r lineStart start skip (some d) (w ++ rest) =
        finditerFrom r lineStart (start + w.length) 0 (some e) rest := by
  induction w generalizing start d skip with
  | nil =>
    obtain rfl : skip = 0 := Nat.le_zero.mp hskip
    exact ⟨d, rfl⟩
  | cons c w ih =>
    have hc : c ≠ '\n' := fun h => hw (h ▸ List.mem_cons_self)
    have hw' : '\n' ∉ w := fun h => hw (List.mem_cons_of_mem c h)
    have hlength : start + (c :: w).length = start + 1 + w.length := by
      rw [List.length_cons]
      omega
    rw [hlength]
    cases skip with
    | zero =>
      obtain ⟨e, he⟩ := ih hc hw' (Nat.zero_le _) (start + 1)
      refine ⟨e, ?_⟩
      rw [List.cons_append, finditerFrom_of_not_admits (by simp [lineStart, hd]), he]
    | succ skip =>
      obtain ⟨e, he⟩ := ih hc hw' (Nat.le_of_succ_le_succ hskip) (start + 1)
      exact ⟨e, he⟩

/-- The characters of lines, each with the newline before it. -/
def linesBehind (lines : List String) : List Char :=
  lines.flatMap fun l => '\n' :: l.toList

/-- Indented lines hold no match of a pattern that does not match at white space. -/
lemma finditerFrom_lines (hr : ∀ c text, isSpace c = true → results r (c :: text) = [])
    {lines : List String}
    (hlines : ∀ l ∈ lines, '\n' ∉ l.toList ∧ ∀ c ∈ l.toList.head?, isSpace c = true) (d : Char)
    (start : ℕ) (rest : List Char) :
    ∃ e, finditerFrom r lineStart start 0 (some d) (linesBehind lines ++ rest) =
      finditerFrom r lineStart (start + (linesBehind lines).length) 0 (some e) rest := by
  induction lines generalizing start d with
  | nil => exact ⟨d, rfl⟩
  | cons l lines ih =>
    obtain ⟨hnewline, hspace⟩ := hlines l List.mem_cons_self
    have hrest := fun k hk => hlines k (List.mem_cons_of_mem l hk)
    have hbreak : ∀ t, finditerFrom r lineStart start 0 (some d) ('\n' :: t) =
        finditerFrom r lineStart (start + 1) 0 (some '\n') t := fun t =>
      finditerFrom_of_results_eq_nil (hr _ _ (by decide))
    have hchars : linesBehind (l :: lines) = '\n' :: (l.toList ++ linesBehind lines) := by
      simp [linesBehind]
    rw [hchars, List.cons_append, hbreak, List.append_assoc]
    cases hl : l.toList with
    | nil =>
      obtain ⟨e, he⟩ := ih hrest '\n' (start + 1)
      refine ⟨e, he.trans ?_⟩
      simp only [List.nil_append, List.length_cons]
      congr 1
      omega
    | cons c w =>
      rw [hl] at hnewline hspace
      have hc : c ≠ '\n' := fun h => hnewline (h ▸ List.mem_cons_self)
      have hw : '\n' ∉ w := fun h => hnewline (List.mem_cons_of_mem c h)
      obtain ⟨f, hf⟩ :=
        @finditerFrom_line r w c hc hw 0 (Nat.zero_le _) (start + 1 + 1) (linesBehind lines ++ rest)
      obtain ⟨e, he⟩ := ih hrest f (start + 1 + 1 + w.length)
      refine ⟨e, ?_⟩
      rw [List.cons_append, finditerFrom_of_results_eq_nil (hr _ _ (hspace c rfl)), hf, he]
      simp only [List.cons_append, List.length_cons, List.length_append]
      congr 1
      omega

end Pattern

end Terraformer
