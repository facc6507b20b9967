import Terraformer.Text.Basic

/-!
# Patterns

Regular expressions with the meaning of Python's `re`: a pattern tries its ways to match in
order, and the first one that lets the whole pattern match wins.  `Pattern.results` lists all
ways a pattern matches at the front of a text, the preferred one first, each with what the
named groups captured and with the text that is left.

Two facts serve all uses of a pattern: what a match consumed is made of characters the
pattern accepts, and it is at least as long as the pattern's shortest match
(`Pattern.results_spec`).
-/

namespace Terraformer

/-- A regular expression. -/
inductive Pattern where
  /-- The empty pattern. -/
  | empty
  /-- One character of a class. -/
  | char (accepts : Char → Bool)
  /-- One pattern and then another. -/
  | seq (r s : Pattern)
  /-- One of two patterns, the left one preferred: `r|s`. -/
  | alt (r s : Pattern)
  /-- As many repetitions as possible: `r*`. -/
  | star (r : Pattern)
  /-- A named group: `(?P<name>r)`. -/
  | group (name : String) (r : Pattern)
  /-- The end of the text, or the place before a newline that ends it: `$`. -/
  | lineEnd

/-- What the named groups of a pattern captured. -/
abbrev Captures := List (String × String)

namespace Pattern

/-- The ways of repeating a matcher, longer repetitions first.  A repetition that consumes
nothing is not followed up. -/
def repetitions (f : List Char → List (Captures × List Char)) :
    ℕ → List Char → List (Captures × List Char)
  | 0, text => [([], text)]
  | n + 1, text =>
    ((f text).filter fun m => m.2.length < text.length).flatMap
      (fun m => (repetitions f n m.2).map fun m' => (m.1 ++ m'.1, m'.2)) ++ [([], text)]

/-- The ways a pattern matches at the front of a text, in the order they are tried. -/
def results : Pattern → List Char → List (Captures × List Char)
  | .empty, text => [([], text)]
  | .char accepts, text =>
    match text with
    | c :: rest => if accepts c then [([], rest)] else []
    | [] => []
  | .seq r s, text =>
    (results r text).flatMap fun m => (results s m.2).map fun m' => (m.1 ++ m'.1, m'.2)
  | .alt r s, text => results r text ++ results s text
  | .star r, text => repetitions (results r) text.length text
  | .group name r, text =>
    (results r text).map fun m =>
      (m.1 ++ [(name, String.ofList (text.take (text.length - m.2.length)))], m.2)
  | .lineEnd, text => if text = [] ∨ text = ['\n'] then [([], text)] else []

/-! ## Derived patterns -/

/-- The characters of a text, one after another. -/
def literal (text : String) : Pattern :=
  text.toList.foldr (fun c r => seq (char (· == c)) r) empty

/-- `r?`. -/
def optional (r : Pattern) : Pattern :=
  alt r empty

/-- `r{n}`. -/
def times (r : Pattern) : ℕ → Pattern
  | 0 => empty
  | n + 1 => seq r (times r n)

/-- `r{0,n}`. -/
def upTo (r : Pattern) : ℕ → Pattern
  | 0 => empty
  | n + 1 => optional (seq r (upTo r n))

/-- `r{m,n}`. -/
def between (r : Pattern) (m n : ℕ) : Pattern :=
  seq (times r m) (upTo r (n - m))

/-- `r+`. -/
def plus (r : Pattern) : Pattern :=
  seq r (star r)

/-! ## Matching -/

/-- `re.match(r, text)`: a match at the front of the text. -/
def «match» (r : Pattern) (text : String) : Option Captures :=
  (results r text.toList).head?.map Prod.fst

/-- `re.fullmatch(r, text)`: a match of the whole text. -/
def fullmatch (r : Pattern) (text : String) : Option Captures :=
  ((results r text.toList).find? fun m => m.2.isEmpty).map Prod.fst

/-- The texts matched one after another from left to right, with fuel for the scan. -/
def scan (r : Pattern) : ℕ → List Char → List String
  | 0, _ => []
  | n + 1, text =>
    match (results r text).head? with
    | some m =>
      if m.2.length < text.length then
        String.ofList (text.take (text.length - m.2.length)) :: scan r n m.2
      else scan r n text.tail
    | none => scan r n text.tail

/-- `re.findall(r, text)` for a pattern without groups. -/
def findall (r : Pattern) (text : String) : List String :=
  scan r (text.toList.length + 1) text.toList

/-- What a group captured. -/
def captured (captures : Captures) (name : String) : Option String :=
  captures.lookup name

/-! ## What a match consumes -/

/-- A character that some class of the pattern accepts. -/
def Accepts : Pattern → Char → Prop
  | .char accepts, c => accepts c = true
  | .seq r s, c => Accepts r c ∨ Accepts s c
  | .alt r s, c => Accepts r c ∨ Accepts s c
  | .star r, c => Accepts r c
  | .group _ r, c => Accepts r c
  | .empty, _ => False
  | .lineEnd, _ => False

/-- A lower bound for the length of a match. -/
def minLength : Pattern → ℕ
  | .char _ => 1
  | .seq r s => minLength r + minLength s
  | .alt r s => min (minLength r) (minLength s)
  | .group _ r => minLength r
  | .empty => 0
  | .star _ => 0
  | .lineEnd => 0

/-- A way to match `r` at the front of `text` that leaves `rest`: it consumes a front part
of the text, made of characters of the pattern and no shorter than its shortest match. -/
def Consumes (r : Pattern) (text rest : List Char) : Prop :=
  ∃ w, text = w ++ rest ∧ r.minLength ≤ w.length ∧ ∀ c ∈ w, r.Accepts c

/-- Repeating a matcher that consumes characters of a pattern consumes such characters. -/
lemma repetitions_spec {r : Pattern} {f : List Char → List (Captures × List Char)}
    (hf : ∀ text, ∀ m ∈ f text, Consumes r text m.2) {n : ℕ} {text : List Char}
    {m : Captures × List Char} (hm : m ∈ repetitions f n text) :
    Consumes (star r) text m.2 := by
  have hnone : ∀ text, Consumes (star r) text text := fun text => ⟨[], rfl, by simp [minLength],
    by simp⟩
  induction n generalizing text m with
  | zero =>
    rw [repetitions, List.mem_singleton] at hm
    rw [hm]
    exact hnone text
  | succ n ih =>
    rw [repetitions, List.mem_append, List.mem_flatMap, List.mem_singleton] at hm
    rcases hm with ⟨m₁, hm₁, hm⟩ | rfl
    · obtain ⟨m₂, hm₂, rfl⟩ := List.mem_map.mp hm
      obtain ⟨w, hw, -, hacc⟩ := hf text m₁ (List.mem_filter.mp hm₁).1
      obtain ⟨v, hv, -, hacc'⟩ := ih hm₂
      refine ⟨w ++ v, by rw [hw, hv, List.append_assoc], by simp [minLength], ?_⟩
      intro c hc
      rcases List.mem_append.mp hc with hc | hc
      · exact hacc c hc
      · exact hacc' c hc
    · exact hnone text

/-- Every way to match consumes characters of the pattern, and at least its shortest
match. -/
theorem results_spec {r : Pattern} {text : List Char} {m : Captures × List Char}
    (hm : m ∈ results r text) : Consumes r text m.2 := by
  induction r generalizing text m with
  | empty =>
    rw [results, List.mem_singleton] at hm
    rw [hm]
    exact ⟨[], rfl, by simp [minLength], by simp⟩
  | char accepts =>
    cases text with
    | nil => simp [results] at hm
    | cons c rest =>
      simp only [results] at hm
      split at hm
      · rename_i hc
        rw [List.mem_singleton] at hm
        rw [hm]
        exact ⟨[c], rfl, by simp [minLength], by simpa [Accepts] using hc⟩
      · simp at hm
  | seq r s ihr ihs =>
    rw [results, List.mem_flatMap] at hm
    obtain ⟨m₁, hm₁, hm⟩ := hm
    obtain ⟨m₂, hm₂, rfl⟩ := List.mem_map.mp hm
    obtain ⟨w, hw, hlen, hacc⟩ := ihr hm₁
    obtain ⟨v, hv, hlen', hacc'⟩ := ihs hm₂
    refine ⟨w ++ v, by rw [hw, hv, List.append_assoc], ?_, ?_⟩
    · rw [minLength, List.length_append]
      omega
    · intro c hc
      rcases List.mem_append.mp hc with hc | hc
      · exact Or.inl (hacc c hc)
      · exact Or.inr (hacc' c hc)
  | alt r s ihr ihs =>
    rw [results, List.mem_append] at hm
    rcases hm with hm | hm
    · obtain ⟨w, hw, hlen, hacc⟩ := ihr hm
      exact ⟨w, hw, by rw [minLength]; omega, fun c hc => Or.inl (hacc c hc)⟩
    · obtain ⟨w, hw, hlen, hacc⟩ := ihs hm
      exact ⟨w, hw, by rw [minLength]; omega, fun c hc => Or.inr (hacc c hc)⟩
  | star r ih => exact repetitions_spec (fun _ _ => ih) hm
  | group name r ih =>
    rw [results] at hm
    obtain ⟨m₁, hm₁, rfl⟩ := List.mem_map.mp hm
    exact ih (m := m₁) hm₁
  | lineEnd =>
    rw [results] at hm
    split at hm
    · rw [List.mem_singleton] at hm
      rw [hm]
      exact ⟨[], rfl, by simp [minLength], by simp⟩
    · simp at hm

/-- A literal text consumes itself. -/
lemma mem_results_literal {lit : String} {text : List Char} {m : Captures × List Char}
    (hm : m ∈ results (literal lit) text) : text = lit.toList ++ m.2 := by
  unfold literal at hm
  generalize lit.toList = l at hm ⊢
  induction l generalizing text m with
  | nil =>
    rw [List.foldr_nil, results, List.mem_singleton] at hm
    rw [hm]
    rfl
  | cons c cs ih =>
    rw [List.foldr_cons, results, List.mem_flatMap] at hm
    obtain ⟨m₁, hm₁, hm⟩ := hm
    obtain ⟨m₂, hm₂, rfl⟩ := List.mem_map.mp hm
    cases text with
    | nil => simp [results] at hm₁
    | cons d rest =>
      simp only [results] at hm₁
      split at hm₁
      · rename_i hd
        rw [List.mem_singleton] at hm₁
        subst hm₁
        have hrest : rest = cs ++ m₂.2 := ih hm₂
        rw [beq_iff_eq.mp hd, hrest]
        rfl
      · simp at hm₁

/-- The end of a line is the end of the text, up to a newline. -/
lemma mem_results_lineEnd {text : List Char} {m : Captures × List Char}
    (hm : m ∈ results lineEnd text) : text = [] ∨ text = ['\n'] := by
  rw [results] at hm
  split at hm
  · assumption
  · simp at hm

/-- A match of a sequence is a match of its first part followed by one of its second. -/
lemma mem_results_seq {r s : Pattern} {text : List Char} {m : Captures × List Char} :
    m ∈ results (seq r s) text ↔
      ∃ m₁ ∈ results r text, ∃ m₂ ∈ results s m₁.2, (m₁.1 ++ m₂.1, m₂.2) = m := by
  rw [results, List.mem_flatMap]
  simp only [List.mem_map]

/-- A counted character pattern consumes that many characters. -/
lemma mem_results_times_char {p : Char → Bool} {n : ℕ} {text : List Char}
    {m : Captures × List Char} (hm : m ∈ results (times (char p) n) text) :
    ∃ w, text = w ++ m.2 ∧ w.length = n ∧ ∀ c ∈ w, p c = true := by
  induction n generalizing text m with
  | zero =>
    obtain rfl : m = ([], text) := List.mem_singleton.mp hm
    exact ⟨[], rfl, rfl, by simp⟩
  | succ n ih =>
    obtain ⟨m₁, hm₁, m₂, hm₂, rfl⟩ := mem_results_seq.mp hm
    obtain ⟨w, hw, hlength, hp⟩ := ih hm₂
    cases text with
    | nil => simp [results] at hm₁
    | cons c rest =>
      simp only [results] at hm₁
      split at hm₁
      · rename_i hc
        rw [List.mem_singleton] at hm₁
        subst hm₁
        exact ⟨c :: w, congrArg (c :: ·) hw, congrArg (· + 1) hlength,
          List.forall_mem_cons.mpr ⟨hc, hp⟩⟩
      · simp at hm₁

/-- A bounded character pattern consumes at most that many characters. -/
lemma mem_results_upTo_char {p : Char → Bool} {n : ℕ} {text : List Char}
    {m : Captures × List Char} (hm : m ∈ results (upTo (char p) n) text) :
    ∃ w, text = w ++ m.2 ∧ w.length ≤ n ∧ ∀ c ∈ w, p c = true := by
  induction n generalizing text m with
  | zero =>
    obtain rfl : m = ([], text) := List.mem_singleton.mp hm
    exact ⟨[], rfl, le_rfl, by simp⟩
  | succ n ih =>
    rw [upTo, optional, results, List.mem_append] at hm
    rcases hm with hm | hm
    · obtain ⟨m₁, hm₁, m₂, hm₂, rfl⟩ := mem_results_seq.mp hm
      obtain ⟨v, hv, hv1, hpv⟩ := mem_results_times_char (p := p) (n := 1)
        (mem_results_seq.mpr ⟨m₁, hm₁, ([], m₁.2), List.mem_singleton_self _, rfl⟩)
      obtain ⟨w, hw, hlength, hp⟩ := ih hm₂
      refine ⟨v ++ w, ?_, ?_, fun c hc => (List.mem_append.mp hc).elim (hpv c) (hp c)⟩
      · rw [hv, hw, List.append_assoc]
      · rw [List.length_append, hv1]
        omega
    · obtain rfl : m = ([], text) := List.mem_singleton.mp hm
      exact ⟨[], rfl, Nat.zero_le _, by simp⟩

/-- A repetition of a class between two bounds consumes that many of its characters. -/
lemma mem_results_between_char {p : Char → Bool} {lo hi : ℕ} (hle : lo ≤ hi) {text : List Char}
    {m : Captures × List Char} (hm : m ∈ results (between (char p) lo hi) text) :
    ∃ w, text = w ++ m.2 ∧ lo ≤ w.length ∧ w.length ≤ hi ∧ ∀ c ∈ w, p c = true := by
  obtain ⟨m₁, hm₁, m₂, hm₂, rfl⟩ := mem_results_seq.mp hm
  obtain ⟨v, hv, hlo, hpv⟩ := mem_results_times_char hm₁
  obtain ⟨w, hw, hhi, hpw⟩ := mem_results_upTo_char hm₂
  refine ⟨v ++ w, ?_, ?_, ?_, fun c hc => (List.mem_append.mp hc).elim (hpv c) (hpw c)⟩
  · rw [hv, hw, List.append_assoc]
  · rw [List.length_append]
    omega
  · rw [List.length_append]
    omega

/-- A text that a pattern matches in full holds only characters of the pattern. -/
lemma accepts_of_fullmatch {r : Pattern} {text : String} {g : Captures}
    (h : fullmatch r text = some g) :
    r.minLength ≤ text.toList.length ∧ ∀ c ∈ text.toList, r.Accepts c := by
  obtain ⟨m, hm, -⟩ := Option.map_eq_some_iff.mp h
  have hrest : m.2 = [] := by simpa using List.find?_some hm
  obtain ⟨w, hw, hlen, hacc⟩ := results_spec (List.mem_of_find?_eq_some hm)
  rw [hrest, List.append_nil] at hw
  rw [hw]
  exact ⟨hlen, hacc⟩

/-- A text that a pattern matches up to `$` holds only characters of the pattern, but for a
newline at its end. -/
lemma accepts_of_match_lineEnd {r : Pattern} {text : String} {g : Captures}
    (h : «match» (seq r lineEnd) text = some g) :
    ∃ w, (text.toList = w ∨ text.toList = w ++ ['\n']) ∧ r.minLength ≤ w.length ∧
      ∀ c ∈ w, r.Accepts c := by
  obtain ⟨m, hm, -⟩ := Option.map_eq_some_iff.mp h
  obtain ⟨m₁, hm₁, m₂, hm₂, -⟩ := mem_results_seq.mp (List.mem_of_mem_head? hm)
  obtain ⟨w, hw, hlen, hacc⟩ := results_spec hm₁
  refine ⟨w, ?_, hlen, hacc⟩
  rcases mem_results_lineEnd hm₂ with h | h
  · left; rw [hw, h, List.append_nil]
  · right; rw [hw, h]

/-! ## The characters of a pattern -/

/-- Every character the pattern accepts has the property. -/
def Within (r : Pattern) (p : Char → Prop) : Prop :=
  ∀ c, r.Accepts c → p c

section Within

variable {p : Char → Prop} {r s : Pattern}

/-- The empty pattern consumes nothing. -/
lemma within_empty : empty.Within p :=
  fun _ h => False.elim h

/-- `$` consumes nothing. -/
lemma within_lineEnd : lineEnd.Within p :=
  fun _ h => False.elim h

/-- A character pattern consumes what it accepts. -/
lemma within_char {accepts : Char → Bool} (h : ∀ c, accepts c = true → p c) :
    (char accepts).Within p :=
  h

/-- A sequence consumes what its parts do. -/
lemma within_seq (hr : r.Within p) (hs : s.Within p) : (seq r s).Within p :=
  fun c h => h.elim (hr c) (hs c)

/-- An alternative consumes what its sides do. -/
lemma within_alt (hr : r.Within p) (hs : s.Within p) : (alt r s).Within p :=
  fun c h => h.elim (hr c) (hs c)

/-- A repetition consumes what its pattern does. -/
lemma within_star (hr : r.Within p) : (star r).Within p :=
  hr

/-- A group consumes what its pattern does. -/
lemma within_group {name : String} (hr : r.Within p) : (group name r).Within p :=
  hr

/-- An optional pattern consumes what its pattern does. -/
lemma within_optional (hr : r.Within p) : (optional r).Within p :=
  within_alt hr within_empty

/-- A non-empty repetition consumes what its pattern does. -/
lemma within_plus (hr : r.Within p) : (plus r).Within p :=
  within_seq hr (within_star hr)

/-- A counted repetition consumes what its pattern does. -/
lemma within_times (hr : r.Within p) (n : ℕ) : (times r n).Within p := by
  induction n with
  | zero => exact within_empty
  | succ n ih => exact within_seq hr ih

/-- A bounded repetition consumes what its pattern does. -/
lemma within_upTo (hr : r.Within p) (n : ℕ) : (upTo r n).Within p := by
  induction n with
  | zero => exact within_empty
  | succ n ih => exact within_optional (within_seq hr ih)

/-- A repetition between two bounds consumes what its pattern does. -/
lemma within_between (hr : r.Within p) (m n : ℕ) : (between r m n).Within p :=
  within_seq (within_times hr m) (within_upTo hr (n - m))

/-- A literal consumes its own characters. -/
lemma within_literal {lit : String} (h : ∀ c ∈ lit.toList, p c) : (literal lit).Within p := by
  unfold literal
  generalize lit.toList = l at h ⊢
  induction l with
  | nil => exact within_empty
  | cons d cs ih =>
    refine within_seq (within_char fun c hc => ?_) (ih fun c hc => h c (by simp [hc]))
    rw [beq_iff_eq.mp hc]
    exact h d (by simp)

end Within

/-! ## The preferred match -/

/-- The match a pattern tries first succeeds, with what its groups captured and what is left. -/
def Prefers (r : Pattern) (text : List Char) (captures : Captures) (rest : List Char) : Prop :=
  (results r text).head? = some (captures, rest)

section Prefers

variable {r s : Pattern} {text rest rest' : List Char} {g g' : Captures} {p : Char → Bool}

/-- The preferred match is the one `re.match` reports. -/
lemma match_of_prefers {text : String} (h : r.Prefers text.toList g rest) :
    r.match text = some g := by
  rw [«match», h]
  rfl

/-- A preferred match of the whole text is the one `re.fullmatch` reports. -/
lemma fullmatch_of_prefers {text : String} (h : r.Prefers text.toList g []) :
    r.fullmatch text = some g := by
  obtain ⟨l, hl⟩ := List.head?_eq_some_iff.mp h
  rw [fullmatch, hl]
  rfl

/-- The empty pattern prefers the empty text. -/
lemma prefers_empty : empty.Prefers text [] text := rfl

/-- A character pattern prefers the next character if it accepts it. -/
lemma prefers_char {c : Char} (h : p c = true) : (char p).Prefers (c :: rest) [] rest := by
  simp [Prefers, results, h]

/-- `$` prefers the end of the text. -/
lemma prefers_lineEnd : lineEnd.Prefers [] [] [] := rfl

/-- The preferred match of a sequence puts the preferred matches of its parts together. -/
lemma prefers_seq (hr : r.Prefers text g rest) (hs : s.Prefers rest g' rest') :
    (seq r s).Prefers text (g ++ g') rest' := by
  obtain ⟨l, hl⟩ := List.head?_eq_some_iff.mp hr
  obtain ⟨l', hl'⟩ := List.head?_eq_some_iff.mp hs
  simp [Prefers, results, hl, hl']

/-- An alternative prefers what its left side prefers. -/
lemma prefers_alt_left (hr : r.Prefers text g rest) : (alt r s).Prefers text g rest := by
  obtain ⟨l, hl⟩ := List.head?_eq_some_iff.mp hr
  simp [Prefers, results, hl]

/-- An alternative prefers what its right side does when the left one does not match. -/
lemma prefers_alt_right (hr : results r text = []) (hs : s.Prefers text g rest) :
    (alt r s).Prefers text g rest := by
  obtain ⟨l, hl⟩ := List.head?_eq_some_iff.mp hs
  simp [Prefers, results, hr, hl]

/-- A group captures what its pattern's preferred match consumes. -/
lemma prefers_group (name : String) {w : List Char} (hr : r.Prefers (w ++ rest) g rest) :
    (group name r).Prefers (w ++ rest) (g ++ [(name, String.ofList w)]) rest := by
  obtain ⟨l, hl⟩ := List.head?_eq_some_iff.mp hr
  simp [Prefers, results, hl]

/-- A literal is preferred where it stands. -/
lemma prefers_literal (lit : String) : (literal lit).Prefers (lit.toList ++ rest) [] rest := by
  unfold literal
  induction lit.toList with
  | nil => exact prefers_empty
  | cons c cs ih => exact prefers_seq (prefers_char (by simp)) ih

/-- A class does not match at a text that does not begin with one of its characters. -/
lemma results_char_eq_nil (h : ∀ c ∈ rest.head?, p c = false) : results (char p) rest = [] := by
  cases rest with
  | nil => rfl
  | cons c rest => simp [results, h c (by simp)]

/-- A sequence does not match where its first part does not. -/
lemma results_seq_eq_nil (h : results r text = []) : results (seq r s) text = [] := by
  rw [results, h]
  rfl

/-- A group does not match where its pattern does not. -/
lemma results_group_eq_nil (name : String) (h : results r text = []) :
    results (group name r) text = [] := by
  rw [results, h]
  rfl

/-- A literal does not match at a text that begins with another character. -/
lemma results_literal_eq_nil {lit : String} {c d : Char} {cs : List Char}
    (hlit : lit.toList = c :: cs) (h : d ≠ c) : results (literal lit) (d :: rest) = [] := by
  rw [literal, hlit, List.foldr_cons, results, results_char_eq_nil]
  · rfl
  · intro e he
    obtain rfl := Option.some.inj he
    simpa using h

/-- A counted character pattern prefers that many characters. -/
lemma prefers_times_char {w : List Char} (hw : ∀ c ∈ w, p c = true) :
    (times (char p) w.length).Prefers (w ++ rest) [] rest := by
  induction w with
  | nil => exact prefers_empty
  | cons c w ih =>
    exact prefers_seq (prefers_char (hw c (by simp))) (ih fun d hd => hw d (by simp [hd]))

/-- A bounded repetition of a class takes all characters of the class, up to its bound. -/
lemma prefers_upTo_char {w : List Char} {n : ℕ} (hw : ∀ c ∈ w, p c = true) (hn : w.length ≤ n)
    (hrest : ∀ c ∈ rest.head?, p c = false) :
    (upTo (char p) n).Prefers (w ++ rest) [] rest := by
  induction w generalizing n with
  | nil =>
    cases n with
    | zero => exact prefers_empty
    | succ n =>
      rw [Prefers, upTo, optional, List.nil_append, results, results, results,
        results_char_eq_nil hrest]
      rfl
  | cons c w ih =>
    cases n with
    | zero => simp at hn
    | succ n =>
      exact prefers_alt_left (prefers_seq (prefers_char (hw c (by simp)))
        (ih (fun d hd => hw d (by simp [hd])) (by simpa using hn)))

/-- A repetition of a class between two bounds takes all characters of the class. -/
lemma prefers_between_char {w : List Char} {m n : ℕ} (hw : ∀ c ∈ w, p c = true)
    (hm : m ≤ w.length) (hn : w.length ≤ n) (hrest : ∀ c ∈ rest.head?, p c = false) :
    (between (char p) m n).Prefers (w ++ rest) [] rest := by
  have htake : (w.take m).length = m := by
    rw [List.length_take]
    omega
  have h1 : (times (char p) (w.take m).length).Prefers (w.take m ++ (w.drop m ++ rest)) []
      (w.drop m ++ rest) := prefers_times_char fun c hc => hw c (List.mem_of_mem_take hc)
  have h2 : (upTo (char p) (n - m)).Prefers (w.drop m ++ rest) [] rest :=
    prefers_upTo_char (fun c hc => hw c (List.mem_of_mem_drop hc))
      (by rw [List.length_drop]; omega) hrest
  rw [htake, ← List.append_assoc, List.take_append_drop] at h1
  exact prefers_seq h1 h2

/-- Repeating a class takes all characters of the class. -/
lemma prefers_star_char {w : List Char} (hw : ∀ c ∈ w, p c = true)
    (hrest : ∀ c ∈ rest.head?, p c = false) : (star (char p)).Prefers (w ++ rest) [] rest := by
  have hfuel : ∀ n, w.length ≤ n →
      (repetitions (results (char p)) n (w ++ rest)).head? = some ([], rest) := by
    induction w with
    | nil =>
      intro n _
      cases n with
      | zero => rfl
      | succ n => simp [repetitions, results_char_eq_nil hrest]
    | cons c w ih =>
      intro n hn
      cases n with
      | zero => simp at hn
      | succ n =>
        have hc : results (char p) (c :: (w ++ rest)) = [([], w ++ rest)] := by
          simp [results, hw c (by simp)]
        obtain ⟨l, hl⟩ := List.head?_eq_some_iff.mp
          (ih (fun d hd => hw d (by simp [hd])) n (by simpa using hn))
        simp [repetitions, hc, hl]
  exact hfuel _ (by simp)

/-- One or more characters of a class: all of them. -/
lemma prefers_plus_char {w : List Char} (hne : w ≠ []) (hw : ∀ c ∈ w, p c = true)
    (hrest : ∀ c ∈ rest.head?, p c = false) : (plus (char p)).Prefers (w ++ rest) [] rest := by
  cases w with
  | nil => exact absurd rfl hne
  | cons c w =>
    exact prefers_seq (prefers_char (hw c (by simp)))
      (prefers_star_char (fun d hd => hw d (by simp [hd])) hrest)

end Prefers

end Pattern

end Terraformer
