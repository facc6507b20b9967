import Terraformer.Text.Pattern

/-!
# The texts a pattern matches

What a pattern can consume, whatever the order in which its ways are tried.  `Matches r w rest
captures` says that `r` has a way to consume `w` in front of `rest`.  Each construct of a pattern
has one lemma that says what it consumes, so that the texts of a concrete pattern are read off
the pattern (`fullmatch_isSome_iff`, `match_isSome_iff`).
-/

namespace Terraformer

namespace Pattern

/-- The pattern has a way to consume `w` in front of `rest`, with what its groups capture. -/
def Matches (r : Pattern) (w rest : List Char) (captures : Captures) : Prop :=
  (captures, rest) ∈ results r (w ++ rest)

variable {r s : Pattern} {w rest text : List Char} {g : Captures} {p : Char → Bool}

/-- Every way of a pattern consumes a front part of the text. -/
lemma mem_results_iff :
    (g, rest) ∈ results r text ↔ ∃ w, text = w ++ rest ∧ Matches r w rest g := by
  constructor
  · intro h
    obtain ⟨w, hw, -, -⟩ := results_spec h
    exact ⟨w, hw, by rwa [Matches, ← hw]⟩
  · rintro ⟨w, rfl, h⟩
    exact h

/-! ## One lemma for each construct -/

/-- The empty pattern matches the empty text. -/
@[simp] lemma matches_empty : Matches empty w rest g ↔ w = [] ∧ g = [] := by
  simp [Matches, results, and_comm]

/-- A character pattern matches one character. -/
@[simp] lemma matches_char : Matches (char p) w rest g ↔ ∃ c, p c = true ∧ w = [c] ∧ g = [] := by
  constructor
  · intro h
    obtain ⟨v, hv, hlength, hp⟩ := results_spec h
    rw [List.append_cancel_right_eq] at hv
    subst hv
    cases w with
    | nil => simp [minLength] at hlength
    | cons c w =>
      have hc : p c = true := hp c (by simp)
      have hmem : (g, rest) ∈ [(([] : Captures), w ++ rest)] := by
        simpa [Matches, results, hc] using h
      obtain ⟨rfl, hrest⟩ := Prod.mk.inj (List.mem_singleton.mp hmem)
      obtain rfl : w = [] := by simpa using hrest
      exact ⟨c, hc, rfl, rfl⟩
  · rintro ⟨c, hc, rfl, rfl⟩
    simp [Matches, results, hc]

/-- A sequence consumes what its first part consumes and then what its second part does. -/
lemma matches_seq : Matches (seq r s) w rest g ↔ ∃ v u g₁ g₂, w = v ++ u ∧ g = g₁ ++ g₂ ∧
    Matches r v (u ++ rest) g₁ ∧ Matches s u rest g₂ := by
  constructor
  · intro h
    obtain ⟨⟨g₁, rest₁⟩, h₁, ⟨g₂, rest₂⟩, h₂, heq⟩ := mem_results_seq.mp h
    obtain ⟨rfl, rfl⟩ := Prod.mk.inj heq
    obtain ⟨v, hv, hr⟩ := mem_results_iff.mp h₁
    obtain ⟨u, rfl, hs⟩ := mem_results_iff.mp h₂
    rw [← List.append_assoc, List.append_cancel_right_eq] at hv
    exact ⟨v, u, g₁, g₂, hv, rfl, hr, hs⟩
  · rintro ⟨v, u, g₁, g₂, rfl, rfl, hr, hs⟩
    rw [Matches, List.append_assoc]
    exact mem_results_seq.mpr ⟨(g₁, u ++ rest), hr, (g₂, rest), hs, rfl⟩

/-- An alternative matches what either side does. -/
@[simp] lemma matches_alt :
    Matches (alt r s) w rest g ↔ Matches r w rest g ∨ Matches s w rest g := by
  rw [Matches, results, List.mem_append]
  rfl

/-- An optional pattern matches what the pattern does, and the empty text. -/
@[simp] lemma matches_optional :
    Matches (optional r) w rest g ↔ Matches r w rest g ∨ w = [] ∧ g = [] := by
  rw [optional, matches_alt, matches_empty]

/-- `$` matches the empty text at the end, or before a newline there. -/
@[simp] lemma matches_lineEnd :
    Matches lineEnd w rest g ↔ w = [] ∧ g = [] ∧ (rest = [] ∨ rest = ['\n']) := by
  constructor
  · intro h
    obtain ⟨v, hv, -, hp⟩ := results_spec h
    rw [List.append_cancel_right_eq] at hv
    subst hv
    cases w with
    | nil =>
      refine ⟨rfl, ?_, mem_results_lineEnd h⟩
      rw [Matches, results] at h
      split at h
      · exact (Prod.mk.inj (List.mem_singleton.mp h)).1
      · cases h
    | cons c w => exact (hp c (by simp)).elim
  · rintro ⟨rfl, rfl, hrest⟩
    simp [Matches, results, hrest]

/-- A pattern up to the end of a line. -/
lemma matches_seq_lineEnd : Matches (seq r lineEnd) w rest g ↔
    Matches r w rest g ∧ (rest = [] ∨ rest = ['\n']) := by
  rw [matches_seq]
  constructor
  · rintro ⟨v, u, g₁, g₂, rfl, rfl, hr, hend⟩
    obtain ⟨rfl, rfl, hrest⟩ := matches_lineEnd.mp hend
    simpa using And.intro hr hrest
  · rintro ⟨hr, hrest⟩
    exact ⟨w, [], g, [], by simp, by simp, hr, matches_lineEnd.mpr ⟨rfl, rfl, hrest⟩⟩

/-- A group captures what its pattern consumes. -/
lemma matches_group {name : String} : Matches (group name r) w rest g ↔
    ∃ g', g = g' ++ [(name, String.ofList w)] ∧ Matches r w rest g' := by
  constructor
  · intro h
    rw [Matches, results] at h
    obtain ⟨⟨g', rest'⟩, hr, heq⟩ := List.mem_map.mp h
    obtain ⟨hg, rfl⟩ := Prod.mk.inj heq
    exact ⟨g', by rw [← hg]; simp, hr⟩
  · rintro ⟨g', rfl, hr⟩
    rw [Matches, results]
    exact List.mem_map.mpr ⟨(g', rest), hr, by simp⟩

/-- The repetitions of a pattern, with fuel, are nothing or a first one and further ones. -/
lemma mem_repetitions_succ {n : ℕ} : (g, rest) ∈ repetitions (results r) (n + 1) text ↔
    (g = [] ∧ rest = text) ∨ ∃ v text' g₁ g₂, v ≠ [] ∧ text = v ++ text' ∧ g = g₁ ++ g₂ ∧
      Matches r v text' g₁ ∧ (g₂, rest) ∈ repetitions (results r) n text' := by
  rw [repetitions, List.mem_append, List.mem_flatMap, List.mem_singleton, or_comm]
  refine or_congr (by simp) ⟨?_, ?_⟩
  · rintro ⟨⟨g₁, text'⟩, h₁, h₂⟩
    obtain ⟨hm, hlength⟩ := List.mem_filter.mp h₁
    obtain ⟨⟨g₂, rest'⟩, hrep, heq⟩ := List.mem_map.mp h₂
    obtain ⟨rfl, rfl⟩ := Prod.mk.inj heq
    obtain ⟨v, rfl, hr⟩ := mem_results_iff.mp hm
    refine ⟨v, text', g₁, g₂, ?_, rfl, rfl, hr, hrep⟩
    rintro rfl
    simp at hlength
  · rintro ⟨v, text', g₁, g₂, hne, rfl, rfl, hr, hrep⟩
    refine ⟨(g₁, text'), List.mem_filter.mpr ⟨hr, ?_⟩, List.mem_map.mpr ⟨(g₂, rest), hrep, rfl⟩⟩
    have hpos := List.length_pos_of_ne_nil hne
    simp only [List.length_append, decide_eq_true_eq]
    omega

/-- Fuel for as many repetitions as the text has characters is enough. -/
lemma mem_repetitions_iff {n : ℕ} (hn : text.length ≤ n) :
    (g, rest) ∈ repetitions (results r) n text ↔ (g, rest) ∈ results (star r) text := by
  rw [results]
  suffices h : ∀ m n : ℕ, ∀ (text : List Char) (g : Captures), text.length ≤ m →
      text.length ≤ n → (g, rest) ∈ repetitions (results r) m text →
        (g, rest) ∈ repetitions (results r) n text from
    ⟨h n _ text g hn le_rfl, h _ n text g le_rfl hn⟩
  intro m
  induction m with
  | zero =>
    intro n text g hm _ h
    obtain rfl : text = [] := List.length_eq_zero_iff.mp (Nat.le_zero.mp hm)
    obtain ⟨rfl, rfl⟩ := Prod.mk.inj (List.mem_singleton.mp h)
    cases n with
    | zero => exact List.mem_singleton.mpr rfl
    | succ n => exact mem_repetitions_succ.mpr (Or.inl ⟨rfl, rfl⟩)
  | succ m ih =>
    intro n text g hm hn h
    rcases mem_repetitions_succ.mp h with ⟨rfl, rfl⟩ | ⟨v, text', g₁, g₂, hne, rfl, rfl, hr, hrep⟩
    · cases n with
      | zero => exact List.mem_singleton.mpr rfl
      | succ n => exact mem_repetitions_succ.mpr (Or.inl ⟨rfl, rfl⟩)
    · have hpos := List.length_pos_of_ne_nil hne
      rw [List.length_append] at hm hn
      cases n with
      | zero => omega
      | succ n =>
        exact mem_repetitions_succ.mpr (Or.inr ⟨v, text', g₁, g₂, hne, rfl, rfl, hr,
          ih n text' g₂ (by omega) (by omega) hrep⟩)

/-- A repetition consumes nothing, or a first piece and then further ones. -/
lemma matches_star : Matches (star r) w rest g ↔ (w = [] ∧ g = []) ∨
    ∃ v u g₁ g₂, v ≠ [] ∧ w = v ++ u ∧ g = g₁ ++ g₂ ∧
      Matches r v (u ++ rest) g₁ ∧ Matches (star r) u rest g₂ := by
  rw [Matches, ← mem_repetitions_iff (Nat.le_succ _), mem_repetitions_succ]
  refine or_congr (by simp [and_comm]) ⟨?_, ?_⟩
  · rintro ⟨v, text', g₁, g₂, hne, htext, rfl, hr, hrep⟩
    have hlength := congrArg List.length htext
    have hpos := List.length_pos_of_ne_nil hne
    rw [List.length_append, List.length_append] at hlength
    rw [mem_repetitions_iff (by rw [List.length_append]; omega)] at hrep
    obtain ⟨u, rfl, hs⟩ := mem_results_iff.mp hrep
    rw [← List.append_assoc, List.append_cancel_right_eq] at htext
    exact ⟨v, u, g₁, g₂, hne, htext, rfl, hr, hs⟩
  · rintro ⟨v, u, g₁, g₂, hne, rfl, rfl, hr, hs⟩
    refine ⟨v, u ++ rest, g₁, g₂, hne, List.append_assoc _ _ _, rfl, hr, ?_⟩
    rw [mem_repetitions_iff (by simp)]
    exact hs

/-! ## Derived patterns -/

/-- A literal matches itself. -/
@[simp] lemma matches_literal {lit : String} :
    Matches (literal lit) w rest g ↔ w = lit.toList ∧ g = [] := by
  unfold literal
  generalize lit.toList = l
  induction l generalizing w g with
  | nil => exact matches_empty
  | cons c l ih =>
    rw [List.foldr_cons, matches_seq]
    constructor
    · rintro ⟨v, u, g₁, g₂, rfl, rfl, hc, hl⟩
      obtain ⟨d, hd, rfl, rfl⟩ := matches_char.mp hc
      obtain ⟨rfl, rfl⟩ := ih.mp hl
      obtain rfl := beq_iff_eq.mp hd
      exact ⟨rfl, rfl⟩
    · rintro ⟨rfl, rfl⟩
      exact ⟨[c], l, [], [], rfl, rfl, matches_char.mpr ⟨c, by simp, rfl, rfl⟩,
        ih.mpr ⟨rfl, rfl⟩⟩

/-- A counted character pattern matches that many characters. -/
@[simp] lemma matches_times_char {n : ℕ} : Matches (times (char p) n) w rest g ↔
    w.length = n ∧ (∀ c ∈ w, p c = true) ∧ g = [] := by
  induction n generalizing w g with
  | zero =>
    rw [times, matches_empty, List.length_eq_zero_iff]
    constructor
    · rintro ⟨rfl, rfl⟩
      simp
    · rintro ⟨rfl, -, rfl⟩
      simp
  | succ n ih =>
    rw [times, matches_seq]
    constructor
    · rintro ⟨v, u, g₁, g₂, rfl, rfl, hv, hn⟩
      obtain ⟨c, hc, rfl, rfl⟩ := matches_char.mp hv
      obtain ⟨hlength, hu, rfl⟩ := ih.mp hn
      exact ⟨by simp [hlength], List.forall_mem_cons.mpr ⟨hc, hu⟩, rfl⟩
    · rintro ⟨hlength, hw, rfl⟩
      obtain ⟨c, u, rfl⟩ := List.exists_cons_of_length_eq_add_one hlength
      obtain ⟨hc, hu⟩ := List.forall_mem_cons.mp hw
      exact ⟨[c], u, [], [], rfl, rfl, matches_char.mpr ⟨c, hc, rfl, rfl⟩,
        ih.mpr ⟨by simpa using hlength, hu, rfl⟩⟩

/-- A bounded character pattern matches at most that many characters. -/
@[simp] lemma matches_upTo_char {n : ℕ} : Matches (upTo (char p) n) w rest g ↔
    w.length ≤ n ∧ (∀ c ∈ w, p c = true) ∧ g = [] := by
  induction n generalizing w g with
  | zero =>
    rw [upTo, matches_empty, Nat.le_zero, List.length_eq_zero_iff]
    constructor
    · rintro ⟨rfl, rfl⟩
      simp
    · rintro ⟨rfl, -, rfl⟩
      simp
  | succ n ih =>
    rw [upTo, matches_optional, matches_seq]
    constructor
    · rintro (⟨v, u, g₁, g₂, rfl, rfl, hv, hn⟩ | ⟨rfl, rfl⟩)
      · obtain ⟨c, hc, rfl, rfl⟩ := matches_char.mp hv
        obtain ⟨hlength, hu, rfl⟩ := ih.mp hn
        exact ⟨by simpa using hlength, List.forall_mem_cons.mpr ⟨hc, hu⟩, rfl⟩
      · simp
    · rintro ⟨hlength, hw, rfl⟩
      cases w with
      | nil => exact Or.inr ⟨rfl, rfl⟩
      | cons c u =>
        obtain ⟨hc, hu⟩ := List.forall_mem_cons.mp hw
        exact Or.inl ⟨[c], u, [], [], rfl, rfl, matches_char.mpr ⟨c, hc, rfl, rfl⟩,
          ih.mpr ⟨by simpa using hlength, hu, rfl⟩⟩

/-- A class repeated between two bounds consumes that many of its characters. -/
lemma matches_between_char {m n : ℕ} (hle : m ≤ n) : Matches (between (char p) m n) w rest g ↔
    m ≤ w.length ∧ w.length ≤ n ∧ (∀ c ∈ w, p c = true) ∧ g = [] := by
  rw [between, matches_seq]
  constructor
  · rintro ⟨v, u, g₁, g₂, rfl, rfl, hfirst, hmore⟩
    obtain ⟨hlength, hv, rfl⟩ := matches_times_char.mp hfirst
    obtain ⟨hlength', hu, rfl⟩ := matches_upTo_char.mp hmore
    refine ⟨?_, ?_, List.forall_mem_append.mpr ⟨hv, hu⟩, rfl⟩ <;> rw [List.length_append] <;> omega
  · rintro ⟨hm, hn, hw, rfl⟩
    refine ⟨w.take m, w.drop m, [], [], (List.take_append_drop m w).symm, rfl,
      matches_times_char.mpr ⟨by rw [List.length_take]; omega,
        fun c hc => hw c (List.mem_of_mem_take hc), rfl⟩,
      matches_upTo_char.mpr ⟨by rw [List.length_drop]; omega,
        fun c hc => hw c (List.mem_of_mem_drop hc), rfl⟩⟩

/-! ## Whole texts -/

/-- A pattern matches a text in full when it has a way to consume it. -/
lemma fullmatch_isSome_iff {text : String} :
    (r.fullmatch text).isSome ↔ ∃ g, Matches r text.toList [] g := by
  rw [fullmatch, Option.isSome_map, List.find?_isSome]
  constructor
  · rintro ⟨⟨g, rest⟩, hm, hrest⟩
    obtain rfl : rest = [] := by simpa using hrest
    exact ⟨g, by rwa [Matches, List.append_nil]⟩
  · rintro ⟨g, hm⟩
    rw [Matches, List.append_nil] at hm
    exact ⟨(g, []), hm, rfl⟩

/-- What a match captured is what some way to consume a front part of the text captures. -/
lemma exists_matches_of_match {text : String} (h : r.match text = some g) :
    ∃ w rest, text.toList = w ++ rest ∧ Matches r w rest g := by
  obtain ⟨⟨g', rest⟩, hm, rfl⟩ := Option.map_eq_some_iff.mp h
  obtain ⟨w, hw, hr⟩ := mem_results_iff.mp (List.mem_of_mem_head? hm)
  exact ⟨w, rest, hw, hr⟩

/-- A pattern matches at the front of a text when it has a way to consume a front part of it. -/
lemma match_isSome_iff {text : String} :
    (r.match text).isSome ↔ ∃ w rest g, text.toList = w ++ rest ∧ Matches r w rest g := by
  constructor
  · intro h
    obtain ⟨g, hg⟩ := Option.isSome_iff_exists.mp h
    obtain ⟨w, rest, hw, hr⟩ := exists_matches_of_match hg
    exact ⟨w, rest, g, hw, hr⟩
  · rintro ⟨w, rest, g, hw, hr⟩
    have hmem : (g, rest) ∈ results r text.toList := mem_results_iff.mpr ⟨w, hw, hr⟩
    rw [«match», Option.isSome_map, List.isSome_head?]
    exact List.ne_nil_of_mem hmem

/-! ## Finding all -/

/-- Nothing is found in the empty text. -/
lemma scan_nil (n : ℕ) : scan r n [] = [] := by
  induction n with
  | zero => rfl
  | succ n ih =>
    rw [scan]
    cases (results r []).head? with
    | none => exact ih
    | some found => exact ih

/-- A scan with fuel for more places than the text has is a scan with just enough. -/
lemma scan_eq_findall {n : ℕ} {text : List Char} (hn : text.length < n) :
    scan r n text = findall r (String.ofList text) := by
  rw [findall, String.toList_ofList]
  suffices h : ∀ m n (text : List Char), text.length < m → text.length < n →
      scan r m text = scan r n text from h n _ text hn (Nat.lt_succ_self _)
  intro m
  induction m with
  | zero => exact fun _ _ hm _ => absurd hm (Nat.not_lt_zero _)
  | succ m ih =>
    intro n text hm hn
    cases n with
    | zero => exact absurd hn (Nat.not_lt_zero _)
    | succ n =>
      have htail : scan r m text.tail = scan r n text.tail := by
        cases text with
        | nil => rw [List.tail_nil, scan_nil, scan_nil]
        | cons c text => exact ih n text (by simpa using hm) (by simpa using hn)
      rw [scan, scan]
      cases (results r text).head? with
      | none => exact htail
      | some found =>
        dsimp only
        split
        · rw [ih n found.2 (by omega) (by omega)]
        · exact htail

/-- A preferred match that consumes something is found, and the search goes on behind it. -/
lemma findall_of_prefers {w : List Char} (hne : w ≠ [])
    (h : r.Prefers (w ++ rest) g rest) :
    findall r (String.ofList (w ++ rest)) =
      String.ofList w :: findall r (String.ofList rest) := by
  have hpos := List.length_pos_of_ne_nil hne
  have hshort : rest.length < (w ++ rest).length := by
    rw [List.length_append]
    omega
  rw [findall, String.toList_ofList, scan, h]
  dsimp only
  rw [if_pos hshort, scan_eq_findall hshort, List.length_append, Nat.add_sub_cancel,
    List.take_left]

/-- Where the pattern does not match, the search goes on with the next place. -/
lemma findall_cons_of_results_eq_nil {c : Char} (h : results r (c :: rest) = []) :
    findall r (String.ofList (c :: rest)) = findall r (String.ofList rest) := by
  rw [findall, String.toList_ofList, scan, h]
  exact scan_eq_findall (Nat.lt_succ_self _)

/-- Nothing is found in the empty text. -/
lemma findall_nil : findall r (String.ofList []) = [] :=
  scan_nil _

/-- Places at which the pattern does not match are skipped. -/
lemma findall_append_of_results_eq_nil {w : List Char}
    (h : ∀ back, back <:+ w → back ≠ [] → results r (back ++ rest) = []) :
    findall r (String.ofList (w ++ rest)) = findall r (String.ofList rest) := by
  induction w with
  | nil => rfl
  | cons c w ih =>
    have hc : results r (c :: (w ++ rest)) = [] := h (c :: w) List.suffix_rfl (by simp)
    rw [List.cons_append, findall_cons_of_results_eq_nil hc]
    exact ih fun back hback => h back (hback.trans (List.suffix_cons c w))

end Pattern

end Terraformer
