import Terraformer.Changes.PostCheck
import Terraformer.Text.Language
import Terraformer.Text.Lines

/-!
# Trunk lists

A trunk list is written as ids and ranges with commas between them, and stands for a set of
VLAN ids.  Two parsers of the source read such texts: the checker `vlanListIssues` and the
forgiving reader `expandVlanList`.  A `TrunkList` is what both should see, and `vlanLists_agree`
says that they do: the checker accepts the texts of trunk lists, the reader gives the set the
list stands for, and so the post-check compares sets.
-/

namespace Terraformer

open Text Pattern UnicodeDatabase

/-! ## Trunk lists and their texts -/

/-- A part of a trunk list: one id, or all ids from a first to a last. -/
inductive TrunkPart where
  | id (n : ℕ)
  | range (first last : ℕ)
  deriving DecidableEq, Repr

namespace TrunkPart

/-- The first id of a part. -/
def first : TrunkPart → ℕ
  | id n => n
  | range first _ => first

/-- The last id of a part. -/
def last : TrunkPart → ℕ
  | id n => n
  | range _ last => last

/-- The ids a part stands for. -/
def ids (part : TrunkPart) : Set ℤ :=
  {n | part.first ≤ n ∧ n ≤ part.last}

/-- A range runs forward, and its ids are VLAN ids. -/
def InRange (part : TrunkPart) : Prop :=
  1 ≤ part.first ∧ part.first ≤ part.last ∧ part.last ≤ 4094
deriving Decidable

end TrunkPart

/-- A list of VLAN ids and ranges of them. -/
structure TrunkList where
  parts : List TrunkPart
  parts_ne_nil : parts ≠ []
  inRange : ∀ part ∈ parts, part.InRange

/-- The ids a list stands for. -/
def TrunkList.ids (list : TrunkList) : Set ℤ :=
  {n | ∃ part ∈ list.parts, n ∈ part.ids}

section

variable [UnicodeDatabase]

/-- One to four decimal digits write an id. -/
def WritesId (word : List Char) (n : ℕ) : Prop :=
  1 ≤ word.length ∧ word.length ≤ 4 ∧
    ∃ digits, word.map decimal = digits.map some ∧ decimalValue digits = n

/-- A text writes a part: an id, or two ids with a hyphen between them. -/
inductive TrunkPart.Writes : TrunkPart → List Char → Prop
  | id {n : ℕ} {word : List Char} : WritesId word n → Writes (.id n) word
  | range {first last : ℕ} {low high : List Char} : WritesId low first → WritesId high last →
      Writes (.range first last) (low ++ '-' :: high)

/-- A text writes a list: its parts with commas between them, and white space around all. -/
def TrunkList.Writes (list : TrunkList) (text : String) : Prop :=
  ∃ words, List.Forall₂ TrunkPart.Writes list.parts words ∧
    (strip text).toList = [','].intercalate words

/-! ## Ids -/

/-- A run of one to four decimal digits. -/
def DigitRun (word : List Char) : Prop :=
  1 ≤ word.length ∧ word.length ≤ 4 ∧ ∀ c ∈ word, (decimal c).isSome = true

/-- An id is written as a run of digits. -/
lemma WritesId.digitRun {word : List Char} {n : ℕ} (h : WritesId word n) : DigitRun word := by
  obtain ⟨hpos, hfour, digits, hdigits, -⟩ := h
  refine ⟨hpos, hfour, fun c hc => ?_⟩
  have hmem : decimal c ∈ digits.map some := hdigits ▸ List.mem_map_of_mem hc
  obtain ⟨d, -, hd⟩ := List.mem_map.mp hmem
  rw [← hd]
  rfl

/-- A run of digits writes some id. -/
lemma DigitRun.exists_writesId {word : List Char} (h : DigitRun word) : ∃ n, WritesId word n := by
  obtain ⟨hpos, hfour, hdigits⟩ := h
  refine ⟨_, hpos, hfour, word.map fun c => (decimal c).getD 0, ?_, rfl⟩
  rw [List.map_map]
  refine List.map_congr_left fun c hc => ?_
  obtain ⟨d, hd⟩ := Option.isSome_iff_exists.mp (hdigits c hc)
  simp [hd]

/-- A digit is neither of the two separators of a list. -/
lemma DigitRun.not_mem {word : List Char} (h : DigitRun word) {c : Char}
    (hc : c = ',' ∨ c = '-') : c ∉ word := by
  intro hmem
  have hsome := h.2.2 c hmem
  rcases hc with rfl | rfl
  · rw [decimal_eq_none (by decide) (by decide)] at hsome
    cases hsome
  · rw [decimal_eq_none (by decide) (by decide)] at hsome
    cases hsome

/-- The driver reads the number that an id writes. -/
lemma WritesId.int {word : List Char} {n : ℕ} (h : WritesId word n) :
    int (String.ofList word) = some (n : ℤ) := by
  obtain ⟨hpos, hfour, digits, hdigits, rfl⟩ := h
  refine int_of_decimal ?_ (by rwa [String.toList_ofList]) ?_
  · rw [String.toList_ofList]
    rintro rfl
    simp at hpos
  · rw [String.toList_ofList]
    exact hfour.trans (by decide)

/-! ## Parts -/

/-- A part is not written as nothing. -/
lemma TrunkPart.Writes.ne_nil {part : TrunkPart} {word : List Char} (h : part.Writes word) :
    word ≠ [] := by
  cases h with
  | id h =>
    rintro rfl
    exact absurd h.1 (by simp)
  | range => simp

/-- A part is written without commas. -/
lemma TrunkPart.Writes.not_comma {part : TrunkPart} {word : List Char} (h : part.Writes word) :
    ',' ∉ word := by
  cases h with
  | id h => exact h.digitRun.not_mem (Or.inl rfl)
  | range hlow hhigh =>
    simp [hlow.digitRun.not_mem (Or.inl rfl), hhigh.digitRun.not_mem (Or.inl rfl)]

/-- The driver reads the bounds of a part. -/
lemma TrunkPart.Writes.vlanRange {part : TrunkPart} {word : List Char} (h : part.Writes word) :
    vlanRange (String.ofList word) = some ((part.first : ℤ), (part.last : ℤ)) := by
  cases h with
  | id h =>
    have hhyphen : '-' ∉ (String.ofList word).toList := by
      simpa using h.digitRun.not_mem (Or.inr rfl)
    simp [Terraformer.vlanRange, Device.partition_eq_self hhyphen, h.int, first, last]
  | @range m n low high hlow hhigh =>
    have hhyphen : '-' ∉ (String.ofList low).toList := by
      simpa using hlow.digitRun.not_mem (Or.inr rfl)
    have hne : String.ofList high ≠ "" := by
      intro hnil
      have := hhigh.1
      rw [← String.toList_ofList (l := high), hnil] at this
      exact absurd this (by decide)
    have hsplit : partition '-' (String.ofList (low ++ '-' :: high)) =
        (String.ofList low, String.ofList high) :=
      Device.partition_append hhyphen (by simp)
    rw [Terraformer.vlanRange, hsplit]
    simp [hne, hlow.int, hhigh.int, first, last]

/-- The texts that fit the pattern of a part are those of the parts, in range or not. -/
lemma matches_vlanRangePattern {w rest : List Char} {g : Captures} :
    Matches vlanRangePattern w rest g ↔ (∃ part : TrunkPart, part.Writes w) ∧ g = [] := by
  have hrun : ∀ {w rest : List Char} {g : Captures},
      Matches (between digit 1 4) w rest g ↔ DigitRun w ∧ g = [] := by
    intro w rest g
    rw [digit, matches_between_char (by decide), DigitRun]
    tauto
  rw [vlanRangePattern, matches_seq]
  constructor
  · rintro ⟨low, more, g₁, g₂, rfl, rfl, hfirst, hmore⟩
    obtain ⟨hlow, rfl⟩ := hrun.mp hfirst
    obtain ⟨m, hm⟩ := hlow.exists_writesId
    rcases matches_optional.mp hmore with hmore | ⟨rfl, rfl⟩
    · obtain ⟨hyphen, high, g₃, g₄, rfl, rfl, hhyphen, hlast⟩ := matches_seq.mp hmore
      obtain ⟨rfl, rfl⟩ := matches_literal.mp hhyphen
      obtain ⟨hhigh, rfl⟩ := hrun.mp hlast
      obtain ⟨n, hn⟩ := hhigh.exists_writesId
      exact ⟨⟨.range m n, .range hm hn⟩, rfl⟩
    · exact ⟨⟨.id m, by simpa using TrunkPart.Writes.id hm⟩, rfl⟩
  · rintro ⟨⟨part, hpart⟩, rfl⟩
    cases hpart with
    | id h =>
      exact ⟨w, [], [], [], by simp, rfl, hrun.mpr ⟨h.digitRun, rfl⟩,
        matches_optional.mpr (Or.inr ⟨rfl, rfl⟩)⟩
    | @range m n low high hlow hhigh =>
      refine ⟨low, '-' :: high, [], [], rfl, rfl, hrun.mpr ⟨hlow.digitRun, rfl⟩,
        matches_optional.mpr (Or.inl (matches_seq.mpr ?_))⟩
      exact ⟨['-'], high, [], [], rfl, rfl, matches_literal.mpr ⟨rfl, rfl⟩,
        hrun.mpr ⟨hhigh.digitRun, rfl⟩⟩

/-! ## Lists -/

/-- The texts of the further parts of a list, each behind a comma. -/
lemma matches_furtherParts {w rest : List Char} {g : Captures} :
    Matches (star (seq (literal ",") vlanRangePattern)) w rest g ↔
      (∃ parts words, List.Forall₂ TrunkPart.Writes parts words ∧
        w = words.flatMap (',' :: ·)) ∧ g = [] := by
  constructor
  · intro h
    -- each repetition consumes at least its comma
    suffices hlength : ∀ n (w : List Char) (g : Captures), w.length ≤ n →
        Matches (star (seq (literal ",") vlanRangePattern)) w rest g →
        (∃ parts words, List.Forall₂ TrunkPart.Writes parts words ∧
          w = words.flatMap (',' :: ·)) ∧ g = [] from hlength _ w g le_rfl h
    intro n
    induction n with
    | zero =>
      intro w g hw h
      obtain rfl := List.length_eq_zero_iff.mp (Nat.le_zero.mp hw)
      rcases matches_star.mp h with ⟨-, rfl⟩ | ⟨v, u, g₁, g₂, hne, hvu, -⟩
      · exact ⟨⟨[], [], .nil, rfl⟩, rfl⟩
      · exact absurd (List.append_eq_nil_iff.mp hvu.symm).1 hne
    | succ n ih =>
      intro w g hw h
      rcases matches_star.mp h with ⟨rfl, rfl⟩ | ⟨v, u, g₁, g₂, hne, rfl, rfl, hv, hu⟩
      · exact ⟨⟨[], [], .nil, rfl⟩, rfl⟩
      · have hpos := List.length_pos_of_ne_nil hne
        rw [List.length_append] at hw
        obtain ⟨⟨parts, words, hparts, rfl⟩, rfl⟩ := ih u g₂ (by omega) hu
        obtain ⟨comma, word, g₃, g₄, rfl, rfl, hcomma, hword⟩ := matches_seq.mp hv
        obtain ⟨rfl, rfl⟩ := matches_literal.mp hcomma
        obtain ⟨⟨part, hpart⟩, rfl⟩ := matches_vlanRangePattern.mp hword
        exact ⟨⟨part :: parts, word :: words, .cons hpart hparts, rfl⟩, rfl⟩
  · rintro ⟨⟨parts, words, hparts, rfl⟩, rfl⟩
    induction hparts with
    | nil => exact matches_star.mpr (Or.inl ⟨rfl, rfl⟩)
    | @cons part word parts words hpart _ ih =>
      refine matches_star.mpr (Or.inr ⟨',' :: word, words.flatMap (',' :: ·), [], [], by simp, rfl,
        rfl, matches_seq.mpr ?_, ih⟩)
      exact ⟨[','], word, [], [], rfl, rfl, matches_literal.mpr ⟨rfl, rfl⟩,
        matches_vlanRangePattern.mpr ⟨⟨part, hpart⟩, rfl⟩⟩

omit [UnicodeDatabase] in
/-- Words with commas between them: the first word, and the others behind a comma each. -/
lemma intercalate_comma (word : List Char) (words : List (List Char)) :
    [','].intercalate (word :: words) = word ++ words.flatMap (',' :: ·) := by
  induction words generalizing word with
  | nil => simp
  | cons next words ih =>
    rw [List.intercalate_cons_cons, ih, List.flatMap_cons]
    simp

/-- The texts that fit the pattern of a list are parts with commas between them. -/
lemma fullmatch_vlanListPattern {text : String} : (vlanListPattern.fullmatch text).isSome ↔
    ∃ parts words, parts ≠ [] ∧ List.Forall₂ TrunkPart.Writes parts words ∧
      text.toList = [','].intercalate words := by
  rw [fullmatch_isSome_iff]
  constructor
  · rintro ⟨g, h⟩
    obtain ⟨word, more, g₁, g₂, htext, -, hword, hmore⟩ := matches_seq.mp h
    obtain ⟨⟨part, hpart⟩, -⟩ := matches_vlanRangePattern.mp hword
    obtain ⟨⟨parts, words, hparts, rfl⟩, -⟩ := matches_furtherParts.mp hmore
    exact ⟨part :: parts, word :: words, by simp, .cons hpart hparts,
      htext.trans (intercalate_comma word words).symm⟩
  · rintro ⟨parts, words, hne, hparts, htext⟩
    cases hparts with
    | nil => exact absurd rfl hne
    | @cons part word parts words hpart hparts =>
      refine ⟨[], matches_seq.mpr ⟨word, words.flatMap (',' :: ·), [], [], ?_, rfl,
        matches_vlanRangePattern.mpr ⟨⟨part, hpart⟩, rfl⟩,
        matches_furtherParts.mpr ⟨⟨parts, words, hparts, rfl⟩, rfl⟩⟩⟩
      rw [htext, intercalate_comma]

/-- The text of a list is not empty. -/
lemma intercalate_ne_nil {parts : List TrunkPart} {words : List (List Char)} (hne : parts ≠ [])
    (hparts : List.Forall₂ TrunkPart.Writes parts words) : [','].intercalate words ≠ [] := by
  cases hparts with
  | nil => exact absurd rfl hne
  | cons hpart _ =>
    rw [intercalate_comma]
    exact List.append_ne_nil_of_left_ne_nil hpart.ne_nil _

/-- The parts of a list hold no comma. -/
lemma not_comma_of_writes {parts : List TrunkPart} {words : List (List Char)}
    (hparts : List.Forall₂ TrunkPart.Writes parts words) : ∀ word ∈ words, ',' ∉ word := by
  induction hparts with
  | nil => simp
  | cons hpart _ ih => exact List.forall_mem_cons.mpr ⟨hpart.not_comma, ih⟩

/-- The parts of a list are found at its commas. -/
lemma splitAt_of_writes {parts : List TrunkPart} {words : List (List Char)} {text : String}
    (hne : parts ≠ []) (hparts : List.Forall₂ TrunkPart.Writes parts words)
    (htext : text.toList = [','].intercalate words) :
    splitAt ',' text = words.map String.ofList := by
  rw [splitAt, htext, List.splitOn, splitOnP_intercalate (by simp)]
  · rintro rfl
    cases hparts
    exact hne rfl
  · intro word hword c hc
    rw [beq_eq_false_iff_ne]
    rintro rfl
    exact not_comma_of_writes hparts word hword hc

/-- The bounds the driver reads in the parts of a list. -/
lemma filterMap_vlanRange {parts : List TrunkPart} {words : List (List Char)}
    (hparts : List.Forall₂ TrunkPart.Writes parts words) :
    (words.map String.ofList).filterMap vlanRange =
      parts.map fun part => ((part.first : ℤ), (part.last : ℤ)) := by
  induction hparts with
  | nil => rfl
  | cons hpart _ ih =>
    rw [List.map_cons, List.filterMap_cons_some hpart.vlanRange, ih, List.map_cons]

/-- The checker finds nothing wrong with the parts exactly when they are in range. -/
lemma vlanRangeIssues_eq_nil {parts : List TrunkPart} {words : List (List Char)} (field : String)
    (hparts : List.Forall₂ TrunkPart.Writes parts words) :
    vlanRangeIssues field (words.map String.ofList) = [] ↔ ∀ part ∈ parts, part.InRange := by
  induction hparts with
  | nil => simp [vlanRangeIssues]
  | @cons part word parts words hpart _ ih =>
    have hmin : vlanIdMin = 1 := rfl
    have hmax : vlanIdMax = 4094 := rfl
    rw [List.map_cons, vlanRangeIssues, hpart.vlanRange, List.forall_mem_cons, ← ih,
      TrunkPart.InRange]
    dsimp only
    by_cases hbackwards : (part.last : ℤ) < part.first
    · rw [if_pos hbackwards]
      exact iff_of_false (by simp) fun hin => by omega
    · rw [if_neg hbackwards]
      by_cases hbounds : vlanIdMin ≤ (part.first : ℤ) ∧ (part.last : ℤ) ≤ vlanIdMax
      · rw [if_neg (not_not_intro hbounds)]
        exact (and_iff_right (by omega)).symm
      · rw [if_pos hbounds]
        exact iff_of_false (by simp) fun hin => by omega

omit [UnicodeDatabase] in
/-- Collecting ranges one after another gives all of their ids. -/
lemma mem_foldl_idRange {ranges : List (ℤ × ℤ)} {acc : Finset ℤ} {n : ℤ} :
    n ∈ ranges.foldl (fun ids range => ids ∪ idRange range.1 range.2) acc ↔
      n ∈ acc ∨ ∃ range ∈ ranges, range.1 ≤ n ∧ n ≤ range.2 := by
  induction ranges generalizing acc with
  | nil => simp
  | cons range ranges ih =>
    rw [List.foldl_cons, ih, Finset.mem_union, mem_idRange]
    simp [or_assoc]

/-- The text of a list holds digits, commas and hyphens. -/
lemma upperMap_of_writes {parts : List TrunkPart} {words : List (List Char)}
    (hparts : List.Forall₂ TrunkPart.Writes parts words) :
    ∀ c ∈ [','].intercalate words, upperMap c = [c] ∧ c ≠ 'A' ∧ c ≠ 'N' := by
  have hdigit : ∀ {word : List Char}, DigitRun word → ∀ c ∈ word,
      upperMap c = [c] ∧ c ≠ 'A' ∧ c ≠ 'N' := by
    intro word hword c hc
    have hsome := hword.2.2 c hc
    refine ⟨upperMap_decimal c (Option.isSome_iff_ne_none.mp hsome), ?_, ?_⟩
    · rintro rfl
      rw [decimal_eq_none (by decide) (by decide)] at hsome
      cases hsome
    · rintro rfl
      rw [decimal_eq_none (by decide) (by decide)] at hsome
      cases hsome
  have hword : ∀ word ∈ words, ∀ c ∈ word, upperMap c = [c] ∧ c ≠ 'A' ∧ c ≠ 'N' := by
    induction hparts with
    | nil => simp
    | cons hpart _ ih =>
      refine List.forall_mem_cons.mpr ⟨?_, ih⟩
      cases hpart with
      | id h => exact hdigit h.digitRun
      | range hlow hhigh =>
        refine List.forall_mem_append.mpr ⟨hdigit hlow.digitRun, List.forall_mem_cons.mpr ⟨?_,
          hdigit hhigh.digitRun⟩⟩
        exact ⟨upperMap_ascii _ (by decide), by decide, by decide⟩
  intro c hc
  rcases mem_of_mem_intercalate hc with rfl | ⟨word, hmem, hcw⟩
  · exact ⟨upperMap_ascii _ (by decide), by decide, by decide⟩
  · exact hword word hmem c hcw

namespace TrunkList

/-- The reader gives the ids the list stands for. -/
lemma Writes.mem_expandVlanList {list : TrunkList} {text : String} (h : list.Writes text) {n : ℤ} :
    n ∈ expandVlanList text ↔ n ∈ list.ids := by
  obtain ⟨words, hparts, htext⟩ := h
  have hchars := upperMap_of_writes hparts
  rw [← htext] at hchars
  have hne : (strip text).toList ≠ [] := by
    rw [htext]
    exact intercalate_ne_nil list.parts_ne_nil hparts
  have hempty : strip text ≠ "" := fun heq => hne (by rw [heq]; rfl)
  have hnone : strip text ≠ "NONE" := fun heq => (hchars 'N' (by rw [heq]; decide)).2.2 rfl
  have hall : strip text ≠ "ALL" := fun heq => (hchars 'A' (by rw [heq]; decide)).2.1 rfl
  rw [expandVlanList, upper_eq_self_of_upperMap fun c hc => (hchars c hc).1]
  simp only [hempty, hnone, hall, or_self, if_false]
  rw [splitAt_of_writes list.parts_ne_nil hparts htext, filterMap_vlanRange hparts,
    mem_foldl_idRange]
  simp [ids, TrunkPart.ids]

omit [UnicodeDatabase] in
/-- A list stands for some ids, and for VLAN ids only. -/
lemma ids_bounds (list : TrunkList) :
    list.ids.Nonempty ∧ ∀ n ∈ list.ids, 1 ≤ n ∧ n ≤ 4094 := by
  constructor
  · obtain ⟨part, hpart⟩ := List.exists_mem_of_ne_nil _ list.parts_ne_nil
    obtain ⟨-, hle, -⟩ := list.inRange part hpart
    exact ⟨part.first, part, hpart, le_rfl, by exact_mod_cast hle⟩
  · rintro n ⟨part, hpart, hfirst, hlast⟩
    obtain ⟨hlow, -, hhigh⟩ := list.inRange part hpart
    omega

omit [UnicodeDatabase] in
/-- A finite set of the ids of a list is non-empty and holds VLAN ids only. -/
lemma bounds_of_mem_iff {list : TrunkList} {s : Finset ℤ} (h : ∀ n, n ∈ s ↔ n ∈ list.ids) :
    s.Nonempty ∧ ∀ n ∈ s, 1 ≤ n ∧ n ≤ 4094 := by
  obtain ⟨⟨n, hn⟩, hbounds⟩ := list.ids_bounds
  exact ⟨⟨n, (h n).mpr hn⟩, fun m hm => hbounds m ((h m).mp hm)⟩

end TrunkList

/-- The checker accepts the texts of trunk lists. -/
lemma vlanListIssues_eq_nil_iff {text field : String} :
    vlanListIssues text field = [] ↔ ∃ list : TrunkList, list.Writes text := by
  rw [vlanListIssues]
  constructor
  · intro h
    split at h
    · cases h
    · next g hmatch =>
      obtain ⟨parts, words, hne, hparts, htext⟩ :=
        fullmatch_vlanListPattern.mp (Option.isSome_iff_exists.mpr ⟨g, hmatch⟩)
      rw [splitAt_of_writes hne hparts htext, vlanRangeIssues_eq_nil field hparts] at h
      exact ⟨⟨parts, hne, h⟩, words, hparts, htext⟩
  · rintro ⟨list, words, hparts, htext⟩
    obtain ⟨g, hmatch⟩ := Option.isSome_iff_exists.mp (fullmatch_vlanListPattern.mpr
      ⟨list.parts, words, list.parts_ne_nil, hparts, htext⟩)
    rw [hmatch]
    dsimp only
    rw [splitAt_of_writes list.parts_ne_nil hparts htext, vlanRangeIssues_eq_nil field hparts]
    exact list.inRange

/-! ## The device's report -/

/-- The allowed list a device reports for a port: a list, or a word for all ids or for none. -/
inductive AllowedText : String → Set ℤ → Prop
  | list {list : TrunkList} {text : String} : list.Writes text → AllowedText text list.ids
  | all {text : String} : upper (strip text) = "ALL" →
      AllowedText text {n | 1 ≤ n ∧ n ≤ 4094}
  | none {text : String} : upper (strip text) ∈ ["", "NONE"] → AllowedText text ∅

/-- The reader gives the ids a device reports. -/
lemma AllowedText.mem_expandVlanList {text : String} {held : Set ℤ}
    (h : AllowedText text held) {n : ℤ} : n ∈ expandVlanList text ↔ n ∈ held := by
  cases h with
  | list h => exact h.mem_expandVlanList
  | all h =>
    rw [expandVlanList, h]
    simp [vlanIdMin, vlanIdMax]
  | none h =>
    have hempty : upper (strip text) = "" ∨ upper (strip text) = "NONE" := by simpa using h
    rw [expandVlanList]
    simp [hempty]

/-- Two readings agree exactly when the reports are of the same ids. -/
lemma expandVlanList_eq_iff {text other : String} {held asked : Set ℤ}
    (htext : AllowedText text asked) (hother : AllowedText other held) :
    expandVlanList other = expandVlanList text ↔ held = asked := by
  rw [Finset.ext_iff, Set.ext_iff]
  exact forall_congr' fun n => by rw [htext.mem_expandVlanList, hother.mem_expandVlanList]

/-- The post-check of a trunk list passes exactly when the port is a trunk that holds the set. -/
lemma postCheckOk_trunkVlans {step : ChangeStepIntent} {context : ChangeContext} {asked : Set ℤ}
    (hstep : step.changeType = .interfaceTrunkVlans)
    (hasked : AllowedText step.desiredValue asked)
    (hreports : ∀ port, context.switchportOf step.target = some port →
      ∃ held, AllowedText (port.trunkAllowed.getD "") held) :
    postCheckOk step context = .ok true ↔ ∃ port, context.switchportOf step.target = some port ∧
      port.isTrunk = true ∧ AllowedText (port.trunkAllowed.getD "") asked := by
  rw [postCheckOk, hstep]
  cases hport : context.switchportOf step.target with
  | none => simp
  | some port =>
    obtain ⟨held, hheld⟩ := hreports port hport
    have hset : expandVlanList (port.trunkAllowed.getD "") = expandVlanList step.desiredValue ↔
        AllowedText (port.trunkAllowed.getD "") asked := by
      rw [expandVlanList_eq_iff hasked hheld]
      constructor
      · rintro rfl
        exact hheld
      · intro h
        exact (expandVlanList_eq_iff h hheld).mp rfl
    simp [hset]

/-- The checker accepts the texts of trunk lists; on these the reader gives the set the list
stands for, and the post-check compares it with the set the device reports. -/
theorem vlanLists_agree (text field : String) :
    (vlanListIssues text field = [] ↔ ∃ list : TrunkList, list.Writes text) ∧
      ∀ list : TrunkList, list.Writes text →
        (∀ n, n ∈ expandVlanList text ↔ n ∈ list.ids) ∧ (expandVlanList text).Nonempty ∧
        (∀ n ∈ expandVlanList text, 1 ≤ n ∧ n ≤ 4094) ∧
        (∀ other held, AllowedText other held →
          (expandVlanList other = expandVlanList text ↔ held = list.ids)) ∧
        ∀ (step : ChangeStepIntent) (context : ChangeContext),
          step.changeType = .interfaceTrunkVlans → step.desiredValue = text →
          (∀ port, context.switchportOf step.target = some port →
            ∃ held, AllowedText (port.trunkAllowed.getD "") held) →
          (postCheckOk step context = .ok true ↔
            ∃ port, context.switchportOf step.target = some port ∧ port.isTrunk = true ∧
              AllowedText (port.trunkAllowed.getD "") list.ids) := by
  refine ⟨vlanListIssues_eq_nil_iff, fun list hlist => ?_⟩
  have hmem : ∀ n, n ∈ expandVlanList text ↔ n ∈ list.ids := fun _ => hlist.mem_expandVlanList
  have hallowed : AllowedText text list.ids := .list hlist
  obtain ⟨hnonempty, hbounds⟩ := TrunkList.bounds_of_mem_iff hmem
  refine ⟨hmem, hnonempty, hbounds,
    fun other held hother => expandVlanList_eq_iff hallowed hother, ?_⟩
  intro step context hstep hvalue hreports
  exact postCheckOk_trunkVlans hstep (hvalue ▸ hallowed) hreports

end

/-- Three ids in a row and a fourth, as the operator asked for them. -/
def sampleTrunkList : TrunkList :=
  ⟨[.id 20, .range 10 12], by decide, by decide⟩

/-- The same ids, as the device prints them. -/
def printedTrunkList : TrunkList :=
  ⟨[.range 10 12, .id 20], by decide, by decide⟩

/-- A trunk that is reported with these ids. -/
def printedPort : SwitchportFacts :=
  { name := "Gi1/0/4", mode := "trunk", trunkAllowed := some "10-12,20" }

/-- The sample list is read alike by all three. -/
theorem vlanLists_agree_sampleTrunkList :
    letI := asciiDatabase
    postCheckOk ⟨.interfaceTrunkVlans, "Gi1/0/4", "20,10-12"⟩
      { switchports := [printedPort] } = .ok true := by
  let _ := asciiDatabase
  have hsample : sampleTrunkList.Writes "20,10-12" :=
    ⟨["20".toList, "10-12".toList],
      .cons (.id ⟨by decide, by decide, [2, 0], by decide, by decide⟩)
        (.cons (@TrunkPart.Writes.range _ 10 12 "10".toList "12".toList
          ⟨by decide, by decide, [1, 0], by decide, by decide⟩
          ⟨by decide, by decide, [1, 2], by decide, by decide⟩) .nil), by decide⟩
  have hprinted : printedTrunkList.Writes "10-12,20" :=
    ⟨["10-12".toList, "20".toList],
      .cons (@TrunkPart.Writes.range _ 10 12 "10".toList "12".toList
          ⟨by decide, by decide, [1, 0], by decide, by decide⟩
          ⟨by decide, by decide, [1, 2], by decide, by decide⟩)
        (.cons (.id ⟨by decide, by decide, [2, 0], by decide, by decide⟩) .nil), by decide⟩
  have hids : printedTrunkList.ids = sampleTrunkList.ids := by
    ext n
    simp [TrunkList.ids, printedTrunkList, sampleTrunkList, or_comm]
  have hfind : ChangeContext.switchportOf { switchports := [printedPort] } "Gi1/0/4" =
      some printedPort := by decide
  obtain ⟨-, hagree⟩ := vlanLists_agree "20,10-12" "desired value"
  obtain ⟨-, -, -, -, hcheck⟩ := hagree sampleTrunkList hsample
  refine (hcheck ⟨.interfaceTrunkVlans, "Gi1/0/4", "20,10-12"⟩ _ rfl rfl fun port hport => ?_).mpr
    ⟨printedPort, hfind, rfl, ?_⟩
  · obtain rfl := Option.some.inj (hfind.symm.trans hport)
    exact ⟨_, .list hprinted⟩
  · rw [← hids]
    exact .list hprinted

end Terraformer
