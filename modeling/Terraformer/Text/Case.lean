import Terraformer.Text.Basic

/-!
# Letter case, digits and printable characters

`str.lower`, `str.upper`, `str.isprintable` and the decimal digits of `\d` and `int` depend
on the Unicode tables of the interpreter the program runs on.  `UnicodeDatabase` holds these
tables, with the facts about them that the development uses; each of them holds of every
code point of every Unicode version the interpreter ships.  What `str.lower` does with the
tables, its rule for a final sigma included, is written out.
-/

namespace Terraformer

/-- The character tables behind `str.lower`, `str.upper`, `str.isprintable` and `\d`. -/
class UnicodeDatabase where
  /-- The value of a decimal digit. -/
  decimal : Char → Option ℕ
  /-- `str.isprintable` of one character. -/
  printable : Char → Bool
  /-- The full lower-case mapping of a character. -/
  lowerMap : Char → List Char
  /-- The full upper-case mapping of a character. -/
  upperMap : Char → List Char
  /-- The property `Cased`. -/
  cased : Char → Bool
  /-- The property `Case_Ignorable`. -/
  caseIgnorable : Char → Bool
  decimal_ascii : ∀ c : Char, c.toNat < 128 →
    decimal c = if c.isDigit then some (c.toNat - 48) else none
  decimal_not_space : ∀ c : Char, decimal c ≠ none → isSpace c = false
  printable_space : ∀ c : Char, printable c = true → isSpace c = true → c = ' '
  printable_ascii : ∀ c : Char, c.toNat < 128 →
    printable c = (decide (32 ≤ c.toNat) && decide (c.toNat < 127))
  lowerMap_ascii : ∀ c : Char, c.toNat < 128 → lowerMap c = [c.toLower]
  upperMap_ascii : ∀ c : Char, c.toNat < 128 → upperMap c = [c.toUpper]
  upperMap_decimal : ∀ c : Char, decimal c ≠ none → upperMap c = [c]
  lowerMap_ne_nil : ∀ c : Char, lowerMap c ≠ []
  lowerMap_space : ∀ c : Char, isSpace c = true → lowerMap c = [c]
  lowerMap_not_space : ∀ c : Char, isSpace c = false → ∀ d ∈ lowerMap c, isSpace d = false
  lowerMap_lowerMap : ∀ c : Char, ∀ d ∈ lowerMap c, d ≠ 'Σ' ∧ lowerMap d = [d]
  lowerMap_sigma : lowerMap 'σ' = ['σ'] ∧ lowerMap 'ς' = ['ς']
  space_not_cased : ∀ c : Char, isSpace c = true → cased c = false ∧ caseIgnorable c = false

open UnicodeDatabase

section Lower

variable [UnicodeDatabase]

/-- The first character that is not case-ignorable is cased. -/
def firstCased (l : List Char) : Bool :=
  match l.dropWhile caseIgnorable with
  | c :: _ => cased c
  | [] => false

/-- A capital sigma ends a word: a cased character comes before it and none after. -/
def finalSigma (before after : List Char) : Bool :=
  firstCased before && !firstCased after

/-- `str.lower` behind the characters `before`, the nearest of them first. -/
def lowerFrom (before : List Char) : List Char → List Char
  | [] => []
  | c :: cs =>
    (if c = 'Σ' then [if finalSigma before cs then 'ς' else 'σ'] else lowerMap c) ++
      lowerFrom (c :: before) cs

/-- White space ends the search for a cased character. -/
lemma firstCased_append_space {c : Char} (hc : isSpace c = true) (a b : List Char) :
    firstCased (a ++ c :: b) = firstCased a := by
  obtain ⟨hcased, hign⟩ := space_not_cased c hc
  unfold firstCased
  induction a with
  | nil => simp [hcased, hign]
  | cons d a ih =>
    cases hd : caseIgnorable d with
    | true => simpa [List.dropWhile_cons_of_pos hd] using ih
    | false => simp [hd]

/-- A sigma behind a white space does not see what stands before the white space. -/
lemma finalSigma_append_space_left {c : Char} (hc : isSpace c = true) (a b after : List Char) :
    finalSigma (a ++ c :: b) after = finalSigma a after := by
  rw [finalSigma, firstCased_append_space hc, finalSigma]

/-- A sigma before a white space does not see what stands behind the white space. -/
lemma finalSigma_append_space_right {c : Char} (hc : isSpace c = true) (before a b : List Char) :
    finalSigma before (a ++ c :: b) = finalSigma before a := by
  rw [finalSigma, firstCased_append_space hc, finalSigma]

/-- Lower-casing goes separately through the two sides of a white space. -/
lemma lowerFrom_append_space {c : Char} (hc : isSpace c = true) (before a b : List Char) :
    lowerFrom before (a ++ c :: b) = lowerFrom before a ++ c :: lowerFrom [] b := by
  have hsigma : c ≠ 'Σ' := by
    rintro rfl
    exact absurd hc (by decide)
  -- what stands before the white space has no say in what follows it
  have hright : ∀ (b x y : List Char), lowerFrom (x ++ c :: y) b = lowerFrom x b := by
    intro b
    induction b with
    | nil => intro x y; rfl
    | cons d b ih =>
      intro x y
      have h := ih (d :: x) y
      rw [List.cons_append] at h
      rw [lowerFrom, finalSigma_append_space_left hc, h, lowerFrom]
  induction a generalizing before with
  | nil =>
    have h := hright b [] before
    simp only [List.nil_append] at h
    simp [lowerFrom, hsigma, lowerMap_space c hc, h]
  | cons d a ih =>
    rw [List.cons_append, lowerFrom, finalSigma_append_space_right hc, ih, lowerFrom,
      List.append_assoc]

/-- The lower-case image of one character: some characters, of white space only itself. -/
lemma mem_lowerFrom {before l : List Char} {d : Char} (hd : d ∈ lowerFrom before l) :
    d = 'σ' ∨ d = 'ς' ∨ ∃ c ∈ l, d ∈ lowerMap c := by
  induction l generalizing before with
  | nil => simp [lowerFrom] at hd
  | cons c l ih =>
    rw [lowerFrom, List.mem_append] at hd
    rcases hd with hd | hd
    · split at hd
      · split at hd <;> simp_all
      · exact Or.inr (Or.inr ⟨c, by simp, hd⟩)
    · rcases ih hd with h | h | ⟨e, he, hde⟩
      · exact Or.inl h
      · exact Or.inr (Or.inl h)
      · exact Or.inr (Or.inr ⟨e, by simp [he], hde⟩)

/-- A text is lower-cased to the empty text only when it is empty. -/
lemma lowerFrom_eq_nil_iff {before l : List Char} : lowerFrom before l = [] ↔ l = [] := by
  cases l with
  | nil => simp [lowerFrom]
  | cons c l =>
    simp only [lowerFrom, List.append_eq_nil_iff, reduceCtorEq, iff_false, not_and]
    intro h
    split at h
    · simp at h
    · exact absurd h (lowerMap_ne_nil c)

/-- A text whose characters are their own lower-case images is not changed. -/
lemma lowerFrom_eq_self {before l : List Char} (h : ∀ c ∈ l, c ≠ 'Σ' ∧ lowerMap c = [c]) :
    lowerFrom before l = l := by
  induction l generalizing before with
  | nil => rfl
  | cons c l ih =>
    have hc := h c (by simp)
    rw [lowerFrom, if_neg hc.1, hc.2, ih fun d hd => h d (by simp [hd])]
    rfl

/-- Lower-casing makes no white space out of other characters. -/
lemma isSpace_eq_false_of_mem_lowerFrom {before l : List Char}
    (h : ∀ c ∈ l, isSpace c = false) : ∀ d ∈ lowerFrom before l, isSpace d = false := by
  intro d hd
  rcases mem_lowerFrom hd with rfl | rfl | ⟨c, hc, hdc⟩
  · decide
  · decide
  · exact lowerMap_not_space c (h c hc) d hdc

/-- A text that does not end in white space is lower-cased to such a text. -/
lemma getLast?_lowerFrom (before : List Char) {l : List Char}
    (h : ∀ c ∈ l.getLast?, isSpace c = false) :
    ∀ d ∈ (lowerFrom before l).getLast?, isSpace d = false := by
  induction l generalizing before with
  | nil => simp [lowerFrom]
  | cons c l ih =>
    intro d hd
    cases l with
    | nil =>
      have hc : ∀ e ∈ [c], isSpace e = false := by simpa using h
      exact isSpace_eq_false_of_mem_lowerFrom hc d (List.mem_of_getLast? hd)
    | cons e l =>
      have hne : lowerFrom (c :: before) (e :: l) ≠ [] := by simp [lowerFrom_eq_nil_iff]
      rw [lowerFrom, List.getLast?_append_of_ne_nil _ hne] at hd
      exact ih _ (by simpa using h) d hd

/-- Lower-casing twice is lower-casing once. -/
lemma lowerFrom_lowerFrom (before before' l : List Char) :
    lowerFrom before' (lowerFrom before l) = lowerFrom before l := by
  refine lowerFrom_eq_self fun d hd => ?_
  rcases mem_lowerFrom hd with rfl | rfl | ⟨c, -, hdc⟩
  · exact ⟨by decide, lowerMap_sigma.1⟩
  · exact ⟨by decide, lowerMap_sigma.2⟩
  · exact lowerMap_lowerMap c d hdc

/-- The words of a lower-cased text are the lower-cased words. -/
lemma listWords_lowerFrom (l : List Char) :
    listWords isSpace (lowerFrom [] l) = (listWords isSpace l).map (lowerFrom []) := by
  -- one lower-cased piece is one word, or none when it is empty
  have hpiece : ∀ w : List Char, (∀ c ∈ w, isSpace c = false) →
      listWords isSpace (lowerFrom [] w) = (listWords isSpace w).map (lowerFrom []) := by
    intro w hw
    cases w with
    | nil => rfl
    | cons c w =>
      rw [listWords_eq_singleton (by simp) hw,
        listWords_eq_singleton (by simp [lowerFrom_eq_nil_iff])
          (isSpace_eq_false_of_mem_lowerFrom hw)]
      rfl
  induction l using words_induction (p := isSpace) with
  | last w hw => exact hpiece w hw
  | step w c l hw hc ih =>
    rw [lowerFrom_append_space hc, listWords_append_cons _ _ hc, listWords_append_cons _ _ hc,
      hpiece w hw, ih, List.map_append]

end Lower

namespace Text

variable [UnicodeDatabase]

/-- `text.lower()`. -/
def lower (text : String) : String :=
  String.ofList (lowerFrom [] text.toList)

/-- `text.upper()`. -/
def upper (text : String) : String :=
  String.ofList (text.toList.flatMap upperMap)

/-- `text.isprintable()`. -/
def isprintable (text : String) : Bool :=
  text.toList.all printable

/-- The characters of a lowered text. -/
@[simp] lemma toList_lower (text : String) : (lower text).toList = lowerFrom [] text.toList := by
  simp [lower]

/-- The characters of a text in capitals. -/
@[simp] lemma toList_upper (text : String) :
    (upper text).toList = text.toList.flatMap upperMap := by
  simp [upper]

/-- A lowered text has nothing to lower. -/
@[simp] lemma lower_lower (text : String) : lower (lower text) = lower text := by
  simp [lower, lowerFrom_lowerFrom]

/-- An ASCII text without capitals is not changed by lower-casing. -/
lemma lower_eq_self {text : String}
    (h : ∀ c ∈ text.toList, c.toNat < 128 ∧ c.toLower = c ∧ c ≠ 'Σ') : lower text = text := by
  rw [lower, lowerFrom_eq_self fun c hc => ⟨(h c hc).2.2, ?_⟩, String.ofList_toList]
  rw [lowerMap_ascii _ (h c hc).1, (h c hc).2.1]

/-- A text of characters that are their own capitals is not changed by upper-casing. -/
lemma upper_eq_self_of_upperMap {text : String} (h : ∀ c ∈ text.toList, upperMap c = [c]) :
    upper text = text := by
  apply String.toList_inj.mp
  rw [toList_upper]
  have hmap : ∀ l : List Char, (∀ c ∈ l, upperMap c = [c]) → l.flatMap upperMap = l := by
    intro l hl
    induction l with
    | nil => rfl
    | cons c l ih =>
      rw [List.flatMap_cons, hl c (by simp), ih fun d hd => hl d (by simp [hd])]
      rfl
  exact hmap _ h

/-- An ASCII text without small letters is not changed by upper-casing. -/
lemma upper_eq_self {text : String}
    (h : ∀ c ∈ text.toList, c.toNat < 128 ∧ c.toUpper = c) : upper text = text := by
  refine upper_eq_self_of_upperMap fun c hc => ?_
  rw [upperMap_ascii c (h c hc).1, (h c hc).2]

/-- The words of a lower-cased text. -/
lemma split_lower (text : String) : split (lower text) = (split text).map lower := by
  simp [split, lower, listWords_lowerFrom, Function.comp_def]

/-- The lower-case form of a word is a word. -/
lemma isWord_lower {w : String} (hw : IsWord w) : IsWord (lower w) := by
  rw [IsWord, toList_lower]
  exact ⟨by simpa [lowerFrom_eq_nil_iff] using hw.1, isSpace_eq_false_of_mem_lowerFrom hw.2⟩

/-- Lower-casing joined words is joining the lower-cased words. -/
lemma lower_join (ws : List String) : lower (join ws) = join (ws.map lower) := by
  apply String.toList_inj.mp
  simp only [join, toList_lower, String.toList_intercalate,
    show " ".toList = [' '] from rfl]
  induction ws with
  | nil => rfl
  | cons w ws ih =>
    cases ws with
    | nil => simp
    | cons v ws =>
      rw [List.map_cons, List.map_cons, List.intercalate_cons_cons, List.append_assoc,
        List.singleton_append, lowerFrom_append_space (by decide), ← List.map_cons, ih]
      simp [List.intercalate_cons_cons]

/-- A lower-cased text is on one line exactly when the text is. -/
lemma oneLine_lower_iff (text : String) : OneLine (lower text) ↔ OneLine text := by
  rw [OneLine, OneLine, toList_lower]
  induction text.toList using words_induction (p := isSpace) with
  | last w hw =>
    constructor <;> intro _ c hc
    · exact isLineBreak_eq_false (hw c hc)
    · exact isLineBreak_eq_false (isSpace_eq_false_of_mem_lowerFrom hw c hc)
  | step w c l hw hc ih =>
    have hpiece : ∀ d ∈ lowerFrom [] w, isLineBreak d = false := fun d hd =>
      isLineBreak_eq_false (isSpace_eq_false_of_mem_lowerFrom hw d hd)
    have hw' : ∀ d ∈ w, isLineBreak d = false := fun d hd => isLineBreak_eq_false (hw d hd)
    rw [lowerFrom_append_space hc]
    constructor
    · intro h d hd
      rcases List.mem_append.mp hd with hd | hd
      · exact hw' d hd
      · rcases List.mem_cons.mp hd with rfl | hd
        · exact h _ (by simp)
        · exact ih.mp (fun e he => h e (by simp [he])) d hd
    · intro h d hd
      rcases List.mem_append.mp hd with hd | hd
      · exact hpiece d hd
      · rcases List.mem_cons.mp hd with rfl | hd
        · exact h _ (by simp)
        · exact ih.mpr (fun e he => h e (by simp [he])) d hd

/-- A printable text is on one line. -/
lemma oneLine_of_isprintable {text : String} (h : isprintable text = true) : OneLine text := by
  intro c hc
  cases hb : isLineBreak c with
  | false => rfl
  | true =>
    have hp : printable c = true := List.all_eq_true.mp h c hc
    rw [printable_space c hp (isSpace_of_isLineBreak hb)] at hb
    exact absurd hb (by decide)

end Text

/-! ## The tables on ASCII texts -/

/-- A decimal digit of ASCII, by its code point. -/
lemma isDigit_iff {c : Char} : c.isDigit = true ↔ 48 ≤ c.toNat ∧ c.toNat ≤ 57 := by
  simp [Char.isDigit, UInt32.le_iff_toNat_le]

/-- A letter of ASCII, by its code point. -/
lemma isAlpha_iff {c : Char} : c.isAlpha = true ↔
    (65 ≤ c.toNat ∧ c.toNat ≤ 90) ∨ (97 ≤ c.toNat ∧ c.toNat ≤ 122) := by
  simp [Char.isAlpha, Char.isUpper, Char.isLower, UInt32.le_iff_toNat_le]

/-- Lower-casing an ASCII capital moves it up by 32; every other character stays. -/
lemma toNat_toLower (c : Char) :
    c.toLower.toNat = if 65 ≤ c.toNat ∧ c.toNat ≤ 90 then c.toNat + 32 else c.toNat := by
  unfold Char.toLower
  split
  · rename_i h
    have h' : 65 ≤ c.toNat ∧ c.toNat ≤ 90 := by
      simpa [UInt32.le_iff_toNat_le] using h
    rw [if_pos h']
    have hdiff : ('a'.val - 'A'.val).toNat = 32 := by decide
    rw [← Char.toNat_val, UInt32.toNat_add, hdiff, Char.toNat_val]
    omega
  · rename_i h
    rw [if_neg]
    simpa [UInt32.le_iff_toNat_le] using h

/-- White space is no ASCII letter and no digit, so lower-casing does not change it. -/
lemma isSpace_toLower (c : Char) : isSpace c.toLower = isSpace c := by
  unfold isSpace
  rw [toNat_toLower]
  split
  · rename_i h
    rw [Bool.eq_iff_iff]
    simp only [Bool.or_eq_true, Bool.and_eq_true, decide_eq_true_eq, beq_iff_eq]
    omega
  · rfl

/-- No digit is white space. -/
lemma isSpace_eq_false_of_isDigit {c : Char} (h : c.isDigit = true) : isSpace c = false := by
  rw [isDigit_iff] at h
  rw [Bool.eq_false_iff]
  simp only [isSpace, ne_eq, Bool.or_eq_true, Bool.and_eq_true, decide_eq_true_eq, beq_iff_eq]
  omega

/-- The only printable white space of ASCII is the blank. -/
lemma eq_blank_of_isSpace {c : Char} (hlow : 32 ≤ c.toNat) (hhigh : c.toNat < 127)
    (hs : isSpace c = true) : c = ' ' := by
  apply Char.toNat_inj.mp
  simp only [isSpace, Bool.or_eq_true, Bool.and_eq_true, decide_eq_true_eq, beq_iff_eq] at hs
  have h32 : ' '.toNat = 32 := rfl
  omega

/-! The lower-case mapping of the ASCII characters and of the capital sigma. -/

/-- Below 128 there is no capital sigma. -/
lemma asciiLower_of_lt (c : Char) (h : c.toNat < 128) :
    (if c = 'Σ' then ['σ'] else [c.toLower]) = [c.toLower] := by
  rw [if_neg]
  rintro rfl
  exact absurd h (by decide)

/-- A lowered character is not empty. -/
lemma asciiLower_ne_nil (c : Char) : (if c = 'Σ' then ['σ'] else [c.toLower]) ≠ [] := by
  split <;> simp

/-- Whitespace is not lowered. -/
lemma asciiLower_of_isSpace (c : Char) (h : isSpace c = true) :
    (if c = 'Σ' then ['σ'] else [c.toLower]) = [c] := by
  simp only [isSpace, Bool.or_eq_true, Bool.and_eq_true, decide_eq_true_eq, beq_iff_eq] at h
  rw [if_neg (by rintro rfl; revert h; decide), List.singleton_inj]
  apply Char.toNat_inj.mp
  rw [toNat_toLower, if_neg (by omega)]

/-- Lowering gives no whitespace. -/
lemma isSpace_eq_false_of_mem_asciiLower (c : Char) (h : isSpace c = false) :
    ∀ d ∈ if c = 'Σ' then ['σ'] else [c.toLower], isSpace d = false := by
  intro d hd
  split at hd
  · rw [List.mem_singleton.mp hd]
    decide
  · rw [List.mem_singleton.mp hd, isSpace_toLower, h]

/-- A lowered character has nothing to lower. -/
lemma asciiLower_of_mem_asciiLower (c : Char) :
    ∀ d ∈ if c = 'Σ' then ['σ'] else [c.toLower],
      d ≠ 'Σ' ∧ (if d = 'Σ' then ['σ'] else [d.toLower]) = [d] := by
  intro d hd
  split at hd
  · rw [List.mem_singleton.mp hd]
    decide
  · rename_i hc
    rw [List.mem_singleton.mp hd]
    have hne : c.toLower ≠ 'Σ' := by
      intro h
      have h931 : c.toLower.toNat = 931 := by rw [h]; rfl
      rw [toNat_toLower] at h931
      split at h931
      · omega
      · exact hc (Char.toNat_inj.mp h931)
    refine ⟨hne, ?_⟩
    rw [if_neg hne, List.singleton_inj]
    apply Char.toNat_inj.mp
    rw [toNat_toLower, if_neg]
    rw [toNat_toLower]
    split <;> omega

/-- Neither small sigma is lowered. -/
lemma asciiLower_sigma : (if 'σ' = 'Σ' then ['σ'] else ['σ'.toLower]) = ['σ'] ∧
    (if 'ς' = 'Σ' then ['σ'] else ['ς'.toLower]) = ['ς'] := by
  decide

/-- White space is neither an ASCII letter nor case-ignorable. -/
lemma not_cased_of_isSpace (c : Char) (h : isSpace c = true) : c.isAlpha = false ∧
    (c == '\'' || c == '.' || c == ':' || c == '^' || c.toNat == 96) = false := by
  simp only [isSpace, Bool.or_eq_true, Bool.and_eq_true, decide_eq_true_eq, beq_iff_eq] at h
  rw [Bool.eq_false_iff, Bool.eq_false_iff, ne_eq, ne_eq, isAlpha_iff]
  simp only [Bool.or_eq_true, beq_iff_eq, ← Char.toNat_inj, Char.reduceToNat]
  omega

/-- A digit is no whitespace. -/
lemma isSpace_eq_false_of_decimal (c : Char)
    (h : (if c.isDigit then some (c.toNat - 48) else none) ≠ none) : isSpace c = false :=
  isSpace_eq_false_of_isDigit (by simpa using h)

/-- The only printable whitespace is the blank. -/
lemma eq_blank_of_printable (c : Char)
    (hp : (decide (32 ≤ c.toNat) && decide (c.toNat < 127)) = true) (hs : isSpace c = true) :
    c = ' ' := by
  rw [Bool.and_eq_true, decide_eq_true_eq, decide_eq_true_eq] at hp
  exact eq_blank_of_isSpace hp.1 hp.2 hs

/-- A digit has no capital. -/
lemma asciiUpper_of_decimal (c : Char)
    (h : (if c.isDigit then some (c.toNat - 48) else none) ≠ none) : [c.toUpper] = [c] := by
  have hdigit : c.isDigit = true := by simpa using h
  rw [isDigit_iff] at hdigit
  rw [List.singleton_inj, Char.toUpper, dif_neg]
  have ha : 'a'.toNat = 97 := rfl
  simp only [UInt32.le_iff_toNat_le, Char.toNat_val]
  omega

/-- The tables of the ASCII characters and of the capital sigma; every other character is
left without properties.  On ASCII texts they are those of any Unicode version. -/
@[reducible] def asciiDatabase : UnicodeDatabase where
  decimal c := if c.isDigit then some (c.toNat - 48) else none
  printable c := decide (32 ≤ c.toNat) && decide (c.toNat < 127)
  lowerMap c := if c = 'Σ' then ['σ'] else [c.toLower]
  upperMap c := [c.toUpper]
  cased c := c.isAlpha
  caseIgnorable c := c == '\'' || c == '.' || c == ':' || c == '^' || c.toNat == 96
  decimal_ascii _ _ := rfl
  decimal_not_space := isSpace_eq_false_of_decimal
  printable_space := eq_blank_of_printable
  printable_ascii _ _ := rfl
  lowerMap_ascii := asciiLower_of_lt
  upperMap_ascii _ _ := rfl
  upperMap_decimal := asciiUpper_of_decimal
  lowerMap_ne_nil := asciiLower_ne_nil
  lowerMap_space := asciiLower_of_isSpace
  lowerMap_not_space := isSpace_eq_false_of_mem_asciiLower
  lowerMap_lowerMap := asciiLower_of_mem_asciiLower
  lowerMap_sigma := asciiLower_sigma
  space_not_cased := not_cased_of_isSpace

/-- The table behind `str.casefold`. -/
class CaseFolding where
  /-- The full case folding of a character. -/
  foldMap : Char → List Char
  foldMap_ascii : ∀ c : Char, c.toNat < 128 → foldMap c = [c.toLower]

/-- `str.casefold`. -/
def casefold [CaseFolding] (text : String) : String :=
  String.ofList (text.toList.flatMap CaseFolding.foldMap)

/-- The case folding of the ASCII characters. -/
@[reducible] def asciiFolding : CaseFolding where
  foldMap c := [c.toLower]
  foldMap_ascii _ _ := rfl

end Terraformer
