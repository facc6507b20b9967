import Terraformer.Text.Words

/-!
# Texts

The string operations of the source on Lean's `String`: white space, `str.strip`,
`str.split` without an argument, and the joining of pieces by one blank.  They are the
list operations of `Text.Words` on the characters of the text.
-/

namespace Terraformer

/-- `str.isspace` of one character: the Unicode white space Python strips and splits at. -/
def isSpace (c : Char) : Bool :=
  let n := c.toNat
  (9 ≤ n && n ≤ 13) || (28 ≤ n && n ≤ 32) || n == 0x85 || n == 0xA0 || n == 0x1680 ||
    (0x2000 ≤ n && n ≤ 0x200A) || n == 0x2028 || n == 0x2029 || n == 0x202F ||
    n == 0x205F || n == 0x3000

/-- A line boundary of `str.splitlines`. -/
def isLineBreak (c : Char) : Bool :=
  let n := c.toNat
  (10 ≤ n && n ≤ 13) || (28 ≤ n && n ≤ 30) || n == 0x85 || n == 0x2028 || n == 0x2029

/-- Every line boundary is white space. -/
lemma isSpace_of_isLineBreak {c : Char} (h : isLineBreak c = true) : isSpace c = true := by
  simp only [isLineBreak, isSpace, Bool.or_eq_true, Bool.and_eq_true, decide_eq_true_eq,
    beq_iff_eq] at h ⊢
  omega

/-- A character that is no white space is no line boundary. -/
lemma isLineBreak_eq_false {c : Char} (h : isSpace c = false) : isLineBreak c = false := by
  cases hc : isLineBreak c with
  | false => rfl
  | true => rw [isSpace_of_isLineBreak hc] at h; exact h

namespace Text

/-- `text.strip()`. -/
def strip (text : String) : String :=
  String.ofList (listStrip isSpace text.toList)

/-- `text.rstrip()`. -/
def rstrip (text : String) : String :=
  String.ofList (listRstrip isSpace text.toList)

/-- `text.split()`. -/
def split (text : String) : List String :=
  (listWords isSpace text.toList).map String.ofList

/-- `" ".join(pieces)`. -/
def join (pieces : List String) : String :=
  String.intercalate " " pieces

/-- `text.startswith(head)`. -/
def startswith (text head : String) : Bool :=
  head.toList.isPrefixOf text.toList

/-- What holds of every character of a text is decided by going through the text. -/
instance (priority := 2000) decidableForallChars (text : String) (p : Char → Prop) [DecidablePred p] :
    Decidable (∀ c ∈ text.toList, p c) :=
  List.decidableBAll _ _

/-- A text without white space that is not empty. -/
def IsWord (w : String) : Prop :=
  w.toList ≠ [] ∧ ∀ c ∈ w.toList, isSpace c = false

/-- Whether a text is a word can be decided. -/
instance (w : String) : Decidable (IsWord w) :=
  inferInstanceAs (Decidable (_ ∧ _))

/-- A text on one line: no character of it is a line boundary. -/
def OneLine (text : String) : Prop :=
  ∀ c ∈ text.toList, isLineBreak c = false

/-- Whether a text is one line can be decided. -/
instance (text : String) : Decidable (OneLine text) :=
  inferInstanceAs (Decidable (∀ c ∈ text.toList, _))

/-- Two texts side by side are on one line when both are. -/
@[simp] lemma oneLine_append {a b : String} : OneLine (a ++ b) ↔ OneLine a ∧ OneLine b := by
  simp [OneLine, or_imp, forall_and]

/-- A word is on one line. -/
lemma IsWord.oneLine {w : String} (hw : IsWord w) : OneLine w :=
  fun c hc => isLineBreak_eq_false (hw.2 c hc)

/-- A text starts with what it was put behind. -/
@[simp] lemma startswith_append (head text : String) : startswith (head ++ text) head = true := by
  rw [startswith, List.isPrefixOf_iff_prefix, String.toList_append]
  exact List.prefix_append _ _

/-- Putting the same text in front of both does not change how a text starts. -/
lemma startswith_append_append (front text head : String) :
    startswith (front ++ text) (front ++ head) = startswith text head := by
  rw [Bool.eq_iff_iff, startswith, startswith, List.isPrefixOf_iff_prefix,
    List.isPrefixOf_iff_prefix, String.toList_append, String.toList_append,
    List.prefix_append_right_inj]

/-- A text that starts with a long head starts with every shorter one. -/
lemma startswith_trans {text head short : String} (h : startswith text head = true)
    (hs : startswith head short = true) : startswith text short = true := by
  rw [startswith, List.isPrefixOf_iff_prefix] at *
  exact hs.trans h

/-- A text starts with itself. -/
@[simp] lemma startswith_self (text : String) : startswith text text = true := by
  exact List.isPrefixOf_iff_prefix.mpr List.prefix_rfl

/-- The characters of a stripped text. -/
@[simp] lemma toList_strip (text : String) :
    (strip text).toList = listStrip isSpace text.toList := by
  simp [strip]

/-- The characters of the words of a text. -/
@[simp] lemma map_toList_split (text : String) :
    (split text).map String.toList = listWords isSpace text.toList := by
  simp [split, Function.comp_def]

/-- Every piece of `text.split()` is a word. -/
lemma isWord_of_mem_split {text w : String} (hw : w ∈ split text) : IsWord w := by
  obtain ⟨v, hv, rfl⟩ := List.mem_map.mp hw
  rw [IsWord, String.toList_ofList]
  exact ⟨ne_nil_of_mem_listWords hv, fun c hc => (mem_of_mem_listWords hv hc).1⟩

/-- Stripping changes no word. -/
@[simp] lemma split_strip (text : String) : split (strip text) = split text := by
  simp [split]

/-- A stripped text has nothing to strip. -/
@[simp] lemma strip_strip (text : String) : strip (strip text) = strip text := by
  simp [strip]

/-- A word is its only word. -/
lemma split_eq_singleton {w : String} (hw : IsWord w) : split w = [w] := by
  rw [split, listWords_eq_singleton hw.1 hw.2]
  simp

/-- A word is not changed by stripping. -/
lemma strip_eq_self {w : String} (hw : IsWord w) : strip w = w := by
  rw [strip, listStrip_eq_self, String.ofList_toList]
  · intro c hc
    exact hw.2 c (List.mem_of_mem_head? hc)
  · intro c hc
    exact hw.2 c (List.mem_of_getLast? hc)

/-- What stands behind a word is stripped at its end only. -/
lemma strip_append_of_isWord {w : String} (hw : IsWord w) (rest : String) :
    strip (w ++ rest) = w ++ rstrip rest := by
  obtain ⟨c, cs, hcs⟩ := List.exists_cons_of_ne_nil hw.1
  have hc : isSpace c = false := hw.2 c (by rw [hcs]; simp)
  have hlast : ∀ d ∈ w.toList.getLast?, isSpace d = false := fun d hd =>
    hw.2 d (List.mem_of_getLast? hd)
  have hdrop : (w.toList ++ rest.toList).dropWhile isSpace = w.toList ++ rest.toList := by
    rw [hcs, List.cons_append, List.dropWhile_cons_of_neg (by simp [hc])]
  apply String.toList_inj.mp
  rw [toList_strip, String.toList_append, String.toList_append, listStrip, hdrop, rstrip,
    String.toList_ofList]
  exact listRstrip_append_of_getLast hlast _

/-- The first character of a text is kept when only its end is stripped. -/
lemma mem_head_of_rstrip {text : String} {c : Char} (h : c ∈ (rstrip text).toList.head?) :
    c ∈ text.toList.head? := by
  obtain ⟨more, hmore⟩ := List.rdropWhile_prefix isSpace text.toList
  rw [rstrip, String.toList_ofList, listRstrip] at h
  rw [← hmore, Option.mem_def, List.head?_append, Option.mem_def.mp h]
  rfl

/-- The words of a text that ends in a blank, followed by any text. -/
lemma split_append {a : String} (ha : a.toList.getLast? = some ' ') (b : String) :
    split (a ++ b) = split a ++ split b := by
  obtain ⟨l, hl⟩ : ∃ l, a.toList = l ++ [' '] :=
    ⟨_, (List.dropLast_append_getLast? _ ha).symm⟩
  have hsep : isSpace ' ' = true := by decide
  have hlast : listWords isSpace (l ++ [' ']) = listWords isSpace l := by
    rw [listWords_append_cons _ _ hsep]
    simp
  simp only [split, String.toList_append, hl, hlast, List.append_assoc, List.singleton_append]
  rw [listWords_append_cons _ _ hsep, List.map_append]

/-- The words of two texts with a blank between them. -/
lemma split_append_blank (a b : String) : split (a ++ " " ++ b) = split a ++ split b := by
  have hsep : isSpace ' ' = true := by decide
  simp only [split, String.toList_append, List.append_assoc]
  rw [show " ".toList = [' '] from rfl, List.singleton_append,
    listWords_append_cons _ _ hsep, List.map_append]

/-- A newline at the end of a text adds no word. -/
lemma split_append_newline (a : String) : split (a ++ "\n") = split a := by
  have hsep : isSpace '\n' = true := by decide
  simp only [split, String.toList_append]
  rw [show "\n".toList = ['\n'] from rfl, listWords_append_cons _ _ hsep, listWords_nil,
    List.append_nil]

/-- Joined words are split into the same words again. -/
lemma split_join {ws : List String} (h : ∀ w ∈ ws, IsWord w) : split (join ws) = ws := by
  rw [split, join, String.toList_intercalate, show " ".toList = [' '] from rfl,
    listWords_intercalate (by decide)]
  · simp [Function.comp_def]
  · intro w hw
    obtain ⟨v, hv, rfl⟩ := List.mem_map.mp hw
    exact h v hv

/-- Joining the words of a text and splitting again gives the words of the text. -/
@[simp] lemma split_join_split (text : String) : split (join (split text)) = split text :=
  split_join fun _ hw => isWord_of_mem_split hw

/-- Joining two or more words puts the first one and a blank in front. -/
lemma join_cons_cons (v w : String) (ws : List String) :
    join (v :: w :: ws) = v ++ " " ++ join (w :: ws) := by
  apply String.toList_inj.mp
  simp [join, String.toList_intercalate]

/-- A single word is joined to itself. -/
@[simp] lemma join_singleton (w : String) : join [w] = w := by
  simp [join]

/-- Joined words start with the first ones joined. -/
lemma startswith_join {vs : List String} (hvs : vs ≠ []) (ws : List String) :
    startswith (join (vs ++ ws)) (join vs) = true := by
  induction vs with
  | nil => exact absurd rfl hvs
  | cons v vs ih =>
    cases vs with
    | nil =>
      cases ws with
      | nil => exact startswith_self _
      | cons w ws =>
        rw [List.singleton_append, join_cons_cons, join_singleton, String.append_assoc]
        exact startswith_append _ _
    | cons u us =>
      rw [List.cons_append, List.cons_append, join_cons_cons, join_cons_cons,
        startswith_append_append]
      exact ih (by simp)

/-- Joined words begin and end with a character of a word. -/
@[simp] lemma strip_join {ws : List String} (h : ∀ w ∈ ws, IsWord w) :
    strip (join ws) = join ws := by
  have hends : (∀ c ∈ (join ws).toList.head?, isSpace c = false) ∧
      ∀ c ∈ (join ws).toList.getLast?, isSpace c = false := by
    induction ws with
    | nil => simp [join]
    | cons w ws ih =>
      obtain ⟨hne, hw⟩ := h w (by simp)
      obtain ⟨-, ih⟩ := ih fun v hv => h v (by simp [hv])
      cases ws with
      | nil =>
        rw [join_singleton]
        exact ⟨fun c hc => hw c (List.mem_of_mem_head? hc),
          fun c hc => hw c (List.mem_of_getLast? hc)⟩
      | cons v ws =>
        have hvne : (join (v :: ws)).toList ≠ [] := by
          intro hnil
          have hsplit := split_join fun u hu => h u (List.mem_cons_of_mem _ hu)
          rw [show join (v :: ws) = "" from String.toList_inj.mp (by simpa using hnil)] at hsplit
          cases hsplit
        rw [join_cons_cons, String.toList_append, String.toList_append]
        refine ⟨fun c hc => ?_, fun c hc => ?_⟩
        · rw [List.append_assoc, List.head?_append_of_ne_nil _ hne] at hc
          exact hw c (List.mem_of_mem_head? hc)
        · rw [List.getLast?_append_of_ne_nil _ hvne] at hc
          exact ih c hc
  rw [strip, listStrip_eq_self hends.1 hends.2, String.ofList_toList]

/-- The part of a text before its first separator is made of its characters. -/
lemma oneLine_takeWhile {text : String} (h : OneLine text) (p : Char → Bool) :
    OneLine (String.ofList (text.toList.takeWhile p)) := by
  intro c hc
  rw [String.toList_ofList] at hc
  exact h c ((List.takeWhile_prefix p).subset hc)

/-- Joined words are on one line. -/
lemma oneLine_join {ws : List String} (h : ∀ w ∈ ws, OneLine w) : OneLine (join ws) := by
  rw [OneLine, join, String.toList_intercalate, show " ".toList = [' '] from rfl]
  intro c hc
  rcases mem_of_mem_intercalate hc with rfl | ⟨l, hl, hc⟩
  · decide
  · obtain ⟨w, hw, rfl⟩ := List.mem_map.mp hl
    exact h w hw c hc

/-- A text with one word is that word between white space. -/
lemma strip_of_split_eq_singleton {text w : String} (h : split text = [w]) : strip text = w := by
  have hlist : listWords isSpace text.toList = [w.toList] := by
    rw [← map_toList_split, h]
    rfl
  rw [strip, listStrip_eq_of_listWords_eq_singleton hlist, String.ofList_toList]

end Text

end Terraformer
