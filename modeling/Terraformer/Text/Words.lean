import Mathlib

/-!
# Words of a text

White space, stripping and splitting as `str.isspace`, `str.strip`, `str.split` and
`" ".join` do them.  A text is cut by `List.splitOnP`; its *words* are the non-empty
pieces.  The lemmas say how words behave under concatenation at a white space, under
stripping and under joining, which is all that the reading of a command line needs.
-/

namespace Terraformer

/-! ## Words of a list -/

section ListWords

variable {α : Type*} (p : α → Bool)

/-- The maximal non-empty pieces of a list without separators. -/
def listWords (l : List α) : List (List α) :=
  (l.splitOnP p).filter fun w => !w.isEmpty

/-- The list without the separators at its two ends. -/
def listStrip (l : List α) : List α :=
  (l.dropWhile p).rdropWhile p

/-- The list without the separators at its end. -/
def listRstrip (l : List α) : List α :=
  l.rdropWhile p

variable {p}

/-- No piece of a split holds a separator, and every element of a piece is one of the list. -/
lemma mem_of_mem_splitOnP {l w : List α} (hw : w ∈ l.splitOnP p) {c : α} (hc : c ∈ w) :
    p c = false ∧ c ∈ l := by
  induction l generalizing w with
  | nil =>
    rw [List.splitOnP_nil, List.mem_singleton] at hw
    subst hw
    simp at hc
  | cons a l ih =>
    rw [List.splitOnP_cons_eq_if_modifyHead] at hw
    split at hw
    · rcases List.mem_cons.mp hw with rfl | hw
      · simp at hc
      · exact ⟨(ih hw hc).1, List.mem_cons_of_mem _ (ih hw hc).2⟩
    · rename_i ha
      obtain ⟨v, vs, hv⟩ := List.exists_cons_of_ne_nil (List.splitOnP_ne_nil p l)
      rw [hv, List.modifyHead_cons] at hw
      rcases List.mem_cons.mp hw with rfl | hw
      · rcases List.mem_cons.mp hc with rfl | hc
        · exact ⟨by simpa using ha, by simp⟩
        · have h := ih (w := v) (by simp [hv]) hc
          exact ⟨h.1, List.mem_cons_of_mem _ h.2⟩
      · have h := ih (w := w) (by simp [hv, hw]) hc
        exact ⟨h.1, List.mem_cons_of_mem _ h.2⟩

/-- A word is non-empty. -/
lemma ne_nil_of_mem_listWords {l w : List α} (hw : w ∈ listWords p l) : w ≠ [] := by
  simpa [listWords] using (List.mem_filter.mp hw).2

/-- A word holds no separator, and only elements of the list it is cut from. -/
lemma mem_of_mem_listWords {l w : List α} (hw : w ∈ listWords p l) {c : α} (hc : c ∈ w) :
    p c = false ∧ c ∈ l :=
  mem_of_mem_splitOnP (List.mem_filter.mp hw).1 hc

/-- There are no words in the empty text. -/
@[simp] lemma listWords_nil : listWords p [] = [] := rfl

/-- The words before and after a separator are those of the two sides. -/
lemma listWords_append_cons (a b : List α) {c : α} (hc : p c = true) :
    listWords p (a ++ c :: b) = listWords p a ++ listWords p b := by
  unfold listWords
  rw [List.splitOnP_append_cons a b hc, List.filter_append]

/-- A leading separator adds no word. -/
lemma listWords_cons (l : List α) {c : α} (hc : p c = true) :
    listWords p (c :: l) = listWords p l :=
  listWords_append_cons [] l hc

/-- A non-empty list without separators is its only word. -/
lemma listWords_eq_singleton {w : List α} (hw : w ≠ []) (h : ∀ c ∈ w, p c = false) :
    listWords p w = [w] := by
  unfold listWords
  rw [List.splitOnP_eq_singleton h]
  simp [hw]

/-- Induction along the words of a list: a last piece without separators, or a piece
without separators, a separator and a rest. -/
lemma words_induction {motive : List α → Prop}
    (last : ∀ w, (∀ c ∈ w, p c = false) → motive w)
    (step : ∀ w c l, (∀ d ∈ w, p d = false) → p c = true → motive l → motive (w ++ c :: l))
    (l : List α) : motive l := by
  suffices h : ∀ w : List α, (∀ c ∈ w, p c = false) → motive (w ++ l) from h [] (by simp)
  induction l with
  | nil => intro w hw; simpa using last w hw
  | cons a l ih =>
    intro w hw
    cases ha : p a with
    | true => exact step w a l hw ha (ih [] (by simp))
    | false =>
      have h := ih (w ++ [a]) (by
        intro c hc
        rcases List.mem_append.mp hc with hc | hc
        · exact hw c hc
        · rw [List.mem_singleton.mp hc, ha])
      simpa using h

/-- A list has no words exactly when it holds separators only. -/
lemma listWords_eq_nil_iff {l : List α} : listWords p l = [] ↔ ∀ c ∈ l, p c = true := by
  induction l using words_induction (p := p) with
  | last w hw =>
    cases w with
    | nil => simp
    | cons a w =>
      rw [listWords_eq_singleton (by simp) hw]
      simp [hw a (by simp)]
  | step w c l hw hc ih =>
    rw [listWords_append_cons _ _ hc, List.append_eq_nil_iff, ih]
    cases w with
    | nil => simp [hc]
    | cons a w =>
      rw [listWords_eq_singleton (by simp) hw]
      simp [hw a (by simp)]

/-- Separators in front add no word. -/
lemma listWords_append_of_all_left {a : List α} (ha : ∀ c ∈ a, p c = true) (l : List α) :
    listWords p (a ++ l) = listWords p l := by
  induction a with
  | nil => rfl
  | cons c a ih =>
    rw [List.cons_append, listWords_cons _ (ha c (by simp))]
    exact ih fun d hd => ha d (by simp [hd])

/-- Separators at the end add no word. -/
lemma listWords_append_of_all_right {a : List α} (ha : ∀ c ∈ a, p c = true) (l : List α) :
    listWords p (l ++ a) = listWords p l := by
  cases a with
  | nil => simp
  | cons c a =>
    have htail : listWords p a = [] :=
      listWords_eq_nil_iff.mpr fun d hd => ha d (List.mem_cons_of_mem _ hd)
    rw [listWords_append_cons _ _ (ha c (by simp)), htail, List.append_nil]

/-- A list is its stripped core between two runs of separators. -/
lemma exists_append_listStrip (p : α → Bool) (l : List α) :
    ∃ a b, (∀ c ∈ a, p c = true) ∧ (∀ c ∈ b, p c = true) ∧ l = a ++ listStrip p l ++ b := by
  refine ⟨l.takeWhile p, (l.dropWhile p).rtakeWhile p, ?_, ?_, ?_⟩
  · intro c hc
    exact List.mem_takeWhile_imp hc
  · intro c hc
    have h : c ∈ ((l.dropWhile p).reverse.takeWhile p) := by
      simpa [List.rtakeWhile] using hc
    exact List.mem_takeWhile_imp h
  · rw [listStrip, List.append_assoc, List.rdropWhile_append_rtakeWhile,
      List.takeWhile_append_dropWhile]

/-- Stripping changes no word. -/
@[simp] lemma listWords_listStrip (l : List α) : listWords p (listStrip p l) = listWords p l := by
  obtain ⟨a, b, ha, hb, h⟩ := exists_append_listStrip p l
  conv_rhs => rw [h]
  rw [listWords_append_of_all_right hb, listWords_append_of_all_left ha]

/-- A list whose two ends are no separators is not changed by stripping. -/
lemma listStrip_eq_self {l : List α} (hd : ∀ c ∈ l.head?, p c = false)
    (hl : ∀ c ∈ l.getLast?, p c = false) : listStrip p l = l := by
  cases l with
  | nil => rfl
  | cons a l =>
    have ha : p a = false := hd a (by simp)
    rw [listStrip, List.dropWhile_cons_of_neg (by simp [ha]), List.rdropWhile_eq_self_iff]
    intro hne
    have := hl _ (List.getLast?_eq_some_getLast hne)
    simp [this]

/-- A stripped list is empty or starts with an element that is no separator. -/
lemma head?_listStrip {l : List α} {c : α} (hc : c ∈ (listStrip p l).head?) : p c = false := by
  have hpre : listStrip p l <+: l.dropWhile p := List.rdropWhile_prefix p _
  obtain ⟨t, ht⟩ := hpre
  cases hs : listStrip p l with
  | nil => simp [hs] at hc
  | cons a s =>
    rw [hs, List.head?_cons, Option.mem_some_iff] at hc
    subst hc
    rw [hs, List.cons_append] at ht
    have := List.head?_dropWhile_not p l
    simpa [← ht] using this

/-- A stripped list is empty or ends with an element that is no separator. -/
lemma getLast?_listStrip {l : List α} {c : α} (hc : c ∈ (listStrip p l).getLast?) :
    p c = false := by
  have hne : listStrip p l ≠ [] := by
    rintro h
    simp [h] at hc
  rw [List.getLast?_eq_some_getLast hne, Option.mem_some_iff] at hc
  subst hc
  exact Bool.eq_false_iff.mpr (List.rdropWhile_last_not p (l.dropWhile p) hne)

/-- Stripping twice is stripping once. -/
@[simp] lemma listStrip_listStrip (l : List α) :
    listStrip p (listStrip p l) = listStrip p l :=
  listStrip_eq_self (fun _ => head?_listStrip) fun _ => getLast?_listStrip

/-- Stripping leaves nothing exactly when there was nothing but separators. -/
lemma listStrip_eq_nil_iff {l : List α} : listStrip p l = [] ↔ ∀ c ∈ l, p c = true := by
  rw [← listWords_eq_nil_iff (p := p), ← listWords_listStrip]
  constructor
  · intro h
    rw [h, listWords_nil]
  · intro h
    cases hs : listStrip p l with
    | nil => rfl
    | cons a s =>
      rw [listWords_eq_nil_iff, hs] at h
      have ha : p a = false := head?_listStrip (l := l) (by simp [hs])
      simp [h a (by simp)] at ha

/-- The elements of a stripped list are elements of the list. -/
lemma mem_of_mem_listStrip {l : List α} {c : α} (hc : c ∈ listStrip p l) : c ∈ l := by
  obtain ⟨a, b, -, -, h⟩ := exists_append_listStrip p l
  rw [h]
  simp [hc]

/-- Only the back of an append is stripped, unless nothing of it is left. -/
lemma listRstrip_append (a b : List α) :
    listRstrip p (a ++ b) = if listRstrip p b = [] then listRstrip p a else a ++ listRstrip p b := by
  unfold listRstrip List.rdropWhile
  rw [List.reverse_append, List.dropWhile_append]
  split
  · next h => rw [if_pos (by simpa using h)]
  · next h => rw [if_neg (by simpa using h), List.reverse_append, List.reverse_reverse]

/-- What ends in no separator is kept in front of any list. -/
lemma listRstrip_append_of_getLast {a : List α} (ha : ∀ c ∈ a.getLast?, p c = false)
    (l : List α) : listRstrip p (a ++ l) = a ++ listRstrip p l := by
  have hself : listRstrip p a = a := by
    rw [listRstrip, List.rdropWhile_eq_self_iff]
    intro h
    rw [ha _ (List.getLast?_eq_some_getLast h)]
    exact Bool.false_ne_true
  rw [listRstrip_append, hself]
  split
  · next h => rw [h, List.append_nil]
  · rfl

/-- Without the separators at its end a list is some separators and the stripped list. -/
lemma exists_listRstrip (p : α → Bool) (l : List α) :
    ∃ gap, (∀ c ∈ gap, p c = true) ∧ listRstrip p l = gap ++ listStrip p l ∧ gap <+: l := by
  have hgap : ∀ c ∈ l.takeWhile p, p c = true := fun c hc => List.mem_takeWhile_imp hc
  have hback : listRstrip p (l.dropWhile p) = listStrip p l := rfl
  have hsplit : listRstrip p l = listRstrip p (l.takeWhile p ++ l.dropWhile p) := by
    rw [List.takeWhile_append_dropWhile]
  rw [hsplit, listRstrip_append, hback]
  split
  · next h =>
    refine ⟨[], by simp, ?_, List.nil_prefix⟩
    rw [h, listRstrip, List.rdropWhile_eq_nil_iff.mpr hgap]
    rfl
  · exact ⟨l.takeWhile p, hgap, rfl, List.takeWhile_prefix p⟩

/-- A list with one word is that word between separators. -/
lemma listStrip_eq_of_listWords_eq_singleton {l w : List α} (h : listWords p l = [w]) :
    listStrip p l = w := by
  rw [← listWords_listStrip] at h
  have hhead : ∀ c ∈ (listStrip p l).head?, p c = false := fun _ => head?_listStrip
  have hlast : ∀ c ∈ (listStrip p l).getLast?, p c = false := fun _ => getLast?_listStrip
  generalize listStrip p l = s at h hhead hlast
  induction s using words_induction (p := p) with
  | last v hv =>
    cases v with
    | nil => simp at h
    | cons a v =>
      rw [listWords_eq_singleton (by simp) hv] at h
      exact List.singleton_inj.mp h
  | step v c s hv hc _ =>
    -- both sides of an inner separator would hold a word
    exfalso
    cases v with
    | nil => simpa [hc] using hhead c (by simp)
    | cons a v =>
      rw [listWords_append_cons _ _ hc, listWords_eq_singleton (by simp) hv] at h
      have hs : ∀ d ∈ s, p d = true :=
        listWords_eq_nil_iff.mp (List.cons_eq_cons.mp h).2
      have hmem : ∀ d ∈ ((a :: v) ++ c :: s).getLast?, d ∈ c :: s := by
        intro d hd
        rw [List.getLast?_append_of_ne_nil _ (by simp)] at hd
        exact List.mem_of_getLast? hd
      obtain ⟨d, hd⟩ : ∃ d, d ∈ ((a :: v) ++ c :: s).getLast? :=
        ⟨_, List.getLast?_eq_some_getLast (by simp)⟩
      have hpd := hlast d hd
      rcases List.mem_cons.mp (hmem d hd) with rfl | hd
      · simp [hc] at hpd
      · simp [hs d hd] at hpd

omit p in
/-- The elements of joined pieces are the separator and those of the pieces. -/
lemma mem_of_mem_intercalate {x c : α} {ls : List (List α)} (h : c ∈ [x].intercalate ls) :
    c = x ∨ ∃ l ∈ ls, c ∈ l := by
  induction ls with
  | nil => simp at h
  | cons l ls ih =>
    cases ls with
    | nil => exact Or.inr ⟨l, by simp, by simpa using h⟩
    | cons m ls =>
      rw [List.intercalate_cons_cons, List.append_assoc, List.mem_append, List.mem_append] at h
      rcases h with h | h | h
      · exact Or.inr ⟨l, by simp, h⟩
      · exact Or.inl (List.mem_singleton.mp h)
      · rcases ih h with h | ⟨k, hk, hck⟩
        · exact Or.inl h
        · exact Or.inr ⟨k, List.mem_cons_of_mem _ hk, hck⟩

omit p in
/-- The elements of a list are the separator and those of its pieces. -/
lemma mem_splitOn_of_mem [BEq α] [LawfulBEq α] {x c : α} {l : List α} (h : c ∈ l) :
    c = x ∨ ∃ w ∈ l.splitOn x, c ∈ w := by
  have hsplit : [x].intercalate (l.splitOn x) = l := List.intercalate_splitOn x
  rw [← hsplit] at h
  exact mem_of_mem_intercalate h

/-- Words joined by a separator are cut into the same words again. -/
lemma listWords_intercalate {c : α} (hc : p c = true) {ws : List (List α)}
    (hws : ∀ w ∈ ws, w ≠ [] ∧ ∀ d ∈ w, p d = false) :
    listWords p ([c].intercalate ws) = ws := by
  induction ws with
  | nil => rfl
  | cons w ws ih =>
    have hw := hws w (by simp)
    have ih := ih fun v hv => hws v (by simp [hv])
    cases ws with
    | nil => simpa using listWords_eq_singleton hw.1 hw.2
    | cons v ws =>
      rw [List.intercalate_cons_cons, List.append_assoc, List.singleton_append,
        listWords_append_cons _ _ hc, listWords_eq_singleton hw.1 hw.2, ih]
      rfl

end ListWords

end Terraformer
