import Terraformer.Device.Commands

/-!
# VLAN lists

The lists of VLAN ids that a device accepts, and that the driver reads them as the same set
(`expandVlanList_of_readVlanList`): on every list a device reads, the driver's comparison of
allowed lists as sets is a comparison of what the lists allow.
-/

namespace Terraformer

open Text

namespace Device

/-- A VLAN id the device reads is a numeral in range, of at most four digits. -/
lemma numeral_of_readVlanId {word : String} {n : ℕ} (h : readVlanId word = some n) :
    numeral word = some n ∧ word.toList.length ≤ 4 ∧ 1 ≤ n ∧ n ≤ 4094 := by
  unfold readVlanId at h
  split at h
  · rename_i hlen
    obtain ⟨hn, hrange⟩ := Option.filter_eq_some_iff.mp h
    rw [Bool.and_eq_true, decide_eq_true_eq, decide_eq_true_eq] at hrange
    exact ⟨hn, hlen, hrange⟩
  · cases h

/-- A part of a VLAN list is one id or a range between two. -/
lemma readVlanRange_cases {part : String} {ids : Finset ℕ} (h : readVlanRange part = some ids) :
    (∃ word n, splitAt '-' part = [word] ∧ readVlanId word = some n ∧ ids = {n}) ∨
      ∃ low high a b, splitAt '-' part = [low, high] ∧ readVlanId low = some a ∧
        readVlanId high = some b ∧ a ≤ b ∧ ids = Finset.Icc a b := by
  unfold readVlanRange at h
  split at h
  · rename_i word hsplit
    obtain ⟨n, hn, rfl⟩ := Option.map_eq_some_iff.mp h
    exact Or.inl ⟨word, n, hsplit, hn, rfl⟩
  · rename_i low high hsplit
    split at h
    · rename_i a b ha hb
      split at h
      · rename_i hab
        exact Or.inr ⟨low, high, a, b, hsplit, ha, hb, hab, (Option.some.inj h).symm⟩
      · simp at h
    · simp at h
  · simp at h

/-- Every part of a list the device reads is a part it reads. -/
lemma readVlanRange_of_readVlanParts {parts : List String} {ids : Finset ℕ}
    (h : readVlanParts parts = some ids) : ∀ part ∈ parts, ∃ s, readVlanRange part = some s := by
  induction parts generalizing ids with
  | nil => simp
  | cons part parts ih =>
    rw [readVlanParts] at h
    split at h
    · rename_i s t hs ht
      intro q hq
      rcases List.mem_cons.mp hq with rfl | hq
      · exact ⟨s, hs⟩
      · exact ih ht q hq
    · simp at h

/-- The characters of a text are the separator and those of its parts. -/
lemma mem_splitAt (separator : Char) {text : String} {c : Char} (hc : c ∈ text.toList) :
    c = separator ∨ ∃ part ∈ splitAt separator text, c ∈ part.toList := by
  rcases mem_splitOn_of_mem (x := separator) hc with h | ⟨w, hw, hcw⟩
  · exact Or.inl h
  · exact Or.inr ⟨String.ofList w, List.mem_map.mpr ⟨w, hw, rfl⟩, by simpa using hcw⟩

/-- A list the device reads is made of digits, commas and hyphens. -/
lemma mem_of_readVlanList {text : String} {ids : Finset ℕ} (h : readVlanList text = some ids) :
    ∀ c ∈ text.toList, c.isDigit = true ∨ c = ',' ∨ c = '-' := by
  intro c hc
  rcases mem_splitAt ',' hc with hc | ⟨part, hpart, hc⟩
  · exact Or.inr (Or.inl hc)
  · obtain ⟨s, hs⟩ := readVlanRange_of_readVlanParts h part hpart
    rcases mem_splitAt '-' hc with hc | ⟨word, hword, hc⟩
    · exact Or.inr (Or.inr hc)
    · left
      have hread : ∃ n, readVlanId word = some n := by
        rcases readVlanRange_cases hs with ⟨w, n, hw, hn, -⟩ | ⟨low, high, a, b, hlh, ha, hb, -⟩
        · rw [hw, List.mem_singleton] at hword
          exact ⟨n, hword ▸ hn⟩
        · rw [hlh, List.mem_cons, List.mem_singleton] at hword
          rcases hword with rfl | rfl
          · exact ⟨a, ha⟩
          · exact ⟨b, hb⟩
      obtain ⟨n, hn⟩ := hread
      exact (isDigit_of_numeral (numeral_of_readVlanId hn).1).2 c hc

/-- A list the device reads is a word. -/
lemma isWord_of_readVlanList {text : String} {ids : Finset ℕ} (h : readVlanList text = some ids) :
    IsWord text := by
  constructor
  · intro hnil
    have htext : text = "" := String.toList_inj.mp (by simpa using hnil)
    have hnone : readVlanList "" = none := by decide
    rw [htext, hnone] at h
    cases h
  · intro c hc
    rcases mem_of_readVlanList h c hc with h | rfl | rfl
    · exact isSpace_eq_false_of_isDigit h
    · decide
    · decide

variable [UnicodeDatabase]

/-- Upper-casing does not change a list the device reads. -/
lemma upper_of_readVlanList {text : String} {ids : Finset ℕ} (h : readVlanList text = some ids) :
    upper text = text := by
  refine upper_eq_self fun c hc => ?_
  rcases mem_of_readVlanList h c hc with hd | rfl | rfl
  · rw [isDigit_iff] at hd
    refine ⟨by omega, ?_⟩
    unfold Char.toUpper
    rw [dif_neg]
    simp only [UInt32.le_iff_toNat_le, Char.toNat_val]
    have ha : 'a'.toNat = 97 := rfl
    omega
  · decide
  · decide

omit [UnicodeDatabase] in
/-- A list the device reads is not one of the words for the whole range and the empty list. -/
lemma not_word_of_readVlanList {text : String} {ids : Finset ℕ}
    (h : readVlanList text = some ids) : text ∉ ["ALL", "NONE"] := by
  intro hmem
  have hcases : text = "ALL" ∨ text = "NONE" := by simpa using hmem
  have hall : readVlanList "ALL" = none := by decide
  have hnone : readVlanList "NONE" = none := by decide
  rcases hcases with rfl | rfl
  · rw [hall] at h; cases h
  · rw [hnone] at h; cases h

/-! ## The driver's reading -/

/-- The driver reads an id of the device as the device does. -/
lemma int_of_readVlanId {word : String} {n : ℕ} (h : readVlanId word = some n) :
    int word = some (n : ℤ) := by
  obtain ⟨hn, hlen, -⟩ := numeral_of_readVlanId h
  exact int_of_numeral hn (Nat.le_trans hlen (by decide))

omit [UnicodeDatabase] in
/-- A text is its parts with the separator between them. -/
lemma toList_of_splitAt {separator : Char} {text : String} {parts : List String}
    (h : splitAt separator text = parts) :
    text.toList = [separator].intercalate (parts.map String.toList) := by
  rw [← h, splitAt, List.map_map]
  simp [Function.comp_def, List.intercalate_splitOn]

omit [UnicodeDatabase] in
/-- An id holds no hyphen. -/
lemma hyphen_not_mem {word : String} {n : ℕ} (h : readVlanId word = some n) :
    '-' ∉ word.toList := by
  intro hmem
  exact absurd ((isDigit_of_numeral (numeral_of_readVlanId h).1).2 _ hmem) (by decide)

omit [UnicodeDatabase] in
/-- A text without a hyphen has nothing behind one. -/
lemma partition_eq_self {text : String} (h : '-' ∉ text.toList) :
    partition '-' text = (text, "") := by
  have hall : ∀ c ∈ text.toList, (c != '-') = true := by
    intro c hc
    rw [bne_iff_ne]
    rintro rfl
    exact h hc
  rw [partition, headBefore, List.takeWhile_eq_self_iff.mpr hall,
    List.dropWhile_eq_nil_iff.mpr hall, String.ofList_toList]
  rfl

omit [UnicodeDatabase] in
/-- A text is parted at its first hyphen. -/
lemma partition_append {low high text : String} (hlow : '-' ∉ low.toList)
    (h : text.toList = low.toList ++ '-' :: high.toList) : partition '-' text = (low, high) := by
  have hall : ∀ c ∈ low.toList, (c != '-') = true := by
    intro c hc
    rw [bne_iff_ne]
    rintro rfl
    exact hlow hc
  rw [partition, headBefore, h, List.takeWhile_append_of_pos hall,
    List.dropWhile_append_of_pos hall]
  simp

/-- The bounds the driver reads of a part are those of the ids the device reads. -/
lemma vlanRange_of_readVlanRange {part : String} {ids : Finset ℕ}
    (h : readVlanRange part = some ids) : ∃ a b : ℕ, vlanRange part = some ((a : ℤ), (b : ℤ)) ∧
      ids = Finset.Icc a b := by
  rcases readVlanRange_cases h with ⟨word, n, hsplit, hn, rfl⟩ | ⟨low, high, a, b, hsplit, ha, hb, -,
    rfl⟩
  · obtain rfl : part = word := by
      apply String.toList_inj.mp
      rw [toList_of_splitAt hsplit]
      simp
    refine ⟨n, n, ?_, (Finset.Icc_self n).symm⟩
    simp [vlanRange, partition_eq_self (hyphen_not_mem hn), int_of_readVlanId hn]
  · have hne : high ≠ "" := by
      rintro rfl
      have hnone : readVlanId "" = none := by decide
      rw [hnone] at hb
      cases hb
    have hpart : partition '-' part = (low, high) := by
      refine partition_append (hyphen_not_mem ha) ?_
      rw [toList_of_splitAt hsplit]
      simp [List.intercalate_cons_cons]
    refine ⟨a, b, ?_, rfl⟩
    simp [vlanRange, hpart, int_of_readVlanId ha, int_of_readVlanId hb, hne]

omit [UnicodeDatabase] in
/-- An interval of VLAN ids, as the driver's integers. -/
lemma image_Icc (a b : ℕ) :
    (Finset.Icc a b).image (fun n : ℕ => (n : ℤ)) = idRange (a : ℤ) (b : ℤ) := by
  ext z
  simp only [Finset.mem_image, Finset.mem_Icc, mem_idRange]
  constructor
  · rintro ⟨n, ⟨ha, hb⟩, rfl⟩
    omega
  · rintro ⟨ha, hb⟩
    exact ⟨z.toNat, by omega, by omega⟩

/-- Collecting the parts one after another gives all of their ids. -/
lemma foldl_of_readVlanParts {parts : List String} {ids : Finset ℕ} (acc : Finset ℤ)
    (h : readVlanParts parts = some ids) :
    (parts.filterMap vlanRange).foldl (fun s range => s ∪ idRange range.1 range.2) acc =
      acc ∪ ids.image fun n : ℕ => (n : ℤ) := by
  induction parts generalizing ids acc with
  | nil =>
    rw [readVlanParts, Option.some.injEq] at h
    simp [← h]
  | cons part parts ih =>
    rw [readVlanParts] at h
    split at h
    · rename_i s t hs ht
      obtain ⟨a, b, hrange, rfl⟩ := vlanRange_of_readVlanRange hs
      rw [Option.some.injEq] at h
      rw [List.filterMap_cons_some hrange, List.foldl_cons, ih _ ht, ← h, Finset.image_union,
        image_Icc, Finset.union_assoc]
    · cases h

/-- The driver expands a list to the ids the device reads in it. -/
theorem expandVlanList_of_readVlanList {text : String} {ids : Finset ℕ}
    (h : readVlanList text = some ids) :
    expandVlanList text = ids.image fun n : ℕ => (n : ℤ) := by
  have hword := isWord_of_readVlanList h
  have hnot := not_word_of_readVlanList h
  have hne : text ≠ "" := by
    rintro rfl
    exact hword.1 rfl
  simp only [List.mem_cons, List.not_mem_nil, or_false, not_or] at hnot
  rw [expandVlanList, strip_eq_self hword, upper_of_readVlanList h]
  simp only [hne, hnot, or_self, if_false]
  rw [foldl_of_readVlanParts _ h, Finset.empty_union]

end Device

end Terraformer
