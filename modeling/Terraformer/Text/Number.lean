import Terraformer.Text.Case

/-!
# Numbers in texts

`int(text)` and `str(number)`, and the reading of a plain ASCII numeral as a network device
reads it.  `int` takes more spellings than a device does: digits of any script, a sign,
underscores between digits and white space around the number.
-/

namespace Terraformer

open UnicodeDatabase

/-- The number a list of decimal digits writes. -/
def decimalValue (digits : List ℕ) : ℕ :=
  digits.foldl (fun n d => 10 * n + d) 0

/-- White space that `int` ignores around a number: that of `str.strip` without the four
separator controls. -/
def isIntSpace (c : Char) : Bool :=
  isSpace c && !(decide (28 ≤ c.toNat) && decide (c.toNat ≤ 31))

/-- The digits of an unsigned numeral with single underscores between digits; `afterDigit`
says whether the character before is a digit. -/
def readDigits [UnicodeDatabase] (afterDigit : Bool) : List Char → Option (List ℕ)
  | [] => if afterDigit then some [] else none
  | c :: cs =>
    if c = '_' then
      if afterDigit then readDigits false cs else none
    else
      match decimal c with
      | some d => (readDigits true cs).map (d :: ·)
      | none => none

/-- The longest numeral `int` converts. -/
def maxDigits : ℕ := 4300

/-- The value of an unsigned numeral. -/
def readUnsigned [UnicodeDatabase] (cs : List Char) : Option ℕ :=
  match readDigits false cs with
  | some digits => if digits.length ≤ maxDigits then some (decimalValue digits) else none
  | none => none

namespace Text

/-- `int(text)`; `none` is its `ValueError`. -/
def int [UnicodeDatabase] (text : String) : Option ℤ :=
  match listStrip isIntSpace text.toList with
  | '-' :: cs => (readUnsigned cs).map fun n => -(n : ℤ)
  | '+' :: cs => (readUnsigned cs).map fun n => (n : ℤ)
  | cs => (readUnsigned cs).map fun n => (n : ℤ)

/-- `str(number)`. -/
def str : ℤ → String
  | .ofNat n => n.repr
  | .negSucc n => "-" ++ (n + 1).repr

/-- A plain ASCII numeral, as a device reads it. -/
def numeral (text : String) : Option ℕ :=
  if text.toList ≠ [] ∧ text.toList.all Char.isDigit then
    some (Nat.ofDigitChars 10 text.toList 0)
  else none

/-- The text of a natural number is a word. -/
lemma isWord_repr (n : ℕ) : IsWord n.repr := by
  rw [IsWord, Nat.toList_repr]
  refine ⟨Nat.toDigits_ne_nil, fun c hc => ?_⟩
  exact isSpace_eq_false_of_isDigit (Nat.isDigit_of_mem_toDigits (by decide) (by decide) hc)

/-- The text of a number is a word. -/
lemma isWord_str (n : ℤ) : IsWord (str n) := by
  cases n with
  | ofNat n => exact isWord_repr n
  | negSucc n =>
    have h := isWord_repr (n + 1)
    rw [str, IsWord, String.toList_append]
    refine ⟨by simp, fun c hc => ?_⟩
    rcases List.mem_append.mp hc with hc | hc
    · rw [show "-".toList = ['-'] from rfl, List.mem_singleton] at hc
      rw [hc]
      decide
    · exact h.2 c hc

/-- A device reads back the text of a natural number. -/
@[simp] lemma numeral_str (n : ℕ) : numeral (str n) = some n := by
  have hall : (Nat.toDigits 10 n).all Char.isDigit = true :=
    List.all_eq_true.mpr fun c hc => Nat.isDigit_of_mem_toDigits (by decide) (by decide) hc
  show numeral n.repr = some n
  rw [numeral, Nat.toList_repr, if_pos ⟨Nat.toDigits_ne_nil, hall⟩,
    Nat.ofDigitChars_ten_toDigits]

/-- The characters of a numeral are digits. -/
lemma isDigit_of_numeral {text : String} {n : ℕ} (h : numeral text = some n) :
    text.toList ≠ [] ∧ ∀ c ∈ text.toList, c.isDigit = true := by
  unfold numeral at h
  split at h
  · rename_i hd
    exact ⟨hd.1, List.all_eq_true.mp hd.2⟩
  · simp at h

variable [UnicodeDatabase]

/-- An ASCII character that is no digit has no value as a digit. -/
lemma decimal_eq_none {c : Char} (hc : c.toNat < 128) (h : c.isDigit = false) :
    decimal c = none := by
  rw [decimal_ascii c hc, h]
  rfl

/-- The digits of a run of decimal digits, of any script. -/
lemma readDigits_of_decimal {b : Bool} {cs : List Char} {digits : List ℕ}
    (h : cs.map decimal = digits.map some) (hne : cs ≠ [] ∨ b = true) :
    readDigits b cs = some digits := by
  induction cs generalizing b digits with
  | nil =>
    obtain rfl : digits = [] := by simpa using h.symm
    simpa [readDigits] using hne
  | cons c cs ih =>
    cases digits with
    | nil => cases h
    | cons d digits =>
      obtain ⟨hdec, htail⟩ := List.cons_eq_cons.mp h
      have hunderscore : c ≠ '_' := by
        rintro rfl
        rw [decimal_eq_none (by decide) (by decide)] at hdec
        cases hdec
      rw [readDigits, if_neg hunderscore, hdec]
      simp [ih htail (Or.inr rfl)]

/-- A decimal digit is no white space that `int` ignores, and no sign. -/
lemma not_sign_of_decimal {c : Char} {d : ℕ} (h : decimal c = some d) :
    isIntSpace c = false ∧ c ≠ '-' ∧ c ≠ '+' := by
  refine ⟨?_, ?_, ?_⟩
  · simp [isIntSpace, decimal_not_space c (by simp [h])]
  · rintro rfl
    rw [decimal_eq_none (by decide) (by decide)] at h
    cases h
  · rintro rfl
    rw [decimal_eq_none (by decide) (by decide)] at h
    cases h

/-- `int` reads a run of decimal digits. -/
lemma int_of_decimal {text : String} {digits : List ℕ} (hne : text.toList ≠ [])
    (h : text.toList.map decimal = digits.map some) (hlen : text.toList.length ≤ maxDigits) :
    int text = some (decimalValue digits : ℤ) := by
  have hdec : ∀ c ∈ text.toList, ∃ d, decimal c = some d := fun c hc => by
    have hmem : decimal c ∈ digits.map some := h ▸ List.mem_map_of_mem hc
    obtain ⟨d, -, hd⟩ := List.mem_map.mp hmem
    exact ⟨d, hd.symm⟩
  have hstrip : listStrip isIntSpace text.toList = text.toList := by
    have hsp : ∀ c ∈ text.toList, isIntSpace c = false := fun c hc =>
      let ⟨_, hd⟩ := hdec c hc
      (not_sign_of_decimal hd).1
    exact listStrip_eq_self (fun c hc => hsp c (List.mem_of_mem_head? hc))
      fun c hc => hsp c (List.mem_of_getLast? hc)
  have hval : readUnsigned text.toList = some (decimalValue digits) := by
    have hlength : digits.length = text.toList.length := by
      simpa using (congrArg List.length h).symm
    rw [readUnsigned, readDigits_of_decimal h (Or.inl hne)]
    simp only [hlength, hlen, if_true]
  unfold int
  rw [hstrip]
  cases hcs : text.toList with
  | nil => exact absurd hcs hne
  | cons c cs =>
    obtain ⟨d, hd⟩ := hdec c (by simp [hcs])
    obtain ⟨-, hminus, hplus⟩ := not_sign_of_decimal hd
    rw [hcs] at hval
    split
    · rename_i heq
      exact absurd (List.cons_eq_cons.mp heq).1 hminus
    · rename_i heq
      exact absurd (List.cons_eq_cons.mp heq).1 hplus
    · rw [hval]
      rfl

/-- The digits of an ASCII numeral. -/
lemma decimal_of_isDigit {cs : List Char} (h : ∀ c ∈ cs, c.isDigit = true) :
    cs.map decimal = (cs.map fun c => c.toNat - 48).map some := by
  rw [List.map_map]
  refine List.map_congr_left fun c hc => ?_
  have hdigit := h c hc
  rw [decimal_ascii c (by rw [isDigit_iff] at hdigit; omega), if_pos hdigit]
  rfl

/-- `int` reads a numeral of a device as the device does. -/
lemma int_of_numeral {text : String} {n : ℕ} (h : numeral text = some n)
    (hlen : text.toList.length ≤ maxDigits) : int text = some (n : ℤ) := by
  obtain ⟨hne, hd⟩ := isDigit_of_numeral h
  rw [numeral, if_pos ⟨hne, List.all_eq_true.mpr hd⟩] at h
  rw [int_of_decimal hne (decimal_of_isDigit hd) hlen, ← Option.some.inj h, decimalValue,
    List.foldl_map, Nat.ofDigitChars_eq_foldl]
  rfl

end Text

end Terraformer
