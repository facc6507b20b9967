import Terraformer.Drivers.Accepted
import Terraformer.Text.Language

/-!
# The grammar of routing changes

What the validators of routing changes accept.  `NetworkFits` and `BgpFits` are the grammar of a
target and a value, over a reading of numerals: plain ASCII decimals for what a device takes
(`numeral`), decimal digits of any script for what the code takes (`digitsOf`), which also lets an
area have any ten digits.  So a pair is accepted although it does not fit exactly when it holds a
foreign digit or an area of more than 32 bits (`acceptsGrammar_iff`).
-/

namespace Terraformer

open Text Pattern UnicodeDatabase

/-! ## The grammar -/

section Grammar

variable (read : String → Option ℕ)

/-- A number of at most three digits, up to 255. -/
def IsOctet (w : List Char) : Prop :=
  w.length ≤ 3 ∧ ∃ n, read (String.ofList w) = some n ∧ n ≤ 255

/-- Four octets with dots between them. -/
def IsAddress (w : List Char) : Prop :=
  ∃ a b c d, (IsOctet read a ∧ IsOctet read b ∧ IsOctet read c ∧ IsOctet read d) ∧
    w = a ++ '.' :: (b ++ '.' :: (c ++ '.' :: d))

/-- A number from one to a bound, without a leading zero. -/
def IsPositive (width bound : ℕ) (w : List Char) : Prop :=
  w.length ≤ width ∧ (∃ c ∈ w.head?, '1' ≤ c ∧ c ≤ '9') ∧
    ∃ n, read (String.ofList w) = some n ∧ n ≤ bound

/-- An area: a number of at most ten digits, or four octets. -/
def IsArea (inRange : ℕ → Prop) (w : List Char) : Prop :=
  (w.length ≤ 10 ∧ ∃ n, read (String.ofList w) = some n ∧ inRange n) ∨ IsAddress read w

/-- A process with a network statement: the characters of the target, stripped and lower-cased,
and the words of the value. -/
inductive NetworkFits (inRange : ℕ → Prop) : List Char → List (List Char) → Prop
  | rip {address : List Char} : IsAddress read address →
      NetworkFits inRange "rip".toList [address]
  | eigrp {id address : List Char} : IsPositive read 5 65535 id → IsAddress read address →
      NetworkFits inRange ("eigrp ".toList ++ id) [address]
  | eigrpWildcard {id address wildcard : List Char} : IsPositive read 5 65535 id →
      IsAddress read address → IsAddress read wildcard →
      NetworkFits inRange ("eigrp ".toList ++ id) [address, wildcard]
  | ospf {id address wildcard area : List Char} : IsPositive read 5 65535 id →
      IsAddress read address → IsAddress read wildcard → IsArea read inRange area →
      NetworkFits inRange ("ospf ".toList ++ id) [address, wildcard, "area".toList, area]

/-- A BGP process with a neighbour. -/
inductive BgpFits : List Char → List (List Char) → Prop
  | neighbor {asn peer remote : List Char} : IsPositive read 10 4294967295 asn →
      IsAddress read peer → IsPositive read 10 4294967295 remote →
      BgpFits ("bgp ".toList ++ asn) [peer, "remote-as".toList, remote]

end Grammar

section

variable [UnicodeDatabase]

/-- The number that decimal digits of any script write. -/
def digitsOf (text : String) : Option ℕ :=
  if text.toList ≠ [] ∧ text.toList.all fun c => (decimal c).isSome then
    some (decimalValue (text.toList.filterMap decimal))
  else none

/-! ## Digits -/

/-- The integer reader accepts the words of one or more digits of any script. -/
lemma isSome_digitsOf_iff {w : List Char} : (∃ n, digitsOf (String.ofList w) = some n) ↔
    w ≠ [] ∧ ∀ c ∈ w, (decimal c).isSome = true := by
  rw [digitsOf, String.toList_ofList, ← List.all_eq_true (p := fun c => (decimal c).isSome)]
  split
  · next h => exact iff_of_true ⟨_, rfl⟩ h
  · next h => exact iff_of_false (by simp) h

/-- `int` reads decimal digits. -/
lemma int_of_digitsOf {w : List Char} {n : ℕ} (h : digitsOf (String.ofList w) = some n)
    (hlen : w.length ≤ 10) : int (String.ofList w) = some (n : ℤ) := by
  obtain ⟨hne, hdigits⟩ := isSome_digitsOf_iff.mp ⟨n, h⟩
  have hmap : w.map decimal = (w.filterMap decimal).map some := by
    clear h hne hlen
    induction w with
    | nil => rfl
    | cons c w ih =>
      obtain ⟨d, hd⟩ := Option.isSome_iff_exists.mp (hdigits c (by simp))
      rw [List.map_cons, List.filterMap_cons_some hd, List.map_cons, hd,
        ih fun e he => hdigits e (by simp [he])]
  rw [int_of_decimal (by simpa using hne) (by simpa using hmap)
    (by rw [String.toList_ofList]; exact hlen.trans (by decide))]
  rw [digitsOf, if_pos (by simpa [List.all_eq_true] using ⟨hne, hdigits⟩), Option.some.injEq,
    String.toList_ofList] at h
  rw [h]

/-- A plain numeral is read as decimal digits are. -/
lemma digitsOf_of_numeral {w : List Char} {n : ℕ} (h : numeral (String.ofList w) = some n) :
    digitsOf (String.ofList w) = some n := by
  obtain ⟨hne, hdigits⟩ := isDigit_of_numeral h
  rw [String.toList_ofList] at hne hdigits
  have hdecimal := decimal_of_isDigit hdigits
  have hsome : ∀ c ∈ w, (decimal c).isSome = true := by
    intro c hc
    have hmem : decimal c ∈ (w.map fun c => c.toNat - 48).map some :=
      hdecimal ▸ List.mem_map_of_mem hc
    obtain ⟨d, -, hd⟩ := List.mem_map.mp hmem
    rw [← hd]
    rfl
  have hvalues : w.filterMap decimal = w.map fun c => c.toNat - 48 := by
    have := congrArg (List.filterMap id) hdecimal
    simpa [List.filterMap_map, Function.comp_def] using this
  rw [numeral, if_pos (by simpa [List.all_eq_true] using ⟨hne, hdigits⟩)] at h
  rw [digitsOf, if_pos (by simpa [List.all_eq_true] using ⟨hne, hsome⟩), ← h,
    String.toList_ofList, hvalues, decimalValue, List.foldl_map, Nat.ofDigitChars_eq_foldl]
  rfl

/-- Decimal digits of ASCII are a plain numeral. -/
lemma numeral_of_digitsOf {w : List Char} {n : ℕ} (h : digitsOf (String.ofList w) = some n)
    (hplain : ∀ c ∈ w, (decimal c).isSome = true → c.isDigit = true) :
    numeral (String.ofList w) = some n := by
  obtain ⟨hne, hdigits⟩ := isSome_digitsOf_iff.mp ⟨n, h⟩
  have hascii : ∀ c ∈ w, c.isDigit = true := fun c hc => hplain c hc (hdigits c hc)
  obtain ⟨m, hm⟩ : ∃ m, numeral (String.ofList w) = some m := by
    rw [numeral, if_pos (by simpa [List.all_eq_true] using ⟨hne, hascii⟩)]
    exact ⟨_, rfl⟩
  rw [hm, ← h, digitsOf_of_numeral hm]

/-! ## Addresses -/

/-- One to three decimal digits. -/
def IsGroup (w : List Char) : Prop :=
  1 ≤ w.length ∧ w.length ≤ 3 ∧ ∀ c ∈ w, (decimal c).isSome = true

/-- Four groups of digits with dots between them. -/
def IsQuad (w : List Char) : Prop :=
  ∃ a b c d, (IsGroup a ∧ IsGroup b ∧ IsGroup c ∧ IsGroup d) ∧
    w = a ++ '.' :: (b ++ '.' :: (c ++ '.' :: d))

/-- What ends a group of digits: no digit. -/
def EndsDigits (rest : List Char) : Prop :=
  ∀ c ∈ rest.head?, (decimal c).isSome = false

/-- A dot ends the digits before it. -/
lemma endsDigits_dot (rest : List Char) : EndsDigits ('.' :: rest) := by
  intro c hc
  obtain rfl := Option.some.inj hc
  exact decimal_dot

/-- A group of digits has no dot. -/
lemma IsGroup.not_dot {w : List Char} (h : IsGroup w) : '.' ∉ w := by
  intro hmem
  have hsome := h.2.2 _ hmem
  rw [decimal_dot] at hsome
  cases hsome

/-- The pattern of a group matches the groups and captures nothing. -/
lemma matches_group_digits {w rest : List Char} {g : Captures} :
    Matches (between digit 1 3) w rest g ↔ IsGroup w ∧ g = [] := by
  rw [digit, matches_between_char (by decide), IsGroup]
  tauto

/-- A dot and a group are matched at the front of a sequence. -/
lemma matches_dotted_group {r : Pattern} {w rest : List Char} {g : Captures} :
    Matches (seq (seq (literal ".") (between digit 1 3)) r) w rest g ↔
      ∃ a u, IsGroup a ∧ w = '.' :: (a ++ u) ∧ Matches r u rest g := by
  rw [matches_seq]
  constructor
  · rintro ⟨v, u, g₁, g₂, rfl, rfl, hv, hu⟩
    obtain ⟨dot, a, g₃, g₄, rfl, rfl, hdot, hdigits⟩ := matches_seq.mp hv
    obtain ⟨rfl, rfl⟩ := matches_literal.mp hdot
    obtain ⟨ha, rfl⟩ := matches_group_digits.mp hdigits
    exact ⟨a, u, ha, rfl, hu⟩
  · rintro ⟨a, u, ha, rfl, hu⟩
    refine ⟨'.' :: a, u, [], g, by simp, rfl, matches_seq.mpr ?_, hu⟩
    exact ⟨['.'], a, [], [], rfl, rfl, matches_literal.mpr ⟨rfl, rfl⟩,
      matches_group_digits.mpr ⟨ha, rfl⟩⟩

/-- The texts of the address pattern. -/
lemma matches_ipv4Pattern {w rest : List Char} {g : Captures} :
    Matches ipv4Pattern w rest g ↔ IsQuad w ∧ g = [] := by
  rw [ipv4Pattern, matches_seq]
  simp only [times]
  constructor
  · rintro ⟨a, more, g₁, g₂, rfl, rfl, hdigits, hmore⟩
    obtain ⟨ha, rfl⟩ := matches_group_digits.mp hdigits
    obtain ⟨b, more, hb, rfl, hmore₂⟩ := matches_dotted_group.mp hmore
    obtain ⟨c, more, hc, rfl, hmore₃⟩ := matches_dotted_group.mp hmore₂
    obtain ⟨d, more, hd, rfl, hmore₄⟩ := matches_dotted_group.mp hmore₃
    obtain ⟨rfl, rfl⟩ := matches_empty.mp hmore₄
    exact ⟨⟨a, b, c, d, ⟨ha, hb, hc, hd⟩, by simp⟩, rfl⟩
  · rintro ⟨⟨a, b, c, d, ⟨ha, hb, hc, hd⟩, rfl⟩, rfl⟩
    refine ⟨a, _, [], [], rfl, rfl, matches_group_digits.mpr ⟨ha, rfl⟩, ?_⟩
    refine matches_dotted_group.mpr ⟨b, _, hb, rfl, matches_dotted_group.mpr ⟨c, _, hc, rfl, ?_⟩⟩
    exact matches_dotted_group.mpr ⟨d, [], hd, by simp, matches_empty.mpr ⟨rfl, rfl⟩⟩

/-- At the end of the digits a group is preferred whole. -/
lemma IsGroup.prefers {w rest : List Char} (h : IsGroup w) (hrest : EndsDigits rest) :
    (between digit 1 3).Prefers (w ++ rest) [] rest :=
  prefers_between_char h.2.2 h.1 h.2.1 hrest

/-- So is a group behind its dot. -/
lemma prefers_dotted_group {w rest : List Char} (h : IsGroup w) (hrest : EndsDigits rest) :
    (seq (literal ".") (between digit 1 3)).Prefers ('.' :: (w ++ rest)) [] rest :=
  prefers_seq (prefers_literal ".") (h.prefers hrest)

/-- An address is matched whole. -/
lemma IsQuad.prefers {w rest : List Char} (h : IsQuad w) (hrest : EndsDigits rest) :
    ipv4Pattern.Prefers (w ++ rest) [] rest := by
  obtain ⟨a, b, c, d, ⟨ha, hb, hc, hd⟩, rfl⟩ := h
  have hdots : (a ++ '.' :: (b ++ '.' :: (c ++ '.' :: d))) ++ rest =
      a ++ '.' :: (b ++ '.' :: (c ++ '.' :: (d ++ rest))) := by simp
  rw [hdots]
  refine prefers_seq (ha.prefers (endsDigits_dot _)) ?_
  refine prefers_seq (prefers_dotted_group hb (endsDigits_dot _)) ?_
  refine prefers_seq (prefers_dotted_group hc (endsDigits_dot _)) ?_
  exact prefers_seq (prefers_dotted_group hd hrest) prefers_empty

/-- No address begins where there is no digit. -/
lemma results_ipv4Pattern_eq_nil {rest : List Char} (h : EndsDigits rest) :
    results ipv4Pattern rest = [] :=
  results_seq_eq_nil (results_seq_eq_nil (results_seq_eq_nil (results_char_eq_nil h)))

/-- A group of an address is an octet when its number is not above 255. -/
lemma isOctet_digitsOf_iff {w : List Char} : IsOctet digitsOf w ↔
    IsGroup w ∧ ∀ n, int (String.ofList w) = some n → n ≤ 255 := by
  constructor
  · rintro ⟨hlen, n, hn, hle⟩
    obtain ⟨hne, hdigits⟩ := isSome_digitsOf_iff.mp ⟨n, hn⟩
    refine ⟨⟨List.length_pos_of_ne_nil hne, hlen, hdigits⟩, fun m hm => ?_⟩
    rw [int_of_digitsOf hn (by omega), Option.some.injEq] at hm
    omega
  · rintro ⟨⟨hpos, hlen, hdigits⟩, hle⟩
    obtain ⟨n, hn⟩ := isSome_digitsOf_iff.mpr ⟨List.ne_nil_of_length_pos hpos, hdigits⟩
    have hint := hle n (int_of_digitsOf hn (by omega))
    exact ⟨hlen, n, hn, by omega⟩

/-- The check of the octets sees the groups of an address. -/
lemma octetAbove_eq_false_iff {a b c d : List Char} (hdots : ∀ g ∈ [a, b, c, d], '.' ∉ g) :
    octetAbove (String.ofList (a ++ '.' :: (b ++ '.' :: (c ++ '.' :: d)))) = false ↔
      ∀ g ∈ [a, b, c, d], ∀ n, int (String.ofList g) = some n → n ≤ 255 := by
  have hjoin : a ++ '.' :: (b ++ '.' :: (c ++ '.' :: d)) = ['.'].intercalate [a, b, c, d] := by
    simp [List.intercalate_cons_cons]
  rw [octetAbove, splitAt, String.toList_ofList, hjoin, List.splitOn_intercalate _ hdots (by simp),
    List.any_eq_false]
  simp only [List.mem_map, forall_exists_index, and_imp, forall_apply_eq_imp_iff₂]
  refine forall₂_congr fun g _ => ?_
  cases int (String.ofList g) <;> simp

/-- An address is four groups that pass the check of the octets. -/
lemma isAddress_digitsOf_iff {w : List Char} : IsAddress digitsOf w ↔
    IsQuad w ∧ octetAbove (String.ofList w) = false := by
  constructor
  · rintro ⟨a, b, c, d, ⟨ha, hb, hc, hd⟩, rfl⟩
    obtain ⟨ha, ha'⟩ := isOctet_digitsOf_iff.mp ha
    obtain ⟨hb, hb'⟩ := isOctet_digitsOf_iff.mp hb
    obtain ⟨hc, hc'⟩ := isOctet_digitsOf_iff.mp hc
    obtain ⟨hd, hd'⟩ := isOctet_digitsOf_iff.mp hd
    refine ⟨⟨a, b, c, d, ⟨ha, hb, hc, hd⟩, rfl⟩, (octetAbove_eq_false_iff ?_).mpr ?_⟩
    · simp [ha.not_dot, hb.not_dot, hc.not_dot, hd.not_dot]
    · simpa using ⟨ha', hb', hc', hd'⟩
  · rintro ⟨⟨a, b, c, d, ⟨ha, hb, hc, hd⟩, rfl⟩, hoctets⟩
    rw [octetAbove_eq_false_iff (by simp [ha.not_dot, hb.not_dot, hc.not_dot, hd.not_dot])]
      at hoctets
    simp only [List.forall_mem_cons] at hoctets
    obtain ⟨ha', hb', hc', hd', -⟩ := hoctets
    exact ⟨a, b, c, d, ⟨isOctet_digitsOf_iff.mpr ⟨ha, ha'⟩, isOctet_digitsOf_iff.mpr ⟨hb, hb'⟩,
      isOctet_digitsOf_iff.mpr ⟨hc, hc'⟩, isOctet_digitsOf_iff.mpr ⟨hd, hd'⟩⟩, rfl⟩

/-! ## Statements -/

/-- A text of words with one blank between them. -/
structure Joins (text : String) (ws : List (List Char)) : Prop where
  toList : text.toList = [' '].intercalate ws
  words : ∀ w ∈ ws, w ≠ [] ∧ ∀ c ∈ w, isSpace c = false

omit [UnicodeDatabase] in
/-- A text joins one list of words only. -/
lemma Joins.unique {text : String} {ws ws' : List (List Char)} (h : Joins text ws)
    (h' : Joins text ws') : ws = ws' := by
  have hblank : isSpace ' ' = true := by decide
  rw [← listWords_intercalate hblank h.words, ← h.toList, h'.toList,
    listWords_intercalate hblank h'.words]

omit [UnicodeDatabase] in
/-- No newline is left between or inside the joined words. -/
lemma Joins.not_newline {text : String} {ws : List (List Char)} (h : Joins text ws) :
    '\n' ∉ text.toList := by
  intro hmem
  rw [h.toList] at hmem
  rcases mem_of_mem_intercalate hmem with hblank | ⟨w, hw, hc⟩
  · exact absurd hblank (by decide)
  · exact absurd ((h.words w hw).2 _ hc) (by decide)

omit [UnicodeDatabase] in
/-- A collapsed text joins the words of the value. -/
lemma joins_collapse (value : String) :
    Joins (join (split value)) ((split value).map String.toList) := by
  constructor
  · rw [join, String.toList_intercalate]
    rfl
  · intro w hw
    obtain ⟨v, hv, rfl⟩ := List.mem_map.mp hw
    exact isWord_of_mem_split hv

/-- A collapsed and lowered text joins the lowered words. -/
lemma joins_lower_collapse (value : String) :
    Joins (lower (join (split value))) ((split value).map fun w => (lower w).toList) := by
  constructor
  · rw [lower_join, join, String.toList_intercalate, List.map_map]
    rfl
  · intro w hw
    obtain ⟨v, hv, rfl⟩ := List.mem_map.mp hw
    exact isWord_lower (isWord_of_mem_split hv)

/-- A group has no whitespace. -/
lemma IsGroup.isSpace {w : List Char} (h : IsGroup w) : ∀ c ∈ w, isSpace c = false := fun c hc =>
  decimal_not_space c (Option.isSome_iff_ne_none.mp (h.2.2 c hc))

/-- A dotted quad is a word. -/
lemma IsQuad.word {w : List Char} (h : IsQuad w) : w ≠ [] ∧ ∀ c ∈ w, isSpace c = false := by
  obtain ⟨a, b, c, d, ⟨ha, hb, hc, hd⟩, rfl⟩ := h
  refine ⟨by simp, ?_⟩
  simp only [List.forall_mem_append, List.forall_mem_cons]
  have hdot : isSpace '.' = false := by decide
  exact ⟨ha.isSpace, hdot, hb.isSpace, hdot, hc.isSpace, hdot, hd.isSpace⟩

/-- One to ten decimal digits. -/
def IsAreaNumber (w : List Char) : Prop :=
  1 ≤ w.length ∧ w.length ≤ 10 ∧ ∀ c ∈ w, (decimal c).isSome = true

/-- A decimal area number is a word. -/
lemma IsAreaNumber.word {w : List Char} (h : IsAreaNumber w) :
    w ≠ [] ∧ ∀ c ∈ w, isSpace c = false :=
  ⟨List.ne_nil_of_length_pos h.1, fun c hc =>
    decimal_not_space c (Option.isSome_iff_ne_none.mp (h.2.2 c hc))⟩

/-- An area number is a numeral of at most ten digits. -/
lemma isAreaNumber_iff {w : List Char} :
    IsAreaNumber w ↔ w.length ≤ 10 ∧ ∃ n, digitsOf (String.ofList w) = some n := by
  rw [IsAreaNumber, isSome_digitsOf_iff, ← List.length_pos_iff]
  tauto

omit [UnicodeDatabase] in
/-- Where `$` stands in a text without newlines nothing is left. -/
lemma eq_nil_of_lineEnd {text : String} {w rest : List Char} (hline : '\n' ∉ text.toList)
    (htext : text.toList = w ++ rest) (hrest : rest = [] ∨ rest = ['\n']) : rest = [] := by
  refine hrest.resolve_right fun hnewline => hline ?_
  rw [htext, hnewline]
  simp

omit [UnicodeDatabase] in
/-- A text is matched up to `$` when some front part of it is and nothing is left. -/
lemma match_isSome_of_matches {r : Pattern} {text : String} {g : Captures}
    (h : Matches r text.toList [] g) : ∃ g, r.match text = some g :=
  Option.isSome_iff_exists.mp (match_isSome_iff.mpr ⟨_, [], g, by simp, h⟩)

variable {text : String} {ws : List (List Char)}

/-- The RIP pattern matches one dotted quad. -/
lemma rip_match_iff (h : Joins text ws) :
    (∃ g, (seq ipv4Pattern .lineEnd).match text = some g) ↔ ∃ a, ws = [a] ∧ IsQuad a := by
  constructor
  · rintro ⟨g, hg⟩
    obtain ⟨w, rest, htext, hm⟩ := exists_matches_of_match hg
    obtain ⟨haddress, hrest⟩ := matches_seq_lineEnd.mp hm
    obtain ⟨hquad, -⟩ := matches_ipv4Pattern.mp haddress
    obtain rfl := eq_nil_of_lineEnd h.not_newline htext hrest
    rw [List.append_nil] at htext
    exact ⟨w, h.unique ⟨by simp [htext], by simpa using hquad.word⟩, hquad⟩
  · rintro ⟨a, rfl, hquad⟩
    have htext : text.toList = a := by simpa using h.toList
    refine match_isSome_of_matches (g := []) (matches_seq_lineEnd.mpr ⟨?_, Or.inl rfl⟩)
    rw [htext]
    exact matches_ipv4Pattern.mpr ⟨hquad, rfl⟩

/-- The EIGRP pattern matches a dotted quad, and possibly a wildcard behind it. -/
lemma eigrp_match_iff (h : Joins text ws) :
    (∃ g, (seq ipv4Pattern (seq (optional (seq (literal " ") ipv4Pattern)) .lineEnd)).match text =
      some g) ↔ ∃ a, IsQuad a ∧ (ws = [a] ∨ ∃ w, IsQuad w ∧ ws = [a, w]) := by
  constructor
  · rintro ⟨g, hg⟩
    obtain ⟨w, rest, htext, hm⟩ := exists_matches_of_match hg
    obtain ⟨a, more, g₁, g₂, rfl, -, ha, hmore⟩ := matches_seq.mp hm
    obtain ⟨hoptional, hrest⟩ := matches_seq_lineEnd.mp hmore
    obtain ⟨hquad, -⟩ := matches_ipv4Pattern.mp ha
    obtain rfl := eq_nil_of_lineEnd h.not_newline htext hrest
    rw [List.append_nil] at htext
    refine ⟨a, hquad, ?_⟩
    rcases matches_optional.mp hoptional with hpair | ⟨rfl, -⟩
    · obtain ⟨blank, w, g₃, g₄, rfl, -, hblank, hw⟩ := matches_seq.mp hpair
      obtain ⟨rfl, -⟩ := matches_literal.mp hblank
      obtain ⟨hquad', -⟩ := matches_ipv4Pattern.mp hw
      refine Or.inr ⟨w, hquad', h.unique ⟨?_, by simpa using ⟨hquad.word, hquad'.word⟩⟩⟩
      rw [htext, List.intercalate_cons_cons]
      simp
    · exact Or.inl (h.unique ⟨by simp [htext], by simpa using hquad.word⟩)
  · rintro ⟨a, hquad, hws⟩
    have ha : ∀ {rest}, Matches ipv4Pattern a rest [] := matches_ipv4Pattern.mpr ⟨hquad, rfl⟩
    rcases hws with rfl | ⟨w, hquad', rfl⟩
    · refine match_isSome_of_matches (g := []) (matches_seq.mpr ⟨a, [], [], [], ?_, rfl, ha, ?_⟩)
      · simpa using h.toList
      · exact matches_seq_lineEnd.mpr ⟨matches_optional.mpr (Or.inr ⟨rfl, rfl⟩), Or.inl rfl⟩
    · refine match_isSome_of_matches (g := [])
        (matches_seq.mpr ⟨a, ' ' :: w, [], [], ?_, rfl, ha, ?_⟩)
      · simpa [List.intercalate_cons_cons] using h.toList
      · refine matches_seq_lineEnd.mpr ⟨matches_optional.mpr (Or.inl (matches_seq.mpr ?_)),
          Or.inl rfl⟩
        exact ⟨[' '], w, [], [], rfl, rfl, matches_literal.mpr ⟨rfl, rfl⟩,
          matches_ipv4Pattern.mpr ⟨hquad', rfl⟩⟩

/-- The OSPF pattern matches a dotted quad, a wildcard and an area. -/
lemma ospf_match_iff (h : Joins text ws) :
    (∃ g, (seq ipv4Pattern (seq (literal " ") (seq ipv4Pattern (seq (literal " area ")
      (seq (alt (between digit 1 10) ipv4Pattern) .lineEnd))))).match text = some g) ↔
      ∃ a w area, IsQuad a ∧ IsQuad w ∧ (IsAreaNumber area ∨ IsQuad area) ∧
        ws = [a, w, "area".toList, area] := by
  have harea : ∀ {area rest : List Char} {g : Captures},
      Matches (alt (between digit 1 10) ipv4Pattern) area rest g ↔
        (IsAreaNumber area ∨ IsQuad area) ∧ g = [] := by
    intro area rest g
    rw [matches_alt, matches_ipv4Pattern, digit, matches_between_char (by decide), IsAreaNumber]
    tauto
  have hjoin : ∀ a w area : List Char, a ++ ' ' :: (w ++ (" area ".toList ++ area)) =
      [' '].intercalate [a, w, "area".toList, area] := by
    intro a w area
    simp [List.intercalate_cons_cons]
  constructor
  · rintro ⟨g, hg⟩
    obtain ⟨w, rest, htext, hm⟩ := exists_matches_of_match hg
    obtain ⟨a, more, g₁, g₂, rfl, -, ha, hmore⟩ := matches_seq.mp hm
    obtain ⟨blank, more, g₃, g₄, rfl, -, hblank, hmore⟩ := matches_seq.mp hmore
    obtain ⟨w, more, g₅, g₆, rfl, -, hw, hmore⟩ := matches_seq.mp hmore
    obtain ⟨word, more, g₇, g₈, rfl, -, hword, hmore⟩ := matches_seq.mp hmore
    obtain ⟨hnumber, hrest⟩ := matches_seq_lineEnd.mp hmore
    obtain ⟨rfl, -⟩ := matches_literal.mp hblank
    obtain ⟨rfl, -⟩ := matches_literal.mp hword
    obtain ⟨hquad, -⟩ := matches_ipv4Pattern.mp ha
    obtain ⟨hquad', -⟩ := matches_ipv4Pattern.mp hw
    obtain ⟨hquad'', -⟩ := harea.mp hnumber
    obtain rfl := eq_nil_of_lineEnd h.not_newline htext hrest
    rw [List.append_nil] at htext
    have hlast : more ≠ [] ∧ ∀ c ∈ more, isSpace c = false :=
      hquad''.elim IsAreaNumber.word IsQuad.word
    refine ⟨a, w, more, hquad, hquad', hquad'', h.unique ⟨htext.trans (hjoin a w more), ?_⟩⟩
    have hkeyword : "area".toList ≠ [] ∧ ∀ c ∈ "area".toList, isSpace c = false := by decide
    simp only [List.forall_mem_cons, List.not_mem_nil, false_imp_iff, implies_true, and_true]
    exact ⟨hquad.word, hquad'.word, hkeyword, hlast⟩
  · rintro ⟨a, w, area, hquad, hquad', hquad'', rfl⟩
    have htext := h.toList.trans (hjoin a w area).symm
    refine match_isSome_of_matches (g := [])
      (matches_seq.mpr ⟨a, _, [], [], htext, rfl, matches_ipv4Pattern.mpr ⟨hquad, rfl⟩, ?_⟩)
    refine matches_seq.mpr ⟨[' '], _, [], [], rfl, rfl, matches_literal.mpr ⟨rfl, rfl⟩, ?_⟩
    refine matches_seq.mpr ⟨w, _, [], [], rfl, rfl, matches_ipv4Pattern.mpr ⟨hquad', rfl⟩, ?_⟩
    refine matches_seq.mpr ⟨" area ".toList, area, [], [], rfl, rfl,
      matches_literal.mpr ⟨rfl, rfl⟩, matches_seq_lineEnd.mpr ⟨harea.mpr ⟨hquad'', rfl⟩,
        Or.inl rfl⟩⟩

/-! ## The addresses of a statement -/

/-- The end of the text ends the digits before it. -/
lemma endsDigits_nil : EndsDigits [] := by
  simp [EndsDigits]

/-- The search finds a dotted quad that the text begins with, and goes on behind it. -/
lemma findall_address {a rest : List Char} (ha : IsQuad a) (hrest : EndsDigits rest) :
    findall ipv4Pattern (String.ofList (a ++ rest)) =
      String.ofList a :: findall ipv4Pattern (String.ofList rest) :=
  findall_of_prefers ha.word.1 (ha.prefers hrest)

/-- What holds no digit holds no address. -/
lemma findall_skip {w : List Char} (hw : ∀ c ∈ w, (decimal c).isSome = false) (rest : List Char) :
    findall ipv4Pattern (String.ofList (w ++ rest)) =
      findall ipv4Pattern (String.ofList rest) := by
  refine findall_append_of_results_eq_nil fun back hback hne => results_ipv4Pattern_eq_nil ?_
  obtain ⟨c, back, rfl⟩ := List.exists_cons_of_ne_nil hne
  intro d hd
  obtain rfl := Option.some.inj hd
  exact hw _ (hback.subset List.mem_cons_self)

/-- What holds no dot holds no address. -/
lemma findall_number {w : List Char} (hw : '.' ∉ w) :
    findall ipv4Pattern (String.ofList w) = [] := by
  have hskip : findall ipv4Pattern (String.ofList (w ++ [])) =
      findall ipv4Pattern (String.ofList []) := by
    refine findall_append_of_results_eq_nil fun back hback _ => List.eq_nil_iff_forall_not_mem.mpr ?_
    rintro ⟨g, rest⟩ hmem
    rw [List.append_nil] at hmem
    obtain ⟨v, hv, hm⟩ := mem_results_iff.mp hmem
    obtain ⟨⟨a, b, c, d, -, rfl⟩, -⟩ := matches_ipv4Pattern.mp hm
    refine hw (hback.subset ?_)
    rw [hv]
    simp
  rw [List.append_nil] at hskip
  rw [hskip, findall_nil]

/-- An area number has no dot. -/
lemma IsAreaNumber.not_dot {w : List Char} (h : IsAreaNumber w) : '.' ∉ w := by
  intro hmem
  have hsome := h.2.2 _ hmem
  rw [decimal_dot] at hsome
  cases hsome

/-- A blank ends the digits before it. -/
lemma endsDigits_blank (rest : List Char) : EndsDigits (' ' :: rest) := by
  intro c hc
  obtain rfl := Option.some.inj hc
  rw [decimal_eq_none (by decide) (by decide)]
  rfl

/-- There is no digit in the keyword between the wildcard and the area. -/
lemma not_decimal_area : ∀ c ∈ " area ".toList, (decimal c).isSome = false := by
  intro c hc
  have hascii : ∀ c ∈ " area ".toList, c.toNat < 128 ∧ c.isDigit = false := by decide
  rw [decimal_eq_none (hascii c hc).1 (hascii c hc).2]
  rfl

/-- The search finds two dotted quads with a blank between them. -/
lemma findall_two {a w : List Char} (ha : IsQuad a) (hw : IsQuad w) {rest : List Char}
    (hrest : EndsDigits rest) : findall ipv4Pattern (String.ofList (a ++ ' ' :: (w ++ rest))) =
      String.ofList a :: String.ofList w :: findall ipv4Pattern (String.ofList rest) := by
  have hblank : ∀ c ∈ [' '], (decimal c).isSome = false := by
    intro c hc
    obtain rfl := List.mem_singleton.mp hc
    rw [decimal_eq_none (by decide) (by decide)]
    rfl
  have hskip := findall_skip hblank (w ++ rest)
  rw [List.singleton_append] at hskip
  rw [findall_address ha (endsDigits_blank _), hskip, findall_address hw hrest]

/-- The search finds the area when it is written as a dotted quad. -/
lemma findall_area {area : List Char} (harea : IsAreaNumber area ∨ IsQuad area) :
    findall ipv4Pattern (String.ofList (" area ".toList ++ area)) =
      if '.' ∈ area then [String.ofList area] else [] := by
  rw [findall_skip not_decimal_area]
  rcases harea with hnumber | hquad
  · rw [if_neg hnumber.not_dot, findall_number hnumber.not_dot]
  · have hdot : '.' ∈ area := by
      obtain ⟨a, b, c, d, -, rfl⟩ := hquad
      simp
    rw [if_pos hdot, ← List.append_nil area, findall_address hquad endsDigits_nil, findall_nil,
      List.append_nil]

/-! ## Processes -/

/-- A digit from one to nine, and at most `k` decimal digits behind it. -/
def IsIdentifier (k : ℕ) (w : List Char) : Prop :=
  ∃ c cs, w = c :: cs ∧ ('1' ≤ c ∧ c ≤ '9') ∧ cs.length ≤ k ∧ ∀ d ∈ cs, (decimal d).isSome = true

/-- The pattern of an identifier matches the identifiers and captures the whole word. -/
lemma matches_identifier {name : String} {k : ℕ} {w rest : List Char} {g : Captures} :
    Matches (group name (seq nonzeroDigit (upTo digit k))) w rest g ↔
      IsIdentifier k w ∧ g = [(name, String.ofList w)] := by
  rw [matches_group]
  constructor
  · rintro ⟨g', rfl, hm⟩
    obtain ⟨v, cs, g₁, g₂, rfl, rfl, hfirst, hmore⟩ := matches_seq.mp hm
    obtain ⟨c, hc, rfl, rfl⟩ := matches_char.mp hfirst
    obtain ⟨hlen, hcs, rfl⟩ := matches_upTo_char.mp hmore
    rw [Bool.and_eq_true, decide_eq_true_eq, decide_eq_true_eq] at hc
    exact ⟨⟨c, cs, rfl, hc, hlen, hcs⟩, rfl⟩
  · rintro ⟨⟨c, cs, rfl, hc, hlen, hcs⟩, rfl⟩
    refine ⟨[], rfl, matches_seq.mpr ⟨[c], cs, [], [], rfl, rfl, matches_char.mpr ⟨c, ?_, rfl, rfl⟩,
      matches_upTo_char.mpr ⟨hlen, hcs, rfl⟩⟩⟩
    simpa using hc

omit [UnicodeDatabase] in
/-- A digit from one to nine is an ASCII digit. -/
lemma isDigit_of_nonzero {c : Char} (hc : '1' ≤ c ∧ c ≤ '9') : c.isDigit = true := by
  have h1 : '1'.toNat ≤ c.toNat := hc.1
  have h9 : c.toNat ≤ '9'.toNat := hc.2
  have hone : '1'.toNat = 49 := rfl
  have hnine : '9'.toNat = 57 := rfl
  exact isDigit_iff.mpr (by omega)

/-- An ASCII digit is a decimal digit. -/
lemma isSome_decimal_of_isDigit {c : Char} (h : c.isDigit = true) : (decimal c).isSome = true := by
  have hbounds := isDigit_iff.mp h
  rw [decimal_ascii c (by omega), if_pos h]
  rfl

/-- An identifier is a number from one to a bound when its number is not above the bound. -/
lemma isPositive_digitsOf_iff {k bound : ℕ} (hk : k ≤ 9) {w : List Char} :
    IsPositive digitsOf (k + 1) bound w ↔
      IsIdentifier k w ∧ ∀ n, int (String.ofList w) = some n → n ≤ (bound : ℤ) := by
  constructor
  · rintro ⟨hlen, ⟨c, hhead, hc⟩, n, hn, hle⟩
    obtain ⟨-, hdigits⟩ := isSome_digitsOf_iff.mp ⟨n, hn⟩
    cases w with
    | nil => cases hhead
    | cons c' cs =>
      obtain rfl := Option.some.inj hhead
      refine ⟨⟨c', cs, rfl, hc, by simpa using hlen, fun d hd => hdigits d (by simp [hd])⟩, ?_⟩
      intro m hm
      rw [int_of_digitsOf hn (by omega), Option.some.injEq] at hm
      omega
  · rintro ⟨⟨c, cs, rfl, hc, hlen, hcs⟩, hle⟩
    have hdigits : ∀ d ∈ c :: cs, (decimal d).isSome = true :=
      List.forall_mem_cons.mpr ⟨isSome_decimal_of_isDigit (isDigit_of_nonzero hc), hcs⟩
    obtain ⟨n, hn⟩ := isSome_digitsOf_iff.mpr ⟨List.cons_ne_nil c cs, hdigits⟩
    have hint := hle n (int_of_digitsOf hn (by simp; omega))
    exact ⟨by simp; omega, ⟨c, rfl, hc⟩, n, hn, by omega⟩

/-- A capture is not above the bound when the number it stands for is not. -/
lemma capturedAbove_eq_false_iff {name : String} {w : List Char} {bound : ℤ} :
    capturedAbove [(name, String.ofList w)] name bound = false ↔
      ∀ n, int (String.ofList w) = some n → n ≤ bound := by
  rw [capturedAbove, captured, List.lookup_cons_self, Option.bind_some]
  cases int (String.ofList w) <;> simp

/-- The texts of a process, and what they capture. -/
lemma matches_processSpec {w rest : List Char} {g : Captures} :
    Matches processSpec w rest g ↔ (rest = [] ∨ rest = ['\n']) ∧ ((w = "rip".toList ∧ g = []) ∨
      ∃ id, IsIdentifier 4 id ∧ (w = "ospf ".toList ++ id ∨ w = "eigrp ".toList ++ id) ∧
        g = [("id", String.ofList id)]) := by
  rw [processSpec, matches_seq_lineEnd, and_comm, matches_alt, matches_literal]
  refine and_congr_right fun _ => or_congr_right ?_
  constructor
  · intro hm
    obtain ⟨word, more, g₁, g₂, rfl, rfl, hword, hmore⟩ := matches_seq.mp hm
    obtain ⟨blank, id, g₃, g₄, rfl, rfl, hblank, hid⟩ := matches_seq.mp hmore
    obtain ⟨rfl, rfl⟩ := matches_literal.mp hblank
    obtain ⟨hidentifier, rfl⟩ := matches_identifier.mp hid
    rw [matches_alt, matches_literal, matches_literal] at hword
    rcases hword with ⟨rfl, rfl⟩ | ⟨rfl, rfl⟩
    · exact ⟨id, hidentifier, Or.inl rfl, rfl⟩
    · exact ⟨id, hidentifier, Or.inr rfl, rfl⟩
  · rintro ⟨id, hidentifier, hw, rfl⟩
    have hmore : ∀ {rest}, Matches (seq (literal " ") (group "id" (seq nonzeroDigit (upTo digit 4))))
        (" ".toList ++ id) rest [("id", String.ofList id)] :=
      matches_seq.mpr ⟨_, id, [], _, rfl, rfl, matches_literal.mpr ⟨rfl, rfl⟩,
        matches_identifier.mpr ⟨hidentifier, rfl⟩⟩
    rcases hw with rfl | rfl
    · exact matches_seq.mpr ⟨"ospf".toList, _, [], _, rfl, rfl,
        matches_alt.mpr (Or.inl (matches_literal.mpr ⟨rfl, rfl⟩)), hmore⟩
    · exact matches_seq.mpr ⟨"eigrp".toList, _, [], _, rfl, rfl,
        matches_alt.mpr (Or.inr (matches_literal.mpr ⟨rfl, rfl⟩)), hmore⟩

/-- The target, as the validators see it. -/
def targetChars (target : String) : List Char :=
  (lower (strip target)).toList

/-- A match of a target up to `$` is a match of all of it. -/
lemma exists_matches_target {r : Pattern} {target : String} {g : Captures}
    (hline : ∀ {w rest g}, Matches r w rest g → rest = [] ∨ rest = ['\n'])
    (h : r.match (lower (strip target)) = some g) : Matches r (targetChars target) [] g := by
  obtain ⟨w, rest, htext, hm⟩ := exists_matches_of_match h
  have hrest : rest = [] := by
    refine (hline hm).resolve_right fun hnewline => ?_
    rw [hnewline] at htext
    exact not_newline_lower_strip target w htext
  subst hrest
  rw [List.append_nil] at htext
  rwa [targetChars, htext]

omit [UnicodeDatabase] in
/-- A check of what a pattern captured is passed when the pattern matches and nothing is wrong. -/
lemma issue_eq_nil_iff {matched : Option Captures} {wrong : Captures → Bool}
    {issue : List String} (hissue : issue ≠ []) :
    (match matched with
      | none => issue
      | some captures => if wrong captures = true then issue else []) = [] ↔
      ∃ g, matched = some g ∧ wrong g = false := by
  cases matched with
  | none => simpa using hissue
  | some g =>
    cases hwrong : wrong g with
    | false => simp [hwrong]
    | true => simpa [hwrong] using hissue

/-- The targets of a process that runs an IGP. -/
lemma routingProcessIssues_eq_nil_iff {target : String} : routingProcessIssues target = [] ↔
    targetChars target = "rip".toList ∨ ∃ id, IsPositive digitsOf 5 65535 id ∧
      (targetChars target = "ospf ".toList ++ id ∨ targetChars target = "eigrp ".toList ++ id) := by
  have hissues : routingProcessIssues target = [] ↔ ∃ g,
      processSpec.match (lower (strip target)) = some g ∧ capturedAbove g "id" 65535 = false := by
    unfold routingProcessIssues
    generalize processSpec.match (lower (strip target)) = matched
    exact issue_eq_nil_iff (List.cons_ne_nil _ _)
  rw [hissues]
  constructor
  · rintro ⟨g, hmatch, habove⟩
    have hm := exists_matches_target (fun hm => (matches_processSpec.mp hm).1) hmatch
    rcases (matches_processSpec.mp hm).2 with ⟨hrip, -⟩ | ⟨id, hid, htarget, rfl⟩
    · exact Or.inl hrip
    · exact Or.inr ⟨id, (isPositive_digitsOf_iff (by decide)).mpr
        ⟨hid, capturedAbove_eq_false_iff.mp habove⟩, htarget⟩
  · intro h
    have hsome : ∃ g, processSpec.match (lower (strip target)) = some g := by
      rcases h with hrip | ⟨id, hid, htarget⟩
      · exact match_isSome_of_matches
          (matches_processSpec.mpr ⟨Or.inl rfl, Or.inl ⟨hrip, rfl⟩⟩)
      · obtain ⟨hidentifier, -⟩ := (isPositive_digitsOf_iff (by decide)).mp hid
        exact match_isSome_of_matches
          (matches_processSpec.mpr ⟨Or.inl rfl, Or.inr ⟨id, hidentifier, htarget, rfl⟩⟩)
    obtain ⟨g, hg⟩ := hsome
    refine ⟨g, hg, ?_⟩
    have hm := exists_matches_target (fun hm => (matches_processSpec.mp hm).1) hg
    rcases (matches_processSpec.mp hm).2 with ⟨-, rfl⟩ | ⟨id, hid, htarget, rfl⟩
    · rfl
    · rw [capturedAbove_eq_false_iff]
      -- the number the pattern captured is the one the target has
      rcases h with hrip | ⟨id', hid', htarget'⟩
      · rw [hrip] at htarget
        rcases htarget with htarget | htarget <;> cases htarget
      · obtain ⟨-, hbound⟩ := (isPositive_digitsOf_iff (by decide)).mp hid'
        have hsame : id = id' := by
          rcases htarget with htarget | htarget <;> rcases htarget' with htarget' | htarget' <;>
            rw [htarget] at htarget'
          · exact List.append_cancel_left htarget'
          · cases htarget'
          · cases htarget'
          · exact List.append_cancel_left htarget'
        exact hsame ▸ hbound

/-- The pattern of a BGP process matches the keyword and one AS number. -/
lemma matches_bgpProcess {w rest : List Char} {g : Captures} :
    Matches bgpProcess w rest g ↔ (rest = [] ∨ rest = ['\n']) ∧
      ∃ asn, IsIdentifier 9 asn ∧ w = "bgp ".toList ++ asn ∧ g = [("asn", String.ofList asn)] := by
  rw [bgpProcess, matches_seq_lineEnd, and_comm]
  refine and_congr_right fun _ => ?_
  constructor
  · intro hm
    obtain ⟨word, asn, g₁, g₂, rfl, rfl, hword, hasn⟩ := matches_seq.mp hm
    obtain ⟨rfl, rfl⟩ := matches_literal.mp hword
    obtain ⟨hidentifier, rfl⟩ := matches_identifier.mp hasn
    exact ⟨asn, hidentifier, rfl, rfl⟩
  · rintro ⟨asn, hidentifier, rfl, rfl⟩
    exact matches_seq.mpr ⟨_, asn, [], _, rfl, rfl, matches_literal.mpr ⟨rfl, rfl⟩,
      matches_identifier.mpr ⟨hidentifier, rfl⟩⟩

/-- The targets of a BGP process. -/
lemma bgpProcessIssues_eq_nil_iff {target : String} : bgpProcessIssues target = [] ↔
    ∃ asn, IsPositive digitsOf 10 4294967295 asn ∧
      targetChars target = "bgp ".toList ++ asn := by
  have hissues : bgpProcessIssues target = [] ↔ ∃ g,
      bgpProcess.match (lower (strip target)) = some g ∧ capturedAbove g "asn" asnMax = false := by
    unfold bgpProcessIssues
    generalize bgpProcess.match (lower (strip target)) = matched
    exact issue_eq_nil_iff (List.cons_ne_nil _ _)
  rw [hissues]
  constructor
  · rintro ⟨g, hmatch, habove⟩
    have hm := exists_matches_target (fun hm => (matches_bgpProcess.mp hm).1) hmatch
    obtain ⟨-, asn, hasn, htarget, rfl⟩ := matches_bgpProcess.mp hm
    exact ⟨asn, (isPositive_digitsOf_iff (by decide)).mpr
      ⟨hasn, capturedAbove_eq_false_iff.mp habove⟩, htarget⟩
  · rintro ⟨asn, hasn, htarget⟩
    obtain ⟨hidentifier, hbound⟩ := (isPositive_digitsOf_iff (by decide)).mp hasn
    have hall : Matches bgpProcess (lower (strip target)).toList [] [("asn", String.ofList asn)] :=
      matches_bgpProcess.mpr ⟨Or.inl rfl, asn, hidentifier, htarget, rfl⟩
    obtain ⟨g, hg⟩ := match_isSome_of_matches hall
    refine ⟨g, hg, ?_⟩
    have hm := exists_matches_target (fun hm => (matches_bgpProcess.mp hm).1) hg
    obtain ⟨-, asn', -, htarget', rfl⟩ := matches_bgpProcess.mp hm
    rw [capturedAbove_eq_false_iff,
      ← List.append_cancel_left (htarget.symm.trans htarget')]
    exact hbound

/-! ## Network statements -/

/-- Lower-casing makes no blank. -/
lemma not_blank_of_mem_lowerFrom {before l : List Char} (h : ∀ c ∈ l, c ≠ ' ') :
    ∀ d ∈ lowerFrom before l, d ≠ ' ' := by
  rintro d hd rfl
  rcases mem_lowerFrom hd with hsigma | hsigma | ⟨c, hc, hlower⟩
  · exact absurd hsigma (by decide)
  · exact absurd hsigma (by decide)
  · cases hspace : isSpace c with
    | true =>
      rw [lowerMap_space c hspace, List.mem_singleton] at hlower
      exact h c hc hlower.symm
    | false => exact absurd (lowerMap_not_space c hspace ' ' hlower) (by decide)

/-- The first word of a text is lower-cased with the text. -/
lemma toList_lower_headBefore (text : String) :
    (lower (headBefore ' ' text)).toList = (lower text).toList.takeWhile (· != ' ') := by
  rw [toList_lower, toList_lower, headBefore, String.toList_ofList]
  obtain ⟨a, ha⟩ : ∃ a, a = text.toList.takeWhile (· != ' ') := ⟨_, rfl⟩
  have hblank : ∀ c ∈ a, c ≠ ' ' := fun c hc =>
    bne_iff_ne.mp (List.mem_takeWhile_imp (p := (· != ' ')) (ha ▸ hc))
  have hlowered : ∀ d ∈ lowerFrom [] a, (d != ' ') = true := fun d hd =>
    bne_iff_ne.mpr (not_blank_of_mem_lowerFrom hblank d hd)
  have htext : text.toList = a ++ text.toList.dropWhile (· != ' ') := by
    rw [ha, List.takeWhile_append_dropWhile]
  rw [← ha, htext]
  cases hback : text.toList.dropWhile (· != ' ') with
  | nil => rw [List.append_nil, List.takeWhile_eq_self_iff.mpr hlowered]
  | cons c back =>
    have hc : c = ' ' := by
      have := List.head?_dropWhile_not (· != ' ') text.toList
      simpa [hback] using this
    rw [hc, lowerFrom_append_space (by decide), List.takeWhile_append_of_pos hlowered]
    simp

/-- The protocol word of a target. -/
lemma routingProtocolOf_eq {target word : String} (hword : (networkStatements.lookup word).isSome)
    (htarget : (targetChars target).takeWhile (· != ' ') = word.toList) :
    routingProtocolOf target = word := by
  have hhead : lower (headBefore ' ' (strip target)) = word := by
    apply String.toList_inj.mp
    rw [toList_lower_headBefore]
    exact htarget
  rw [routingProtocolOf, hhead]
  exact if_pos hword

/-- A network statement has no issue when its pattern matches and no octet is above 255. -/
lemma networkStatementIssues_eq_nil_iff (word : String) {target value : String} {pattern : Pattern}
    (htarget : (targetChars target).takeWhile (· != ' ') = word.toList)
    (hpattern : networkStatements.lookup word = some pattern) :
    networkStatementIssues target value = [] ↔ (∃ g, pattern.match (join (split value)) = some g) ∧
      ∀ address ∈ ipv4Pattern.findall (join (split value)), octetAbove address = false := by
  have hprotocol : routingProtocolOf target = word :=
    routingProtocolOf_eq (Option.isSome_iff_exists.mpr ⟨_, hpattern⟩) htarget
  unfold networkStatementIssues
  rw [hprotocol]
  clear hprotocol htarget
  generalize networkStatements = table at hpattern ⊢
  generalize networkShapes = shapes
  simp only [hpattern]
  generalize pattern.match (join (split value)) = matched
  generalize ipv4Pattern.findall (join (split value)) = addresses
  cases matched with
  | none => exact iff_of_false (List.cons_ne_nil _ _) fun h => by simpa using h.1
  | some g =>
    cases hfind : addresses.find? octetAbove with
    | some address =>
      have habove := List.find?_some hfind
      refine iff_of_false (by simp) fun h => ?_
      rw [h.2 address (List.mem_of_find?_eq_some hfind)] at habove
      cases habove
    | none =>
      refine iff_of_true (by simp) ⟨⟨g, rfl⟩, fun address haddress => ?_⟩
      simpa using List.find?_eq_none.mp hfind address haddress

/-- The pattern that a RIP network statement has to match. -/
lemma lookup_rip : networkStatements.lookup "rip" = some (.seq ipv4Pattern .lineEnd) := rfl

/-- The pattern that an EIGRP network statement has to match. -/
lemma lookup_eigrp : networkStatements.lookup "eigrp" =
    some (.seq ipv4Pattern (.seq (.optional (.seq (.literal " ") ipv4Pattern)) .lineEnd)) := rfl

/-- The pattern that an OSPF network statement has to match. -/
lemma lookup_ospf : networkStatements.lookup "ospf" = some (.seq ipv4Pattern (.seq (.literal " ")
    (.seq ipv4Pattern (.seq (.literal " area ")
      (.seq (.alt (.between digit 1 10) ipv4Pattern) .lineEnd))))) := rfl

omit [UnicodeDatabase] in
/-- The text is its words with a blank between them. -/
lemma Joins.eq_ofList (h : Joins text ws) : text = String.ofList ([' '].intercalate ws) := by
  rw [← h.toList, String.ofList_toList]

/-- The words of a value. -/
def valueWords (value : String) : List (List Char) :=
  (split value).map String.toList

/-- The search finds the dotted quad of a statement of one word. -/
lemma findall_single {a : List Char} (ha : IsQuad a) :
    findall ipv4Pattern (String.ofList ([' '].intercalate [a])) = [String.ofList a] := by
  have hone := findall_address ha endsDigits_nil
  rw [findall_nil, List.append_nil] at hone
  rw [← hone, List.intercalate_singleton]

/-- A RIP network statement is accepted if it is one address. -/
lemma networkStatementIssues_rip {target value : String}
    (htarget : targetChars target = "rip".toList) : networkStatementIssues target value = [] ↔
      ∃ a, valueWords value = [a] ∧ IsAddress digitsOf a := by
  have hjoins := joins_collapse value
  rw [networkStatementIssues_eq_nil_iff "rip" (by rw [htarget]; decide) lookup_rip,
    rip_match_iff hjoins]
  have haddresses : ∀ {a}, valueWords value = [a] → IsQuad a →
      findall ipv4Pattern (join (split value)) = [String.ofList a] := by
    intro a hwords hquad
    rw [hjoins.eq_ofList, ← valueWords, hwords, findall_single hquad]
  constructor
  · rintro ⟨⟨a, hwords, hquad⟩, hoctets⟩
    rw [haddresses hwords hquad, List.forall_mem_singleton] at hoctets
    exact ⟨a, hwords, isAddress_digitsOf_iff.mpr ⟨hquad, hoctets⟩⟩
  · rintro ⟨a, hwords, haddress⟩
    obtain ⟨hquad, hoctets⟩ := isAddress_digitsOf_iff.mp haddress
    exact ⟨⟨a, hwords, hquad⟩, by rwa [haddresses hwords hquad, List.forall_mem_singleton]⟩

omit [UnicodeDatabase] in
/-- The keyword of a target is what comes before its first blank. -/
lemma takeWhile_word (word : String) (hword : ' ' ∉ word.toList) (id : List Char) :
    ((word ++ " ").toList ++ id).takeWhile (· != ' ') = word.toList := by
  have hall : ∀ c ∈ word.toList, (c != ' ') = true := by
    intro c hc
    rw [bne_iff_ne]
    rintro rfl
    exact hword hc
  rw [String.toList_append, List.append_assoc, List.takeWhile_append_of_pos hall]
  simp

/-- The search finds the two dotted quads of a statement of two words. -/
lemma findall_pair {a w : List Char} (ha : IsQuad a) (hw : IsQuad w) :
    findall ipv4Pattern (String.ofList ([' '].intercalate [a, w])) =
      [String.ofList a, String.ofList w] := by
  have htwo := findall_two ha hw endsDigits_nil
  rw [findall_nil, List.append_nil] at htwo
  rw [← htwo, List.intercalate_cons_cons]
  simp

/-- An EIGRP network statement is accepted if it is an address with or without a wildcard. -/
lemma networkStatementIssues_eigrp {target value : String} {id : List Char}
    (htarget : targetChars target = "eigrp ".toList ++ id) :
    networkStatementIssues target value = [] ↔ ∃ a, IsAddress digitsOf a ∧
      (valueWords value = [a] ∨ ∃ w, IsAddress digitsOf w ∧ valueWords value = [a, w]) := by
  have hjoins := joins_collapse value
  have hword := takeWhile_word "eigrp" (by decide) id
  rw [networkStatementIssues_eq_nil_iff _ (htarget ▸ hword) lookup_eigrp, eigrp_match_iff hjoins]
  have hone : ∀ {a}, valueWords value = [a] → IsQuad a →
      findall ipv4Pattern (join (split value)) = [String.ofList a] := by
    intro a hwords hquad
    rw [hjoins.eq_ofList, ← valueWords, hwords, findall_single hquad]
  have htwo : ∀ {a w}, valueWords value = [a, w] → IsQuad a → IsQuad w →
      findall ipv4Pattern (join (split value)) = [String.ofList a, String.ofList w] := by
    intro a w hwords hquad hquad'
    rw [hjoins.eq_ofList, ← valueWords, hwords, findall_pair hquad hquad']
  constructor
  · rintro ⟨⟨a, hquad, hwords | ⟨w, hquad', hwords⟩⟩, hoctets⟩
    · rw [hone hwords hquad, List.forall_mem_singleton] at hoctets
      exact ⟨a, isAddress_digitsOf_iff.mpr ⟨hquad, hoctets⟩, Or.inl hwords⟩
    · rw [htwo hwords hquad hquad', List.forall_mem_cons, List.forall_mem_singleton] at hoctets
      exact ⟨a, isAddress_digitsOf_iff.mpr ⟨hquad, hoctets.1⟩,
        Or.inr ⟨w, isAddress_digitsOf_iff.mpr ⟨hquad', hoctets.2⟩, hwords⟩⟩
  · rintro ⟨a, haddress, hwords | ⟨w, hwildcard, hwords⟩⟩
    · obtain ⟨hquad, hoctets⟩ := isAddress_digitsOf_iff.mp haddress
      refine ⟨⟨a, hquad, Or.inl hwords⟩, ?_⟩
      rwa [hone hwords hquad, List.forall_mem_singleton]
    · obtain ⟨hquad, hoctets⟩ := isAddress_digitsOf_iff.mp haddress
      obtain ⟨hquad', hoctets'⟩ := isAddress_digitsOf_iff.mp hwildcard
      refine ⟨⟨a, hquad, Or.inr ⟨w, hquad', hwords⟩⟩, ?_⟩
      rw [htwo hwords hquad hquad', List.forall_mem_cons, List.forall_mem_singleton]
      exact ⟨hoctets, hoctets'⟩

/-- The areas the code takes: any number of at most ten digits, or an address. -/
lemma isArea_digitsOf_iff {area : List Char} : IsArea digitsOf (fun _ => True) area ↔
    IsAreaNumber area ∨ IsQuad area ∧ octetAbove (String.ofList area) = false := by
  rw [IsArea, isAddress_digitsOf_iff, isAreaNumber_iff]
  simp only [and_true]

/-- An OSPF network statement is accepted if it is an address, a wildcard and an area. -/
lemma networkStatementIssues_ospf {target value : String} {id : List Char}
    (htarget : targetChars target = "ospf ".toList ++ id) :
    networkStatementIssues target value = [] ↔ ∃ a w area, IsAddress digitsOf a ∧
      IsAddress digitsOf w ∧ IsArea digitsOf (fun _ => True) area ∧
        valueWords value = [a, w, "area".toList, area] := by
  have hjoins := joins_collapse value
  have hword := takeWhile_word "ospf" (by decide) id
  rw [networkStatementIssues_eq_nil_iff _ (htarget ▸ hword) lookup_ospf, ospf_match_iff hjoins]
  have haddresses : ∀ {a w area}, valueWords value = [a, w, "area".toList, area] → IsQuad a →
      IsQuad w → (IsAreaNumber area ∨ IsQuad area) →
      findall ipv4Pattern (join (split value)) = [String.ofList a, String.ofList w] ++
        if '.' ∈ area then [String.ofList area] else [] := by
    intro a w area hwords hquad hquad' harea
    have hjoin : [' '].intercalate [a, w, "area".toList, area] =
        a ++ ' ' :: (w ++ (" area ".toList ++ area)) := by
      simp [List.intercalate_cons_cons]
    have hrest : EndsDigits (" area ".toList ++ area) := endsDigits_blank _
    rw [hjoins.eq_ofList, ← valueWords, hwords, hjoin, findall_two hquad hquad' hrest,
      findall_area harea]
    rfl
  have hdot : ∀ {area}, IsQuad area → '.' ∈ area := by
    rintro area ⟨a, b, c, d, -, rfl⟩
    simp
  constructor
  · rintro ⟨⟨a, w, area, hquad, hquad', harea, hwords⟩, hoctets⟩
    rw [haddresses hwords hquad hquad' harea, List.forall_mem_append, List.forall_mem_cons,
      List.forall_mem_singleton] at hoctets
    obtain ⟨⟨ha, hw⟩, hlast⟩ := hoctets
    refine ⟨a, w, area, isAddress_digitsOf_iff.mpr ⟨hquad, ha⟩,
      isAddress_digitsOf_iff.mpr ⟨hquad', hw⟩, isArea_digitsOf_iff.mpr ?_, hwords⟩
    refine harea.imp_right fun hquad'' => ⟨hquad'', ?_⟩
    rwa [if_pos (hdot hquad''), List.forall_mem_singleton] at hlast
  · rintro ⟨a, w, area, haddress, hwildcard, harea, hwords⟩
    obtain ⟨hquad, ha⟩ := isAddress_digitsOf_iff.mp haddress
    obtain ⟨hquad', hw⟩ := isAddress_digitsOf_iff.mp hwildcard
    have harea' := isArea_digitsOf_iff.mp harea
    have hkind := harea'.imp_right And.left
    refine ⟨⟨a, w, area, hquad, hquad', hkind, hwords⟩, ?_⟩
    rw [haddresses hwords hquad hquad' hkind, List.forall_mem_append, List.forall_mem_cons,
      List.forall_mem_singleton]
    refine ⟨⟨ha, hw⟩, ?_⟩
    rcases harea' with hnumber | ⟨hquad'', hlast⟩
    · rw [if_neg hnumber.not_dot]
      exact List.forall_mem_nil _
    · rwa [if_pos (hdot hquad''), List.forall_mem_singleton]

/-- The code accepts a target and a value for a network statement when they fit the grammar with
digits of any script and areas of any size. -/
lemma acceptsNetwork_iff {target value : String} :
    routingProcessIssues target = [] ∧ networkStatementIssues target value = [] ↔
      NetworkFits digitsOf (fun _ => True) (targetChars target) (valueWords value) := by
  rw [routingProcessIssues_eq_nil_iff]
  constructor
  · rintro ⟨hrip | ⟨id, hid, hospf | heigrp⟩, hvalue⟩
    · obtain ⟨a, hwords, ha⟩ := (networkStatementIssues_rip hrip).mp hvalue
      rw [hrip, hwords]
      exact .rip ha
    · obtain ⟨a, w, area, ha, hw, harea, hwords⟩ := (networkStatementIssues_ospf hospf).mp hvalue
      rw [hospf, hwords]
      exact .ospf hid ha hw harea
    · obtain ⟨a, ha, hwords | ⟨w, hw, hwords⟩⟩ :=
        (networkStatementIssues_eigrp heigrp).mp hvalue
      · rw [heigrp, hwords]
        exact .eigrp hid ha
      · rw [heigrp, hwords]
        exact .eigrpWildcard hid ha hw
  · intro h
    generalize htarget : targetChars target = chars at h
    generalize hwords : valueWords value = words at h
    cases h with
    | rip ha => exact ⟨Or.inl rfl, (networkStatementIssues_rip htarget).mpr ⟨_, hwords, ha⟩⟩
    | eigrp hid ha =>
      exact ⟨Or.inr ⟨_, hid, Or.inr rfl⟩,
        (networkStatementIssues_eigrp htarget).mpr ⟨_, ha, Or.inl hwords⟩⟩
    | eigrpWildcard hid ha hw =>
      exact ⟨Or.inr ⟨_, hid, Or.inr rfl⟩,
        (networkStatementIssues_eigrp htarget).mpr ⟨_, ha, Or.inr ⟨_, hw, hwords⟩⟩⟩
    | ospf hid ha hw harea =>
      exact ⟨Or.inr ⟨_, hid, Or.inl rfl⟩,
        (networkStatementIssues_ospf htarget).mpr ⟨_, _, _, ha, hw, harea, hwords⟩⟩

/-! ## Neighbours -/

/-- The texts of a neighbour, and what they capture. -/
lemma matches_bgpNeighborPattern {w rest : List Char} {g : Captures} :
    Matches bgpNeighborPattern w rest g ↔ (rest = [] ∨ rest = ['\n']) ∧
      ∃ peer asn, IsQuad peer ∧ IsIdentifier 9 asn ∧
        w = peer ++ (" remote-as ".toList ++ asn) ∧
        g = [("peer", String.ofList peer), ("asn", String.ofList asn)] := by
  rw [bgpNeighborPattern]
  constructor
  · intro hm
    obtain ⟨peer, more, g₁, g₂, rfl, rfl, hpeer, hmore⟩ := matches_seq.mp hm
    obtain ⟨word, more, g₃, g₄, rfl, rfl, hword, hmore⟩ := matches_seq.mp hmore
    obtain ⟨hasn, hrest⟩ := matches_seq_lineEnd.mp hmore
    obtain ⟨g', rfl, haddress⟩ := matches_group.mp hpeer
    obtain ⟨hquad, rfl⟩ := matches_ipv4Pattern.mp haddress
    obtain ⟨rfl, rfl⟩ := matches_literal.mp hword
    obtain ⟨hidentifier, rfl⟩ := matches_identifier.mp hasn
    exact ⟨hrest, peer, more, hquad, hidentifier, rfl, rfl⟩
  · rintro ⟨hrest, peer, asn, hquad, hidentifier, rfl, rfl⟩
    refine matches_seq.mpr ⟨peer, _, [("peer", String.ofList peer)], _, rfl, rfl,
      matches_group.mpr ⟨[], rfl, matches_ipv4Pattern.mpr ⟨hquad, rfl⟩⟩, ?_⟩
    refine matches_seq.mpr ⟨_, asn, [], _, rfl, rfl, matches_literal.mpr ⟨rfl, rfl⟩, ?_⟩
    exact matches_seq_lineEnd.mpr ⟨matches_identifier.mpr ⟨hidentifier, rfl⟩, hrest⟩

/-- The words of a value, lower-cased. -/
def lowerWords (value : String) : List (List Char) :=
  (split value).map fun w => (lower w).toList

/-- An identifier is a word. -/
lemma IsIdentifier.word {k : ℕ} {w : List Char} (h : IsIdentifier k w) :
    w ≠ [] ∧ ∀ c ∈ w, isSpace c = false := by
  obtain ⟨c, cs, rfl, hc, -, hcs⟩ := h
  refine ⟨by simp, List.forall_mem_cons.mpr ⟨isSpace_eq_false_of_isDigit (isDigit_of_nonzero hc),
    fun d hd => decimal_not_space d (Option.isSome_iff_ne_none.mp (hcs d hd))⟩⟩

omit [UnicodeDatabase] in
/-- Two checks of what a pattern captured are passed when the pattern matches and nothing is
wrong. -/
lemma issues_eq_nil_iff {matched : Option Captures} {wrong wrong' : Captures → Bool}
    {issue : List String} {issueOf issueOf' : Captures → List String} (hissue : issue ≠ [])
    (hissueOf : ∀ g, issueOf g ≠ []) (hissueOf' : ∀ g, issueOf' g ≠ []) :
    (match matched with
      | none => issue
      | some captures =>
        if wrong captures = true then issueOf captures
        else if wrong' captures = true then issueOf' captures else []) = [] ↔
      ∃ g, matched = some g ∧ wrong g = false ∧ wrong' g = false := by
  cases matched with
  | none => simpa using hissue
  | some g =>
    cases hwrong : wrong g with
    | true => simpa [hwrong] using hissueOf g
    | false =>
      cases hwrong' : wrong' g with
      | true => simpa [hwrong, hwrong'] using hissueOf' g
      | false => simp [hwrong, hwrong']

/-- The values of a neighbour. -/
lemma bgpNeighborIssues_eq_nil_iff {value : String} : bgpNeighborIssues value = [] ↔
    ∃ peer remote, IsAddress digitsOf peer ∧ IsPositive digitsOf 10 4294967295 remote ∧
      lowerWords value = [peer, "remote-as".toList, remote] := by
  have hjoins := joins_lower_collapse value
  have hissues : bgpNeighborIssues value = [] ↔ ∃ g,
      bgpNeighborPattern.match (lower (join (split value))) = some g ∧
        octetAbove ((captured g "peer").getD "") = false ∧
        capturedAbove g "asn" asnMax = false := by
    unfold bgpNeighborIssues
    generalize bgpNeighborPattern.match (lower (join (split value))) = matched
    exact issues_eq_nil_iff (List.cons_ne_nil _ _) (fun _ => List.cons_ne_nil _ _)
      fun _ => List.cons_ne_nil _ _
  have hjoin : ∀ peer remote : List Char, peer ++ (" remote-as ".toList ++ remote) =
      [' '].intercalate [peer, "remote-as".toList, remote] := by
    intro peer remote
    simp [List.intercalate_cons_cons]
  have hcaptured : ∀ (peer remote : String), capturedAbove [("peer", peer), ("asn", remote)] "asn"
      asnMax = capturedAbove [("asn", remote)] "asn" asnMax := fun _ _ => rfl
  rw [hissues]
  constructor
  · rintro ⟨g, hmatch, hoctets, habove⟩
    obtain ⟨w, rest, htext, hm⟩ := exists_matches_of_match hmatch
    obtain ⟨hrest, peer, remote, hquad, hidentifier, rfl, rfl⟩ := matches_bgpNeighborPattern.mp hm
    obtain rfl := eq_nil_of_lineEnd hjoins.not_newline htext hrest
    rw [List.append_nil] at htext
    rw [hcaptured, capturedAbove_eq_false_iff] at habove
    have hkeyword : "remote-as".toList ≠ [] ∧ ∀ c ∈ "remote-as".toList, isSpace c = false := by
      decide
    refine ⟨peer, remote, isAddress_digitsOf_iff.mpr ⟨hquad, hoctets⟩,
      (isPositive_digitsOf_iff (by decide)).mpr ⟨hidentifier, habove⟩,
      hjoins.unique ⟨htext.trans (hjoin peer remote), ?_⟩⟩
    simp only [List.forall_mem_cons, List.not_mem_nil, false_imp_iff, implies_true, and_true]
    exact ⟨hquad.word, hkeyword, hidentifier.word⟩
  · rintro ⟨peer, remote, haddress, hremote, hwords⟩
    obtain ⟨hquad, hoctets⟩ := isAddress_digitsOf_iff.mp haddress
    obtain ⟨hidentifier, hbound⟩ := (isPositive_digitsOf_iff (by decide)).mp hremote
    have htext : (lower (join (split value))).toList =
        peer ++ (" remote-as ".toList ++ remote) := by
      rw [hjoins.toList, hjoin, ← hwords, lowerWords]
    have hall : Matches bgpNeighborPattern (lower (join (split value))).toList []
        [("peer", String.ofList peer), ("asn", String.ofList remote)] :=
      matches_bgpNeighborPattern.mpr ⟨Or.inl rfl, peer, remote, hquad, hidentifier, htext, rfl⟩
    obtain ⟨g, hg⟩ := match_isSome_of_matches hall
    refine ⟨g, hg, ?_⟩
    obtain ⟨w, rest, htext', hm⟩ := exists_matches_of_match hg
    obtain ⟨hrest, peer', remote', hquad', hidentifier', rfl, rfl⟩ :=
      matches_bgpNeighborPattern.mp hm
    obtain rfl := eq_nil_of_lineEnd hjoins.not_newline htext' hrest
    -- the pattern captured the words of the value
    have hcaptures : Joins (lower (join (split value))) [peer', "remote-as".toList, remote'] := by
      refine ⟨by rw [htext', List.append_nil, hjoin], ?_⟩
      simp only [List.forall_mem_cons, List.not_mem_nil, false_imp_iff, implies_true, and_true]
      exact ⟨hquad'.word, by decide, hidentifier'.word⟩
    have hwords' : [peer, "remote-as".toList, remote] = [peer', "remote-as".toList, remote'] :=
      hwords ▸ hjoins.unique hcaptures
    obtain ⟨rfl, rfl⟩ : peer = peer' ∧ remote = remote' := by simpa using hwords'
    exact ⟨hoctets, by rw [hcaptured, capturedAbove_eq_false_iff]; exact hbound⟩

/-- The code accepts a target and a value for a neighbour when they fit the grammar with digits
of any script. -/
lemma acceptsBgp_iff {target value : String} :
    bgpProcessIssues target = [] ∧ bgpNeighborIssues value = [] ↔
      BgpFits digitsOf (targetChars target) (lowerWords value) := by
  rw [bgpProcessIssues_eq_nil_iff, bgpNeighborIssues_eq_nil_iff]
  constructor
  · rintro ⟨⟨asn, hasn, htarget⟩, peer, remote, hpeer, hremote, hwords⟩
    rw [htarget, hwords]
    exact .neighbor hasn hpeer hremote
  · intro h
    generalize htarget : targetChars target = chars at h
    generalize hwords : lowerWords value = words at h
    cases h with
    | neighbor hasn hpeer hremote => exact ⟨⟨_, hasn, rfl⟩, _, _, hpeer, hremote, rfl⟩

/-! ## Plain numbers -/

/-- Every digit is an ASCII digit. -/
def PlainDigits (chars : List Char) : Prop :=
  ∀ c ∈ chars, (decimal c).isSome = true → c.isDigit = true

/-- The number of an area has 32 bits. -/
def AreaInRange (words : List (List Char)) : Prop :=
  ∀ a w area n, words = [a, w, "area".toList, area] →
    digitsOf (String.ofList area) = some n → n ≤ 4294967295

/-- The digits of an ASCII text are plain. -/
lemma plainDigits_of_ascii {chars : List Char} (h : ∀ c ∈ chars, c.toNat < 128) :
    PlainDigits chars := by
  intro c hc hsome
  by_contra hdigit
  rw [decimal_eq_none (h c hc) (by simpa using hdigit)] at hsome
  cases hsome

/-- The digits of a text are plain if those of its parts are. -/
lemma plainDigits_append {a b : List Char} :
    PlainDigits (a ++ b) ↔ PlainDigits a ∧ PlainDigits b :=
  List.forall_mem_append

/-- An ASCII character in front does not matter. -/
lemma plainDigits_cons {c : Char} {chars : List Char} (hc : c.toNat < 128) :
    PlainDigits (c :: chars) ↔ PlainDigits chars := by
  rw [← List.singleton_append, plainDigits_append, and_iff_right]
  exact plainDigits_of_ascii (by simpa using hc)

/-- The digits of a numeral are plain. -/
lemma plainDigits_of_numeral {w : List Char} {n : ℕ} (h : numeral (String.ofList w) = some n) :
    PlainDigits w := by
  intro c hc _
  exact (isDigit_of_numeral h).2 c (by simpa using hc)

/-- Plain addresses are the addresses of plain digits. -/
lemma isAddress_numeral_iff {w : List Char} :
    IsAddress numeral w ↔ IsAddress digitsOf w ∧ PlainDigits w := by
  have hoctet : ∀ {a : List Char}, IsOctet numeral a ↔ IsOctet digitsOf a ∧ PlainDigits a := by
    intro a
    constructor
    · rintro ⟨hlen, n, hn, hle⟩
      exact ⟨⟨hlen, n, digitsOf_of_numeral hn, hle⟩, plainDigits_of_numeral hn⟩
    · rintro ⟨⟨hlen, n, hn, hle⟩, hplain⟩
      exact ⟨hlen, n, numeral_of_digitsOf hn hplain, hle⟩
  have hdots : ∀ {a b c d : List Char}, PlainDigits (a ++ '.' :: (b ++ '.' :: (c ++ '.' :: d))) ↔
      PlainDigits a ∧ PlainDigits b ∧ PlainDigits c ∧ PlainDigits d := by
    intro a b c d
    simp only [plainDigits_append, plainDigits_cons (show '.'.toNat < 128 by decide)]
  constructor
  · rintro ⟨a, b, c, d, ⟨ha, hb, hc, hd⟩, rfl⟩
    rw [hoctet] at ha hb hc hd
    exact ⟨⟨a, b, c, d, ⟨ha.1, hb.1, hc.1, hd.1⟩, rfl⟩, hdots.mpr ⟨ha.2, hb.2, hc.2, hd.2⟩⟩
  · rintro ⟨⟨a, b, c, d, ⟨ha, hb, hc, hd⟩, rfl⟩, hplain⟩
    obtain ⟨ha', hb', hc', hd'⟩ := hdots.mp hplain
    exact ⟨a, b, c, d, ⟨hoctet.mpr ⟨ha, ha'⟩, hoctet.mpr ⟨hb, hb'⟩, hoctet.mpr ⟨hc, hc'⟩,
      hoctet.mpr ⟨hd, hd'⟩⟩, rfl⟩

/-- A positive number in plain digits is one that the integer reader takes. -/
lemma isPositive_numeral_iff {width bound : ℕ} {w : List Char} :
    IsPositive numeral width bound w ↔ IsPositive digitsOf width bound w ∧ PlainDigits w := by
  constructor
  · rintro ⟨hlen, hfirst, n, hn, hle⟩
    exact ⟨⟨hlen, hfirst, n, digitsOf_of_numeral hn, hle⟩, plainDigits_of_numeral hn⟩
  · rintro ⟨⟨hlen, hfirst, n, hn, hle⟩, hplain⟩
    exact ⟨hlen, hfirst, n, numeral_of_digitsOf hn hplain, hle⟩

/-- Plain areas are the areas of plain digits, the numbers among them of 32 bits. -/
lemma isArea_numeral_iff {area : List Char} : IsArea numeral (· ≤ 4294967295) area ↔
    IsArea digitsOf (fun _ => True) area ∧ PlainDigits area ∧
      ∀ n, digitsOf (String.ofList area) = some n → n ≤ 4294967295 := by
  constructor
  · rintro (⟨hlen, n, hn, hle⟩ | haddress)
    · refine ⟨Or.inl ⟨hlen, n, digitsOf_of_numeral hn, trivial⟩, plainDigits_of_numeral hn, ?_⟩
      intro m hm
      rw [digitsOf_of_numeral hn, Option.some.injEq] at hm
      exact hm ▸ hle
    · obtain ⟨haddress', hplain⟩ := isAddress_numeral_iff.mp haddress
      refine ⟨Or.inr haddress', hplain, fun n hn => ?_⟩
      -- an address holds a dot and so is no number
      obtain ⟨-, hdigits⟩ := isSome_digitsOf_iff.mp ⟨n, hn⟩
      obtain ⟨a, b, c, d, -, rfl⟩ := haddress'
      have hdot := hdigits '.' (by simp)
      rw [decimal_dot] at hdot
      cases hdot
  · rintro ⟨⟨hlen, n, hn, -⟩ | haddress, hplain, hrange⟩
    · exact Or.inl ⟨hlen, n, numeral_of_digitsOf hn hplain, hrange n hn⟩
    · exact Or.inr (isAddress_numeral_iff.mpr ⟨haddress, hplain⟩)

/-- The pairs of the grammar are those the code accepts, of plain digits and areas in range. -/
lemma networkFits_numeral_iff {chars : List Char} {words : List (List Char)} :
    NetworkFits numeral (· ≤ 4294967295) chars words ↔
      NetworkFits digitsOf (fun _ => True) chars words ∧ PlainDigits chars ∧
        (∀ w ∈ words, PlainDigits w) ∧ AreaInRange words := by
  have hrip : PlainDigits "rip".toList := plainDigits_of_ascii (by decide)
  have heigrp : PlainDigits "eigrp ".toList := plainDigits_of_ascii (by decide)
  have hospf : PlainDigits "ospf ".toList := plainDigits_of_ascii (by decide)
  have harea : PlainDigits "area".toList := plainDigits_of_ascii (by decide)
  constructor
  · intro h
    cases h with
    | rip ha =>
      obtain ⟨haddress, hplain⟩ := isAddress_numeral_iff.mp ha
      exact ⟨.rip haddress, hrip, by simpa using hplain, by simp [AreaInRange]⟩
    | eigrp hid ha =>
      obtain ⟨haddress, hplain⟩ := isAddress_numeral_iff.mp ha
      obtain ⟨hid', hplainId⟩ := isPositive_numeral_iff.mp hid
      exact ⟨.eigrp hid' haddress, plainDigits_append.mpr ⟨heigrp, hplainId⟩,
        by simpa using hplain, by simp [AreaInRange]⟩
    | eigrpWildcard hid ha hw =>
      obtain ⟨haddress, hplain⟩ := isAddress_numeral_iff.mp ha
      obtain ⟨hid', hplainId⟩ := isPositive_numeral_iff.mp hid
      obtain ⟨hwildcard, hplainWild⟩ := isAddress_numeral_iff.mp hw
      exact ⟨.eigrpWildcard hid' haddress hwildcard, plainDigits_append.mpr ⟨heigrp, hplainId⟩,
        by simpa using ⟨hplain, hplainWild⟩, by simp [AreaInRange]⟩
    | @ospf id a w area hid ha hw hr =>
      obtain ⟨haddress, hplain⟩ := isAddress_numeral_iff.mp ha
      obtain ⟨hid', hplainId⟩ := isPositive_numeral_iff.mp hid
      obtain ⟨hwildcard, hplainWild⟩ := isAddress_numeral_iff.mp hw
      obtain ⟨harea', hplainArea, hrange⟩ := isArea_numeral_iff.mp hr
      refine ⟨.ospf hid' haddress hwildcard harea',
        plainDigits_append.mpr ⟨hospf, hplainId⟩, ?_, ?_⟩
      · simp only [List.forall_mem_cons, List.not_mem_nil, false_imp_iff, implies_true, and_true]
        exact ⟨hplain, hplainWild, harea, hplainArea⟩
      · intro a' w' area' n hwords hn
        have hsame : area = area' := by
          simp only [List.cons.injEq, and_true, true_and] at hwords
          exact hwords.2.2
        exact hrange n (hsame ▸ hn)
  · rintro ⟨h, htarget, hwords, hrange⟩
    cases h with
    | rip ha => exact .rip (isAddress_numeral_iff.mpr ⟨ha, hwords _ (by simp)⟩)
    | eigrp hid ha =>
      exact .eigrp (isPositive_numeral_iff.mpr ⟨hid, (plainDigits_append.mp htarget).2⟩)
        (isAddress_numeral_iff.mpr ⟨ha, hwords _ (by simp)⟩)
    | eigrpWildcard hid ha hw =>
      exact .eigrpWildcard (isPositive_numeral_iff.mpr ⟨hid, (plainDigits_append.mp htarget).2⟩)
        (isAddress_numeral_iff.mpr ⟨ha, hwords _ (by simp)⟩)
        (isAddress_numeral_iff.mpr ⟨hw, hwords _ (by simp)⟩)
    | ospf hid ha hw hr =>
      exact .ospf (isPositive_numeral_iff.mpr ⟨hid, (plainDigits_append.mp htarget).2⟩)
        (isAddress_numeral_iff.mpr ⟨ha, hwords _ (by simp)⟩)
        (isAddress_numeral_iff.mpr ⟨hw, hwords _ (by simp)⟩)
        (isArea_numeral_iff.mpr ⟨hr, hwords _ (by simp), fun n hn => hrange _ _ _ n rfl hn⟩)

/-- A BGP statement in plain digits is one that the integer reader takes. -/
lemma bgpFits_numeral_iff {chars : List Char} {words : List (List Char)} :
    BgpFits numeral chars words ↔
      BgpFits digitsOf chars words ∧ PlainDigits chars ∧ ∀ w ∈ words, PlainDigits w := by
  have hbgp : PlainDigits "bgp ".toList := plainDigits_of_ascii (by decide)
  have hkeyword : PlainDigits "remote-as".toList := plainDigits_of_ascii (by decide)
  constructor
  · rintro ⟨hasn, hpeer, hremote⟩
    obtain ⟨hasn', hplain⟩ := isPositive_numeral_iff.mp hasn
    obtain ⟨hpeer', hplainPeer⟩ := isAddress_numeral_iff.mp hpeer
    obtain ⟨hremote', hplainRemote⟩ := isPositive_numeral_iff.mp hremote
    refine ⟨.neighbor hasn' hpeer' hremote', plainDigits_append.mpr ⟨hbgp, hplain⟩, ?_⟩
    simp only [List.forall_mem_cons, List.not_mem_nil, false_imp_iff, implies_true, and_true]
    exact ⟨hplainPeer, hkeyword, hplainRemote⟩
  · rintro ⟨⟨hasn, hpeer, hremote⟩, htarget, hwords⟩
    exact .neighbor (isPositive_numeral_iff.mpr ⟨hasn, (plainDigits_append.mp htarget).2⟩)
      (isAddress_numeral_iff.mpr ⟨hpeer, hwords _ (by simp)⟩)
      (isPositive_numeral_iff.mpr ⟨hremote, hwords _ (by simp)⟩)

/-! ## One process -/

/-- What the commands of the renderers name is what the lookups of the validators and of the
post-check find: the process of the target's stripped and lower-cased text. -/
structure ResolvesAlike (target : String) : Prop where
  rendered : ∀ (step : ChangeStepIntent) (context : ChangeContext), step.target = target →
    ∀ header ∈ [(renderRouterNetwork step context).commands.head?,
        (renderRouterNetworkRemove step).commands.head?,
        (renderBgpNeighbor step context).commands.head?],
      header.map normalizeStatement = some ("router " ++ lower (strip target))
  found : ∀ (context : ChangeContext), ∀ name ∈ [target, strip target, lower (strip target)],
    context.routingProcess name = context.routingProcesses.find? fun process =>
      normalizeStatement process.name == lower (strip target)

/-- The commands of a network statement begin with the process. -/
lemma head?_renderRouterNetwork (step : ChangeStepIntent) (context : ChangeContext) :
    (renderRouterNetwork step context).commands.head? = some ("router " ++ strip step.target) := by
  unfold renderRouterNetwork
  dsimp only
  split <;> rfl

/-- The commands of a neighbour begin with the process. -/
lemma head?_renderBgpNeighbor (step : ChangeStepIntent) (context : ChangeContext) :
    (renderBgpNeighbor step context).commands.head? =
      some ("router " ++ lower (strip step.target)) := by
  unfold renderBgpNeighbor
  dsimp only
  split
  · rfl
  · split <;> rfl

omit [UnicodeDatabase] in
/-- A text of words with one blank between them is its own collapsed form. -/
lemma Joins.join_split (h : Joins text ws) : join (split text) = text := by
  apply String.toList_inj.mp
  have hblank : isSpace ' ' = true := by decide
  rw [(joins_collapse text).toList, map_toList_split, h.toList,
    listWords_intercalate hblank h.words]

/-- A target of words with one blank between them names one process. -/
lemma resolvesAlike_of_joins {target : String} (h : Joins (lower (strip target)) ws)
    (hne : ws ≠ []) : ResolvesAlike target := by
  have hwords : (split target).map lower = split (lower (strip target)) := by
    rw [split_lower, split_strip]
  have hnormal : normalizeStatement target = lower (strip target) := by
    rw [normalizeStatement_eq, hwords, h.join_split]
  have hlowered : normalizeStatement (lower (strip target)) = lower (strip target) := by
    rw [normalizeStatement, h.join_split, lower_lower]
  obtain ⟨w, more, hsplit⟩ : ∃ w more, split (lower (strip target)) = w :: more := by
    refine List.exists_cons_of_ne_nil fun hnil => hne ?_
    have hblank : isSpace ' ' = true := by decide
    rw [← listWords_intercalate hblank h.words, ← h.toList, ← map_toList_split, hnil]
    rfl
  have hheader : ∀ name, split name = split target ∨ split name = split (lower (strip target)) →
      normalizeStatement ("router " ++ name) = "router " ++ lower (strip target) := by
    intro name hname
    have hlower : (split name).map lower = w :: more := by
      rcases hname with hname | hname
      · rw [hname, hwords, hsplit]
      · rw [hname, ← split_lower, lower_lower, hsplit]
    have hrouter : lower "router" = "router" := lower_eq_self (by decide)
    rw [normalizeStatement_eq, split_append (by decide), show split "router " = ["router"] from by
      decide, List.singleton_append, List.map_cons, hlower, hrouter, join_cons_cons, ← hsplit,
      h.join_split]
    rfl
  constructor
  · rintro step context rfl header hheaders
    simp only [List.mem_cons, List.not_mem_nil, or_false] at hheaders
    rcases hheaders with rfl | rfl | rfl
    · rw [head?_renderRouterNetwork]
      exact congrArg some (hheader _ (Or.inl (split_strip _)))
    · exact congrArg some (hheader _ (Or.inl (split_strip _)))
    · rw [head?_renderBgpNeighbor]
      exact congrArg some (hheader _ (Or.inr rfl))
  · intro context name hname
    simp only [List.mem_cons, List.not_mem_nil, or_false] at hname
    rcases hname with rfl | rfl | rfl
    · rw [ChangeContext.routingProcess, hnormal]
    · rw [ChangeContext.routingProcess, normalizeStatement_strip, hnormal]
    · rw [ChangeContext.routingProcess, hlowered]

omit [UnicodeDatabase] in
/-- A keyword and an identifier are joined by their blank. -/
lemma joins_keyword (word : String) {id target : List Char}
    (htarget : target = (word ++ " ").toList ++ id)
    (hword : word.toList ≠ [] ∧ ∀ c ∈ word.toList, isSpace c = false)
    (hid : id ≠ [] ∧ ∀ c ∈ id, isSpace c = false) {text : String} (htext : text.toList = target) :
    Joins text [word.toList, id] := by
  refine ⟨?_, List.forall_mem_cons.mpr ⟨hword, List.forall_mem_singleton.mpr hid⟩⟩
  rw [htext, htarget, String.toList_append, List.intercalate_cons_cons]
  simp

/-- A target that passes names one process. -/
lemma resolvesAlike_of_accepted {target : String}
    (h : routingProcessIssues target = [] ∨ bgpProcessIssues target = []) :
    ResolvesAlike target := by
  have hword : ∀ {k bound : ℕ} (_ : k ≤ 9) {id : List Char}, IsPositive digitsOf (k + 1) bound id →
      id ≠ [] ∧ ∀ c ∈ id, isSpace c = false := fun hk _ hid =>
    ((isPositive_digitsOf_iff hk).mp hid).1.word
  rcases h with h | h
  · rcases routingProcessIssues_eq_nil_iff.mp h with hrip | ⟨id, hid, hospf | heigrp⟩
    · have hjoins : Joins (lower (strip target)) ["rip".toList] :=
        ⟨hrip.trans List.intercalate_singleton.symm,
          List.forall_mem_singleton.mpr (by decide)⟩
      exact resolvesAlike_of_joins hjoins (by simp)
    · exact resolvesAlike_of_joins (joins_keyword "ospf" hospf (by decide)
        (hword (by decide) hid) rfl) (by simp)
    · exact resolvesAlike_of_joins (joins_keyword "eigrp" heigrp (by decide)
        (hword (by decide) hid) rfl) (by simp)
  · obtain ⟨asn, hasn, htarget⟩ := bgpProcessIssues_eq_nil_iff.mp h
    exact resolvesAlike_of_joins (joins_keyword "bgp" htarget (by decide)
      (hword (by decide) hasn) rfl) (by simp)

/-! ## The validators and the grammar -/

/-- The validators accept the grammar of plain numbers, and a target that passes names one
process. -/
structure AcceptsGrammar (target value : String) : Prop where
  network : routingProcessIssues target = [] ∧ networkStatementIssues target value = [] ↔
    NetworkFits numeral (· ≤ 4294967295) (targetChars target) (valueWords value)
  bgp : bgpProcessIssues target = [] ∧ bgpNeighborIssues value = [] ↔
    BgpFits numeral (targetChars target) (lowerWords value)
  resolves : routingProcessIssues target = [] ∨ bgpProcessIssues target = [] →
    ResolvesAlike target

/-- Where a target and a value have the shape of a change, their digits are ASCII digits, and an
area has 32 bits. -/
structure HasPlainNumbers (target value : String) : Prop where
  network : NetworkFits digitsOf (fun _ => True) (targetChars target) (valueWords value) →
    PlainDigits (targetChars target) ∧ (∀ w ∈ valueWords value, PlainDigits w) ∧
      AreaInRange (valueWords value)
  bgp : BgpFits digitsOf (targetChars target) (lowerWords value) →
    PlainDigits (targetChars target) ∧ ∀ w ∈ lowerWords value, PlainDigits w

/-- The validators accept the grammar exactly where the numbers are plain. -/
theorem acceptsGrammar_iff (target value : String) :
    AcceptsGrammar target value ↔ HasPlainNumbers target value := by
  constructor
  · intro h
    constructor
    · intro hfits
      exact (networkFits_numeral_iff.mp (h.network.mp (acceptsNetwork_iff.mpr hfits))).2
    · intro hfits
      exact (bgpFits_numeral_iff.mp (h.bgp.mp (acceptsBgp_iff.mpr hfits))).2
  · intro h
    refine ⟨?_, ?_, resolvesAlike_of_accepted⟩
    · rw [acceptsNetwork_iff, networkFits_numeral_iff]
      exact ⟨fun hfits => ⟨hfits, h.network hfits⟩, And.left⟩
    · rw [acceptsBgp_iff, bgpFits_numeral_iff]
      exact ⟨fun hfits => ⟨hfits, h.bgp hfits⟩, And.left⟩

end

/-- An area of 33 bits passes. -/
theorem not_acceptsGrammar_wideArea :
    letI := asciiDatabase
    ¬AcceptsGrammar "ospf 1" "10.0.0.0 0.0.0.255 area 4294967296" := by
  let _ := asciiDatabase
  intro h
  have hwords : valueWords "10.0.0.0 0.0.0.255 area 4294967296" =
      ["10.0.0.0".toList, "0.0.0.255".toList, "area".toList, "4294967296".toList] := by decide
  have hten : IsOctet digitsOf "10".toList := ⟨by decide, 10, by decide, by decide⟩
  have hzero : IsOctet digitsOf "0".toList := ⟨by decide, 0, by decide, by decide⟩
  have hlast : IsOctet digitsOf "255".toList := ⟨by decide, 255, by decide, by decide⟩
  have hfits : NetworkFits digitsOf (fun _ => True) (targetChars "ospf 1")
      (valueWords "10.0.0.0 0.0.0.255 area 4294967296") := by
    rw [hwords, show targetChars "ospf 1" = "ospf ".toList ++ "1".toList from by decide]
    exact .ospf ⟨by decide, ⟨'1', by decide, by decide⟩, 1, by decide, by decide⟩
      ⟨_, _, _, _, ⟨hten, hzero, hzero, hzero⟩, by decide⟩
      ⟨_, _, _, _, ⟨hzero, hzero, hzero, hlast⟩, by decide⟩
      (Or.inl ⟨by decide, 4294967296, by decide, trivial⟩)
  have hrange := (networkFits_numeral_iff.mp (h.network.mp (acceptsNetwork_iff.mpr hfits))).2.2.2
  exact absurd (hrange _ _ _ 4294967296 hwords (by decide)) (by decide)

end Terraformer
