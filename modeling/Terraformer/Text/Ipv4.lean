import Terraformer.Text.Number

/-!
# IPv4 addresses and prefixes

`ipaddress.ip_address` and `ipaddress.ip_network` of a text, as far as they tell IPv4 from
everything else.  An IPv6 text is a `ValueError` for every caller in this development, so it
is `none` here like any other text that is no IPv4.
-/

namespace Terraformer

/-- An IPv4 address, as the number of its four octets. -/
abbrev Ipv4 := Fin (2 ^ 32)

namespace Ipv4

/-- One octet: one to three ASCII digits without a leading zero, at most 255. -/
def octet (cs : List Char) : Option ℕ :=
  if cs ≠ [] ∧ cs.all Char.isDigit ∧ cs.length ≤ 3 ∧ (cs = ['0'] ∨ cs.head? ≠ some '0') ∧
      Nat.ofDigitChars 10 cs 0 ≤ 255 then
    some (Nat.ofDigitChars 10 cs 0)
  else none

/-- The address four octets make. -/
def ofOctets (octets : List (Option ℕ)) : Option Ipv4 :=
  match octets with
  | [some a, some b, some c, some d] =>
    if h : ((a * 256 + b) * 256 + c) * 256 + d < 2 ^ 32 then some ⟨_, h⟩ else none
  | _ => none

/-- `IPv4Address(text)`; `none` is its `ValueError`. -/
def ofText (text : String) : Option Ipv4 :=
  ofOctets ((text.toList.splitOn '.').map octet)

/-- The four octets of an address. -/
def octets (n : Ipv4) : List ℕ :=
  [n.val / 2 ^ 24, n.val / 2 ^ 16 % 256, n.val / 2 ^ 8 % 256, n.val % 256]

/-- `str(address)`. -/
def text (n : Ipv4) : String :=
  String.intercalate "." (n.octets.map Nat.repr)

/-- The netmask of a prefix length. -/
def netmask (length : ℕ) : ℕ :=
  2 ^ 32 - 2 ^ (32 - length)

/-- The prefix length whose netmask is the given number. -/
def prefixLengthOfMask (mask : ℕ) : Option ℕ :=
  (List.range 33).find? fun length => netmask length == mask

/-- The prefix length written as a number, or as a netmask or a host mask. -/
def prefixLength (cs : List Char) : Option ℕ :=
  let number :=
    if cs ≠ [] ∧ cs.all Char.isDigit ∧ cs.length ≤ maxDigits ∧ Nat.ofDigitChars 10 cs 0 ≤ 32 then
      some (Nat.ofDigitChars 10 cs 0)
    else none
  let dotted := (ofText (String.ofList cs)).bind fun mask =>
    prefixLengthOfMask mask.val <|> prefixLengthOfMask (2 ^ 32 - 1 - mask.val)
  number <|> dotted

/-- A netmask as an address. -/
def ofMask (length : ℕ) : Ipv4 :=
  ⟨netmask length, by unfold netmask; have := Nat.two_pow_pos (32 - length); omega⟩

/-- `ip_network(text, strict=True)` of an IPv4 network, as network address and netmask;
`none` is its `ValueError`. -/
def network (text : String) : Option (Ipv4 × Ipv4) :=
  match text.toList.splitOn '/' with
  | [address] => (ofText (String.ofList address)).map fun n => (n, ofMask 32)
  | [address, mask] =>
    match ofText (String.ofList address), prefixLength mask with
    | some n, some length =>
      -- no host bits may be set
      if n.val &&& netmask length = n.val then some (n, ofMask length) else none
    | _, _ => none
  | _ => none

/-! ## Reading a written address -/

/-- The octets of an address are at most 255. -/
lemma octets_le (n : Ipv4) : ∀ k ∈ n.octets, k ≤ 255 := by
  have hn := n.isLt
  intro k hk
  simp only [octets, List.mem_cons, List.not_mem_nil, or_false] at hk
  rcases hk with rfl | rfl | rfl | rfl <;> omega

/-- The text of an octet has one to three digits and is read back. -/
lemma octet_toDigits {k : ℕ} (hk : k ≤ 255) :
    octet (Nat.toDigits 10 k) = some k ∧ (Nat.toDigits 10 k).length ≤ 3 := by
  have h : ∀ k < 256, octet (Nat.toDigits 10 k) = some k ∧ (Nat.toDigits 10 k).length ≤ 3 := by
    decide +kernel
  exact h k (by omega)

/-- The text of an address, as characters. -/
lemma toList_text (n : Ipv4) :
    n.text.toList = ['.'].intercalate (n.octets.map (Nat.toDigits 10)) := by
  rw [text, String.toList_intercalate, List.map_map]
  congr 1
  apply List.map_congr_left
  intro k _
  exact Nat.toList_repr

/-- The digits of an octet hold no dot. -/
lemma dot_not_mem_toDigits (k : ℕ) : '.' ∉ Nat.toDigits 10 k := by
  intro h
  exact absurd (Nat.isDigit_of_mem_toDigits (by decide) (by decide) h) (by decide)

/-- A written address is read back. -/
@[simp] theorem ofText_text (n : Ipv4) : ofText n.text = some n := by
  have hsplit : n.text.toList.splitOn '.' = n.octets.map (Nat.toDigits 10) := by
    rw [toList_text, List.splitOn_intercalate]
    · intro l hl
      obtain ⟨k, -, rfl⟩ := List.mem_map.mp hl
      exact dot_not_mem_toDigits k
    · simp [octets]
  have hread : (n.octets.map (Nat.toDigits 10)).map octet = n.octets.map some := by
    rw [List.map_map]
    apply List.map_congr_left
    intro k hk
    exact (octet_toDigits (octets_le n k hk)).1
  rw [ofText, hsplit, hread]
  have hval : ((n.val / 2 ^ 24 * 256 + n.val / 2 ^ 16 % 256) * 256 + n.val / 2 ^ 8 % 256) * 256 +
      n.val % 256 = n.val := by
    omega
  simp only [octets, List.map_cons, List.map_nil, ofOctets, hval]
  rw [dif_pos n.isLt]

/-- Different addresses have different texts. -/
lemma text_injective : Function.Injective text := by
  intro m n h
  have hread : ofText m.text = ofText n.text := by rw [h]
  rw [ofText_text, ofText_text] at hread
  exact Option.some.inj hread

/-- The text of an address is made of digits and dots. -/
lemma mem_text {n : Ipv4} {c : Char} (hc : c ∈ n.text.toList) : c.isDigit = true ∨ c = '.' := by
  rw [toList_text] at hc
  have hd : ∀ k, ∀ d ∈ Nat.toDigits 10 k, d.isDigit = true := fun k d hd =>
    Nat.isDigit_of_mem_toDigits (by decide) (by decide) hd
  simp only [octets, List.map_cons, List.map_nil, List.intercalate_cons_cons,
    List.intercalate_singleton, List.mem_append, List.mem_singleton] at hc
  rcases hc with (hc | hc) | (hc | hc) | (hc | hc) | hc
  all_goals first | exact Or.inl (hd _ _ hc) | exact Or.inr hc

/-- The text of an address is a word. -/
lemma isWord_text (n : Ipv4) : Text.IsWord n.text := by
  constructor
  · intro h
    have h0 : ofText n.text = none := by
      rw [ofText, h]
      decide
    rw [ofText_text] at h0
    simp at h0
  · intro c hc
    rcases mem_text hc with hc | rfl
    · exact isSpace_eq_false_of_isDigit hc
    · decide

/-- A text that is an address has four octets. -/
lemma octet_of_ofText {text : String} {n : Ipv4} (h : ofText text = some n) :
    ∀ cs ∈ text.toList.splitOn '.', ∃ k, octet cs = some k := by
  unfold ofText ofOctets at h
  split at h
  · rename_i a b c d hoctets
    intro cs hcs
    have hmem := List.mem_map_of_mem (f := octet) hcs
    rw [hoctets] at hmem
    simp only [List.mem_cons, List.not_mem_nil, or_false] at hmem
    rcases hmem with hk | hk | hk | hk <;> exact ⟨_, hk⟩
  · cases h

/-- A text that is an address is a word. -/
lemma isWord_of_ofText {text : String} {n : Ipv4} (h : ofText text = some n) :
    Text.IsWord text := by
  constructor
  · intro hnil
    have h0 : ofText text = none := by
      rw [ofText, hnil]
      decide
    rw [h0] at h
    cases h
  · intro c hc
    rcases mem_splitOn_of_mem (x := '.') hc with rfl | ⟨cs, hcs, hc⟩
    · decide
    · obtain ⟨k, hk⟩ := octet_of_ofText h cs hcs
      rw [octet] at hk
      split at hk
      · rename_i hoctet
        exact isSpace_eq_false_of_isDigit (List.all_eq_true.mp hoctet.2.1 c hc)
      · cases hk

end Ipv4

end Terraformer
