import Terraformer.Changes.Types

/-!
# Names of ports

IOS spells a port in two ways, with the name of its interface family in full or abbreviated, and
`normalize_interface_name` collapses the two for the families its table knows.  For a port and a
family, `normalizeInterfaceName_spell` computes the normal form, and `sameInterface_spell` says
which spellings the driver takes for one port.
-/

namespace Terraformer

open Text

/-- The families of switch ports. -/
inductive InterfaceFamily where
  | ethernet
  | fastEthernet
  | gigabitEthernet
  | twoGigabitEthernet
  | fiveGigabitEthernet
  | tenGigabitEthernet
  | twentyFiveGigE
  | fortyGigabitEthernet
  | hundredGigE
  | appGigabitEthernet
  | portChannel
  deriving DecidableEq, Repr

/-- The two ways IOS spells the family of a port. -/
inductive Spelling where
  | full
  | short
  deriving DecidableEq, Repr

namespace InterfaceFamily

/-- The name of a family as IOS spells it. -/
def spell : InterfaceFamily → Spelling → String
  | .ethernet, .full => "Ethernet"
  | .ethernet, .short => "Et"
  | .fastEthernet, .full => "FastEthernet"
  | .fastEthernet, .short => "Fa"
  | .gigabitEthernet, .full => "GigabitEthernet"
  | .gigabitEthernet, .short => "Gi"
  | .twoGigabitEthernet, .full => "TwoGigabitEthernet"
  | .twoGigabitEthernet, .short => "Tw"
  | .fiveGigabitEthernet, .full => "FiveGigabitEthernet"
  | .fiveGigabitEthernet, .short => "Fi"
  | .tenGigabitEthernet, .full => "TenGigabitEthernet"
  | .tenGigabitEthernet, .short => "Te"
  | .twentyFiveGigE, .full => "TwentyFiveGigE"
  | .twentyFiveGigE, .short => "Twe"
  | .fortyGigabitEthernet, .full => "FortyGigabitEthernet"
  | .fortyGigabitEthernet, .short => "Fo"
  | .hundredGigE, .full => "HundredGigE"
  | .hundredGigE, .short => "Hu"
  | .appGigabitEthernet, .full => "AppGigabitEthernet"
  | .appGigabitEthernet, .short => "Ap"
  | .portChannel, .full => "Port-channel"
  | .portChannel, .short => "Po"

/-- The families that are no multigigabit or application port: those the driver's table spells. -/
def Tabled : InterfaceFamily → Prop
  | .twoGigabitEthernet | .fiveGigabitEthernet | .appGigabitEthernet => False
  | _ => True

/-- Whether a family is in the table can be decided. -/
instance : DecidablePred Tabled := fun family => by
  cases family <;> unfold Tabled <;> infer_instance

end InterfaceFamily

/-- The number of a port: slots and index, with slashes or dots between. -/
def IsPortNumber (number : String) : Prop :=
  number.toList.head?.any Char.isDigit = true ∧
    ∀ c ∈ number.toList, (c.isDigit || c == '/' || c == '.') = true

/-- Whether a text numbers a port can be decided. -/
instance (number : String) : Decidable (IsPortNumber number) :=
  inferInstanceAs (Decidable (_ ∧ ∀ c ∈ number.toList, _))

/-- A port of a device. -/
structure DevicePort where
  family : InterfaceFamily
  number : String
  isPortNumber : IsPortNumber number
  deriving DecidableEq

/-- The name of a port, spelled in full or abbreviated. -/
def DevicePort.spell (port : DevicePort) (spelling : Spelling) : String :=
  port.family.spell spelling ++ port.number

/-! ## Normal forms -/

/-- A character of a family's name. -/
def isNameChar (c : Char) : Bool :=
  c.isAlpha || c == '-'

/-- The text consists of letters and hyphens of ASCII. -/
abbrev IsFamilyName (text : String) : Prop :=
  ∀ c ∈ text.toList, isNameChar c = true

/-- A spelled family is a family name. -/
lemma isFamilyName_spell (family : InterfaceFamily) (spelling : Spelling) :
    IsFamilyName (family.spell spelling) := by
  cases family <;> cases spelling <;> decide

/-- Lowering a letter of a name gives a letter of a name. -/
lemma isNameChar_toLower {c : Char} (h : isNameChar c = true) : isNameChar c.toLower = true := by
  simp only [isNameChar, Bool.or_eq_true, beq_iff_eq, isAlpha_iff] at h ⊢
  rcases h with h | rfl
  · left
    rw [toNat_toLower]
    split <;> omega
  · exact Or.inr rfl

/-- No character of a family's name stands in a port's number. -/
lemma not_number_of_isNameChar {c : Char} (h : isNameChar c = true) :
    (c.isDigit || c == '/' || c == '.') = false := by
  simp only [isNameChar, Bool.or_eq_true, beq_iff_eq, isAlpha_iff] at h
  simp only [Bool.or_eq_false_iff, beq_eq_false_iff_ne]
  refine ⟨⟨?_, ?_⟩, ?_⟩
  · rw [Bool.eq_false_iff, Ne, isDigit_iff]
    rcases h with h | rfl
    · omega
    · decide
  · rintro rfl
    revert h
    decide
  · rintro rfl
    revert h
    decide

/-- The number of a port does not begin like a name. -/
lemma IsPortNumber.not_name {number : String} (h : IsPortNumber number) :
    ∀ c ∈ number.toList.head?, isNameChar c = false := by
  intro c hc
  rw [Bool.eq_false_iff]
  intro hname
  have hnumber := h.2 c (List.mem_of_mem_head? hc)
  rw [not_number_of_isNameChar hname] at hnumber
  cases hnumber

section

variable {α : Type*} {p : α → Bool} {front back front' back' : List α}

/-- What consists of elements of a class is a prefix of a list only up to its first other
element. -/
lemma prefix_append_iff (hfront : ∀ c ∈ front', p c = true)
    (hback : ∀ c ∈ back.head?, p c = false) : front' <+: front ++ back ↔ front' <+: front := by
  refine ⟨fun h => ?_, fun h => h.trans (List.prefix_append _ _)⟩
  rcases List.prefix_or_prefix_of_prefix h (List.prefix_append front back) with h' | ⟨d, rfl⟩
  · exact h'
  · rw [List.prefix_append_right_inj] at h
    cases d with
    | nil => simp
    | cons c d =>
      obtain ⟨rest, rfl⟩ := h
      have htrue := hfront c (by simp)
      rw [hback c rfl] at htrue
      cases htrue

/-- A list is cut in one way between elements of a class and others. -/
lemma append_inj_of_class (hfront : ∀ c ∈ front, p c = true)
    (hback : ∀ c ∈ back.head?, p c = false) (hfront' : ∀ c ∈ front', p c = true)
    (hback' : ∀ c ∈ back'.head?, p c = false)
    (h : front ++ back = front' ++ back') : front = front' ∧ back = back' := by
  have hle : front <+: front' :=
    (prefix_append_iff hfront hback').mp (h ▸ List.prefix_append front back)
  have hge : front' <+: front :=
    (prefix_append_iff hfront' hback).mp (h ▸ List.prefix_append front' back')
  obtain rfl := hle.eq_of_length_le hge.length_le
  exact ⟨rfl, List.append_cancel_left h⟩

end

variable [UnicodeDatabase]

/-- ASCII characters are lower-cased one by one. -/
lemma lowerFrom_ascii_append (before : List Char) {l : List Char} (hl : ∀ c ∈ l, c.toNat < 128)
    (rest : List Char) : ∃ before', lowerFrom before (l ++ rest) =
      l.map Char.toLower ++ lowerFrom before' rest := by
  induction l generalizing before with
  | nil => exact ⟨before, rfl⟩
  | cons c l ih =>
    have hc := hl c (by simp)
    have hsigma : c ≠ 'Σ' := by
      rintro rfl
      revert hc
      decide
    obtain ⟨before', hrest⟩ := ih (c :: before) fun d hd => hl d (by simp [hd])
    refine ⟨before', ?_⟩
    rw [List.cons_append, lowerFrom, if_neg hsigma, UnicodeDatabase.lowerMap_ascii c hc, hrest]
    rfl

/-- An ASCII text is lower-cased letter by letter. -/
lemma lower_ascii {text : String} (h : ∀ c ∈ text.toList, c.toNat < 128) :
    lower text = String.ofList (text.toList.map Char.toLower) := by
  obtain ⟨before, hlower⟩ := lowerFrom_ascii_append [] h []
  rw [List.append_nil, lowerFrom, List.append_nil] at hlower
  rw [lower, hlower]

/-- The normal form of an ASCII name without white space at its ends, in small letters. -/
def collapseSpelling (lowered : String) : String :=
  match interfacePrefixes.find? fun spelling => startswith lowered spelling.1 with
  | some (longForm, shortForm) =>
    shortForm ++ String.ofList (lowered.toList.drop longForm.length)
  | none => lowered

omit [UnicodeDatabase] in
/-- The family of a name is normalised, and the number kept. -/
lemma collapseSpelling_append {word number : String} (hnumber : IsPortNumber number) :
    collapseSpelling (word ++ number) = collapseSpelling word ++ number := by
  have hfind : (interfacePrefixes.find? fun spelling => startswith (word ++ number) spelling.1) =
      interfacePrefixes.find? fun spelling => startswith word spelling.1 := by
    refine List.find?_congr fun entry hentry => ?_
    have hname : IsFamilyName entry.1 := by
      have hall : ∀ entry ∈ interfacePrefixes, IsFamilyName entry.1 := by decide
      exact hall entry hentry
    rw [Bool.eq_iff_iff, startswith, startswith, List.isPrefixOf_iff_prefix,
      List.isPrefixOf_iff_prefix, String.toList_append]
    exact prefix_append_iff hname hnumber.not_name
  rw [collapseSpelling, collapseSpelling, hfind]
  split
  · next longForm shortForm heq =>
    have hstart : startswith word longForm = true := by
      simpa using List.find?_some heq
    rw [startswith, List.isPrefixOf_iff_prefix] at hstart
    have hlength : longForm.length ≤ word.toList.length := by
      rw [← String.length_toList]
      exact hstart.length_le
    rw [String.toList_append, List.drop_append_of_le_length hlength,
      String.ofList_append, String.ofList_toList, String.append_assoc]
  · rfl

/-- A character of a port's name. -/
def isPortChar (c : Char) : Bool :=
  c.isAlphanum || c == '/' || c == '.' || c == '-'

omit [UnicodeDatabase] in
/-- The characters of a port number lie between the hyphen and the last small letter. -/
lemma toNat_of_isPortChar {c : Char} (h : isPortChar c = true) : 45 ≤ c.toNat ∧ c.toNat ≤ 122 := by
  simp only [isPortChar, Char.isAlphanum, Bool.or_eq_true, beq_iff_eq, isAlpha_iff, isDigit_iff] at h
  rcases h with ((h | rfl) | rfl) | rfl
  · omega
  · decide
  · decide
  · decide

omit [UnicodeDatabase] in
/-- The characters of a port's name. -/
lemma isPortChar_of_mem_spell {port : DevicePort} {spelling : Spelling} {c : Char}
    (hc : c ∈ (port.spell spelling).toList) : isPortChar c = true := by
  rw [DevicePort.spell, String.toList_append] at hc
  rw [isPortChar]
  rcases List.mem_append.mp hc with hc | hc
  · have hname := isFamilyName_spell port.family spelling c hc
    simp only [isNameChar, Bool.or_eq_true, beq_iff_eq] at hname
    simp only [Char.isAlphanum, Bool.or_eq_true, beq_iff_eq]
    tauto
  · have hnumber := port.isPortNumber.2 c hc
    simp only [Bool.or_eq_true, beq_iff_eq] at hnumber
    simp only [Char.isAlphanum, Bool.or_eq_true, beq_iff_eq]
    tauto

omit [UnicodeDatabase] in
/-- So do those of a spelled port. -/
lemma toNat_of_mem_spell {port : DevicePort} {spelling : Spelling} {c : Char}
    (hc : c ∈ (port.spell spelling).toList) : 45 ≤ c.toNat ∧ c.toNat ≤ 122 :=
  toNat_of_isPortChar (isPortChar_of_mem_spell hc)

omit [UnicodeDatabase] in
/-- A port's name is one word. -/
lemma isWord_spell (port : DevicePort) (spelling : Spelling) : IsWord (port.spell spelling) := by
  constructor
  · rw [DevicePort.spell, String.toList_append]
    refine List.append_ne_nil_of_left_ne_nil ?_ _
    cases port.family <;> cases spelling <;> decide
  · intro c hc
    have hbounds := toNat_of_mem_spell hc
    rw [Bool.eq_false_iff]
    simp only [isSpace, ne_eq, Bool.or_eq_true, Bool.and_eq_true, decide_eq_true_eq, beq_iff_eq]
    omega

omit [UnicodeDatabase] in
/-- A port's number has no letters. -/
lemma IsPortNumber.map_toLower {number : String} (h : IsPortNumber number) :
    number.toList.map Char.toLower = number.toList := by
  refine (List.map_congr_left fun c hc => ?_).trans (List.map_id _)
  have hnumber := h.2 c hc
  simp only [Bool.or_eq_true, beq_iff_eq, isDigit_iff] at hnumber
  rcases hnumber with (hnumber | rfl) | rfl
  · apply Char.toNat_inj.mp
    rw [toNat_toLower, if_neg (by omega), id]
  · rfl
  · rfl

/-- A name is normalised by stripping, lowering and collapsing it. -/
lemma normalizeInterfaceName_eq (name : String) :
    normalizeInterfaceName name = collapseSpelling (lower (strip name)) := by
  cases hfind : interfacePrefixes.find? fun spelling =>
      startswith (lower (strip name)) spelling.1 with
  | none => simp only [normalizeInterfaceName, collapseSpelling, hfind]
  | some spelling => simp only [normalizeInterfaceName, collapseSpelling, hfind]

/-- A port's name is normalised by normalising its family. -/
lemma normalizeInterfaceName_spell (port : DevicePort) (spelling : Spelling) :
    normalizeInterfaceName (port.spell spelling) =
      collapseSpelling (String.ofList ((port.family.spell spelling).toList.map Char.toLower)) ++
        port.number := by
  have hlower : lower (strip (port.spell spelling)) =
      String.ofList ((port.family.spell spelling).toList.map Char.toLower) ++ port.number := by
    rw [strip_eq_self (isWord_spell port spelling), lower_ascii fun c hc => by
      have hbounds := toNat_of_mem_spell hc
      omega]
    rw [DevicePort.spell, String.toList_append, List.map_append, String.ofList_append,
      port.isPortNumber.map_toLower, String.ofList_toList]
  rw [normalizeInterfaceName_eq, hlower, collapseSpelling_append port.isPortNumber]

/-- The normal form of a family's name. -/
def InterfaceFamily.key (family : InterfaceFamily) (spelling : Spelling) : String :=
  collapseSpelling (String.ofList ((family.spell spelling).toList.map Char.toLower))

/-- The name of a family in small letters. -/
def lowered (name : InterfaceFamily × Spelling) : String :=
  String.ofList ((name.1.spell name.2).toList.map Char.toLower)

/-- The names of all families. -/
def familyNames : List (InterfaceFamily × Spelling) :=
  [.ethernet, .fastEthernet, .gigabitEthernet, .twoGigabitEthernet, .fiveGigabitEthernet,
    .tenGigabitEthernet, .twentyFiveGigE, .fortyGigabitEthernet, .hundredGigE,
    .appGigabitEthernet, .portChannel].flatMap fun family => [(family, .full), (family, .short)]

omit [UnicodeDatabase] in
/-- The names of the families differ even in small letters. -/
lemma lowered_injective : Function.Injective lowered := by
  have hnodup : (familyNames.map lowered).Nodup := by decide
  have hmem : ∀ name, name ∈ familyNames := by
    rintro ⟨family, spelling⟩
    cases family <;> cases spelling <;> decide
  exact fun a b => List.inj_on_of_nodup_map hnodup (hmem a) (hmem b)

omit [UnicodeDatabase] in
/-- The table abbreviates the families it spells as IOS does, and no other. -/
lemma key_eq (family : InterfaceFamily) (spelling : Spelling) :
    family.key spelling = lowered (family, if family.Tabled then .short else spelling) := by
  cases family <;> cases spelling <;> decide

omit [UnicodeDatabase] in
/-- Two names of families have one normal form when they name one family, in one way or with a
family the table spells. -/
lemma key_eq_iff {family family' : InterfaceFamily} {spelling spelling' : Spelling} :
    family.key spelling = family'.key spelling' ↔
      family = family' ∧ (spelling = spelling' ∨ family.Tabled) := by
  rw [key_eq, key_eq, lowered_injective.eq_iff, Prod.mk.injEq]
  constructor
  · rintro ⟨rfl, h⟩
    refine ⟨rfl, ?_⟩
    by_cases htabled : family.Tabled
    · exact Or.inr htabled
    · rw [if_neg htabled, if_neg htabled] at h
      exact Or.inl h
  · rintro ⟨rfl, rfl | htabled⟩
    · exact ⟨rfl, rfl⟩
    · exact ⟨rfl, by rw [if_pos htabled, if_pos htabled]⟩

omit [UnicodeDatabase] in
/-- The key of a family is a family name. -/
lemma isFamilyName_key (family : InterfaceFamily) (spelling : Spelling) :
    IsFamilyName (family.key spelling) := by
  rw [key_eq, lowered]
  intro c hc
  rw [String.toList_ofList] at hc
  obtain ⟨d, hd, rfl⟩ := List.mem_map.mp hc
  exact isNameChar_toLower (isFamilyName_spell _ _ d hd)

/-- The driver takes two names for one port when they spell one port, in one way or with a family
its table spells. -/
theorem sameInterface_spell {port port' : DevicePort} {spelling spelling' : Spelling} :
    sameInterface (port.spell spelling) (port'.spell spelling') = true ↔
      port = port' ∧ (spelling = spelling' ∨ port.family.Tabled) := by
  rw [sameInterface, beq_iff_eq, normalizeInterfaceName_spell, normalizeInterfaceName_spell]
  constructor
  · intro h
    have hlist := congrArg String.toList h
    rw [String.toList_append, String.toList_append] at hlist
    obtain ⟨hkey, hnumber⟩ := append_inj_of_class (isFamilyName_key port.family spelling)
      port.isPortNumber.not_name (isFamilyName_key port'.family spelling')
      port'.isPortNumber.not_name hlist
    obtain ⟨hfamily, hspelling⟩ := key_eq_iff.mp (String.toList_inj.mp hkey)
    refine ⟨?_, hspelling⟩
    obtain ⟨family, number, hport⟩ := port
    obtain ⟨family', number', hport'⟩ := port'
    obtain rfl : number = number' := String.toList_inj.mp hnumber
    obtain rfl : family = family' := hfamily
    rfl
  · rintro ⟨rfl, h⟩
    have hkey := key_eq_iff.mpr ⟨rfl, h⟩
    rw [InterfaceFamily.key, InterfaceFamily.key] at hkey
    rw [hkey]

end Terraformer
