import Terraformer.Blocks
import Terraformer.Text.Lines
import Terraformer.Changes.InterfaceNames
import Terraformer.Drivers.Base

/-!
# Parsing the VLAN table

`parse_show_vlan_brief` reads `show vlan brief` into one record for each VLAN, and
`ChangeContext.access_vlan_of` looks a port up in these records.  A report that prints a table,
with the port column wrapped onto indented lines, is read as that table
(`parseShowVlanBrief_of_prints`).  The lookup finds the VLAN that lists a port exactly when the
families of the listed ports are in the driver's table of abbreviations
(`readsTable_iff`).
-/

namespace Terraformer

open Text UnicodeDatabase

section

variable [UnicodeDatabase]

/-- `(?m)^(?P<id>\d{1,4})\s+(?P<name>\S+)\s+(?P<status>\S+)\s*(?P<ports>.*)$`, on one line. -/
def vlanRowPattern : Pattern :=
  .seq (.group "id" (.between digit 1 4)) (.seq (.plus (.char isSpace))
    (.seq (.group "name" (.plus (.char fun c => !isSpace c))) (.seq (.plus (.char isSpace))
      (.seq (.group "status" (.plus (.char fun c => !isSpace c))) (.seq (.star (.char isSpace))
        (.seq (.group "ports" (.star (.char (· != '\n')))) .lineEnd))))))

omit [UnicodeDatabase] in
/-- `[A-Za-z0-9/,\.\s-]+`. -/
def portListPattern : Pattern :=
  .plus (.char fun c =>
    c.isAlphanum || c == '/' || c == ',' || c == '.' || isSpace c || c == '-')

omit [UnicodeDatabase] in
/-- `_split_ports`. -/
def splitPorts (raw : String) : List String :=
  ((splitAt ',' raw).map strip).filter (· ≠ "")

/-- The record of a line that matches the pattern of a row. -/
def vlanOfRow (found : Captures) : VlanFacts where
  vlanId := ((Pattern.captured found "id").bind int).getD 0
  name := (Pattern.captured found "name").getD ""
  status := (Pattern.captured found "status").getD ""
  ports := splitPorts ((Pattern.captured found "ports").getD "")

/-- One line of `parse_show_vlan_brief`, with the VLANs read so far. -/
def readVlanLine (vlans : List VlanFacts) (line : String) : List VlanFacts :=
  let stripped := strip line
  if stripped = "" ∨ startswith stripped "-" ∨ startswith (lower stripped) "vlan " then vlans
  else
    match vlanRowPattern.match (rstrip line) with
    | some found => vlans ++ [vlanOfRow found]
    -- a continuation line: ports only, belonging to the VLAN above
    | none =>
      match vlans.getLast? with
      | some previous =>
        if (portListPattern.fullmatch stripped).isSome then
          vlans.dropLast ++ [{ previous with ports := previous.ports ++ splitPorts stripped }]
        else vlans
      | none => vlans

/-- `parse_show_vlan_brief`. -/
def parseShowVlanBrief (output : String) : List VlanFacts :=
  (splitlines output).foldl readVlanLine []

end

/-! ## What the device prints -/

/-- A row of the VLAN table. -/
structure VlanRow where
  vlanId : ℕ
  name : String
  status : String
  ports : List DevicePort
  vlanId_range : 1 ≤ vlanId ∧ vlanId ≤ 4094
  name_word : IsWord name
  status_word : IsWord status

/-- The record of a row. -/
def VlanRow.facts (row : VlanRow) : VlanFacts where
  vlanId := row.vlanId
  name := row.name
  status := row.status
  ports := row.ports.map (·.spell .short)

/-- The pieces of a port column between its commas: ports, and blank pieces. -/
inductive PortPieces : List DevicePort → List String → Prop
  | nil : PortPieces [] []
  | blank {ports : List DevicePort} {piece : String} {pieces : List String}
      (hpiece : strip piece = "") (h : PortPieces ports pieces) : PortPieces ports (piece :: pieces)
  | port {port : DevicePort} {ports : List DevicePort} {piece : String} {pieces : List String}
      (hpiece : strip piece = port.spell .short) (h : PortPieces ports pieces) :
      PortPieces (port :: ports) (piece :: pieces)

/-- The port column of a line lists the ports, with commas between them. -/
def IsPortColumn (ports : List DevicePort) (column : String) : Prop :=
  ∃ pieces, column = ",".intercalate pieces ∧ PortPieces ports pieces

/-- The line that begins a row, with the ports that stand on it. -/
def IsRowLine (row : VlanRow) (ports : List DevicePort) (line : String) : Prop :=
  ∃ gap gap' rest, line = str row.vlanId ++ gap ++ row.name ++ gap' ++ row.status ++ rest ∧
    (gap ≠ "" ∧ strip gap = "") ∧ (gap' ≠ "" ∧ strip gap' = "") ∧
    (∀ c ∈ rest.toList.head?, isSpace c = true) ∧ IsPortColumn ports (strip rest)

section

variable [UnicodeDatabase]

/-- A blank line, a rule, or the header of the table. -/
def IsHeading (line : String) : Prop :=
  strip line = "" ∨ startswith (strip line) "-" ∨ startswith (lower (strip line)) "vlan "

/-- The lines of a row behind its first: the rest of its ports, on indented lines. -/
inductive PrintsPorts : List DevicePort → List String → Prop
  | nil : PrintsPorts [] []
  | heading {ports : List DevicePort} {line : String} {lines : List String}
      (hline : IsHeading line) (h : PrintsPorts ports lines) : PrintsPorts ports (line :: lines)
  | continuation {ports more : List DevicePort} {line : String} {lines : List String}
      (hindented : isIndented line = true) (hports : IsPortColumn ports (strip line))
      (h : PrintsPorts more lines) : PrintsPorts (ports ++ more) (line :: lines)

/-- The lines that print the given rows, from the first row on. -/
inductive PrintsRows : List VlanRow → List String → Prop
  | nil : PrintsRows [] []
  | cons {row : VlanRow} {rows : List VlanRow} {ports more : List DevicePort} {line : String}
      {body lines : List String} (hports : row.ports = ports ++ more)
      (hline : IsRowLine row ports line) (hbody : PrintsPorts more body)
      (h : PrintsRows rows lines) : PrintsRows (row :: rows) (line :: (body ++ lines))

/-- The lines of a report of the given table. -/
def PrintsTable (table : List VlanRow) (lines : List String) : Prop :=
  ∃ lead rows, lines = lead ++ rows ∧ (∀ line ∈ lead, IsHeading line) ∧ PrintsRows table rows

end

/-! ## Port columns -/

/-- A piece has the characters of its word, and whitespace. -/
lemma eq_or_space_of_strip {piece word : String} (h : strip piece = word) :
    ∀ c ∈ piece.toList, isSpace c = true ∨ c ∈ word.toList := by
  obtain ⟨a, b, ha, hb, hpiece⟩ := exists_append_listStrip isSpace piece.toList
  rw [← toList_strip, h] at hpiece
  intro c hc
  rw [hpiece, List.mem_append, List.mem_append] at hc
  rcases hc with (hc | hc) | hc
  · exact Or.inl (ha c hc)
  · exact Or.inr hc
  · exact Or.inl (hb c hc)

/-- A piece of a port column consists of white space and characters of port names. -/
lemma PortPieces.chars {ports : List DevicePort} {pieces : List String}
    (h : PortPieces ports pieces) :
    ∀ piece ∈ pieces, ∀ c ∈ piece.toList, isSpace c = true ∨ isPortChar c = true := by
  induction h with
  | nil => simp
  | blank hpiece _ ih =>
    rw [List.forall_mem_cons]
    refine ⟨fun c hc => ?_, ih⟩
    rcases eq_or_space_of_strip hpiece c hc with hspace | hword
    · exact Or.inl hspace
    · cases hword
  | port hpiece _ ih =>
    rw [List.forall_mem_cons]
    refine ⟨fun c hc => ?_, ih⟩
    exact (eq_or_space_of_strip hpiece c hc).imp_right isPortChar_of_mem_spell

/-- The pieces of a port list have no commas. -/
lemma PortPieces.not_comma {ports : List DevicePort} {pieces : List String}
    (h : PortPieces ports pieces) : ∀ piece ∈ pieces, ',' ∉ piece.toList := by
  intro piece hpiece hc
  rcases h.chars piece hpiece _ hc with hspace | hport
  · exact absurd hspace (by decide)
  · exact absurd hport (by decide)

/-- The pieces of a port column are found at its commas. -/
lemma splitAt_intercalate {pieces : List String} (hne : pieces ≠ [])
    (h : ∀ piece ∈ pieces, ',' ∉ piece.toList) : splitAt ',' (",".intercalate pieces) = pieces := by
  rw [splitAt, String.toList_intercalate, show ",".toList = [','] from rfl, List.splitOn,
    splitOnP_intercalate (by simp) (by simpa)]
  · simp [Function.comp_def]
  · intro l hl c hc
    obtain ⟨piece, hpiece, rfl⟩ := List.mem_map.mp hl
    simp only [beq_eq_false_iff_ne]
    rintro rfl
    exact h piece hpiece hc

/-- A port column is split into the ports it lists. -/
lemma splitPorts_of_isPortColumn {ports : List DevicePort} {column : String}
    (h : IsPortColumn ports column) : splitPorts column = ports.map (·.spell .short) := by
  obtain ⟨pieces, rfl, hpieces⟩ := h
  have hcomma := hpieces.not_comma
  have hports : (pieces.map strip).filter (· ≠ "") = ports.map (·.spell .short) := by
    induction hpieces with
    | nil => rfl
    | blank hpiece _ ih =>
      rw [List.map_cons, hpiece, List.filter_cons_of_neg (by simp)]
      exact ih fun piece hmem => hcomma piece (List.mem_cons_of_mem _ hmem)
    | @port port ports piece pieces hpiece _ ih =>
      have hne : port.spell .short ≠ "" := by
        intro hnil
        exact (isWord_spell port .short).1 (by rw [hnil]; rfl)
      rw [List.map_cons, hpiece, List.filter_cons_of_pos (by simpa using hne), List.map_cons,
        ih fun piece hmem => hcomma piece (List.mem_cons_of_mem _ hmem)]
  cases pieces with
  | nil => exact hports
  | cons piece pieces => rw [splitPorts, splitAt_intercalate (by simp) hcomma, hports]

/-- A column is its first piece, and what is behind the comma. -/
lemma toList_column (piece : String) (pieces : List String) :
    ∃ tail, (",".intercalate (piece :: pieces)).toList = piece.toList ++ tail ∧
      (tail = [] ∨ ∃ more, tail = ',' :: more) := by
  cases pieces with
  | nil => exact ⟨[], by simp, Or.inl rfl⟩
  | cons next pieces =>
    refine ⟨',' :: (",".intercalate (next :: pieces)).toList, ?_, Or.inr ⟨_, rfl⟩⟩
    simp [String.toList_intercalate]

/-- What a port column that is no white space at its front begins with. -/
lemma IsPortColumn.front {ports : List DevicePort} {column : String}
    (h : IsPortColumn ports column) (hhead : ∀ c ∈ column.toList.head?, isSpace c = false) :
    column = "" ∨ (∃ more, column.toList = ',' :: more) ∨
      ∃ port more, column.toList = (DevicePort.spell port .short).toList ++ more := by
  obtain ⟨pieces, rfl, hpieces⟩ := h
  cases hpieces with
  | nil => exact Or.inl rfl
  | @blank ports piece pieces hpiece _ =>
    obtain ⟨tail, hcolumn, htail⟩ := toList_column piece pieces
    rw [hcolumn] at hhead
    have hnil : piece.toList = [] := by
      rw [List.eq_nil_iff_forall_not_mem]
      intro c hc
      obtain ⟨d, ds, hd⟩ := List.exists_cons_of_ne_nil (List.ne_nil_of_mem hc)
      have hspace := eq_or_space_of_strip hpiece d (by rw [hd]; simp)
      have hnot := hhead d (by rw [hd]; rfl)
      rw [hnot] at hspace
      rcases hspace with hspace | hspace
      · cases hspace
      · cases hspace
    rw [hnil, List.nil_append] at hcolumn
    rcases htail with rfl | htail
    · exact Or.inl (String.toList_inj.mp hcolumn)
    · rw [hcolumn]
      exact Or.inr (Or.inl htail)
  | @port port ports piece pieces hpiece _ =>
    obtain ⟨tail, hcolumn, -⟩ := toList_column piece pieces
    obtain ⟨a, b, ha, -, hab⟩ := exists_append_listStrip isSpace piece.toList
    rw [← toList_strip, hpiece] at hab
    rw [hcolumn, hab] at hhead
    cases a with
    | nil => exact Or.inr (Or.inr ⟨port, b ++ tail, by rw [hcolumn, hab]; simp⟩)
    | cons c a =>
      have hspace := ha c (by simp)
      rw [hhead c rfl] at hspace
      cases hspace

section

variable [UnicodeDatabase]

/-- A port's name is no header of the table, whatever stands behind it. -/
lemma not_header_spell (port : DevicePort) (more : List Char) :
    ¬"vlan ".toList <+: lowerFrom [] ((port.spell .short).toList ++ more) := by
  obtain ⟨d, ds, hnumber, hd⟩ : ∃ d ds, port.number.toList = d :: ds ∧ d.isDigit = true := by
    obtain ⟨hany, -⟩ := port.isPortNumber
    cases hnumber : port.number.toList with
    | nil =>
      rw [hnumber] at hany
      cases hany
    | cons d ds =>
      rw [hnumber] at hany
      exact ⟨d, ds, rfl, hany⟩
  have hlower : d.toLower = d := by
    apply Char.toNat_inj.mp
    rw [isDigit_iff] at hd
    rw [toNat_toLower, if_neg (by omega)]
  have hname : isNameChar d = false := port.isPortNumber.not_name d (by rw [hnumber]; rfl)
  have hdigit : (isNameChar d.toLower || d.toLower == ' ') = false := by
    rw [hlower, hname, Bool.false_or, beq_eq_false_iff_ne]
    rintro rfl
    exact absurd hd (by decide)
  have hascii : ∀ c ∈ (port.family.spell .short).toList ++ [d], c.toNat < 128 := by
    intro c hc
    have hmem : c ∈ (port.spell .short).toList := by
      rw [DevicePort.spell, String.toList_append, hnumber]
      rcases List.mem_append.mp hc with hc | hc
      · exact List.mem_append_left _ hc
      · exact List.mem_append_right _ (by simp [List.mem_singleton.mp hc])
    have hbounds := toNat_of_mem_spell hmem
    omega
  obtain ⟨before, happend⟩ := lowerFrom_ascii_append [] hascii (ds ++ more)
  have htext : (port.spell .short).toList ++ more =
      (port.family.spell .short).toList ++ [d] ++ (ds ++ more) := by
    rw [DevicePort.spell, String.toList_append, hnumber]
    simp
  rw [htext, happend, List.map_append, List.append_assoc]
  intro hprefix
  have hshort := (prefix_append_iff (p := fun c => isNameChar c || c == ' ') (by decide)
    (by simpa using hdigit)).mp hprefix
  have hblank : ' ' ∈ (port.family.spell .short).toList.map Char.toLower := hshort.subset (by decide)
  obtain ⟨c, hc, hblank⟩ := List.mem_map.mp hblank
  have hc := isNameChar_toLower (isFamilyName_spell port.family .short c hc)
  rw [hblank] at hc
  exact absurd hc (by decide)

/-- The lines a port column stands on are no headings. -/
lemma IsPortColumn.not_isHeading {ports : List DevicePort} {line : String}
    (h : IsPortColumn ports (strip line)) (hne : strip line ≠ "") : ¬IsHeading line := by
  have hhead : ∀ c ∈ (strip line).toList.head?, isSpace c = false := by
    intro c hc
    rw [toList_strip] at hc
    exact head?_listStrip hc
  rintro (hempty | hrule | hheader)
  · exact hne hempty
  · rw [startswith, List.isPrefixOf_iff_prefix] at hrule
    obtain ⟨rest, hrest⟩ := hrule
    rcases h.front hhead with hempty | ⟨more, hmore⟩ | ⟨port, more, hmore⟩
    · exact hne hempty
    · rw [hmore] at hrest
      cases hrest
    · have hfirst : ∀ family : InterfaceFamily, ∀ rest' more' : List Char,
          '-' :: rest' ≠ (family.spell .short).toList ++ more' := by
        intro family rest' more' heq
        cases family <;> cases heq
      rw [hmore, DevicePort.spell, String.toList_append, List.append_assoc] at hrest
      exact hfirst _ _ _ hrest
  · rw [startswith, List.isPrefixOf_iff_prefix, toList_lower] at hheader
    rcases h.front hhead with hempty | ⟨more, hmore⟩ | ⟨port, more, hmore⟩
    · exact hne hempty
    · rw [hmore, lowerFrom, if_neg (by decide), lowerMap_ascii _ (by decide)] at hheader
      obtain ⟨rest, hrest⟩ := hheader
      cases hrest
    · rw [hmore] at hheader
      exact not_header_spell port more hheader

omit [UnicodeDatabase] in
/-- The pattern of a continuation matches every port column. -/
lemma IsPortColumn.fullmatch {ports : List DevicePort} {column : String}
    (h : IsPortColumn ports column) (hne : column ≠ "") :
    portListPattern.fullmatch column = some [] := by
  apply Pattern.fullmatch_of_prefers
  suffices hall : portListPattern.Prefers (column.toList ++ []) [] [] by
    rwa [List.append_nil] at hall
  refine Pattern.prefers_plus_char (by simpa using hne) (fun c hc => ?_) (by simp)
  · obtain ⟨pieces, rfl, hpieces⟩ := h
    rw [String.toList_intercalate] at hc
    rcases mem_of_mem_intercalate hc with rfl | ⟨l, hl, hc⟩
    · decide
    · obtain ⟨piece, hpiece, rfl⟩ := List.mem_map.mp hl
      have hchar := hpieces.chars piece hpiece c hc
      simp only [isPortChar, Bool.or_eq_true] at hchar ⊢
      tauto

/-! ## The loop as a reader of blocks -/

/-- The ports of a line put behind those of the VLAN above. -/
def VlanFacts.withPorts (previous : VlanFacts) (ports : List String) : VlanFacts :=
  { previous with ports := previous.ports ++ ports }

/-- What a line does to the VLAN above it. -/
def vlanAction (line : String) : LineAction VlanFacts :=
  let stripped := strip line
  if stripped = "" ∨ startswith stripped "-" ∨ startswith (lower stripped) "vlan " then .skips
  else
    match vlanRowPattern.match (rstrip line) with
    | some found => .begins (vlanOfRow found)
    | none =>
      if (portListPattern.fullmatch stripped).isSome then
        .grows fun previous => previous.withPorts (splitPorts stripped)
      else .skips

/-- The loop reads blocks, the last VLAN being the open one. -/
lemma foldl_readVlanLine (vlans : List VlanFacts) (lines : List String) :
    lines.foldl readVlanLine vlans =
      vlans.dropLast ++ Blocks.read vlanAction vlans.getLast? lines := by
  induction lines generalizing vlans with
  | nil =>
    rcases List.eq_nil_or_concat vlans with rfl | ⟨front, last, rfl⟩
    · rfl
    · simp [Blocks.read]
  | cons line lines ih =>
    rw [List.foldl_cons, ih, Blocks.read, readVlanLine, vlanAction]
    generalize vlanRowPattern.match (rstrip line) = found
    generalize (portListPattern.fullmatch (strip line)).isSome = fits
    generalize splitPorts (strip line) = ports
    split
    · rfl
    · cases found with
      | some found =>
        rcases List.eq_nil_or_concat vlans with rfl | ⟨front, last, rfl⟩ <;> simp
      | none =>
        rcases List.eq_nil_or_concat vlans with rfl | ⟨front, last, rfl⟩ <;> cases fits <;>
          simp [VlanFacts.withPorts]

/-! ## Rows -/

/-- Whitespace is no digit. -/
lemma not_digit_of_isSpace {c : Char} (h : isSpace c = true) : (decimal c).isSome = false := by
  cases hc : decimal c with
  | none => rfl
  | some d =>
    have hnot := decimal_not_space c (by rw [hc]; exact nofun)
    rw [h] at hnot
    cases hnot

/-- One to four digits in front of white space are the id of a row. -/
lemma prefers_vlanId {n : ℕ} (hn : n ≤ 4094) {rest : List Char}
    (hrest : ∀ c ∈ rest.head?, isSpace c = true) :
    (Pattern.between digit 1 4).Prefers ((str n).toList ++ rest) [] rest := by
  have hdigits : (str n).toList = Nat.toDigits 10 n := Nat.toList_repr
  have hlength : (Nat.toDigits 10 n).length ≤ 4 :=
    (Nat.length_toDigits_le_iff (by decide) (by decide)).mpr (by omega)
  rw [hdigits]
  refine Pattern.prefers_between_char (fun c hc => ?_) Nat.length_toDigits_pos hlength
    fun c hc => not_digit_of_isSpace (hrest c hc)
  have hd := Nat.isDigit_of_mem_toDigits (by decide) (by decide) hc
  rw [decimal_ascii c (by rw [isDigit_iff] at hd; omega), hd]
  rfl

omit [UnicodeDatabase] in
/-- Whitespace is preferred whole in front of what is none. -/
lemma prefers_blanks {gap rest : List Char} (hgap : gap ≠ [])
    (hspace : ∀ c ∈ gap, isSpace c = true) (hrest : ∀ c ∈ rest.head?, isSpace c = false) :
    (Pattern.plus (.char isSpace)).Prefers (gap ++ rest) [] rest :=
  Pattern.prefers_plus_char hgap hspace hrest

omit [UnicodeDatabase] in
/-- A word is preferred whole in front of whitespace. -/
lemma prefers_word {word : String} (hword : IsWord word) {rest : List Char}
    (hrest : ∀ c ∈ rest.head?, isSpace c = true) :
    (Pattern.plus (.char fun c => !isSpace c)).Prefers (word.toList ++ rest) [] rest := by
  refine Pattern.prefers_plus_char hword.1 (fun c hc => ?_) fun c hc => ?_
  · rw [hword.2 c hc]
    rfl
  · rw [hrest c hc]
    rfl

omit [UnicodeDatabase] in
/-- A gap begins with whitespace. -/
lemma head_append_of_isSpace {gap : String} (hgap : gap ≠ "" ∧ strip gap = "") (l : List Char) :
    (gap.toList ≠ [] ∧ ∀ c ∈ gap.toList, isSpace c = true) ∧
      ∀ c ∈ (gap.toList ++ l).head?, isSpace c = true := by
  have hne : gap.toList ≠ [] := by simpa using hgap.1
  have hspace : ∀ c ∈ gap.toList, isSpace c = true := by
    have hstrip := congrArg String.toList hgap.2
    rw [toList_strip] at hstrip
    exact listStrip_eq_nil_iff.mp hstrip
  refine ⟨⟨hne, hspace⟩, fun c hc => ?_⟩
  rw [List.head?_append_of_ne_nil _ hne] at hc
  exact hspace c (List.mem_of_mem_head? hc)

omit [UnicodeDatabase] in
/-- A word does not begin with whitespace. -/
lemma head_append_of_isWord {word : String} (hword : IsWord word) (l : List Char) :
    ∀ c ∈ (word.toList ++ l).head?, isSpace c = false := by
  intro c hc
  rw [List.head?_append_of_ne_nil _ hword.1] at hc
  exact hword.2 c (List.mem_of_mem_head? hc)

omit [UnicodeDatabase] in
/-- Behind a word, the stripped end of a line is white space and the stripped column. -/
lemma rstrip_append_word {word : String} (hword : IsWord word) (front rest : String) :
    ∃ gap, (∀ c ∈ gap, isSpace c = true) ∧ gap ++ (strip rest).toList <+: rest.toList ∧
      (rstrip (front ++ word ++ rest)).toList =
        front.toList ++ (word.toList ++ (gap ++ (strip rest).toList)) := by
  obtain ⟨gap, hgap, hrest, -⟩ := exists_listRstrip isSpace rest.toList
  have hlast : ∀ c ∈ (front.toList ++ word.toList).getLast?, isSpace c = false := by
    intro c hc
    rw [List.getLast?_append_of_ne_nil _ hword.1] at hc
    exact hword.2 c (List.mem_of_getLast? hc)
  refine ⟨gap, hgap, ?_, ?_⟩
  · rw [toList_strip, ← hrest]
    exact List.rdropWhile_prefix _ _
  · rw [rstrip, String.toList_ofList, String.toList_append, String.toList_append,
      listRstrip_append_of_getLast hlast, hrest, toList_strip, List.append_assoc]

/-- The line that begins a row is matched as the row with the port column of the line. -/
lemma match_rowLine {row : VlanRow} {ports : List DevicePort} {line : String}
    (h : IsRowLine row ports line) (hline : OneLine line) :
    ∃ column, IsPortColumn ports column ∧ vlanRowPattern.match (rstrip line) =
      some [("id", str row.vlanId), ("name", row.name), ("status", row.status),
        ("ports", column)] := by
  obtain ⟨gap, gap', rest, rfl, hgap, hgap', hrest, hports⟩ := h
  obtain ⟨space, hspace, hprefix, hrstrip⟩ := rstrip_append_word row.status_word
    (str row.vlanId ++ gap ++ row.name ++ gap') rest
  have htail : ∀ c ∈ (space ++ (strip rest).toList).head?, isSpace c = true := by
    intro c hc
    obtain ⟨more, hmore⟩ := hprefix
    refine hrest c ?_
    rw [← hmore, Option.mem_def, List.head?_append, Option.mem_def.mp hc]
    rfl
  have hcolumn : ∀ c ∈ (strip rest).toList, (c != '\n') = true := by
    intro c hc
    rw [toList_strip] at hc
    have hbreak := hline c (by
      rw [String.toList_append]
      exact List.mem_append_right _ (mem_of_mem_listStrip hc))
    rw [bne_iff_ne]
    rintro rfl
    exact absurd hbreak (by decide)
  have hstart : ∀ c ∈ (strip rest).toList.head?, isSpace c = false := by
    intro c hc
    rw [toList_strip] at hc
    exact head?_listStrip hc
  have hportsGroup : (Pattern.group "ports" (.star (.char (· != '\n')))).Prefers
      ((strip rest).toList ++ []) [("ports", strip rest)] [] := by
    have hstar : (Pattern.star (.char (· != '\n'))).Prefers ((strip rest).toList ++ []) [] [] :=
      Pattern.prefers_star_char hcolumn (by simp)
    have hgroup := Pattern.prefers_group "ports" hstar
    rwa [List.nil_append, String.ofList_toList] at hgroup
  have hend := Pattern.prefers_seq hportsGroup Pattern.prefers_lineEnd
  have hblanks := Pattern.prefers_seq
    (Pattern.prefers_star_char hspace (by simpa using hstart)) hend
  have hstatus := Pattern.prefers_seq (Pattern.prefers_group "status"
    (prefers_word row.status_word (by simpa using htail))) hblanks
  have hgap'Head := head_append_of_isSpace hgap'
  have hgapHead := head_append_of_isSpace hgap
  have hgap'Blanks := Pattern.prefers_seq (prefers_blanks (hgap'Head []).1.1 (hgap'Head []).1.2
    (head_append_of_isWord row.status_word _)) hstatus
  have hname := Pattern.prefers_seq (Pattern.prefers_group "name"
    (prefers_word row.name_word (hgap'Head _).2)) hgap'Blanks
  have hgapBlanks := Pattern.prefers_seq (prefers_blanks (hgapHead []).1.1 (hgapHead []).1.2
    (head_append_of_isWord row.name_word _)) hname
  have hid := Pattern.prefers_seq (Pattern.prefers_group "id"
    (prefers_vlanId row.vlanId_range.2 (hgapHead _).2)) hgapBlanks
  have hmatch : vlanRowPattern.Prefers
      (rstrip (str row.vlanId ++ gap ++ row.name ++ gap' ++ row.status ++ rest)).toList
      [("id", str row.vlanId), ("name", row.name), ("status", row.status), ("ports", strip rest)]
      [] := by
    rw [hrstrip]
    simpa [vlanRowPattern] using hid
  exact ⟨strip rest, hports, Pattern.match_of_prefers hmatch⟩

omit [UnicodeDatabase] in
/-- A printed number begins with a digit. -/
lemma str_cons (n : ℕ) : ∃ c cs, (str n).toList = c :: cs ∧ c.isDigit = true := by
  have hdigits : (str n).toList = Nat.toDigits 10 n := Nat.toList_repr
  obtain ⟨c, cs, hcs⟩ := List.exists_cons_of_ne_nil (Nat.toDigits_ne_nil (n := n) (b := 10))
  refine ⟨c, cs, hdigits.trans hcs, ?_⟩
  exact Nat.isDigit_of_mem_toDigits (by decide) (by decide) (hcs ▸ List.mem_cons_self)

/-- The line that begins a row is no heading. -/
lemma IsRowLine.not_isHeading {row : VlanRow} {ports : List DevicePort} {line : String}
    (h : IsRowLine row ports line) : ¬IsHeading line := by
  obtain ⟨c, cs, hstr, hdigit⟩ := str_cons row.vlanId
  have hbounds := isDigit_iff.mp hdigit
  obtain ⟨more, hmore⟩ : ∃ more, (strip line).toList = c :: more := by
    obtain ⟨gap, gap', rest, rfl, -⟩ := h
    simp only [String.append_assoc]
    rw [strip_append_of_isWord (isWord_str _), String.toList_append, hstr]
    exact ⟨_, rfl⟩
  rintro (hempty | hrule | hheader)
  · rw [hempty] at hmore
    cases hmore
  · rw [startswith, List.isPrefixOf_iff_prefix, hmore] at hrule
    obtain ⟨rest, hrest⟩ := hrule
    obtain rfl : '-' = c := (List.cons.inj hrest).1
    exact absurd hdigit (by decide)
  · rw [startswith, List.isPrefixOf_iff_prefix, toList_lower, hmore] at hheader
    have hascii : ∀ d ∈ [c], d.toNat < 128 := by
      intro d hd
      rw [List.mem_singleton.mp hd]
      omega
    obtain ⟨before, happend⟩ := lowerFrom_ascii_append [] hascii more
    rw [List.singleton_append, List.map_singleton] at happend
    rw [happend] at hheader
    obtain ⟨rest, hrest⟩ := hheader
    have hv : 'v' = c.toLower := (List.cons.inj hrest).1
    have hnat := congrArg Char.toNat hv
    rw [toNat_toLower, if_neg (by omega)] at hnat
    have hv' : 'v'.toNat = 118 := rfl
    omega

/-- A heading is skipped. -/
lemma vlanAction_heading {line : String} (h : IsHeading line) : vlanAction line = .skips := by
  rw [vlanAction]
  exact if_pos h

/-- Another line than a heading is a row, or continues one. -/
lemma vlanAction_of_not_isHeading {line : String} (h : ¬IsHeading line) :
    vlanAction line =
      match vlanRowPattern.match (rstrip line) with
      | some found => .begins (vlanOfRow found)
      | none =>
        if (portListPattern.fullmatch (strip line)).isSome then
          .grows fun previous => previous.withPorts (splitPorts (strip line))
        else .skips := by
  rw [vlanAction]
  exact if_neg h

/-- What the line that begins a row does: it begins the VLAN with the ports of the line. -/
lemma vlanAction_rowLine {row : VlanRow} {ports : List DevicePort} {line : String}
    (h : IsRowLine row ports line) (hline : OneLine line) :
    vlanAction line = .begins { row.facts with ports := ports.map (·.spell .short) } := by
  obtain ⟨column, hcolumn, hmatch⟩ := match_rowLine h hline
  have hlength : (str row.vlanId).toList.length ≤ maxDigits := by
    have hdigits : (str row.vlanId).toList = Nat.toDigits 10 row.vlanId := Nat.toList_repr
    have hfour : (Nat.toDigits 10 row.vlanId).length ≤ 4 :=
      (Nat.length_toDigits_le_iff (by decide) (by decide)).mpr (by
        have hrange := row.vlanId_range.2
        omega)
    rw [hdigits, maxDigits]
    omega
  have hid : int (str row.vlanId) = some (row.vlanId : ℤ) :=
    int_of_numeral (numeral_str row.vlanId) hlength
  have hrow : vlanOfRow [("id", str row.vlanId), ("name", row.name), ("status", row.status),
      ("ports", column)] = { vlanId := (int (str row.vlanId)).getD 0, name := row.name
                             status := row.status, ports := splitPorts column } := rfl
  rw [hid, splitPorts_of_isPortColumn hcolumn] at hrow
  rw [vlanAction_of_not_isHeading h.not_isHeading, hmatch]
  exact congrArg LineAction.begins hrow

/-- An indented line does not begin a row. -/
lemma match_indented {line : String} (h : isIndented line = true) :
    vlanRowPattern.match (rstrip line) = none := by
  have hhead : ∀ c ∈ (rstrip line).toList.head?, (decimal c).isSome = false := by
    intro c hc
    have hline := mem_head_of_rstrip hc
    rw [isIndented, Option.mem_def.mp hline] at h
    exact not_digit_of_isSpace h
  have hnil : Pattern.results vlanRowPattern (rstrip line).toList = [] :=
    Pattern.results_seq_eq_nil (Pattern.results_group_eq_nil _ (Pattern.results_seq_eq_nil
      (Pattern.results_seq_eq_nil (Pattern.results_char_eq_nil hhead))))
  rw [Pattern.match, hnil]
  rfl

/-- An indented line with a port column adds its ports to the VLAN above. -/
lemma vlanAction_continuation {ports : List DevicePort} {line : String}
    (hindented : isIndented line = true) (hports : IsPortColumn ports (strip line)) :
    Blocks.Belongs vlanAction line ∧ ∀ previous, Blocks.grown vlanAction previous line =
      previous.withPorts (ports.map (·.spell .short)) := by
  have hsplit := splitPorts_of_isPortColumn hports
  by_cases hempty : strip line = ""
  · have hskips := vlanAction_heading (Or.inl hempty)
    rw [hempty] at hsplit
    have hnil : ports.map (·.spell .short) = [] := hsplit.symm
    refine ⟨Or.inl hskips, fun previous => ?_⟩
    rw [Blocks.grown, hskips, hnil]
    simp [VlanFacts.withPorts]
  · have hgrows : vlanAction line =
        .grows fun previous => previous.withPorts (ports.map (·.spell .short)) := by
      rw [vlanAction_of_not_isHeading (hports.not_isHeading hempty), match_indented hindented,
        hports.fullmatch hempty, hsplit]
      rfl
    refine ⟨Or.inr ⟨_, hgrows⟩, fun previous => ?_⟩
    rw [Blocks.grown, hgrows]

/-- The lines of a row behind its first belong to it, and add its other ports. -/
lemma PrintsPorts.grown {ports : List DevicePort} {lines : List String}
    (h : PrintsPorts ports lines) (first : VlanFacts) :
    (∀ line ∈ lines, Blocks.Belongs vlanAction line) ∧
      lines.foldl (Blocks.grown vlanAction) first = first.withPorts (ports.map (·.spell .short)) := by
  induction h generalizing first with
  | nil => simp [VlanFacts.withPorts]
  | heading hline _ ih =>
    have haction := vlanAction_heading hline
    rw [List.forall_mem_cons, List.foldl_cons, Blocks.grown, haction]
    exact ⟨⟨Or.inl haction, (ih first).1⟩, (ih first).2⟩
  | @continuation ports more line lines hindented hports _ ih =>
    obtain ⟨hbelongs, hgrown⟩ := vlanAction_continuation hindented hports
    rw [List.forall_mem_cons, List.foldl_cons, hgrown]
    refine ⟨⟨hbelongs, (ih first).1⟩, (ih _).2.trans ?_⟩
    simp [VlanFacts.withPorts]

/-- The lines that print rows are a report of these blocks. -/
lemma PrintsRows.prints {rows : List VlanRow} {lines : List String} (h : PrintsRows rows lines)
    (hlines : ∀ line ∈ lines, OneLine line) :
    Blocks.Prints vlanAction (rows.map VlanRow.facts) lines := by
  induction h with
  | nil => exact .nil
  | @cons row rows ports more line body lines hports hline hbody _ ih =>
    obtain ⟨hbelongs, hgrown⟩ :=
      hbody.grown { row.facts with ports := ports.map (·.spell .short) }
    have hfacts : VlanFacts.withPorts { row.facts with ports := ports.map (·.spell .short) }
        (more.map (·.spell .short)) = row.facts := by
      simp [VlanFacts.withPorts, VlanRow.facts, hports]
    have hgap : Blocks.Separates vlanAction [] := ⟨[], [], rfl, by simp, by simp, by simp⟩
    have hprints := Blocks.Prints.cons (vlanAction_rowLine hline (hlines line (by simp))) hbelongs
      hgap (ih fun line hmem => hlines line (by simp [hmem]))
    rw [hgrown, hfacts] at hprints
    exact hprints

/-- A report of a VLAN table is read as this table. -/
theorem parseShowVlanBrief_of_prints {output : String} {table : List VlanRow}
    (h : PrintsTable table (splitlines output)) :
    parseShowVlanBrief output = table.map VlanRow.facts := by
  obtain ⟨lead, rows, hlines, hlead, hrows⟩ := h
  have hone : ∀ line ∈ rows, OneLine line := fun line hline =>
    oneLine_of_mem_splitlines (hlines ▸ List.mem_append_right lead hline)
  rw [parseShowVlanBrief, foldl_readVlanLine, hlines]
  have hskips := Blocks.read_skips (fun line hline => vlanAction_heading (hlead line hline)) none rows
  exact hskips.trans (Blocks.read_of_prints (hrows.prints hone))

/-! ## Looking ports up -/

/-- A table is read back: the report gives its rows, and each spelling of a port finds the row that
lists the port. -/
def ReadsTable (table : List VlanRow) (output : String) : Prop :=
  parseShowVlanBrief output = table.map VlanRow.facts ∧
    ∀ (port : DevicePort) (spelling : Spelling),
      ({ vlans := parseShowVlanBrief output } : ChangeContext).accessVlanOf (port.spell spelling) =
        (table.find? fun row => port ∈ row.ports).map VlanRow.facts

/-- The row that is found for a spelling of a port. -/
lemma accessVlanOf_spell (table : List VlanRow) (port : DevicePort) (spelling : Spelling) :
    ({ vlans := table.map VlanRow.facts } : ChangeContext).accessVlanOf (port.spell spelling) =
      (table.find? fun row => port ∈ row.ports ∧
        (spelling = .short ∨ port.family.Tabled)).map VlanRow.facts := by
  rw [ChangeContext.accessVlanOf, List.find?_map]
  congr 1
  refine List.find?_congr fun row _ => ?_
  rw [Bool.eq_iff_iff, Function.comp_apply, VlanRow.facts, List.any_map, List.any_eq_true,
    decide_eq_true_iff]
  simp only [Function.comp_apply, sameInterface_spell]
  constructor
  · rintro ⟨port', hmem, rfl, h⟩
    exact ⟨hmem, h.imp_left Eq.symm⟩
  · rintro ⟨hmem, h⟩
    exact ⟨port, hmem, rfl, h.imp_left Eq.symm⟩

/-- A table is read back exactly when the driver's table of abbreviations spells the families of
all ports it lists. -/
theorem readsTable_iff {output : String} {table : List VlanRow}
    (h : PrintsTable table (splitlines output)) :
    ReadsTable table output ↔ ∀ row ∈ table, ∀ port ∈ row.ports, port.family.Tabled := by
  have hparse := parseShowVlanBrief_of_prints h
  rw [ReadsTable, hparse]
  constructor
  · rintro ⟨-, hfind⟩ row hrow port hport
    by_contra hnot
    have hfull := hfind port .full
    rw [accessVlanOf_spell] at hfull
    have hnone : (table.find? fun row => port ∈ row.ports ∧
        (Spelling.full = .short ∨ port.family.Tabled)) = none :=
      List.find?_eq_none.mpr fun _ _ => by simp [hnot]
    rw [hnone, Option.map_none, eq_comm, Option.map_eq_none_iff, List.find?_eq_none] at hfull
    exact hfull row hrow (by simpa using hport)
  · intro htabled
    refine ⟨rfl, fun port spelling => ?_⟩
    rw [accessVlanOf_spell]
    congr 1
    refine List.find?_congr fun row hrow => ?_
    rw [Bool.eq_iff_iff, decide_eq_true_iff, decide_eq_true_iff]
    exact ⟨And.left, fun hport => ⟨hport, Or.inr (htabled row hrow port hport)⟩⟩

end

/-- Two VLANs, the first with its ports on two lines. -/
def sampleTable : List VlanRow :=
  [⟨10, "USERS", "active", [⟨.gigabitEthernet, "1/0/1", by decide⟩, ⟨.portChannel, "1", by decide⟩,
      ⟨.tenGigabitEthernet, "1/1/1", by decide⟩], by decide, by decide, by decide⟩,
    ⟨20, "VOICE", "act/lshut", [], by decide, by decide, by decide⟩]

/-- The lines of the sample table. -/
def sampleTableLines : List String :=
  ["VLAN Name      Status    Ports", "---- --------- --------- ------------",
    "10   USERS     active    Gi1/0/1, Po1,", "                         Te1/1/1",
    "20   VOICE     act/lshut"]

/-- The sample table is read. -/
theorem readsTable_sampleTable :
    letI := asciiDatabase
    ReadsTable sampleTable (joinLines sampleTableLines) := by
  let _ := asciiDatabase
  have hsplit : splitlines (joinLines sampleTableLines) = sampleTableLines :=
    splitlines_joinLines (by decide) (by decide)
  have hports : IsPortColumn [⟨.gigabitEthernet, "1/0/1", by decide⟩, ⟨.portChannel, "1", by decide⟩]
      (strip "    Gi1/0/1, Po1,") :=
    ⟨["Gi1/0/1", " Po1", ""], by decide,
      .port (by decide) (.port (by decide) (.blank (by decide) .nil))⟩
  have hmore : IsPortColumn [⟨.tenGigabitEthernet, "1/1/1", by decide⟩]
      (strip "                         Te1/1/1") :=
    ⟨["Te1/1/1"], by decide, .port (by decide) .nil⟩
  have hvoiceLine : IsRowLine ⟨20, "VOICE", "act/lshut", [], by decide, by decide, by decide⟩ []
      "20   VOICE     act/lshut" :=
    ⟨"   ", "     ", "", by decide, by decide, by decide, by simp, [], by decide, .nil⟩
  have husersLine : IsRowLine (sampleTable.head (by decide))
      [⟨.gigabitEthernet, "1/0/1", by decide⟩, ⟨.portChannel, "1", by decide⟩]
      "10   USERS     active    Gi1/0/1, Po1," :=
    ⟨"   ", "     ", "    Gi1/0/1, Po1,", by decide, by decide, by decide, by simp; decide, hports⟩
  have hvoice := PrintsRows.cons rfl hvoiceLine .nil .nil
  have hrows := PrintsRows.cons rfl husersLine (.continuation (by decide) hmore .nil) hvoice
  have hlead : ∀ line ∈ sampleTableLines.take 2, IsHeading line := by
    intro line hline
    simp only [sampleTableLines, List.take_succ_cons, List.take_zero, List.mem_cons,
      List.not_mem_nil, or_false] at hline
    rcases hline with rfl | rfl
    · exact Or.inr (Or.inr (by decide))
    · exact Or.inr (Or.inl (by decide))
  have hprints : PrintsTable sampleTable (splitlines (joinLines sampleTableLines)) := by
    rw [hsplit]
    exact ⟨sampleTableLines.take 2, _, rfl, hlead, hrows⟩
  exact (readsTable_iff hprints).mpr (by decide)

/-- A VLAN with a multigigabit port. -/
def multigigabitTable : List VlanRow :=
  [⟨20, "USERS", "active", [⟨.twoGigabitEthernet, "1/0/1", by decide⟩], by decide, by decide,
    by decide⟩]

/-- The port is listed as `Tw1/0/1`, and asked for as `TwoGigabitEthernet1/0/1`. -/
theorem not_readsTable_multigigabitTable :
    letI := asciiDatabase
    PrintsTable multigigabitTable (splitlines "20   USERS     active    Tw1/0/1") ∧
      ¬ReadsTable multigigabitTable "20   USERS     active    Tw1/0/1" := by
  let _ := asciiDatabase
  have hline : IsRowLine (multigigabitTable.head (by decide))
      [⟨.twoGigabitEthernet, "1/0/1", by decide⟩] "20   USERS     active    Tw1/0/1" :=
    ⟨"   ", "     ", "    Tw1/0/1", by decide, by decide, by decide, by simp; decide,
      ["Tw1/0/1"], by decide, .port (by decide) .nil⟩
  have hsplit : splitlines "20   USERS     active    Tw1/0/1" =
      ["20   USERS     active    Tw1/0/1"] := by decide
  refine ⟨?_, fun hreads => ?_⟩
  · rw [hsplit]
    exact ⟨[], _, rfl, by simp, .cons rfl hline .nil .nil⟩
  · have hfull := hreads.2 ⟨.twoGigabitEthernet, "1/0/1", by decide⟩ .full
    rw [hreads.1, accessVlanOf_spell] at hfull
    exact absurd hfull (by decide)

end Terraformer
