import Terraformer.Blocks
import Terraformer.Text.Lines
import Terraformer.Text.Pattern
import Terraformer.Drivers.Base

/-!
# Parsing switchports

`parse_show_interfaces_switchport` reads `show interfaces switchport` into one record for each
port.  Its loop keeps the fields of the open block and the label a line without one continues.  A
report that prints given ports, with other labelled lines between their fields and the list of
allowed VLANs wrapped onto lines without a label, is read as these ports
(`parseShowInterfacesSwitchport_of_prints`).
-/

namespace Terraformer

open Text UnicodeDatabase

/-- A letter or digit of ASCII, a blank, a parenthesis, a dot, a slash or a hyphen. -/
def isLabelChar (c : Char) : Bool :=
  c.isAlphanum || c == ' ' || c == '(' || c == ')' || c == '.' || c == '/' || c == '-'

/-- `_SWITCHPORT_FIELD`: a letter, lazily more characters of a label, a colon, white space and the
value.  No character of a label is a colon, so the lazy repetition takes what a greedy one takes. -/
def switchportField : Pattern :=
  .seq (.group "label" (.seq (.char Char.isAlpha) (.star (.char isLabelChar))))
    (.seq (.literal ":") (.seq (.star (.char isSpace))
      (.seq (.group "value" (.star (.char (· != '\n')))) .lineEnd)))

section

variable [UnicodeDatabase]

/-- `_leading_vlan_id`; the outer `none` is the `ValueError` of a number `int` does not convert. -/
def leadingVlanId (value : String) : Option (Option ℤ) :=
  match (Pattern.group "1" (.plus digit)).match (strip value) with
  | some found => (int ((Pattern.captured found "1").getD "")).map some
  | none => some none

/-- The fields of a block, the last one read first. -/
abbrev SwitchportFields := List (String × String)

/-- `flush`: the record of the fields, when they have a name. -/
def flushSwitchport (fields : SwitchportFields) : Option (List SwitchportFacts) :=
  let name := (fields.lookup "Name").getD ""
  if name = "" then some []
  else do
    let accessVlan ← leadingVlanId ((fields.lookup "Access Mode VLAN").getD "")
    let nativeVlan ← leadingVlanId ((fields.lookup "Trunking Native Mode VLAN").getD "")
    return [{
      name
      mode := (fields.lookup "Administrative Mode").getD ""
      accessVlan
      nativeVlan
      trunkAllowed := (fields.lookup "Trunking VLANs Enabled").filter (· ≠ "")
      trunkEncapsulation := (fields.lookup "Administrative Trunking Encapsulation").filter (· ≠ "") }]

/-- The fields of the open block, and the label of the last line that had one. -/
structure SwitchportBlock where
  fields : SwitchportFields := []
  lastLabel : Option String := none
  deriving DecidableEq, Repr

/-- A line without a label continues the value of the last label. -/
def SwitchportBlock.continueLast (block : SwitchportBlock) (line : String) : SwitchportBlock :=
  match block.lastLabel with
  | some label =>
    { block with fields := (label, (block.fields.lookup label).getD "" ++ line) :: block.fields }
  | none => block

/-- One line of the loop, with the records and the block before it. -/
def readSwitchportLine (state : List SwitchportFacts × SwitchportBlock) (raw : String) :
    Option (List SwitchportFacts × SwitchportBlock) :=
  let (ports, block) := state
  let line := strip raw
  if line = "" then some state
  else
    match switchportField.match line with
    | none => some (ports, block.continueLast line)
    | some found => do
      let label := strip ((Pattern.captured found "label").getD "")
      let value := strip ((Pattern.captured found "value").getD "")
      if label = "Name" then
        return (ports ++ (← flushSwitchport block.fields), ⟨[(label, value)], some label⟩)
      else return (ports, ⟨(label, value) :: block.fields, some label⟩)

/-- `parse_show_interfaces_switchport`. -/
def parseShowInterfacesSwitchport (output : String) : Option (List SwitchportFacts) := do
  let (ports, block) ← (splitlines output).foldlM readSwitchportLine ([], {})
  return ports ++ (← flushSwitchport block.fields)

end

/-! ## What the device prints -/

/-- The labels of the fields a record has, but for its name. -/
def fieldLabels : List String :=
  ["Administrative Mode", "Access Mode VLAN", "Trunking Native Mode VLAN",
    "Trunking VLANs Enabled", "Administrative Trunking Encapsulation"]

/-- A label begins with a letter, and holds no colon. -/
def IsLabel (label : String) : Prop :=
  label.toList.head?.any Char.isAlpha = true ∧ (∀ c ∈ label.toList, isLabelChar c = true) ∧
    strip label = label

/-- Whether a text is a label can be decided. -/
instance (label : String) : Decidable (IsLabel label) :=
  inferInstanceAs (Decidable (_ ∧ (∀ c ∈ label.toList, _) ∧ _))

/-- A line that gives the value of a label. -/
def IsField (label value line : String) : Prop :=
  IsLabel label ∧ strip value = value ∧
    ∃ gap, strip gap = "" ∧ strip line = label ++ ":" ++ gap ++ value

/-- A piece of a list of VLANs, as it stands on a line without a label. -/
def IsFragment (text : String) : Prop :=
  text ≠ "" ∧ ∀ c ∈ text.toList, (c.isDigit || c == ',' || c == '-') = true

/-- The lines of a block behind its name, with the fields they give: each label of a record at most
once, other labelled lines and blank lines anywhere, and the allowed VLANs with the lines they are
wrapped onto. -/
inductive PrintsFields : SwitchportFields → List String → Prop
  | nil : PrintsFields [] []
  | blank {known : SwitchportFields} {line : String} {lines : List String}
      (hline : strip line = "") (h : PrintsFields known lines) : PrintsFields known (line :: lines)
  | other {known : SwitchportFields} {label value line : String} {lines : List String}
      (hline : IsField label value line) (hlabel : label ≠ "Name" ∧ label ∉ fieldLabels)
      (h : PrintsFields known lines) : PrintsFields known (line :: lines)
  | field {known : SwitchportFields} {label value line : String} {lines wrapped : List String}
      (hline : IsField label value line) (hlabel : label ∈ fieldLabels)
      (hnew : known.lookup label = none)
      (hwrapped : ∀ fragment ∈ wrapped, IsFragment (strip fragment))
      (hallowed : wrapped ≠ [] → label = "Trunking VLANs Enabled")
      (h : PrintsFields known lines) :
      PrintsFields ((label, value ++ String.join (wrapped.map strip)) :: known)
        (line :: (wrapped ++ lines))

section

variable [UnicodeDatabase]

/-- How a VLAN is printed: by its number, with anything behind it that is no digit, or without one
when there is none. -/
def PrintsVlan : Option ℤ → Option String → Prop
  | none, text => ∀ value ∈ text, ∀ c ∈ (strip value).toList.head?, decimal c = none
  | some n, text => ∃ id : ℕ, n = id ∧ id ≤ 4094 ∧ ∃ rest, text = some (str id ++ rest) ∧
      ∀ c ∈ rest.toList.head?, decimal c = none

/-- The fields give the record. -/
structure Describes (known : SwitchportFields) (port : SwitchportFacts) : Prop where
  mode : known.lookup "Administrative Mode" = some port.mode
  accessVlan : PrintsVlan port.accessVlan (known.lookup "Access Mode VLAN")
  nativeVlan : PrintsVlan port.nativeVlan (known.lookup "Trunking Native Mode VLAN")
  trunkAllowed : known.lookup "Trunking VLANs Enabled" = port.trunkAllowed
  trunkEncapsulation :
    known.lookup "Administrative Trunking Encapsulation" = port.trunkEncapsulation
  not_empty : port.trunkAllowed ≠ some "" ∧ port.trunkEncapsulation ≠ some ""

/-- The lines that print the given ports, from the first name on. -/
inductive PrintsPortBlocks : List SwitchportFacts → List String → Prop
  | nil : PrintsPortBlocks [] []
  | cons {port : SwitchportFacts} {ports : List SwitchportFacts} {known : SwitchportFields}
      {line : String} {body lines : List String} (hname : port.name ≠ "")
      (hline : IsField "Name" port.name line) (hbody : PrintsFields known body)
      (hport : Describes known port) (h : PrintsPortBlocks ports lines) :
      PrintsPortBlocks (port :: ports) (line :: (body ++ lines))

/-- The lines of a report of the given ports. -/
def PrintsSwitchports (ports : List SwitchportFacts) (lines : List String) : Prop :=
  ∃ lead blocks, lines = lead ++ blocks ∧ (∀ line ∈ lead, strip line = "") ∧
    PrintsPortBlocks ports blocks

end

/-! ## Lines with and without a label -/

/-- A labelled line is matched as its label and its value. -/
lemma match_isField {label value line : String} (h : IsField label value line)
    (hone : OneLine (strip line)) :
    switchportField.match (strip line) = some [("label", label), ("value", value)] := by
  obtain ⟨⟨hhead, hchars, -⟩, hvalue, gap, hgap, hline⟩ := h
  have hspace : ∀ c ∈ gap.toList, isSpace c = true := by
    have hnil := congrArg String.toList hgap
    rw [toList_strip] at hnil
    exact listStrip_eq_nil_iff.mp hnil
  have hstart : ∀ c ∈ value.toList.head?, isSpace c = false := by
    intro c hc
    rw [← hvalue, toList_strip] at hc
    exact head?_listStrip hc
  have hnewline : ∀ c ∈ value.toList, (c != '\n') = true := by
    intro c hc
    have hbreak := hone c (by rw [hline]; simp [hc])
    rw [bne_iff_ne]
    rintro rfl
    exact absurd hbreak (by decide)
  have hlabelGroup : ∀ rest, (Pattern.group "label"
      (.seq (.char Char.isAlpha) (.star (.char isLabelChar)))).Prefers
        (label.toList ++ ':' :: rest) [("label", label)] (':' :: rest) := by
    intro rest
    cases hlist : label.toList with
    | nil =>
      rw [hlist] at hhead
      cases hhead
    | cons c cs =>
      rw [hlist] at hhead hchars
      have hseq := Pattern.prefers_seq (Pattern.prefers_char (p := Char.isAlpha) hhead)
        (Pattern.prefers_star_char (fun d hd => hchars d (List.mem_cons_of_mem c hd))
          (fun d hd => by
            obtain rfl : ':' = d := Option.some.inj hd
            decide : ∀ d ∈ (':' :: rest).head?, isLabelChar d = false))
      have hgroup := Pattern.prefers_group "label" (w := c :: cs) hseq
      rw [← hlist, String.ofList_toList] at hgroup
      rw [← hlist]
      exact hgroup
  have hvalueGroup : (Pattern.group "value" (.star (.char (· != '\n')))).Prefers
      (value.toList ++ []) [("value", value)] [] := by
    have hstar : (Pattern.star (.char (· != '\n'))).Prefers (value.toList ++ []) [] [] :=
      Pattern.prefers_star_char hnewline (by simp)
    have hgroup := Pattern.prefers_group "value" hstar
    rwa [List.nil_append, String.ofList_toList] at hgroup
  have hrest := Pattern.prefers_seq (Pattern.prefers_literal ":")
    (Pattern.prefers_seq (Pattern.prefers_star_char hspace (by simpa using hstart))
      (Pattern.prefers_seq hvalueGroup Pattern.prefers_lineEnd))
  have hall := Pattern.prefers_seq (hlabelGroup _) hrest
  apply Pattern.match_of_prefers
  rw [hline]
  simpa [switchportField] using hall

/-- A fragment of a list has no label. -/
lemma match_isFragment {text : String} (h : IsFragment text) : switchportField.match text = none := by
  obtain ⟨hne, hchars⟩ := h
  have hnil : Pattern.results switchportField text.toList = [] := by
    refine Pattern.results_seq_eq_nil (Pattern.results_group_eq_nil _
      (Pattern.results_seq_eq_nil (Pattern.results_char_eq_nil fun c hc => ?_)))
    have hchar := hchars c (List.mem_of_mem_head? hc)
    simp only [Bool.or_eq_true, beq_iff_eq, isDigit_iff] at hchar
    rw [Bool.eq_false_iff, Ne, isAlpha_iff]
    rcases hchar with (hchar | rfl) | rfl
    · omega
    · decide
    · decide
  rw [Pattern.match, hnil]
  rfl

/-! ## The loop as a reader of blocks -/

/-- What a line does to the open block. -/
def switchportAction (raw : String) : LineAction SwitchportBlock :=
  let line := strip raw
  if line = "" then .skips
  else
    match switchportField.match line with
    | none => .grows (·.continueLast line)
    | some found =>
      let label := strip ((Pattern.captured found "label").getD "")
      let value := strip ((Pattern.captured found "value").getD "")
      if label = "Name" then .begins ⟨[(label, value)], some label⟩
      else .grows fun block => ⟨(label, value) :: block.fields, some label⟩

variable [UnicodeDatabase]

/-- The loop reads blocks, and makes a record of each block with a name. -/
lemma foldlM_readSwitchportLine (lines : List String) (ports : List SwitchportFacts)
    (block : SwitchportBlock) :
    ((lines.foldlM readSwitchportLine (ports, block)).bind fun state =>
        (flushSwitchport state.2.fields).map (state.1 ++ ·)) =
      ((Blocks.read switchportAction (some block) lines).mapM fun block =>
        flushSwitchport block.fields).map fun found => ports ++ found.flatten := by
  induction lines generalizing ports block with
  | nil => cases hflush : flushSwitchport block.fields <;> simp [Blocks.read, hflush]
  | cons raw lines ih =>
    rw [List.foldlM_cons, Blocks.read, readSwitchportLine, switchportAction]
    generalize switchportField.match (strip raw) = found
    split
    · exact ih ports block
    · cases found with
      | none => exact ih ports (block.continueLast (strip raw))
      | some found =>
        by_cases hname : strip ((Pattern.captured found "label").getD "") = "Name"
        · simp only [if_pos hname]
          cases hflush : flushSwitchport block.fields with
          | none => simp [hflush]
          | some records =>
            simp only [hflush, Option.bind_eq_bind, Option.bind_some, Option.pure_def, ih,
              Option.toList_some, List.singleton_append, List.mapM_cons]
            generalize List.mapM (m := Option) _ _ = rest
            cases rest <;> simp
        · simp only [if_neg hname]
          exact ih ports _

/-! ## What each kind of line does -/

omit [UnicodeDatabase] in
/-- A blank line is skipped. -/
lemma switchportAction_blank {line : String} (h : strip line = "") :
    switchportAction line = .skips := by
  rw [switchportAction]
  exact if_pos h

omit [UnicodeDatabase] in
/-- A fragment continues the value before it. -/
lemma switchportAction_fragment {line : String} (h : IsFragment (strip line)) :
    switchportAction line = .grows (·.continueLast (strip line)) := by
  rw [switchportAction]
  simp only [if_neg h.1, match_isFragment h]

omit [UnicodeDatabase] in
/-- A field begins a block or is added to it. -/
lemma switchportAction_field {label value line : String} (h : IsField label value line)
    (hone : OneLine line) :
    switchportAction line = if label = "Name" then .begins ⟨[(label, value)], some label⟩
      else .grows fun block => ⟨(label, value) :: block.fields, some label⟩ := by
  have hne : strip line ≠ "" := by
    obtain ⟨⟨hhead, -⟩, -, gap, -, hline⟩ := h
    intro hempty
    rw [hempty] at hline
    have hlabel : label = "" := by
      have hnil := congrArg String.toList hline
      simp at hnil
    rw [hlabel] at hhead
    cases hhead
  have hstripped : OneLine (strip line) := by
    intro c hc
    rw [toList_strip] at hc
    exact hone c (mem_of_mem_listStrip hc)
  have hlabel : Pattern.captured [("label", label), ("value", value)] "label" = some label := rfl
  have hvalue : Pattern.captured [("label", label), ("value", value)] "value" = some value := rfl
  rw [switchportAction]
  simp only [if_neg hne, match_isField h hstripped, hlabel, hvalue, Option.getD_some, h.1.2.2,
    h.2.1]

omit [UnicodeDatabase] in
/-- A field is looked up past those with other labels. -/
lemma lookup_cons_of_ne {k label value : String} (h : k ≠ label) (fields : SwitchportFields) :
    List.lookup k ((label, value) :: fields) = fields.lookup k := by
  rw [List.lookup_cons, beq_eq_false_iff_ne.mpr h]

omit [UnicodeDatabase] in
/-- Lines without a label are put behind the value of the last label. -/
lemma grown_wrapped {wrapped : List String}
    (h : ∀ fragment ∈ wrapped, IsFragment (strip fragment)) {block : SwitchportBlock}
    {label value : String} (hlast : block.lastLabel = some label)
    (hvalue : block.fields.lookup label = some value) :
    let after := wrapped.foldl (Blocks.grown switchportAction) block
    after.fields.lookup label = some (value ++ String.join (wrapped.map strip)) ∧
      ∀ k ≠ label, after.fields.lookup k = block.fields.lookup k := by
  induction wrapped generalizing block value with
  | nil => exact ⟨by simpa using hvalue, fun _ _ => rfl⟩
  | cons fragment wrapped ih =>
    have haction := switchportAction_fragment (h fragment List.mem_cons_self)
    have hgrown : Blocks.grown switchportAction block fragment =
        ⟨(label, value ++ strip fragment) :: block.fields, some label⟩ := by
      rw [Blocks.grown, haction]
      simp [SwitchportBlock.continueLast, hlast, hvalue]
    have hlast' : (Blocks.grown switchportAction block fragment).lastLabel = some label := by
      rw [hgrown]
    have hvalue' : (Blocks.grown switchportAction block fragment).fields.lookup label =
        some (value ++ strip fragment) := by
      rw [hgrown, List.lookup_cons_self]
    obtain ⟨hsame, hother⟩ := ih (fun k hk => h k (List.mem_cons_of_mem _ hk)) hlast' hvalue'
    refine ⟨?_, fun k hk => ?_⟩
    · rw [List.foldl_cons, hsame]
      simp [String.append_assoc]
    · rw [List.foldl_cons, hother k hk, hgrown, lookup_cons_of_ne hk]

omit [UnicodeDatabase] in
/-- The lines of a block behind its name belong to it, and give it its fields. -/
lemma PrintsFields.grown {known : SwitchportFields} {lines : List String}
    (h : PrintsFields known lines) (hone : ∀ line ∈ lines, OneLine line) (block : SwitchportBlock) :
    (∀ line ∈ lines, Blocks.Belongs switchportAction line) ∧
      ∀ k ∈ "Name" :: fieldLabels, (lines.foldl (Blocks.grown switchportAction) block).fields.lookup k =
        (known.lookup k).or (block.fields.lookup k) := by
  induction h generalizing block with
  | nil => simp
  | @blank known line lines hline _ ih =>
    have haction := switchportAction_blank hline
    have hgrown : Blocks.grown switchportAction block line = block := by
      rw [Blocks.grown, haction]
    rw [List.forall_mem_cons] at hone
    obtain ⟨hbelongs, hfields⟩ := ih hone.2 block
    rw [List.forall_mem_cons, List.foldl_cons, hgrown]
    exact ⟨⟨Or.inl haction, hbelongs⟩, hfields⟩
  | @other known label value line lines hline hlabel _ ih =>
    rw [List.forall_mem_cons] at hone
    have haction := switchportAction_field hline hone.1
    rw [if_neg hlabel.1] at haction
    have hgrown : Blocks.grown switchportAction block line =
        ⟨(label, value) :: block.fields, some label⟩ := by
      rw [Blocks.grown, haction]
    obtain ⟨hbelongs, hfields⟩ := ih hone.2 ⟨(label, value) :: block.fields, some label⟩
    rw [List.forall_mem_cons, List.foldl_cons, hgrown]
    refine ⟨⟨Or.inr ⟨_, haction⟩, hbelongs⟩, fun k hk => ?_⟩
    have hne : k ≠ label := by
      rintro rfl
      rcases List.mem_cons.mp hk with hname | hmem
      · exact hlabel.1 hname
      · exact hlabel.2 hmem
    rw [hfields k hk, lookup_cons_of_ne hne]
  | @field known label value line lines wrapped hline hlabel hnew hwrapped hallowed _ ih =>
    rw [List.forall_mem_cons, List.forall_mem_append] at hone
    have hname : label ≠ "Name" := by
      rintro rfl
      revert hlabel
      decide
    have haction := switchportAction_field hline hone.1
    rw [if_neg hname] at haction
    have hgrown : Blocks.grown switchportAction block line =
        ⟨(label, value) :: block.fields, some label⟩ := by
      rw [Blocks.grown, haction]
    obtain ⟨hsame, hother⟩ := @grown_wrapped wrapped hwrapped
      ⟨(label, value) :: block.fields, some label⟩ label value rfl List.lookup_cons_self
    obtain ⟨hbelongs, hfields⟩ := ih hone.2.2 (wrapped.foldl (Blocks.grown switchportAction)
      ⟨(label, value) :: block.fields, some label⟩)
    rw [List.forall_mem_cons, List.forall_mem_append, List.foldl_cons, List.foldl_append, hgrown]
    refine ⟨⟨Or.inr ⟨_, haction⟩, fun fragment hfragment =>
      Or.inr ⟨_, switchportAction_fragment (hwrapped fragment hfragment)⟩, hbelongs⟩,
      fun k hk => ?_⟩
    rw [hfields k hk]
    by_cases hk' : k = label
    · subst hk'
      rw [hnew, hsame, List.lookup_cons_self]
      rfl
    · rw [hother k hk', lookup_cons_of_ne hk', lookup_cons_of_ne hk']

omit [UnicodeDatabase] in
/-- The name is none of the fields behind it. -/
lemma PrintsFields.lookup_name {known : SwitchportFields} {lines : List String}
    (h : PrintsFields known lines) : known.lookup "Name" = none := by
  induction h with
  | nil => rfl
  | blank _ _ ih => exact ih
  | other _ _ _ ih => exact ih
  | field _ hlabel _ _ _ _ ih =>
    rw [lookup_cons_of_ne, ih]
    rintro rfl
    revert hlabel
    decide

/-- The number of a VLAN is read as it is printed. -/
lemma leadingVlanId_of_printsVlan {vlan : Option ℤ} {text : Option String}
    (h : PrintsVlan vlan text) : leadingVlanId (text.getD "") = some vlan := by
  cases vlan with
  | none =>
    have hhead : ∀ c ∈ (strip (text.getD "")).toList.head?, (decimal c).isSome = false := by
      cases text with
      | none => exact nofun
      | some value => exact fun c hc => by rw [h value rfl c hc]; rfl
    have hnil : Pattern.results (Pattern.group "1" (.plus digit)) (strip (text.getD "")).toList =
        [] :=
      Pattern.results_group_eq_nil _ (Pattern.results_seq_eq_nil
        (Pattern.results_char_eq_nil hhead))
    rw [leadingVlanId, Pattern.match, hnil]
    rfl
  | some n =>
    obtain ⟨id, rfl, hid, rest, rfl, hrest⟩ := h
    have hdigits : (str id).toList = Nat.toDigits 10 id := Nat.toList_repr
    have hplus : (Pattern.plus digit).Prefers ((str id).toList ++ (rstrip rest).toList) []
        (rstrip rest).toList := by
      refine Pattern.prefers_plus_char (isWord_str id).1 (fun c hc => ?_) fun c hc => ?_
      · rw [hdigits] at hc
        have hd := Nat.isDigit_of_mem_toDigits (by decide) (by decide) hc
        rw [decimal_ascii c (by rw [isDigit_iff] at hd; omega), hd]
        rfl
      · rw [hrest c (mem_head_of_rstrip hc)]
        rfl
    have hgroup := Pattern.prefers_group "1" hplus
    rw [String.ofList_toList, ← String.toList_append, List.nil_append] at hgroup
    have hlength : (str id).toList.length ≤ maxDigits := by
      have hfour : (Nat.toDigits 10 id).length ≤ 4 :=
        (Nat.length_toDigits_le_iff (by decide) (by decide)).mpr (by omega)
      rw [hdigits, maxDigits]
      omega
    have hcaptured : Pattern.captured [("1", str id)] "1" = some (str id) := rfl
    rw [leadingVlanId, Option.getD_some, strip_append_of_isWord (isWord_str id),
      Pattern.match_of_prefers hgroup]
    simp only [hcaptured, Option.getD_some, int_of_numeral (numeral_str id) hlength, Option.map_some]

/-- The fields that describe a port make its record. -/
lemma flushSwitchport_of_describes {known fields : SwitchportFields} {port : SwitchportFacts}
    (hport : Describes known port) (hname : port.name ≠ "")
    (hlookup : fields.lookup "Name" = some port.name)
    (hfields : ∀ k ∈ fieldLabels, fields.lookup k = known.lookup k) :
    flushSwitchport fields = some [port] := by
  have hfilter : ∀ text : Option String, text ≠ some "" → text.filter (· ≠ "") = text := by
    rintro (_ | value) hne
    · rfl
    · have hvalue : value ≠ "" := fun h => hne (h ▸ rfl)
      simp [hvalue]
  rw [flushSwitchport, hlookup, hfields "Administrative Mode" (by decide),
    hfields "Access Mode VLAN" (by decide), hfields "Trunking Native Mode VLAN" (by decide),
    hfields "Trunking VLANs Enabled" (by decide),
    hfields "Administrative Trunking Encapsulation" (by decide), hport.mode, hport.trunkAllowed,
    hport.trunkEncapsulation, leadingVlanId_of_printsVlan hport.accessVlan,
    leadingVlanId_of_printsVlan hport.nativeVlan, hfilter _ hport.not_empty.1,
    hfilter _ hport.not_empty.2]
  exact if_neg hname

/-- The lines that print ports are a report of blocks that make their records. -/
lemma PrintsPortBlocks.prints {ports : List SwitchportFacts} {lines : List String}
    (h : PrintsPortBlocks ports lines) (hone : ∀ line ∈ lines, OneLine line) :
    ∃ blocks, Blocks.Prints switchportAction blocks lines ∧
      blocks.mapM (fun block => flushSwitchport block.fields) =
        some (ports.map fun port => [port]) := by
  induction h with
  | nil => exact ⟨[], .nil, rfl⟩
  | @cons port ports known line body lines hname hline hbody hport _ ih =>
    rw [List.forall_mem_cons, List.forall_mem_append] at hone
    obtain ⟨blocks, hprints, hblocks⟩ := ih hone.2.2
    have haction := switchportAction_field hline hone.1
    rw [if_pos rfl] at haction
    obtain ⟨hbelongs, hfields⟩ := hbody.grown hone.2.1 ⟨[("Name", port.name)], some "Name"⟩
    have hgap : Blocks.Separates switchportAction [] := ⟨[], [], rfl, by simp, by simp, by simp⟩
    refine ⟨_, Blocks.Prints.cons haction hbelongs hgap hprints, ?_⟩
    have hflush := flushSwitchport_of_describes hport hname
      (by rw [hfields "Name" (by simp), hbody.lookup_name]; rfl)
      (fun k hk => by
        have hne : k ≠ "Name" := by
          rintro rfl
          revert hk
          decide
        rw [hfields k (List.mem_cons_of_mem _ hk), lookup_cons_of_ne hne, List.lookup_nil,
          Option.or_none])
    rw [List.mapM_cons, hflush, hblocks]
    rfl

/-- A report of switchports is read as these ports. -/
theorem parseShowInterfacesSwitchport_of_prints {output : String} {ports : List SwitchportFacts}
    (h : PrintsSwitchports ports (splitlines output)) :
    parseShowInterfacesSwitchport output = some ports := by
  obtain ⟨lead, lines, hlines, hlead, hblocks⟩ := h
  have hone : ∀ line ∈ lines, OneLine line := fun line hline =>
    oneLine_of_mem_splitlines (hlines ▸ List.mem_append_right lead hline)
  obtain ⟨blocks, hprints, hrecords⟩ := hblocks.prints hone
  have hread : Blocks.read switchportAction (some {}) (splitlines output) = {} :: blocks := by
    rw [hlines, Blocks.read_skips fun line hline => switchportAction_blank (hlead line hline),
      Blocks.read_some_of_prints hprints, Blocks.read_of_prints hprints]
  have hloop := foldlM_readSwitchportLine (splitlines output) [] {}
  have hempty : flushSwitchport ({} : SwitchportBlock).fields = some [] := rfl
  rw [hread, List.mapM_cons, hempty, hrecords] at hloop
  have hparse : parseShowInterfacesSwitchport output =
      ((splitlines output).foldlM readSwitchportLine ([], {})).bind fun state =>
        (flushSwitchport state.2.fields).map (state.1 ++ ·) := by
    rw [parseShowInterfacesSwitchport]
    refine congrArg _ (funext fun state => ?_)
    obtain ⟨found, block⟩ := state
    exact (Option.map_eq_bind (f := (found ++ ·))).symm
  rw [hparse, hloop]
  simp [← List.flatMap_def]

/-- A trunk whose list is wrapped, and an access port. -/
def samplePorts : List SwitchportFacts :=
  [⟨"Gi1/0/1", "trunk", some 1, some 99, some "1,10,20-30", some "dot1q"⟩,
    ⟨"Gi1/0/2", "static access", some 20, none, none, none⟩]

/-- The lines of the sample output. -/
def samplePortLines : List String :=
  ["Name: Gi1/0/1", "Switchport: Enabled", "Administrative Mode: trunk",
    "Administrative Trunking Encapsulation: dot1q", "Access Mode VLAN: 1 (default)",
    "Trunking Native Mode VLAN: 99 (NATIVE)", "Trunking VLANs Enabled: 1,10,", "     20-30",
    "Protected: false", " ", "Name: Gi1/0/2", "Administrative Mode: static access",
    "Access Mode VLAN: 20 (USERS)", "Trunking Native Mode VLAN: none"]

omit [UnicodeDatabase] in
/-- The ports of the sample output are read. -/
theorem parseShowInterfacesSwitchport_samplePorts :
    letI := asciiDatabase
    parseShowInterfacesSwitchport (joinLines samplePortLines) = some samplePorts := by
  let _ := asciiDatabase
  have hsplit : splitlines (joinLines samplePortLines) = samplePortLines :=
    splitlines_joinLines (by decide) (by decide)
  have field : ∀ label value line, IsLabel label → strip value = value →
      strip line = label ++ ":" ++ " " ++ value → IsField label value line :=
    fun _ _ _ hlabel hvalue hline => ⟨hlabel, hvalue, " ", by decide, hline⟩
  have plain : ∀ {known : SwitchportFields} {lines : List String} (label value line : String),
      IsField label value line → label ∈ fieldLabels → known.lookup label = none →
      PrintsFields known lines → PrintsFields ((label, value) :: known) (line :: lines) := by
    intro known lines label value line hline hlabel hnew h
    have hfield := @PrintsFields.field known label value line lines [] hline hlabel hnew
      (by simp) (by simp) h
    simpa using hfield
  have vlan : ∀ (id : ℕ) (text rest : String), id ≤ 4094 → text = str id ++ rest →
      rest.toList.head?.all (fun c => decimal c == none) = true →
      PrintsVlan (some id) (some text) := by
    rintro id text rest hid rfl hrest
    refine ⟨id, rfl, hid, rest, rfl, fun c hc => ?_⟩
    rw [Option.mem_def.mp hc] at hrest
    simpa using hrest
  have noVlan : ∀ text, (strip text).toList.head?.all (fun c => decimal c == none) = true →
      PrintsVlan none (some text) := by
    rintro text htext value ⟨⟩ c hc
    rw [Option.mem_def.mp hc] at htext
    simpa using htext
  have hallowed : PrintsFields [("Trunking VLANs Enabled", "1,10," ++ String.join ["20-30"])]
      ["Trunking VLANs Enabled: 1,10,", "     20-30", "Protected: false", " "] := by
    have hstripped : strip "     20-30" = "20-30" := by decide
    have hfield := @PrintsFields.field _ _ _ _ _ ["     20-30"]
      (field "Trunking VLANs Enabled" "1,10," "Trunking VLANs Enabled: 1,10," (by decide)
        (by decide) (by decide)) (by decide) rfl
      (by rw [List.forall_mem_singleton, hstripped]; exact ⟨by decide, by decide⟩) (fun _ => rfl)
      (.other (field "Protected" "false" "Protected: false" (by decide) (by decide) (by decide))
        (by decide) (@PrintsFields.blank _ " " _ (by decide) .nil))
    rwa [List.map_singleton, hstripped] at hfield
  have htrunk := PrintsFields.other
    (field "Switchport" "Enabled" "Switchport: Enabled" (by decide) (by decide) (by decide))
    (by decide) (plain "Administrative Mode" "trunk" _
      (field _ _ "Administrative Mode: trunk" (by decide) (by decide) (by decide)) (by decide) rfl
    (plain "Administrative Trunking Encapsulation" "dot1q" _
      (field _ _ "Administrative Trunking Encapsulation: dot1q" (by decide) (by decide)
        (by decide)) (by decide) rfl
    (plain "Access Mode VLAN" "1 (default)" _
      (field _ _ "Access Mode VLAN: 1 (default)" (by decide) (by decide) (by decide)) (by decide)
        rfl
    (plain "Trunking Native Mode VLAN" "99 (NATIVE)" _
      (field _ _ "Trunking Native Mode VLAN: 99 (NATIVE)" (by decide) (by decide) (by decide))
        (by decide) rfl hallowed))))
  have haccess := plain "Administrative Mode" "static access" _
      (field _ _ "Administrative Mode: static access" (by decide) (by decide) (by decide))
        (by decide) rfl
    (plain "Access Mode VLAN" "20 (USERS)" _
      (field _ _ "Access Mode VLAN: 20 (USERS)" (by decide) (by decide) (by decide)) (by decide)
        rfl
    (plain "Trunking Native Mode VLAN" "none" _
      (field _ _ "Trunking Native Mode VLAN: none" (by decide) (by decide) (by decide))
        (by decide) rfl .nil))
  have hsecond := @PrintsPortBlocks.cons _ ⟨"Gi1/0/2", "static access", some 20, none, none, none⟩
    [] _ _ _ _ (by decide)
    (field "Name" "Gi1/0/2" "Name: Gi1/0/2" (by decide) (by decide) (by decide)) haccess
    ⟨rfl, vlan 20 "20 (USERS)" " (USERS)" (by decide) (by decide) (by decide), noVlan "none" (by decide),
      rfl, rfl, by decide⟩ .nil
  have hports := @PrintsPortBlocks.cons _
    ⟨"Gi1/0/1", "trunk", some 1, some 99, some ("1,10," ++ String.join ["20-30"]), some "dot1q"⟩
    _ _ _ _ _ (by decide)
    (field "Name" "Gi1/0/1" "Name: Gi1/0/1" (by decide) (by decide) (by decide)) htrunk
    ⟨rfl, vlan 1 "1 (default)" " (default)" (by decide) (by decide) (by decide),
      vlan 99 "99 (NATIVE)" " (NATIVE)" (by decide) (by decide) (by decide), rfl, rfl, by decide⟩
    hsecond
  have hlist : "1,10," ++ String.join ["20-30"] = "1,10,20-30" := by decide
  rw [hlist] at hports
  refine parseShowInterfacesSwitchport_of_prints ?_
  rw [hsplit]
  exact ⟨[], _, rfl, by simp, hports⟩

end Terraformer
