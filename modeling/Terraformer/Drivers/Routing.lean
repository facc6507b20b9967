import Terraformer.Blocks
import Terraformer.Text.Lines
import Terraformer.Drivers.Base

/-!
# Parsing routing processes

`parse_routing_processes` reads `show running-config | section ^router` into one record for each
`router` block.  The loop is a reader of blocks (`readProcesses_eq_read`), and a report that prints
given processes (`PrintsProcesses`) is read as those processes, each with its own statements
(`parseRoutingProcesses_of_prints`).
-/

namespace Terraformer

open Text

/-- The loop of `parse_routing_processes`, with the block that is open. -/
def readProcesses : Option String → List String → List String → List RoutingProcessFacts
  | name, statements, [] => (name.map fun name => { name, statements }).toList
  | name, statements, raw :: lines =>
    let stripped := strip raw
    if startswith raw "router " then
      (name.map fun name => { name, statements }).toList ++
        readProcesses (some (strip (String.ofList (raw.toList.drop "router ".length)))) [] lines
    else
      match name with
      | none => readProcesses none statements lines
      | some name =>
        if stripped = "" ∨ stripped = "!" then readProcesses (some name) statements lines
        else if isIndented raw then
          readProcesses (some name) (statements ++ [stripped]) lines
        -- an unindented line that is not a router header ends the block
        else { name, statements } :: readProcesses none [] lines

/-- `parse_routing_processes`. -/
def parseRoutingProcesses (output : String) : List RoutingProcessFacts :=
  readProcesses none [] (splitlines output)

/-! ## What the device prints -/

/-- The header of a block. -/
def IsRouterHeader (name line : String) : Prop :=
  ∃ rest, line = "router " ++ rest ∧ strip rest = name

/-- A `!` or a blank line. -/
def IsSeparator (line : String) : Prop :=
  strip line = "" ∨ strip line = "!"

/-- The indented line of a statement. -/
def IsStatementOf (statement line : String) : Prop :=
  isIndented line = true ∧ strip line = statement ∧ ¬IsSeparator line

/-- Whether a line separates two blocks can be decided. -/
instance (line : String) : Decidable (IsSeparator line) :=
  inferInstanceAs (Decidable (_ ∨ _))

/-- Whether a line is the statement's can be decided. -/
instance (statement line : String) : Decidable (IsStatementOf statement line) :=
  inferInstanceAs (Decidable (_ ∧ _))

/-- The lines of a block behind its header: its statements, indented, with separators anywhere
between them. -/
inductive PrintsStatements : List String → List String → Prop
  | nil : PrintsStatements [] []
  | separator {statements : List String} {line : String} {lines : List String}
      (hline : IsSeparator line) (hlines : PrintsStatements statements lines) :
      PrintsStatements statements (line :: lines)
  | statement {statement : String} {statements : List String} {line : String}
      {lines : List String} (hline : IsStatementOf statement line)
      (hlines : PrintsStatements statements lines) :
      PrintsStatements (statement :: statements) (line :: lines)

/-- Lines that are no block's: separators, and behind the first unindented line that is none of
them any lines, indented or not, that are no header of a block. -/
def IsForeign (lines : List String) : Prop :=
  ∃ front back, lines = front ++ back ∧ (∀ line ∈ front, IsSeparator line) ∧
    (∀ line ∈ back.head?, ¬IsSeparator line ∧ isIndented line = false) ∧
    ∀ line ∈ back, startswith line "router " = false

/-- The lines that print the given processes, from the first header on. -/
inductive PrintsBlocks : List RoutingProcessFacts → List String → Prop
  | nil : PrintsBlocks [] []
  | cons {process : RoutingProcessFacts} {processes : List RoutingProcessFacts} {header : String}
      {body gap lines : List String} (hheader : IsRouterHeader process.name header)
      (hbody : PrintsStatements process.statements body) (hgap : IsForeign gap)
      (hlines : PrintsBlocks processes lines) :
      PrintsBlocks (process :: processes) (header :: (body ++ (gap ++ lines)))

/-- The lines of a report of the given processes. -/
def PrintsProcesses (processes : List RoutingProcessFacts) (lines : List String) : Prop :=
  ∃ lead blocks, lines = lead ++ blocks ∧
    (∀ line ∈ lead, startswith line "router " = false) ∧ PrintsBlocks processes blocks

/-! ## The loop as a reader of blocks -/

/-- What a line does to the open block. -/
def routingAction (raw : String) : LineAction RoutingProcessFacts :=
  if startswith raw "router " then
    .begins { name := strip (String.ofList (raw.toList.drop "router ".length)) }
  else if strip raw = "" ∨ strip raw = "!" then .skips
  else if isIndented raw then
    .grows fun process => { process with statements := process.statements ++ [strip raw] }
  else .ends

/-- The loop reads blocks. -/
lemma readProcesses_eq_read (name : Option String) (statements lines : List String) :
    readProcesses name statements lines =
      Blocks.read routingAction (name.map fun name => { name, statements }) lines := by
  induction lines generalizing name statements with
  | nil => cases name <;> rfl
  | cons raw lines ih =>
    rw [readProcesses.eq_def, Blocks.read, routingAction]
    by_cases hheader : startswith raw "router " = true
    · simp only [hheader, if_true, ih]
      rfl
    · simp only [hheader, Bool.false_eq_true, if_false]
      cases name with
      | none =>
        simp only [ih]
        split
        · next block heq =>
          split at heq
          · cases heq
          · split at heq <;> cases heq
        · rfl
        · rfl
        · rfl
      | some name =>
        by_cases hseparator : strip raw = "" ∨ strip raw = "!"
        · simp only [if_pos hseparator, ih]
        · simp only [if_neg hseparator]
          by_cases hindented : isIndented raw = true
          · simp only [if_pos hindented, ih]
            rfl
          · simp only [if_neg hindented, ih]
            rfl

/-- A separator is no header. -/
lemma IsSeparator.not_header {line : String} (h : IsSeparator line) :
    startswith line "router " = false := by
  obtain ⟨a, b, ha, hb, hline⟩ := exists_append_listStrip isSpace line.toList
  rw [Bool.eq_false_iff, startswith, Ne, List.isPrefixOf_iff_prefix]
  intro hstart
  have hr : 'r' ∈ line.toList := hstart.subset (by decide)
  have hstrip : (listStrip isSpace line.toList) = [] ∨ listStrip isSpace line.toList = ['!'] := by
    rw [← toList_strip]
    rcases h with h | h <;> rw [h]
    · exact Or.inl rfl
    · exact Or.inr rfl
  rw [hline, List.mem_append, List.mem_append] at hr
  rcases hr with (hr | hr) | hr
  · exact absurd (ha _ hr) (by decide)
  · rcases hstrip with hstrip | hstrip <;> rw [hstrip] at hr <;> simp at hr
  · exact absurd (hb _ hr) (by decide)

/-- A line that begins with white space is no header. -/
lemma not_header_of_isIndented {line : String} (h : isIndented line = true) :
    startswith line "router " = false := by
  rw [Bool.eq_false_iff, startswith, Ne, List.isPrefixOf_iff_prefix]
  rintro ⟨rest, hrest⟩
  rw [isIndented, ← hrest] at h
  have hr : isSpace 'r' = true := h
  exact absurd hr (by decide)

/-! ## What each kind of line does -/

/-- A header begins a process. -/
lemma routingAction_header {name header : String} (h : IsRouterHeader name header) :
    routingAction header = .begins { name } := by
  obtain ⟨rest, rfl, hrest⟩ := h
  rw [routingAction, startswith_append, if_pos rfl, String.toList_append,
    ← String.length_toList, List.drop_left, String.ofList_toList, hrest]

/-- Another line than a header is skipped, or continues the process. -/
lemma routingAction_of_not_header {line : String} (h : startswith line "router " = false) :
    routingAction line = if strip line = "" ∨ strip line = "!" then .skips
      else if isIndented line then
        .grows fun process => { process with statements := process.statements ++ [strip line] }
      else .ends := by
  rw [routingAction, h, if_neg Bool.false_ne_true]

/-- A separator is skipped. -/
lemma routingAction_separator {line : String} (h : IsSeparator line) :
    routingAction line = .skips := by
  rw [routingAction_of_not_header h.not_header]
  exact if_pos h

/-- A statement is added to its process. -/
lemma routingAction_statement {statement line : String} (h : IsStatementOf statement line) :
    routingAction line =
      .grows fun process => { process with statements := process.statements ++ [statement] } := by
  obtain ⟨hindented, rfl, hseparator⟩ := h
  rw [routingAction_of_not_header (not_header_of_isIndented hindented)]
  exact (if_neg hseparator).trans (if_pos hindented)

/-- Only a header begins a process. -/
lemma routingAction_ne_begins {line : String} (h : startswith line "router " = false)
    (block : RoutingProcessFacts) : routingAction line ≠ .begins block := by
  rw [routingAction_of_not_header h]
  split
  · exact nofun
  · split <;> exact nofun

/-- The lines of a block behind its header belong to it, and add its statements. -/
lemma PrintsStatements.grown {statements lines : List String}
    (h : PrintsStatements statements lines) (name : String) (before : List String) :
    (∀ line ∈ lines, Blocks.Belongs routingAction line) ∧
      lines.foldl (Blocks.grown routingAction) { name, statements := before } =
        { name, statements := before ++ statements } := by
  induction h generalizing before with
  | nil => simp
  | @separator statements line lines hline _ ih =>
    have haction := routingAction_separator hline
    obtain ⟨hbelongs, hgrown⟩ := ih before
    refine ⟨?_, ?_⟩
    · rw [List.forall_mem_cons]
      exact ⟨Or.inl haction, hbelongs⟩
    · rw [List.foldl_cons, Blocks.grown, haction]
      exact hgrown
  | @statement statement statements line lines hline _ ih =>
    have haction := routingAction_statement hline
    obtain ⟨hbelongs, hgrown⟩ := ih (before ++ [statement])
    refine ⟨?_, ?_⟩
    · rw [List.forall_mem_cons]
      exact ⟨Or.inr ⟨_, haction⟩, hbelongs⟩
    · rw [List.foldl_cons, Blocks.grown, haction]
      simpa using hgrown

/-- Foreign lines separate two blocks. -/
lemma IsForeign.separates {lines : List String} (h : IsForeign lines) :
    Blocks.Separates routingAction lines := by
  obtain ⟨front, back, rfl, hfront, hhead, hback⟩ := h
  refine ⟨front, back, rfl, fun line hline => routingAction_separator (hfront line hline),
    fun line hline => routingAction_ne_begins (hback line hline), fun line hline => ?_⟩
  obtain ⟨hseparator, hindented⟩ := hhead line hline
  rw [routingAction_of_not_header (hback line (List.mem_of_mem_head? hline)), hindented]
  exact if_neg hseparator

/-- The lines that print processes are a report of these blocks. -/
lemma PrintsBlocks.prints {processes : List RoutingProcessFacts} {lines : List String}
    (h : PrintsBlocks processes lines) : Blocks.Prints routingAction processes lines := by
  induction h with
  | nil => exact .nil
  | @cons process processes header body gap lines hheader hbody hgap _ ih =>
    obtain ⟨hbelongs, hgrown⟩ := hbody.grown process.name []
    rw [List.nil_append] at hgrown
    have hprints := Blocks.Prints.cons (routingAction_header hheader) hbelongs hgap.separates ih
    rwa [hgrown] at hprints

/-! ## Reading back -/

/-- A report of routing processes is read as these processes. -/
lemma parseRoutingProcesses_eq {output : String} {processes : List RoutingProcessFacts}
    (h : PrintsProcesses processes (splitlines output)) :
    parseRoutingProcesses output = processes := by
  obtain ⟨lead, blocks, hlines, hlead, hblocks⟩ := h
  have hnone : ∀ line ∈ lead, ∀ block, routingAction line ≠ .begins block :=
    fun line hline => routingAction_ne_begins (hlead line hline)
  rw [parseRoutingProcesses, readProcesses_eq_read, hlines, Option.map_none,
    Blocks.read_none hnone, Blocks.read_of_prints hblocks.prints]

variable [UnicodeDatabase]

/-- The texts are one statement up to spacing and case. -/
def SameStatement (left right : String) : Prop :=
  (split left).map lower = (split right).map lower

/-- A statement is found under any spacing and case when the process holds it, and only then. -/
lemma hasStatement_eq_true_iff (process : RoutingProcessFacts) (statement : String) :
    process.hasStatement statement = true ↔
      ∃ line ∈ process.statements, SameStatement line statement := by
  rw [RoutingProcessFacts.hasStatement, List.any_eq_true]
  simp only [beq_iff_eq, normalizeStatement_eq_iff, SameStatement]

/-- A report of routing processes is read as these processes, in order and each with its own
statements, and a statement is found exactly in the processes that hold it. -/
theorem parseRoutingProcesses_of_prints {output : String} {processes : List RoutingProcessFacts}
    (h : PrintsProcesses processes (splitlines output)) :
    parseRoutingProcesses output = processes ∧
      List.Forall₂ (fun (found process : RoutingProcessFacts) => ∀ statement,
          found.hasStatement statement = true ↔
            ∃ line ∈ process.statements, SameStatement line statement)
        (parseRoutingProcesses output) processes := by
  rw [parseRoutingProcesses_eq h]
  exact ⟨rfl, List.forall₂_same.mpr fun process _ => hasStatement_eq_true_iff process⟩

/-- Three processes, the second with a nested block, and a foreign block before the third. -/
def sampleRouterLines : List String :=
  ["router ospf 1", " network 10.0.0.0 0.0.0.255 area 0", "!", "router bgp 65000",
    " address-family ipv4", "  neighbor 192.0.2.2 activate", " !", " exit-address-family", "!",
    "ip access-list standard HOSTS", " permit any", "router rip", " version 2"]

/-- The processes of the sample output. -/
def sampleRouterProcesses : List RoutingProcessFacts :=
  [⟨"ospf 1", ["network 10.0.0.0 0.0.0.255 area 0"]⟩,
    ⟨"bgp 65000", ["address-family ipv4", "neighbor 192.0.2.2 activate", "exit-address-family"]⟩,
    ⟨"rip", ["version 2"]⟩]

omit [UnicodeDatabase] in
/-- The processes of the sample output are read. -/
theorem parseRoutingProcesses_sampleRouter :
    parseRoutingProcesses (joinLines sampleRouterLines) = sampleRouterProcesses := by
  have hsplit : splitlines (joinLines sampleRouterLines) = sampleRouterLines :=
    splitlines_joinLines (by decide) (by decide)
  have header : ∀ name, strip name = name → IsRouterHeader name ("router " ++ name) :=
    fun name hname => ⟨name, rfl, hname⟩
  have hospf : PrintsStatements ["network 10.0.0.0 0.0.0.255 area 0"]
      [" network 10.0.0.0 0.0.0.255 area 0"] :=
    .statement (by decide) .nil
  have hbgp : PrintsStatements
      ["address-family ipv4", "neighbor 192.0.2.2 activate", "exit-address-family"]
      [" address-family ipv4", "  neighbor 192.0.2.2 activate", " !", " exit-address-family"] :=
    .statement (by decide) (.statement (by decide) (.separator (by decide)
      (.statement (by decide) .nil)))
  have hrip : PrintsStatements ["version 2"] [" version 2"] := .statement (by decide) .nil
  have hbang : IsForeign ["!"] := ⟨["!"], [], rfl, by decide, by decide, by decide⟩
  have hlist : IsForeign ["!", "ip access-list standard HOSTS", " permit any"] :=
    ⟨["!"], ["ip access-list standard HOSTS", " permit any"], rfl, by decide, by decide, by decide⟩
  have hend : IsForeign [] := ⟨[], [], rfl, by decide, by decide, by decide⟩
  have hlast := @PrintsBlocks.cons ⟨"rip", ["version 2"]⟩ [] _ _ _ _
    (header "rip" (by decide)) hrip hend .nil
  have hmiddle := @PrintsBlocks.cons ⟨"bgp 65000", _⟩ _ _ _ _ _
    (header "bgp 65000" (by decide)) hbgp hlist hlast
  have hprints := @PrintsBlocks.cons ⟨"ospf 1", _⟩ _ _ _ _ _
    (header "ospf 1" (by decide)) hospf hbang hmiddle
  let _ := asciiDatabase
  refine (parseRoutingProcesses_of_prints ?_).1
  rw [hsplit]
  exact ⟨[], _, rfl, by decide, hprints⟩

end Terraformer
