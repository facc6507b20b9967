import Mathlib
import Terraformer.Text.Pattern
import Terraformer.Text.Ipv4

/-!
# Change steps

The value types of the change pipeline and the driver-independent checks of what an operator
typed: interface names, VLAN lists, prefixes, configuration statements and routing processes.
-/

namespace Terraformer

open UnicodeDatabase

/-- What a change step changes. -/
inductive ChangeType where
  | interfaceDescription
  | interfaceAdminState
  | vlanName
  | interfaceAccessVlan
  | interfaceTrunkVlans
  | staticRoute
  | routerNetwork
  | routerNetworkRemove
  | routerRipVersion
  | bgpNeighbor
  | hostname
  | domainLookup
  deriving DecidableEq, Repr

/-- What the operator asked for, before rendering. -/
structure ChangeStepIntent where
  changeType : ChangeType
  target : String
  desiredValue : String
  deriving DecidableEq, Repr

/-- The commands that make a change and the commands that undo it. -/
structure RenderedChange where
  commands : List String
  inverseCommands : List String
  deriving DecidableEq, Repr

/-! ## Pieces of a text -/

namespace Text

/-- `text.split(separator)` for a separator of one character. -/
def splitAt (separator : Char) (text : String) : List String :=
  (text.toList.splitOn separator).map String.ofList

/-- `text.split(separator, 1)[0]`. -/
def headBefore (separator : Char) (text : String) : String :=
  String.ofList (text.toList.takeWhile (· != separator))

/-- `text.partition(separator)` without the middle part. -/
def partition (separator : Char) (text : String) : String × String :=
  (headBefore separator text,
    String.ofList ((text.toList.dropWhile (· != separator)).drop 1))

/-- One character of `repr(text)` between quotes of the given kind. -/
def reprChar [UnicodeDatabase] (quote c : Char) : String :=
  let hex (width : ℕ) : String :=
    let digits := Nat.toDigits 16 c.toNat
    String.ofList (List.replicate (width - digits.length) '0' ++ digits)
  if c = quote ∨ c = '\\' then String.ofList ['\\', c]
  else if c = '\t' then "\\t"
  else if c = '\n' then "\\n"
  else if c = '\r' then "\\r"
  else if printable c then String.ofList [c]
  else if c.toNat < 256 then "\\x" ++ hex 2
  else if c.toNat < 65536 then "\\u" ++ hex 4
  else "\\U" ++ hex 8

/-- `repr(text)`. -/
def repr [UnicodeDatabase] (text : String) : String :=
  let quote := if '\'' ∈ text.toList ∧ '"' ∉ text.toList then '"' else '\''
  String.ofList [quote] ++ String.join (text.toList.map (reprChar quote)) ++ String.ofList [quote]

end Text

open Text

section

variable [UnicodeDatabase]

/-! ## Interface names -/

/-- The long and the short spelling of each kind of interface. -/
def interfacePrefixes : List (String × String) :=
  [("twentyfivegige", "twe"),
    ("tengigabitethernet", "te"),
    ("fortygigabitethernet", "fo"),
    ("hundredgige", "hu"),
    ("gigabitethernet", "gi"),
    ("fastethernet", "fa"),
    ("ethernet", "et"),
    ("port-channel", "po")]

/-- Collapses long and short interface spellings onto one form. -/
def normalizeInterfaceName (name : String) : String :=
  let lowered := lower (strip name)
  match interfacePrefixes.find? fun spelling => startswith lowered spelling.1 with
  | some (longForm, shortForm) =>
    shortForm ++ String.ofList (lowered.toList.drop longForm.length)
  | none => lowered

/-- Two spellings name one interface. -/
def sameInterface (left right : String) : Bool :=
  normalizeInterfaceName left == normalizeInterfaceName right

/-! ## VLAN lists -/

/-- `\d`. -/
def digit : Pattern :=
  .char fun c => (decimal c).isSome

/-- `[1-9]`. -/
def nonzeroDigit : Pattern :=
  .char fun c => decide ('1' ≤ c) && decide (c ≤ '9')

/-- `\d{1,4}(?:-\d{1,4})?`. -/
def vlanRangePattern : Pattern :=
  .seq (.between digit 1 4) (.optional (.seq (.literal "-") (.between digit 1 4)))

/-- `\d{1,4}(?:-\d{1,4})?(?:,\d{1,4}(?:-\d{1,4})?)*`. -/
def vlanListPattern : Pattern :=
  .seq vlanRangePattern (.star (.seq (.literal ",") vlanRangePattern))

/-- The least VLAN id. -/
def vlanIdMin : ℤ := 1

/-- The greatest VLAN id. -/
def vlanIdMax : ℤ := 4094

/-- The bounds of one part of a VLAN list, `low` or `low-high`. -/
def vlanRange (part : String) : Option (ℤ × ℤ) :=
  let (low, high) := partition '-' part
  match int low, if high = "" then int low else int high with
  | some start, some stop => some (start, stop)
  | _, _ => none

/-- `range(first, last + 1)` as a set, over the computable order of the integers. -/
def idRange (first last : ℤ) : Finset ℤ :=
  @Finset.Icc ℤ Int.instLinearOrder.toPreorder _ first last

omit [UnicodeDatabase] in
/-- A range holds the numbers between its ends. -/
@[simp] lemma mem_idRange {first last n : ℤ} : n ∈ idRange first last ↔ first ≤ n ∧ n ≤ last :=
  Finset.mem_Icc

/-- Every VLAN id a trunk list names, as a set. -/
def expandVlanList (text : String) : Finset ℤ :=
  let cleaned := upper (strip text)
  if cleaned = "" ∨ cleaned = "NONE" then ∅
  else if cleaned = "ALL" then idRange vlanIdMin vlanIdMax
  else
    ((splitAt ',' cleaned).filterMap vlanRange).foldl
      (fun ids range => ids ∪ idRange range.1 range.2) ∅

/-- The first thing wrong with the ranges of a list that fits the pattern. -/
def vlanRangeIssues (field : String) : List String → List String
  | [] => []
  | part :: parts =>
    match vlanRange part with
    | some (start, stop) =>
      if stop < start then [s!"{field} range {part} runs backwards"]
      else if ¬(vlanIdMin ≤ start ∧ stop ≤ vlanIdMax) then
        [field ++ " ids must be between " ++ str vlanIdMin ++ " and " ++ str vlanIdMax]
      else vlanRangeIssues field parts
    -- a part that fits the pattern always has numbers for bounds
    | none => vlanRangeIssues field parts

/-- Rejects anything that is not a well-formed list of in-range VLAN ids. -/
def vlanListIssues (text field : String) : List String :=
  let cleaned := strip text
  match vlanListPattern.fullmatch cleaned with
  | none => [s!"{field} must be VLAN ids and ranges, for example 1,10,20-30"]
  | some _ => vlanRangeIssues field (splitAt ',' cleaned)

/-! ## Prefixes -/

/-- Splits a prefix into destination and mask; `none` is the `ValueError`. -/
def prefixParts (target : String) : Option (String × String) :=
  let cleaned := strip target
  -- the length is required rather than defaulted
  if '/' ∉ cleaned.toList then none
  else (Ipv4.network cleaned).map fun parts => (parts.1.text, parts.2.text)

/-- Rejects what is no IPv4 prefix. -/
def prefixIssues (target : String) : List String :=
  match prefixParts target with
  | some _ => []
  | none =>
    ["destination must be an IPv4 prefix such as 10.10.0.0/16 -- the " ++
      "prefix length is required and no host bits may be set (got " ++ Text.repr target ++ ")"]

/-! ## Statements and routing processes -/

/-- Collapses a configuration line onto one form for comparison. -/
def normalizeStatement (text : String) : String :=
  lower (join (split text))

/-- `^(?:rip|(?:ospf|eigrp) (?P<id>[1-9]\d{0,4}))$`. -/
def processSpec : Pattern :=
  .seq (.alt (.literal "rip")
    (.seq (.alt (.literal "ospf") (.literal "eigrp"))
      (.seq (.literal " ") (.group "id" (.seq nonzeroDigit (.upTo digit 4)))))) .lineEnd

/-- `\d{1,3}(?:\.\d{1,3}){3}`. -/
def ipv4Pattern : Pattern :=
  .seq (.between digit 1 3) (.times (.seq (.literal ".") (.between digit 1 3)) 3)

/-- What each protocol accepts after `network`. -/
def networkStatements : List (String × Pattern) :=
  [("rip", .seq ipv4Pattern .lineEnd),
    ("eigrp", .seq ipv4Pattern (.seq (.optional (.seq (.literal " ") ipv4Pattern)) .lineEnd)),
    ("ospf", .seq ipv4Pattern (.seq (.literal " ") (.seq ipv4Pattern (.seq (.literal " area ")
      (.seq (.alt (.between digit 1 10) ipv4Pattern) .lineEnd)))))]

/-- The protocol word of a process; empty when the spec is malformed. -/
def routingProtocolOf (spec : String) : String :=
  let head := lower (headBefore ' ' (strip spec))
  if (networkStatements.lookup head).isSome then head else ""

/-- The number a group captured is above a bound. -/
def capturedAbove (captures : Captures) (name : String) (bound : ℤ) : Bool :=
  match (Pattern.captured captures name).bind int with
  | some n => decide (bound < n)
  | none => false

/-- Rejects what names no routing process. -/
def routingProcessIssues (spec : String) : List String :=
  let issue := ["routing process must be 'rip', or 'ospf <id>' / 'eigrp <id>' " ++
    "with an id between 1 and 65535"]
  match processSpec.match (lower (strip spec)) with
  | none => issue
  | some captures => if capturedAbove captures "id" 65535 then issue else []

/-- Some octet of a dotted address is above 255. -/
def octetAbove (address : String) : Bool :=
  (splitAt '.' address).any fun octet =>
    match int octet with
    | some n => decide (255 < n)
    | none => false

/-- The words that say what a protocol's network statement looks like. -/
def networkShapes : List (String × String) :=
  [("rip", "a classful network, for example 10.0.0.0"),
    ("eigrp", "a network with an optional wildcard, for example 10.0.0.0 0.0.255.255"),
    ("ospf", "a network, wildcard and area, for example 10.0.0.0 0.0.0.255 area 0")]

/-- Rejects what is no network statement of the process's protocol. -/
def networkStatementIssues (spec statement : String) : List String :=
  let protocol := routingProtocolOf spec
  match networkStatements.lookup protocol with
  | none => []
  | some pattern =>
    let cleaned := join (split statement)
    match pattern.match cleaned with
    | none =>
      ["for " ++ protocol ++ " the network must be " ++ (networkShapes.lookup protocol).getD ""]
    | some _ =>
      match (ipv4Pattern.findall cleaned).find? octetAbove with
      | some group => [s!"{group} is not a valid IPv4 address"]
      | none => []

/-- `^bgp (?P<asn>[1-9]\d{0,9})$`. -/
def bgpProcess : Pattern :=
  .seq (.seq (.literal "bgp ") (.group "asn" (.seq nonzeroDigit (.upTo digit 9)))) .lineEnd

/-- `^(?P<peer>…) remote-as (?P<asn>[1-9]\d{0,9})$`. -/
def bgpNeighborPattern : Pattern :=
  .seq (.group "peer" ipv4Pattern) (.seq (.literal " remote-as ")
    (.seq (.group "asn" (.seq nonzeroDigit (.upTo digit 9))) .lineEnd))

/-- The greatest number of an autonomous system. -/
def asnMax : ℤ := 4294967295

/-- Rejects what names no BGP process. -/
def bgpProcessIssues (spec : String) : List String :=
  let issue := ["local AS must be a number between 1 and " ++ str asnMax]
  match bgpProcess.match (lower (strip spec)) with
  | none => issue
  | some captures => if capturedAbove captures "asn" asnMax then issue else []

/-- Rejects what is no peer with its AS. -/
def bgpNeighborIssues (value : String) : List String :=
  match bgpNeighborPattern.match (lower (join (split value))) with
  | none =>
    ["neighbour must be '<peer address> remote-as <asn>', " ++
      "for example 192.0.2.2 remote-as 65002"]
  | some captures =>
    let peer := (Pattern.captured captures "peer").getD ""
    if octetAbove peer then [s!"{peer} is not a valid IPv4 address"]
    else if capturedAbove captures "asn" asnMax then
      ["remote AS must be a number between 1 and " ++ str asnMax]
    else []

/-- Rejects what is no RIP version. -/
def ripVersionIssues (value : String) : List String :=
  if strip value = "1" ∨ strip value = "2" then [] else ["RIP version must be 1 or 2"]

/-! ## Normal forms -/

/-- A name with a one-word normal form is one word between white space. -/
lemma split_of_isWord_normalizeInterfaceName {name : String}
    (h : IsWord (normalizeInterfaceName name)) : split name = [strip name] := by
  have hlowered : IsWord (lower (strip name)) := by
    unfold normalizeInterfaceName at h
    simp only at h
    split at h
    · rename_i longForm shortForm hfind
      have hlong : IsWord longForm := by
        have hall : ∀ entry ∈ interfacePrefixes, IsWord entry.1 := by decide
        exact hall _ (List.mem_of_find?_eq_some hfind)
      have hstart : startswith (lower (strip name)) longForm = true := by
        simpa using List.find?_some hfind
      rw [startswith, List.isPrefixOf_iff_prefix] at hstart
      obtain ⟨rest, hrest⟩ := hstart
      rw [IsWord, ← hrest]
      refine ⟨by simp [hlong.1], fun c hc => ?_⟩
      rcases List.mem_append.mp hc with hc | hc
      · exact hlong.2 c hc
      · refine h.2 c ?_
        rw [String.toList_append, String.toList_ofList, ← hrest, ← String.length_toList,
          List.drop_left]
        exact List.mem_append_right _ hc
    · exact h
  have hwords : (split name).map lower = [lower (strip name)] := by
    rw [← split_strip, ← split_lower, split_eq_singleton hlowered]
  obtain ⟨w, hw, -⟩ := List.map_eq_singleton_iff.mp hwords
  rw [hw, strip_of_split_eq_singleton hw]

/-- White space around a name does not matter to its normal form. -/
@[simp] lemma normalizeInterfaceName_strip (name : String) :
    normalizeInterfaceName (strip name) = normalizeInterfaceName name := by
  rw [normalizeInterfaceName, strip_strip, normalizeInterfaceName]

/-- The words of a normalised statement are the lower-cased words. -/
@[simp] lemma split_normalizeStatement (text : String) :
    split (normalizeStatement text) = (split text).map lower := by
  rw [normalizeStatement, split_lower, split_join_split]

/-- A statement is normalised by joining its lower-cased words. -/
lemma normalizeStatement_eq (text : String) :
    normalizeStatement text = join ((split text).map lower) :=
  lower_join _

/-- The words of a normalised statement, joined, are the statement. -/
@[simp] lemma join_split_normalizeStatement (text : String) :
    join (split (normalizeStatement text)) = normalizeStatement text := by
  rw [split_normalizeStatement, ← normalizeStatement_eq]

/-- Normalising twice is normalising once. -/
@[simp] lemma normalizeStatement_normalizeStatement (text : String) :
    normalizeStatement (normalizeStatement text) = normalizeStatement text := by
  rw [normalizeStatement_eq, split_normalizeStatement, normalizeStatement_eq]
  simp [Function.comp_def]

/-- The normal form of a text is that of its stripped form. -/
@[simp] lemma normalizeStatement_strip (text : String) :
    normalizeStatement (strip text) = normalizeStatement text := by
  rw [normalizeStatement, split_strip, normalizeStatement]

/-- A normalised statement is on one line. -/
lemma oneLine_normalizeStatement (text : String) : OneLine (normalizeStatement text) := by
  rw [normalizeStatement_eq]
  refine oneLine_join fun w hw => ?_
  obtain ⟨v, hv, rfl⟩ := List.mem_map.mp hw
  exact (isWord_lower (isWord_of_mem_split hv)).oneLine

/-- Two texts have one normal form exactly when their lower-cased words agree. -/
lemma normalizeStatement_eq_iff {a b : String} :
    normalizeStatement a = normalizeStatement b ↔
      (split a).map lower = (split b).map lower := by
  constructor
  · intro h
    rw [← split_normalizeStatement, h, split_normalizeStatement]
  · intro h
    rw [normalizeStatement_eq, h, normalizeStatement_eq]

end

end Terraformer
