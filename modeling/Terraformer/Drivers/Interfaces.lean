import Terraformer.Text.Search
import Terraformer.Text.Number
import Terraformer.Text.Lines
import Terraformer.Drivers.Base

/-!
# Parsing interfaces

`parse_show_interfaces` cuts the output of `show interfaces` at its header lines and searches
each block for the fields of the interface.  On the blocks a device prints, the headers are found
where they are and nowhere else, and each interface is read from its own block
(`parseShowInterfaces_showInterfaces`).
-/

namespace Terraformer

open Text Pattern

/-! ## The parser -/

/-- `_INTERFACE_HEADER`, but for the `^` in front. -/
def interfaceHeader : Pattern :=
  .seq (.group "name" (.plus (.char fun c => !isSpace c))) (.seq (.literal " is ")
    (.seq (.group "admin"
        (.alt (.literal "administratively down") (.alt (.literal "up") (.literal "down"))))
      (.seq (.literal ", line protocol is ")
        (.group "oper" (.alt (.literal "up") (.literal "down"))))))

/-- `^\s+Description:\s*(.+)$`, but for the `^` in front; `.+` ends where a line does anyway. -/
def descriptionLine : Pattern :=
  .seq (.plus (.char isSpace)) (.seq (.literal "Description:")
    (.seq (.star (.char isSpace)) (.group "1" (.plus (.char (· != '\n'))))))

/-- The class `[0-9a-fA-F.:-]`. -/
def isMacChar (c : Char) : Bool :=
  c.isDigit || ('a' ≤ c && c ≤ 'f') || ('A' ≤ c && c ≤ 'F') || c == '.' || c == ':' || c == '-'

/-- `_MAC_ADDRESS`. -/
def macAddress : Pattern :=
  .seq (.literal "address is ") (.group "1" (.plus (.char isMacChar)))

/-- `_IP_ADDRESS`. -/
def ipAddress : Pattern :=
  .seq (.literal "Internet address is ") (.group "1" (.plus (.char fun c => !isSpace c)))

section

variable [UnicodeDatabase]

/-- `_SPEED`, but for the `\b` in front.  Ignoring case, a `K` is also the Kelvin sign, and an `i`
one with a dot on the capital or none on the small letter. -/
def speed : Pattern :=
  .seq (.char (· ∈ ['b', 'B'])) (.seq (.char (· ∈ ['w', 'W'])) (.seq (.plus (.char isSpace))
    (.seq (.group "1" (.plus (.char fun c => (UnicodeDatabase.decimal c).isSome)))
      (.seq (.plus (.char isSpace)) (.seq (.char (· ∈ ['k', 'K', '\u212A']))
        (.seq (.char (· ∈ ['b', 'B'])) (.seq (.char (· ∈ ['i', 'I', '\u0130', '\u0131']))
          (.char (· ∈ ['t', 'T'])))))))))

end

/-- One interface with all that `show interfaces` says of it. -/
structure InterfaceRecord extends InterfaceFacts where
  macAddress : Option String
  ipv4Addresses : List String
  speedMbps : Option ℤ
  deriving DecidableEq, Repr

section

variable [UnicodeDatabase] (isalnum : Char → Bool)

/-- The `\b` in front of a word: the character before is no part of one. -/
def wordStart (before : Option Char) : Bool :=
  before.all fun c => !(isalnum c || c == '_')

/-- The speed that a block tells, in megabits; nothing when the number is too long for `int`. -/
def readSpeed (block : String) : Option (Option ℤ) :=
  match search speed (wordStart isalnum) block with
  | none => some none
  | some found => (int ((captured found "1").getD "")).map fun kilobits => some (kilobits / 1000)

/-- The record of a header and its block. -/
def readInterface (header : Captures) (block : String) : Option InterfaceRecord :=
  (readSpeed isalnum block).map fun speedMbps =>
    { name := (captured header "name").getD ""
      description := (search descriptionLine lineStart block).bind fun found =>
        (captured found "1").map strip
      adminUp := some (captured header "admin" == some "up")
      operUp := some (captured header "oper" == some "up")
      macAddress := (search Terraformer.macAddress anywhere block).bind fun found =>
        (captured found "1").map lower
      ipv4Addresses := (finditer ipAddress anywhere block).filterMap fun found =>
        captured found.captures "1"
      speedMbps }

/-- The blocks that begin at the matches, each up to the next one. -/
def blocks (output : List Char) : List Found → List (Captures × String)
  | [] => []
  | found :: matches' =>
    let blockEnd := match matches' with
      | [] => output.length
      | next :: _ => next.start
    (found.captures, String.ofList ((output.drop found.start).take (blockEnd - found.start))) ::
      blocks output matches'

/-- `parse_show_interfaces`; nothing when `int` raises. -/
def parseShowInterfaces (output : String) : Option (List InterfaceRecord) :=
  (blocks output.toList (finditer interfaceHeader lineStart output)).mapM fun block =>
    readInterface isalnum block.1 block.2

end

/-! ## What a device prints -/

/-- What a header says of the port before its line protocol: `administratively down` is said of a
port that is shut down, and `down` of an enabled one without a link. -/
inductive HeaderState where
  | administrativelyDown
  | up
  | down
  deriving DecidableEq, Repr

/-- How a header writes it. -/
def HeaderState.text : HeaderState → String
  | administrativelyDown => "administratively down"
  | up => "up"
  | down => "down"

/-- What `show interfaces` prints of one interface: its header, and indented lines. -/
structure InterfaceBlock where
  name : String
  state : HeaderState
  protocolUp : Bool
  trailing : String
  body : List String
  name_word : IsWord name
  trailing_line : '\n' ∉ trailing.toList
  body_indented : ∀ l ∈ body, '\n' ∉ l.toList ∧ ∀ c ∈ l.toList.head?, isSpace c = true

namespace InterfaceBlock

/-- How a header writes the state of the line protocol. -/
def protocol (b : InterfaceBlock) : String :=
  if b.protocolUp then "up" else "down"

/-- The header line. -/
def header (b : InterfaceBlock) : String :=
  b.name ++ " is " ++ b.state.text ++ ", line protocol is " ++ b.protocol ++ b.trailing

/-- The lines of the block. -/
def lines (b : InterfaceBlock) : List String :=
  b.header :: b.body

/-- The characters of the block. -/
def chars (b : InterfaceBlock) : List Char :=
  b.header.toList ++ linesBehind b.body

/-- What the groups of the header pattern capture. -/
def captures (b : InterfaceBlock) : Captures :=
  [("name", b.name), ("admin", b.state.text), ("oper", b.protocol)]

end InterfaceBlock

/-- The output of `show interfaces`. -/
def showInterfaces (bs : List InterfaceBlock) : String :=
  joinLines (bs.flatMap InterfaceBlock.lines)

/-- The part of the output that each block is, with the newline that ends it. -/
def pieces : List InterfaceBlock → List String
  | [] => []
  | [b] => [String.ofList b.chars]
  | b :: bs => String.ofList (b.chars ++ ['\n']) :: pieces bs

/-- There is one piece for each block. -/
lemma length_pieces (bs : List InterfaceBlock) : (pieces bs).length = bs.length := by
  induction bs with
  | nil => rfl
  | cons b bs ih =>
    cases bs with
    | nil => rfl
    | cons b' bs => exact congrArg (· + 1) ih

/-! ## Where the headers are -/

/-- A header matches as a whole, up to what trails it. -/
lemma prefers_interfaceHeader (b : InterfaceBlock) (rest : List Char) :
    interfaceHeader.Prefers (b.header.toList ++ rest) b.captures
      (b.trailing.toList ++ rest) := by
  have hname : ∀ t, (Pattern.plus (.char fun c => !isSpace c)).Prefers
      (b.name.toList ++ (" is ".toList ++ t)) [] (" is ".toList ++ t) := by
    intro t
    refine prefers_plus_char b.name_word.1 (fun c hc => ?_) fun c hc => ?_
    · rw [b.name_word.2 c hc]
      rfl
    · obtain rfl : ' ' = c := by simpa using hc
      decide
  have hadmin : ∀ t, (Pattern.alt (.literal "administratively down")
      (.alt (.literal "up") (.literal "down"))).Prefers (b.state.text.toList ++ t) [] t := by
    intro t
    cases b.state with
    | administrativelyDown => exact prefers_alt_left (prefers_literal _)
    | up =>
      exact prefers_alt_right (results_literal_eq_nil (c := 'a') rfl (by decide))
        (prefers_alt_left (prefers_literal _))
    | down =>
      exact prefers_alt_right (results_literal_eq_nil (c := 'a') rfl (by decide))
        (prefers_alt_right (results_literal_eq_nil (c := 'u') rfl (by decide))
          (prefers_literal _))
  have hoper : ∀ t, (Pattern.alt (.literal "up") (.literal "down")).Prefers
      (b.protocol.toList ++ t) [] t := by
    intro t
    unfold InterfaceBlock.protocol
    cases b.protocolUp with
    | true => exact prefers_alt_left (prefers_literal _)
    | false =>
      exact prefers_alt_right (results_literal_eq_nil (c := 'u') rfl (by decide))
        (prefers_literal _)
  have hall := prefers_seq (prefers_group "name" (hname _)) (prefers_seq (prefers_literal " is ")
    (prefers_seq (prefers_group "admin" (hadmin _))
      (prefers_seq (prefers_literal ", line protocol is ")
        (prefers_group "oper" (hoper (b.trailing.toList ++ rest))))))
  simpa [interfaceHeader, InterfaceBlock.header, InterfaceBlock.captures] using hall

/-- No header begins with white space. -/
lemma results_interfaceHeader_of_isSpace {c : Char} (hc : isSpace c = true) (text : List Char) :
    results interfaceHeader (c :: text) = [] := by
  refine results_seq_eq_nil (results_group_eq_nil _ (results_seq_eq_nil ?_))
  refine results_char_eq_nil fun d hd => ?_
  obtain rfl := Option.some.inj hd
  simp [hc]

/-- A header is one line. -/
lemma not_mem_header (b : InterfaceBlock) : '\n' ∉ b.header.toList := by
  have hname : '\n' ∉ b.name.toList := fun h =>
    absurd (b.name_word.2 _ h) (by decide)
  have hstate : '\n' ∉ b.state.text.toList := by
    cases b.state <;> decide
  have hprotocol : '\n' ∉ b.protocol.toList := by
    unfold InterfaceBlock.protocol
    cases b.protocolUp <;> decide
  simp [InterfaceBlock.header, hname, hstate, hprotocol, b.trailing_line]

/-- At the beginning of a line, a block is found by its header, and holds no other header. -/
lemma finditerFrom_block (b : InterfaceBlock) {before : Option Char} (hbefore : lineStart before)
    (start : ℕ) (rest : List Char) : ∃ e,
      finditerFrom interfaceHeader lineStart start 0 before (b.chars ++ rest) =
        ⟨start, b.captures⟩ ::
          finditerFrom interfaceHeader lineStart (start + b.chars.length) 0 (some e) rest := by
  have hmatch := prefers_interfaceHeader b (linesBehind b.body ++ rest)
  obtain ⟨c, w, hheader⟩ : ∃ c w, b.header.toList = c :: w := by
    refine List.exists_cons_of_ne_nil fun h => ?_
    simp [InterfaceBlock.header, b.name_word.1] at h
  have hline := not_mem_header b
  rw [hheader] at hline
  have hc : c ≠ '\n' := fun h => hline (h ▸ List.mem_cons_self)
  have hw : '\n' ∉ w := fun h => hline (List.mem_cons_of_mem c h)
  -- The match takes the header up to its trailing text, which is on the same line.
  have htail : b.trailing.toList.length ≤ w.length := by
    have hlength := congrArg List.length hheader
    have hname := List.length_pos_of_ne_nil b.name_word.1
    simp only [InterfaceBlock.header, String.toList_append, List.length_append,
      List.length_cons] at hlength
    have hliteral : " is ".toList.length = 4 := rfl
    omega
  have hskip := Nat.sub_le w.length b.trailing.toList.length
  obtain ⟨d, hd⟩ :=
    @finditerFrom_line interfaceHeader w c hc hw _ hskip (start + 1) (linesBehind b.body ++ rest)
  obtain ⟨e, he⟩ := finditerFrom_lines
    (fun c text hc => results_interfaceHeader_of_isSpace hc text) b.body_indented d
    (start + 1 + w.length) rest
  refine ⟨e, ?_⟩
  have htext : b.chars ++ rest = c :: (w ++ (linesBehind b.body ++ rest)) := by
    rw [InterfaceBlock.chars, hheader]
    simp
  have hlength : start + b.chars.length = start + 1 + w.length + (linesBehind b.body).length := by
    rw [InterfaceBlock.chars, hheader]
    simp only [List.length_append, List.length_cons]
    omega
  have hskip : (w ++ (linesBehind b.body ++ rest)).length -
      (b.trailing.toList ++ (linesBehind b.body ++ rest)).length =
        w.length - b.trailing.toList.length := by
    simp only [List.length_append]
    omega
  rw [hheader, List.cons_append, Prefers] at hmatch
  simp only [htext, finditerFrom, hbefore, if_true, hmatch, hskip]
  rw [hd, he, hlength]

/-- Where the headers of the blocks are, and what they capture. -/
def headersFrom : ℕ → List InterfaceBlock → List Found
  | _, [] => []
  | start, b :: bs => ⟨start, b.captures⟩ :: headersFrom (start + b.chars.length + 1) bs

/-- The characters of the output. -/
def outputChars : List InterfaceBlock → List Char
  | [] => []
  | [b] => b.chars
  | b :: bs => b.chars ++ '\n' :: outputChars bs

/-- The headers are found where the blocks begin. -/
lemma finditerFrom_outputChars (bs : List InterfaceBlock) {before : Option Char}
    (hbefore : lineStart before) (start : ℕ) :
    finditerFrom interfaceHeader lineStart start 0 before (outputChars bs) =
      headersFrom start bs := by
  induction bs generalizing start before with
  | nil => rfl
  | cons b bs ih =>
    cases bs with
    | nil =>
      obtain ⟨e, he⟩ := finditerFrom_block b hbefore start []
      rw [List.append_nil] at he
      exact he
    | cons b' bs =>
      obtain ⟨e, he⟩ := finditerFrom_block b hbefore start ('\n' :: outputChars (b' :: bs))
      rw [outputChars, he, finditerFrom_of_results_eq_nil
        (results_interfaceHeader_of_isSpace (by decide) _), ih (by decide)]
      · rfl
      · simp

/-- Between the headers lie the pieces of the output. -/
lemma blocks_headersFrom (front : List Char) (bs : List InterfaceBlock) :
    blocks (front ++ outputChars bs) (headersFrom front.length bs) =
      (bs.map InterfaceBlock.captures).zip (pieces bs) := by
  induction bs generalizing front with
  | nil => rfl
  | cons b bs ih =>
    cases bs with
    | nil =>
      simp [headersFrom, blocks, outputChars, pieces]
    | cons b' bs =>
      have h := ih (front ++ b.chars ++ ['\n'])
      have hlength : (front ++ b.chars ++ ['\n']).length = front.length + b.chars.length + 1 := by
        simp only [List.length_append, List.length_singleton]
      have htext : front ++ outputChars (b :: b' :: bs) =
          front ++ b.chars ++ ['\n'] ++ outputChars (b' :: bs) := by
        simp [outputChars]
      have hpiece : ((front ++ b.chars ++ ['\n'] ++ outputChars (b' :: bs)).drop
          front.length).take (front.length + b.chars.length + 1 - front.length) =
            b.chars ++ ['\n'] := by
        have htake : front.length + b.chars.length + 1 - front.length =
            (b.chars ++ ['\n']).length := by
          rw [List.length_append, List.length_singleton]
          omega
        rw [List.append_assoc front, List.append_assoc front, List.drop_left, htake,
          List.take_left]
      rw [hlength] at h
      rw [htext]
      change (b.captures, String.ofList (((front ++ b.chars ++ ['\n'] ++
        outputChars (b' :: bs)).drop front.length).take
          (front.length + b.chars.length + 1 - front.length))) ::
        blocks (front ++ b.chars ++ ['\n'] ++ outputChars (b' :: bs))
          (headersFrom (front.length + b.chars.length + 1) (b' :: bs)) = _
      rw [hpiece, h]
      rfl

/-- The first line comes before the others. -/
lemma intercalate_lines (l : String) (lines : List String) :
    (joinLines (l :: lines)).toList = l.toList ++ linesBehind lines := by
  rw [joinLines, String.toList_intercalate]
  induction lines generalizing l with
  | nil => simp [linesBehind]
  | cons m lines ih =>
    rw [List.map_cons, List.map_cons, List.intercalate_cons_cons, ← List.map_cons, ih]
    simp [linesBehind]

/-- The output, character by character. -/
lemma toList_showInterfaces (bs : List InterfaceBlock) :
    (showInterfaces bs).toList = outputChars bs := by
  induction bs with
  | nil => rfl
  | cons b bs ih =>
    rw [showInterfaces, List.flatMap_cons, InterfaceBlock.lines, List.cons_append,
      intercalate_lines]
    cases bs with
    | nil => simp [outputChars, InterfaceBlock.chars]
    | cons b' bs =>
      rw [showInterfaces, List.flatMap_cons, InterfaceBlock.lines, List.cons_append,
        intercalate_lines] at ih
      rw [outputChars, ← ih]
      · simp [InterfaceBlock.chars, InterfaceBlock.lines, linesBehind]
      · simp

section

variable [UnicodeDatabase] (isalnum : Char → Bool)

/-- The interfaces of the output are read one by one, each from its header and its piece. -/
theorem parseShowInterfaces_showInterfaces (bs : List InterfaceBlock) :
    parseShowInterfaces isalnum (showInterfaces bs) =
      ((bs.map InterfaceBlock.captures).zip (pieces bs)).mapM fun block =>
        readInterface isalnum block.1 block.2 := by
  have hblocks := blocks_headersFrom [] bs
  rw [List.nil_append, List.length_nil] at hblocks
  rw [parseShowInterfaces, finditer, toList_showInterfaces,
    finditerFrom_outputChars bs (by decide), hblocks]

end

end Terraformer
