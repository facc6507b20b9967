import Terraformer.Scanner

/-!
# Telnet bytes

`TelnetTerminalSession._consume` takes the bytes of a Telnet stream apart into terminal output
and negotiation replies.  One pass of its loop is `step`; the loop itself is the scanner over
it, so that what the read loop does with the bytes it carries over is `Scanner.feed`.
-/

namespace Terraformer.Telnet

/-- `_IAC`. -/
def iac : UInt8 := 255

/-- `_DONT`. -/
def dont : UInt8 := 254

/-- `_DO`. -/
def do' : UInt8 := 253

/-- `_WONT`. -/
def wont : UInt8 := 252

/-- `_WILL`. -/
def will : UInt8 := 251

/-- `_SB`. -/
def sb : UInt8 := 250

/-- `_SE`. -/
def se : UInt8 := 240

/-- `_ECHO`. -/
def echo : UInt8 := 1

/-- `_SUPPRESS_GO_AHEAD`. -/
def suppressGoAhead : UInt8 := 3

/-- `_ACCEPTED_SERVER_OPTIONS`. -/
def acceptedServerOptions : List UInt8 := [echo, suppressGoAhead]

/-- `_negotiate`. -/
def negotiate (command option : UInt8) : List UInt8 :=
  if command = will then
    let allow := option ∈ acceptedServerOptions
    [iac, if allow then do' else dont, option]
  else if command = do' then [iac, wont, option]
  else []

/-- What is behind the first `IAC SE`. -/
def findEnd : List UInt8 → Option (List UInt8)
  | [] => none
  | b :: rest => if b = iac ∧ rest.head? = some se then some rest.tail else findEnd rest

/-- What one pass of the loop adds: a byte of terminal output, or the replies to a command. -/
inductive Token where
  | payload (byte : UInt8)
  | replies (bytes : List UInt8)
  deriving DecidableEq, Repr

/-- One pass of the loop of `_consume` over the bytes from its index on; nothing when these are
to be carried over. -/
def step : List UInt8 → Option (Token × List UInt8)
  | [] => none
  | byte :: rest =>
    if byte ≠ iac then some (.payload byte, rest)
    else
      match rest with
      | [] => none
      | command :: rest =>
        if command = iac then some (.payload iac, rest)
        else if command = sb then (findEnd rest).map fun after => (.replies [], after)
        else if command ∈ [will, wont, do', dont] then
          match rest with
          | [] => none
          | option :: rest => some (.replies (negotiate command option), rest)
        else some (.replies [], rest)

/-! ## The scanner -/

/-- What is behind the end of a subnegotiation is shorter. -/
lemma findEnd_length {x r : List UInt8} (h : findEnd x = some r) : r.length < x.length := by
  induction x with
  | nil => cases h
  | cons b x ih =>
    rw [findEnd] at h
    split at h
    · cases h
      rw [List.length_tail, List.length_cons]
      omega
    · have := ih h
      rw [List.length_cons]
      omega

/-- The end of a subnegotiation is found wherever more follows. -/
lemma findEnd_append {x r : List UInt8} (y : List UInt8) (h : findEnd x = some r) :
    findEnd (x ++ y) = some (r ++ y) := by
  induction x with
  | nil => cases h
  | cons b x ih =>
    rw [findEnd] at h
    rw [List.cons_append, findEnd]
    split at h
    · rename_i hend
      obtain ⟨c, x, rfl⟩ := List.exists_cons_of_ne_nil (l := x) (by rintro rfl; simp at hend)
      rw [if_pos (by simpa using hend)]
      cases h
      rfl
    · rename_i hend
      rw [if_neg, ih h]
      rintro ⟨hb, hse⟩
      cases x with
      | nil => cases h
      | cons c x => exact hend ⟨hb, by simpa using hse⟩

/-- A token takes at least one byte. -/
lemma step_shorter {x r : List UInt8} {t : Token} (h : step x = some (t, r)) :
    r.length < x.length := by
  rcases x with - | ⟨byte, - | ⟨command, rest⟩⟩
  · cases h
  · simp only [step] at h
    split at h
    · cases h
      simp
    · cases h
  · simp only [step] at h
    split_ifs at h with hbyte hcommand hsb hnegotiate
    · cases h
      simp
    · cases h
      simp
    · obtain ⟨after, hafter, heq⟩ := Option.map_eq_some_iff.mp h
      cases heq
      have := findEnd_length hafter
      simp
      omega
    · cases rest with
      | nil => cases h
      | cons option rest =>
        cases h
        simp
        omega
    · cases h
      simp

/-- A token is read alike wherever more follows. -/
lemma step_stable {x r : List UInt8} {t : Token} (y : List UInt8) (h : step x = some (t, r)) :
    step (x ++ y) = some (t, r ++ y) := by
  rcases x with - | ⟨byte, - | ⟨command, rest⟩⟩
  · cases h
  · simp only [step] at h
    split at h
    · rename_i hbyte
      cases h
      simp [step, hbyte]
    · cases h
  · simp only [step] at h
    simp only [List.cons_append, step]
    split_ifs at h ⊢ with hbyte hcommand hsb hnegotiate
    · cases h
      rfl
    · cases h
      rfl
    · obtain ⟨after, hafter, heq⟩ := Option.map_eq_some_iff.mp h
      cases heq
      rw [findEnd_append y hafter]
      rfl
    · cases rest with
      | nil => cases h
      | cons option rest =>
        cases h
        rfl
    · cases h
      rfl

/-- The loop of `_consume`. -/
def scanner : Scanner UInt8 Token where
  step := step
  shorter := step_shorter
  stable := step_stable

/-! ## Payload and replies -/

/-- The terminal output among the tokens. -/
def payloadOf (tokens : List Token) : List UInt8 :=
  tokens.filterMap fun
    | .payload byte => some byte
    | .replies _ => none

/-- The replies among the tokens. -/
def repliesOf (tokens : List Token) : List UInt8 :=
  tokens.flatMap fun
    | .payload _ => []
    | .replies bytes => bytes

/-- The payload of two lists of tokens follows each other. -/
@[simp] lemma payloadOf_append (a b : List Token) :
    payloadOf (a ++ b) = payloadOf a ++ payloadOf b :=
  List.filterMap_append

/-- The replies to two lists of tokens follow each other. -/
@[simp] lemma repliesOf_append (a b : List Token) :
    repliesOf (a ++ b) = repliesOf a ++ repliesOf b :=
  List.flatMap_append

/-- A payload byte is payload. -/
@[simp] lemma payloadOf_payload (byte : UInt8) (tokens : List Token) :
    payloadOf (.payload byte :: tokens) = byte :: payloadOf tokens := rfl

/-- A reply is no payload. -/
@[simp] lemma payloadOf_replies (bytes : List UInt8) (tokens : List Token) :
    payloadOf (.replies bytes :: tokens) = payloadOf tokens := rfl

/-- A payload byte is not replied to. -/
@[simp] lemma repliesOf_payload (byte : UInt8) (tokens : List Token) :
    repliesOf (.payload byte :: tokens) = repliesOf tokens := rfl

/-- A reply is sent in front of the others. -/
@[simp] lemma repliesOf_replies (bytes : List UInt8) (tokens : List Token) :
    repliesOf (.replies bytes :: tokens) = bytes ++ repliesOf tokens := rfl

/-- What `_consume` returns, and what it leaves in `_pending`. -/
structure Consumed where
  payload : List UInt8
  replies : List UInt8
  pending : List UInt8
  deriving DecidableEq, Repr

/-- `_consume`. -/
def consume (data : List UInt8) : Consumed :=
  let (tokens, pending) := scanner.scan data
  ⟨payloadOf tokens, repliesOf tokens, pending⟩

end Terraformer.Telnet
