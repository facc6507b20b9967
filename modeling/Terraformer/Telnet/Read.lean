import Terraformer.Telnet.Consume
import Terraformer.Text.Utf8

/-!
# Telnet reads

`TelnetTerminalSession.read` waits for terminal output and returns it decoded.  An empty string
is its way to say that the stream has ended, and the relay of the terminal socket closes the
session on it.  A chunk whose output stays within one character that it does not complete is
decoded to an empty string as well.

`tellsTruly_iff` says when a session is never closed for that reason.  What its reads return is
the decoding of what has been received in any case.
-/

namespace Terraformer.Telnet

open Utf8 (decoder Unfinished)

/-- What a `TelnetTerminalSession` keeps between reads, and the replies it has written. -/
structure Session where
  pending : List UInt8
  undecoded : List UInt8
  written : List UInt8

/-- A new session. -/
def Session.new : Session := ⟨[], [], []⟩

/-- A read that has returned: its text, the chunks it got from the reader, and whether the last
answer of the reader was empty, as it is at the end of the stream only. -/
structure ReadResult where
  text : String
  taken : List (List UInt8)
  ended : Bool
  session : Session
  rest : List (List UInt8)

/-- What is kept after a chunk. -/
def Session.take (session : Session) (chunk : List UInt8) : Session :=
  let consumed := consume (session.pending ++ chunk)
  { pending := consumed.pending
    undecoded := (decoder.scan (session.undecoded ++ consumed.payload)).2
    written := session.written ++ consumed.replies }

/-- `TelnetTerminalSession.read`, for a reader that returns the chunks and then nothing more. -/
def read (session : Session) : List (List UInt8) → ReadResult
  | [] => ⟨"", [], true, session, []⟩
  | chunk :: rest =>
    if chunk = [] then ⟨"", [chunk], true, session, rest⟩
    else
      let consumed := consume (session.pending ++ chunk)
      if consumed.payload ≠ [] then
        ⟨String.ofList (decoder.scan (session.undecoded ++ consumed.payload)).1, [chunk], false,
          session.take chunk, rest⟩
      else
        -- Negotiation only, which leaves the decoder alone: the read goes on.
        let result := read { session with
          pending := consumed.pending
          written := session.written ++ consumed.replies } rest
        { result with taken := chunk :: result.taken }

/-- A number of reads, one after another. -/
def reads : ℕ → Session → List (List UInt8) → List ReadResult
  | 0, _, _ => []
  | n + 1, session, chunks =>
    let result := read session chunks
    result :: reads n result.session result.rest

/-- The terminal output among the bytes of some chunks. -/
def terminalBytes (chunks : List (List UInt8)) : List UInt8 :=
  (consume chunks.flatten).payload

/-- The characters that some bytes hold in full, with replacements. -/
def decoded (bytes : List UInt8) : List Char := (decoder.scan bytes).1

/-- The bytes of a character that is not complete yet. -/
def leftOver (bytes : List UInt8) : List UInt8 := (decoder.scan bytes).2

/-- An empty read means the end of the stream, and the reads together are the decoding of the
terminal output received. -/
def TellsTruly (chunks : List (List UInt8)) : Prop :=
  ∀ n,
    (∀ r ∈ reads n Session.new chunks, r.text = "" → r.ended = true) ∧
    (reads n Session.new chunks).flatMap (fun r => r.text.toList) =
      decoded (terminalBytes ((reads n Session.new chunks).flatMap ReadResult.taken))

/-- The chunk brings terminal output, but all of it belongs to a character that is not complete
with it. -/
def WithinCharacter (before : List (List UInt8)) (chunk : List UInt8) : Prop :=
  ∃ payload, payload ≠ [] ∧ terminalBytes (before ++ [chunk]) = terminalBytes before ++ payload ∧
    Unfinished (leftOver (terminalBytes before) ++ payload)

/-! ## What is kept between reads -/

/-- What is kept after some chunks. -/
def Session.after (chunks : List (List UInt8)) : Session where
  pending := (consume chunks.flatten).pending
  undecoded := leftOver (terminalBytes chunks)
  written := (consume chunks.flatten).replies

/-- The output that a chunk brings. -/
def payloadAfter (before : List (List UInt8)) (chunk : List UInt8) : List UInt8 :=
  (consume ((consume before.flatten).pending ++ chunk)).payload

/-- Two pieces are consumed one after the other, the second behind what is pending. -/
lemma consume_append (x y : List UInt8) :
    consume (x ++ y) =
      ⟨(consume x).payload ++ (consume ((consume x).pending ++ y)).payload,
        (consume x).replies ++ (consume ((consume x).pending ++ y)).replies,
        (consume ((consume x).pending ++ y)).pending⟩ := by
  simp only [consume]
  rw [Scanner.scan_append, payloadOf_append, repliesOf_append]

/-- A further chunk adds its payload. -/
lemma terminalBytes_concat (before : List (List UInt8)) (chunk : List UInt8) :
    terminalBytes (before ++ [chunk]) = terminalBytes before ++ payloadAfter before chunk := by
  rw [terminalBytes, List.flatten_append, List.flatten_singleton, consume_append]
  rfl

/-- Two pieces are decoded one after the other, the second behind what is left over. -/
lemma decoded_append (x y : List UInt8) :
    decoded (x ++ y) = decoded x ++ decoded (leftOver x ++ y) := by
  rw [decoded, Scanner.scan_append]
  rfl

/-- What two pieces leave over is what the second leaves over behind that of the first. -/
lemma leftOver_append (x y : List UInt8) : leftOver (x ++ y) = leftOver (leftOver x ++ y) := by
  rw [leftOver, Scanner.scan_append]
  rfl

/-- What is left over stays so. -/
@[simp] lemma leftOver_leftOver (x : List UInt8) : leftOver (leftOver x) = leftOver x := by
  simp [leftOver]

/-- A further chunk is taken into the session. -/
lemma take_after (before : List (List UInt8)) (chunk : List UInt8) :
    (Session.after before).take chunk = Session.after (before ++ [chunk]) := by
  simp only [Session.take, Session.after]
  rw [terminalBytes_concat, leftOver_append, List.flatten_append, List.flatten_singleton,
    consume_append before.flatten]
  rfl

/-- Nothing is decoded of some bytes exactly when they are nothing, or the beginning of a
character. -/
lemma decoded_eq_nil_iff (bytes : List UInt8) :
    decoded bytes = [] ↔ bytes = [] ∨ Unfinished bytes := by
  rw [← Utf8.readChar_eq_none_iff]
  constructor
  · intro h
    rw [Option.eq_none_iff_forall_not_mem]
    rintro ⟨c, r⟩ hstep
    have hscan : decoder.scan bytes = (c :: (decoder.scan r).1, (decoder.scan r).2) :=
      Scanner.scan_of_some hstep
    rw [decoded, hscan] at h
    cases h
  · intro h
    have hscan : decoder.scan bytes = ([], bytes) := Scanner.scan_of_none h
    rw [decoded, hscan]

/-- A chunk is within a character exactly when it brings output that is decoded to nothing. -/
lemma withinCharacter_iff (before : List (List UInt8)) (chunk : List UInt8) :
    WithinCharacter before chunk ↔ payloadAfter before chunk ≠ [] ∧
      decoded (leftOver (terminalBytes before) ++ payloadAfter before chunk) = [] := by
  rw [WithinCharacter, terminalBytes_concat]
  constructor
  · rintro ⟨payload, hne, heq, hunfinished⟩
    obtain rfl := List.append_cancel_left heq
    exact ⟨hne, (decoded_eq_nil_iff _).mpr (.inr hunfinished)⟩
  · rintro ⟨hne, hdecoded⟩
    refine ⟨_, hne, rfl, ((decoded_eq_nil_iff _).mp hdecoded).resolve_left ?_⟩
    exact fun h => hne (List.append_eq_nil_iff.mp h).2

/-! ## One read -/

/-- An empty answer of the reader leaves everything as it is. -/
@[simp] lemma after_concat_nil (before : List (List UInt8)) :
    Session.after (before ++ [[]]) = Session.after before := by
  simp [Session.after, terminalBytes]

/-- A read on nothing more. -/
lemma read_nil (session : Session) : read session [] = ⟨"", [], true, session, []⟩ := rfl

/-- A read that gets an empty chunk takes it for the end of the session, and puts it back. -/
lemma read_empty (session : Session) (rest : List (List UInt8)) :
    read session ([] :: rest) = ⟨"", [[]], true, session, rest⟩ := rfl

/-- A read that gets terminal output returns it. -/
lemma read_output {before : List (List UInt8)} {chunk : List UInt8}
    (hne : payloadAfter before chunk ≠ []) (rest : List (List UInt8)) :
    read (Session.after before) (chunk :: rest) =
      ⟨String.ofList (decoded (leftOver (terminalBytes before) ++ payloadAfter before chunk)),
        [chunk], false, Session.after (before ++ [chunk]), rest⟩ := by
  have hchunk : chunk ≠ [] := by
    rintro rfl
    exact hne (by simp [payloadAfter, consume, Scanner.scan_scan, payloadOf])
  have houtput : (consume ((Session.after before).pending ++ chunk)).payload ≠ [] := hne
  simp only [read, if_neg hchunk, ← take_after, if_pos houtput]
  rfl

/-- A read that gets negotiation only goes on. -/
lemma read_quiet {before : List (List UInt8)} {chunk : List UInt8} (hchunk : chunk ≠ [])
    (hnil : payloadAfter before chunk = []) (rest : List (List UInt8)) :
    read (Session.after before) (chunk :: rest) =
      { read (Session.after (before ++ [chunk])) rest with
        taken := chunk :: (read (Session.after (before ++ [chunk])) rest).taken } := by
  have hsession : Session.after (before ++ [chunk]) =
      { Session.after before with
        pending := (consume ((consume before.flatten).pending ++ chunk)).pending
        written := (consume before.flatten).replies ++
          (consume ((consume before.flatten).pending ++ chunk)).replies } := by
    simp only [Session.after]
    rw [terminalBytes_concat, hnil, List.append_nil, List.flatten_append, List.flatten_singleton,
      consume_append before.flatten]
  have hquiet : ¬ (consume ((Session.after before).pending ++ chunk)).payload ≠ [] :=
    not_not.mpr hnil
  rw [hsession]
  simp only [read, if_neg hchunk, if_neg hquiet]
  rfl

/-- What a read does after some chunks: it takes chunks from the front, it adds what these decode
to, and when it is empty without an end its last chunk was within a character. -/
lemma read_after (before chunks : List (List UInt8)) :
    let result := read (Session.after before) chunks
    result.session = Session.after (before ++ result.taken) ∧
      chunks = result.taken ++ result.rest ∧
      decoded (terminalBytes (before ++ result.taken)) =
        decoded (terminalBytes before) ++ result.text.toList ∧
      (result.text = "" → result.ended = false →
        ∃ front chunk, result.taken = front ++ [chunk] ∧
          WithinCharacter (before ++ front) chunk) := by
  induction chunks generalizing before with
  | nil => simp [read_nil]
  | cons chunk rest ih =>
    by_cases hchunk : chunk = []
    · subst hchunk
      simp [read_empty, terminalBytes]
    by_cases hnil : payloadAfter before chunk = []
    · rw [read_quiet hchunk hnil]
      obtain ⟨hsession, hrest, hdecoded, hempty⟩ := ih (before ++ [chunk])
      refine ⟨?_, ?_, ?_, ?_⟩
      · rw [hsession, List.append_assoc]
        rfl
      · exact congrArg (chunk :: ·) hrest
      · rw [terminalBytes_concat, hnil, List.append_nil] at hdecoded
        rw [← hdecoded, List.append_assoc]
        rfl
      · intro htext hended
        obtain ⟨front, last, htaken, hwithin⟩ := hempty htext hended
        exact ⟨chunk :: front, last, congrArg (chunk :: ·) htaken, by
          rwa [List.append_assoc] at hwithin⟩
    · rw [read_output hnil]
      refine ⟨rfl, rfl, ?_, ?_⟩
      · rw [terminalBytes_concat, decoded_append, String.toList_ofList]
      · intro htext _
        refine ⟨[], chunk, rfl, ?_⟩
        rw [List.append_nil, withinCharacter_iff]
        exact ⟨hnil, by simpa using congrArg String.toList htext⟩

/-! ## All reads -/

/-- The reads together are the decoding of what they got. -/
lemma decoded_reads (n : ℕ) (before chunks : List (List UInt8)) :
    decoded (terminalBytes before) ++
        (reads n (Session.after before) chunks).flatMap (fun r => r.text.toList) =
      decoded (terminalBytes
        (before ++ (reads n (Session.after before) chunks).flatMap ReadResult.taken)) := by
  induction n generalizing before chunks with
  | zero => simp [reads]
  | succ n ih =>
    obtain ⟨hsession, -, hdecoded, -⟩ := read_after before chunks
    rw [reads, List.flatMap_cons, List.flatMap_cons, ← List.append_assoc, ← hdecoded,
      ← List.append_assoc before, hsession, ih]

/-- A read that is empty before the end has ended within a character. -/
lemma ended_of_reads (n : ℕ) (before chunks : List (List UInt8))
    (h : ∀ front chunk rest, chunks = front ++ chunk :: rest →
      ¬ WithinCharacter (before ++ front) chunk) :
    ∀ r ∈ reads n (Session.after before) chunks, r.text = "" → r.ended = true := by
  induction n generalizing before chunks with
  | zero => simp [reads]
  | succ n ih =>
    obtain ⟨hsession, hrest, -, hempty⟩ := read_after before chunks
    rw [reads, List.forall_mem_cons]
    constructor
    · intro htext
      by_contra hended
      obtain ⟨front, chunk, htaken, hwithin⟩ := hempty htext (Bool.eq_false_of_not_eq_true hended)
      rw [htaken, List.append_assoc] at hrest
      exact h front chunk _ hrest hwithin
    · rw [hsession]
      refine ih _ _ fun front chunk rest hsplit => ?_
      rw [hsplit, ← List.append_assoc] at hrest
      rw [List.append_assoc]
      exact h _ chunk rest hrest

/-- The first chunk within a character is returned as an empty read. -/
lemma exists_empty_read (before front : List (List UInt8)) (chunk : List UInt8)
    (rest : List (List UInt8)) (h : WithinCharacter (before ++ front) chunk) :
    ∃ n, ∃ r ∈ reads n (Session.after before) (front ++ chunk :: rest),
      r.text = "" ∧ r.ended = false := by
  induction front generalizing before with
  | nil =>
    rw [List.append_nil, withinCharacter_iff] at h
    refine ⟨1, _, List.mem_singleton_self _, ?_⟩
    rw [List.nil_append, read_output h.1, h.2]
    exact ⟨rfl, rfl⟩
  | cons c front ih =>
    obtain ⟨n, r, hr, hempty⟩ := ih (before ++ [c]) (by rwa [List.append_assoc])
    by_cases hc : c = []
    · subst hc
      rw [after_concat_nil] at hr
      exact ⟨n + 1, r, List.mem_cons_of_mem _ hr, hempty⟩
    by_cases hnil : payloadAfter before c = []
    · -- The read that begins before `c` is the one that begins behind it, so it is the same run.
      cases n with
      | zero => cases hr
      | succ n =>
        rw [reads, List.mem_cons] at hr
        rcases hr with rfl | hr
        · refine ⟨1, _, List.mem_singleton_self _, ?_⟩
          rw [List.cons_append, read_quiet hc hnil]
          exact hempty
        · refine ⟨n + 1, r, List.mem_cons_of_mem _ ?_, hempty⟩
          rw [List.cons_append, read_quiet hc hnil]
          exact hr
    · refine ⟨n + 1, r, List.mem_cons_of_mem _ ?_, hempty⟩
      rw [List.cons_append, read_output hnil]
      exact hr

/-- A session without chunks is new. -/
lemma after_nil : Session.after [] = Session.new := by
  simp [Session.after, Session.new, terminalBytes, consume, leftOver, payloadOf, repliesOf]

/-- The reads of a session tell the truth exactly when no chunk that brings terminal output stays
within a character. -/
theorem tellsTruly_iff (chunks : List (List UInt8)) :
    TellsTruly chunks ↔
      ∀ before chunk rest, chunks = before ++ chunk :: rest → ¬ WithinCharacter before chunk := by
  constructor
  · rintro htruly before chunk rest rfl hwithin
    obtain ⟨n, r, hr, htext, hended⟩ := exists_empty_read [] before chunk rest hwithin
    rw [after_nil] at hr
    exact absurd ((htruly n).1 r hr htext) (by simp [hended])
  · intro h n
    have hends := ended_of_reads n [] chunks fun front chunk rest hsplit => h front chunk rest hsplit
    have hdecoded := decoded_reads n [] chunks
    rw [after_nil] at hends hdecoded
    refine ⟨hends, ?_⟩
    rw [List.nil_append] at hdecoded
    rw [← hdecoded]
    simp [terminalBytes, decoded, consume, payloadOf]

/-- A chunk that ends behind the first of the two bytes of an `é`: the session looks closed. -/
theorem not_tellsTruly_split : ¬ TellsTruly [[0xC3], [0xA9]] := by
  have hscan : scanner.scan [0xC3] = ([.payload 0xC3], []) :=
    (Scanner.scan_of_some rfl).trans (by rw [Scanner.scan_nil])
  have hpayload : terminalBytes ([] ++ [[0xC3]]) = terminalBytes [] ++ [0xC3] := by
    simp [terminalBytes, consume, hscan, payloadOf]
  have hunfinished : Unfinished (leftOver (terminalBytes []) ++ [0xC3]) := by
    refine ⟨List.append_ne_nil_of_right_ne_nil _ (List.cons_ne_nil _ _), 'é', [0xA9],
      List.cons_ne_nil _ _, ?_⟩
    have hnil : leftOver (terminalBytes []) = [] := by
      simp [leftOver, terminalBytes, consume, payloadOf]
    rw [hnil]
    decide
  obtain ⟨n, r, hr, htext, hended⟩ :=
    exists_empty_read [] [] [0xC3] [[0xA9]] ⟨[0xC3], List.cons_ne_nil _ _, hpayload, hunfinished⟩
  rw [after_nil] at hr
  intro h
  exact absurd ((h n).1 r hr htext) (by simp [hended])

end Terraformer.Telnet
