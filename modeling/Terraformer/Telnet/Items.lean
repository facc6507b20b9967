import Terraformer.Telnet.Consume

/-!
# Telnet items

A Telnet stream as its sender means it: data, negotiations, subnegotiations and other commands,
one `Item` after another.  The read loop gets the encoding of the items in chunks that are cut
anywhere.

`consume` searches for the end of a subnegotiation in the encoded payload, where an escaped 255
in front of the byte 240 looks the same as the end.  What is behind it in the payload then
reaches the terminal.  `received_iff` says that this is the only thing that can go wrong: the
items are received as they were sent exactly when no subnegotiation has such a pair before its
last two bytes.
-/

namespace Terraformer.Telnet

/-- What a Telnet stream is made of. -/
inductive Item where
  | data (byte : UInt8)
  | negotiation (command : {byte : UInt8 // byte ∈ [will, wont, do', dont]}) (option : UInt8)
  | subnegotiation (payload : List UInt8)
  | other (command : {byte : UInt8 // byte ∉ [iac, sb, will, wont, do', dont]})

/-- Bytes with every 255 doubled. -/
def escape (bytes : List UInt8) : List UInt8 :=
  bytes.flatMap fun b => if b = iac then [iac, iac] else [b]

namespace Item

/-- The bytes an item is sent as. -/
def encode : Item → List UInt8
  | data byte => escape [byte]
  | negotiation command option => [iac, command, option]
  | subnegotiation payload => iac :: sb :: (escape payload ++ [iac, se])
  | other command => [iac, command]

/-- The terminal output an item stands for. -/
def shown : Item → List UInt8
  | data byte => [byte]
  | _ => []

/-- The reply an item is due: a `WILL` is accepted for echo and suppress-go-ahead only, a `DO` is
refused, and nothing else is answered. -/
def due : Item → List UInt8
  | negotiation command option =>
    if command = will then
      [iac, if option = echo ∨ option = suppressGoAhead then do' else dont, option]
    else if command = do' then [iac, wont, option]
    else []
  | _ => []

/-- An escaped 255 in front of a 240 ends the payload of a subnegotiation, if it stands there at
all. -/
def Contained : Item → Prop
  | subnegotiation payload => ∀ a b, payload = a ++ iac :: se :: b → b = []
  | _ => True

/-- The part of a subnegotiation that reaches the terminal. -/
def leak : Item → List UInt8
  | subnegotiation payload => (findEnd payload).getD []
  | _ => []

end Item

/-- The state of the read loop: all output and all replies so far, and `_pending`. -/
def receive (state : Consumed) (chunk : List UInt8) : Consumed :=
  let consumed := consume (state.pending ++ chunk)
  ⟨state.payload ++ consumed.payload, state.replies ++ consumed.replies, consumed.pending⟩

/-- The items are received as they were sent. -/
def Received (items : List Item) (chunks : List (List UInt8)) : Prop :=
  chunks.foldl receive ⟨[], [], []⟩ =
    ⟨items.flatMap Item.shown, items.flatMap Item.due, []⟩

/-! ## The end of a subnegotiation -/

/-- Bytes are escaped one by one. -/
lemma escape_cons (b : UInt8) (bytes : List UInt8) :
    escape (b :: bytes) = escape [b] ++ escape bytes := by
  simp [escape]

/-- The first byte of an escaped text is that of the text. -/
lemma head?_escape_append (bytes rest : List UInt8) (h : bytes ≠ []) :
    (escape bytes ++ rest).head? = bytes.head? := by
  obtain ⟨b, bytes, rfl⟩ := List.exists_cons_of_ne_nil h
  by_cases hb : b = iac
  · simp [escape, hb]
  · simp [escape, hb]

/-- The end of a subnegotiation is not `IAC`. -/
lemma se_ne_iac : se ≠ iac := by decide

/-- The search finds the pair that the payload itself holds, or else the end of the
subnegotiation. -/
lemma findEnd_escape (payload rest : List UInt8) :
    findEnd (escape payload ++ iac :: se :: rest) =
      some (match findEnd payload with
        | none => rest
        | some b => escape b ++ iac :: se :: rest) := by
  induction payload with
  | nil => simp [escape, findEnd]
  | cons b payload ih =>
    by_cases hb : b = iac
    · subst hb
      have hescape : escape (iac :: payload) = iac :: iac :: escape payload := by
        simp [escape]
      rw [hescape, List.cons_append, List.cons_append, findEnd, if_neg (by simp [se_ne_iac.symm]),
        findEnd]
      cases payload with
      | nil => simp [escape, se_ne_iac.symm, findEnd]
      | cons c payload =>
        have hhead : (escape (c :: payload) ++ iac :: se :: rest).head? = some c :=
          head?_escape_append _ _ (List.cons_ne_nil c payload)
        by_cases hc : c = se
        · subst hc
          have hse : escape (se :: payload) = se :: escape payload := by
            simp [escape, se_ne_iac]
          simp [hse, findEnd]
        · rw [hhead, if_neg (by simp [hc]), ih, findEnd.eq_2 iac, if_neg (by simp [hc])]
    · have hescape : escape (b :: payload) = b :: escape payload := by
        simp [escape, hb]
      rw [hescape, List.cons_append, findEnd, if_neg (fun h => hb h.1), ih, findEnd.eq_2 b,
        if_neg (fun h => hb h.1)]

/-- Where the search ends. -/
lemma findEnd_eq_some {x b : List UInt8} (h : findEnd x = some b) :
    ∃ a, x = a ++ iac :: se :: b := by
  induction x with
  | nil => cases h
  | cons c x ih =>
    rw [findEnd] at h
    split_ifs at h with hend
    · obtain ⟨rfl, hse⟩ := hend
      cases x with
      | nil => simp at hse
      | cons d x =>
        obtain rfl : d = se := by simpa using hse
        cases h
        exact ⟨[], rfl⟩
    · obtain ⟨a, rfl⟩ := ih h
      exact ⟨c :: a, rfl⟩

/-- The search stops at the first pair, so no other is longer behind. -/
lemma findEnd_append_pair (a b : List UInt8) :
    ∃ c, findEnd (a ++ iac :: se :: b) = some c ∧ b.length ≤ c.length := by
  induction a with
  | nil => exact ⟨b, by simp [findEnd], le_rfl⟩
  | cons d a ih =>
    rw [List.cons_append, findEnd]
    split_ifs with hend
    · refine ⟨_, rfl, ?_⟩
      simp only [List.length_tail, List.length_append, List.length_cons]
      omega
    · exact ih

/-- An item leaks nothing exactly when it is contained. -/
lemma leak_eq_nil_iff (item : Item) : item.leak = [] ↔ item.Contained := by
  cases item with
  | data | negotiation | other => simp [Item.leak, Item.Contained]
  | subnegotiation payload =>
    simp only [Item.leak, Item.Contained]
    constructor
    · rintro h a b rfl
      obtain ⟨c, hc, hlength⟩ := findEnd_append_pair a b
      rw [hc, Option.getD_some] at h
      subst h
      exact List.eq_nil_of_length_eq_zero (Nat.le_zero.mp hlength)
    · intro h
      cases hfind : findEnd payload with
      | none => rfl
      | some b =>
        obtain ⟨a, ha⟩ := findEnd_eq_some hfind
        exact h a b ha

/-! ## Items one after another -/

/-- What is consumed, with payload and replies in front of it. -/
def Consumed.behind (payload replies : List UInt8) (rest : Consumed) : Consumed :=
  ⟨payload ++ rest.payload, replies ++ rest.replies, rest.pending⟩

/-- Nothing in front changes nothing. -/
@[simp] lemma Consumed.behind_nil (rest : Consumed) : rest.behind [] [] = rest := rfl

/-- What is put in front twice is put in front in that order. -/
@[simp] lemma Consumed.behind_behind (p q r t : List UInt8) (rest : Consumed) :
    (rest.behind q t).behind p r = rest.behind (p ++ q) (r ++ t) := by
  simp [Consumed.behind]

/-- Nothing is consumed of nothing. -/
@[simp] lemma consume_nil : consume [] = ⟨[], [], []⟩ := by
  simp [consume, payloadOf, repliesOf]

/-- What is consumed of a token is put in front of the rest. -/
lemma consume_of_step {x r : List UInt8} {t : Token} (h : step x = some (t, r)) :
    consume x = (consume r).behind (payloadOf [t]) (repliesOf [t]) := by
  have hscan : scanner.scan x = (t :: (scanner.scan r).1, (scanner.scan r).2) :=
    Scanner.scan_of_some h
  simp only [consume, hscan, Consumed.behind]
  rw [← List.singleton_append, payloadOf_append, repliesOf_append]

/-- Escaped bytes are terminal output. -/
lemma consume_escape (bytes rest : List UInt8) :
    consume (escape bytes ++ rest) = (consume rest).behind bytes [] := by
  induction bytes with
  | nil => rfl
  | cons b bytes ih =>
    have hstep : step (escape [b] ++ (escape bytes ++ rest)) =
        some (.payload b, escape bytes ++ rest) := by
      by_cases hb : b = iac
      · simp [escape, hb, step]
      · simp [escape, hb, step]
    rw [escape_cons, List.append_assoc, consume_of_step hstep, ih, Consumed.behind_behind]
    rfl

/-- `IAC SE` outside a subnegotiation is ignored. -/
lemma consume_end (rest : List UInt8) : consume (iac :: se :: rest) = consume rest := by
  have hstep : step (iac :: se :: rest) = some (.replies [], rest) := by
    have hverb : se ∉ [will, wont, do', dont] := by decide
    simp only [step, ne_eq, not_true_eq_false, if_false, se_ne_iac, hverb]
    rw [if_neg (by decide)]
  rw [consume_of_step hstep]
  rfl

/-- A negotiation is replied to as it is due. -/
lemma negotiate_eq_due (command : {byte : UInt8 // byte ∈ [will, wont, do', dont]})
    (option : UInt8) : negotiate command option = (Item.negotiation command option).due := by
  simp [negotiate, Item.due, acceptedServerOptions]

/-- One item: what it shows, with what leaks out of it, and the reply it is due. -/
lemma consume_encode (item : Item) (rest : List UInt8) :
    consume (item.encode ++ rest) =
      (consume rest).behind (item.shown ++ item.leak) item.due := by
  cases item with
  | data byte => exact consume_escape [byte] rest
  | negotiation command option =>
    have hstep : step (iac :: command.1 :: option :: rest) =
        some (.replies (negotiate command option), rest) := by
      have hiac : command.1 ≠ iac := by
        rintro h
        exact absurd (h ▸ command.2) (by decide)
      have hsb : command.1 ≠ sb := by
        rintro h
        exact absurd (h ▸ command.2) (by decide)
      simp [step, hiac, hsb, command.2]
    exact (consume_of_step hstep).trans (by simp [negotiate_eq_due, Item.shown, Item.leak,
      payloadOf, repliesOf])
  | subnegotiation payload =>
    have hstep : step (iac :: sb :: (escape payload ++ iac :: se :: rest)) =
        some (.replies [], match findEnd payload with
          | none => rest
          | some b => escape b ++ iac :: se :: rest) := by
      have hsb : sb ≠ iac := by decide
      simp [step, hsb, findEnd_escape]
    have hencode : (Item.subnegotiation payload).encode ++ rest =
        iac :: sb :: (escape payload ++ iac :: se :: rest) := by
      simp [Item.encode]
    rw [hencode, consume_of_step hstep]
    cases hfind : findEnd payload with
    | none => simp [Item.leak, Item.shown, Item.due, hfind, payloadOf, repliesOf]
    | some b =>
      -- What is behind the pair is read as data, up to an `IAC SE` that nothing opened.
      simp [Item.leak, Item.shown, Item.due, hfind, consume_escape, consume_end, payloadOf,
        repliesOf]
  | other command =>
    have hstep : step (iac :: command.1 :: rest) = some (.replies [], rest) := by
      have hcommand := command.2
      simp only [List.mem_cons, List.not_mem_nil, or_false, not_or] at hcommand
      simp [step, hcommand]
    exact consume_of_step hstep

/-- Encoded items are consumed whole. -/
lemma consume_items (items : List Item) :
    consume (items.flatMap Item.encode) =
      ⟨items.flatMap fun item => item.shown ++ item.leak, items.flatMap Item.due, []⟩ := by
  induction items with
  | nil => simp
  | cons item items ih =>
    rw [List.flatMap_cons, consume_encode, ih]
    rfl

/-! ## Chunks -/

/-- The read loop is the scanner fed with the chunks. -/
lemma receive_eq_feed (state : List Token × List UInt8) (chunk : List UInt8) :
    receive ⟨payloadOf state.1, repliesOf state.1, state.2⟩ chunk =
      ⟨payloadOf (scanner.feed state chunk).1, repliesOf (scanner.feed state chunk).1,
        (scanner.feed state chunk).2⟩ := by
  simp [receive, consume, Scanner.feed]

/-- However the stream is cut, the read loop gets what it would get of the whole. -/
lemma foldl_receive (chunks : List (List UInt8)) :
    chunks.foldl receive ⟨[], [], []⟩ = consume chunks.flatten := by
  have hfold : ∀ (chunks : List (List UInt8)) (state : List Token × List UInt8),
      chunks.foldl receive ⟨payloadOf state.1, repliesOf state.1, state.2⟩ =
        ⟨payloadOf (chunks.foldl scanner.feed state).1,
          repliesOf (chunks.foldl scanner.feed state).1, (chunks.foldl scanner.feed state).2⟩ := by
    intro chunks
    induction chunks with
    | nil => exact fun _ => rfl
    | cons chunk chunks ih =>
      intro state
      rw [List.foldl_cons, List.foldl_cons, receive_eq_feed, ih]
  have h := hfold chunks ([], [])
  rw [Scanner.feed_eq_scan] at h
  exact h

/-- Nothing can be added in front of parts of a list without being seen. -/
lemma flatMap_append_eq_iff (items : List Item) (f g : Item → List UInt8) :
    (items.flatMap fun item => f item ++ g item) = items.flatMap f ↔
      ∀ item ∈ items, g item = [] := by
  constructor
  · intro h
    have hlength := congrArg List.length h
    simp only [List.length_flatMap, List.length_append, List.sum_map_add] at hlength
    have hsum : (items.map fun item => (g item).length).sum = 0 := by omega
    intro item hitem
    have hzero := List.sum_eq_zero_iff.mp hsum (g item).length (List.mem_map_of_mem hitem)
    exact List.eq_nil_of_length_eq_zero hzero
  · intro h
    exact List.flatMap_congr fun item hitem => by rw [h item hitem, List.append_nil]

/-- The items of a stream are received as they were sent, whatever its chunks, exactly when every
subnegotiation is contained. -/
theorem received_iff (items : List Item) (chunks : List (List UInt8))
    (hchunks : chunks.flatten = items.flatMap Item.encode) :
    Received items chunks ↔ ∀ item ∈ items, item.Contained := by
  rw [Received, foldl_receive, hchunks, consume_items, Consumed.mk.injEq,
    flatMap_append_eq_iff]
  simp only [leak_eq_nil_iff, and_true]

/-- A greeting whose negotiation and subnegotiation are cut in the middle; the payload ends with
a pair, which does no harm. -/
theorem received_greeting :
    ([[65, 255], [251, 1, 255, 250, 24, 255], [255, 240, 255, 240, 66]] : List (List UInt8)).flatten
        = [Item.data 65, .negotiation ⟨will, by decide⟩ echo, .subnegotiation [24, 255, 240],
          .data 66].flatMap Item.encode ∧
      (Received [.data 65, .negotiation ⟨will, by decide⟩ echo, .subnegotiation [24, 255, 240],
          .data 66] [[65, 255], [251, 1, 255, 250, 24, 255], [255, 240, 255, 240, 66]] ↔
        ∀ item ∈ [Item.data 65, .negotiation ⟨will, by decide⟩ echo,
          .subnegotiation [24, 255, 240], .data 66], item.Contained) :=
  ⟨by decide, received_iff _ _ (by decide)⟩

/-- The byte 65 of a subnegotiation is shown, as it stands behind an escaped 255 and a 240. -/
theorem not_received_pair :
    ([[255, 250, 24, 255, 255, 240, 65, 255, 240]] : List (List UInt8)).flatten =
        [Item.subnegotiation [24, 255, 240, 65]].flatMap Item.encode ∧
      ¬ Received [.subnegotiation [24, 255, 240, 65]]
        [[255, 250, 24, 255, 255, 240, 65, 255, 240]] := by
  have hencode : ([[255, 250, 24, 255, 255, 240, 65, 255, 240]] : List (List UInt8)).flatten =
      [Item.subnegotiation [24, 255, 240, 65]].flatMap Item.encode := by decide
  refine ⟨hencode, ?_⟩
  rw [Received, foldl_receive, hencode, consume_items]
  decide

end Terraformer.Telnet
