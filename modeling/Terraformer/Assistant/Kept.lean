import Terraformer.Assistant.Trim

/-!
# What trimming keeps

`_trim_to_context_limit` on any history that holds a user message, whatever the roles around it.
The leading system messages and the newest user message split it (`Parts`); what is kept of the
two other parts is an end of each.

Trimming is monotone in the limit.  It is idempotent on the histories that the service builds,
where system messages lead or belong to the current turn.  A system message among the earlier
messages can come to lead once what precedes it is dropped, and a tool message behind it is then
at the front of its part: `keepsRight_trimmed` has the exact condition.
-/

namespace Terraformer.Assistant

/-- A history that holds a user message, split at its leading system messages and at its newest
user message. -/
structure Parts where
  pinned : List ChatMessage
  earlier : List ChatMessage
  request : ChatMessage
  turn : List ChatMessage
  pinned_system : ∀ m ∈ pinned, m.role = .system
  rest_ne_system : ∀ m ∈ (earlier ++ request :: turn).head?, m.role ≠ .system
  request_user : request.role = .user
  turn_ne_user : ∀ m ∈ turn, m.role ≠ .user

/-- The message before a tool message that its call would be announced by: the nearest that is
not a tool message itself. -/
def announcer (before : List ChatMessage) : Option ChatMessage :=
  before.reverse.find? fun m => m.role ≠ .tool

/-- The tool message behind these messages has its announcing assistant message. -/
def AnnouncedBy (before : List ChatMessage) (tool : ChatMessage) : Prop :=
  ∃ a ∈ announcer before, a.role = .assistant ∧
    tool.toolCallId ∈ (a.toolCalls.getD []).map fun call => some call.id

/-- No tool message lacks its announcing assistant message, with other messages in front. -/
def AnnouncedAfter : List ChatMessage → List ChatMessage → Prop
  | _, [] => True
  | before, m :: messages =>
    (m.role = .tool → AnnouncedBy before m) ∧ AnnouncedAfter (before ++ [m]) messages

/-- No tool message lacks its announcing assistant message. -/
def Announced (messages : List ChatMessage) : Prop := AnnouncedAfter [] messages

/-- System messages with a tool message behind them come first. -/
def Reopens (messages : List ChatMessage) : Prop :=
  ∃ front tool back, messages = front ++ tool :: back ∧ (∀ m ∈ front, m.role = .system) ∧
    tool.role = .tool

/-- A limit that allows at least as much. -/
def AtLeast (larger limit : Option ℤ) : Prop :=
  ∀ n ∈ larger, ∃ m ∈ limit, m ≤ n

/-- What trimming keeps of a history that holds a user message. -/
structure KeepsRight (p : Parts) (limit : Option ℤ) (result : List ChatMessage) : Prop where
  sublist : result.Sublist (p.pinned ++ p.earlier ++ p.request :: p.turn)
  parts : ∃ earlier turn, result = p.pinned ++ earlier ++ p.request :: turn ∧
    turn <:+ p.turn ∧ (earlier ≠ [] → turn = p.turn) ∧
    (trimToContextLimit result limit = result ↔ limit = none ∨ ¬ Reopens earlier)
  cost_le : ∀ n ∈ limit, cost result ≤ max (n * charsPerToken) (cost p.pinned + p.request.cost)
  announced : Announced (p.pinned ++ p.earlier ++ p.request :: p.turn) →
    Announced result ∧ trimToContextLimit result limit = result
  mono : ∀ larger, AtLeast larger limit → result.Sublist
    (trimToContextLimit (p.pinned ++ p.earlier ++ p.request :: p.turn) larger)

/-! ## One part -/

/-- Messages that fit the budget are all kept. -/
lemma keepNewest_of_le {budget used : ℤ} {messages : List ChatMessage}
    (h : messages = [] ∨ used + cost messages ≤ budget) :
    keepNewest budget used messages = (messages, used + cost messages) := by
  induction messages generalizing used with
  | nil => simp [keepNewest]
  | cons m messages ih =>
    have hfits := h.resolve_left (List.cons_ne_nil _ _)
    rw [cost_cons] at hfits
    have hcost := cost_nonneg messages
    rw [keepNewest, if_neg (by omega), ih (.inr (by omega)), cost_cons, Int.add_assoc]

/-- What is kept fits the budget. -/
lemma cost_keepNewest_le {budget used : ℤ} {messages : List ChatMessage}
    (h : (keepNewest budget used messages).1 ≠ []) :
    used + cost (keepNewest budget used messages).1 ≤ budget :=
  (prefix_keepNewest_iff budget used (keepNewest_spec budget used messages).1 h).mp
    (List.prefix_refl _)

/-- A larger budget keeps more of the newest messages. -/
lemma keepNewest_mono {budget budget' : ℤ} (h : budget ≤ budget') (used : ℤ)
    (messages : List ChatMessage) :
    (keepNewest budget used messages).1 <+: (keepNewest budget' used messages).1 := by
  by_cases hnil : (keepNewest budget used messages).1 = []
  · rw [hnil]
    exact List.nil_prefix
  · rw [prefix_keepNewest_iff budget' used (keepNewest_spec budget used messages).1 hnil]
    exact (cost_keepNewest_le hnil).trans h

/-- Dropping the leading answers leaves a suffix. -/
lemma dropLeadingOrphan_suffix (messages : List ChatMessage) :
    dropLeadingOrphan messages <:+ messages :=
  List.dropWhile_suffix _

/-- There are no leading answers left to drop. -/
@[simp] lemma dropLeadingOrphan_dropLeadingOrphan (messages : List ChatMessage) :
    dropLeadingOrphan (dropLeadingOrphan messages) = dropLeadingOrphan messages :=
  List.dropWhile_idempotent _ messages

/-- What is left of a suffix is a suffix of what is left. -/
lemma dropLeadingOrphan_mono {a b : List ChatMessage} (h : a <:+ b) :
    dropLeadingOrphan a <:+ dropLeadingOrphan b := by
  obtain ⟨c, rfl⟩ := h
  rw [dropLeadingOrphan, dropLeadingOrphan, List.dropWhile_append]
  split
  · exact List.suffix_refl _
  · exact (List.dropWhile_suffix _).trans (List.suffix_append _ _)

/-- A suffix does not cost more. -/
lemma cost_le_of_suffix {a b : List ChatMessage} (h : a <:+ b) : cost a ≤ cost b := by
  obtain ⟨c, rfl⟩ := h
  rw [cost_append]
  have := cost_nonneg c
  omega

/-- What is left when orphans are dropped does not open on a tool message. -/
lemma head?_dropLeadingOrphan {messages : List ChatMessage} {m : ChatMessage}
    (h : m ∈ (dropLeadingOrphan messages).head?) : m.role ≠ .tool := by
  have hhead := List.head?_dropWhile_not (fun m : ChatMessage => m.role == .tool) messages
  rw [dropLeadingOrphan] at h
  rw [Option.mem_def.mp h] at hhead
  simpa using hhead

/-- Without an answer in front nothing is dropped. -/
lemma dropLeadingOrphan_eq_self {messages : List ChatMessage}
    (h : ∀ m ∈ messages.head?, m.role ≠ .tool) : dropLeadingOrphan messages = messages := by
  cases messages with
  | nil => rfl
  | cons m messages =>
    have hm : ¬ (m.role == .tool) = true := by simpa using h m rfl
    rw [dropLeadingOrphan, List.dropWhile_cons, if_neg hm]

namespace Parts

/-- The history that is split. -/
def messages (p : Parts) : List ChatMessage :=
  p.pinned ++ p.earlier ++ p.request :: p.turn

/-- Every history that holds a user message is split. -/
lemma exists_messages_eq {history : List ChatMessage} (h : ∃ m ∈ history, m.role = .user) :
    ∃ p : Parts, p.messages = history := by
  have hrest : ∃ m ∈ history.dropWhile (fun m => m.role == .system), m.role = .user := by
    obtain ⟨m, hm, hrole⟩ := h
    rw [← List.takeWhile_append_dropWhile (p := fun m : ChatMessage => m.role == .system)
      (l := history), List.mem_append] at hm
    refine ⟨m, hm.resolve_left fun hmem => ?_, hrole⟩
    have hsystem := List.mem_takeWhile_imp hmem
    rw [hrole] at hsystem
    exact absurd hsystem (by decide)
  -- The newest user message is the first one of the reversed history.
  obtain ⟨earlier, request, turn, hsplit, hrequest, hturn⟩ :
      ∃ earlier request turn, history.dropWhile (fun m => m.role == .system) =
        earlier ++ request :: turn ∧ request.role = .user ∧ ∀ m ∈ turn, m.role ≠ .user := by
    obtain ⟨m, hm, hrole⟩ := hrest
    have hfind : (history.dropWhile fun m => m.role == .system).reverse.find?
        (fun m => m.role == .user) ≠ none := by
      rw [ne_eq, List.find?_eq_none]
      intro hall
      exact hall m (List.mem_reverse.mpr hm) (by simp [hrole])
    obtain ⟨request, hrequest⟩ := Option.ne_none_iff_exists'.mp hfind
    obtain ⟨hrole', back, front, hreverse, hback⟩ := List.find?_eq_some_iff_append.mp hrequest
    refine ⟨front.reverse, request, back.reverse, ?_, by simpa using hrole', ?_⟩
    · rw [← List.reverse_reverse (history.dropWhile _), hreverse]
      simp
    · intro m hm
      simpa using hback m (List.mem_reverse.mp hm)
  refine ⟨⟨history.takeWhile fun m => m.role == .system, earlier, request, turn, ?_, ?_, hrequest,
    hturn⟩, ?_⟩
  · intro m hm
    simpa using List.mem_takeWhile_imp hm
  · intro m hm
    rw [← hsplit] at hm
    have hhead := List.head?_dropWhile_not (fun m : ChatMessage => m.role == .system) history
    rw [Option.mem_def.mp hm] at hhead
    simpa using hhead
  · have hwhole := List.takeWhile_append_dropWhile (p := fun m : ChatMessage => m.role == .system)
      (l := history)
    rw [hsplit] at hwhole
    exact (List.append_assoc ..).trans hwhole

/-- What is kept of the turn, before orphans are dropped at its front, and what is then used. -/
def newest (p : Parts) (limit : ℤ) : List ChatMessage × ℤ :=
  keepNewest (limit * charsPerToken) (cost p.pinned + p.request.cost) p.turn.reverse

/-- `kept_turn`. -/
def keptTurn (p : Parts) (limit : ℤ) : List ChatMessage :=
  dropLeadingOrphan (p.newest limit).1.reverse

/-- `kept_earlier`. -/
def keptEarlier (p : Parts) (limit : ℤ) : List ChatMessage :=
  if (p.keptTurn limit).length = p.turn.length then
    dropLeadingOrphan
      (keepNewest (limit * charsPerToken) (p.newest limit).2 p.earlier.reverse).1.reverse
  else []

/-- Trimming works on the parts. -/
lemma trimToContextLimit_messages (p : Parts) (limit : ℤ) :
    trimToContextLimit p.messages (some limit) =
      p.pinned ++ p.keptEarlier limit ++ p.request :: p.keptTurn limit := by
  obtain ⟨htake, hdrop⟩ := takeWhile_system p.pinned_system p.rest_ne_system
  rw [messages, List.append_assoc, trimToContextLimit]
  simp only [htake, hdrop, requestAt_append p.request_user p.turn_ne_user, List.drop_left,
    List.take_left]
  rfl

/-! ## What is kept of the parts -/

/-- The newest messages are a suffix of the turn. -/
lemma newest_suffix (p : Parts) (limit : ℤ) : (p.newest limit).1.reverse <:+ p.turn := by
  have h := List.reverse_suffix.mpr (keepNewest_spec (limit * charsPerToken)
    (cost p.pinned + p.request.cost) p.turn.reverse).1
  rwa [List.reverse_reverse] at h

/-- What is kept of the turn is a suffix of it. -/
lemma keptTurn_suffix (p : Parts) (limit : ℤ) : p.keptTurn limit <:+ p.turn :=
  (dropLeadingOrphan_suffix _).trans (p.newest_suffix limit)

/-- What is kept of the earlier messages is a suffix of them. -/
lemma keptEarlier_suffix (p : Parts) (limit : ℤ) : p.keptEarlier limit <:+ p.earlier := by
  rw [keptEarlier]
  split
  · have h := List.reverse_suffix.mpr (keepNewest_spec (limit * charsPerToken)
      (p.newest limit).2 p.earlier.reverse).1
    rw [List.reverse_reverse] at h
    exact (dropLeadingOrphan_suffix _).trans h
  · exact List.nil_suffix

/-- Earlier messages are only kept behind a whole turn. -/
lemma keptTurn_eq_of_keptEarlier {p : Parts} {limit : ℤ} (h : p.keptEarlier limit ≠ []) :
    p.keptTurn limit = p.turn := by
  rw [keptEarlier] at h
  split at h
  · rename_i hlength
    exact (p.keptTurn_suffix limit).eq_of_length hlength
  · exact absurd rfl h

/-- What is kept of the turn does not begin with an answer. -/
lemma head?_keptTurn {p : Parts} {limit : ℤ} {m : ChatMessage}
    (h : m ∈ (p.keptTurn limit).head?) : m.role ≠ .tool :=
  head?_dropLeadingOrphan h

/-- What is kept of the earlier messages does not begin with an answer. -/
lemma head?_keptEarlier {p : Parts} {limit : ℤ} {m : ChatMessage}
    (h : m ∈ (p.keptEarlier limit).head?) : m.role ≠ .tool := by
  rw [keptEarlier] at h
  split at h
  · exact head?_dropLeadingOrphan h
  · cases h

/-- A turn that is kept whole is used whole. -/
lemma newest_eq_of_whole {p : Parts} {limit : ℤ} (h : p.keptTurn limit = p.turn) :
    p.newest limit = (p.turn.reverse, cost p.pinned + p.request.cost + cost p.turn) := by
  have hnewest : (p.newest limit).1.reverse = p.turn :=
    (p.newest_suffix limit).eq_of_length_le
      (h ▸ (dropLeadingOrphan_suffix (p.newest limit).1.reverse).length_le)
  have hused : (p.newest limit).2 = cost p.pinned + p.request.cost + cost (p.newest limit).1 :=
    (keepNewest_spec ..).2
  have hreverse : (p.newest limit).1 = p.turn.reverse := by
    rw [← hnewest, List.reverse_reverse]
  rw [← Prod.mk.eta (p := p.newest limit), hused, hreverse, cost_reverse]

/-- Whatever is kept beside the pinned messages and the request fits the budget. -/
lemma kept_fits (p : Parts) (limit : ℤ) :
    p.keptEarlier limit = [] ∧ p.keptTurn limit = [] ∨
      cost p.pinned + cost (p.keptEarlier limit) + p.request.cost + cost (p.keptTurn limit) ≤
        limit * charsPerToken := by
  by_cases hearlier : p.keptEarlier limit = []
  · by_cases hturn : p.keptTurn limit = []
    · exact .inl ⟨hearlier, hturn⟩
    · have hnewest : (p.newest limit).1 ≠ [] := by
        intro h
        exact hturn (by rw [keptTurn, h]; rfl)
      have hfits := cost_keepNewest_le hnewest
      have hcost := cost_le_of_suffix (dropLeadingOrphan_suffix (p.newest limit).1.reverse)
      rw [cost_reverse] at hcost
      rw [hearlier, cost_nil]
      change _ + cost (p.newest limit).1 ≤ _ at hfits
      change cost (p.keptTurn limit) ≤ _ at hcost
      omega
  · have hturn := keptTurn_eq_of_keptEarlier hearlier
    have hkept : p.keptEarlier limit = dropLeadingOrphan
        (keepNewest (limit * charsPerToken) (p.newest limit).2 p.earlier.reverse).1.reverse := by
      rw [keptEarlier, if_pos (congrArg List.length hturn)]
    have hnewest := newest_eq_of_whole hturn
    have hne : (keepNewest (limit * charsPerToken) (p.newest limit).2 p.earlier.reverse).1 ≠ [] := by
      intro h
      exact hearlier (by rw [hkept, h]; rfl)
    have hfits := cost_keepNewest_le hne
    have hcost := cost_le_of_suffix (dropLeadingOrphan_suffix (keepNewest
      (limit * charsPerToken) (p.newest limit).2 p.earlier.reverse).1.reverse)
    rw [← hkept, cost_reverse] at hcost
    rw [hnewest] at hfits hcost
    rw [hturn]
    simp only at hfits hcost
    omega

/-! ## A second time -/

/-- The parts of a trimmed history: system messages that have come to lead are pinned now. -/
def trimmed (p : Parts) (limit : ℤ) : Parts where
  pinned := p.pinned ++ (p.keptEarlier limit).takeWhile fun m => m.role == .system
  earlier := (p.keptEarlier limit).dropWhile fun m => m.role == .system
  request := p.request
  turn := p.keptTurn limit
  pinned_system := by
    intro m hm
    rcases List.mem_append.mp hm with hm | hm
    · exact p.pinned_system m hm
    · simpa using List.mem_takeWhile_imp hm
  rest_ne_system := by
    intro m hm
    have hhead := List.head?_dropWhile_not (fun m : ChatMessage => m.role == .system)
      (p.keptEarlier limit)
    cases hdrop : (p.keptEarlier limit).dropWhile fun m => m.role == .system with
    | nil =>
      rw [hdrop] at hm
      cases hm
      rw [p.request_user]
      decide
    | cons m' rest =>
      rw [hdrop] at hm hhead
      cases hm
      simpa using hhead
  request_user := p.request_user
  turn_ne_user := fun m hm => p.turn_ne_user m ((p.keptTurn_suffix limit).subset hm)

/-- A trimmed history is its pinned messages, what is kept of the earlier ones, the request and what
is kept of the turn. -/
lemma trimmed_messages (p : Parts) (limit : ℤ) :
    (p.trimmed limit).messages = p.pinned ++ p.keptEarlier limit ++ p.request :: p.keptTurn limit := by
  rw [messages, trimmed]
  simp only [List.append_assoc]
  rw [← List.append_assoc (List.takeWhile _ _), List.takeWhile_append_dropWhile]

/-- The pinned and earlier messages that are kept cost what they did. -/
lemma cost_trimmed (p : Parts) (limit : ℤ) :
    cost (p.trimmed limit).pinned + cost (p.trimmed limit).earlier =
      cost p.pinned + cost (p.keptEarlier limit) := by
  have hsplit : cost (p.keptEarlier limit) =
      cost ((p.keptEarlier limit).takeWhile fun m => m.role == .system) +
        cost ((p.keptEarlier limit).dropWhile fun m => m.role == .system) := by
    rw [← cost_append, List.takeWhile_append_dropWhile]
  simp only [trimmed, cost_append]
  omega

/-- Trimming again keeps the same of the turn. -/
lemma keptTurn_trimmed (p : Parts) (limit : ℤ) :
    (p.trimmed limit).keptTurn limit = p.keptTurn limit := by
  have hfits : (p.keptTurn limit).reverse = [] ∨
      cost (p.trimmed limit).pinned + p.request.cost + cost (p.keptTurn limit).reverse ≤
        limit * charsPerToken := by
    rw [List.reverse_eq_nil_iff, cost_reverse]
    refine (p.kept_fits limit).imp And.right fun h => ?_
    have hcost := p.cost_trimmed limit
    have hnonneg := cost_nonneg (p.trimmed limit).earlier
    omega
  have hnewest : (p.trimmed limit).newest limit = _ := keepNewest_of_le hfits
  rw [keptTurn, hnewest, List.reverse_reverse]
  exact dropLeadingOrphan_dropLeadingOrphan _

/-- Trimming again keeps the earlier messages, but for leading answers. -/
lemma keptEarlier_trimmed (p : Parts) (limit : ℤ) :
    (p.trimmed limit).keptEarlier limit = dropLeadingOrphan (p.trimmed limit).earlier := by
  have hturn : (p.trimmed limit).keptTurn limit = (p.trimmed limit).turn := p.keptTurn_trimmed limit
  have hfits : (p.trimmed limit).earlier.reverse = [] ∨
      cost (p.trimmed limit).pinned + (p.trimmed limit).request.cost +
        cost (p.trimmed limit).turn + cost (p.trimmed limit).earlier.reverse ≤
          limit * charsPerToken := by
    rw [List.reverse_eq_nil_iff, cost_reverse]
    refine (p.kept_fits limit).imp (fun h => ?_) fun h => ?_
    · show (p.keptEarlier limit).dropWhile _ = []
      rw [h.1]
      rfl
    · have hcost := p.cost_trimmed limit
      simp only [show (p.trimmed limit).request = p.request from rfl,
        show (p.trimmed limit).turn = p.keptTurn limit from rfl]
      omega
  rw [keptEarlier, if_pos (congrArg List.length hturn), newest_eq_of_whole hturn]
  simp only
  rw [keepNewest_of_le hfits, List.reverse_reverse]

/-- Nothing is dropped behind leading system messages, unless a tool message follows them. -/
lemma dropLeadingOrphan_dropWhile_iff (messages : List ChatMessage) :
    dropLeadingOrphan (messages.dropWhile fun m => m.role == .system) =
        messages.dropWhile (fun m => m.role == .system) ↔ ¬ Reopens messages := by
  constructor
  · rintro h ⟨front, tool, back, rfl, hfront, htool⟩
    have hrest : ∀ m ∈ (tool :: back).head?, m.role ≠ .system := by
      intro m hm
      cases hm
      rw [htool]
      decide
    rw [(takeWhile_system hfront hrest).2] at h
    have hdrop : dropLeadingOrphan (tool :: back) = dropLeadingOrphan back := by
      rw [dropLeadingOrphan, List.dropWhile_cons, if_pos (by simp [htool])]
      rfl
    rw [hdrop] at h
    have hlength := (dropLeadingOrphan_suffix back).length_le
    rw [h, List.length_cons] at hlength
    omega
  · intro h
    refine dropLeadingOrphan_eq_self fun m hm htool => h ?_
    obtain ⟨back, hback⟩ := List.head?_eq_some_iff.mp (Option.mem_def.mp hm)
    refine ⟨messages.takeWhile fun m => m.role == .system, m, back, ?_, ?_, htool⟩
    · rw [← hback, List.takeWhile_append_dropWhile]
    · intro m' hm'
      simpa using List.mem_takeWhile_imp hm'

/-- Trimming again changes nothing, unless a tool message has come to the front of its part. -/
lemma trim_trimmed_iff (p : Parts) (limit : ℤ) :
    trimToContextLimit (p.trimmed limit).messages (some limit) = (p.trimmed limit).messages ↔
      ¬ Reopens (p.keptEarlier limit) := by
  rw [trimToContextLimit_messages, keptTurn_trimmed, keptEarlier_trimmed, messages,
    ← dropLeadingOrphan_dropWhile_iff]
  constructor
  · intro h
    exact List.append_cancel_left (List.append_cancel_right h)
  · intro h
    exact congrArg (fun earlier => (p.trimmed limit).pinned ++ earlier ++
      p.request :: p.keptTurn limit) h

/-! ## A larger limit -/

/-- A larger limit keeps more of the turn. -/
lemma keptTurn_mono {limit larger : ℤ} (h : limit ≤ larger) (p : Parts) :
    p.keptTurn limit <:+ p.keptTurn larger := by
  have hbudget : limit * charsPerToken ≤ larger * charsPerToken :=
    Int.mul_le_mul_of_nonneg_right h (by decide)
  exact dropLeadingOrphan_mono (List.reverse_suffix.mpr (keepNewest_mono hbudget _ _))

/-- A larger limit keeps more of the earlier messages. -/
lemma keptEarlier_mono {limit larger : ℤ} (h : limit ≤ larger) (p : Parts) :
    p.keptEarlier limit <:+ p.keptEarlier larger := by
  have hbudget : limit * charsPerToken ≤ larger * charsPerToken :=
    Int.mul_le_mul_of_nonneg_right h (by decide)
  by_cases hnil : p.keptEarlier limit = []
  · rw [hnil]
    exact List.nil_suffix
  · -- The turn is whole for both limits, and so has used the same of them.
    have hturn := keptTurn_eq_of_keptEarlier hnil
    have hturn' : p.keptTurn larger = p.turn :=
      (p.keptTurn_suffix larger).eq_of_length_le (hturn ▸ (p.keptTurn_mono h)).length_le
    rw [keptEarlier, keptEarlier, if_pos (congrArg List.length hturn),
      if_pos (congrArg List.length hturn'), newest_eq_of_whole hturn, newest_eq_of_whole hturn']
    exact dropLeadingOrphan_mono (List.reverse_suffix.mpr (keepNewest_mono hbudget _ _))

end Parts

/-! ## Announcing messages -/

/-- The calls of a longer history are announced piece by piece. -/
lemma announcedAfter_append (before a b : List ChatMessage) :
    AnnouncedAfter before (a ++ b) ↔ AnnouncedAfter before a ∧ AnnouncedAfter (before ++ a) b := by
  induction a generalizing before with
  | nil => simp [AnnouncedAfter]
  | cons m a ih => simp [AnnouncedAfter, ih, and_assoc]

/-- The announcing message lies behind the nearest message that is not a tool message, so what is
in front of that does not matter. -/
lemma announcer_append (x : List ChatMessage) {front : List ChatMessage}
    (h : ∃ m ∈ front, m.role ≠ .tool) : announcer (x ++ front) = announcer front := by
  obtain ⟨m, hm, hrole⟩ := h
  have hfind : front.reverse.find? (fun m => m.role ≠ .tool) ≠ none := by
    rw [ne_eq, List.find?_eq_none]
    exact fun hall => hall m (List.mem_reverse.mpr hm) (by simpa using hrole)
  obtain ⟨a, ha⟩ := Option.ne_none_iff_exists'.mp hfind
  rw [announcer, announcer, List.reverse_append, List.find?_append, ha]
  rfl

/-- The messages up to one that is no answer decide what is announced. -/
lemma AnnouncedAfter.of_front {x front messages : List ChatMessage}
    (hfront : ∃ m ∈ front, m.role ≠ .tool) (h : AnnouncedAfter (x ++ front) messages)
    (y : List ChatMessage) : AnnouncedAfter (y ++ front) messages := by
  induction messages generalizing front with
  | nil => trivial
  | cons m messages ih =>
    refine ⟨fun hm => ?_, ?_⟩
    · have hby := h.1 hm
      rw [AnnouncedBy, announcer_append x hfront] at hby
      rwa [AnnouncedBy, announcer_append y hfront]
    · have htail := h.2
      rw [List.append_assoc] at htail ⊢
      exact ih (hfront.imp fun m' hm' => ⟨List.mem_append_left _ hm'.1, hm'.2⟩) htail

/-- A part that does not open on a tool message is announced within itself. -/
lemma AnnouncedAfter.of_head {x messages : List ChatMessage}
    (hhead : ∀ m ∈ messages.head?, m.role ≠ .tool) (h : AnnouncedAfter x messages)
    (y : List ChatMessage) : AnnouncedAfter y messages := by
  cases messages with
  | nil => trivial
  | cons m messages =>
    have hm : m.role ≠ .tool := hhead m rfl
    exact ⟨fun htool => absurd htool hm,
      h.2.of_front ⟨m, List.mem_singleton_self m, hm⟩ y⟩

/-- The end of an announced part, unless it opens on a tool message, is announced. -/
lemma AnnouncedAfter.of_suffix {x part kept : List ChatMessage} (hkept : kept <:+ part)
    (hhead : ∀ m ∈ kept.head?, m.role ≠ .tool) (h : AnnouncedAfter x part)
    (y : List ChatMessage) : AnnouncedAfter y kept := by
  obtain ⟨front, rfl⟩ := hkept
  exact ((announcedAfter_append ..).mp h).2.of_head hhead y

/-- No tool message comes directly behind system messages when all are announced. -/
lemma AnnouncedAfter.not_reopens {x messages : List ChatMessage} (h : AnnouncedAfter x messages)
    (hhead : ∀ m ∈ messages.head?, m.role ≠ .tool) : ¬ Reopens messages := by
  rintro ⟨front, tool, back, rfl, hfront, htool⟩
  obtain ⟨a, ha, hrole, -⟩ := ((announcedAfter_append ..).mp h).2.1 htool
  cases front with
  | nil => exact hhead tool rfl htool
  | cons m front =>
    have hm : m.role ≠ .tool := by
      rw [hfront m List.mem_cons_self]
      decide
    rw [announcer_append x ⟨m, List.mem_cons_self, hm⟩] at ha
    have hsystem := hfront a (List.mem_reverse.mp (List.mem_of_find?_eq_some ha))
    rw [hrole] at hsystem
    cases hsystem

/-- What is kept of an announced history is announced. -/
lemma Parts.announced_trimmed {p : Parts} (limit : ℤ) (h : Announced p.messages) :
    Announced (p.pinned ++ p.keptEarlier limit ++ p.request :: p.keptTurn limit) ∧
      ¬ Reopens (p.keptEarlier limit) := by
  rw [Announced, Parts.messages, announcedAfter_append, announcedAfter_append] at h
  obtain ⟨⟨hpinned, hearlier⟩, -, hturn⟩ := h
  have hkept : AnnouncedAfter ([] ++ p.pinned) (p.keptEarlier limit) :=
    hearlier.of_suffix (p.keptEarlier_suffix limit) (fun _ => Parts.head?_keptEarlier) _
  refine ⟨?_, hkept.not_reopens fun _ => Parts.head?_keptEarlier⟩
  rw [Announced, announcedAfter_append, announcedAfter_append]
  refine ⟨⟨hpinned, hkept⟩, fun htool => ?_,
    hturn.of_suffix (p.keptTurn_suffix limit) (fun _ => Parts.head?_keptTurn) _⟩
  rw [p.request_user] at htool
  cases htool

/-- What is kept fits the budget, or is what must be kept. -/
lemma Parts.cost_trimmed_le (p : Parts) (limit : ℤ) :
    cost (p.pinned ++ p.keptEarlier limit ++ p.request :: p.keptTurn limit) ≤
      max (limit * charsPerToken) (cost p.pinned + p.request.cost) := by
  rw [cost_append, cost_append, cost_cons]
  rcases p.kept_fits limit with ⟨hearlier, hturn⟩ | hfits
  · rw [hearlier, hturn, cost_nil]
    exact le_max_of_le_right (by omega)
  · exact le_max_of_le_left (by omega)

/-- Whatever is trimmed with a limit is kept with one that allows at least as much. -/
lemma Parts.sublist_trim_of_atLeast (p : Parts) {limit : ℤ} {larger : Option ℤ}
    (h : AtLeast larger (some limit)) :
    (p.pinned ++ p.keptEarlier limit ++ p.request :: p.keptTurn limit).Sublist
      (trimToContextLimit p.messages larger) := by
  cases larger with
  | none =>
    exact ((p.keptEarlier_suffix limit).sublist.append_left _).append
      ((p.keptTurn_suffix limit).sublist.cons_cons _)
  | some n =>
    obtain ⟨m, hm, hle⟩ := h n rfl
    obtain rfl : limit = m := Option.some.inj hm
    rw [p.trimToContextLimit_messages]
    exact ((Parts.keptEarlier_mono hle p).sublist.append_left _).append
      ((Parts.keptTurn_mono hle p).sublist.cons_cons _)

/-- What `_trim_to_context_limit` keeps of a history that holds a user message. -/
theorem keepsRight_trimmed (history : List ChatMessage) (limit : Option ℤ)
    (h : ∃ m ∈ history, m.role = .user) :
    ∃ p : Parts, p.messages = history ∧
      KeepsRight p limit (trimToContextLimit history limit) := by
  obtain ⟨p, rfl⟩ := Parts.exists_messages_eq h
  refine ⟨p, rfl, ?_⟩
  cases limit with
  | none =>
    refine ⟨List.Sublist.refl _, ⟨p.earlier, p.turn, rfl, List.suffix_refl _, fun _ => rfl, ?_⟩,
      fun n hn => (Option.not_mem_none n hn).elim, fun h => ⟨h, rfl⟩, fun larger hlarger => ?_⟩
    · exact iff_of_true rfl (.inl rfl)
    · cases larger with
      | none => exact List.Sublist.refl _
      | some n =>
        obtain ⟨m, hm, -⟩ := hlarger n rfl
        cases hm
  | some limit =>
    have hagain := p.trim_trimmed_iff limit
    rw [p.trimmed_messages] at hagain
    rw [p.trimToContextLimit_messages]
    refine ⟨?_, ⟨p.keptEarlier limit, p.keptTurn limit, rfl, p.keptTurn_suffix limit,
      Parts.keptTurn_eq_of_keptEarlier, ?_⟩, ?_, ?_, ?_⟩
    · exact ((p.keptEarlier_suffix limit).sublist.append_left _).append
        ((p.keptTurn_suffix limit).sublist.cons_cons _)
    · rw [hagain]
      simp
    · rintro n ⟨⟩
      exact p.cost_trimmed_le limit
    · intro hannounced
      obtain ⟨hresult, hopens⟩ := Parts.announced_trimmed limit hannounced
      exact ⟨hresult, hagain.mpr hopens⟩
    · exact fun larger => p.sublist_trim_of_atLeast

/-- A conversation in which both questions had a tool called: the older exchange does not fit. -/
theorem keepsRight_question :
    let history : List ChatMessage := [{ role := .system, content := "sys" },
      { role := .user, content := "older question" },
      { role := .assistant, content := "", toolCalls := some [⟨"call-1", "list_devices", "{}"⟩] },
      { role := .tool, content := "an older answer", toolCallId := some "call-1" },
      { role := .assistant, content := "done" }, { role := .user, content := "question" },
      { role := .assistant, content := "", toolCalls := some [⟨"call-2", "list_devices", "{}"⟩] },
      { role := .tool, content := "none", toolCallId := some "call-2" }]
    (∃ m ∈ history, m.role = .user) ∧ ∃ p : Parts, p.messages = history ∧
      KeepsRight p (some 8) (trimToContextLimit history (some 8)) :=
  ⟨by decide, keepsRight_trimmed _ _ (by decide)⟩

/-- A system message between a call and its answer: every tool message has an assistant message
in front that announces it, but the answer is kept without, and dropped a second time. -/
theorem trim_interrupted_call :
    let call : ChatMessage := { role := .assistant, content := "a call that does not fit"
                                toolCalls := some [⟨"call-1", "list_devices", "{}"⟩] }
    let note : ChatMessage := { role := .system, content := "note" }
    let answer : ChatMessage := { role := .tool, content := "none", toolCallId := some "call-1" }
    let question : ChatMessage := { role := .user, content := "question" }
    trimToContextLimit [call, note, answer, question] (some 5) = [note, answer, question] ∧
      trimToContextLimit [note, answer, question] (some 5) ≠ [note, answer, question] := by
  decide +kernel

end Terraformer.Assistant
