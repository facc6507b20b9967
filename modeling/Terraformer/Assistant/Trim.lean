import Terraformer.Assistant.Messages

/-!
# Trimming to the context limit

`_trim_to_context_limit` keeps the leading system messages and the newest user message, and of
the rest the newest messages that fit: first of the current turn, then of the earlier turns.  A
kept part never opens on a tool message.

What is kept of a part is one of its ends (`keepNewest_eq_drop`), so a conversation that is
settled but for tool messages at its front is settled after trimming (`Window.Settles.trim`).
-/

namespace Terraformer.Assistant

open Exchange Text

/-- `_CHARS_PER_TOKEN`. -/
def charsPerToken : ℤ := 4

/-- What a message counts for. -/
def ChatMessage.cost (message : ChatMessage) : ℤ :=
  message.content.toList.length

/-- What messages count for together. -/
def cost (messages : List ChatMessage) : ℤ :=
  (messages.map ChatMessage.cost).sum

/-- `_drop_leading_orphan`: a window may not open on a tool message. -/
def dropLeadingOrphan (messages : List ChatMessage) : List ChatMessage :=
  messages.dropWhile fun message => message.role == .tool

/-- The messages, newest first, up to the first that does not fit the budget, and what is then
used of it. -/
def keepNewest (budget : ℤ) : ℤ → List ChatMessage → List ChatMessage × ℤ
  | used, [] => ([], used)
  | used, message :: messages =>
    if budget < used + message.cost then ([], used)
    else
      let kept := keepNewest budget (used + message.cost) messages
      (message :: kept.1, kept.2)

/-- The place of the newest user message, or of the last message if there is none. -/
def requestAt (rest : List ChatMessage) : ℕ :=
  match rest.reverse.findIdx? fun message => message.role == .user with
  | some back => rest.length - 1 - back
  | none => rest.length - 1

/-- `_trim_to_context_limit`. -/
def trimToContextLimit (history : List ChatMessage) (limitTokens : Option ℤ) :
    List ChatMessage :=
  match limitTokens with
  | none => history
  | some limit =>
    let budget := limit * charsPerToken
    let pinned := history.takeWhile fun message => message.role == .system
    let rest := history.dropWhile fun message => message.role == .system
    match rest.drop (requestAt rest) with
    | [] => history
    | request :: turn =>
      let earlier := rest.take (requestAt rest)
      let newest := keepNewest budget (cost pinned + request.cost) turn.reverse
      let keptTurn := dropLeadingOrphan newest.1.reverse
      -- earlier turns are only carried once the current one fits whole
      let keptEarlier :=
        if keptTurn.length = turn.length then
          dropLeadingOrphan (keepNewest budget newest.2 earlier.reverse).1.reverse
        else []
      pinned ++ keptEarlier ++ request :: keptTurn

/-! ## The pieces -/

/-- The empty list of messages costs nothing. -/
@[simp] lemma cost_nil : cost [] = 0 := rfl

/-- The first message adds its cost. -/
@[simp] lemma cost_cons (message : ChatMessage) (messages : List ChatMessage) :
    cost (message :: messages) = message.cost + cost messages := by
  simp [cost]

/-- Two lists cost what they do together. -/
@[simp] lemma cost_append (a b : List ChatMessage) : cost (a ++ b) = cost a + cost b := by
  simp [cost]

/-- Messages never cost less than nothing. -/
lemma cost_nonneg (messages : List ChatMessage) : 0 ≤ cost messages := by
  induction messages with
  | nil => exact Int.le_refl 0
  | cons message messages ih =>
    rw [cost_cons]
    exact Int.add_nonneg (Int.natCast_nonneg _) ih

/-- The order of the messages does not matter to their cost. -/
@[simp] lemma cost_reverse (messages : List ChatMessage) : cost messages.reverse = cost messages := by
  induction messages with
  | nil => rfl
  | cons message messages ih => simp [ih, Int.add_comm]

/-- A tool message is an answer, and no other message is. -/
lemma isAnswer_kind (message : ChatMessage) :
    message.kind.isAnswer = (message.role == .tool) := by
  unfold ChatMessage.kind
  cases message.role <;> rfl

/-- The leading answers are dropped. -/
lemma dropLeadingOrphan_eq (messages : List ChatMessage) :
    dropLeadingOrphan messages = messages.dropWhile fun m => m.kind.isAnswer := by
  simp only [dropLeadingOrphan, isAnswer_kind]

/-- A kept message is one of those there were, and together they fit the budget. -/
lemma keepNewest_spec (budget used : ℤ) (messages : List ChatMessage) :
    (keepNewest budget used messages).1 <+: messages ∧
      (keepNewest budget used messages).2 =
        used + cost (keepNewest budget used messages).1 := by
  induction messages generalizing used with
  | nil => simp [keepNewest]
  | cons message messages ih =>
    rw [keepNewest]
    split
    · simp
    · obtain ⟨hpart, hused⟩ := ih (used + message.cost)
      refine ⟨List.cons_prefix_cons.mpr ⟨rfl, hpart⟩, ?_⟩
      rw [hused, cost_cons, Int.add_assoc]

/-- The messages at the front are kept exactly when they fit the budget together. -/
lemma prefix_keepNewest_iff (budget used : ℤ) {messages front : List ChatMessage}
    (hfront : front <+: messages) (hne : front ≠ []) :
    front <+: (keepNewest budget used messages).1 ↔ used + cost front ≤ budget := by
  induction front generalizing used messages with
  | nil => exact absurd rfl hne
  | cons m front ih =>
    obtain ⟨messages, rfl, htail⟩ : ∃ tail, messages = m :: tail ∧ front <+: tail := by
      obtain ⟨tail, rfl⟩ := hfront
      exact ⟨front ++ tail, rfl, List.prefix_append _ _⟩
    have hm : 0 ≤ cost front := cost_nonneg front
    rw [keepNewest, cost_cons]
    split
    · refine iff_of_false (fun h => ?_) (by omega)
      simpa using h.length_le
    · rename_i hfits
      rw [List.cons_prefix_cons, and_iff_right rfl]
      cases front with
      | nil => simpa using by omega
      | cons m' front =>
        rw [ih _ htail (by simp)]
        constructor <;> intro h <;> omega

/-- What is kept of a part is its end. -/
lemma keepNewest_eq_drop (budget used : ℤ) (messages : List ChatMessage) :
    ∃ n, (keepNewest budget used messages.reverse).1.reverse = messages.drop n := by
  obtain ⟨hpart, -⟩ := keepNewest_spec budget used messages.reverse
  have hsuffix := List.reverse_suffix.mpr hpart
  rw [List.reverse_reverse] at hsuffix
  exact ⟨_, List.suffix_iff_eq_drop.mp hsuffix⟩

/-- A settled part stays settled when its end is kept. -/
lemma wellFormed_dropLeadingOrphan {messages : List ChatMessage}
    (h : WellFormed (dropLeadingOrphan messages)) (budget used : ℤ) :
    WellFormed (dropLeadingOrphan (keepNewest budget used messages.reverse).1.reverse) := by
  obtain ⟨n, hn⟩ := keepNewest_eq_drop budget used messages
  rw [hn]
  rw [dropLeadingOrphan_eq] at h ⊢
  rcases Nat.lt_or_ge n (messages.takeWhile fun m => m.kind.isAnswer).length with hlt | hge
  · -- the cut lies among the leading tool messages
    have hdrop : messages.drop n = (messages.takeWhile fun m => m.kind.isAnswer).drop n ++
        messages.dropWhile fun m => m.kind.isAnswer := by
      rw [← List.drop_append_of_le_length hlt.le, List.takeWhile_append_dropWhile]
    have hleading : ((messages.takeWhile fun m => m.kind.isAnswer).drop n).dropWhile
        (fun m => m.kind.isAnswer) = [] :=
      List.dropWhile_eq_nil_iff.mpr fun m hm =>
        List.mem_takeWhile_imp (p := fun m : ChatMessage => m.kind.isAnswer)
          (List.mem_of_mem_drop hm)
    rw [hdrop, List.dropWhile_append, hleading]
    simpa [h.dropWhile_eq] using h
  · have hdrop : messages.drop n = (messages.dropWhile fun m => m.kind.isAnswer).drop
        (n - (messages.takeWhile fun m => m.kind.isAnswer).length) := by
      conv_lhs => rw [← List.takeWhile_append_dropWhile (p := fun m => m.kind.isAnswer)
        (l := messages), List.drop_append, List.drop_of_length_le hge, List.nil_append]
    rw [hdrop]
    exact h.dropWhile_drop _

/-- The newest user message is where the messages behind it begin. -/
lemma requestAt_append {earlier turn : List ChatMessage} {request : ChatMessage}
    (hrequest : request.role = .user) (hturn : ∀ m ∈ turn, m.role ≠ .user) :
    requestAt (earlier ++ request :: turn) = earlier.length := by
  have hnone : turn.reverse.findIdx? (fun m => m.role == .user) = none := by
    rw [List.findIdx?_eq_none_iff]
    intro m hm
    simpa using hturn m (List.mem_reverse.mp hm)
  have hfind : (earlier ++ request :: turn).reverse.findIdx? (fun m => m.role == .user) =
      some turn.length := by
    rw [List.reverse_append, List.reverse_cons, List.append_assoc, List.findIdx?_append, hnone,
      List.singleton_append, List.findIdx?_cons, if_pos (by simp [hrequest])]
    simp
  rw [requestAt, hfind]
  simp

/-- The system messages at the front are told apart from what follows. -/
lemma takeWhile_system {pinned rest : List ChatMessage} (hpinned : ∀ m ∈ pinned, m.role = .system)
    (hrest : ∀ m ∈ rest.head?, m.role ≠ .system) :
    ((pinned ++ rest).takeWhile fun m => m.role == .system) = pinned ∧
      ((pinned ++ rest).dropWhile fun m => m.role == .system) = rest := by
  induction pinned with
  | nil =>
    cases rest with
    | nil => simp
    | cons m rest =>
      have hm : (m.role == .system) = false := by simpa using hrest m rfl
      simp [hm]
  | cons m pinned ih =>
    have hm : (m.role == .system) = true := by simpa using hpinned m (by simp)
    have ih := ih fun m' hm' => hpinned m' (List.mem_cons_of_mem _ hm')
    simp [hm, ih]

/-! ## Conversations in the making -/

/-- The messages before and behind the request that a turn answers. -/
structure Window where
  pinned : List ChatMessage
  earlier : List ChatMessage
  request : ChatMessage
  turn : List ChatMessage
  pinned_system : ∀ m ∈ pinned, m.role = .system
  earlier_ne_system : ∀ m ∈ earlier, m.role ≠ .system
  request_user : request.role = .user
  turn_ne_user : ∀ m ∈ turn, m.role ≠ .user

namespace Window

/-- All messages of a window. -/
def messages (w : Window) : List ChatMessage :=
  w.pinned ++ w.earlier ++ w.request :: w.turn

/-- The window as it is trimmed. -/
def trim (w : Window) (limit : ℤ) : Window :=
  let newest := keepNewest (limit * charsPerToken) (cost w.pinned + w.request.cost) w.turn.reverse
  let keptTurn := dropLeadingOrphan newest.1.reverse
  let keptEarlier := dropLeadingOrphan
    (keepNewest (limit * charsPerToken) newest.2 w.earlier.reverse).1.reverse
  { w with
    earlier := if keptTurn.length = w.turn.length then keptEarlier else []
    turn := keptTurn
    earlier_ne_system := fun m hm => by
      split at hm
      · have hm := (List.dropWhile_suffix _).subset hm
        rw [List.mem_reverse] at hm
        exact w.earlier_ne_system m
          (List.mem_reverse.mp ((keepNewest_spec ..).1.subset hm))
      · simp at hm
    turn_ne_user := fun m hm => by
      have hm := (List.dropWhile_suffix _).subset hm
      rw [List.mem_reverse] at hm
      exact w.turn_ne_user m (List.mem_reverse.mp ((keepNewest_spec ..).1.subset hm)) }

/-- Trimming the messages of a window trims the window. -/
theorem trimToContextLimit_messages (w : Window) (limit : ℤ) :
    trimToContextLimit w.messages (some limit) = (w.trim limit).messages := by
  have hrest : ∀ m ∈ (w.earlier ++ w.request :: w.turn).head?, m.role ≠ .system := by
    intro m hm
    cases hearlier : w.earlier with
    | nil =>
      rw [hearlier] at hm
      cases hm
      rw [w.request_user]
      decide
    | cons m' earlier =>
      rw [hearlier] at hm
      cases hm
      exact w.earlier_ne_system m (by simp [hearlier])
  obtain ⟨htake, hdrop⟩ := takeWhile_system w.pinned_system hrest
  rw [messages, List.append_assoc, trimToContextLimit]
  simp only [htake, hdrop, requestAt_append w.request_user w.turn_ne_user, List.drop_left,
    List.take_left]
  rfl

/-- A window whose parts are settled, but for tool messages at the front of the earlier turns. -/
def Settles (w : Window) : Prop :=
  WellFormed (dropLeadingOrphan w.earlier) ∧ WellFormed w.turn

/-- System messages announce nothing and answer nothing. -/
lemma wellFormed_of_system {messages : List ChatMessage} (h : ∀ m ∈ messages, m.role = .system) :
    WellFormed messages := by
  induction messages with
  | nil => exact .nil
  | cons m messages ih =>
    have hm : m.kind = .plain := by rw [ChatMessage.kind, h m (by simp)]
    exact .plain hm (ih fun m' hm' => h m' (List.mem_cons_of_mem _ hm'))

/-- A window is well-formed when its parts are. -/
lemma wellFormed_messages_iff (w : Window) :
    WellFormed w.messages ↔ WellFormed (w.pinned ++ w.earlier) ∧ WellFormed w.turn := by
  have hrequest : w.request.kind = .plain := by rw [ChatMessage.kind, w.request_user]
  unfold WellFormed messages
  rw [settled_append_iff (by simp [hrequest, Kind.isAnswer]), settled_plain_cons_iff hrequest]

/-- A window that settles is well-formed once it is trimmed, and stays so. -/
theorem Settles.trim {w : Window} (h : w.Settles) (limit : ℤ) :
    WellFormed (w.trim limit).messages ∧ (w.trim limit).Settles := by
  have hearlier : WellFormed (w.trim limit).earlier := by
    show WellFormed (if _ then _ else _)
    split
    · exact wellFormed_dropLeadingOrphan h.1 _ _
    · exact .nil
  have hturn : WellFormed (w.trim limit).turn := by
    refine wellFormed_dropLeadingOrphan ?_ _ _
    rw [dropLeadingOrphan_eq, h.2.dropWhile_eq]
    exact h.2
  refine ⟨(wellFormed_messages_iff _).mpr ⟨?_, hturn⟩, ?_, hturn⟩
  · exact (wellFormed_of_system w.pinned_system).append hearlier
  · rw [dropLeadingOrphan_eq, hearlier.dropWhile_eq]
    exact hearlier

end Window

end Terraformer.Assistant
