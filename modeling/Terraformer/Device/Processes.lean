import Mathlib
import Terraformer.Device.Components

/-!
# Routing processes

The statements of one routing process as a machine of its own (`processStep`), and what it
takes to undo a change of them: an added or removed statement, a version, the AS of a peer.
A batch in the mode of a process is undone exactly when it is undone on the statements
(`reverts_process_iff`), and a process that a batch starts is undone by removing it
(`reverts_startProcess`).
-/

namespace Terraformer

open Text Compensation

namespace Device

/-! ## Reading the lines -/

/-- The keywords a statement starts with. -/
def statementKeywords : List String :=
  ["network", "version", "neighbor"]

/-- The line of a statement is read. -/
lemma readCommand_statement {line keyword : String} {words : List String}
    (h : split line = keyword :: words) (hk : keyword ∈ statementKeywords) :
    readCommand line = some (.statement (join (split line))) := by
  simp only [statementKeywords, List.mem_cons, List.not_mem_nil, or_false] at hk
  rcases hk with rfl | rfl | rfl <;> (rw [readCommand, h]; rfl)

/-- The line that takes out a statement is read. -/
lemma readCommand_noStatement {line keyword : String} {words : List String}
    (h : split line = keyword :: words) (hk : keyword ∈ ["network", "neighbor"]) :
    readCommand ("no " ++ line) = some (.noStatement (join (split line))) := by
  rw [readCommand, split_append (by decide), show split "no " = ["no"] by decide, h]
  simp only [List.mem_cons, List.not_mem_nil, or_false] at hk
  rcases hk with rfl | rfl <;> rfl

/-- The name of a process enters its mode. -/
lemma readCommand_router {process : String} (h : split process ≠ []) :
    readCommand ("router " ++ process) = some (.router (join (split process))) := by
  obtain ⟨w, ws, hw⟩ := List.exists_cons_of_ne_nil h
  rw [readCommand, split_append (by decide), show split "router " = ["router"] by decide, hw]
  rfl

/-- The line that removes a process is read. -/
lemma readCommand_noRouter {process : String} (h : split process ≠ []) :
    readCommand ("no router " ++ process) = some (.noRouter (join (split process))) := by
  obtain ⟨w, ws, hw⟩ := List.exists_cons_of_ne_nil h
  rw [readCommand, split_append (by decide), show split "no router " = ["no", "router"] by decide,
    hw]
  rfl

variable [UnicodeDatabase]

/-- The words of a text joined by blanks have its normal form. -/
@[simp] lemma normalizeStatement_join_split (text : String) :
    normalizeStatement (join (split text)) = normalizeStatement text := by
  rw [normalizeStatement, split_join_split, normalizeStatement]

/-! ## The statements as a machine -/

/-- One line in the mode of a process, on its statements alone. -/
def processStep (statements : Finset String) (command : Option Command) : Option (Finset String) :=
  command.bind (statementEffect statements)

/-- What the statements of a process keep to: the device has one spelling for a `network` line,
a version and a remote AS, no keyword begins like `version` or `remote-as`, and there is one
version and one remote AS for each peer. -/
structure CanonicalStatements (statements : Finset String) : Prop where
  network : ∀ s ∈ statements, (split (normalizeStatement s)).head? = some "network" →
    normalizeStatement s = s
  version : ∀ s ∈ statements, startswith (normalizeStatement s) "version" = true →
    isVersion s = true ∧ normalizeStatement s = s
  version_unique : ∀ s ∈ statements, ∀ t ∈ statements, isVersion s = true →
    isVersion t = true → s = t
  remoteAs : ∀ peer, ∀ s ∈ statements,
    startswith (normalizeStatement s) (join ["neighbor", peer, "remote-as"]) = true →
      isRemoteAs peer s = true ∧ normalizeStatement s = s
  remoteAs_unique : ∀ peer, ∀ s ∈ statements, ∀ t ∈ statements, isRemoteAs peer s = true →
    isRemoteAs peer t = true → s = t

/-- Fewer statements keep to the same. -/
lemma CanonicalStatements.subset {s t : Finset String} (h : CanonicalStatements t) (hst : s ⊆ t) :
    CanonicalStatements s where
  network a ha := h.network a (hst ha)
  version a ha := h.version a (hst ha)
  version_unique a ha b hb := h.version_unique a (hst ha) b (hst hb)
  remoteAs peer a ha := h.remoteAs peer a (hst ha)
  remoteAs_unique peer a ha b hb := h.remoteAs_unique peer a (hst ha) b (hst hb)

section Keywords

variable (statements : Finset String) {line : String} {words : List String}

/-- A `network` line that is not there yet is added. -/
lemma addStatement_network (h : split (normalizeStatement line) = "network" :: words) :
    addStatement statements line =
      if ∃ s ∈ statements, normalizeStatement s = normalizeStatement line then statements
      else insert (normalizeStatement line) statements := by
  rw [addStatement, h]
  rfl

/-- A network statement is taken out under every spelling. -/
lemma removeStatement_network (h : split (normalizeStatement line) = "network" :: words) :
    removeStatement statements line =
      statements.filter fun s => normalizeStatement s ≠ normalizeStatement line := by
  rw [removeStatement, h]
  rfl

/-- A version takes the place of the old one. -/
lemma addStatement_version (h : split (normalizeStatement line) = "version" :: words) :
    addStatement statements line =
      insert (normalizeStatement line) (statements.filter fun s => isVersion s = false) := by
  rw [addStatement, h]
  rfl

/-- A remote AS takes the place of the old one. -/
lemma addStatement_remoteAs {peer : String}
    (h : split (normalizeStatement line) = "neighbor" :: peer :: "remote-as" :: words) :
    addStatement statements line =
      insert (normalizeStatement line) (statements.filter fun s => isRemoteAs peer s = false) := by
  rw [addStatement, h]
  rfl

/-- Taking out a version takes out every version. -/
lemma removeStatement_version (h : split (normalizeStatement line) = ["version"]) :
    removeStatement statements line = statements.filter fun s => isVersion s = false := by
  rw [removeStatement, h]
  rfl

/-- The negated name of a peer takes away all that is about the peer. -/
lemma removeStatement_peer {peer : String}
    (h : split (normalizeStatement line) = ["neighbor", peer]) :
    removeStatement statements line = statements.filter fun s => isOfPeer peer s = false := by
  rw [removeStatement, h]
  rfl

end Keywords

/-- An added statement is there, up to case and spacing. -/
lemma exists_mem_addStatement (statements : Finset String) (line : String) :
    ∃ s ∈ addStatement statements line, normalizeStatement s = normalizeStatement line := by
  unfold addStatement
  split
  · exact ⟨_, Finset.mem_insert_self _ _, normalizeStatement_normalizeStatement _⟩
  · exact ⟨_, Finset.mem_insert_self _ _, normalizeStatement_normalizeStatement _⟩
  · split
    · assumption
    · exact ⟨_, Finset.mem_insert_self _ _, normalizeStatement_normalizeStatement _⟩

/-- A remote AS is about its peer. -/
lemma isOfPeer_of_isRemoteAs {peer s : String} (h : isRemoteAs peer s = true) :
    isOfPeer peer s = true := by
  simp only [isRemoteAs, isOfPeer, beq_iff_eq] at h ⊢
  have htake := congrArg (List.take 2) h
  rwa [List.take_take] at htake

/-! ## Undoing a change of the statements -/

/-- What a statement line does to the statements. -/
lemma processStep_statement (statements : Finset String) (line : String) :
    processStep statements (some (.statement line)) = some (addStatement statements line) := rfl

/-- What a `no` line does to the statements. -/
lemma processStep_noStatement (statements : Finset String) (line : String) :
    processStep statements (some (.noStatement line)) =
      some (removeStatement statements line) := rfl

/-- Two batches of one line each are undone when the second line undoes the first, and does
nothing by itself. -/
lemma undoes_single {statements added : Finset String} {command undo : Option Command}
    (hcommand : processStep statements command = some added)
    (hundo : processStep added undo = some statements)
    (hself : processStep statements undo = some statements) :
    Undoes id id processStep [command] [undo] statements := by
  rw [undoes_iff_le]
  intro k hk
  rw [List.length_singleton] at hk
  interval_cases k
  · simp [send, execute, hself]
  · simp [send, execute, hcommand, hundo]

section Undo

variable {statements : Finset String} {line : String} {words : List String}

/-- A new `network` line is undone by its negation. -/
lemma undoes_addNetwork (hline : split (normalizeStatement line) = "network" :: words)
    (hnew : ∀ s ∈ statements, normalizeStatement s ≠ normalizeStatement line) :
    Undoes id id processStep [some (.statement line)] [some (.noStatement line)] statements := by
  have hremove : removeStatement statements line = statements := by
    rw [removeStatement_network _ hline]
    exact Finset.filter_true_of_mem hnew
  have hadd : addStatement statements line = insert (normalizeStatement line) statements := by
    rw [addStatement_network _ hline, if_neg]
    rintro ⟨s, hs, heq⟩
    exact hnew s hs heq
  refine undoes_single (processStep_statement _ _) ?_ ?_
  · rw [processStep_noStatement, removeStatement_network _ hline, hadd, Finset.filter_insert,
      if_neg (by simp), Finset.filter_true_of_mem hnew]
  · rw [processStep_noStatement, hremove]

/-- The negation of a configured `network` line is undone by the line. -/
lemma undoes_removeNetwork (hstatements : CanonicalStatements statements)
    (hline : split (normalizeStatement line) = "network" :: words)
    (hold : ∃ s ∈ statements, normalizeStatement s = normalizeStatement line) :
    Undoes id id processStep [some (.noStatement line)] [some (.statement line)] statements := by
  have hspelling : ∀ s ∈ statements, normalizeStatement s = normalizeStatement line →
      s = normalizeStatement line := by
    intro s hs heq
    rw [← hstatements.network s hs (by rw [heq, hline]; rfl), heq]
  refine undoes_single (processStep_noStatement _ _) ?_ ?_
  · rw [processStep_statement, addStatement_network _ hline, removeStatement_network _ hline,
      if_neg (by simp)]
    refine congrArg some (Finset.ext fun s => ?_)
    simp only [Finset.mem_insert, Finset.mem_filter]
    constructor
    · rintro (rfl | ⟨hs, -⟩)
      · obtain ⟨t, ht, heq⟩ := hold
        rwa [hspelling t ht heq] at ht
      · exact hs
    · intro hs
      by_cases heq : normalizeStatement s = normalizeStatement line
      · exact Or.inl (hspelling s hs heq)
      · exact Or.inr ⟨hs, heq⟩
  · rw [processStep_statement, addStatement_network _ hline, if_pos hold]

omit [UnicodeDatabase] in
/-- The only statement of a kind, put in the place of all statements of the kind, leaves the
statements as they were. -/
lemma insert_filter_eq_self {p : String → Bool} {old : String} (hold : old ∈ statements)
    (hp : p old = true) (hunique : ∀ s ∈ statements, p s = true → s = old) :
    insert old (statements.filter fun s => p s = false) = statements := by
  ext s
  simp only [Finset.mem_insert, Finset.mem_filter]
  constructor
  · rintro (rfl | ⟨hs, -⟩)
    · exact hold
    · exact hs
  · intro hs
    cases hps : p s with
    | true => exact Or.inl (hunique s hs hps)
    | false => exact Or.inr ⟨hs, rfl⟩

omit [UnicodeDatabase] in
/-- A statement of a kind does not matter to what is not of the kind. -/
lemma filter_insert_filter {p : String → Bool} {new : String} (hp : p new = true) :
    (insert new (statements.filter fun s => p s = false)).filter (fun s => p s = false) =
      statements.filter fun s => p s = false := by
  rw [Finset.filter_insert, if_neg (by simp [hp]), Finset.filter_filter]
  simp

/-- A version line is a version. -/
lemma isVersion_of_split (hline : split (normalizeStatement line) = "version" :: words) :
    isVersion line = true := by
  simp [isVersion, hline]

/-- Normalising a statement does not change whether it is a version. -/
@[simp] lemma isVersion_normalizeStatement (s : String) :
    isVersion (normalizeStatement s) = isVersion s := by
  simp only [isVersion, normalizeStatement_normalizeStatement]

/-- A new version is undone by the version that the process had. -/
lemma undoes_version (hstatements : CanonicalStatements statements) {old : String}
    (hline : split (normalizeStatement line) = "version" :: words)
    {oldWords : List String} (hsplit : split (normalizeStatement old) = "version" :: oldWords)
    (hold : old ∈ statements) (hspelling : normalizeStatement old = old) :
    Undoes id id processStep [some (.statement line)] [some (.statement old)] statements := by
  have hisold := isVersion_of_split hsplit
  have hself : insert old (statements.filter fun s => isVersion s = false) = statements :=
    insert_filter_eq_self hold hisold fun s hs hv => hstatements.version_unique s hs old hold hv
      hisold
  refine undoes_single (processStep_statement _ _) ?_ ?_
  · rw [processStep_statement, addStatement_version _ hsplit, addStatement_version _ hline,
      filter_insert_filter (by simpa using isVersion_of_split hline), hspelling, hself]
  · rw [processStep_statement, addStatement_version _ hsplit, hspelling, hself]

/-- A first version is undone by going back to the default. -/
lemma undoes_firstVersion (hline : split (normalizeStatement line) = "version" :: words)
    (hnone : ∀ s ∈ statements, isVersion s = false) :
    Undoes id id processStep [some (.statement line)] [some (.noStatement "version")]
      statements := by
  have hsplit : split (normalizeStatement "version") = ["version"] := by
    rw [split_normalizeStatement, show split "version" = ["version"] by decide, List.map_singleton,
      lower_eq_self (by decide)]
  have hself := Finset.filter_true_of_mem hnone
  refine undoes_single (processStep_statement _ _) ?_ ?_
  · rw [processStep_noStatement, removeStatement_version _ hsplit, addStatement_version _ hline,
      filter_insert_filter (by simpa using isVersion_of_split hline), hself]
  · rw [processStep_noStatement, removeStatement_version _ hsplit, hself]

/-! ## Undoing a change of a peer -/

section Peer

variable {peer withdraw : String}

/-- Normalising a statement does not change whose neighbour it is about. -/
@[simp] lemma isOfPeer_normalizeStatement (s : String) :
    isOfPeer peer (normalizeStatement s) = isOfPeer peer s := by
  simp only [isOfPeer, normalizeStatement_normalizeStatement]

/-- The line of a remote AS is one. -/
lemma isRemoteAs_of_split
    (hline : split (normalizeStatement line) = "neighbor" :: peer :: "remote-as" :: words) :
    isRemoteAs peer line = true := by
  simp [isRemoteAs, hline]

/-- A first remote AS is undone by the removal of the peer exactly when no statement was about
the peer. -/
lemma undoes_newPeer_iff
    (hline : split (normalizeStatement line) = "neighbor" :: peer :: "remote-as" :: words)
    (hwithdraw : split (normalizeStatement withdraw) = ["neighbor", peer])
    (hnone : ∀ s ∈ statements, isRemoteAs peer s = false) :
    Undoes id id processStep [some (.statement line)] [some (.noStatement withdraw)] statements ↔
      ∀ s ∈ statements, isOfPeer peer s = true → isRemoteAs peer s = true := by
  constructor
  · intro h s hs hpeer
    -- stopped before the first line, the inverse still removes the peer
    have h0 : removeStatement statements withdraw = statements := by
      simpa [send, execute, processStep_noStatement] using h 0
    rw [removeStatement_peer _ hwithdraw] at h0
    rw [← h0] at hs
    simp [hpeer] at hs
  · intro h
    have hother : ∀ s ∈ statements, isOfPeer peer s = false := by
      intro s hs
      by_contra hpeer
      simpa [hnone s hs] using h s hs (by simpa using hpeer)
    refine undoes_single (processStep_statement _ _) ?_ ?_
    · rw [processStep_noStatement, removeStatement_peer _ hwithdraw, addStatement_remoteAs _ hline,
        Finset.filter_true_of_mem hnone, Finset.filter_insert,
        if_neg (by simp [isOfPeer_of_isRemoteAs (isRemoteAs_of_split hline)]),
        Finset.filter_true_of_mem hother]
    · rw [processStep_noStatement, removeStatement_peer _ hwithdraw,
        Finset.filter_true_of_mem hother]

/-- A new remote AS in the place of an old one, each set after the removal of the peer, is
undone exactly when the old remote AS was all there was about the peer. -/
lemma undoes_rehome_iff (hstatements : CanonicalStatements statements) {old : String}
    (hline : split (normalizeStatement line) = "neighbor" :: peer :: "remote-as" :: words)
    {oldWords : List String}
    (hsplit : split (normalizeStatement old) = "neighbor" :: peer :: "remote-as" :: oldWords)
    (hwithdraw : split (normalizeStatement withdraw) = ["neighbor", peer])
    (hold : old ∈ statements) (hspelling : normalizeStatement old = old) :
    Undoes id id processStep [some (.noStatement withdraw), some (.statement line)]
        [some (.noStatement withdraw), some (.statement old)] statements ↔
      ∀ s ∈ statements, isOfPeer peer s = true → isRemoteAs peer s = true := by
  obtain ⟨others, hothers⟩ : ∃ others, others = statements.filter fun s => isOfPeer peer s = false :=
    ⟨_, rfl⟩
  have hremote := isRemoteAs_of_split hsplit
  have hnotremote : others.filter (fun s => isRemoteAs peer s = false) = others := by
    refine Finset.filter_true_of_mem fun s hs => ?_
    by_contra hr
    have hpeer := isOfPeer_of_isRemoteAs (by simpa using hr)
    simp [hothers, hpeer] at hs
  have hremove : ∀ X : Finset String, X.filter (fun s => isOfPeer peer s = false) = others →
      execute processStep X [some (.noStatement withdraw), some (.statement old)] =
        insert old others := by
    intro X hX
    rw [execute_cons_of_some (processStep_noStatement _ _),
      execute_cons_of_some (processStep_statement _ _), execute_nil,
      removeStatement_peer _ hwithdraw, hX, addStatement_remoteAs _ hsplit, hnotremote, hspelling]
  -- wherever the batch stops, what is not about the peer is still there
  have hundone : ∀ k ≤ 2, execute processStep (execute processStep statements
      ([some (.noStatement withdraw), some (.statement line)].take k))
        [some (.noStatement withdraw), some (.statement old)] = insert old others := by
    intro k hk
    refine hremove _ ?_
    obtain rfl | rfl | rfl : k = 0 ∨ k = 1 ∨ k = 2 := by omega
    · simp only [List.take_zero, execute_nil, hothers]
    · simp [execute, processStep_noStatement, removeStatement_peer _ hwithdraw,
        Finset.filter_filter, hothers]
    · simp only [List.take, execute, processStep_noStatement, processStep_statement,
        removeStatement_peer _ hwithdraw, addStatement_remoteAs _ hline]
      rw [← hothers, hnotremote, Finset.filter_insert,
        if_neg (by simp [isOfPeer_of_isRemoteAs (isRemoteAs_of_split hline)]), hothers,
        Finset.filter_filter]
      simp
  rw [undoes_iff_le]
  simp only [send, id]
  constructor
  · intro h s hs hpeer
    have h0 := h 0 (Nat.zero_le _)
    rw [hundone 0 (Nat.zero_le _)] at h0
    rw [← h0, Finset.mem_insert] at hs
    rcases hs with rfl | hs
    · exact hremote
    · simp [hothers, hpeer] at hs
  · intro h k hk
    rw [hundone k hk, hothers]
    exact insert_filter_eq_self hold (isOfPeer_of_isRemoteAs hremote) fun s hs hpeer =>
      hstatements.remoteAs_unique peer s hs old hold (h s hs hpeer) hremote

end Peer

end Undo

/-! ## Batches in the mode of a process -/

section Batches

variable {Port : Type*} [DecidableEq Port]

/-- A line that is rejected or is about a statement of a process. -/
def IsStatementLine (line : String) : Prop :=
  ∀ command ∈ readCommand line,
    (∃ text, command = .statement text) ∨ ∃ text, command = .noStatement text

/-- A statement line in the mode of a process acts on its statements alone. -/
lemma executeLine_process (naming : Naming Port) {c : Config Port} {name line : String}
    (statements : Finset String) (h : IsStatementLine line) :
    executeLine naming ⟨c.setProcess name (some statements), .router name⟩ line =
      (processStep statements (readCommand line)).map fun t =>
        ⟨c.setProcess name (some t), .router name⟩ := by
  rw [executeLine]
  cases hr : readCommand line with
  | none => rfl
  | some command =>
    rcases h command hr with ⟨text, rfl⟩ | ⟨text, rfl⟩ <;>
      simp [perform, executeInMode, executeRouter, statementEffect, processStep]

/-- The name of a process enters its mode, starting the process if need be. -/
lemma executeLine_router (naming : Naming Port) (s : Session Port) {process : String}
    (h : split process ≠ []) : executeLine naming s ("router " ++ process) =
      executeGlobal naming s.config (.router process) := by
  rw [executeLine_of_isGlobal naming s (readCommand_router h) rfl]
  simp only [executeGlobal, normalizeStatement_join_split]

/-- The removal of a process. -/
lemma executeLine_noRouter (naming : Naming Port) (s : Session Port) {process : String}
    (h : split process ≠ []) : executeLine naming s ("no router " ++ process) =
      some ⟨s.config.setProcess (normalizeStatement process) none, .global⟩ := by
  rw [executeLine_of_isGlobal naming s (readCommand_noRouter h) rfl]
  simp only [executeGlobal, normalizeStatement_join_split]

/-- Lines for a running process are undone exactly when they are undone on its statements. -/
theorem reverts_process_iff {naming : Naming Port} {c : Config Port} (process : String)
    {statements : Finset String} {lines undo : List String} (hname : split process ≠ [])
    (hprocess : c.processes (normalizeStatement process) = some statements)
    (hlines : ∀ line ∈ lines ++ undo, IsStatementLine line) :
    Reverts naming c ⟨("router " ++ process) :: lines, ("router " ++ process) :: undo⟩ ↔
      Undoes id id processStep (lines.map readCommand) (undo.map readCommand) statements := by
  have h := undoes_component_iff (fun c => (⟨c, .global⟩ : Session Port)) Session.config
    (executeLine naming) processStep
    (fun t => ⟨c.setProcess (normalizeStatement process) (some t),
      .router (normalizeStatement process)⟩)
    readCommand ("router " ++ process) statements rfl
    (fun t => by
      rw [executeLine_router naming _ hname]
      simp [executeGlobal])
    (fun a b hab => by
      simpa using congrArg (fun d : Config Port => d.processes (normalizeStatement process)) hab)
    (fun t line hline => executeLine_process naming t (hlines line hline))
  rw [← hprocess, Config.setProcess_self] at h
  exact h

/-- A process that a batch starts is undone by removing it. -/
theorem reverts_startProcess {naming : Naming Port} {c : Config Port} (process : String)
    {line : String}
    (hname : split process ≠ []) (hprocess : c.processes (normalizeStatement process) = none)
    (hline : IsStatementLine line) :
    Reverts naming c ⟨["router " ++ process, line], ["no router " ++ process]⟩ := by
  have hself : c.setProcess (normalizeStatement process) none = c := by
    rw [← hprocess, Config.setProcess_self]
  refine undoes_of_frame (fun s => (∃ o, s.config = c.setProcess (normalizeStatement process) o) ∧
    (s.cursor = .global ∨ s.cursor = .router (normalizeStatement process))) ?_ ?_ ?_
  · exact ⟨⟨none, hself.symm⟩, Or.inl rfl⟩
  · rintro i hi ⟨d, cursor⟩ t ⟨⟨o, rfl⟩, hcursor⟩ hexec
    simp only [List.mem_cons, List.not_mem_nil, or_false] at hi
    rcases hi with rfl | rfl
    · rw [executeLine_router naming _ hname] at hexec
      cases o with
      | none =>
        simp only [executeGlobal, Config.setProcess_processes, Option.some.injEq] at hexec
        subst hexec
        exact ⟨⟨_, Config.setProcess_setProcess _ _ _ _⟩, Or.inr rfl⟩
      | some statements =>
        simp only [executeGlobal, Config.setProcess_processes, Option.some.injEq] at hexec
        subst hexec
        exact ⟨⟨_, rfl⟩, Or.inr rfl⟩
    · rw [executeLine] at hexec
      obtain ⟨command, hread, hexec⟩ := Option.bind_eq_some_iff.mp hexec
      -- without the process, or outside its mode, a statement is rejected
      have hstatement : ∀ e : Config Port, executeGlobal naming e command = none := by
        rcases hline command hread with ⟨text, rfl⟩ | ⟨text, rfl⟩ <;> exact fun _ => rfl
      rcases hcursor with rfl | rfl
      · rw [perform] at hexec
        simp only [executeInMode, hstatement] at hexec
        cases hexec
      · rw [perform] at hexec
        simp only [executeInMode, executeRouter, Config.setProcess_processes] at hexec
        cases o with
        | none =>
          simp only [Option.bind_none, hstatement] at hexec
          cases hexec
        | some statements =>
          simp only [Option.bind_some] at hexec
          cases heffect : statementEffect statements command with
          | none =>
            simp only [heffect, Option.map_none, hstatement] at hexec
            cases hexec
          | some t =>
            simp only [heffect, Option.map_some, Config.setProcess_setProcess] at hexec
            cases hexec
            exact ⟨⟨_, rfl⟩, Or.inr rfl⟩
  · rintro ⟨d, cursor⟩ ⟨⟨o, rfl⟩, -⟩
    rw [send, execute_cons_of_some (executeLine_noRouter naming _ hname), execute_nil,
      Config.setProcess_setProcess, hself]

/-- An executed statement line is one of a process that runs. -/
lemma process_of_executeLine {naming : Naming Port} {c : Config Port} {name line : String}
    {t : Session Port} {command : Command} (hread : readCommand line = some command)
    (hglobal : command.isGlobal = false)
    (h : executeLine naming ⟨c, .router name⟩ line = some t) :
    ∃ statements u, c.processes name = some statements ∧
      statementEffect statements command = some u ∧ t.config.processes name = some u ∧
      t.cursor = .router name := by
  rw [executeLine, hread, Option.bind_some, perform] at h
  simp only [executeInMode, executeRouter] at h
  cases hstatements : c.processes name with
  | none =>
    simp only [hstatements, Option.bind_none, executeGlobal_of_not_isGlobal naming c hglobal] at h
    cases h
  | some statements =>
    cases heffect : statementEffect statements command with
    | none =>
      simp only [hstatements, Option.bind_some, heffect, Option.map_none,
        executeGlobal_of_not_isGlobal naming c hglobal] at h
      cases h
    | some u =>
      simp only [hstatements, Option.bind_some, heffect, Option.map_some, Option.some.injEq] at h
      subst h
      exact ⟨statements, u, rfl, heffect, by simp, rfl⟩

/-- Executed statement lines are a run of the statements. -/
lemma process_of_foldlM {naming : Naming Port} {name : String} {lines : List String}
    {commands : List Command} {s t : Session Port} {statements : Finset String}
    (hread : lines.map readCommand = commands.map some)
    (hglobal : ∀ command ∈ commands, command.isGlobal = false) (hs : s.cursor = .router name)
    (hstatements : s.config.processes name = some statements)
    (h : lines.foldlM (executeLine naming) s = some t) :
    ∃ u, commands.foldlM statementEffect statements = some u ∧
      t.config.processes name = some u := by
  induction lines generalizing commands s statements with
  | nil =>
    obtain rfl : commands = [] := List.map_eq_nil_iff.mp hread.symm
    cases h
    exact ⟨statements, rfl, hstatements⟩
  | cons line lines ih =>
    cases commands with
    | nil => cases hread
    | cons command commands =>
      rw [List.map_cons, List.map_cons, List.cons.injEq] at hread
      obtain ⟨e, cursor⟩ := s
      obtain rfl : cursor = .router name := hs
      rw [List.foldlM_cons] at h
      obtain ⟨v, hline, h⟩ := Option.bind_eq_some_iff.mp h
      obtain ⟨r, u, hr, heffect, hu, hcursor⟩ :=
        process_of_executeLine hread.1 (hglobal _ (by simp)) hline
      obtain rfl : r = statements := Option.some.inj (hr.symm.trans hstatements)
      rw [List.foldlM_cons, heffect]
      exact ih hread.2 (fun i hi => hglobal i (by simp [hi])) hcursor hu h

/-- Executed lines for a process are a run of its statements, which are none at first when the
lines start the process. -/
lemma Executes.process {naming : Naming Port} {c d : Config Port} {process : String}
    {lines : List String} (h : Executes naming c (("router " ++ process) :: lines) d)
    (commands : List Command) (hname : split process ≠ [])
    (hread : lines.map readCommand = commands.map some)
    (hglobal : ∀ command ∈ commands, command.isGlobal = false) :
    ∃ u, commands.foldlM statementEffect ((c.processes (normalizeStatement process)).getD ∅) =
        some u ∧ d.processes (normalizeStatement process) = some u := by
  obtain ⟨s, h, rfl⟩ := h
  rw [List.foldlM_cons, executeLine_router naming _ hname] at h
  cases hprocess : c.processes (normalizeStatement process) with
  | none =>
    simp only [executeGlobal, hprocess] at h
    exact process_of_foldlM hread hglobal rfl (by simp) h
  | some statements =>
    simp only [executeGlobal, hprocess] at h
    exact process_of_foldlM hread hglobal rfl hprocess h

end Batches

end Device

end Terraformer
