import Terraformer.Device.Reports

/-!
# Undoing a routing change

The commands and inverse commands of the four change types that touch a routing process.  A
network statement, its removal and a RIP version always come back, and so does a process that
the change started.  A BGP peer comes back exactly when its remote AS was all that the process
said about it, for the lines that introduce or re-home a peer are undone by removing the peer
altogether (`reverts_routing_iff`).
-/

namespace Terraformer

open Text Compensation Device

section

variable {Port : Type*} [DecidableEq Port] [UnicodeDatabase] {naming : Naming Port}
  {c : Config Port} {step : ChangeStepIntent} {context : ChangeContext}
  {rendered : RenderedChange}

/-! ## The lines of the renderers -/

/-- The normal form of a text does not depend on its case. -/
@[simp] lemma normalizeStatement_lower (text : String) :
    normalizeStatement (lower text) = normalizeStatement text := by
  rw [normalizeStatement_eq, split_lower, normalizeStatement_eq]
  simp [Function.comp_def]

omit [UnicodeDatabase] in
/-- The words of a network statement. -/
lemma split_networkStatement (value : String) :
    split (networkStatement value) = "network" :: split value := by
  rw [networkStatement, split_append (by decide), collapse, split_join_split,
    show split "network " = ["network"] by decide]
  rfl

/-- The words of a normalised network statement are the keyword and the lowered value. -/
lemma split_normalizeStatement_network (value : String) :
    split (normalizeStatement (networkStatement value)) =
      "network" :: (split value).map lower := by
  rw [split_normalizeStatement, split_networkStatement, List.map_cons, lower_eq_self (by decide)]

omit [UnicodeDatabase] in
/-- The words of a line about a peer. -/
lemma split_neighbor (value : String) :
    split ("neighbor " ++ collapse value) = "neighbor" :: split value := by
  rw [split_append (by decide), collapse, split_join_split,
    show split "neighbor " = ["neighbor"] by decide]
  rfl

omit [UnicodeDatabase] in
/-- A line that is read as a statement or its negation is a statement line. -/
lemma isStatementLine_of_statement {line text : String}
    (h : readCommand line = some (.statement text)) : IsStatementLine line := by
  rintro command hcommand
  rw [h, Option.mem_def, Option.some.injEq] at hcommand
  exact Or.inl ⟨text, hcommand.symm⟩

omit [UnicodeDatabase] in
/-- What a `no` line takes out is a statement line. -/
lemma isStatementLine_of_noStatement {line text : String}
    (h : readCommand line = some (.noStatement text)) : IsStatementLine line := by
  rintro command hcommand
  rw [h, Option.mem_def, Option.some.injEq] at hcommand
  exact Or.inr ⟨text, hcommand.symm⟩

omit [UnicodeDatabase] in
/-- Two lists of lines are statement lines when each of them is. -/
lemma isStatementLine_of_mem {lines undo : List String} (hlines : ∀ line ∈ lines,
    IsStatementLine line) (hundo : ∀ line ∈ undo, IsStatementLine line) :
    ∀ line ∈ lines ++ undo, IsStatementLine line := fun line hline =>
  (List.mem_append.mp hline).elim (hlines line) (hundo line)

/-! ## Network statements -/

/-- Adding a network statement is undone. -/
lemma reverts_routerNetwork (hctx : ReportsProcesses c context)
    (hv : validateRouterNetwork step context = []) :
    Reverts naming c (renderRouterNetwork step context) := by
  obtain ⟨hname, hnew⟩ := routerNetwork_of_validateRouterNetwork hv
  have hsplit : split (strip step.target) ≠ [] := by
    rw [split_strip]
    exact hname.split_ne_nil
  have hline := readCommand_statement (split_networkStatement step.desiredValue) (by decide)
  have hno := readCommand_noStatement (split_networkStatement step.desiredValue) (by decide)
  unfold renderRouterNetwork
  cases hprocess : context.routingProcess (strip step.target) with
  | none =>
    simp only [hprocess]
    exact reverts_startProcess _ hsplit (hctx.routingProcess_none hprocess)
      (isStatementLine_of_statement hline)
  | some existing =>
    obtain ⟨statements, hstatements, hsame⟩ := hctx.routingProcess hprocess
    simp only [hprocess]
    refine (reverts_process_iff _ hsplit hstatements (isStatementLine_of_mem ?_ ?_)).mpr ?_
    · simpa using isStatementLine_of_statement hline
    · simpa using isStatementLine_of_noStatement hno
    · simp only [List.map_cons, List.map_nil, hline, hno]
      have hwords : split (normalizeStatement (join (split (networkStatement
          step.desiredValue)))) = "network" :: (split step.desiredValue).map lower := by
        rw [normalizeStatement_join_split, split_normalizeStatement_network]
      refine undoes_addNetwork hwords ?_
      · intro s hs heq
        rw [normalizeStatement_join_split] at heq
        have hhas := (hasStatement_iff hsame (networkStatement step.desiredValue)).mpr ⟨s, hs, heq⟩
        rw [hnew existing hprocess] at hhas
        cases hhas

/-- Taking out a network statement is undone. -/
lemma reverts_routerNetworkRemove (hc : c.ProcessesWellFormed) (hctx : ReportsProcesses c context)
    (hv : validateRouterNetworkRemove step context = []) :
    Reverts naming c (renderRouterNetworkRemove step) := by
  obtain ⟨hname, existing, hprocess, hhas⟩ :=
    routerNetworkRemove_of_validateRouterNetworkRemove hv
  have hsplit : split (strip step.target) ≠ [] := by
    rw [split_strip]
    exact hname.split_ne_nil
  have hline := readCommand_statement (split_networkStatement step.desiredValue) (by decide)
  have hno := readCommand_noStatement (split_networkStatement step.desiredValue) (by decide)
  obtain ⟨statements, hstatements, hsame⟩ := hctx.routingProcess hprocess
  refine (reverts_process_iff _ hsplit hstatements (isStatementLine_of_mem ?_ ?_)).mpr ?_
  · simpa using isStatementLine_of_noStatement hno
  · simpa using isStatementLine_of_statement hline
  · simp only [List.map_cons, List.map_nil, hline, hno]
    have hwords : split (normalizeStatement (join (split (networkStatement
        step.desiredValue)))) = "network" :: (split step.desiredValue).map lower := by
      rw [normalizeStatement_join_split, split_normalizeStatement_network]
    refine undoes_removeNetwork (hc _ _ hstatements) hwords ?_
    rw [normalizeStatement_join_split]
    exact (hasStatement_iff hsame _).mp hhas

/-! ## The RIP version -/

/-- A version starts with the keyword. -/
lemma exists_of_isVersion {s : String} (h : isVersion s = true) :
    ∃ words, split (normalizeStatement s) = "version" :: words := by
  rw [isVersion, beq_iff_eq] at h
  cases hs : split (normalizeStatement s) with
  | nil => rw [hs] at h; cases h
  | cons w ws =>
    rw [hs, List.head?_cons, Option.some.injEq] at h
    exact ⟨ws, by rw [h]⟩

/-- A statement whose text does not start with the keyword is no version. -/
lemma isVersion_eq_false {s : String} (h : startswith (normalizeStatement s) "version" = false) :
    isVersion s = false := by
  by_contra hs
  obtain ⟨words, hwords⟩ := exists_of_isVersion (by simpa using hs)
  have hstart : startswith (join (["version"] ++ words)) (join ["version"]) = true :=
    startswith_join (by simp) words
  rw [List.singleton_append, ← hwords, join_split_normalizeStatement, join_singleton, h] at hstart
  cases hstart

/-- Setting the RIP version is undone. -/
lemma reverts_ripVersion (hc : c.ProcessesWellFormed) (hctx : ReportsProcesses c context)
    (hv : validateRipVersion step context = []) :
    Reverts naming c (renderRipVersion step context) := by
  obtain ⟨hversion, -⟩ := ripVersion_of_validateRipVersion hv
  have hsplit : split "rip" ≠ [] := by decide
  have hwords : split ("version " ++ strip step.desiredValue) =
      "version" :: split (strip step.desiredValue) := by
    rw [split_append (by decide), show split "version " = ["version"] by decide,
      List.singleton_append]
  have hline := readCommand_statement hwords (by decide)
  have hnormal : split (normalizeStatement (join (split ("version " ++ strip step.desiredValue)))) =
      "version" :: (split (strip step.desiredValue)).map lower := by
    rw [normalizeStatement_join_split, split_normalizeStatement, hwords, List.map_cons,
      lower_eq_self (by decide)]
  have hlines : ∀ line ∈ ["version " ++ strip step.desiredValue], IsStatementLine line := by
    simpa using isStatementLine_of_statement hline
  unfold renderRipVersion
  cases hprocess : context.routingProcess "rip" with
  | none =>
    exact reverts_startProcess "rip" hsplit (hctx.routingProcess_none hprocess)
      (isStatementLine_of_statement hline)
  | some existing =>
    obtain ⟨statements, hstatements, hsame⟩ := hctx.routingProcess hprocess
    cases hfound : existing.findStatement "version " with
    | none =>
      have hno : readCommand "no version" = some (.noStatement "version") := by decide
      refine (reverts_process_iff "rip" hsplit hstatements
        (isStatementLine_of_mem hlines ?_)).mpr ?_
      · simpa [hfound] using isStatementLine_of_noStatement hno
      · simp only [List.map_cons, List.map_nil, hline, hfound, Option.getD_none, hno]
        refine undoes_firstVersion hnormal fun s hs => isVersion_eq_false ?_
        have hstart := not_startswith_of_findStatement hsame hfound s hs
        rwa [normalizeStatement_version] at hstart
    | some previous =>
      obtain ⟨hstart, old, hold, hprevious⟩ := exists_of_findStatement hsame hfound
      rw [normalizeStatement_version, ← hprevious] at hstart
      obtain ⟨hisversion, hspelling⟩ := (hc _ _ hstatements).version old hold hstart
      obtain ⟨words, holdwords⟩ := exists_of_isVersion hisversion
      have hread := readCommand_statement holdwords (by decide)
      rw [hprevious, ← hprevious, join_split_normalizeStatement] at hread
      refine (reverts_process_iff "rip" hsplit hstatements
        (isStatementLine_of_mem hlines ?_)).mpr ?_
      · simpa [hfound, hprevious] using isStatementLine_of_statement hread
      · simp only [List.map_cons, List.map_nil, hline, hfound, Option.getD_some, ← hprevious,
          hread]
        rw [hspelling]
        exact undoes_version (hc _ _ hstatements) hnormal holdwords hold hspelling

/-! ## BGP peers -/

/-- All that a running process says about the peer of a change is its remote AS. -/
def PeerHasOnlyRemoteAs (c : Config Port) (step : ChangeStepIntent) : Prop :=
  ∀ statements, c.processes (normalizeStatement step.target) = some statements →
    ∀ s ∈ statements, isOfPeer (peerAddress step.desiredValue) s = true →
      isRemoteAs (peerAddress step.desiredValue) s = true

/-- A remote AS starts with the keywords and the peer. -/
lemma exists_of_isRemoteAs (peer : String) {s : String} (h : isRemoteAs peer s = true) :
    ∃ words, split (normalizeStatement s) = "neighbor" :: peer :: "remote-as" :: words := by
  rw [isRemoteAs, beq_iff_eq] at h
  have happend := List.take_append_drop 3 (split (normalizeStatement s))
  rw [h, List.cons_append, List.cons_append, List.cons_append, List.nil_append] at happend
  exact ⟨_, happend.symm⟩

/-- A statement whose text does not start with the keywords and the peer is no remote AS of
the peer. -/
lemma isRemoteAs_eq_false {peer s : String} (h : startswith (normalizeStatement s)
    (join ["neighbor", peer, "remote-as"]) = false) : isRemoteAs peer s = false := by
  by_contra hs
  obtain ⟨words, hwords⟩ := exists_of_isRemoteAs peer (by simpa using hs)
  have hstart : startswith (join (["neighbor", peer, "remote-as"] ++ words))
      (join ["neighbor", peer, "remote-as"]) = true := startswith_join (by simp) words
  rw [show ["neighbor", peer, "remote-as"] ++ words = "neighbor" :: peer :: "remote-as" :: words
    from rfl, ← hwords, join_split_normalizeStatement, h] at hstart
  cases hstart

/-- Adding a BGP neighbour is undone exactly when the neighbour had no other statement. -/
lemma reverts_bgpNeighbor_iff (hc : c.ProcessesWellFormed) (hctx : ReportsProcesses c context)
    (hv : validateBgpNeighbor step context = []) :
    Reverts naming c (renderBgpNeighbor step context) ↔ PeerHasOnlyRemoteAs c step := by
  obtain ⟨hname, hissues, -⟩ := bgpNeighbor_of_validateBgpNeighbor hv
  obtain ⟨asn, hwords⟩ := words_of_bgpNeighborIssues hissues
  obtain ⟨hpeerword, hpeerlower⟩ := peerAddress_of_bgpNeighborIssues hissues
  obtain ⟨peer, hpeer⟩ : ∃ peer, peer = peerAddress step.desiredValue := ⟨_, rfl⟩
  rw [← hpeer] at hwords hpeerword hpeerlower
  have hsplit : split (lower (strip step.target)) ≠ [] := by
    rw [split_lower, split_strip]
    simpa using hname.split_ne_nil
  have hkey : normalizeStatement (lower (strip step.target)) = normalizeStatement step.target := by
    rw [normalizeStatement_lower, normalizeStatement_strip]
  have hline := readCommand_statement (split_neighbor step.desiredValue) (by decide)
  have hnormal : split (normalizeStatement (join (split ("neighbor " ++
      collapse step.desiredValue)))) = "neighbor" :: peer :: "remote-as" :: [asn] := by
    rw [normalizeStatement_join_split, split_normalizeStatement, split_neighbor, List.map_cons,
      hwords, lower_eq_self (by decide)]
  have hpeersplit : split ("neighbor " ++ peer) = ["neighbor", peer] :=
    split_append_word (by decide) hpeerword
  have hno : readCommand ("no neighbor " ++ peer) =
      some (.noStatement (join (split ("neighbor " ++ peer)))) := by
    rw [← readCommand_noStatement hpeersplit (by decide), ← String.append_assoc,
      show "no " ++ "neighbor " = "no neighbor " from rfl]
  have hwithdraw : split (normalizeStatement (join (split ("neighbor " ++ peer)))) =
      ["neighbor", peer] := by
    rw [normalizeStatement_join_split, split_normalizeStatement, hpeersplit, List.map_cons,
      List.map_singleton, hpeerlower, lower_eq_self (by decide)]
  have hfind := normalizeStatement_remoteAs hpeerword hpeerlower
  have hstatementline := isStatementLine_of_statement hline
  have hnoline := isStatementLine_of_noStatement hno
  unfold renderBgpNeighbor PeerHasOnlyRemoteAs
  rw [← hpeer]
  cases hprocess : context.routingProcess (lower (strip step.target)) with
  | none =>
    have hnone := hctx.routingProcess_none hprocess
    simp only [hprocess]
    refine iff_of_true (reverts_startProcess _ hsplit hnone hstatementline) ?_
    intro statements hstatements
    rw [← hkey, hnone] at hstatements
    cases hstatements
  | some existing =>
    obtain ⟨statements, hstatements, hsame⟩ := hctx.routingProcess hprocess
    have hcondition : (∀ t, c.processes (normalizeStatement step.target) = some t →
        ∀ s ∈ t, isOfPeer peer s = true → isRemoteAs peer s = true) ↔
          ∀ s ∈ statements, isOfPeer peer s = true → isRemoteAs peer s = true := by
      rw [← hkey, hstatements]
      simp
    rw [hcondition]
    cases hfound : existing.findStatement ("neighbor " ++ peer ++ " remote-as ") with
    | none =>
      simp only [hprocess, hfound]
      rw [reverts_process_iff _ hsplit hstatements (isStatementLine_of_mem
        (by simpa using hstatementline) (by simpa using hnoline))]
      simp only [List.map_cons, List.map_nil, hline, hno]
      refine undoes_newPeer_iff hnormal hwithdraw fun s hs => isRemoteAs_eq_false ?_
      have hstart := not_startswith_of_findStatement hsame hfound s hs
      rwa [hfind] at hstart
    | some previous =>
      simp only [hprocess, hfound]
      obtain ⟨hstart, old, hold, hprevious⟩ := exists_of_findStatement hsame hfound
      rw [hfind, ← hprevious] at hstart
      obtain ⟨hremote, hspelling⟩ := (hc _ _ hstatements).remoteAs peer old hold hstart
      obtain ⟨words, holdwords⟩ := exists_of_isRemoteAs _ hremote
      have hread := readCommand_statement holdwords (by decide)
      rw [join_split_normalizeStatement, hspelling] at hread
      rw [hspelling] at hprevious
      subst hprevious
      rw [reverts_process_iff _ hsplit hstatements (isStatementLine_of_mem ?_ ?_)]
      · simp only [List.map_cons, List.map_nil, hline, hno, hread]
        exact undoes_rehome_iff (hc _ _ hstatements) hnormal holdwords hwithdraw hold hspelling
      · simpa using ⟨hnoline, hstatementline⟩
      · simpa using ⟨hnoline, isStatementLine_of_statement hread⟩

/-! ## The four change types -/

/-- The four change types that touch a routing process. -/
def ChangeType.isRouting : ChangeType → Bool
  | .routerNetwork | .routerNetworkRemove | .routerRipVersion | .bgpNeighbor => true
  | _ => false

/-- The inverse commands of a validated routing change restore every configuration that the
context reports, from wherever the device stopped the commands, exactly when the change is not
about a BGP peer, or its remote AS is all that the process says about the peer. -/
theorem reverts_routing_iff (htype : step.changeType.isRouting = true)
    (hc : c.ProcessesWellFormed) (hctx : ReportsProcesses c context)
    (hv : validateChange step context = []) (hr : renderChange step context = .ok rendered) :
    Reverts naming c rendered ↔
      (step.changeType = .bgpNeighbor → PeerHasOnlyRemoteAs c step) := by
  unfold validateChange at hv
  unfold renderChange at hr
  cases ht : step.changeType with
  | routerNetwork =>
    simp only [ht, Except.ok.injEq] at hv hr
    subst hr
    exact iff_of_true (reverts_routerNetwork hctx hv) (by simp)
  | routerNetworkRemove =>
    simp only [ht, Except.ok.injEq] at hv hr
    subst hr
    exact iff_of_true (reverts_routerNetworkRemove hc hctx hv) (by simp)
  | routerRipVersion =>
    simp only [ht, Except.ok.injEq] at hv hr
    subst hr
    exact iff_of_true (reverts_ripVersion hc hctx hv) (by simp)
  | bgpNeighbor =>
    simp only [ht, Except.ok.injEq] at hv hr
    subst hr
    simpa using reverts_bgpNeighbor_iff hc hctx hv
  | _ => simp [ht, ChangeType.isRouting] at htype

end

/-! ## A sample router -/

/-- A router that runs BGP with the given statements. -/
@[reducible] def sampleBgp (lines : List String) : Config Unit where
  hostname := "R1"
  domainLookup := true
  ports _ := ⟨none, false, .staticAccess, 1, .dot1q, allVlans⟩
  vlans _ := none
  routes _ := none
  processes name := if name = "bgp 65000" then some lines.toFinset else none

/-- The routing processes of the sample router, as reported. -/
@[reducible] def sampleBgpContext (lines : List String) : ChangeContext where
  routingProcesses := [⟨"bgp 65000", lines⟩]

/-- A peer of the sample router, with its remote AS and a description. -/
@[reducible] def samplePeer : List String :=
  ["neighbor 192.0.2.2 remote-as 65002", "neighbor 192.0.2.2 description core"]

/-- The beginning of a remote AS fits a statement of the sample peer for its own address only. -/
lemma samplePeer_remoteAs {peer s : String} (hs : s ∈ samplePeer)
    (h : startswith s (join ["neighbor", peer, "remote-as"]) = true) :
    s = "neighbor 192.0.2.2 remote-as 65002" ∧ peer = "192.0.2.2" := by
  obtain ⟨rest, hrest⟩ : ∃ rest, s.toList =
      "neighbor ".toList ++ (peer.toList ++ (" remote-as".toList ++ rest)) := by
    rw [startswith, List.isPrefixOf_iff_prefix] at h
    obtain ⟨rest, hrest⟩ := h
    refine ⟨rest, ?_⟩
    rw [← hrest, join_cons_cons, join_cons_cons, join_singleton]
    simp
  obtain ⟨n, hn⟩ : ∃ n, n = peer.toList.length := ⟨_, rfl⟩
  have htake : peer.toList = (s.toList.drop 9).take n := by
    rw [hrest, hn, List.drop_left' (by decide), List.take_left]
  have hdrop : " remote-as".toList <+: (s.toList.drop 9).drop n := by
    rw [hrest, hn, List.drop_left' (by decide), List.drop_left]
    exact List.prefix_append _ _
  have hlen : n ≤ s.toList.length := by
    rw [hrest, hn]
    simp
    omega
  have hfits : ∀ t ∈ samplePeer, ∀ k < 40, " remote-as".toList <+: (t.toList.drop 9).drop k →
      t = "neighbor 192.0.2.2 remote-as 65002" ∧
        String.ofList ((t.toList.drop 9).take k) = "192.0.2.2" := by
    decide +kernel
  have hshort : ∀ t ∈ samplePeer, t.toList.length < 40 := by decide
  obtain ⟨hs', hpeer⟩ := hfits s hs n (Nat.lt_of_le_of_lt hlen (hshort s hs)) hdrop
  rw [← htake, String.ofList_toList] at hpeer
  exact ⟨hs', hpeer⟩

/-- The statements of the sample peer are in normal form, word by word. -/
lemma samplePeer_words :
    letI := asciiDatabase
    normalizeStatement "bgp 65000" = "bgp 65000" ∧
      peerAddress "192.0.2.2 remote-as 65003" = "192.0.2.2" ∧
      (∀ s ∈ samplePeer, normalizeStatement s = s ∧ startswith s "version" = false) ∧
      samplePeer.map split = [["neighbor", "192.0.2.2", "remote-as", "65002"],
        ["neighbor", "192.0.2.2", "description", "core"]] := by
  decide +kernel

/-- The statements of the sample peer are spelled as the device prints them. -/
lemma samplePeer_canonical :
    letI := asciiDatabase
    CanonicalStatements samplePeer.toFinset := by
  let _ := asciiDatabase
  obtain ⟨-, -, heval, hwords⟩ := samplePeer_words
  have hnormal : ∀ s ∈ samplePeer, normalizeStatement s = s := fun s hs => (heval s hs).1
  have hsplit : ∀ s ∈ samplePeer, split (normalizeStatement s) = split s :=
    fun s hs => congrArg split (hnormal s hs)
  have hmem : ∀ s ∈ samplePeer, split s ∈ samplePeer.map split :=
    fun s hs => List.mem_map_of_mem hs
  rw [hwords] at hmem
  have hversion : ∀ s ∈ samplePeer, isVersion s = false := by
    intro s hs
    rw [isVersion, hsplit s hs]
    rcases List.mem_pair.mp (hmem s hs) with h | h <;> simp [h]
  have hremote : ∀ peer, ∀ s ∈ samplePeer, isRemoteAs peer s = true →
      s = "neighbor 192.0.2.2 remote-as 65002" := by
    intro peer s hs h
    rw [isRemoteAs, hsplit s hs] at h
    rcases List.mem_pair.mp hs with rfl | rfl
    · rfl
    · simp only [List.map_cons, List.map_nil, List.cons.injEq, and_true] at hwords
      simp [hwords.2] at h
  constructor
  · intro s hs _
    exact hnormal s (List.mem_toFinset.mp hs)
  · intro s hs h
    obtain ⟨hs', hno⟩ := heval s (List.mem_toFinset.mp hs)
    rw [hs', hno] at h
    cases h
  · intro s hs t _ h
    rw [hversion s (List.mem_toFinset.mp hs)] at h
    cases h
  · intro peer s hs h
    rw [hnormal s (List.mem_toFinset.mp hs)] at h ⊢
    obtain ⟨rfl, rfl⟩ := samplePeer_remoteAs (List.mem_toFinset.mp hs) h
    simp only [List.map_cons, List.map_nil, List.cons.injEq, and_true] at hwords
    exact ⟨by simp [isRemoteAs, hsplit _ (List.mem_toFinset.mp hs), hwords.1], rfl⟩
  · intro peer s hs t ht hs' ht'
    rw [hremote peer s (List.mem_toFinset.mp hs) hs', hremote peer t (List.mem_toFinset.mp ht) ht']

/-- The sample process is well formed. -/
lemma sampleBgp_wellFormed {lines : List String} (h : lines ⊆ samplePeer) :
    letI := asciiDatabase
    (sampleBgp lines).ProcessesWellFormed := by
  let _ := asciiDatabase
  intro name statements hname
  simp only at hname
  split at hname
  · cases hname
    refine samplePeer_canonical.subset fun s hs => ?_
    exact List.mem_toFinset.mpr (h (List.mem_toFinset.mp hs))
  · cases hname

/-- The context reports the sample process. -/
lemma sampleBgp_reports (lines : List String) :
    letI := asciiDatabase
    ReportsProcesses (sampleBgp lines) (sampleBgpContext lines) := by
  let _ := asciiDatabase
  have hname := samplePeer_words.1
  constructor
  · intro name statements hstatements
    simp only at hstatements
    split at hstatements
    · rename_i heq
      exact ⟨_, List.mem_singleton_self _, by rw [hname, heq]⟩
    · cases hstatements
  · intro facts hfacts
    obtain rfl := List.mem_singleton.mp hfacts
    exact ⟨lines.toFinset, by simp [hname], by simp⟩

/-- Moving a peer of which only the remote AS is configured to another AS. -/
@[reducible] def rehomePeer :
    @AcceptedChange asciiDatabase (sampleBgpContext ["neighbor 192.0.2.2 remote-as 65002"]) :=
  letI := asciiDatabase
  ⟨⟨.bgpNeighbor, "bgp 65000", "192.0.2.2 remote-as 65003"⟩,
    ⟨["router bgp 65000", "no neighbor 192.0.2.2", "neighbor 192.0.2.2 remote-as 65003"],
      ["router bgp 65000", "no neighbor 192.0.2.2", "neighbor 192.0.2.2 remote-as 65002"]⟩,
    by decide +kernel, by decide +kernel⟩

/-- Moving a described peer to another AS. -/
@[reducible] def rehomeDescribedPeer : @AcceptedChange asciiDatabase (sampleBgpContext samplePeer) :=
  letI := asciiDatabase
  ⟨⟨.bgpNeighbor, "bgp 65000", "192.0.2.2 remote-as 65003"⟩,
    ⟨["router bgp 65000", "no neighbor 192.0.2.2", "neighbor 192.0.2.2 remote-as 65003"],
      ["router bgp 65000", "no neighbor 192.0.2.2", "neighbor 192.0.2.2 remote-as 65002"]⟩,
    by decide +kernel, by decide +kernel⟩

/-- Moving a peer of which only the remote AS is configured to another AS is undone. -/
theorem reverts_rehomed_peer :
    letI := asciiDatabase
    Reverts sampleNaming (sampleBgp ["neighbor 192.0.2.2 remote-as 65002"])
      ⟨["router bgp 65000", "no neighbor 192.0.2.2", "neighbor 192.0.2.2 remote-as 65003"],
        ["router bgp 65000", "no neighbor 192.0.2.2", "neighbor 192.0.2.2 remote-as 65002"]⟩ := by
  let _ := asciiDatabase
  refine (reverts_routing_iff (by rfl) (sampleBgp_wellFormed (by decide)) (sampleBgp_reports _)
    rehomePeer.valid rehomePeer.renders).mpr ?_
  intro _ statements hstatements s hs _
  obtain ⟨hname, haddress, heval, hwords⟩ := samplePeer_words
  simp only [hname, if_true, Option.some.injEq] at hstatements
  obtain rfl : s = "neighbor 192.0.2.2 remote-as 65002" := by simpa [← hstatements] using hs
  simp only [List.map_cons, List.map_nil, List.cons.injEq, and_true] at hwords
  simp [isRemoteAs, (heval _ (List.mem_cons_self)).1, hwords.1, haddress]

/-- Moving a described peer to another AS is accepted, and undoing it loses the description. -/
theorem not_reverts_described_peer :
    letI := asciiDatabase
    let step : ChangeStepIntent := ⟨.bgpNeighbor, "bgp 65000", "192.0.2.2 remote-as 65003"⟩
    (sampleBgp samplePeer).ProcessesWellFormed ∧
      ReportsProcesses (sampleBgp samplePeer) (sampleBgpContext samplePeer) ∧
      validateChange step (sampleBgpContext samplePeer) = [] ∧
      ∃ rendered, renderChange step (sampleBgpContext samplePeer) = .ok rendered ∧
        ¬Reverts sampleNaming (sampleBgp samplePeer) rendered := by
  let _ := asciiDatabase
  intro step
  have hwell := sampleBgp_wellFormed (List.Subset.refl samplePeer)
  have hreports := sampleBgp_reports samplePeer
  have hvalid : validateChange step (sampleBgpContext samplePeer) = [] := rehomeDescribedPeer.valid
  have hbgp : validateBgpNeighbor step (sampleBgpContext samplePeer) = [] := by
    simpa only [validateChange, step] using hvalid
  refine ⟨hwell, hreports, hvalid, renderBgpNeighbor step (sampleBgpContext samplePeer),
    by simp only [renderChange, step], ?_⟩
  rw [reverts_bgpNeighbor_iff hwell hreports hbgp]
  -- The description is a statement about the peer that is not its remote AS.
  intro h
  obtain ⟨hname, haddress, heval, hwords⟩ := samplePeer_words
  simp only [List.map_cons, List.map_nil, List.cons.injEq, and_true] at hwords
  have hdescription := h samplePeer.toFinset (by simp [step, hname])
    "neighbor 192.0.2.2 description core" (by simp)
  rw [isOfPeer, isRemoteAs, (heval _ (by simp)).1, hwords.2] at hdescription
  simp [step, haddress] at hdescription

end Terraformer
