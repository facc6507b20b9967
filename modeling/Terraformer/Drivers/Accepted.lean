import Terraformer.Drivers.Validate

/-!
# What validation guarantees

For each validator, what an accepted step is known to satisfy.  Renderers and post-checks are
entitled to these facts; the proofs about them use the facts by name and never look into a
validator again.
-/

namespace Terraformer

open Text UnicodeDatabase

section

variable [UnicodeDatabase]

/-! ## Characters of the patterns -/

/-- A decimal digit is no white space. -/
lemma within_digit : digit.Within fun c => isSpace c = false := by
  refine Pattern.within_char fun c hc => decimal_not_space c ?_
  exact Option.isSome_iff_ne_none.mp hc

omit [UnicodeDatabase] in
/-- A digit from one to nine is no white space. -/
lemma within_nonzeroDigit : nonzeroDigit.Within fun c => isSpace c = false := by
  refine Pattern.within_char fun c hc => ?_
  simp only [Bool.and_eq_true, decide_eq_true_eq] at hc
  have h1 : '1'.toNat ≤ c.toNat := hc.1
  have h9 : c.toNat ≤ '9'.toNat := hc.2
  refine isSpace_eq_false_of_isDigit (isDigit_iff.mpr ?_)
  have : '1'.toNat = 49 := rfl
  have : '9'.toNat = 57 := rfl
  omega

/-- An address in dotted form holds no white space. -/
lemma within_ipv4Pattern : ipv4Pattern.Within fun c => isSpace c = false :=
  have hoctet := Pattern.within_between within_digit 1 3
  Pattern.within_seq hoctet
    (Pattern.within_times (Pattern.within_seq (Pattern.within_literal (by decide)) hoctet) 3)

/-- A list of VLAN ids holds no white space. -/
lemma within_vlanListPattern : vlanListPattern.Within fun c => isSpace c = false := by
  have hid := Pattern.within_between within_digit 1 4
  have hrange : vlanRangePattern.Within fun c => isSpace c = false :=
    Pattern.within_seq hid
      (Pattern.within_optional (Pattern.within_seq (Pattern.within_literal (by decide)) hid))
  exact Pattern.within_seq hrange
    (Pattern.within_star (Pattern.within_seq (Pattern.within_literal (by decide)) hrange))

/-- What `rip`, `ospf <id>` and `eigrp <id>` are made of is on one line. -/
lemma within_processSpec : processSpec.Within fun c => isLineBreak c = false := by
  have hdigits : (Pattern.seq nonzeroDigit (.upTo digit 4)).Within
      fun c => isLineBreak c = false := fun c hc =>
    isLineBreak_eq_false (Pattern.within_seq within_nonzeroDigit (Pattern.within_upTo within_digit 4)
      c hc)
  refine Pattern.within_seq (Pattern.within_alt (Pattern.within_literal (by decide)) ?_)
    Pattern.within_lineEnd
  exact Pattern.within_seq
    (Pattern.within_alt (Pattern.within_literal (by decide)) (Pattern.within_literal (by decide)))
    (Pattern.within_seq (Pattern.within_literal (by decide)) (Pattern.within_group hdigits))

/-- What `bgp <asn>` is made of is on one line. -/
lemma within_bgpProcess : bgpProcess.Within fun c => isLineBreak c = false := by
  have hdigits : (Pattern.seq nonzeroDigit (.upTo digit 9)).Within
      fun c => isLineBreak c = false := fun c hc =>
    isLineBreak_eq_false (Pattern.within_seq within_nonzeroDigit (Pattern.within_upTo within_digit 9)
      c hc)
  exact Pattern.within_seq
    (Pattern.within_seq (Pattern.within_literal (by decide)) (Pattern.within_group hdigits))
    Pattern.within_lineEnd

/-- A stripped text is not ended by the newline that `$` lets pass. -/
lemma not_newline_lower_strip (text : String) (w : List Char) :
    (lower (strip text)).toList ≠ w ++ ['\n'] := by
  intro h
  have hlast : ∀ c ∈ (strip text).toList.getLast?, isSpace c = false := by
    intro c hc
    rw [toList_strip] at hc
    exact getLast?_listStrip hc
  have hspace := getLast?_lowerFrom [] hlast
  rw [← toList_lower, h] at hspace
  exact absurd (hspace '\n' (by simp)) (by decide)

/-- A text that can name a process: on one line, and not blank. -/
structure IsProcessName (text : String) : Prop where
  oneLine : OneLine (strip text)
  split_ne_nil : split text ≠ []

/-- A text names a process when a `$` pattern of at least one character, none of them a line
boundary, matches its stripped and lower-cased form. -/
lemma isProcessName_of_match {r : Pattern} (hr : r.Within fun c => isLineBreak c = false)
    (hlen : 0 < r.minLength) {text : String} {g : Captures}
    (h : (Pattern.seq r .lineEnd).match (lower (strip text)) = some g) : IsProcessName text := by
  obtain ⟨w, hw, hwlen, hacc⟩ := Pattern.accepts_of_match_lineEnd h
  have hw := hw.resolve_right (not_newline_lower_strip text w)
  constructor
  · rw [← oneLine_lower_iff]
    intro c hc
    rw [hw] at hc
    exact hr c (hacc c hc)
  · intro hnil
    have hstrip : (strip text).toList = [] := by
      rw [toList_strip, listStrip_eq_nil_iff, ← listWords_eq_nil_iff, ← map_toList_split, hnil,
        List.map_nil]
    rw [toList_lower, hstrip] at hw
    rw [← hw] at hwlen
    exact absurd (Nat.lt_of_lt_of_le hlen hwlen) (by simp [lowerFrom])

omit [UnicodeDatabase] in
/-- A letter or digit of ASCII is no white space. -/
lemma isSpace_eq_false_of_isAlphanum {c : Char} (h : c.isAlphanum = true) : isSpace c = false := by
  rw [Char.isAlphanum, Bool.or_eq_true] at h
  rcases h with h | h
  · rw [isAlpha_iff] at h
    rw [Bool.eq_false_iff]
    simp only [isSpace, ne_eq, Bool.or_eq_true, Bool.and_eq_true, decide_eq_true_eq, beq_iff_eq]
    omega
  · exact isSpace_eq_false_of_isDigit h

omit [UnicodeDatabase] in
/-- The name of an exit interface holds no white space. -/
lemma within_interfaceName : interfaceName.Within fun c => isSpace c = false := by
  refine Pattern.within_seq (Pattern.within_char fun c hc => ?_)
    (Pattern.within_star (Pattern.within_char fun c hc => ?_))
  · exact isSpace_eq_false_of_isAlphanum (by simp [Char.isAlphanum, hc])
  · rw [Bool.or_eq_true, decide_eq_true_eq] at hc
    rcases hc with hc | hc
    · exact isSpace_eq_false_of_isAlphanum hc
    · simp only [List.mem_cons, List.not_mem_nil, or_false] at hc
      rcases hc with rfl | rfl | rfl | rfl | rfl <;> decide

omit [UnicodeDatabase] in
/-- A stripped text that a `$` pattern of at least one character matches is a word. -/
lemma isWord_strip_of_match {r : Pattern} (hr : r.Within fun c => isSpace c = false)
    (hlen : 0 < r.minLength) {text : String} {g : Captures}
    (h : (Pattern.seq r .lineEnd).match (strip text) = some g) : IsWord (strip text) := by
  obtain ⟨w, hw, hwlen, hacc⟩ := Pattern.accepts_of_match_lineEnd h
  rcases hw with hw | hw
  · refine ⟨?_, fun c hc => hr c (hacc c (hw ▸ hc))⟩
    rw [hw]
    rintro rfl
    exact absurd hlen (by simpa using hwlen)
  · -- a stripped text is not ended by the newline that the pattern would let pass
    have hlast : '\n' ∈ (strip text).toList.getLast? := by simp [hw]
    rw [toList_strip] at hlast
    exact absurd (getLast?_listStrip hlast) (by decide)

/-! ## Texts the renderers build -/

omit [UnicodeDatabase] in
/-- A collapsed value is on one line. -/
lemma oneLine_collapse (value : String) : OneLine (collapse value) :=
  oneLine_join fun _ hw => (isWord_of_mem_split hw).oneLine

/-- The address of a peer is on one line. -/
lemma oneLine_peerAddress (value : String) : OneLine (peerAddress value) :=
  oneLine_takeWhile ((oneLine_lower_iff _).mpr (oneLine_collapse value)) _

omit [UnicodeDatabase] in
/-- Destination and mask of a prefix are texts of addresses. -/
lemma exists_of_prefixParts {target destination mask : String}
    (h : prefixParts target = some (destination, mask)) :
    ∃ n k : Ipv4, destination = n.text ∧ mask = k.text := by
  unfold prefixParts at h
  simp only at h
  split at h
  · simp at h
  · obtain ⟨⟨n, k⟩, -, hparts⟩ := Option.map_eq_some_iff.mp h
    exact ⟨n, k, (congrArg Prod.fst hparts).symm, (congrArg Prod.snd hparts).symm⟩

omit [UnicodeDatabase] in
/-- Destination and mask of a prefix are each on one line. -/
lemma oneLine_of_prefixParts {target destination mask : String}
    (h : prefixParts target = some (destination, mask)) : OneLine destination ∧ OneLine mask := by
  obtain ⟨n, k, rfl, rfl⟩ := exists_of_prefixParts h
  exact ⟨(Ipv4.isWord_text n).oneLine, (Ipv4.isWord_text k).oneLine⟩

/-- The prefix of a RIP version line, as statements are compared with it. -/
lemma normalizeStatement_version : normalizeStatement "version " = "version" := by
  rw [normalizeStatement, show join (split "version ") = "version" from by decide]
  exact lower_eq_self (by decide)

omit [UnicodeDatabase] in
/-- The words of what is looked for to find the AS of a peer. -/
lemma split_remoteAs (peer : String) : split ("neighbor " ++ peer ++ " remote-as ") =
    "neighbor" :: (split peer ++ ["remote-as"]) := by
  rw [show " remote-as " = " " ++ "remote-as " from rfl, ← String.append_assoc,
    split_append_blank, split_append (by decide), show split "neighbor " = ["neighbor"] from by
    decide, show split "remote-as " = ["remote-as"] from by decide]
  rfl

/-- What is looked for to find the AS of a peer, as statements are compared with it. -/
lemma normalizeStatement_remoteAs {peer : String} (hpeer : IsWord peer)
    (hlower : lower peer = peer) :
    normalizeStatement ("neighbor " ++ peer ++ " remote-as ") =
      join ["neighbor", peer, "remote-as"] := by
  rw [normalizeStatement_eq, split_remoteAs, split_eq_singleton hpeer]
  simp [hlower, lower_eq_self (show ∀ c ∈ "neighbor".toList, _ by decide),
    lower_eq_self (show ∀ c ∈ "remote-as".toList, _ by decide)]

/-- What is looked for to find the AS of a peer starts with `neighbor`. -/
lemma startswith_normalizeStatement_neighbor (peer : String) :
    startswith (normalizeStatement ("neighbor " ++ peer ++ " remote-as ")) "neighbor " = true := by
  obtain ⟨w, ws, hws⟩ : ∃ w ws, split peer ++ ["remote-as"] = w :: ws :=
    List.exists_cons_of_ne_nil (by simp)
  have hlower : lower "neighbor" = "neighbor" := lower_eq_self (by decide)
  rw [normalizeStatement_eq, split_remoteAs, hws, List.map_cons, List.map_cons, join_cons_cons,
    hlower, show "neighbor" ++ " " = "neighbor " from rfl]
  exact startswith_append _ _

/-! ## Accepted steps -/

/-- An accepted VLAN id is a number in range. -/
lemma int_of_vlanIdIssues {raw field : String} (h : vlanIdIssues raw field = []) :
    ∃ n : ℕ, int raw = some (n : ℤ) ∧ 1 ≤ n ∧ n ≤ 4094 := by
  unfold vlanIdIssues at h
  cases hn : int raw with
  | none => simp [hn] at h
  | some z =>
    simp only [hn] at h
    split at h
    · simp at h
    · rename_i hrange
      simp only [vlanIdMin, vlanIdMax, not_not] at hrange
      exact ⟨z.toNat, by rw [Int.toNat_of_nonneg (by omega)], by omega, by omega⟩

/-- An accepted description is on one line and not blank. -/
lemma description_of_validateDescription {step : ChangeStepIntent}
    (h : validateDescription step = []) :
    OneLine step.desiredValue ∧ strip step.desiredValue ≠ "" := by
  rw [validateDescription, List.append_eq_nil_iff] at h
  obtain ⟨-, h⟩ := h
  split at h
  · simp at h
  · rename_i hp
    refine ⟨oneLine_of_isprintable (by simpa using hp), fun hs => ?_⟩
    simp [hs] at h

/-- An accepted VLAN name is a word, for a VLAN id in range. -/
lemma vlanName_of_validateVlanName {step : ChangeStepIntent} (h : validateVlanName step = []) :
    IsWord step.desiredValue ∧ ∃ n : ℕ, int step.target = some (n : ℤ) ∧ 1 ≤ n ∧ n ≤ 4094 := by
  rw [validateVlanName, List.append_eq_nil_iff, List.append_eq_nil_iff] at h
  obtain ⟨⟨hid, -⟩, h⟩ := h
  refine ⟨?_, int_of_vlanIdIssues hid⟩
  split at h
  · simp at h
  · rename_i hne
    cases hm : vlanNamePattern.fullmatch step.desiredValue with
    | none => simp [hm] at h
    | some g =>
      obtain ⟨hlen, hacc⟩ := Pattern.accepts_of_fullmatch hm
      refine ⟨?_, fun c hc => ?_⟩
      · intro hnil
        simp [hnil, vlanNamePattern, Pattern.plus, Pattern.minLength] at hlen
      · have hword : vlanNamePattern.Within fun c => isSpace c = false := by
          refine Pattern.within_plus (Pattern.within_char fun d hd => ?_)
          simp only [Bool.or_eq_true, beq_iff_eq] at hd
          rcases hd with (hd | rfl) | rfl
          · exact isSpace_eq_false_of_isAlphanum hd
          · decide
          · decide
        exact hword c (hacc c hc)

/-- An accepted access VLAN is a number in range, of a VLAN the device lists. -/
lemma accessVlan_of_validateAccessVlan {step : ChangeStepIntent} {context : ChangeContext}
    (h : validateAccessVlan step context = []) :
    ∃ n : ℕ, int step.desiredValue = some (n : ℤ) ∧ 1 ≤ n ∧ n ≤ 4094 ∧
      (context.vlans ≠ [] → context.vlan n ≠ none) := by
  unfold validateAccessVlan at h
  cases hid : vlanIdIssues step.desiredValue "access VLAN" with
  | cons issue issues => simp [hid] at h
  | nil =>
    obtain ⟨n, hn, hlow, hhigh⟩ := int_of_vlanIdIssues hid
    refine ⟨n, hn, hlow, hhigh, fun hne hnone => ?_⟩
    simp [hid, hn, hne, hnone] at h

/-- An accepted trunk change has a list without white space, and a port in a known mode. -/
lemma trunkVlans_of_validateTrunkVlans {step : ChangeStepIntent} {context : ChangeContext}
    (h : validateTrunkVlans step context = []) :
    IsWord (strip step.desiredValue) ∧
      ∃ port, context.switchportOf step.target = some port ∧
        ∃ command, modeCommands.lookup port.mode = some command := by
  unfold validateTrunkVlans at h
  cases hl : vlanListIssues step.desiredValue "allowed VLAN list" with
  | cons issue issues => simp [hl] at h
  | nil =>
    constructor
    · unfold vlanListIssues at hl
      simp only at hl
      cases hm : vlanListPattern.fullmatch (strip step.desiredValue) with
      | none => simp [hm] at hl
      | some g =>
        obtain ⟨hlen, hacc⟩ := Pattern.accepts_of_fullmatch hm
        refine ⟨?_, fun c hc => within_vlanListPattern c (hacc c hc)⟩
        intro hnil
        simp [hnil, vlanListPattern, vlanRangePattern, Pattern.between, Pattern.times,
          digit, Pattern.minLength] at hlen
    · cases hp : context.switchportOf step.target with
      | none => simp [hl, hp] at h
      | some port =>
        refine ⟨port, rfl, Option.isSome_iff_exists.mp ?_⟩
        by_contra hmode
        simp [hl, hp, hmode] at h

/-- An accepted next hop is a word, for a prefix. -/
lemma staticRoute_of_validateStaticRoute {step : ChangeStepIntent}
    (h : validateStaticRoute step = []) : IsWord (strip step.desiredValue) ∧
      ∃ destination mask : Ipv4, prefixParts step.target = some (destination.text, mask.text) := by
  rw [validateStaticRoute, List.append_eq_nil_iff] at h
  obtain ⟨hpart, h⟩ := h
  constructor
  · split at h
    · simp at h
    · split at h
      · simp at h
      · rename_i hhop
        cases haddress : Ipv4.ofText (strip step.desiredValue) with
        | some n => exact Ipv4.isWord_of_ofText haddress
        | none =>
          have hmatch : nextHopInterface.match (strip step.desiredValue) ≠ none :=
            fun hnone => hhop ⟨by simp [isIpv4, haddress], hnone⟩
          obtain ⟨g, hg⟩ := Option.ne_none_iff_exists'.mp hmatch
          exact isWord_strip_of_match within_interfaceName (by decide) hg
  · cases hparts : prefixParts step.target with
    | none => simp [prefixIssues, hparts] at hpart
    | some parts =>
      obtain ⟨destination, mask⟩ := parts
      obtain ⟨n, k, rfl, rfl⟩ := exists_of_prefixParts hparts
      exact ⟨n, k, rfl⟩

omit [UnicodeDatabase] in
/-- An accepted host name is one word, with at most a newline behind it. -/
lemma hostname_of_validateHostname {step : ChangeStepIntent} (h : validateHostname step = []) :
    split step.desiredValue = [strip step.desiredValue] := by
  rw [validateHostname, List.append_eq_nil_iff] at h
  obtain ⟨-, h⟩ := h
  cases hm : hostnamePattern.match step.desiredValue with
  | none => simp [hm] at h
  | some g =>
    obtain ⟨w, hw, hlen, hacc⟩ := Pattern.accepts_of_match_lineEnd hm
    have hspace : ∀ c ∈ w, isSpace c = false := by
      have hwithin : (Pattern.seq letter (.star (.char fun c => c.isAlphanum || c == '-'))).Within
          fun c => isSpace c = false := by
        refine Pattern.within_seq (Pattern.within_char fun c hc => ?_)
          (Pattern.within_star (Pattern.within_char fun c hc => ?_))
        · exact isSpace_eq_false_of_isAlphanum (by simp [Char.isAlphanum, hc])
        · rw [Bool.or_eq_true, beq_iff_eq] at hc
          rcases hc with hc | rfl
          · exact isSpace_eq_false_of_isAlphanum hc
          · decide
      exact fun c hc => hwithin c (hacc c hc)
    have hword : IsWord (String.ofList w) := by
      refine ⟨?_, by simpa using hspace⟩
      rw [String.toList_ofList]
      exact List.ne_nil_of_length_pos (Nat.lt_of_lt_of_le (by decide) hlen)
    have hsplit : split step.desiredValue = [String.ofList w] := by
      rcases hw with hw | hw
      · rw [show step.desiredValue = String.ofList w by rw [← hw, String.ofList_toList],
          split_eq_singleton hword]
      · -- the newline is white space behind the word
        have htext : step.desiredValue = String.ofList w ++ "\n" := by
          apply String.toList_inj.mp
          rw [hw]
          simp
        rw [htext, split_append_newline, split_eq_singleton hword]
    rw [strip_of_split_eq_singleton hsplit, hsplit]

/-- An accepted routing process has a name. -/
lemma isProcessName_of_routingProcessIssues {spec : String} (h : routingProcessIssues spec = []) :
    IsProcessName spec := by
  unfold routingProcessIssues at h
  cases hm : processSpec.match (lower (strip spec)) with
  | none => simp [hm] at h
  | some g =>
    exact isProcessName_of_match (fun c hc => within_processSpec c (Or.inl hc))
      (show 0 < 3 by decide) hm

/-- An accepted change of a network statement names its process. -/
lemma isProcessName_of_routerNetworkIssues {step : ChangeStepIntent}
    (h : routerNetworkIssues step = []) : IsProcessName step.target := by
  unfold routerNetworkIssues at h
  cases hp : routingProcessIssues step.target with
  | cons issue issues => simp [hp] at h
  | nil => exact isProcessName_of_routingProcessIssues hp

/-- A dotted address as a network statement writes one: four groups of up to three digits. -/
structure IsDotted (w : String) : Prop where
  word : IsWord w
  groups : ∃ a b c d, w.toList.splitOn '.' = [a, b, c, d] ∧ ∀ g ∈ [a, b, c, d], g.length ≤ 3

/-- A dot is no digit. -/
lemma decimal_dot : (decimal '.').isSome = false := by
  rw [decimal_ascii '.' (by decide)]
  rfl

/-- What the address pattern finds is a dotted quad in front of the rest. -/
lemma isDotted_of_mem_results {text : List Char} {m : Captures × List Char}
    (hm : m ∈ Pattern.results ipv4Pattern text) :
    ∃ w : String, IsDotted w ∧ text = w.toList ++ m.2 := by
  obtain ⟨m₀, hm₀, m₁, hm₁, rfl⟩ := Pattern.mem_results_seq.mp hm
  obtain ⟨a, ha, ha1, ha3, had⟩ := Pattern.mem_results_between_char (by decide) hm₀
  have hgroup : ∀ {text : List Char} {m : Captures × List Char},
      m ∈ Pattern.results (.seq (.literal ".") (.between digit 1 3)) text →
        ∃ w, text = '.' :: (w ++ m.2) ∧ w.length ≤ 3 ∧ ∀ c ∈ w, (decimal c).isSome = true := by
    intro text m hm
    obtain ⟨k, hk, k', hk', rfl⟩ := Pattern.mem_results_seq.mp hm
    obtain ⟨w, hw, -, hw3, hwd⟩ := Pattern.mem_results_between_char (by decide) hk'
    have hdot := Pattern.mem_results_literal hk
    exact ⟨w, by rw [hdot, hw]; rfl, hw3, hwd⟩
  obtain ⟨m₂, hm₂, m₃, hm₃, rfl⟩ := Pattern.mem_results_seq.mp hm₁
  obtain ⟨m₄, hm₄, m₅, hm₅, rfl⟩ := Pattern.mem_results_seq.mp hm₃
  obtain ⟨m₆, hm₆, m₇, hm₇, rfl⟩ := Pattern.mem_results_seq.mp hm₅
  obtain rfl : m₇ = ([], m₆.2) := List.mem_singleton.mp hm₇
  obtain ⟨b, hb, hb3, hbd⟩ := hgroup hm₂
  obtain ⟨c, hc, hc3, hcd⟩ := hgroup hm₄
  obtain ⟨d, hd, hd3, hdd⟩ := hgroup hm₆
  have htext : text = a ++ '.' :: (b ++ '.' :: (c ++ '.' :: d)) ++ m₆.2 := by
    rw [ha, hb, hc, hd]
    simp
  have hdot : ∀ g ∈ [a, b, c, d], '.' ∉ g := by
    have hno : ∀ g : List Char, (∀ e ∈ g, (decimal e).isSome = true) → '.' ∉ g := by
      intro g hg hmem
      have hsome := hg _ hmem
      rw [decimal_dot] at hsome
      cases hsome
    simp only [List.mem_cons, List.not_mem_nil, or_false]
    rintro g (rfl | rfl | rfl | rfl)
    · exact hno _ had
    · exact hno _ hbd
    · exact hno _ hcd
    · exact hno _ hdd
  refine ⟨String.ofList (a ++ '.' :: (b ++ '.' :: (c ++ '.' :: d))), ⟨⟨?_, ?_⟩, a, b, c, d, ?_, ?_⟩,
    by rw [htext, String.toList_ofList]⟩
  · rw [String.toList_ofList]
    exact List.append_ne_nil_of_left_ne_nil (List.ne_nil_of_length_pos ha1) _
  · have hspace : ∀ e, (decimal e).isSome = true → isSpace e = false := fun e he =>
      decimal_not_space e (Option.isSome_iff_ne_none.mp he)
    intro e he
    simp only [String.toList_ofList, List.mem_append, List.mem_cons] at he
    rcases he with he | rfl | he | rfl | he | rfl | he
    · exact hspace e (had e he)
    · decide
    · exact hspace e (hbd e he)
    · decide
    · exact hspace e (hcd e he)
    · decide
    · exact hspace e (hdd e he)
  · have hjoin : a ++ '.' :: (b ++ '.' :: (c ++ '.' :: d)) = ['.'].intercalate [a, b, c, d] := by
      simp [List.intercalate_cons_cons]
    rw [String.toList_ofList, hjoin, List.splitOn_intercalate]
    · exact hdot
    · simp
  · simp only [List.mem_cons, List.not_mem_nil, or_false]
    rintro g (rfl | rfl | rfl | rfl) <;> assumption

/-- The words of a statement that one of the protocols accepts: an address, and then perhaps a
wildcard and more. -/
lemma words_of_networkStatement {protocol value : String} {pattern : Pattern} {g : Captures}
    (hpattern : networkStatements.lookup protocol = some pattern)
    (hmatch : pattern.match (collapse value) = some g) :
    ∃ base, IsDotted base ∧ (split value = [base] ∨
      ∃ wildcard rest, IsDotted wildcard ∧ split value = base :: wildcard :: rest) := by
  obtain ⟨m, hm, -⟩ := Option.map_eq_some_iff.mp hmatch
  have hm := List.mem_of_mem_head? hm
  have hone := oneLine_collapse value
  have hend : ∀ {rest : List Char} {m : Captures × List Char},
      (∀ c ∈ rest, c ∈ (collapse value).toList) →
      m ∈ Pattern.results .lineEnd rest → rest = [] := by
    intro rest m hrest hm
    refine (Pattern.mem_results_lineEnd hm).resolve_right fun hnewline => ?_
    exact absurd (hone '\n' (hrest '\n' (by rw [hnewline]; simp))) (by decide)
  -- One address and nothing behind it.
  have hsingle : ∀ {base : String}, IsDotted base →
      (collapse value).toList = base.toList ++ [] → split value = [base] := by
    intro base hbase htext
    rw [List.append_nil] at htext
    rw [← split_join_split value, ← collapse, String.toList_inj.mp htext,
      split_eq_singleton hbase.word]
  have hpair : ∀ {base wildcard : String} {rest : List Char}, IsDotted base → IsDotted wildcard →
      (rest = [] ∨ ∃ r, rest = ' ' :: r) →
      (collapse value).toList = base.toList ++ ' ' :: (wildcard.toList ++ rest) →
      ∃ rest, split value = base :: wildcard :: rest := by
    intro base wildcard rest hbase hwildcard hrest htext
    have hcollapse : collapse value = base ++ " " ++ (wildcard ++ String.ofList rest) := by
      apply String.toList_inj.mp
      rw [htext]
      simp
    rw [← split_join_split value, ← collapse, hcollapse, split_append_blank,
      split_eq_singleton hbase.word]
    rcases hrest with rfl | ⟨r, rfl⟩
    · exact ⟨[], by simp [split_eq_singleton hwildcard.word]⟩
    · have hr : wildcard ++ String.ofList (' ' :: r) = wildcard ++ " " ++ String.ofList r := by
        apply String.toList_inj.mp
        simp
      exact ⟨split (String.ofList r), by
        rw [hr, split_append_blank, split_eq_singleton hwildcard.word]
        rfl⟩
  simp only [networkStatements, List.lookup] at hpattern
  split at hpattern
  · cases hpattern
    obtain ⟨m₁, hbase, m₂, hrest, -⟩ := Pattern.mem_results_seq.mp hm
    obtain ⟨base, hdotted, htext⟩ := isDotted_of_mem_results hbase
    have hnil := hend (fun c hc => by rw [htext]; exact List.mem_append_right _ hc) hrest
    rw [hnil] at htext
    exact ⟨base, hdotted, .inl (hsingle hdotted htext)⟩
  split at hpattern
  · cases hpattern
    obtain ⟨m₁, hbase, m₂, hrest, -⟩ := Pattern.mem_results_seq.mp hm
    obtain ⟨base, hdotted, htext⟩ := isDotted_of_mem_results hbase
    obtain ⟨m₃, hoptional, m₄, hrest, -⟩ := Pattern.mem_results_seq.mp hrest
    rw [Pattern.optional, Pattern.results, List.mem_append] at hoptional
    rcases hoptional with hpart | hnone
    · obtain ⟨k, hk, k', hk', rfl⟩ := Pattern.mem_results_seq.mp hpart
      obtain ⟨wildcard, hwildcard, hk'⟩ := isDotted_of_mem_results hk'
      have hblank := Pattern.mem_results_literal hk
      have htext : (collapse value).toList =
          base.toList ++ ' ' :: (wildcard.toList ++ k'.2) := by
        rw [htext, hblank, hk']
        rfl
      have hnil := hend (fun c hc => by rw [htext]; simp [hc]) hrest
      obtain ⟨rest, hwords⟩ := hpair hdotted hwildcard (.inl hnil) htext
      exact ⟨base, hdotted, .inr ⟨wildcard, rest, hwildcard, hwords⟩⟩
    · obtain rfl : m₃ = ([], m₁.2) := List.mem_singleton.mp hnone
      have hnil := hend (fun c hc => by rw [htext]; exact List.mem_append_right _ hc) hrest
      simp only at hnil
      rw [hnil] at htext
      exact ⟨base, hdotted, .inl (hsingle hdotted htext)⟩
  split at hpattern
  · cases hpattern
    obtain ⟨m₁, hbase, m₂, hrest, -⟩ := Pattern.mem_results_seq.mp hm
    obtain ⟨base, hdotted, htext⟩ := isDotted_of_mem_results hbase
    obtain ⟨m₃, hblank, m₄, hrest, -⟩ := Pattern.mem_results_seq.mp hrest
    obtain ⟨m₅, hwild, m₆, hrest, -⟩ := Pattern.mem_results_seq.mp hrest
    obtain ⟨m₇, harea, m₈, -, -⟩ := Pattern.mem_results_seq.mp hrest
    obtain ⟨wildcard, hwildcard, hwild⟩ := isDotted_of_mem_results hwild
    have hblank := Pattern.mem_results_literal hblank
    have harea := Pattern.mem_results_literal harea
    have htext : (collapse value).toList =
        base.toList ++ ' ' :: (wildcard.toList ++ ' ' :: ("area ".toList ++ m₇.2)) := by
      rw [htext, hblank, hwild, harea]
      rfl
    obtain ⟨rest, hwords⟩ := hpair hdotted hwildcard (.inr ⟨_, rfl⟩) htext
    exact ⟨base, hdotted, .inr ⟨wildcard, rest, hwildcard, hwords⟩⟩
  · cases hpattern

/-- An accepted network statement is new to its process. -/
lemma routerNetwork_of_validateRouterNetwork {step : ChangeStepIntent} {context : ChangeContext}
    (h : validateRouterNetwork step context = []) :
    IsProcessName step.target ∧ ∀ existing, context.routingProcess (strip step.target) =
      some existing → existing.hasStatement (networkStatement step.desiredValue) = false := by
  unfold validateRouterNetwork at h
  cases hi : routerNetworkIssues step with
  | cons issue issues => simp [hi] at h
  | nil =>
    refine ⟨isProcessName_of_routerNetworkIssues hi, fun existing he => ?_⟩
    simpa [hi, he] using h

/-- An accepted removal of a network statement finds the statement in its process. -/
lemma routerNetworkRemove_of_validateRouterNetworkRemove {step : ChangeStepIntent}
    {context : ChangeContext} (h : validateRouterNetworkRemove step context = []) :
    IsProcessName step.target ∧ ∃ existing, context.routingProcess (strip step.target) =
      some existing ∧ existing.hasStatement (networkStatement step.desiredValue) = true := by
  unfold validateRouterNetworkRemove at h
  cases hi : routerNetworkIssues step with
  | cons issue issues => simp [hi] at h
  | nil =>
    refine ⟨isProcessName_of_routerNetworkIssues hi, ?_⟩
    cases he : context.routingProcess (strip step.target) with
    | none => simp [hi, he] at h
    | some existing =>
      refine ⟨existing, rfl, ?_⟩
      by_contra hs
      simp [hi, he, hs] at h

/-- An accepted RIP version is 1 or 2, and not the one RIP is at. -/
lemma ripVersion_of_validateRipVersion {step : ChangeStepIntent} {context : ChangeContext}
    (h : validateRipVersion step context = []) :
    (strip step.desiredValue = "1" ∨ strip step.desiredValue = "2") ∧
      ∀ existing, context.routingProcess "rip" = some existing →
        existing.findStatement "version " ≠ some ("version " ++ strip step.desiredValue) := by
  unfold validateRipVersion at h
  split at h
  · simp at h
  · cases hv : ripVersionIssues step.desiredValue with
    | cons issue issues => simp [hv] at h
    | nil =>
      refine ⟨?_, fun existing he hf => ?_⟩
      · unfold ripVersionIssues at hv
        by_contra hne
        simp [hne] at hv
      · simp [hv, he, hf] at h

/-- An accepted BGP process has a name. -/
lemma isProcessName_of_bgpProcessIssues {spec : String} (h : bgpProcessIssues spec = []) :
    IsProcessName spec := by
  unfold bgpProcessIssues at h
  cases hm : bgpProcess.match (lower (strip spec)) with
  | none => simp [hm] at h
  | some g =>
    exact isProcessName_of_match (fun c hc => within_bgpProcess c (Or.inl hc))
      (Nat.add_pos_left (show 0 < 4 by decide) _) hm

/-- An accepted BGP peer is for a process with a name, which is the one the device runs if it
runs one, and new to it. -/
lemma bgpNeighbor_of_validateBgpNeighbor {step : ChangeStepIntent} {context : ChangeContext}
    (h : validateBgpNeighbor step context = []) :
    IsProcessName step.target ∧ bgpNeighborIssues step.desiredValue = [] ∧
      ∀ running, runningBgp context = some running →
        lower running.name = lower (strip step.target) ∧
          running.hasStatement ("neighbor " ++ collapse step.desiredValue) = false := by
  unfold validateBgpNeighbor at h
  cases hp : bgpProcessIssues step.target with
  | cons issue issues => simp [hp] at h
  | nil =>
    cases hn : bgpNeighborIssues step.desiredValue with
    | cons issue issues => simp [hp, hn] at h
    | nil =>
      refine ⟨isProcessName_of_bgpProcessIssues hp, rfl, fun running hrun => ?_⟩
      simp only [hp, hn, hrun] at h
      split at h
      · simp at h
      · rename_i hname
        refine ⟨not_not.mp hname, ?_⟩
        by_contra hs
        simp [hs] at h

/-- The words of an accepted BGP peer: its address, the keyword and the AS. -/
lemma words_of_bgpNeighborIssues {value : String} (h : bgpNeighborIssues value = []) :
    ∃ asn, (split value).map lower = [peerAddress value, "remote-as", asn] := by
  unfold bgpNeighborIssues at h
  cases hm : bgpNeighborPattern.match (lower (join (split value))) with
  | none => simp [hm] at h
  | some g =>
    clear h
    have hone := oneLine_normalizeStatement value
    rw [← split_normalizeStatement]
    rw [← normalizeStatement] at hm
    unfold peerAddress collapse
    rw [← normalizeStatement]
    generalize normalizeStatement value = text at hm hone ⊢
    obtain ⟨m, hm, -⟩ := Option.map_eq_some_iff.mp hm
    obtain ⟨m₁, hpeer, m₂, hrest, -⟩ := Pattern.mem_results_seq.mp (List.mem_of_mem_head? hm)
    obtain ⟨m₃, hkeyword, m₄, hrest, -⟩ := Pattern.mem_results_seq.mp hrest
    obtain ⟨m₅, hasn, m₆, hend, -⟩ := Pattern.mem_results_seq.mp hrest
    obtain ⟨w, hw, hwlen, hwacc⟩ := Pattern.results_spec hpeer
    obtain ⟨v, hv, hvlen, hvacc⟩ := Pattern.results_spec hasn
    have hkeyword := Pattern.mem_results_literal hkeyword
    have htext : text.toList = w ++ (" remote-as ".toList ++ (v ++ m₅.2)) := by
      rw [hw, hkeyword, hv]
    have hrest : m₅.2 = [] := by
      refine (Pattern.mem_results_lineEnd hend).resolve_right fun hnewline => ?_
      exact absurd (hone '\n' (by simp [htext, hnewline])) (by decide)
    rw [hrest, List.append_nil] at htext
    have hwspace : ∀ c ∈ w, isSpace c = false := fun c hc =>
      Pattern.within_group within_ipv4Pattern c (hwacc c hc)
    have hvspace : ∀ c ∈ v, isSpace c = false := fun c hc =>
      Pattern.within_group (Pattern.within_seq within_nonzeroDigit
        (Pattern.within_upTo within_digit 9)) c (hvacc c hc)
    have hwword : IsWord (String.ofList w) := by
      refine ⟨?_, by simpa using hwspace⟩
      have h1 : 1 ≤ w.length := Nat.le_trans (Nat.le_add_right 1 _) hwlen
      rw [String.toList_ofList]
      exact List.ne_nil_of_length_pos h1
    have hvword : IsWord (String.ofList v) := by
      refine ⟨?_, by simpa using hvspace⟩
      have h1 : 1 ≤ v.length := Nat.le_trans (Nat.le_add_right 1 _) hvlen
      rw [String.toList_ofList]
      exact List.ne_nil_of_length_pos h1
    refine ⟨String.ofList v, ?_⟩
    have hhead : headBefore ' ' text = String.ofList w := by
      rw [headBefore, htext, List.takeWhile_append_of_pos]
      · simp
      · intro c hc
        rw [bne_iff_ne]
        rintro rfl
        exact absurd (hwspace _ hc) (by decide)
    have hpieces : text =
        String.ofList w ++ " " ++ ("remote-as" ++ " " ++ String.ofList v) := by
      apply String.toList_inj.mp
      rw [htext]
      simp
    rw [hhead, hpieces, split_append_blank, split_append_blank, split_eq_singleton hwword,
      split_eq_singleton hvword, show split "remote-as" = ["remote-as"] by decide]
    rfl

/-- The address of an accepted BGP peer is a word in lower case. -/
lemma peerAddress_of_bgpNeighborIssues {value : String} (h : bgpNeighborIssues value = []) :
    IsWord (peerAddress value) ∧ lower (peerAddress value) = peerAddress value := by
  obtain ⟨asn, hwords⟩ := words_of_bgpNeighborIssues h
  have hmem : peerAddress value ∈ (split value).map lower := by simp [hwords]
  obtain ⟨w, hw, hlower⟩ := List.mem_map.mp hmem
  rw [← hlower]
  exact ⟨isWord_lower (isWord_of_mem_split hw), lower_lower w⟩

end

end Terraformer
