import Terraformer.Changes.LayerTwo
import Terraformer.Changes.PostCheck
import Terraformer.Drivers.Interfaces

/-!
# The admin state of a port

The interface facts that the parser reads from `show interfaces` feed the post-check and the
inverse of an admin state change.  The header tells a port that is shut down from one that is
enabled without a link, but the parser takes both to be administratively down.

`readAsConfigured_iff` says that this is where the reading goes wrong: every interface is read as
it is configured exactly when no header says `down`.  A bandwidth whose number `int` does not
convert is the one other obstacle.
-/

namespace Terraformer

open Text Pattern Device

section

variable [UnicodeDatabase] (isalnum : Char → Bool)

/-- The record is that of the block, whose part of the output is `piece`: its fields come from
there, the port is up unless it is shut down, and what follows for a change of its admin state. -/
structure ReadRight (b : InterfaceBlock) (piece : String) (record : InterfaceRecord) : Prop where
  own : readInterface isalnum b.captures piece = some record
  name : record.name = b.name
  adminUp : record.adminUp = some (decide (b.state ≠ .administrativelyDown))
  operUp : record.operUp = some b.protocolUp
  postCheck : b.state ≠ .administrativelyDown → ∀ step : ChangeStepIntent,
    step.changeType = .interfaceAdminState → step.desiredValue = "up" →
      postCheckOk step { interface := some record.toInterfaceFacts } = .ok true
  inverse : ∀ {Port : Type} [DecidableEq Port] (naming : Naming Port) (c : Config Port) (p : Port)
    (step : ChangeStepIntent), naming.denotes step.target = some p →
      (c.ports p).shutdown = decide (b.state = .administrativelyDown) →
        Reverts naming c (renderAdminState step record.toInterfaceFacts)

/-- Every interface of the output is read as it is configured, in order. -/
def ReadAsConfigured (bs : List InterfaceBlock) : Prop :=
  ∃ records, parseShowInterfaces isalnum (showInterfaces bs) = some records ∧
    records.length = bs.length ∧
      List.Forall₂ (fun block record => ReadRight isalnum block.1 block.2 record)
        (bs.zip (pieces bs)) records

/-- The number of the first `BW` of a block is one that `int` converts. -/
def SpeedConverts (piece : String) : Prop :=
  ∀ found ∈ search speed (wordStart isalnum) piece,
    int ((captured found "1").getD "") ≠ none

variable {isalnum}

/-- A block whose header says `down` is not read right. -/
lemma ReadRight.state_ne_down {b : InterfaceBlock} {piece : String} {record : InterfaceRecord}
    (h : ReadRight isalnum b piece record) : b.state ≠ .down := by
  intro hdown
  obtain ⟨speedMbps, -, rfl⟩ := Option.map_eq_some_iff.mp h.own
  have hadmin : some (some b.state.text == some "up") =
      some (decide (b.state ≠ .administrativelyDown)) := h.adminUp
  rw [hdown] at hadmin
  exact absurd hadmin (by decide)

/-- A piece is converted when it can be read. -/
lemma speedConverts_iff (piece : String) :
    SpeedConverts isalnum piece ↔ readSpeed isalnum piece ≠ none := by
  unfold SpeedConverts readSpeed
  cases search speed (wordStart isalnum) piece with
  | none => simp
  | some found => simp

/-- Without a header that says `down`, the record of a block is right. -/
lemma readRight_of_state_ne_down {b : InterfaceBlock} (hdown : b.state ≠ .down) {piece : String}
    {record : InterfaceRecord} (hrecord : readInterface isalnum b.captures piece = some record) :
    ReadRight isalnum b piece record := by
  obtain ⟨speedMbps, -, rfl⟩ := Option.map_eq_some_iff.mp hrecord
  have hadmin : (some b.state.text == some "up") = decide (b.state ≠ .administrativelyDown) := by
    cases hstate : b.state with
    | administrativelyDown => decide
    | up => decide
    | down => exact absurd hstate hdown
  have hoper : (some b.protocol == some "up") = b.protocolUp := by
    unfold InterfaceBlock.protocol
    cases b.protocolUp <;> decide
  refine ⟨hrecord, rfl, congrArg some hadmin, congrArg some hoper, ?_, ?_⟩
  · intro hstate step htype hvalue
    have htrue : (some b.state.text == some "up") = true := hadmin.trans (decide_eq_true hstate)
    simp only [postCheckOk, htype, hvalue]
    exact congrArg (fun up => Except.ok (some up == some true)) htrue
  · intro Port _ naming c p step hp hshutdown
    have hread : some (some b.state.text == some "up") =
        some (!(c.ports p).shutdown && (fun _ : Port => true) p) := by
      rw [Bool.and_true, hshutdown]
      refine congrArg some (hadmin.trans ?_)
      simp
    exact (reverts_adminState_iff hp hread).mpr fun _ _ => .inr rfl

omit [UnicodeDatabase] in
/-- A list is mapped whole when each of its members is. -/
lemma mapM_eq_some_iff {α β : Type*} {f : α → Option β} {l : List α} {bs : List β} :
    l.mapM f = some bs ↔ List.Forall₂ (fun a b => f a = some b) l bs := by
  induction l generalizing bs with
  | nil => cases bs <;> simp
  | cons a l ih =>
    rw [List.mapM_cons]
    cases ha : f a with
    | none => cases bs <;> simp [ha]
    | some b =>
      cases hl : l.mapM f with
      | none =>
        cases bs with
        | nil => simp
        | cons b' bs =>
          have hno := (@ih bs).not.mp (by rw [hl]; exact Option.some_ne_none _ |>.symm)
          simp [hno]
      | some bs' =>
        cases bs with
        | nil => simp
        | cons b' bs => simp [ha, ← ih, hl]

omit [UnicodeDatabase] in
/-- A list is mapped whole when none of its elements fails. -/
lemma exists_forall₂_of_ne_none {α β : Type*} {f : α → Option β} {l : List α}
    (h : ∀ a ∈ l, f a ≠ none) : ∃ bs, List.Forall₂ (fun a b => f a = some b) l bs := by
  induction l with
  | nil => exact ⟨[], .nil⟩
  | cons a l ih =>
    obtain ⟨b, hb⟩ := Option.ne_none_iff_exists'.mp (h a List.mem_cons_self)
    obtain ⟨bs, hbs⟩ := ih fun a' ha' => h a' (List.mem_cons_of_mem a ha')
    exact ⟨b :: bs, .cons hb hbs⟩

/-- What the parser makes of the blocks, one by one. -/
lemma parseShowInterfaces_eq_some_iff (bs : List InterfaceBlock) (records : List InterfaceRecord) :
    parseShowInterfaces isalnum (showInterfaces bs) = some records ↔
      List.Forall₂ (fun block record =>
        readInterface isalnum block.1.captures block.2 = some record)
        (bs.zip (pieces bs)) records := by
  have hzip : (bs.map InterfaceBlock.captures).zip (pieces bs) =
      (bs.zip (pieces bs)).map fun block => (block.1.captures, block.2) := by
    rw [List.zip_map_left]
    rfl
  rw [parseShowInterfaces_showInterfaces, hzip, mapM_eq_some_iff, List.forall₂_map_left_iff]

/-- The header of a single block. -/
lemma ReadAsConfigured.state_ne_down {b : InterfaceBlock} (h : ReadAsConfigured isalnum [b]) :
    b.state ≠ .down := by
  obtain ⟨records, -, -, hright⟩ := h
  obtain ⟨record, _, hrecord, -, -⟩ := List.forall₂_cons_left_iff.mp hright
  exact hrecord.state_ne_down

/-- Every interface is read as it is configured exactly when no header says `down`, and every
bandwidth is one that `int` converts. -/
theorem readAsConfigured_iff (isalnum : Char → Bool) (bs : List InterfaceBlock) :
    ReadAsConfigured isalnum bs ↔
      ∀ block ∈ bs.zip (pieces bs), block.1.state ≠ .down ∧ SpeedConverts isalnum block.2 := by
  constructor
  · rintro ⟨records, -, -, hright⟩
    have hboth : List.Forall₂ (fun block record =>
        (block.1.state ≠ .down ∧ SpeedConverts isalnum block.2) ∧
          ReadRight isalnum block.1 block.2 record) (bs.zip (pieces bs)) records := by
      refine hright.imp fun block record h => ?_
      refine ⟨⟨h.state_ne_down, (speedConverts_iff _).mpr fun hnone => ?_⟩, h⟩
      have hrecord := h.own
      rw [readInterface, hnone] at hrecord
      cases hrecord
    exact ((List.forall₂_and_left _ _).mp hboth).1
  · intro h
    obtain ⟨records, hrecords⟩ := exists_forall₂_of_ne_none
      (f := fun block : InterfaceBlock × String =>
        readInterface isalnum block.1.captures block.2) fun block hblock => by
      rw [readInterface, ne_eq, Option.map_eq_none_iff]
      exact (speedConverts_iff _).mp (h block hblock).2
    refine ⟨records, (parseShowInterfaces_eq_some_iff bs records).mpr hrecords, ?_, ?_⟩
    · rw [← hrecords.length_eq, List.length_zip, length_pieces, Nat.min_self]
    · exact ((List.forall₂_and_left _ _).mpr ⟨h, hrecords⟩).imp fun block record hblock =>
        readRight_of_state_ne_down hblock.1.1 hblock.2

end

/-- The block of an enabled port without a link. -/
def uncabledPort : InterfaceBlock where
  name := "GigabitEthernet1/0/1"
  state := .down
  protocolUp := false
  trailing := " (notconnect)"
  body := ["  MTU 1500 bytes, BW 10000 Kbit/sec"]
  name_word := by decide
  trailing_line := by decide
  body_indented := List.forall_mem_singleton.mpr ⟨by decide, fun c hc => by
    obtain rfl : ' ' = c := by simpa using hc
    decide⟩

/-- An enabled port without a link is read as administratively down. -/
theorem not_readAsConfigured_uncabledPort :
    letI := asciiDatabase
    ¬ ReadAsConfigured Char.isAlphanum [uncabledPort] := by
  let _ := asciiDatabase
  exact fun h => h.state_ne_down rfl

end Terraformer
