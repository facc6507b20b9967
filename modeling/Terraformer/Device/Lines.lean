import Mathlib
import Terraformer.Device.Commands
import Terraformer.Drivers.Accepted

/-!
# The lines the driver renders

What each kind of rendered line does in a session.  These are the only facts about the reading
of a line that the proofs about changes use.
-/

namespace Terraformer

open Text Compensation

namespace Device

/-! ## Reading -/

/-- A word on its own, after a keyword that ends in a blank. -/
lemma split_append_word {head word : String} (hhead : head.toList.getLast? = some ' ')
    (hword : IsWord word) : split (head ++ word) = split head ++ [word] := by
  rw [split_append hhead, split_eq_singleton hword]

/-- The line that enters a port is read. -/
lemma readCommand_interface (target : String) :
    readCommand ("interface " ++ target) = some (.interface (split target)) := by
  rw [readCommand, split_append (by decide), show split "interface " = ["interface"] by decide]
  rfl

/-- The text behind the keyword of a description line. -/
lemma afterWord_description (text : String) : afterWord ("description " ++ text) = strip text := by
  have hlist : (("description " ++ text).toList.dropWhile isSpace).dropWhile
      (fun c => !isSpace c) = ' ' :: text.toList := by
    rw [String.toList_append]
    rfl
  have hsep : isSpace ' ' = true := by decide
  rw [afterWord, hlist, strip, strip, String.toList_ofList, listStrip,
    List.dropWhile_cons_of_pos hsep, ← listStrip]

/-- The line of a description is read. -/
lemma readCommand_description {text : String} (h : strip text ≠ "") :
    readCommand ("description " ++ text) = some (.description (strip text)) := by
  have hne : split text ≠ [] := by
    intro hnil
    apply h
    have hw : listWords isSpace text.toList = [] := by rw [← map_toList_split, hnil]; rfl
    rw [strip, listStrip_eq_nil_iff.mpr (listWords_eq_nil_iff.mp hw)]
  obtain ⟨w, ws, hw⟩ := List.exists_cons_of_ne_nil hne
  rw [readCommand, split_append (by decide), show split "description " = ["description"] by decide,
    hw, ← afterWord_description]
  rfl

/-- A printed VLAN id is read back. -/
lemma readVlanId_str {n : ℕ} (h1 : 1 ≤ n) (h2 : n ≤ 4094) : readVlanId (str n) = some n := by
  have hdigits : (str n).toList.length ≤ 4 := by
    show (Nat.repr n).toList.length ≤ 4
    rw [Nat.toList_repr]
    exact Nat.toDigits_length 10 n 4 (by decide) (by omega)
  rw [readVlanId, if_pos hdigits]
  simp [h1, h2]

/-- The line of an access VLAN is read. -/
lemma readCommand_accessVlan {n : ℕ} (h1 : 1 ≤ n) (h2 : n ≤ 4094) :
    readCommand ("switchport access vlan " ++ str n) = some (.accessVlan n) := by
  rw [readCommand, split_append_word (by decide) (isWord_str n),
    show split "switchport access vlan " = ["switchport", "access", "vlan"] by decide]
  show (readVlanId (str n)).map Command.accessVlan = _
  rw [readVlanId_str h1 h2]
  rfl

/-- The line of a trunk's VLAN list is read. -/
lemma readCommand_allowed {list : String} (h : IsWord list) :
    readCommand ("switchport trunk allowed vlan " ++ list) =
      (readVlanList list).map .allowed := by
  rw [readCommand, split_append_word (by decide) h,
    show split "switchport trunk allowed vlan " = ["switchport", "trunk", "allowed", "vlan"] by
      decide]
  rfl

/-- The line that enters a VLAN is read. -/
lemma readCommand_vlan {n : ℕ} (h1 : 1 ≤ n) (h2 : n ≤ 4094) :
    readCommand ("vlan " ++ str n) = some (.vlan n) := by
  rw [readCommand, split_append_word (by decide) (isWord_str n),
    show split "vlan " = ["vlan"] by decide]
  show (readVlanId (str n)).map Command.vlan = _
  rw [readVlanId_str h1 h2]
  rfl

/-- The line that removes a VLAN is read. -/
lemma readCommand_noVlan {n : ℕ} (h1 : 1 ≤ n) (h2 : n ≤ 4094) :
    readCommand ("no vlan " ++ str n) = some (.noVlan n) := by
  rw [readCommand, split_append_word (by decide) (isWord_str n),
    show split "no vlan " = ["no", "vlan"] by decide]
  show (readVlanId (str n)).map Command.noVlan = _
  rw [readVlanId_str h1 h2]
  rfl

/-- The line that names a VLAN is read. -/
lemma readCommand_name {name : String} (h : IsWord name) :
    readCommand ("name " ++ name) = some (.name name) := by
  rw [readCommand, split_append_word (by decide) h, show split "name " = ["name"] by decide]
  rfl

/-- The words of a route, after its keywords. -/
lemma readRoute_append {destination mask : Ipv4} {nextHop : String} {options : List String} :
    readRoute ([destination.text] ++ ([mask.text] ++ nextHop :: options)) =
      some (⟨destination, mask, nextHop⟩, options) := by
  simp [readRoute]

/-- The words of a line that adds a route. -/
lemma split_route {destination mask : Ipv4} {value : String} :
    split ("ip route " ++ destination.text ++ " " ++ mask.text ++ " " ++ value) =
      "ip" :: "route" :: ([destination.text] ++ ([mask.text] ++ split value)) := by
  rw [split_append_blank, split_append_blank, split_append (by decide),
    show split "ip route " = ["ip", "route"] by decide,
    split_eq_singleton (Ipv4.isWord_text destination), split_eq_singleton (Ipv4.isWord_text mask)]
  simp

/-- The line of a static route is read. -/
lemma readCommand_route {destination mask : Ipv4} {value nextHop : String}
    {options : List String} (h : split value = nextHop :: options) :
    readCommand ("ip route " ++ destination.text ++ " " ++ mask.text ++ " " ++ value) =
      some (.route ⟨destination, mask, nextHop⟩ options) := by
  rw [readCommand, split_route, h]
  simp only
  rw [readRoute_append]
  rfl

/-- The line that removes a static route is read. -/
lemma readCommand_noRoute {destination mask : Ipv4} {value nextHop : String}
    {options : List String} (h : split value = nextHop :: options) :
    readCommand ("no " ++ ("ip route " ++ destination.text ++ " " ++ mask.text ++ " " ++ value)) =
      some (.noRoute ⟨destination, mask, nextHop⟩) := by
  have hwords : ∀ words, readNo ("ip" :: "route" :: words) =
      (readRoute words).map fun r => .noRoute r.1 := fun _ => rfl
  rw [readCommand, split_append (by decide), show split "no " = ["no"] by decide, split_route, h]
  simp only [List.singleton_append]
  rw [hwords]
  simp [readRoute]

end Device

end Terraformer
