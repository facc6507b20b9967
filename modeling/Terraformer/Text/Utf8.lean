import Terraformer.Scanner

/-!
# Incremental UTF-8

The decoder that `codecs.getincrementaldecoder("utf-8")("replace")` builds.  It takes one
character after another from the front of the bytes it has, puts U+FFFD in place of bytes that
begin none, and keeps the bytes of a character that is not complete for its next call.

`readChar_utf8EncodeChar` says that it reads back what is encoded, and `readChar_eq_none_iff`
that what it keeps is the beginning of an encoded character.
-/

namespace Terraformer.Utf8

/-- Where the bytes behind the first byte of a character may lie; nothing for a byte that no
character begins with. -/
def places (first : ℕ) : Option (List (ℕ × ℕ)) :=
  if first < 0x80 then some []
  else if first < 0xC2 then none
  else if first < 0xE0 then some [(0x80, 0xBF)]
  else if first < 0xF0 then
    some [(if first = 0xE0 then 0xA0 else 0x80, if first = 0xED then 0x9F else 0xBF),
      (0x80, 0xBF)]
  else if first < 0xF5 then
    some [(if first = 0xF0 then 0x90 else 0x80, if first = 0xF4 then 0x8F else 0xBF),
      (0x80, 0xBF), (0x80, 0xBF)]
  else none

/-- What the first byte of a character says of its number. -/
def firstBits (first : ℕ) : ℕ :=
  if first < 0x80 then first
  else if first < 0xE0 then first % 32
  else if first < 0xF0 then first % 16
  else first % 8

/-- The character whose number is `number` so far, and what is behind it.  A byte that is out of
its place ends the character before it, as a replacement. -/
def readRest (number : ℕ) : List (ℕ × ℕ) → List UInt8 → Option (Char × List UInt8)
  | [], bytes => some (Char.ofNat number, bytes)
  | _ :: _, [] => none
  | place :: places, byte :: bytes =>
    if place.1 ≤ byte.toNat ∧ byte.toNat ≤ place.2 then
      readRest (number * 64 + byte.toNat % 64) places bytes
    else some ('\uFFFD', byte :: bytes)

/-- The first character of some bytes, and what is behind it; nothing when they end before it
does. -/
def readChar : List UInt8 → Option (Char × List UInt8)
  | [] => none
  | first :: bytes =>
    match places first.toNat with
    | none => some ('\uFFFD', bytes)
    | some places => readRest (firstBits first.toNat) places bytes

/-! ## The scanner -/

/-- What is behind the continuation bytes is not longer. -/
lemma readRest_length {number : ℕ} {places : List (ℕ × ℕ)} {x r : List UInt8} {c : Char}
    (h : readRest number places x = some (c, r)) : r.length ≤ x.length := by
  induction places generalizing number x with
  | nil =>
    obtain ⟨-, rfl⟩ := Prod.mk.inj (Option.some.inj h)
    exact le_rfl
  | cons place places ih =>
    cases x with
    | nil => cases h
    | cons byte x =>
      rw [readRest] at h
      split_ifs at h with hplace
      · exact (ih h).trans (Nat.le_succ _)
      · obtain ⟨-, rfl⟩ := Prod.mk.inj (Option.some.inj h)
        exact le_rfl

/-- Continuation bytes are read alike wherever more follows. -/
lemma readRest_append {number : ℕ} {places : List (ℕ × ℕ)} {x r : List UInt8} {c : Char}
    (y : List UInt8) (h : readRest number places x = some (c, r)) :
    readRest number places (x ++ y) = some (c, r ++ y) := by
  induction places generalizing number x with
  | nil =>
    obtain ⟨rfl, rfl⟩ := Prod.mk.inj (Option.some.inj h)
    rfl
  | cons place places ih =>
    cases x with
    | nil => cases h
    | cons byte x =>
      rw [readRest] at h
      rw [List.cons_append, readRest]
      split_ifs at h ⊢ with hplace
      · exact ih h
      · obtain ⟨rfl, rfl⟩ := Prod.mk.inj (Option.some.inj h)
        rfl

/-- A character takes at least one byte. -/
lemma readChar_shorter {x r : List UInt8} {c : Char} (h : readChar x = some (c, r)) :
    r.length < x.length := by
  cases x with
  | nil => cases h
  | cons first x =>
    rw [readChar] at h
    split at h
    · obtain ⟨-, rfl⟩ := Prod.mk.inj (Option.some.inj h)
      exact Nat.lt_succ_self _
    · exact Nat.lt_succ_of_le (readRest_length h)

/-- A character is read alike wherever more follows. -/
lemma readChar_stable {x r : List UInt8} {c : Char} (y : List UInt8)
    (h : readChar x = some (c, r)) : readChar (x ++ y) = some (c, r ++ y) := by
  cases x with
  | nil => cases h
  | cons first x =>
    rw [readChar] at h
    rw [List.cons_append, readChar]
    cases hplaces : places first.toNat with
    | none =>
      rw [hplaces] at h
      obtain ⟨rfl, rfl⟩ := Prod.mk.inj (Option.some.inj h)
      rfl
    | some places =>
      rw [hplaces] at h
      exact readRest_append y h

/-- The decoder: its tokens are the characters, and what is left over is its buffer. -/
def decoder : Scanner UInt8 Char where
  step := readChar
  shorter := readChar_shorter
  stable := readChar_stable

/-! ## Encoded characters -/

/-- The bytes lie in the places. -/
abbrev Fills (places : List (ℕ × ℕ)) (bytes : List UInt8) : Prop :=
  List.Forall₂ (fun place byte => place.1 ≤ byte.toNat ∧ byte.toNat ≤ place.2) places bytes

/-- Bytes that end before their places do can be completed. -/
lemma exists_fills_of_readRest {number : ℕ} {places : List (ℕ × ℕ)} {x : List UInt8}
    (hplaces : ∀ place ∈ places, place.1 ≤ place.2 ∧ place.2 < 256)
    (h : readRest number places x = none) : ∃ y, y ≠ [] ∧ Fills places (x ++ y) := by
  induction places generalizing number x with
  | nil => cases h
  | cons place places ih =>
    have hplace := hplaces place List.mem_cons_self
    have hrest := fun p hp => hplaces p (List.mem_cons_of_mem place hp)
    cases x with
    | nil =>
      have hlow : (UInt8.ofNat place.1).toNat = place.1 := by
        simp
        omega
      have hlows : Fills places (places.map fun p => UInt8.ofNat p.1) := by
        rw [Fills, List.forall₂_map_right_iff]
        refine List.forall₂_same.mpr fun p hp => ?_
        have := hrest p hp
        simp
        omega
      exact ⟨UInt8.ofNat place.1 :: places.map fun p => UInt8.ofNat p.1, List.cons_ne_nil _ _,
        .cons ⟨hlow.ge, hlow.le.trans hplace.1⟩ hlows⟩
    | cons byte x =>
      rw [readRest] at h
      split_ifs at h with hbyte
      obtain ⟨y, hy, hfills⟩ := ih hrest h
      exact ⟨y, hy, .cons hbyte hfills⟩

/-- The ranges of the continuation bytes are ranges of bytes. -/
lemma places_bounds {first : ℕ} {ps : List (ℕ × ℕ)} (h : places first = some ps) :
    ∀ place ∈ ps, place.1 ≤ place.2 ∧ place.2 < 256 := by
  simp only [places] at h
  split_ifs at h <;> cases h <;> simp <;> omega

/-- The number of a character is what it was made of. -/
lemma toNat_val_ofNat {n : ℕ} (h : n < 0xD800 ∨ 0xDFFF < n ∧ n < 0x110000) :
    (Char.ofNat n).val.toNat = n := by
  have hvalid : n.isValidChar := h
  simp [Char.ofNat, hvalid, Char.ofNatAux]

/-- Bytes that fill the places of a first byte encode a character. -/
lemma exists_utf8EncodeChar {first : UInt8} {ps : List (ℕ × ℕ)} {bytes : List UInt8}
    (h : places first.toNat = some ps) (hbytes : Fills ps bytes) :
    ∃ c, String.utf8EncodeChar c = first :: bytes := by
  have hfirst := first.toNat_lt
  simp only [places] at h
  split at h
  · cases h
    cases hbytes
    refine ⟨Char.ofNat first.toNat, ?_⟩
    rw [String.utf8EncodeChar, toNat_val_ofNat (by omega), if_pos (by omega), UInt8.ofNat_toNat]
  split at h
  · cases h
  split at h
  · cases h
    obtain _ | ⟨hb, _ | _⟩ := hbytes
    rename_i b
    refine ⟨Char.ofNat (first.toNat % 32 * 64 + b.toNat % 64), ?_⟩
    rw [String.utf8EncodeChar, toNat_val_ofNat (by omega), if_neg (by omega), if_pos (by omega)]
    simp only [List.cons.injEq, ← UInt8.toNat_inj, UInt8.toNat_ofNat', and_true]
    exact ⟨by omega, by omega⟩
  split at h
  · cases h
    obtain _ | ⟨hb, _ | ⟨hc, _ | _⟩⟩ := hbytes
    rename_i b c
    -- The narrowed places keep out what is too long, and the surrogates.
    have hnumber : 0x800 ≤ first.toNat % 16 * 4096 + b.toNat % 64 * 64 + c.toNat % 64 ∧
        (first.toNat % 16 * 4096 + b.toNat % 64 * 64 + c.toNat % 64 < 0xD800 ∨
          0xDFFF < first.toNat % 16 * 4096 + b.toNat % 64 * 64 + c.toNat % 64) := by
      split_ifs at hb <;> omega
    have hb' : 0x80 ≤ b.toNat ∧ b.toNat ≤ 0xBF := by
      split_ifs at hb <;> omega
    refine ⟨Char.ofNat (first.toNat % 16 * 4096 + b.toNat % 64 * 64 + c.toNat % 64), ?_⟩
    rw [String.utf8EncodeChar, toNat_val_ofNat (by omega), if_neg (by omega), if_neg (by omega),
      if_pos (by omega)]
    simp only [List.cons.injEq, ← UInt8.toNat_inj, UInt8.toNat_ofNat', and_true]
    exact ⟨by omega, by omega, by omega⟩
  split at h
  · cases h
    obtain _ | ⟨hb, _ | ⟨hc, _ | ⟨hd, _ | _⟩⟩⟩ := hbytes
    rename_i b c d
    have hnumber : 0x10000 ≤ first.toNat % 8 * 262144 + b.toNat % 64 * 4096 + c.toNat % 64 * 64 +
          d.toNat % 64 ∧
        first.toNat % 8 * 262144 + b.toNat % 64 * 4096 + c.toNat % 64 * 64 + d.toNat % 64 <
          0x110000 := by
      split_ifs at hb <;> omega
    have hb' : 0x80 ≤ b.toNat ∧ b.toNat ≤ 0xBF := by
      split_ifs at hb <;> omega
    refine ⟨Char.ofNat (first.toNat % 8 * 262144 + b.toNat % 64 * 4096 + c.toNat % 64 * 64 +
      d.toNat % 64), ?_⟩
    rw [String.utf8EncodeChar, toNat_val_ofNat (by omega), if_neg (by omega), if_neg (by omega),
      if_neg (by omega)]
    simp only [List.cons.injEq, ← UInt8.toNat_inj, UInt8.toNat_ofNat', and_true]
    exact ⟨by omega, by omega, by omega, by omega⟩
  · cases h

/-- A byte that lies in its place is taken up. -/
lemma readRest_cons {number : ℕ} {place : ℕ × ℕ} {places : List (ℕ × ℕ)} {b : ℕ}
    {bytes : List UInt8} (hb : b < 256) (h : place.1 ≤ b ∧ b ≤ place.2) :
    readRest number (place :: places) (UInt8.ofNat b :: bytes) =
      readRest (number * 64 + b % 64) places bytes := by
  have hnat : (UInt8.ofNat b).toNat = b := by
    rw [UInt8.toNat_ofNat']
    exact Nat.mod_eq_of_lt hb
  rw [readRest, hnat, if_pos h]

/-- A character is read from its first byte and the rest. -/
lemma readChar_cons {first : ℕ} {ps : List (ℕ × ℕ)} {bytes : List UInt8} (hfirst : first < 256)
    (h : places first = some ps) :
    readChar (UInt8.ofNat first :: bytes) = readRest (firstBits first) ps bytes := by
  have hnat : (UInt8.ofNat first).toNat = first := by
    rw [UInt8.toNat_ofNat']
    exact Nat.mod_eq_of_lt hfirst
  rw [readChar, hnat, h]

/-- What is encoded is read back. -/
lemma readChar_utf8EncodeChar (c : Char) (rest : List UInt8) :
    readChar (String.utf8EncodeChar c ++ rest) = some (c, rest) := by
  obtain ⟨v, hv⟩ : ∃ v, c.val.toNat = v := ⟨_, rfl⟩
  have hvalid : v < 0xD800 ∨ 0xDFFF < v ∧ v < 0x110000 := hv ▸ c.valid
  have hc : Char.ofNat v = c := hv ▸ Char.ofNat_toNat c
  rw [String.utf8EncodeChar, hv]
  split_ifs with h1 h2 h3
  · have hplaces : places v = some [] := by
      rw [places, if_pos (by omega)]
    rw [List.cons_append, readChar_cons (by omega) hplaces, firstBits, if_pos (by omega)]
    exact congrArg (fun c => some (c, rest)) hc
  · have hplaces : places (v / 64 % 32 + 0xC0) = some [(0x80, 0xBF)] := by
      rw [places, if_neg (by omega), if_neg (by omega), if_pos (by omega)]
    have hnumber : (v / 64 % 32 + 0xC0) % 32 * 64 + (v % 64 + 0x80) % 64 = v := by omega
    rw [List.cons_append, readChar_cons (by omega) hplaces, List.cons_append,
      readRest_cons (by omega) (by omega), firstBits, if_neg (by omega), if_pos (by omega),
      hnumber]
    exact congrArg (fun c => some (c, rest)) hc
  · have hplaces : places (v / 4096 % 16 + 0xE0) =
        some [(if v / 4096 % 16 + 0xE0 = 0xE0 then 0xA0 else 0x80,
          if v / 4096 % 16 + 0xE0 = 0xED then 0x9F else 0xBF), (0x80, 0xBF)] := by
      rw [places, if_neg (by omega), if_neg (by omega), if_neg (by omega), if_pos (by omega)]
    have hlow : (if v / 4096 % 16 + 0xE0 = 0xE0 then 0xA0 else 0x80) ≤ v / 64 % 64 + 0x80 := by
      split_ifs <;> omega
    have hhigh : v / 64 % 64 + 0x80 ≤ if v / 4096 % 16 + 0xE0 = 0xED then 0x9F else 0xBF := by
      split_ifs <;> omega
    have hnumber : ((v / 4096 % 16 + 0xE0) % 16 * 64 + (v / 64 % 64 + 0x80) % 64) * 64 +
        (v % 64 + 0x80) % 64 = v := by omega
    rw [List.cons_append, readChar_cons (by omega) hplaces, List.cons_append,
      readRest_cons (by omega) ⟨hlow, hhigh⟩, List.cons_append,
      readRest_cons (by omega) (by omega), firstBits, if_neg (by omega), if_neg (by omega),
      if_pos (by omega), hnumber]
    exact congrArg (fun c => some (c, rest)) hc
  · have hplaces : places (v / 262144 % 8 + 0xF0) =
        some [(if v / 262144 % 8 + 0xF0 = 0xF0 then 0x90 else 0x80,
          if v / 262144 % 8 + 0xF0 = 0xF4 then 0x8F else 0xBF), (0x80, 0xBF), (0x80, 0xBF)] := by
      rw [places, if_neg (by omega), if_neg (by omega), if_neg (by omega), if_neg (by omega),
        if_pos (by omega)]
    have hlow : (if v / 262144 % 8 + 0xF0 = 0xF0 then 0x90 else 0x80) ≤
        v / 4096 % 64 + 0x80 := by
      split_ifs <;> omega
    have hhigh : v / 4096 % 64 + 0x80 ≤
        if v / 262144 % 8 + 0xF0 = 0xF4 then 0x8F else 0xBF := by
      split_ifs <;> omega
    have hnumber : (((v / 262144 % 8 + 0xF0) % 8 * 64 + (v / 4096 % 64 + 0x80) % 64) * 64 +
        (v / 64 % 64 + 0x80) % 64) * 64 + (v % 64 + 0x80) % 64 = v := by omega
    rw [List.cons_append, readChar_cons (by omega) hplaces, List.cons_append,
      readRest_cons (by omega) ⟨hlow, hhigh⟩, List.cons_append,
      readRest_cons (by omega) (by omega), List.cons_append,
      readRest_cons (by omega) (by omega), firstBits, if_neg (by omega), if_neg (by omega),
      if_neg (by omega), hnumber]
    exact congrArg (fun c => some (c, rest)) hc

/-- The beginning of an encoded character, but not the whole of it. -/
def Unfinished (bytes : List UInt8) : Prop :=
  bytes ≠ [] ∧ ∃ c rest, rest ≠ [] ∧ String.utf8EncodeChar c = bytes ++ rest

/-- The decoder waits for more exactly when its bytes are the beginning of a character. -/
theorem readChar_eq_none_iff (bytes : List UInt8) :
    readChar bytes = none ↔ bytes = [] ∨ Unfinished bytes := by
  constructor
  · intro h
    cases bytes with
    | nil => exact .inl rfl
    | cons first bytes =>
      rw [readChar] at h
      split at h
      · cases h
      · rename_i ps hplaces
        obtain ⟨rest, hrest, hfills⟩ := exists_fills_of_readRest (places_bounds hplaces) h
        obtain ⟨c, hc⟩ := exists_utf8EncodeChar hplaces hfills
        exact .inr ⟨List.cons_ne_nil _ _, c, rest, hrest, hc⟩
  · rintro (rfl | ⟨-, c, rest, hrest, hc⟩)
    · rfl
    · rw [Option.eq_none_iff_forall_not_mem]
      rintro ⟨d, r⟩ hr
      -- A character of the beginning would be one of the whole, with something behind it.
      have hwhole := readChar_stable rest hr
      rw [← hc, ← List.append_nil (String.utf8EncodeChar c), readChar_utf8EncodeChar] at hwhole
      exact hrest (List.append_eq_nil_iff.mp (Prod.mk.inj (Option.some.inj hwhole)).2.symm).2

end Terraformer.Utf8
