import Terraformer.Text.Json

/-!
# Reading JSON

`json.loads`, and that it reads back what `json.dumps` writes (`loads_dumps`).

A floating-point number is kept as its literal, so the reader keeps it too.  A value that Python
can hold and write has distinct keys, literals of floating-point numbers, and no integer above
the interpreter's limit for conversions (`Json.Valid`).  A lone surrogate is no character here, and
the reader refuses its escape.
-/

namespace Terraformer

namespace Text

/-- What `json.loads` raises: `JSONDecodeError`, or the plain `ValueError` of an integer with too
many digits. -/
inductive JsonError where
  | decode
  | tooManyDigits
  deriving DecidableEq

/-- `[ \t\n\r]` -/
def isJsonSpace (c : Char) : Bool :=
  c = ' ' || c = '\t' || c = '\n' || c = '\r'

/-- Drop the whitespace that may stand between two tokens. -/
def skipSpace (cs : List Char) : List Char :=
  cs.dropWhile isJsonSpace

/-- The value of a hexadecimal digit. -/
def hexValue (c : Char) : Option ℕ :=
  if c.isDigit then some (c.toNat - 48)
  else if 'a' ≤ c ∧ c ≤ 'f' then some (c.toNat - 87)
  else if 'A' ≤ c ∧ c ≤ 'F' then some (c.toNat - 55)
  else none

/-- Four hexadecimal digits. -/
def readHex4 : List Char → Option (ℕ × List Char)
  | a :: b :: c :: d :: rest => do
    let a ← hexValue a
    let b ← hexValue b
    let c ← hexValue c
    let d ← hexValue d
    return (a * 4096 + b * 256 + c * 16 + d, rest)
  | _ => none

/-- What follows the backslash of an escape. -/
def readEscape : List Char → Option (Char × List Char)
  | '"' :: rest => some ('"', rest)
  | '\\' :: rest => some ('\\', rest)
  | '/' :: rest => some ('/', rest)
  | 'b' :: rest => some ('\x08', rest)
  | 'f' :: rest => some ('\x0c', rest)
  | 'n' :: rest => some ('\n', rest)
  | 'r' :: rest => some ('\r', rest)
  | 't' :: rest => some ('\t', rest)
  | 'u' :: rest => do
    let (high, rest) ← readHex4 rest
    if high < 0xD800 ∨ 0xDFFF < high then return (Char.ofNat high, rest)
    match rest with
    | '\\' :: 'u' :: rest => do
      let (low, rest) ← readHex4 rest
      if high < 0xDC00 ∧ 0xDC00 ≤ low ∧ low ≤ 0xDFFF then
        return (Char.ofNat (0x10000 + (high - 0xD800) * 1024 + (low - 0xDC00)), rest)
      none
    | _ => none
  | _ => none

/-- The characters of a string literal up to its closing quote; `fuel` bounds their number. -/
def readString (fuel : ℕ) (cs : List Char) : Option (List Char × List Char) :=
  match fuel, cs with
  | 0, _ | _, [] => none
  | _ + 1, '"' :: rest => some ([], rest)
  | fuel + 1, '\\' :: rest => do
    let (c, rest) ← readEscape rest
    let (text, rest) ← readString fuel rest
    return (c :: text, rest)
  | fuel + 1, c :: rest =>
    if c.toNat < 32 then none
    else do
      let (text, rest) ← readString fuel rest
      return (c :: text, rest)

/-- The leading digits and what follows them. -/
def spanDigits (cs : List Char) : List Char × List Char :=
  (cs.takeWhile Char.isDigit, cs.dropWhile Char.isDigit)

/-- The fraction of a number, when there is one. -/
def readFraction : List Char → List Char × List Char
  | '.' :: cs =>
    match spanDigits cs with
    | ([], _) => ([], '.' :: cs)
    | (digits, rest) => ('.' :: digits, rest)
  | cs => ([], cs)

/-- The sign of an exponent. -/
def readExponentSign : List Char → List Char × List Char
  | '+' :: cs => (['+'], cs)
  | '-' :: cs => (['-'], cs)
  | cs => ([], cs)

/-- The exponent of a number, when there is one. -/
def readExponent : List Char → List Char × List Char
  | c :: cs =>
    if c = 'e' ∨ c = 'E' then
      let (sign, digits) := readExponentSign cs
      match spanDigits digits with
      | ([], _) => ([], c :: cs)
      | (digits, rest) => (c :: (sign ++ digits), rest)
    else ([], c :: cs)
  | [] => ([], [])

/-- The digits before the fraction: no zero leads others. -/
def readInteger : List Char → List Char × List Char
  | '0' :: cs => (['0'], cs)
  | cs => spanDigits cs

/-- An unsigned number. -/
def readNumber (negative : Bool) (cs : List Char) : Except JsonError (Json × List Char) :=
  match readInteger cs with
  | ([], _) => .error .decode
  | (integer, rest) =>
    let (fraction, rest) := readFraction rest
    let (exponent, rest) := readExponent rest
    if fraction = [] ∧ exponent = [] then
      if integer.length ≤ maxDigits then
        let n : ℤ := Nat.ofDigitChars 10 integer 0
        .ok (.int (if negative then -n else n), rest)
      else .error .tooManyDigits
    else
      .ok (.float (String.ofList ((if negative then ['-'] else []) ++ integer ++ fraction ++
        exponent)), rest)

/-- A value that is no string, array or object. -/
def readScalar (cs : List Char) : Except JsonError (Json × List Char) :=
  match cs with
  | 'n' :: 'u' :: 'l' :: 'l' :: rest => .ok (.null, rest)
  | 't' :: 'r' :: 'u' :: 'e' :: rest => .ok (.bool true, rest)
  | 'f' :: 'a' :: 'l' :: 's' :: 'e' :: rest => .ok (.bool false, rest)
  | 'N' :: 'a' :: 'N' :: rest => .ok (.float "NaN", rest)
  | 'I' :: 'n' :: 'f' :: 'i' :: 'n' :: 'i' :: 't' :: 'y' :: rest => .ok (.float "Infinity", rest)
  | '-' :: 'I' :: 'n' :: 'f' :: 'i' :: 'n' :: 'i' :: 't' :: 'y' :: rest =>
    .ok (.float "-Infinity", rest)
  | '-' :: rest => readNumber true rest
  | _ => readNumber false cs

/-- `fields[key] = value` -/
def setField (fields : JsonObject) (key : String) (value : Json) : JsonObject :=
  if key ∈ fields.map Prod.fst then
    fields.map fun field => if field.1 = key then (key, value) else field
  else fields ++ [(key, value)]

/-- `dict(pairs)`: a key keeps its first place and takes its last value. -/
def objectOf (pairs : List (String × Json)) : JsonObject :=
  pairs.foldl (fun fields pair => setField fields pair.1 pair.2) []

mutual

/-- A value and what follows it; `fuel` bounds its length. -/
def readValue (fuel : ℕ) (cs : List Char) : Except JsonError (Json × List Char) :=
  match fuel, cs with
  | 0, _ => .error .decode
  | fuel + 1, '"' :: cs =>
    match readString (fuel + 1) cs with
    | none => .error .decode
    | some (text, rest) => .ok (.str (String.ofList text), rest)
  | fuel + 1, '[' :: cs =>
    match skipSpace cs with
    | ']' :: rest => .ok (.arr [], rest)
    | cs => (readItems fuel cs).map fun (items, rest) => (.arr items, rest)
  | fuel + 1, '\x7b' :: cs =>
    match skipSpace cs with
    | '\x7d' :: rest => .ok (.obj [], rest)
    | cs => (readFields fuel cs).map fun (pairs, rest) => (.obj (objectOf pairs), rest)
  | _ + 1, cs => readScalar cs

/-- The items of an array, with its closing bracket. -/
def readItems (fuel : ℕ) (cs : List Char) : Except JsonError (List Json × List Char) :=
  match fuel with
  | 0 => .error .decode
  | fuel + 1 => do
    let (item, rest) ← readValue fuel cs
    match skipSpace rest with
    | ']' :: rest => .ok ([item], rest)
    | ',' :: rest => (readItems fuel (skipSpace rest)).map fun (items, rest) => (item :: items, rest)
    | _ => .error .decode

/-- The fields of an object, with its closing brace. -/
def readFields (fuel : ℕ) (cs : List Char) : Except JsonError (List (String × Json) × List Char) :=
  match fuel, cs with
  | fuel + 1, '"' :: cs =>
    match readString (fuel + 1) cs with
    | none => .error .decode
    | some (key, rest) =>
      match skipSpace rest with
      | ':' :: rest => do
        let (value, rest) ← readValue fuel (skipSpace rest)
        let field := (String.ofList key, value)
        match skipSpace rest with
        | '\x7d' :: rest => .ok ([field], rest)
        | ',' :: rest =>
          (readFields fuel (skipSpace rest)).map fun (fields, rest) => (field :: fields, rest)
        | _ => .error .decode
      | _ => .error .decode
  | _, _ => .error .decode

end

/-- `json.loads`. -/
def loads (text : String) : Except JsonError Json := do
  if text.toList.head? = some '\uFEFF' then throw .decode
  let (value, rest) ← readValue (text.toList.length + 1) (skipSpace text.toList)
  if skipSpace rest = [] then return value
  throw .decode

end Text

/-! ## Values -/

/-- The literal of a floating-point number: a fraction, an exponent or both, as `repr` writes
them, or one of the three names. -/
inductive FloatLiteral : String → Prop
  | nan : FloatLiteral "NaN"
  | infinity : FloatLiteral "Infinity"
  | negInfinity : FloatLiteral "-Infinity"
  | number {sign integer fraction exponent : List Char} (hsign : sign = [] ∨ sign = ['-'])
      (hinteger : integer ≠ [] ∧ ∀ c ∈ integer, c.isDigit = true)
      (hzero : ∀ cs, integer = '0' :: cs → cs = [])
      (hfraction : fraction = [] ∨
        ∃ digits, fraction = '.' :: digits ∧ digits ≠ [] ∧ ∀ c ∈ digits, c.isDigit = true)
      (hexponent : exponent = [] ∨ ∃ mark digits, exponent = 'e' :: (mark ++ digits) ∧
        (mark = [] ∨ mark = ['+'] ∨ mark = ['-']) ∧ digits ≠ [] ∧ ∀ c ∈ digits, c.isDigit = true)
      (hfloat : fraction ≠ [] ∨ exponent ≠ []) :
      FloatLiteral (String.ofList (sign ++ integer ++ fraction ++ exponent))

mutual

/-- A value of Python that `json.dumps` can write. -/
def Json.Valid : Json → Prop
  | .null | .bool _ | .str _ => True
  | .int n => n.natAbs.repr.length ≤ maxDigits
  | .float text => FloatLiteral text
  | .arr items => ValidItems items
  | .obj fields => (fields.map Prod.fst).Nodup ∧ ValidFields fields

/-- Every item is valid. -/
def ValidItems : List Json → Prop
  | [] => True
  | item :: items => item.Valid ∧ ValidItems items

/-- Every value of the fields is valid. -/
def ValidFields : List (String × Json) → Prop
  | [] => True
  | (_, value) :: fields => value.Valid ∧ ValidFields fields

end

namespace Text

/-! ## Strings -/

/-- A hexadecimal digit is read back as its value. -/
lemma hexValue_digitChar {n : ℕ} (h : n < 16) : hexValue (Nat.digitChar n) = some n := by
  have hall : ∀ k : Fin 16, hexValue (Nat.digitChar k) = some k.val := by decide
  exact hall ⟨n, h⟩

/-- Four hexadecimal digits are read back as their number. -/
lemma readHex4_hex4 {n : ℕ} (h : n < 65536) (rest : List Char) :
    readHex4 ((hex4 n).toList ++ rest) = some (n, rest) := by
  simp only [hex4, String.toList_ofList, List.map_cons, List.map_nil, List.cons_append,
    List.nil_append, readHex4]
  rw [hexValue_digitChar (by omega), hexValue_digitChar (by omega), hexValue_digitChar (by omega),
    hexValue_digitChar (by omega)]
  simp only [Option.bind_eq_bind, Option.bind_some, Option.pure_def, Option.some.injEq,
    Prod.mk.injEq, and_true]
  omega

/-- A high and a low surrogate make one character. -/
lemma readEscape_surrogates {a b rest : List Char} {high low : ℕ}
    (ha : readHex4 a = some (high, '\\' :: 'u' :: b)) (hb : readHex4 b = some (low, rest))
    (hhigh : 0xD800 ≤ high ∧ high < 0xDC00) (hlow : 0xDC00 ≤ low ∧ low ≤ 0xDFFF) :
    readEscape ('u' :: a) =
      some (Char.ofNat (0x10000 + (high - 0xD800) * 1024 + (low - 0xDC00)), rest) := by
  simp only [readEscape]
  rw [ha]
  simp only [Option.bind_eq_bind, Option.bind_some]
  rw [if_neg (by omega), hb]
  simp only [Option.bind_some]
  rw [if_pos (by omega)]
  rfl

/-- A code point is below 0x110000. -/
lemma toNat_lt (c : Char) : c.toNat < 0x110000 := by
  have hvalid := c.valid
  simp only [UInt32.isValidChar, Nat.isValidChar] at hvalid
  have heq : c.toNat = c.val.toNat := rfl
  omega

/-- A surrogate pair stands for a character outside the basic plane. -/
lemma readEscape_pair {c : Char} (h : 65536 ≤ c.toNat) (rest : List Char) :
    readEscape ('u' :: ((hex4 (0xD800 + (c.toNat - 65536) / 1024)).toList ++
      '\\' :: 'u' :: ((hex4 (0xDC00 + (c.toNat - 65536) % 1024)).toList ++ rest))) =
      some (c, rest) := by
  have hc := toNat_lt c
  rw [readEscape_surrogates (readHex4_hex4 (by omega) _) (readHex4_hex4 (by omega) _) (by omega)
    (by omega)]
  have hvalue : 0x10000 + (0xD800 + (c.toNat - 65536) / 1024 - 0xD800) * 1024 +
      (0xDC00 + (c.toNat - 65536) % 1024 - 0xDC00) = c.toNat := by omega
  rw [hvalue, Char.ofNat_toNat]

/-- A character of the basic plane is written with one escape. -/
lemma readEscape_plane {c : Char} (h : c.toNat < 65536) (rest : List Char) :
    readEscape ('u' :: ((hex4 c.toNat).toList ++ rest)) = some (c, rest) := by
  have hvalid := c.valid
  simp only [UInt32.isValidChar, Nat.isValidChar] at hvalid
  have heq : c.toNat = c.val.toNat := rfl
  simp only [readEscape]
  rw [readHex4_hex4 h]
  simp only [Option.bind_eq_bind, Option.bind_some]
  rw [if_pos (by omega), Char.ofNat_toNat]
  rfl

/-- An escape stands for its character. -/
lemma readString_escape {e rest : List Char} {c : Char} (fuel : ℕ)
    (h : readEscape (e ++ rest) = some (c, rest)) :
    readString (fuel + 1) ('\\' :: e ++ rest) =
      (readString fuel rest).map fun (text, rest) => (c :: text, rest) := by
  simp only [List.cons_append, readString, h, Option.bind_eq_bind, Option.bind_some]
  cases readString fuel rest <;> rfl

/-- A pair of escapes that stands for one character is read as this character. -/
lemma readString_two {high low : String} {rest : List Char} {c : Char} (fuel : ℕ)
    (h : readEscape ('u' :: (high.toList ++ '\\' :: 'u' :: (low.toList ++ rest))) =
      some (c, rest)) :
    readString (fuel + 1) (("\\u" ++ high ++ "\\u" ++ low).toList ++ rest) =
      (readString fuel rest).map fun (text, rest) => (c :: text, rest) := by
  have hread := readString_escape (e := 'u' :: (high.toList ++ '\\' :: 'u' :: low.toList)) fuel
    (by simpa using h)
  rw [← hread]
  simp

/-- What the reader makes of a written character. -/
lemma readString_escapeChar (fuel : ℕ) (c : Char) (rest : List Char) :
    readString (fuel + 1) ((escapeChar c).toList ++ rest) =
      (readString fuel rest).map fun (text, rest) => (c :: text, rest) := by
  unfold escapeChar
  split_ifs with h1 h2 h3 h4 h5 h6 h7 h8 h9
  · subst h1
    exact readString_escape (e := ['"']) fuel rfl
  · subst h2
    exact readString_escape (e := ['\\']) fuel rfl
  · subst h3
    exact readString_escape (e := ['n']) fuel rfl
  · subst h4
    exact readString_escape (e := ['r']) fuel rfl
  · subst h5
    exact readString_escape (e := ['t']) fuel rfl
  · subst h6
    exact readString_escape (e := ['b']) fuel rfl
  · subst h7
    exact readString_escape (e := ['f']) fuel rfl
  · have hplain : ¬c.toNat < 32 := by omega
    rw [show c.toString.toList = [c] from String.toList_singleton c, List.singleton_append]
    simp only [readString, if_neg hplain, Option.bind_eq_bind]
    cases readString fuel rest <;> rfl
  · rw [String.toList_append]
    exact readString_escape (e := 'u' :: (hex4 c.toNat).toList) fuel (readEscape_plane h9 rest)
  · exact readString_two fuel (readEscape_pair (Nat.le_of_not_lt h9) rest)

/-- A quoted text is read back up to its closing quote. -/
lemma readString_quote {fuel : ℕ} {cs : List Char} (h : cs.length < fuel) (rest : List Char) :
    readString fuel (cs.flatMap (fun c => (escapeChar c).toList) ++ '"' :: rest) =
      some (cs, rest) := by
  induction cs generalizing fuel with
  | nil =>
    obtain ⟨fuel, rfl⟩ := Nat.exists_eq_add_of_lt h
    simp [readString]
  | cons c cs ih =>
    obtain ⟨fuel, rfl⟩ := Nat.exists_eq_add_of_lt h
    rw [List.flatMap_cons, List.append_assoc, readString_escapeChar, ih (by simp; omega)]
    rfl

/-! ## Numbers -/

/-- Nothing here goes on with a number. -/
def EndsNumber (rest : List Char) : Prop :=
  ∀ c ∈ rest.head?, c.isDigit = false ∧ c ≠ '.' ∧ c ≠ 'e' ∧ c ≠ 'E'

/-- The digits are split from what follows them. -/
lemma spanDigits_append {digits rest : List Char} (hdigits : ∀ c ∈ digits, c.isDigit = true)
    (hrest : ∀ c ∈ rest.head?, c.isDigit = false) :
    spanDigits (digits ++ rest) = (digits, rest) := by
  have hstop : rest.takeWhile Char.isDigit = [] ∧ rest.dropWhile Char.isDigit = rest := by
    cases rest with
    | nil => exact ⟨rfl, rfl⟩
    | cons c rest => simp [hrest c rfl]
  rw [spanDigits, List.takeWhile_append_of_pos hdigits, List.dropWhile_append_of_pos hdigits,
    hstop.1, hstop.2, List.append_nil]

/-- A numeral does not begin with a zero before other digits. -/
lemma toDigits_zero_head (n : ℕ) (cs : List Char) (h : Nat.toDigits 10 n = '0' :: cs) :
    cs = [] := by
  induction n using Nat.strong_induction_on generalizing cs with
  | _ n ih =>
    rcases Nat.lt_or_ge n 10 with hn | hn
    · rw [Nat.toDigits_of_lt_base hn] at h
      exact (List.cons.inj h).2.symm
    · rw [Nat.toDigits_of_base_le (by decide) hn] at h
      rcases hfront : Nat.toDigits 10 (n / 10) with _ | ⟨c, front⟩
      · exact absurd hfront Nat.toDigits_ne_nil
      · rw [hfront, List.cons_append] at h
        obtain ⟨rfl, -⟩ := List.cons.inj h
        -- the number without its last digit would be zero
        have hnil := ih (n / 10) (by omega) front hfront
        have hzero : n / 10 = 0 := by
          have hvalue := Nat.ofDigitChars_ten_toDigits (n := n / 10)
          rw [hfront, hnil] at hvalue
          exact hvalue.symm
        omega

/-- An integer part is read up to the first character that is no digit. -/
lemma readInteger_append {integer rest : List Char}
    (hinteger : integer ≠ [] ∧ ∀ c ∈ integer, c.isDigit = true)
    (hzero : ∀ cs, integer = '0' :: cs → cs = []) (hrest : ∀ c ∈ rest.head?, c.isDigit = false) :
    readInteger (integer ++ rest) = (integer, rest) := by
  obtain ⟨hne, hdigits⟩ := hinteger
  cases integer with
  | nil => exact absurd rfl hne
  | cons c integer =>
    by_cases hc : c = '0'
    · subst hc
      rw [hzero integer rfl]
      rfl
    · have hother : readInteger (c :: integer ++ rest) = spanDigits (c :: integer ++ rest) := by
        unfold readInteger
        split
        · next heq => exact absurd (List.cons.inj heq).1 hc
        · rfl
      rw [hother, spanDigits_append hdigits hrest]

/-- Without a dot there is no fraction. -/
lemma readFraction_stop {rest : List Char} (h : ∀ c ∈ rest.head?, c ≠ '.') :
    readFraction rest = ([], rest) := by
  unfold readFraction
  split
  · exact absurd rfl (h '.' rfl)
  · rfl

/-- A fraction is read up to the first character that is no digit. -/
lemma readFraction_append {digits rest : List Char} (hne : digits ≠ [])
    (hdigits : ∀ c ∈ digits, c.isDigit = true) (hrest : ∀ c ∈ rest.head?, c.isDigit = false) :
    readFraction ('.' :: digits ++ rest) = ('.' :: digits, rest) := by
  rw [List.cons_append, readFraction, spanDigits_append hdigits hrest]
  cases digits with
  | nil => exact absurd rfl hne
  | cons c digits => rfl

/-- Without the letter `e` there is no exponent. -/
lemma readExponent_stop {rest : List Char} (h : ∀ c ∈ rest.head?, c ≠ 'e' ∧ c ≠ 'E') :
    readExponent rest = ([], rest) := by
  cases rest with
  | nil => rfl
  | cons c rest => rw [readExponent, if_neg (by simpa using h c rfl)]

/-- The sign of an exponent is split from its digits. -/
lemma readExponentSign_append {mark digits : List Char}
    (hmark : mark = [] ∨ mark = ['+'] ∨ mark = ['-']) (hne : digits ≠ [])
    (hdigits : ∀ c ∈ digits, c.isDigit = true) (rest : List Char) :
    readExponentSign (mark ++ (digits ++ rest)) = (mark, digits ++ rest) := by
  rcases hmark with rfl | rfl | rfl
  · cases digits with
    | nil => exact absurd rfl hne
    | cons c digits =>
      have hc := hdigits c (by simp)
      rw [List.nil_append, List.cons_append]
      unfold readExponentSign
      split
      · next heq => rw [(List.cons.inj heq).1] at hc; exact absurd hc (by decide)
      · next heq => rw [(List.cons.inj heq).1] at hc; exact absurd hc (by decide)
      · rfl
  · rfl
  · rfl

/-- An exponent is read up to the first character that is no digit. -/
lemma readExponent_append {mark digits rest : List Char}
    (hmark : mark = [] ∨ mark = ['+'] ∨ mark = ['-']) (hne : digits ≠ [])
    (hdigits : ∀ c ∈ digits, c.isDigit = true) (hrest : ∀ c ∈ rest.head?, c.isDigit = false) :
    readExponent ('e' :: (mark ++ digits) ++ rest) = ('e' :: (mark ++ digits), rest) := by
  rw [List.cons_append, readExponent, if_pos (Or.inl rfl), List.append_assoc]
  simp only [readExponentSign_append hmark hne hdigits, spanDigits_append hdigits hrest]

/-- The reader takes an integer to its last digit. -/
lemma readNumber_integer (negative : Bool) {n : ℕ} (hn : n.repr.length ≤ maxDigits)
    {rest : List Char} (hrest : EndsNumber rest) :
    readNumber negative (n.repr.toList ++ rest) =
      .ok (.int (if negative then -(n : ℤ) else n), rest) := by
  have hlength : (Nat.toDigits 10 n).length ≤ maxDigits := by
    rwa [← Nat.toList_repr, String.length_toList]
  have hinteger : Nat.toDigits 10 n ≠ [] ∧ ∀ c ∈ Nat.toDigits 10 n, c.isDigit = true :=
    ⟨Nat.toDigits_ne_nil, fun c hc => Nat.isDigit_of_mem_toDigits (by decide) (by decide) hc⟩
  rw [readNumber, Nat.toList_repr, readInteger_append hinteger (toDigits_zero_head n)
    fun c hc => (hrest c hc).1]
  generalize hdigits : Nat.toDigits 10 n = digits at hlength hinteger
  cases digits with
  | nil => exact absurd rfl hinteger.1
  | cons d digits =>
    simp only [readFraction_stop fun c hc => (hrest c hc).2.1,
      readExponent_stop fun c hc => (hrest c hc).2.2, and_self, if_true, if_pos hlength]
    rw [← hdigits, Nat.ofDigitChars_ten_toDigits]

/-- A character that begins neither a name nor a number with a sign. -/
lemma readScalar_digit {c : Char} {cs : List Char} (hc : c.isDigit = true) :
    readScalar (c :: cs) = readNumber false (c :: cs) := by
  have hne : ∀ d : Char, d.isDigit = false → c ≠ d := fun d hd h => by simp [h, hd] at hc
  unfold readScalar
  split
  case h_8 => rfl
  all_goals
    next heq => exact absurd (List.cons.inj heq).1 (hne _ (by decide))

/-- A minus before a digit starts a negative number. -/
lemma readScalar_minus {c : Char} {cs : List Char} (hc : c.isDigit = true) :
    readScalar ('-' :: c :: cs) = readNumber true (c :: cs) := by
  have hne : c ≠ 'I' := fun h => by simp [h] at hc
  unfold readScalar
  split
  case h_6 heq => exact absurd (List.cons.inj (List.cons.inj heq).2).1 hne
  case h_7 heq => rw [(List.cons.inj heq).2]
  case h_8 hnot => exact absurd rfl (hnot _)
  all_goals
    next heq => exact absurd (List.cons.inj heq).1 (by decide)

/-- A number is printed with a digit in front. -/
lemma repr_cons (n : ℕ) : ∃ c cs, n.repr.toList = c :: cs ∧ c.isDigit = true := by
  rw [Nat.toList_repr]
  rcases hcs : Nat.toDigits 10 n with _ | ⟨c, cs⟩
  · exact absurd hcs Nat.toDigits_ne_nil
  · exact ⟨c, cs, rfl, Nat.isDigit_of_mem_toDigits (b := 10) (n := n) (by decide) (by decide)
      (by simp [hcs])⟩

/-- A printed integer is read back. -/
lemma readScalar_int {n : ℤ} (hn : n.natAbs.repr.length ≤ maxDigits) {rest : List Char}
    (hrest : EndsNumber rest) : readScalar ((str n).toList ++ rest) = .ok (.int n, rest) := by
  cases n with
  | ofNat k =>
    obtain ⟨c, cs, hcs, hc⟩ := repr_cons k
    have hread := readNumber_integer false hn hrest
    rw [str, hcs, List.cons_append, readScalar_digit hc, ← List.cons_append, ← hcs]
    exact hread
  | negSucc k =>
    obtain ⟨c, cs, hcs, hc⟩ := repr_cons (k + 1)
    have hread := readNumber_integer true hn hrest
    rw [Int.natAbs_negSucc] at hread
    rw [str, String.toList_append, show "-".toList = ['-'] from rfl, List.singleton_append,
      List.cons_append, hcs, List.cons_append, readScalar_minus hc, ← List.cons_append, ← hcs]
    exact hread

/-- A number with a fraction or an exponent is read as a float with its own text. -/
lemma readNumber_float (negative : Bool) {integer fraction exponent rest : List Char}
    (hinteger : integer ≠ [] ∧ ∀ c ∈ integer, c.isDigit = true)
    (hzero : ∀ cs, integer = '0' :: cs → cs = [])
    (hfraction : fraction = [] ∨
      ∃ digits, fraction = '.' :: digits ∧ digits ≠ [] ∧ ∀ c ∈ digits, c.isDigit = true)
    (hexponent : exponent = [] ∨ ∃ mark digits, exponent = 'e' :: (mark ++ digits) ∧
      (mark = [] ∨ mark = ['+'] ∨ mark = ['-']) ∧ digits ≠ [] ∧ ∀ c ∈ digits, c.isDigit = true)
    (hfloat : fraction ≠ [] ∨ exponent ≠ []) (hrest : EndsNumber rest) :
    readNumber negative (integer ++ (fraction ++ (exponent ++ rest))) =
      .ok (.float (String.ofList ((if negative then ['-'] else []) ++ integer ++ fraction ++
        exponent)), rest) := by
  -- what each part is followed by does not go on with it
  have hexponentHead : ∀ c ∈ (exponent ++ rest).head?, c.isDigit = false ∧ c ≠ '.' := by
    rcases hexponent with rfl | ⟨mark, digits, rfl, -⟩
    · exact fun c hc => ⟨(hrest c hc).1, (hrest c hc).2.1⟩
    · simp
  have hfractionHead : ∀ c ∈ (fraction ++ (exponent ++ rest)).head?, c.isDigit = false := by
    rcases hfraction with rfl | ⟨digits, rfl, -⟩
    · exact fun c hc => (hexponentHead c hc).1
    · simp
  have hreadFraction : readFraction (fraction ++ (exponent ++ rest)) =
      (fraction, exponent ++ rest) := by
    rcases hfraction with rfl | ⟨digits, rfl, hne, hdigits⟩
    · exact readFraction_stop fun c hc => (hexponentHead c hc).2
    · exact readFraction_append hne hdigits fun c hc => (hexponentHead c hc).1
  have hreadExponent : readExponent (exponent ++ rest) = (exponent, rest) := by
    rcases hexponent with rfl | ⟨mark, digits, rfl, hmark, hne, hdigits⟩
    · exact readExponent_stop fun c hc => (hrest c hc).2.2
    · exact readExponent_append hmark hne hdigits fun c hc => (hrest c hc).1
  rw [readNumber, readInteger_append hinteger hzero hfractionHead]
  cases integer with
  | nil => exact absurd rfl hinteger.1
  | cons c integer =>
    simp only [hreadFraction, hreadExponent]
    rw [if_neg fun h => hfloat.elim (absurd h.1) (absurd h.2)]

/-- A printed float is read back with its text. -/
lemma readScalar_float {text : String} (h : FloatLiteral text) {rest : List Char}
    (hrest : EndsNumber rest) : readScalar (text.toList ++ rest) = .ok (.float text, rest) := by
  cases h with
  | nan => rfl
  | infinity => rfl
  | negInfinity => rfl
  | @number sign integer fraction exponent hsign hinteger hzero hfraction hexponent hfloat =>
    have hread := fun negative =>
      readNumber_float negative hinteger hzero hfraction hexponent hfloat hrest
    obtain ⟨c, digits, rfl⟩ := List.exists_cons_of_ne_nil hinteger.1
    have hc := hinteger.2 c (by simp)
    rw [String.toList_ofList]
    rcases hsign with rfl | rfl
    · simpa [readScalar_digit hc] using hread false
    · simpa [readScalar_minus hc] using hread true

/-! ## Values -/

/-- Without repeated keys an object holds its pairs as they are written. -/
lemma objectOf_eq_self {pairs : List (String × Json)} (h : (pairs.map Prod.fst).Nodup) :
    objectOf pairs = pairs := by
  have hfold : ∀ front back : List (String × Json), ((front ++ back).map Prod.fst).Nodup →
      back.foldl (fun fields pair => setField fields pair.1 pair.2) front = front ++ back := by
    intro front back hnodup
    induction back generalizing front with
    | nil => simp
    | cons pair back ih =>
      have hnew : pair.1 ∉ front.map Prod.fst := by
        rw [List.map_append, List.map_cons, List.nodup_append] at hnodup
        exact fun hmem => hnodup.2.2 _ hmem _ (by simp) rfl
      rw [List.foldl_cons, setField, if_neg hnew, ih _ (by simpa using hnodup)]
      simp
  exact hfold [] pairs (by simpa using h)

/-- The text of a value begins with a character that no reader skips or refuses and that closes
nothing. -/
def StartsValue (cs : List Char) : Prop :=
  ∃ c rest, cs = c :: rest ∧ isJsonSpace c = false ∧ c ≠ ']' ∧ c ≠ '\uFEFF'

/-- A digit starts a value. -/
lemma startsValue_digit {c : Char} (hc : c.isDigit = true) (cs : List Char) :
    StartsValue (c :: cs) := by
  refine ⟨c, cs, rfl, ?_, ?_, ?_⟩
  · rw [isDigit_iff] at hc
    have hne : ∀ d : Char, d.toNat < 48 → c ≠ d := by rintro d hd rfl; omega
    simp [isJsonSpace, hne ' ' (by decide), hne '\t' (by decide), hne '\n' (by decide),
      hne '\r' (by decide)]
  · rintro rfl
    exact absurd hc (by decide)
  · rintro rfl
    exact absurd hc (by decide)

/-- There is no space to skip before a value. -/
lemma skipSpace_value {cs : List Char} (h : StartsValue cs) : skipSpace cs = cs := by
  obtain ⟨c, rest, rfl, hc, -, -⟩ := h
  simp [skipSpace, hc]

/-- Neither a string nor an array nor an object begins here. -/
def StartsScalar (cs : List Char) : Prop :=
  ∃ c rest, cs = c :: rest ∧ c ≠ '"' ∧ c ≠ '[' ∧ c ≠ '\x7b'

/-- What starts a scalar is read as one. -/
lemma readValue_scalar {cs : List Char} (h : StartsScalar cs) (fuel : ℕ) :
    readValue (fuel + 1) cs = readScalar cs := by
  obtain ⟨c, rest, rfl, hquote, hbracket, hbrace⟩ := h
  unfold readValue
  split
  · next heq => exact absurd heq (Nat.succ_ne_zero _)
  · next heq => exact absurd (List.cons.inj heq).1 hquote
  · next heq => exact absurd (List.cons.inj heq).1 hbracket
  · next heq => exact absurd (List.cons.inj heq).1 hbrace
  · rfl

/-- A digit starts a scalar. -/
lemma startsScalar_digit {c : Char} (hc : c.isDigit = true) (cs : List Char) :
    StartsScalar (c :: cs) := by
  refine ⟨c, cs, rfl, ?_, ?_, ?_⟩ <;> rintro rfl <;> exact absurd hc (by decide)

/-- A printed integer starts a scalar. -/
lemma str_starts (n : ℤ) (rest : List Char) :
    StartsScalar ((str n).toList ++ rest) ∧ StartsValue ((str n).toList ++ rest) := by
  cases n with
  | ofNat k =>
    obtain ⟨c, cs, hcs, hc⟩ := repr_cons k
    rw [str, hcs]
    exact ⟨startsScalar_digit hc _, startsValue_digit hc _⟩
  | negSucc k =>
    rw [str, String.toList_append, List.append_assoc]
    exact ⟨⟨'-', _, rfl, by decide, by decide, by decide⟩,
      ⟨'-', _, rfl, by decide, by decide, by decide⟩⟩

/-- A printed float starts a scalar. -/
lemma floatLiteral_starts {text : String} (h : FloatLiteral text) (rest : List Char) :
    StartsScalar (text.toList ++ rest) ∧ StartsValue (text.toList ++ rest) := by
  cases h with
  | nan | infinity | negInfinity =>
    exact ⟨⟨_, _, rfl, by decide, by decide, by decide⟩,
      ⟨_, _, rfl, by decide, by decide, by decide⟩⟩
  | @number sign integer fraction exponent hsign hinteger =>
    obtain ⟨c, digits, rfl⟩ := List.exists_cons_of_ne_nil hinteger.1
    have hc := hinteger.2 c (by simp)
    rw [String.toList_ofList]
    rcases hsign with rfl | rfl
    · exact ⟨startsScalar_digit hc _, startsValue_digit hc _⟩
    · exact ⟨⟨'-', _, rfl, by decide, by decide, by decide⟩,
        ⟨'-', _, rfl, by decide, by decide, by decide⟩⟩

/-- A printed value starts a value. -/
lemma dumps_starts {v : Json} (h : v.Valid) (rest : List Char) :
    StartsValue ((dumps v).toList ++ rest) := by
  match v with
  | .null | .bool true | .bool false => exact ⟨_, _, rfl, by decide, by decide, by decide⟩
  | .int n => exact (str_starts n rest).2
  | .float text =>
    rw [Json.Valid] at h
    exact (floatLiteral_starts h rest).2
  | .str text =>
    rw [dumps, quote, String.toList_append, String.toList_append, List.append_assoc,
      List.append_assoc]
    exact ⟨'"', _, rfl, by decide, by decide, by decide⟩
  | .arr items =>
    rw [dumps, String.toList_append, String.toList_append, List.append_assoc, List.append_assoc]
    exact ⟨'[', _, rfl, by decide, by decide, by decide⟩
  | .obj fields =>
    rw [dumps, String.toList_append, String.toList_append, List.append_assoc, List.append_assoc]
    exact ⟨'\x7b', _, rfl, by decide, by decide, by decide⟩

/-- A quoted text is its escaped characters between two quotes. -/
lemma toList_quote (text : String) (rest : List Char) : (quote text).toList ++ rest =
    '"' :: (text.toList.flatMap (fun c => (escapeChar c).toList) ++ '"' :: rest) := by
  rw [quote, String.toList_append, String.toList_append, String.toList_join, List.flatMap_map]
  simp

/-- An escaped character is not empty. -/
lemma length_escapeChar (c : Char) : 1 ≤ (escapeChar c).toList.length := by
  have hone : ∀ a : String, 1 ≤ ("\\u" ++ a).toList.length := by simp
  have htwo : ∀ a b : String, 1 ≤ ("\\u" ++ a ++ "\\u" ++ b).toList.length := by simp
  have hself : 1 ≤ c.toString.toList.length := by
    rw [show c.toString.toList = [c] from String.toList_singleton c]
    rfl
  unfold escapeChar
  split_ifs
  iterate 7 · decide
  · exact hself
  · exact hone _
  · exact htwo _ _

/-- Escaping does not shorten a text. -/
lemma length_le_flatMap (cs : List Char) :
    cs.length ≤ (cs.flatMap fun c => (escapeChar c).toList).length := by
  induction cs with
  | nil => simp
  | cons c cs ih =>
    have hc := length_escapeChar c
    simp only [List.flatMap_cons, List.length_append, List.length_cons]
    omega

/-- A quoted text is longer than the text by its quotes at least. -/
lemma length_quote (text : String) : text.toList.length + 2 ≤ (quote text).toList.length := by
  have htext := congrArg List.length (toList_quote text [])
  have hle := length_le_flatMap text.toList
  simp only [List.append_nil, List.length_cons, List.length_append, List.length_nil] at htext
  omega

/-- A character that cannot continue a number ends it. -/
lemma endsNumber_cons {c : Char} (rest : List Char)
    (hc : c.isDigit = false ∧ c ≠ '.' ∧ c ≠ 'e' ∧ c ≠ 'E') : EndsNumber (c :: rest) := by
  rintro d ⟨⟩
  exact hc

/-- The items of an array or an object, with what follows the first. -/
lemma toList_intercalate_cons (first second : String) (others : List String) (rest : List Char) :
    (", ".intercalate (first :: second :: others)).toList ++ rest =
      first.toList ++ ',' :: ' ' :: ((", ".intercalate (second :: others)).toList ++ rest) := by
  rw [String.toList_intercalate, String.toList_intercalate, List.map_cons, List.map_cons,
    List.intercalate_cons_cons]
  simp

/-- A bracket before a value starts the items of an array. -/
lemma readValue_array {cs : List Char} (h : StartsValue cs) (fuel : ℕ) :
    readValue (fuel + 1) ('[' :: cs) =
      (readItems fuel cs).map fun (items, rest) => (.arr items, rest) := by
  rw [readValue, skipSpace_value h]
  obtain ⟨c, rest, rfl, -, hc, -⟩ := h
  split
  · next heq => exact absurd (List.cons.inj heq).1 hc
  · rfl

/-- A brace before a quote starts the fields of an object. -/
lemma readValue_object (cs : List Char) (fuel : ℕ) :
    readValue (fuel + 1) ('\x7b' :: '"' :: cs) =
      (readFields fuel ('"' :: cs)).map fun (pairs, rest) => (.obj (objectOf pairs), rest) := by
  rw [readValue]
  rfl

/-- The blank behind a comma or a colon is skipped. -/
lemma skipSpace_blank {cs : List Char} (h : StartsValue cs) : skipSpace (' ' :: cs) = cs :=
  skipSpace_value h

/-- The characters of a printed array. -/
lemma toList_array (inner : String) (rest : List Char) :
    ("[" ++ inner ++ "]").toList ++ rest = '[' :: (inner.toList ++ ']' :: rest) := by
  simp

/-- The characters of a printed object. -/
lemma toList_object (inner : String) (rest : List Char) :
    ("\x7b" ++ inner ++ "\x7d").toList ++ rest = '\x7b' :: (inner.toList ++ '\x7d' :: rest) := by
  simp

/-- A printed list begins with its first item. -/
lemma toList_intercalate_head (first : String) (others : List String) (rest : List Char) :
    ∃ more, (", ".intercalate (first :: others)).toList ++ rest = first.toList ++ more := by
  cases others with
  | nil => exact ⟨rest, by simp⟩
  | cons second others => exact ⟨_, toList_intercalate_cons first second others rest⟩

/-- A field of an object is read as its key, a colon and its value. -/
lemma readFields_field {key value : String} {read : Json} {fuel : ℕ} {rest : List Char}
    (hvalue : StartsValue (value.toList ++ rest))
    (hread : readValue fuel (value.toList ++ rest) = .ok (read, rest))
    (hfuel : (quote key ++ ": " ++ value).toList.length ≤ fuel) :
    (∀ more, rest = '\x7d' :: more →
      readFields (fuel + 1) ((quote key ++ ": " ++ value).toList ++ rest) =
        .ok ([(key, read)], more)) ∧
    (∀ more, rest = ',' :: ' ' :: '"' :: more →
      readFields (fuel + 1) ((quote key ++ ": " ++ value).toList ++ rest) =
        (readFields fuel ('"' :: more)).map fun (fields, rest) => ((key, read) :: fields, rest)) := by
  have htext : (quote key ++ ": " ++ value).toList ++ rest =
      (quote key).toList ++ (':' :: ' ' :: (value.toList ++ rest)) := by
    simp
  have hlength := length_quote key
  have hsum : (quote key).toList.length ≤ fuel := by
    simp only [String.toList_append, List.length_append] at hfuel
    omega
  have hcolon : skipSpace (':' :: ' ' :: (value.toList ++ rest)) =
      ':' :: ' ' :: (value.toList ++ rest) := rfl
  rw [htext, toList_quote, readFields, readString_quote (by omega)]
  simp only [hcolon, skipSpace_blank hvalue, hread, String.ofList_toList]
  refine ⟨?_, ?_⟩
  · rintro more rfl
    rfl
  · rintro more rfl
    rfl

mutual

/-- A value is read back with what follows it. -/
theorem readValue_dumps (v : Json) (hv : v.Valid) (fuel : ℕ) (rest : List Char)
    (hfuel : (dumps v).toList.length ≤ fuel) (hrest : EndsNumber rest) :
    readValue fuel ((dumps v).toList ++ rest) = .ok (v, rest) := by
  obtain ⟨fuel, rfl⟩ : ∃ n, fuel = n + 1 := by
    obtain ⟨c, cs, hcs, -, -, -⟩ := dumps_starts hv []
    rw [List.append_nil] at hcs
    rw [hcs] at hfuel
    exact ⟨fuel - 1, by simp at hfuel; omega⟩
  match v, hv with
  | .null, _ =>
    exact readValue_scalar ⟨'n', 'u' :: 'l' :: 'l' :: rest, rfl, by decide, by decide, by decide⟩
      fuel
  | .bool true, _ =>
    exact readValue_scalar ⟨'t', 'r' :: 'u' :: 'e' :: rest, rfl, by decide, by decide, by decide⟩
      fuel
  | .bool false, _ =>
    exact readValue_scalar
      ⟨'f', 'a' :: 'l' :: 's' :: 'e' :: rest, rfl, by decide, by decide, by decide⟩ fuel
  | .int n, hv =>
    rw [Json.Valid] at hv
    rw [dumps, readValue_scalar (str_starts n rest).1, readScalar_int hv hrest]
  | .float text, hv =>
    rw [Json.Valid] at hv
    rw [dumps, readValue_scalar (floatLiteral_starts hv rest).1, readScalar_float hv hrest]
  | .str text, _ =>
    rw [dumps] at hfuel ⊢
    have hlength := length_quote text
    rw [toList_quote, readValue, readString_quote (by omega)]
    simp
  | .arr [], _ =>
    show readValue (fuel + 1) ('[' :: ']' :: rest) = _
    rw [readValue]
    rfl
  | .arr (item :: items), hv =>
    rw [Json.Valid] at hv
    rw [dumps] at hfuel ⊢
    have hlength := congrArg List.length
      (toList_array (", ".intercalate (dumpsItems (item :: items))) [])
    simp only [List.append_nil, List.length_cons, List.length_append, List.length_nil] at hlength
    have hstart : StartsValue ((", ".intercalate (dumpsItems (item :: items))).toList ++
        ']' :: rest) := by
      obtain ⟨more, hmore⟩ := toList_intercalate_head (dumps item) (dumpsItems items) (']' :: rest)
      rw [dumpsItems, hmore]
      rw [ValidItems] at hv
      exact dumps_starts hv.1 more
    rw [toList_array, readValue_array hstart, readItems_dumps item items hv fuel rest (by omega)]
    rfl
  | .obj [], _ =>
    show readValue (fuel + 1) ('\x7b' :: '\x7d' :: rest) = _
    rw [readValue]
    rfl
  | .obj ((key, value) :: fields), hv =>
    rw [Json.Valid] at hv
    rw [dumps] at hfuel ⊢
    have hlength := congrArg List.length
      (toList_object (", ".intercalate (dumpsFields ((key, value) :: fields))) [])
    simp only [List.append_nil, List.length_cons, List.length_append, List.length_nil] at hlength
    have hread := readFields_dumps key value fields hv.2 fuel rest (by omega)
    have hstart : ∃ more, (", ".intercalate (dumpsFields ((key, value) :: fields))).toList ++
        '\x7d' :: rest = '"' :: more := by
      obtain ⟨more, hmore⟩ := toList_intercalate_head (quote key ++ ": " ++ dumps value)
        (dumpsFields fields) ('\x7d' :: rest)
      rw [dumpsFields, hmore, String.toList_append, String.toList_append, List.append_assoc,
        List.append_assoc, toList_quote]
      exact ⟨_, rfl⟩
    obtain ⟨more, hmore⟩ := hstart
    rw [toList_object, hmore, readValue_object, ← hmore, hread]
    show Except.ok (Json.obj (objectOf ((key, value) :: fields)), rest) = _
    rw [objectOf_eq_self hv.1]
termination_by fuel

/-- Printed items are read back up to the closing bracket. -/
theorem readItems_dumps (item : Json) (items : List Json) (hv : ValidItems (item :: items))
    (fuel : ℕ) (rest : List Char)
    (hfuel : (", ".intercalate (dumpsItems (item :: items))).toList.length < fuel) :
    readItems fuel ((", ".intercalate (dumpsItems (item :: items))).toList ++ ']' :: rest) =
      .ok (item :: items, rest) := by
  obtain ⟨fuel, rfl⟩ : ∃ n, fuel = n + 1 := ⟨fuel - 1, by omega⟩
  rw [ValidItems] at hv
  match items, hv with
  | [], ⟨hitem, _⟩ =>
    have hself : ", ".intercalate (dumpsItems [item]) = dumps item := by
      simp [dumpsItems]
    rw [hself] at hfuel ⊢
    rw [readItems, readValue_dumps item hitem fuel _ (by omega)
      (endsNumber_cons rest ⟨by decide, by decide, by decide, by decide⟩)]
    rfl
  | second :: others, ⟨hitem, hothers⟩ =>
    have hlength := congrArg List.length
      (toList_intercalate_cons (dumps item) (dumps second) (dumpsItems others) [])
    simp only [List.append_nil, List.length_cons, List.length_append] at hlength
    rw [dumpsItems, dumpsItems] at hfuel ⊢
    have hread := readItems_dumps second others hothers fuel rest
      (by rw [dumpsItems]; omega)
    obtain ⟨more, hmore⟩ := toList_intercalate_head (dumps second) (dumpsItems others)
      (']' :: rest)
    rw [dumpsItems, hmore] at hread
    rw [toList_intercalate_cons, hmore, readItems, readValue_dumps item hitem fuel _ (by omega)
      (endsNumber_cons _ ⟨by decide, by decide, by decide, by decide⟩)]
    rw [ValidItems] at hothers
    show (readItems fuel (skipSpace (' ' :: ((dumps second).toList ++ more)))).map _ = _
    rw [skipSpace_blank (dumps_starts hothers.1 more), hread]
    rfl
termination_by fuel

/-- Printed fields are read back up to the closing brace. -/
theorem readFields_dumps (key : String) (value : Json) (fields : List (String × Json))
    (hv : ValidFields ((key, value) :: fields)) (fuel : ℕ) (rest : List Char)
    (hfuel : (", ".intercalate (dumpsFields ((key, value) :: fields))).toList.length < fuel) :
    readFields fuel ((", ".intercalate (dumpsFields ((key, value) :: fields))).toList ++
      '\x7d' :: rest) = .ok ((key, value) :: fields, rest) := by
  obtain ⟨fuel, rfl⟩ : ∃ n, fuel = n + 1 := ⟨fuel - 1, by omega⟩
  rw [ValidFields] at hv
  have hlengthValue : (dumps value).toList.length ≤
      (quote key ++ ": " ++ dumps value).toList.length := by
    simp only [String.toList_append, List.length_append]
    omega
  match fields, hv with
  | [], ⟨hvalue, _⟩ =>
    have hself : ", ".intercalate (dumpsFields [(key, value)]) =
        quote key ++ ": " ++ dumps value := by
      simp [dumpsFields]
    rw [hself] at hfuel ⊢
    have hread := readValue_dumps value hvalue fuel _ (by omega)
      (endsNumber_cons rest (c := '\x7d') ⟨by decide, by decide, by decide, by decide⟩)
    exact (readFields_field (dumps_starts hvalue _) hread (by omega)).1 rest rfl
  | (second, other) :: others, ⟨hvalue, hothers⟩ =>
    have hlength := congrArg List.length
      (toList_intercalate_cons (quote key ++ ": " ++ dumps value)
        (quote second ++ ": " ++ dumps other) (dumpsFields others) [])
    simp only [List.append_nil, List.length_cons, List.length_append] at hlength
    rw [dumpsFields, dumpsFields] at hfuel ⊢
    have hread := readFields_dumps second other others hothers fuel rest
      (by rw [dumpsFields]; omega)
    obtain ⟨more, hmore⟩ : ∃ more, (", ".intercalate ((quote second ++ ": " ++ dumps other) ::
        dumpsFields others)).toList ++ '\x7d' :: rest = '"' :: more := by
      obtain ⟨more, hmore⟩ := toList_intercalate_head (quote second ++ ": " ++ dumps other)
        (dumpsFields others) ('\x7d' :: rest)
      rw [hmore, String.toList_append, String.toList_append, List.append_assoc,
        List.append_assoc, toList_quote]
      exact ⟨_, rfl⟩
    rw [dumpsFields, hmore] at hread
    rw [toList_intercalate_cons, hmore]
    have hvalueRead := readValue_dumps value hvalue fuel _ (by omega)
      (endsNumber_cons (' ' :: '"' :: more) (c := ',') ⟨by decide, by decide, by decide, by decide⟩)
    rw [(readFields_field (dumps_starts hvalue _) hvalueRead (by omega)).2 more rfl, hread]
    rfl
termination_by fuel

end

/-- `json.loads` reads back what `json.dumps` writes. -/
theorem loads_dumps {v : Json} (hv : v.Valid) : loads (dumps v) = .ok v := by
  have hstart := dumps_starts hv []
  rw [List.append_nil] at hstart
  have hread := readValue_dumps v hv ((dumps v).toList.length + 1) []
    (Nat.le_succ _) nofun
  rw [List.append_nil] at hread
  have hbom : (dumps v).toList.head? ≠ some '\uFEFF' := by
    obtain ⟨c, cs, hcs, -, -, hc⟩ := hstart
    rw [hcs]
    simpa using hc
  simp only [loads, skipSpace_value hstart, hread, if_neg hbom]
  rfl


end Text

end Terraformer
