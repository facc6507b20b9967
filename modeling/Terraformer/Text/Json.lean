import Terraformer.Text.Number

/-!
# JSON values

The values that `json.dumps` writes, as Python writes them: separators `", "` and `": "`, and
every character outside the printable ASCII range escaped.  A floating-point number is kept as
the text `repr` gives it.
-/

namespace Terraformer

/-- A JSON value; the fields of an object are in insertion order. -/
inductive Json where
  | null
  | bool (value : Bool)
  | int (value : ℤ)
  | float (text : String)
  | str (text : String)
  | arr (items : List Json)
  | obj (fields : List (String × Json))

/-- A JSON object. -/
abbrev JsonObject := List (String × Json)

namespace Text

/-- The last four hexadecimal digits of a number. -/
def hex4 (n : ℕ) : String :=
  String.ofList ([n / 4096 % 16, n / 256 % 16, n / 16 % 16, n % 16].map Nat.digitChar)

/-- How a string literal writes a character. -/
def escapeChar (c : Char) : String :=
  if c = '"' then "\\\""
  else if c = '\\' then "\\\\"
  else if c = '\n' then "\\n"
  else if c = '\r' then "\\r"
  else if c = '\t' then "\\t"
  else if c = '\x08' then "\\b"
  else if c = '\x0c' then "\\f"
  else if 32 ≤ c.toNat ∧ c.toNat ≤ 126 then c.toString
  else if c.toNat < 65536 then "\\u" ++ hex4 c.toNat
  -- a character outside the basic plane is written as a surrogate pair
  else
    "\\u" ++ hex4 (0xD800 + (c.toNat - 65536) / 1024) ++
      "\\u" ++ hex4 (0xDC00 + (c.toNat - 65536) % 1024)

/-- A string literal. -/
def quote (text : String) : String :=
  "\"" ++ String.join (text.toList.map escapeChar) ++ "\""

mutual

/-- `json.dumps`. -/
def dumps : Json → String
  | .null => "null"
  | .bool true => "true"
  | .bool false => "false"
  | .int n => str n
  | .float text => text
  | .str text => quote text
  | .arr items => "[" ++ ", ".intercalate (dumpsItems items) ++ "]"
  | .obj fields => "\x7b" ++ ", ".intercalate (dumpsFields fields) ++ "\x7d"

/-- The items of an array. -/
def dumpsItems : List Json → List String
  | [] => []
  | item :: items => dumps item :: dumpsItems items

/-- The fields of an object. -/
def dumpsFields : List (String × Json) → List String
  | [] => []
  | (key, value) :: fields => (quote key ++ ": " ++ dumps value) :: dumpsFields fields

end

end Text

end Terraformer
