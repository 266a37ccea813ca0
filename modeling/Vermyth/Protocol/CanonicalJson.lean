import Mathlib.Data.List.Sort
import Mathlib.Data.String.Basic
import Vermyth.Schema.Value

set_option autoImplicit false

namespace Vermyth

def hexDigit (n : Nat) : Char := "0123456789abcdef".toList.getD n '0'

-- json.dumps with ensure_ascii=False escapes the two delimiters and the
-- control characters only.
def escapeChar (c : Char) : List Char :=
  if c = '"' then ['\\', '"']
  else if c = '\\' then ['\\', '\\']
  else if c = '\n' then ['\\', 'n']
  else if c = '\r' then ['\\', 'r']
  else if c = '\t' then ['\\', 't']
  else if c.toNat = 8 then ['\\', 'b']
  else if c.toNat = 12 then ['\\', 'f']
  else if c.toNat < 32 then ['\\', 'u', '0', '0', hexDigit (c.toNat / 16), hexDigit (c.toNat % 16)]
  else [c]

def quoted (text : String) : String :=
  "\"" ++ String.ofList (text.toList.flatMap escapeChar) ++ "\""

def sortKeys (fields : List (String × String)) : List (String × String) :=
  fields.insertionSort fun a b => a.1 ≤ b.1

def renderField (field : String × String) : String := quoted field.1 ++ ":" ++ field.2

-- canonical_json_bytes, as text: sorted keys, no whitespace. How Python
-- prints a float is a parameter.
mutual

def canonicalJson (floatRepr : ℚ → String) : Json → String
  | .null => "null"
  | .bool value => if value then "true" else "false"
  | .int value => toString value
  | .float value => floatRepr value
  | .str text => quoted text
  | .arr items => "[" ++ ",".intercalate (canonicalItems floatRepr items) ++ "]"
  | .obj fields => "\x7b" ++ ",".intercalate ((sortKeys (canonicalFields floatRepr fields)).map renderField) ++ "\x7d"

def canonicalItems (floatRepr : ℚ → String) : List Json → List String
  | [] => []
  | item :: rest => canonicalJson floatRepr item :: canonicalItems floatRepr rest

def canonicalFields (floatRepr : ℚ → String) : List (String × Json) → List (String × String)
  | [] => []
  | (key, value) :: rest => (key, canonicalJson floatRepr value) :: canonicalFields floatRepr rest

end

example : canonicalJson (fun _ => "") (.obj [("b", .arr [.int (-2), .null]), ("a", .str "x\"\n")]) =
    "\x7b\"a\":\"x\\\"\\n\",\"b\":[-2,null]\x7d" := by
  decide

end Vermyth
