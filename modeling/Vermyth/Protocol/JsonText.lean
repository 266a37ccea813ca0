import Mathlib.Data.List.TakeDrop
import Vermyth.Protocol.CanonicalJson

set_option autoImplicit false

namespace Vermyth

def hexValue (c : Char) : Option Nat :=
  let n := "0123456789abcdefABCDEF".toList.idxOf c
  if n < 16 then some n else if n < 22 then some (n - 6) else none

def readHex : List Char → Option (Nat × List Char)
  | a :: b :: c :: d :: rest => do
      let x ← hexValue a
      let y ← hexValue b
      let z ← hexValue c
      let w ← hexValue d
      return (((x * 16 + y) * 16 + z) * 16 + w, rest)
  | _ => none

-- The character of a code point. A lone surrogate is none.
def charOf (n : Nat) : Option Char := if n.isValidChar then some (Char.ofNat n) else none

-- After a \u: a high surrogate takes the escape that follows as its other half.
def readUnicode (chars : List Char) : Option (Char × List Char) :=
  match readHex chars with
  | none => none
  | some (high, rest) =>
      if 0xd800 ≤ high ∧ high < 0xdc00 then
        match rest with
        | '\\' :: 'u' :: rest =>
            match readHex rest with
            | none => none
            | some (low, rest) =>
                if 0xdc00 ≤ low ∧ low < 0xe000 then
                  (charOf (0x10000 + (high - 0xd800) * 0x400 + (low - 0xdc00))).map fun c => (c, rest)
                else none
        | _ => none
      else (charOf high).map fun c => (c, rest)

def readEscape : List Char → Option (Char × List Char)
  | '"' :: rest => some ('"', rest)
  | '\\' :: rest => some ('\\', rest)
  | '/' :: rest => some ('/', rest)
  | 'b' :: rest => some (Char.ofNat 8, rest)
  | 'f' :: rest => some (Char.ofNat 12, rest)
  | 'n' :: rest => some ('\n', rest)
  | 'r' :: rest => some ('\r', rest)
  | 't' :: rest => some ('\t', rest)
  | 'u' :: rest => readUnicode rest
  | _ => none

def readChar : List Char → Option (Char × List Char)
  | [] => none
  | c :: rest =>
      if c = '\\' then readEscape rest
      else if c = '"' ∨ c.toNat < 32 then none
      else some (c, rest)

def readString : Nat → List Char → Option (List Char × List Char)
  | 0, _ => none
  | fuel + 1, chars =>
      if chars.head? = some '"' then some ([], chars.tail)
      else do
        let (c, rest) ← readChar chars
        let (text, rest) ← readString fuel rest
        return (c :: text, rest)

-- json.dumps with ensure_ascii=True.
def unicodeEscape (n : Nat) : List Char :=
  ['\\', 'u', hexDigit (n / 4096), hexDigit (n / 256 % 16), hexDigit (n / 16 % 16), hexDigit (n % 16)]

def escapeAscii (c : Char) : List Char :=
  if c = '"' then ['\\', '"']
  else if c = '\\' then ['\\', '\\']
  else if c = '\n' then ['\\', 'n']
  else if c = '\r' then ['\\', 'r']
  else if c = '\t' then ['\\', 't']
  else if c.toNat = 8 then ['\\', 'b']
  else if c.toNat = 12 then ['\\', 'f']
  else if 32 ≤ c.toNat ∧ c.toNat ≤ 126 then [c]
  else if c.toNat < 0x10000 then unicodeEscape c.toNat
  else unicodeEscape (0xd800 + (c.toNat - 0x10000) / 0x400) ++ unicodeEscape (0xdc00 + (c.toNat - 0x10000) % 0x400)

theorem hex_value_digit (n : Nat) (small : n < 16) : hexValue (hexDigit n) = some n := by
  revert n
  decide

theorem read_hex_escape (n : Nat) (small : n < 0x10000) (rest : List Char) :
    readHex (hexDigit (n / 4096) :: hexDigit (n / 256 % 16) :: hexDigit (n / 16 % 16) :: hexDigit (n % 16) :: rest) =
      some (n, rest) := by
  have value : ((n / 4096 * 16 + n / 256 % 16) * 16 + n / 16 % 16) * 16 + n % 16 = n := by omega
  simp only [readHex, hex_value_digit (n / 4096) (by omega), hex_value_digit (n / 256 % 16) (by omega),
    hex_value_digit (n / 16 % 16) (by omega), hex_value_digit (n % 16) (by omega), Option.bind_eq_bind,
    Option.bind_some, Option.pure_def, value]

theorem char_valid (c : Char) : c.toNat < 0xd800 ∨ (0xdfff < c.toNat ∧ c.toNat < 0x110000) := by
  have valid := c.valid
  simpa [UInt32.isValidChar, Nat.isValidChar] using valid

theorem char_of_char (c : Char) : charOf c.toNat = some c := by
  have valid : c.toNat.isValidChar := c.valid
  rw [charOf, if_pos valid, Char.ofNat_toNat]

theorem read_unicode_plane (c : Char) (small : c.toNat < 0x10000) (rest : List Char) :
    readChar (unicodeEscape c.toNat ++ rest) = some (c, rest) := by
  have notHigh : ¬ (0xd800 ≤ c.toNat ∧ c.toNat < 0xdc00) := by
    have valid := char_valid c
    omega
  simp only [unicodeEscape, List.cons_append, List.nil_append, readChar, if_true, readEscape, readUnicode,
    read_hex_escape c.toNat small rest, if_neg notHigh, char_of_char, Option.map_some]

theorem read_unicode_pair (high low : Nat) (c : Char) (highRange : 0xd800 ≤ high ∧ high < 0xdc00)
    (lowRange : 0xdc00 ≤ low ∧ low < 0xe000) (joined : 0x10000 + (high - 0xd800) * 0x400 + (low - 0xdc00) = c.toNat)
    (rest : List Char) : readChar (unicodeEscape high ++ unicodeEscape low ++ rest) = some (c, rest) := by
  simp only [unicodeEscape, List.cons_append, List.nil_append, readChar, if_true, readEscape, readUnicode,
    read_hex_escape high (by omega), if_pos highRange, read_hex_escape low (by omega), if_pos lowRange, joined,
    char_of_char, Option.map_some]

def shortEscaped : List Char := ['"', '\\', '\n', '\r', '\t', Char.ofNat 8, Char.ofNat 12]

theorem read_short_escape (c : Char) (short : c ∈ shortEscaped) (rest : List Char) :
    readChar (escapeChar c ++ rest) = some (c, rest) ∧ readChar (escapeAscii c ++ rest) = some (c, rest) := by
  simp only [shortEscaped, List.mem_cons, List.not_mem_nil, or_false] at short
  obtain rfl | rfl | rfl | rfl | rfl | rfl | rfl := short <;> exact ⟨rfl, rfl⟩

structure Unescaped (c : Char) : Prop where
  quote : c ≠ '"'
  backslash : c ≠ '\\'
  newline : c ≠ '\n'
  carriage : c ≠ '\r'
  tab : c ≠ '\t'
  backspace : c.toNat ≠ 8
  feed : c.toNat ≠ 12

theorem not_short_escaped (c : Char) (long : c ∉ shortEscaped) : Unescaped c := by
  simp only [shortEscaped, List.mem_cons, List.not_mem_nil, or_false, not_or] at long
  obtain ⟨quote, backslash, newline, carriage, tab, backspace, feed⟩ := long
  exact ⟨quote, backslash, newline, carriage, tab, fun same => backspace (Char.toNat_inj.mp same),
    fun same => feed (Char.toNat_inj.mp same)⟩

theorem read_plain (c : Char) (unescaped : Unescaped c) (printed : 32 ≤ c.toNat) (rest : List Char) :
    readChar (c :: rest) = some (c, rest) := by
  have plain : ¬ (c = '"' ∨ c.toNat < 32) := not_or.mpr ⟨unescaped.quote, Nat.not_lt.mpr printed⟩
  rw [readChar, if_neg unescaped.backslash, if_neg plain]

theorem read_escape_ascii (c : Char) (rest : List Char) : readChar (escapeAscii c ++ rest) = some (c, rest) := by
  by_cases short : c ∈ shortEscaped
  · exact (read_short_escape c short rest).2
  have unescaped := not_short_escaped c short
  rw [escapeAscii, if_neg unescaped.quote, if_neg unescaped.backslash, if_neg unescaped.newline,
    if_neg unescaped.carriage, if_neg unescaped.tab, if_neg unescaped.backspace, if_neg unescaped.feed]
  by_cases printed : 32 ≤ c.toNat ∧ c.toNat ≤ 126
  · rw [if_pos printed]
    exact read_plain c unescaped printed.1 rest
  rw [if_neg printed]
  by_cases small : c.toNat < 0x10000
  · rw [if_pos small]
    exact read_unicode_plane c small rest
  · rw [if_neg small]
    have valid := char_valid c
    exact read_unicode_pair _ _ c (by omega) (by omega) (by omega) rest

theorem read_escape_char (c : Char) (rest : List Char) : readChar (escapeChar c ++ rest) = some (c, rest) := by
  by_cases short : c ∈ shortEscaped
  · exact (read_short_escape c short rest).1
  have unescaped := not_short_escaped c short
  rw [escapeChar, if_neg unescaped.quote, if_neg unescaped.backslash, if_neg unescaped.newline,
    if_neg unescaped.carriage, if_neg unescaped.tab, if_neg unescaped.backspace, if_neg unescaped.feed]
  by_cases control : c.toNat < 32
  · have digits : ['\\', 'u', '0', '0', hexDigit (c.toNat / 16), hexDigit (c.toNat % 16)] =
        unicodeEscape c.toNat := by
      rw [unicodeEscape, show c.toNat / 4096 = 0 by omega, show c.toNat / 256 % 16 = 0 by omega,
        show c.toNat / 16 % 16 = c.toNat / 16 by omega]
      rfl
    rw [if_pos control, digits]
    exact read_unicode_plane c (by omega) rest
  · rw [if_neg control]
    exact read_plain c unescaped (by omega) rest

-- How json.dumps is asked to write: what follows a comma and a colon, and how
-- a character of a string is escaped.
structure JsonStyle where
  itemGap : List Char
  keyGap : List Char
  escape : Char → List Char
  itemBlank : ∀ c ∈ itemGap, c = ' '
  keyBlank : ∀ c ∈ keyGap, c = ' '
  escapeReads : ∀ c rest, readChar (escape c ++ rest) = some (c, rest)

-- separators=(",", ":"), ensure_ascii=False
def JsonStyle.compact : JsonStyle where
  itemGap := []
  keyGap := []
  escape := escapeChar
  itemBlank := by simp
  keyBlank := by simp
  escapeReads := read_escape_char

def JsonStyle.default : JsonStyle where
  itemGap := [' ']
  keyGap := [' ']
  escape := escapeAscii
  itemBlank := by simp
  keyBlank := by simp
  escapeReads := read_escape_ascii

def quoteText (style : JsonStyle) (text : String) : List Char :=
  '"' :: (text.toList.flatMap style.escape ++ ['"'])

mutual

def dumps (style : JsonStyle) (floatRepr : ℚ → String) : Json → List Char
  | .null => "null".toList
  | .bool value => if value then "true".toList else "false".toList
  | .int value => (toString value).toList
  | .float value => (floatRepr value).toList
  | .str text => quoteText style text
  | .arr items => '[' :: (dumpItems style floatRepr items ++ [']'])
  | .obj fields => '\x7b' :: (dumpFields style floatRepr fields ++ ['\x7d'])

def dumpItems (style : JsonStyle) (floatRepr : ℚ → String) : List Json → List Char
  | [] => []
  | item :: rest => dumps style floatRepr item ++
      if rest.isEmpty then [] else ',' :: (style.itemGap ++ dumpItems style floatRepr rest)

def dumpFields (style : JsonStyle) (floatRepr : ℚ → String) : List (String × Json) → List Char
  | [] => []
  | (key, value) :: rest => quoteText style key ++ ':' :: (style.keyGap ++ (dumps style floatRepr value ++
      if rest.isEmpty then [] else ',' :: (style.itemGap ++ dumpFields style floatRepr rest)))

end

def blank (c : Char) : Bool := c = ' ' || c = '\t' || c = '\n' || c = '\r'

def skipBlank (chars : List Char) : List Char := chars.dropWhile blank

def numberChar (c : Char) : Bool := c.isDigit || c = '-' || c = '+' || c = '.' || c = 'e' || c = 'E'
def floatMark (c : Char) : Bool := c = '.' || c = 'e' || c = 'E'

def jsonNat (digits : List Char) : Option Nat :=
  if digits = [] ∨ digits.all Char.isDigit = false ∨ (digits.head? = some '0' ∧ digits ≠ ['0']) then none
  else some (Nat.ofDigitChars 10 digits 0)

def jsonInt : List Char → Option Int
  | '-' :: digits => (jsonNat digits).map fun value => -(value : Int)
  | digits => (jsonNat digits).map Int.ofNat

-- The number that stands at the front. readFloat reads one with a fraction or
-- an exponent.
def readNumber (readFloat : List Char → Option ℚ) (chars : List Char) : Option (Json × List Char) :=
  let literal := chars.takeWhile numberChar
  let rest := chars.dropWhile numberChar
  if literal.any floatMark then (readFloat literal).map fun value => (.float value, rest)
  else (jsonInt literal).map fun value => (.int value, rest)

mutual

def readValue (readFloat : List Char → Option ℚ) : Nat → List Char → Option (Json × List Char)
  | 0, _ => none
  | fuel + 1, chars =>
      match chars with
      | '"' :: rest => do
          let (text, rest) ← readString (rest.length + 1) rest
          return (.str (String.ofList text), rest)
      | '[' :: rest =>
          if (skipBlank rest).head? = some ']' then some (.arr [], (skipBlank rest).tail)
          else do
            let (items, rest) ← readItems readFloat fuel (skipBlank rest)
            return (.arr items, rest)
      | '\x7b' :: rest =>
          if (skipBlank rest).head? = some '\x7d' then some (.obj [], (skipBlank rest).tail)
          else do
            let (fields, rest) ← readFields readFloat fuel (skipBlank rest)
            return (.obj fields, rest)
      | 'n' :: 'u' :: 'l' :: 'l' :: rest => some (.null, rest)
      | 't' :: 'r' :: 'u' :: 'e' :: rest => some (.bool true, rest)
      | 'f' :: 'a' :: 'l' :: 's' :: 'e' :: rest => some (.bool false, rest)
      | chars => readNumber readFloat chars

def readItems (readFloat : List Char → Option ℚ) : Nat → List Char → Option (List Json × List Char)
  | 0, _ => none
  | fuel + 1, chars => do
      let (item, rest) ← readValue readFloat fuel chars
      match skipBlank rest with
      | ',' :: rest => do
          let (items, rest) ← readItems readFloat fuel (skipBlank rest)
          return (item :: items, rest)
      | ']' :: rest => some ([item], rest)
      | _ => none

def readFields (readFloat : List Char → Option ℚ) : Nat → List Char → Option (List (String × Json) × List Char)
  | 0, _ => none
  | fuel + 1, chars =>
      match chars with
      | '"' :: rest => do
          let (key, rest) ← readString (rest.length + 1) rest
          match skipBlank rest with
          | ':' :: rest => do
              let (value, rest) ← readValue readFloat fuel (skipBlank rest)
              match skipBlank rest with
              | ',' :: rest => do
                  let (fields, rest) ← readFields readFloat fuel (skipBlank rest)
                  return ((String.ofList key, value) :: fields, rest)
              | '\x7d' :: rest => some ([(String.ofList key, value)], rest)
              | _ => none
          | _ => none
      | _ => none

end

-- d[key] = value
def dictSet (pairs : List (String × Json)) (pair : String × Json) : List (String × Json) :=
  if pair.1 ∈ pairs.map Prod.fst then pairs.map fun old => if old.1 = pair.1 then pair else old
  else pairs ++ [pair]

-- The dict a reader builds: the last value of a key, at its first place.
def dictOf (pairs : List (String × Json)) : List (String × Json) := pairs.foldl dictSet []

theorem lookup_entry {β : Type} (first key : String) (value : β) (rest : List (String × β)) :
    ((first, value) :: rest).lookup key = if key = first then some value else rest.lookup key := by
  by_cases here : key = first
  · simp [here]
  · simp [List.lookup_cons, here, beq_eq_false_iff_ne.mpr here]

theorem lookup_dict_replace (base : List (String × Json)) (own key : String) (value : Json) :
    (base.map fun old => if old.1 = own then (own, value) else old).lookup key =
      if key = own ∧ key ∈ base.map Prod.fst then some value else base.lookup key := by
  induction base with
  | nil => simp
  | cons head tail ih =>
      obtain ⟨first, old⟩ := head
      by_cases replaced : first = own
      · by_cases wanted : key = own
        · simp [replaced, wanted]
        · simpa [lookup_entry, replaced, wanted] using ih
      · by_cases here : key = first
        · simp [replaced, here]
        · simpa only [List.map_cons, if_neg replaced, lookup_entry, List.mem_cons, here, if_false, false_or] using ih

theorem lookup_dict_set (base : List (String × Json)) (own key : String) (value : Json) :
    (dictSet base (own, value)).lookup key = if key = own then some value else base.lookup key := by
  rw [dictSet]
  by_cases present : own ∈ base.map Prod.fst
  · rw [if_pos present, lookup_dict_replace]
    by_cases wanted : key = own
    · rw [if_pos ⟨wanted, wanted ▸ present⟩, if_pos wanted]
    · rw [if_neg fun both => wanted both.1, if_neg wanted]
  · rw [if_neg present, List.lookup_append, lookup_entry]
    by_cases wanted : key = own
    · subst wanted
      have absent : base.lookup key = none := by
        rw [List.lookup_eq_none_iff]
        intro old member
        rw [bne_iff_ne]
        intro same
        exact present (same ▸ List.mem_map_of_mem member)
      simp [absent]
    · simp [wanted]

theorem lookup_dict_update (base other : List (String × Json)) (key : String) :
    (other.foldl dictSet base).lookup key = ((dictOf other).lookup key).or (base.lookup key) := by
  rw [dictOf]
  induction other generalizing base with
  | nil => rfl
  | cons pair rest ih =>
      obtain ⟨own, value⟩ := pair
      rw [List.foldl_cons, List.foldl_cons, ih, ih (dictSet [] (own, value)), lookup_dict_set, lookup_dict_set,
        Option.or_assoc]
      by_cases wanted : key = own <;> simp [wanted]

-- d.pop(key, None)
def dictPop (key : String) (fields : List (String × Json)) : List (String × Json) :=
  fields.filter fun field => field.1 ≠ key

theorem lookup_dict_pop (removed key : String) (fields : List (String × Json)) (other : key ≠ removed) :
    (dictPop removed fields).lookup key = fields.lookup key := by
  induction fields with
  | nil => rfl
  | cons field rest ih =>
      obtain ⟨own, value⟩ := field
      rw [dictPop] at ih ⊢
      by_cases gone : own = removed
      · subst gone
        rw [List.filter_cons_of_neg (by simp), lookup_entry, if_neg other, ih]
      · rw [List.filter_cons_of_pos (by simpa using gone), lookup_entry, lookup_entry, ih]

mutual

def Json.dicts : Json → Json
  | .arr items => .arr (dictItems items)
  | .obj fields => .obj (dictOf (dictFields fields))
  | other => other

def dictItems : List Json → List Json
  | [] => []
  | item :: rest => item.dicts :: dictItems rest

def dictFields : List (String × Json) → List (String × Json)
  | [] => []
  | (key, value) :: rest => (key, value.dicts) :: dictFields rest

end

-- json.loads
def loads (readFloat : List Char → Option ℚ) (text : List Char) : Option Json :=
  match readValue readFloat (text.length + 1) (skipBlank text) with
  | none => none
  | some (value, rest) => if skipBlank rest = [] then some value.dicts else none

-- A value a Python program can hold: no dict in it has a key twice.
mutual

def Json.distinct : Json → Bool
  | .arr items => distinctItems items
  | .obj fields => decide (fields.map Prod.fst).Nodup && distinctFields fields
  | _ => true

def distinctItems : List Json → Bool
  | [] => true
  | item :: rest => item.distinct && distinctItems rest

def distinctFields : List (String × Json) → Bool
  | [] => true
  | (_, value) :: rest => value.distinct && distinctFields rest

end

-- The value with the keys of every dict in it sorted.
mutual

def Json.sorted : Json → Json
  | .arr items => .arr (sortedItems items)
  | .obj fields => .obj ((sortedFields fields).insertionSort fun a b => a.1 ≤ b.1)
  | other => other

def sortedItems : List Json → List Json
  | [] => []
  | item :: rest => item.sorted :: sortedItems rest

def sortedFields : List (String × Json) → List (String × Json)
  | [] => []
  | (key, value) :: rest => (key, value.sorted) :: sortedFields rest

end

end Vermyth
