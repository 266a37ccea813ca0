import Vermyth.Protocol.JsonText

set_option autoImplicit false

namespace Vermyth

theorem skip_blank_stop (c : Char) (rest : List Char) (solid : blank c = false) :
    skipBlank (c :: rest) = c :: rest := by
  rw [skipBlank, List.dropWhile_cons_of_neg (by simp [solid])]

theorem skip_blank_gap (gap rest : List Char) (spaces : ∀ c ∈ gap, c = ' ') :
    skipBlank (gap ++ rest) = skipBlank rest := by
  refine List.dropWhile_append_of_pos fun c member => ?_
  rw [spaces c member]
  rfl

theorem escape_nonempty (style : JsonStyle) (c : Char) : style.escape c ≠ [] := by
  intro empty
  have reads := style.escapeReads c []
  simp [empty, readChar] at reads

theorem escape_not_quote (style : JsonStyle) (c : Char) (rest : List Char) :
    (style.escape c ++ rest).head? ≠ some '"' := by
  intro quote
  have reads := style.escapeReads c rest
  cases chars : style.escape c ++ rest with
  | nil => simp [chars] at quote
  | cons head tail =>
      simp only [chars, List.head?_cons, Option.some.injEq] at quote
      simp [chars, quote, readChar] at reads

theorem escaped_length (style : JsonStyle) (text : List Char) : text.length ≤ (text.flatMap style.escape).length := by
  induction text with
  | nil => simp
  | cons c rest ih =>
      have some := List.length_pos_iff.mpr (escape_nonempty style c)
      simp only [List.flatMap_cons, List.length_append, List.length_cons]
      omega

theorem read_string (style : JsonStyle) (text rest : List Char) (fuel : Nat) (enough : text.length < fuel) :
    readString fuel (text.flatMap style.escape ++ '"' :: rest) = some (text, rest) := by
  induction text generalizing fuel with
  | nil =>
      obtain ⟨fuel, rfl⟩ := Nat.exists_eq_add_of_lt enough
      simp [readString]
  | cons c text ih =>
      cases fuel with
      | zero => simp at enough
      | succ fuel =>
          have notQuote := escape_not_quote style c (text.flatMap style.escape ++ '"' :: rest)
          have reads := style.escapeReads c (text.flatMap style.escape ++ '"' :: rest)
          have later := ih fuel (by simpa using enough)
          simp only [List.flatMap_cons, List.append_assoc, readString, if_neg notQuote, reads, later,
            Option.bind_eq_bind, Option.bind_some, Option.pure_def]

-- The scanner takes the text of a quoted string as fuel.
theorem read_quoted (style : JsonStyle) (text : String) (rest : List Char) :
    readString ((text.toList.flatMap style.escape ++ '"' :: rest).length + 1)
      (text.toList.flatMap style.escape ++ '"' :: rest) = some (text.toList, rest) := by
  refine read_string style text.toList rest _ ?_
  have bound := escaped_length style text.toList
  simp only [List.length_append]
  omega

def Stops (rest : List Char) : Prop := ∀ c ∈ rest.head?, numberChar c = false

theorem stops_cons (c : Char) (rest : List Char) (stop : numberChar c = false) : Stops (c :: rest) := by
  intro d head
  rw [← Option.mem_some.mp head]
  exact stop

theorem split_while (inside : Char → Bool) (front rest : List Char) (all : ∀ c ∈ front, inside c = true)
    (stops : ∀ c ∈ rest.head?, inside c = false) :
    (front ++ rest).takeWhile inside = front ∧ (front ++ rest).dropWhile inside = rest := by
  have nothing : rest.takeWhile inside = [] ∧ rest.dropWhile inside = rest := by
    cases rest with
    | nil => exact ⟨rfl, rfl⟩
    | cons c tail =>
        have stop : ¬ inside c = true := by simp [stops c rfl]
        exact ⟨List.takeWhile_cons_of_neg stop, List.dropWhile_cons_of_neg stop⟩
  rw [List.takeWhile_append_of_pos all, List.dropWhile_append_of_pos all, nothing.1, nothing.2]
  exact ⟨List.append_nil _, rfl⟩

theorem mark_not_digit (c : Char) (mark : floatMark c = true) : c.isDigit = false := by
  simp only [floatMark, Bool.or_eq_true, decide_eq_true_eq] at mark
  obtain (rfl | rfl) | rfl := mark <;> rfl

theorem digit_char_zero (n : Nat) (small : n < 10) (zero : Nat.digitChar n = '0') : n = 0 := by
  revert n
  decide

theorem digits_head (n : Nat) (zero : (Nat.toDigits 10 n).head? = some '0') : n = 0 := by
  induction n using Nat.strongRecOn with
  | ind n ih =>
      by_cases small : n < 10
      · rw [Nat.toDigits_of_lt_base small] at zero
        exact digit_char_zero n small (Option.some.inj zero)
      · rw [Nat.toDigits_of_base_le (by omega) (Nat.not_lt.mp small),
          List.head?_append_of_ne_nil _ Nat.toDigits_ne_nil] at zero
        have quotient := ih (n / 10) (by omega) zero
        omega

theorem json_nat_digits (n : Nat) : jsonNat (Nat.toDigits 10 n) = some n := by
  have digits : (Nat.toDigits 10 n).all Char.isDigit = true :=
    List.all_eq_true.mpr fun c member => Nat.isDigit_of_mem_toDigits (by omega) (by omega) member
  have wellFormed : ¬ (Nat.toDigits 10 n = [] ∨ (Nat.toDigits 10 n).all Char.isDigit = false ∨
      ((Nat.toDigits 10 n).head? = some '0' ∧ Nat.toDigits 10 n ≠ ['0'])) := by
    rintro (empty | notDigits | ⟨zero, more⟩)
    · exact Nat.toDigits_ne_nil empty
    · simp [digits] at notDigits
    · rw [digits_head n zero] at more
      exact more (Nat.toDigits_zero 10)
  rw [jsonNat, if_neg wellFormed, Nat.ofDigitChars_ten_toDigits]

theorem int_text (value : Int) : (toString value).toList =
    if 0 ≤ value then Nat.toDigits 10 value.toNat else '-' :: Nat.toDigits 10 (-value).toNat := by
  rw [Int.toString_eq_repr, Int.repr_eq_if]
  by_cases positive : 0 ≤ value
  · rw [if_pos positive, if_pos positive, Nat.toList_repr]
  · rw [if_neg positive, if_neg positive, String.toList_append, Nat.toList_repr]
    rfl

theorem json_int_text (value : Int) : jsonInt (toString value).toList = some value := by
  rw [int_text]
  by_cases positive : 0 ≤ value
  · rw [if_pos positive]
    have unsigned : ∀ digits, Nat.toDigits 10 value.toNat ≠ '-' :: digits := by
      intro digits signed
      have digit := Nat.isDigit_of_mem_toDigits (by omega) (Nat.le_refl 10)
        (show '-' ∈ Nat.toDigits 10 value.toNat by rw [signed]; exact List.mem_cons_self)
      simp at digit
    rw [jsonInt]
    · rw [json_nat_digits]
      simp [positive]
    · exact unsigned
  · rw [if_neg positive, jsonInt, json_nat_digits]
    show some (-(((-value).toNat : Nat) : Int)) = some value
    rw [show -(((-value).toNat : Nat) : Int) = value by omega]

theorem int_text_digits (value : Int) : ∀ c ∈ (toString value).toList, c.isDigit = true ∨ c = '-' := by
  intro c member
  rw [int_text] at member
  have digits : ∀ n, c ∈ Nat.toDigits 10 n → c.isDigit = true := fun n inside =>
    Nat.isDigit_of_mem_toDigits (by omega) (by omega) inside
  split at member
  · exact Or.inl (digits _ member)
  · obtain same | inside := List.mem_cons.mp member
    · exact Or.inr same
    · exact Or.inl (digits _ inside)

structure FloatText (floatRepr : ℚ → String) (readFloat : List Char → Option ℚ) : Prop where
  reads : ∀ value, readFloat (floatRepr value).toList = some value
  numeric : ∀ value, ∀ c ∈ (floatRepr value).toList, numberChar c = true
  marked : ∀ value, (floatRepr value).toList.any floatMark = true

variable {floatRepr : ℚ → String} {readFloat : List Char → Option ℚ}

theorem read_int (readFloat : List Char → Option ℚ) (value : Int) (rest : List Char) (stops : Stops rest) :
    readNumber readFloat ((toString value).toList ++ rest) = some (.int value, rest) := by
  have numeric : ∀ c ∈ (toString value).toList, numberChar c = true := by
    intro c member
    obtain digit | rfl := int_text_digits value c member
    · simp [numberChar, digit]
    · rfl
  have unmarked : (toString value).toList.any floatMark = false := by
    rw [List.any_eq_false]
    intro c member mark
    obtain digit | rfl := int_text_digits value c member
    · simp [mark_not_digit c mark] at digit
    · simp [floatMark] at mark
  obtain ⟨literal, remaining⟩ := split_while numberChar _ rest numeric stops
  simp only [readNumber, literal, remaining, unmarked, json_int_text, Bool.false_eq_true, if_false, Option.map_some]

theorem read_float (text : FloatText floatRepr readFloat) (value : ℚ) (rest : List Char) (stops : Stops rest) :
    readNumber readFloat ((floatRepr value).toList ++ rest) = some (.float value, rest) := by
  obtain ⟨literal, remaining⟩ := split_while numberChar _ rest (text.numeric value) stops
  simp only [readNumber, literal, remaining, text.marked value, text.reads value, if_true, Option.map_some]

theorem read_value_number (c : Char) (numeric : numberChar c = true) (rest : List Char) (fuel : Nat) :
    readValue readFloat (fuel + 1) (c :: rest) = readNumber readFloat (c :: rest) := by
  have other : ∀ d, numberChar d = false → c ≠ d := by
    intro d not same
    rw [same, not] at numeric
    cases numeric
  have notQuote := other '"' rfl
  have notArray := other '[' rfl
  have notObject := other '\x7b' rfl
  have notNull := other 'n' rfl
  have notTrue := other 't' rfl
  have notFalse := other 'f' rfl
  rw [readValue]
  all_goals simp_all

theorem number_solid (c : Char) (numeric : numberChar c = true) : blank c = false ∧ c ≠ ']' := by
  have other : ∀ d, numberChar d = false → c ≠ d := by
    intro d not same
    rw [same, not] at numeric
    cases numeric
  simp [blank, other ' ' rfl, other '\t' rfl, other '\n' rfl, other '\r' rfl, other ']' rfl]

theorem int_text_head (value : Int) : ∃ c rest, (toString value).toList = c :: rest ∧ numberChar c = true := by
  cases chars : (toString value).toList with
  | nil =>
      rw [int_text] at chars
      split at chars
      · exact absurd chars Nat.toDigits_ne_nil
      · cases chars
  | cons c rest =>
      obtain digit | rfl := int_text_digits value c (chars ▸ List.mem_cons_self)
      · exact ⟨c, rest, rfl, by simp [numberChar, digit]⟩
      · exact ⟨_, rest, rfl, rfl⟩

theorem float_text_head (text : FloatText floatRepr readFloat) (value : ℚ) :
    ∃ c rest, (floatRepr value).toList = c :: rest ∧ numberChar c = true := by
  have marked := text.marked value
  have numeric := text.numeric value
  cases chars : (floatRepr value).toList with
  | nil => simp [chars] at marked
  | cons c rest => exact ⟨c, rest, rfl, numeric c (chars ▸ List.mem_cons_self)⟩

-- A dump starts with no blank and with no closing bracket.
theorem dumps_head (style : JsonStyle) (text : FloatText floatRepr readFloat) (value : Json) :
    ∃ c rest, dumps style floatRepr value = c :: rest ∧ blank c = false ∧ c ≠ ']' := by
  cases value with
  | null => exact ⟨'n', "ull".toList, rfl, rfl, by decide⟩
  | bool value =>
      cases value with
      | true => exact ⟨'t', "rue".toList, rfl, rfl, by decide⟩
      | false => exact ⟨'f', "alse".toList, rfl, rfl, by decide⟩
  | int value =>
      obtain ⟨c, rest, chars, numeric⟩ := int_text_head value
      exact ⟨c, rest, by rw [dumps, chars], number_solid c numeric⟩
  | float value =>
      obtain ⟨c, rest, chars, numeric⟩ := float_text_head text value
      exact ⟨c, rest, by rw [dumps, chars], number_solid c numeric⟩
  | str value => exact ⟨'"', _, by rw [dumps, quoteText], rfl, by decide⟩
  | arr items => exact ⟨'[', _, by rw [dumps], rfl, by decide⟩
  | obj fields => exact ⟨'\x7b', _, by rw [dumps], rfl, by decide⟩

theorem dump_items_head (style : JsonStyle) (text : FloatText floatRepr readFloat) (item : Json) (items : List Json)
    (tail : List Char) : skipBlank (dumpItems style floatRepr (item :: items) ++ tail) =
      dumpItems style floatRepr (item :: items) ++ tail ∧
        (dumpItems style floatRepr (item :: items) ++ tail).head? ≠ some ']' := by
  obtain ⟨c, rest, chars, solid, notClose⟩ := dumps_head style text item
  rw [dumpItems, chars]
  simp only [List.cons_append]
  exact ⟨skip_blank_stop c _ solid, by simpa using notClose⟩

theorem dump_fields_head (style : JsonStyle) (floatRepr : ℚ → String) (field : String × Json)
    (fields : List (String × Json)) (tail : List Char) :
    skipBlank (dumpFields style floatRepr (field :: fields) ++ tail) =
      dumpFields style floatRepr (field :: fields) ++ tail ∧
        (dumpFields style floatRepr (field :: fields) ++ tail).head? ≠ some '\x7d' := by
  obtain ⟨key, value⟩ := field
  rw [dumpFields, quoteText]
  simp only [List.cons_append]
  exact ⟨skip_blank_stop '"' _ rfl, by simp⟩

theorem dump_items_more (style : JsonStyle) (floatRepr : ℚ → String) (item next : Json) (rest : List Json) :
    dumpItems style floatRepr (item :: next :: rest) = dumps style floatRepr item ++
      ',' :: (style.itemGap ++ dumpItems style floatRepr (next :: rest)) := by
  rw [dumpItems]
  rfl

theorem dump_fields_more (style : JsonStyle) (floatRepr : ℚ → String) (field next : String × Json)
    (rest : List (String × Json)) : dumpFields style floatRepr (field :: next :: rest) =
      quoteText style field.1 ++ ':' :: (style.keyGap ++ (dumps style floatRepr field.2 ++
        ',' :: (style.itemGap ++ dumpFields style floatRepr (next :: rest)))) := by
  rw [dumpFields]
  rfl

structure Reads (style : JsonStyle) (floatRepr : ℚ → String) (readFloat : List Char → Option ℚ) (fuel : Nat) :
    Prop where
  value : ∀ (value : Json) (rest : List Char), Stops rest → (dumps style floatRepr value).length < fuel →
    readValue readFloat fuel (dumps style floatRepr value ++ rest) = some (value, rest)
  items : ∀ (item : Json) (items : List Json) (rest : List Char),
    (dumpItems style floatRepr (item :: items)).length + 1 < fuel →
    readItems readFloat fuel (dumpItems style floatRepr (item :: items) ++ ']' :: rest) = some (item :: items, rest)
  fields : ∀ (field : String × Json) (fields : List (String × Json)) (rest : List Char),
    (dumpFields style floatRepr (field :: fields)).length + 1 < fuel →
    readFields readFloat fuel (dumpFields style floatRepr (field :: fields) ++ '\x7d' :: rest) =
      some (field :: fields, rest)

section Step

variable (style : JsonStyle) (text : FloatText floatRepr readFloat) (fuel : Nat)
  (reads : Reads style floatRepr readFloat fuel)
include text reads

theorem read_value_step (value : Json) (rest : List Char) (stops : Stops rest)
    (enough : (dumps style floatRepr value).length < fuel + 1) :
    readValue readFloat (fuel + 1) (dumps style floatRepr value ++ rest) = some (value, rest) := by
  cases value with
  | null => rfl
  | bool value => cases value <;> rfl
  | int value =>
      obtain ⟨c, more, chars, numeric⟩ := int_text_head value
      have number := read_int readFloat value rest stops
      rw [dumps]
      rw [chars] at number ⊢
      exact (read_value_number c numeric _ fuel).trans number
  | float value =>
      obtain ⟨c, more, chars, numeric⟩ := float_text_head text value
      have number := read_float text value rest stops
      rw [dumps]
      rw [chars] at number ⊢
      exact (read_value_number c numeric _ fuel).trans number
  | str value =>
      have quoted := read_quoted style value rest
      simp only [dumps, quoteText, List.cons_append, List.append_assoc, List.nil_append, readValue, quoted,
        Option.bind_eq_bind, Option.bind_some, Option.pure_def, String.ofList_toList]
  | arr items =>
      simp only [dumps, List.length_cons, List.length_append, List.length_nil] at enough
      cases items with
      | nil => simp [dumps, dumpItems, readValue, skipBlank, blank]
      | cons item items =>
          obtain ⟨start, notClose⟩ := dump_items_head style text item items (']' :: rest)
          have inner := reads.items item items rest (by omega)
          simp only [dumps, List.cons_append, List.append_assoc, List.nil_append, readValue, start, if_neg notClose,
            inner, Option.bind_eq_bind, Option.bind_some, Option.pure_def]
  | obj fields =>
      simp only [dumps, List.length_cons, List.length_append, List.length_nil] at enough
      cases fields with
      | nil => simp [dumps, dumpFields, readValue, skipBlank, blank]
      | cons field fields =>
          obtain ⟨start, notClose⟩ := dump_fields_head style floatRepr field fields ('\x7d' :: rest)
          have inner := reads.fields field fields rest (by omega)
          simp only [dumps, List.cons_append, List.append_assoc, List.nil_append, readValue, start, if_neg notClose,
            inner, Option.bind_eq_bind, Option.bind_some, Option.pure_def]

theorem read_items_step (item : Json) (items : List Json) (rest : List Char)
    (enough : (dumpItems style floatRepr (item :: items)).length + 1 < fuel + 1) :
    readItems readFloat (fuel + 1) (dumpItems style floatRepr (item :: items) ++ ']' :: rest) =
      some (item :: items, rest) := by
  simp only [dumpItems, List.length_append] at enough
  cases items with
  | nil =>
      have first := reads.value item (']' :: rest) (stops_cons ']' rest rfl) (by omega)
      simp only [dumpItems, List.isEmpty_nil, if_true, List.append_nil, readItems, first, Option.bind_eq_bind,
        Option.bind_some, skip_blank_stop ']' rest rfl]
  | cons next items =>
      simp only [List.isEmpty_cons, Bool.false_eq_true, if_false, List.length_cons, List.length_append] at enough
      have first := reads.value item
        (',' :: (style.itemGap ++ (dumpItems style floatRepr (next :: items) ++ ']' :: rest)))
        (stops_cons ',' _ rfl) (by omega)
      have start := (dump_items_head style text next items (']' :: rest)).1
      have later := reads.items next items rest (by omega)
      simp only [dump_items_more, List.append_assoc, List.cons_append, readItems, first, Option.bind_eq_bind,
        Option.bind_some, skip_blank_stop ',' _ rfl, skip_blank_gap style.itemGap _ style.itemBlank, start, later,
        Option.pure_def]

theorem read_fields_step (field : String × Json) (fields : List (String × Json)) (rest : List Char)
    (enough : (dumpFields style floatRepr (field :: fields)).length + 1 < fuel + 1) :
    readFields readFloat (fuel + 1) (dumpFields style floatRepr (field :: fields) ++ '\x7d' :: rest) =
      some (field :: fields, rest) := by
  obtain ⟨key, value⟩ := field
  simp only [dumpFields, List.length_append, List.length_cons] at enough
  obtain ⟨c, more, chars, solid, -⟩ := dumps_head style text value
  have valueStart : ∀ tail, skipBlank (dumps style floatRepr value ++ tail) =
      dumps style floatRepr value ++ tail := by
    intro tail
    rw [chars]
    exact skip_blank_stop c _ solid
  cases fields with
  | nil =>
      have first := reads.value value ('\x7d' :: rest) (stops_cons '\x7d' rest rfl) (by omega)
      have quoted := read_quoted style key
        (':' :: (style.keyGap ++ (dumps style floatRepr value ++ '\x7d' :: rest)))
      simp only [dumpFields, quoteText, List.isEmpty_nil, if_true, List.append_nil, List.cons_append,
        List.append_assoc, List.nil_append, readFields, quoted, Option.bind_eq_bind, Option.bind_some,
        skip_blank_stop ':' _ rfl, skip_blank_gap style.keyGap _ style.keyBlank, valueStart, first,
        skip_blank_stop '\x7d' _ rfl, String.ofList_toList]
  | cons next fields =>
      simp only [List.isEmpty_cons, Bool.false_eq_true, if_false, List.length_cons, List.length_append] at enough
      have first := reads.value value
        (',' :: (style.itemGap ++ (dumpFields style floatRepr (next :: fields) ++ '\x7d' :: rest)))
        (stops_cons ',' _ rfl) (by omega)
      have quoted := read_quoted style key (':' :: (style.keyGap ++ (dumps style floatRepr value ++
        ',' :: (style.itemGap ++ (dumpFields style floatRepr (next :: fields) ++ '\x7d' :: rest)))))
      have start := (dump_fields_head style floatRepr next fields ('\x7d' :: rest)).1
      have later := reads.fields next fields rest (by omega)
      simp only [dump_fields_more, quoteText, List.append_assoc, List.cons_append, List.nil_append, readFields,
        quoted, Option.bind_eq_bind, Option.bind_some, skip_blank_stop ':' _ rfl,
        skip_blank_gap style.keyGap _ style.keyBlank, valueStart, first, skip_blank_stop ',' _ rfl,
        skip_blank_gap style.itemGap _ style.itemBlank, start, later, Option.pure_def, String.ofList_toList]

end Step

-- The reader spends one of its fuel on a value, an item or a field, and each
-- of these writes a character of its own.
theorem reads_dumps (style : JsonStyle) (text : FloatText floatRepr readFloat) (fuel : Nat) :
    Reads style floatRepr readFloat fuel := by
  induction fuel with
  | zero => exact ⟨by simp, by simp, by simp⟩
  | succ fuel ih => exact ⟨read_value_step style text fuel ih, read_items_step style text fuel ih,
      read_fields_step style text fuel ih⟩

theorem dumps_reads (style : JsonStyle) (text : FloatText floatRepr readFloat) (value : Json) :
    readValue readFloat ((dumps style floatRepr value).length + 1) (skipBlank (dumps style floatRepr value)) =
      some (value, []) := by
  obtain ⟨c, rest, chars, solid, -⟩ := dumps_head style text value
  have start : skipBlank (dumps style floatRepr value) = dumps style floatRepr value := by
    rw [chars]
    exact skip_blank_stop c rest solid
  have read := (reads_dumps style text ((dumps style floatRepr value).length + 1)).value value [] (by simp [Stops])
    (Nat.lt_succ_self _)
  rw [List.append_nil] at read
  rw [start, read]

theorem dumps_injective (style : JsonStyle) (text : FloatText floatRepr readFloat) (value other : Json)
    (same : dumps style floatRepr value = dumps style floatRepr other) : value = other := by
  have read := dumps_reads style text value
  rw [same, dumps_reads style text other, Option.some.injEq, Prod.mk.injEq] at read
  exact read.1.symm

theorem dict_of_append (done pairs : List (String × Json)) (nodup : ((done ++ pairs).map Prod.fst).Nodup) :
    pairs.foldl dictSet done = done ++ pairs := by
  induction pairs generalizing done with
  | nil => simp
  | cons pair pairs ih =>
      have fresh : pair.1 ∉ done.map Prod.fst := by
        intro taken
        rw [List.map_append, List.nodup_append] at nodup
        exact nodup.2.2 pair.1 taken pair.1 (by simp) rfl
      rw [List.foldl_cons, dictSet, if_neg fresh, ih (done ++ [pair]) (by simpa using nodup)]
      simp

mutual

theorem dicts_distinct : ∀ value : Json, value.distinct = true → value.dicts = value
  | .null, _ => rfl
  | .bool _, _ => rfl
  | .int _, _ => rfl
  | .float _, _ => rfl
  | .str _, _ => rfl
  | .arr items, ok => by
      rw [Json.dicts, dict_items_distinct items (by simpa only [Json.distinct] using ok)]
  | .obj fields, ok => by
      simp only [Json.distinct, Bool.and_eq_true, decide_eq_true_eq] at ok
      rw [Json.dicts, dict_fields_distinct fields ok.2, dictOf, dict_of_append [] fields (by simpa using ok.1)]
      rfl

theorem dict_items_distinct : ∀ items : List Json, distinctItems items = true → dictItems items = items
  | [], _ => rfl
  | item :: rest, ok => by
      simp only [distinctItems, Bool.and_eq_true] at ok
      rw [dictItems, dicts_distinct item ok.1, dict_items_distinct rest ok.2]

theorem dict_fields_distinct : ∀ fields : List (String × Json), distinctFields fields = true →
    dictFields fields = fields
  | [], _ => rfl
  | (key, value) :: rest, ok => by
      simp only [distinctFields, Bool.and_eq_true] at ok
      rw [dictFields, dicts_distinct value ok.1, dict_fields_distinct rest ok.2]

end

theorem loads_dumps (style : JsonStyle) (text : FloatText floatRepr readFloat) (value : Json)
    (distinct : value.distinct = true) : loads readFloat (dumps style floatRepr value) = some value := by
  simp only [loads, dumps_reads style text value, dicts_distinct value distinct]
  rfl

def sortedField (field : String × Json) : String × Json := (field.1, field.2.sorted)
def canonicalField (floatRepr : ℚ → String) (field : String × Json) : String × String :=
  (field.1, canonicalJson floatRepr field.2)

theorem sorted_fields_map (fields : List (String × Json)) : sortedFields fields = fields.map sortedField := by
  induction fields with
  | nil => rfl
  | cons field rest ih =>
      obtain ⟨key, value⟩ := field
      rw [sortedFields, ih]
      rfl

theorem canonical_fields_map (floatRepr : ℚ → String) (fields : List (String × Json)) :
    canonicalFields floatRepr fields = fields.map (canonicalField floatRepr) := by
  induction fields with
  | nil => rfl
  | cons field rest ih =>
      obtain ⟨key, value⟩ := field
      rw [canonicalFields, ih]
      rfl

theorem quoted_text (text : String) : (quoted text).toList = quoteText .compact text := by
  simp only [quoted, String.toList_append, String.toList_ofList, quoteText, JsonStyle.compact]
  rfl

@[simp] theorem compact_item_gap : JsonStyle.compact.itemGap = [] := rfl
@[simp] theorem compact_key_gap : JsonStyle.compact.keyGap = [] := rfl

def CanonicalDump (floatRepr : ℚ → String) (value : Json) : Prop :=
  (canonicalJson floatRepr value).toList = dumps .compact floatRepr value.sorted

theorem canonical_items_dump (floatRepr : ℚ → String) (items : List Json)
    (each : ∀ item ∈ items, CanonicalDump floatRepr item) :
    (",".intercalate (canonicalItems floatRepr items)).toList = dumpItems .compact floatRepr (sortedItems items) := by
  induction items with
  | nil => rfl
  | cons item rest ih =>
      have later := ih fun other member => each other (List.mem_cons_of_mem item member)
      have first : (canonicalJson floatRepr item).toList = dumps .compact floatRepr item.sorted :=
        each item List.mem_cons_self
      cases rest with
      | nil => simp [canonicalItems, sortedItems, dumpItems, first]
      | cons next rest =>
          simp only [canonicalItems, sortedItems, String.intercalate_cons_cons, String.toList_append, first,
            dumpItems, List.isEmpty_cons, Bool.false_eq_true, if_false] at later ⊢
          rw [later]
          simp

theorem canonical_fields_dump (floatRepr : ℚ → String) (fields : List (String × Json))
    (each : ∀ field ∈ fields, CanonicalDump floatRepr field.2) :
    (",".intercalate ((fields.map (canonicalField floatRepr)).map renderField)).toList =
      dumpFields .compact floatRepr (fields.map sortedField) := by
  induction fields with
  | nil => rfl
  | cons field rest ih =>
      have later := ih fun other member => each other (List.mem_cons_of_mem field member)
      have first : (canonicalJson floatRepr field.2).toList = dumps .compact floatRepr field.2.sorted :=
        each field List.mem_cons_self
      have rendered : (renderField (canonicalField floatRepr field)).toList =
          quoteText .compact field.1 ++ ':' :: dumps .compact floatRepr field.2.sorted := by
        simp only [renderField, canonicalField, String.toList_append, quoted_text, first]
        simp
      cases rest with
      | nil => simp [dumpFields, sortedField, rendered]
      | cons next rest =>
          simp only [List.map_cons, String.intercalate_cons_cons, String.toList_append] at later ⊢
          rw [later, rendered, dump_fields_more]
          simp [sortedField]

theorem sort_canonical_fields (floatRepr : ℚ → String) (fields : List (String × Json)) :
    sortKeys (canonicalFields floatRepr fields) =
      (fields.insertionSort fun a b => a.1 ≤ b.1).map (canonicalField floatRepr) := by
  rw [sortKeys, canonical_fields_map]
  exact (List.map_insertionSort (fun a b : String × Json => a.1 ≤ b.1) (fun a b : String × String => a.1 ≤ b.1)
    (canonicalField floatRepr) fields fun a _ b _ => Iff.rfl).symm

theorem sort_sorted_fields (fields : List (String × Json)) :
    (sortedFields fields).insertionSort (fun a b => a.1 ≤ b.1) =
      (fields.insertionSort fun a b => a.1 ≤ b.1).map sortedField := by
  rw [sorted_fields_map]
  exact (List.map_insertionSort (fun a b : String × Json => a.1 ≤ b.1) (fun a b : String × Json => a.1 ≤ b.1)
    sortedField fields fun a _ b _ => Iff.rfl).symm

mutual

theorem canonical_dump (floatRepr : ℚ → String) : ∀ value : Json, CanonicalDump floatRepr value
  | .null => rfl
  | .bool value => by cases value <;> rfl
  | .int _ => rfl
  | .float _ => rfl
  | .str text => quoted_text text
  | .arr items => by
      have inner := canonical_items_dump floatRepr items (canonical_dump_items floatRepr items)
      simp only [CanonicalDump, canonicalJson, String.toList_append, inner, Json.sorted, dumps]
      rfl
  | .obj fields => by
      have sorted := canonical_fields_dump floatRepr (fields.insertionSort fun a b => a.1 ≤ b.1) fun field member =>
        canonical_dump_fields floatRepr fields field ((List.mem_insertionSort _).mp member)
      simp only [CanonicalDump, canonicalJson, String.toList_append, sort_canonical_fields, sorted, Json.sorted,
        sort_sorted_fields, dumps]
      rfl

theorem canonical_dump_items (floatRepr : ℚ → String) : ∀ items : List Json, ∀ item ∈ items,
    CanonicalDump floatRepr item
  | [], _, member => absurd member List.not_mem_nil
  | head :: rest, item, member => by
      obtain same | later := List.mem_cons.mp member
      · exact same ▸ canonical_dump floatRepr head
      · exact canonical_dump_items floatRepr rest item later

theorem canonical_dump_fields (floatRepr : ℚ → String) : ∀ fields : List (String × Json), ∀ field ∈ fields,
    CanonicalDump floatRepr field.2
  | [], _, member => absurd member List.not_mem_nil
  | (key, value) :: rest, field, member => by
      obtain same | later := List.mem_cons.mp member
      · exact same ▸ canonical_dump floatRepr value
      · exact canonical_dump_fields floatRepr rest field later

end

theorem canonical_injective (text : FloatText floatRepr readFloat) (value other : Json)
    (same : canonicalJson floatRepr value = canonicalJson floatRepr other) : value.sorted = other.sorted := by
  have chars := congrArg String.toList same
  rw [canonical_dump floatRepr value, canonical_dump floatRepr other] at chars
  exact dumps_injective .compact text value.sorted other.sorted chars

-- Floats as Python prints integral ones; the others in a form of their own.
def plainFloat (value : ℚ) : String :=
  toString value.num ++ if value.den = 1 then ".0" else ".0e" ++ toString value.den

def readPlainFloat (chars : List Char) : Option ℚ :=
  match jsonInt (chars.takeWhile (· ≠ '.')), chars.dropWhile (· ≠ '.') with
  | some whole, ['.', '0'] => some whole
  | some whole, '.' :: '0' :: 'e' :: digits => (jsonNat digits).map fun den : Nat => (whole : ℚ) / (den : ℚ)
  | _, _ => none

theorem plain_float_chars (value : ℚ) : (plainFloat value).toList = (toString value.num).toList ++
    if value.den = 1 then ['.', '0'] else '.' :: '0' :: 'e' :: Nat.toDigits 10 value.den := by
  rw [plainFloat, String.toList_append]
  by_cases integral : value.den = 1
  · rw [if_pos integral, if_pos integral]
    rfl
  · rw [if_neg integral, if_neg integral, String.toList_append, Nat.toString_eq_repr, Nat.toList_repr]
    rfl

theorem plain_float_text : FloatText plainFloat readPlainFloat where
  reads := by
    intro value
    have whole : ∀ c ∈ (toString value.num).toList, decide (c ≠ '.') = true := by
      intro c member
      obtain digit | rfl := int_text_digits value.num c member
      · rw [decide_eq_true_eq]
        intro dot
        rw [dot] at digit
        cases digit
      · rfl
    have split := fun tail => split_while (· ≠ '.') (toString value.num).toList ('.' :: tail) whole (by simp)
    rw [readPlainFloat, plain_float_chars]
    by_cases integral : value.den = 1
    · rw [if_pos integral, (split _).1, (split _).2, json_int_text]
      exact congrArg some (Rat.coe_int_num_of_den_eq_one integral)
    · rw [if_neg integral, (split _).1, (split _).2, json_int_text]
      have fraction : (value.num : ℚ) / (value.den : ℚ) = value := by
        have divided := Rat.num_divInt_den value
        rw [Rat.divInt_eq_div] at divided
        exact_mod_cast divided
      simp only [json_nat_digits, Option.map_some, fraction]
  numeric := by
    intro value c member
    have digits : ∀ n, c ∈ Nat.toDigits 10 n → numberChar c = true := by
      intro n inside
      simp [numberChar, Nat.isDigit_of_mem_toDigits (by omega) (Nat.le_refl 10) inside]
    rw [plain_float_chars, List.mem_append] at member
    obtain whole | tail := member
    · obtain digit | rfl := int_text_digits value.num c whole
      · simp [numberChar, digit]
      · rfl
    · by_cases integral : value.den = 1
      · rw [if_pos integral] at tail
        simp only [List.mem_cons, List.not_mem_nil, or_false] at tail
        obtain rfl | rfl := tail <;> rfl
      · rw [if_neg integral] at tail
        simp only [List.mem_cons] at tail
        obtain rfl | rfl | rfl | inside := tail
        · rfl
        · rfl
        · rfl
        · exact digits value.den inside
  marked := by
    intro value
    rw [plain_float_chars, List.any_append]
    by_cases integral : value.den = 1
    · simp [integral, floatMark]
    · simp [integral, floatMark]

end Vermyth
