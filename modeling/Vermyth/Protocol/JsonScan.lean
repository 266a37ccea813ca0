import Vermyth.Protocol.JsonRoundTrip

set_option autoImplicit false

namespace Vermyth

inductive Spot where
  | outside
  | inside
  | escaped
  | colon
deriving DecidableEq

-- As json.dumps writes it, no backslash stands off the strings, and a blank
-- follows a colon there.
def Spot.next : Spot → Char → Option Spot
  | .outside, c =>
      if c = '"' then some .inside else if c = '\\' then none else if c = ':' then some .colon else some .outside
  | .inside, c => if c = '"' then some .outside else if c = '\\' then some .escaped else some .inside
  | .escaped, _ => some .inside
  | .colon, c => if c = ' ' then some .outside else none

def scan : Spot → List Char → Option Spot
  | spot, [] => some spot
  | spot, c :: rest => (spot.next c).bind fun after => scan after rest

theorem scan_append (spot : Spot) (front rest : List Char) :
    scan spot (front ++ rest) = (scan spot front).bind fun after => scan after rest := by
  induction front generalizing spot with
  | nil => rfl
  | cons c front ih =>
      rw [List.cons_append, scan, scan]
      cases spot.next c with
      | none => rfl
      | some after => exact ih after

theorem scan_through (spot after : Spot) (front rest : List Char) (reached : scan spot front = some after) :
    scan spot (front ++ rest) = scan after rest := by
  rw [scan_append, reached, Option.bind_some]

theorem scan_front (spot last : Spot) (front rest : List Char) (ends : scan spot (front ++ rest) = some last) :
    ∃ after, scan spot front = some after ∧ scan after rest = some last := by
  rw [scan_append] at ends
  exact Option.bind_eq_some_iff.mp ends

def Flat (c : Char) : Prop := c ≠ '"' ∧ c ≠ '\\' ∧ c ≠ ':'

theorem scan_flat (chars : List Char) (flat : ∀ c ∈ chars, Flat c) : scan .outside chars = some .outside := by
  induction chars with
  | nil => rfl
  | cons c rest ih =>
      obtain ⟨⟨quote, backslash, colon⟩, later⟩ := List.forall_mem_cons.mp flat
      rw [scan, Spot.next, if_neg quote, if_neg backslash, if_neg colon]
      exact ih later

theorem number_flat (c : Char) (numeric : numberChar c = true) : Flat c := by
  refine ⟨?_, ?_, ?_⟩ <;> rintro rfl <;> simp [numberChar, Char.isDigit] at numeric

def Spot.Opposed (a b : Spot) : Prop :=
  ((a = .outside ∨ a = .colon) ∧ b = .inside) ∨ (a = .inside ∧ (b = .outside ∨ b = .colon))

theorem Spot.Opposed.symm {a b : Spot} (opposed : a.Opposed b) : b.Opposed a := by
  obtain ⟨out, inside⟩ | ⟨inside, out⟩ := opposed
  · exact Or.inr ⟨inside, out⟩
  · exact Or.inl ⟨out, inside⟩

theorem next_opposed (a b : Spot) (c : Char) (out : a = .outside ∨ a = .colon) (inside : b = .inside)
    (afterA afterB : Spot) (nextA : a.next c = some afterA) (nextB : b.next c = some afterB) :
    afterA.Opposed afterB := by
  subst inside
  obtain rfl | rfl := out
  · by_cases quote : c = '"'
    · simp only [Spot.next, if_pos quote, Option.some.injEq] at nextA nextB
      exact Or.inr ⟨nextA.symm, Or.inl nextB.symm⟩
    · by_cases backslash : c = '\\'
      · simp [Spot.next, backslash] at nextA
      · by_cases colon : c = ':'
        · simp only [Spot.next, if_neg quote, if_neg backslash, if_pos colon, Option.some.injEq] at nextA nextB
          exact Or.inl ⟨Or.inr nextA.symm, nextB.symm⟩
        · simp only [Spot.next, if_neg quote, if_neg backslash, if_neg colon, Option.some.injEq] at nextA nextB
          exact Or.inl ⟨Or.inl nextA.symm, nextB.symm⟩
  · by_cases space : c = ' '
    · subst space
      simp [Spot.next] at nextA nextB
      exact Or.inl ⟨Or.inl nextA.symm, nextB.symm⟩
    · simp [Spot.next, space] at nextA

theorem scan_opposed (chars : List Char) (a b lastA lastB : Spot) (opposed : a.Opposed b)
    (endsA : scan a chars = some lastA) (endsB : scan b chars = some lastB) : lastA.Opposed lastB := by
  induction chars generalizing a b with
  | nil =>
      obtain rfl := Option.some.inj endsA
      obtain rfl := Option.some.inj endsB
      exact opposed
  | cons c rest ih =>
      obtain ⟨afterA, nextA, endsA⟩ := Option.bind_eq_some_iff.mp endsA
      obtain ⟨afterB, nextB, endsB⟩ := Option.bind_eq_some_iff.mp endsB
      refine ih afterA afterB ?_ endsA endsB
      obtain ⟨out, inside⟩ | ⟨inside, out⟩ := opposed
      · exact next_opposed a b c out inside afterA afterB nextA nextB
      · exact (next_opposed b a c out inside afterB afterA nextB nextA).symm

theorem not_both_closed (chars : List Char) (closed : scan .outside chars = some .outside) :
    scan .inside chars ≠ some .outside := by
  intro inner
  obtain ⟨-, isInside⟩ | ⟨isInside, -⟩ :=
    scan_opposed chars .outside .inside _ _ (Or.inl ⟨Or.inl rfl, rfl⟩) closed inner
  · contradiction
  · contradiction

theorem hex_digit_inside (n : Nat) (small : n < 16) : Spot.inside.next (hexDigit n) = some .inside := by
  revert n
  decide

theorem scan_unicode (n : Nat) (small : n < 0x10000) : scan .inside (unicodeEscape n) = some .inside := by
  have first := hex_digit_inside (n / 4096) (by omega)
  have second := hex_digit_inside (n / 256 % 16) (by omega)
  have third := hex_digit_inside (n / 16 % 16) (by omega)
  have fourth := hex_digit_inside (n % 16) (by omega)
  change scan .inside [hexDigit (n / 4096), hexDigit (n / 256 % 16), hexDigit (n / 16 % 16), hexDigit (n % 16)] = _
  simp only [scan, first, second, third, fourth, Option.bind_some]

theorem scan_escape (c : Char) : scan .inside (escapeAscii c) = some .inside := by
  by_cases short : c ∈ shortEscaped
  · simp only [shortEscaped, List.mem_cons, List.not_mem_nil, or_false] at short
    obtain rfl | rfl | rfl | rfl | rfl | rfl | rfl := short <;> rfl
  have unescaped := not_short_escaped c short
  rw [escapeAscii, if_neg unescaped.quote, if_neg unescaped.backslash, if_neg unescaped.newline,
    if_neg unescaped.carriage, if_neg unescaped.tab, if_neg unescaped.backspace, if_neg unescaped.feed]
  by_cases printed : 32 ≤ c.toNat ∧ c.toNat ≤ 126
  · rw [if_pos printed, scan, Spot.next, if_neg unescaped.quote, if_neg unescaped.backslash]
    rfl
  rw [if_neg printed]
  by_cases small : c.toNat < 0x10000
  · rw [if_pos small]
    exact scan_unicode c.toNat small
  · rw [if_neg small]
    have valid := char_valid c
    rw [scan_through _ _ _ _ (scan_unicode _ (by omega))]
    exact scan_unicode _ (by omega)

theorem scan_quoted (text : String) : scan .outside (quoteText .default text) = some .outside := by
  have body : ∀ chars : List Char, scan .inside (chars.flatMap escapeAscii ++ ['"']) = some .outside := by
    intro chars
    induction chars with
    | nil => rfl
    | cons c rest ih =>
        rw [List.flatMap_cons, List.append_assoc, scan_through _ _ _ _ (scan_escape c)]
        exact ih
  exact body text.toList

section Dumps

variable {floatRepr : ℚ → String} {readFloat : List Char → Option ℚ}

theorem int_flat (value : Int) : ∀ c ∈ (toString value).toList, Flat c := by
  intro c member
  refine number_flat c ?_
  obtain digit | rfl := int_text_digits value c member
  · simp [numberChar, digit]
  · rfl

mutual

theorem scan_dump (text : FloatText floatRepr readFloat) :
    ∀ value : Json, scan .outside (dumps .default floatRepr value) = some .outside
  | .null => by rw [dumps]; rfl
  | .bool value => by cases value <;> (rw [dumps]; rfl)
  | .int value => by
      rw [dumps]
      exact scan_flat _ (int_flat value)
  | .float value => by
      rw [dumps]
      exact scan_flat _ fun c member => number_flat c (text.numeric value c member)
  | .str own => by
      rw [dumps]
      exact scan_quoted own
  | .arr items => by
      rw [dumps]
      change scan .outside (dumpItems .default floatRepr items ++ [']']) = _
      rw [scan_through _ _ _ _ (scan_dump_items text items)]
      rfl
  | .obj fields => by
      rw [dumps]
      change scan .outside (dumpFields .default floatRepr fields ++ ['\x7d']) = _
      rw [scan_through _ _ _ _ (scan_dump_fields text fields)]
      rfl

theorem scan_dump_items (text : FloatText floatRepr readFloat) :
    ∀ items : List Json, scan .outside (dumpItems .default floatRepr items) = some .outside
  | [] => by rw [dumpItems]; rfl
  | item :: rest => by
      rw [dumpItems, scan_through _ _ _ _ (scan_dump text item)]
      split_ifs
      · rfl
      · exact scan_dump_items text rest

theorem scan_dump_fields (text : FloatText floatRepr readFloat) :
    ∀ fields : List (String × Json), scan .outside (dumpFields .default floatRepr fields) = some .outside
  | [] => by rw [dumpFields]; rfl
  | (key, value) :: rest => by
      rw [dumpFields, scan_through _ _ _ _ (scan_quoted key)]
      change scan .outside (dumps .default floatRepr value ++ _) = _
      rw [scan_through _ _ _ _ (scan_dump text value)]
      split_ifs
      · rfl
      · exact scan_dump_fields text rest

end

theorem no_value_behind_colon (text : FloatText floatRepr readFloat) (value other : Json) (front : List Char) :
    dumps .default floatRepr value ≠ front ++ ':' :: dumps .default floatRepr other := by
  intro same
  have closed := scan_dump text other
  have whole := scan_dump text value
  rw [same] at whole
  obtain ⟨before, -, after⟩ := scan_front _ _ _ _ whole
  obtain ⟨spot, passed, after⟩ := Option.bind_eq_some_iff.mp after
  cases before with
  | outside =>
      obtain rfl := Option.some.inj passed
      obtain ⟨c, rest, chars, solid, -⟩ := dumps_head .default text other
      have gap : c ≠ ' ' := by
        rintro rfl
        simp [blank] at solid
      rw [chars, scan, Spot.next, if_neg gap] at after
      contradiction
  | inside =>
      obtain rfl := Option.some.inj passed
      exact not_both_closed _ closed after
  | escaped =>
      obtain rfl := Option.some.inj passed
      exact not_both_closed _ closed after
  | colon => contradiction

theorem colon_splits (text : FloatText floatRepr readFloat) (front rest : List Char) (value other : Json)
    (same : front ++ ':' :: dumps .default floatRepr value = rest ++ ':' :: dumps .default floatRepr other) :
    front = rest ∧ value = other := by
  obtain ⟨more, isRest, left⟩ | ⟨more, isFront, left⟩ := List.append_eq_append_iff.mp same
  · cases more with
    | nil => exact ⟨by rw [isRest, List.append_nil], dumps_injective .default text _ _ (List.cons.inj left).2⟩
    | cons c more => exact absurd (List.cons.inj left).2 (no_value_behind_colon text value other more)
  · cases more with
    | nil => exact ⟨by rw [isFront, List.append_nil], (dumps_injective .default text _ _ (List.cons.inj left).2).symm⟩
    | cons c more => exact absurd (List.cons.inj left).2 (no_value_behind_colon text other value more)

end Dumps

end Vermyth
