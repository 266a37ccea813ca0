import Mathlib.Data.List.Basic

set_option autoImplicit false

namespace Foundation.Base64

def alphabet : List Char := "ABCDEFGHIJKLMNOPQRSTUVWXYZabcdefghijklmnopqrstuvwxyz0123456789+/".toList

def digit (n : Nat) : Char := alphabet.getD n 'A'

def value? (c : Char) : Option Nat :=
  if alphabet.idxOf c < 64 then some (alphabet.idxOf c) else none

def encode : List UInt8 → List Char
  | [] => []
  | [a] => [digit (a.toNat / 4), digit (a.toNat % 4 * 16), '=', '=']
  | [a, b] => [digit (a.toNat / 4), digit (a.toNat % 4 * 16 + b.toNat / 16), digit (b.toNat % 16 * 4), '=']
  | a :: b :: c :: rest => digit (a.toNat / 4) :: digit (a.toNat % 4 * 16 + b.toNat / 16) ::
      digit (b.toNat % 16 * 4 + c.toNat / 64) :: digit (c.toNat % 64) :: encode rest

def firstByte (x y : Nat) : UInt8 := UInt8.ofNat (x * 4 + y / 16)
def secondByte (y z : Nat) : UInt8 := UInt8.ofNat (y % 16 * 16 + z / 4)
def thirdByte (z w : Nat) : UInt8 := UInt8.ofNat (z % 4 * 64 + w)

-- Groups of four; only the last may be padded. Bits past the last byte are
-- ignored.
def decode : List Char → Option (List UInt8)
  | [] => some []
  | a :: b :: c :: d :: rest =>
      if rest = [] ∧ d = '=' then
        if c = '=' then do
          let x ← value? a
          let y ← value? b
          return [firstByte x y]
        else do
          let x ← value? a
          let y ← value? b
          let z ← value? c
          return [firstByte x y, secondByte y z]
      else do
        let x ← value? a
        let y ← value? b
        let z ← value? c
        let w ← value? d
        let bytes ← decode rest
        return firstByte x y :: secondByte y z :: thirdByte z w :: bytes
  | _ => none

example : encode [102, 111, 111, 98] = "Zm9vYg==".toList := by decide

theorem value_digit (n : Nat) (small : n < 64) : value? (digit n) = some n := by
  revert n
  decide +kernel

theorem digit_not_pad (n : Nat) (small : n < 64) : digit n ≠ '=' := by
  revert n
  decide +kernel

theorem first_byte (a : UInt8) (low : Nat) (small : low < 16) :
    firstByte (a.toNat / 4) (a.toNat % 4 * 16 + low) = a := by
  have bound := a.toNat_lt
  rw [firstByte, show a.toNat / 4 * 4 + (a.toNat % 4 * 16 + low) / 16 = a.toNat by omega]
  exact UInt8.ofNat_toNat

theorem second_byte (high : Nat) (b : UInt8) (low : Nat) (small : low < 4) :
    secondByte (high * 16 + b.toNat / 16) (b.toNat % 16 * 4 + low) = b := by
  have bound := b.toNat_lt
  rw [secondByte, show (high * 16 + b.toNat / 16) % 16 * 16 + (b.toNat % 16 * 4 + low) / 4 = b.toNat by omega]
  exact UInt8.ofNat_toNat

theorem third_byte (high : Nat) (c : UInt8) : thirdByte (high * 4 + c.toNat / 64) (c.toNat % 64) = c := by
  have bound := c.toNat_lt
  rw [thirdByte, show (high * 4 + c.toNat / 64) % 4 * 64 + c.toNat % 64 = c.toNat by omega]
  exact UInt8.ofNat_toNat

theorem decode_encode (bytes : List UInt8) : decode (encode bytes) = some bytes := by
  induction bytes using encode.induct with
  | case1 => rfl
  | case2 a =>
      have bound := a.toNat_lt
      have first := first_byte a 0 (by omega)
      simp only [Nat.add_zero] at first
      simp [encode, decode, value_digit (a.toNat / 4) (by omega), value_digit (a.toNat % 4 * 16) (by omega), first]
  | case3 a b =>
      have boundA := a.toNat_lt
      have boundB := b.toNat_lt
      have second := second_byte (a.toNat % 4) b 0 (by omega)
      simp only [Nat.add_zero] at second
      simp [encode, decode, value_digit (a.toNat / 4) (by omega),
        value_digit (a.toNat % 4 * 16 + b.toNat / 16) (by omega), value_digit (b.toNat % 16 * 4) (by omega),
        digit_not_pad (b.toNat % 16 * 4) (by omega), first_byte a (b.toNat / 16) (by omega), second]
  | case4 a b c rest ih =>
      have boundA := a.toNat_lt
      have boundB := b.toNat_lt
      have boundC := c.toNat_lt
      simp [encode, decode, value_digit (a.toNat / 4) (by omega),
        value_digit (a.toNat % 4 * 16 + b.toNat / 16) (by omega),
        value_digit (b.toNat % 16 * 4 + c.toNat / 64) (by omega), value_digit (c.toNat % 64) (by omega),
        digit_not_pad (c.toNat % 64) (by omega), first_byte a (b.toNat / 16) (by omega),
        second_byte (a.toNat % 4) b (c.toNat / 64) (by omega), third_byte (b.toNat % 16) c, ih]

theorem encode_length (bytes : List UInt8) : (encode bytes).length = 4 * ((bytes.length + 2) / 3) := by
  induction bytes using encode.induct with
  | case1 => rfl
  | case2 a => simp [encode]
  | case3 a b => simp [encode]
  | case4 a b c rest ih =>
      simp only [encode, List.length_cons, ih]
      omega

theorem decode_length (text : List Char) (bytes : List UInt8) (decoded : decode text = some bytes) :
    3 * text.length ≤ 4 * bytes.length + 8 := by
  induction text using decode.induct generalizing bytes with
  | case1 => simp
  | case2 a b d rest last =>
      simp only [decode, if_pos last, ↓reduceIte, Option.bind_eq_bind, Option.bind_eq_some_iff, Option.pure_def,
        Option.some.injEq] at decoded
      obtain ⟨x, -, y, -, rfl⟩ := decoded
      simp [last.1]
  | case3 a b c d rest last unpadded =>
      simp only [decode, if_pos last, if_neg unpadded, Option.bind_eq_bind, Option.bind_eq_some_iff,
        Option.pure_def, Option.some.injEq] at decoded
      obtain ⟨x, -, y, -, z, -, rfl⟩ := decoded
      simp [last.1]
  | case4 a b c d rest inner ih =>
      simp only [decode, if_neg inner, Option.bind_eq_bind, Option.bind_eq_some_iff, Option.pure_def,
        Option.some.injEq] at decoded
      obtain ⟨x, -, y, -, z, -, w, -, later, tail, rfl⟩ := decoded
      have bound := ih later tail
      simp only [List.length_cons]
      omega
  | case5 text empty short => simp [decode] at decoded

end Foundation.Base64
