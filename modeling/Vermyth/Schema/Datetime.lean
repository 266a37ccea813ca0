import Mathlib.Algebra.Group.Nat.Defs
import Mathlib.Data.List.Infix
import Mathlib.Tactic.SplitIfs

set_option autoImplicit false

namespace Vermyth

def isLeap (year : Nat) : Bool := year % 4 = 0 && (year % 100 ≠ 0 || year % 400 = 0)

def daysInMonth (year month : Nat) : Nat :=
  if month = 2 then if isLeap year then 29 else 28
  else if month ∈ [4, 6, 9, 11] then 30
  else 31

structure Datetime where
  year : Nat
  month : Nat
  day : Nat
  hour : Nat
  minute : Nat
  second : Nat
  microsecond : Nat
  offset : Option Int := none
  yearRange : 1 ≤ year ∧ year ≤ 9999
  monthRange : 1 ≤ month ∧ month ≤ 12
  dayRange : 1 ≤ day ∧ day ≤ daysInMonth year month
  hourRange : hour < 24
  minuteRange : minute < 60
  secondRange : second < 60
  microsecondRange : microsecond < 1000000
  offsetRange : ∀ seconds ∈ offset, -86400 < seconds ∧ seconds < 86400
deriving DecidableEq

def Datetime.newYear (year : Nat) (yearRange : decide (1 ≤ year ∧ year ≤ 9999) = true) : Datetime where
  year := year
  month := 1
  day := 1
  hour := 0
  minute := 0
  second := 0
  microsecond := 0
  offset := some 0
  yearRange := of_decide_eq_true yearRange
  monthRange := by decide
  dayRange := by simp [daysInMonth]
  hourRange := by decide
  minuteRange := by decide
  secondRange := by decide
  microsecondRange := by decide
  offsetRange := by decide

-- %0<width>d
def padded : Nat → Nat → List Char
  | 0, _ => []
  | width + 1, n => padded width (n / 10) ++ [Nat.digitChar (n % 10)]

def fractionText (microsecond : Nat) : List Char :=
  if microsecond = 0 then [] else '.' :: padded 6 microsecond

def offsetText : Option Int → List Char
  | none => []
  | some seconds => (if seconds < 0 then '-' else '+') :: (padded 2 (seconds.natAbs / 3600) ++
      ':' :: (padded 2 (seconds.natAbs / 60 % 60) ++
        if seconds.natAbs % 60 = 0 then [] else ':' :: padded 2 (seconds.natAbs % 60)))

def Datetime.isoformat (time : Datetime) : List Char :=
  padded 4 time.year ++ '-' :: (padded 2 time.month ++ '-' :: (padded 2 time.day ++ 'T' ::
    (padded 2 time.hour ++ ':' :: (padded 2 time.minute ++ ':' :: (padded 2 time.second ++
      (fractionText time.microsecond ++ offsetText time.offset))))))

def daysBeforeYear (year : Nat) : Nat := (year - 1) * 365 + (year - 1) / 4 - (year - 1) / 100 + (year - 1) / 400

def daysBeforeMonth (year month : Nat) : Nat :=
  [0, 31, 59, 90, 120, 151, 181, 212, 243, 273, 304, 334].getD (month - 1) 0 +
    if 2 < month && isLeap year then 1 else 0

def Datetime.clock (time : Datetime) : Int :=
  (((daysBeforeYear time.year + daysBeforeMonth time.year time.month + time.day) * 86400 + time.hour * 3600 +
    time.minute * 60 + time.second : Nat) : Int) * 1000000 + time.microsecond

theorem days_in_month (year month : Nat) : daysInMonth year month ≤ 31 := by
  rw [daysInMonth]
  split_ifs <;> omega

theorem padded_length (width n : Nat) : (padded width n).length = width := by
  induction width generalizing n with
  | zero => rfl
  | succ width ih => simp [padded, ih]

theorem padded_digits (width n : Nat) : ∀ c ∈ padded width n, c.isDigit = true := by
  induction width generalizing n with
  | zero => simp [padded]
  | succ width ih =>
      intro c member
      rw [padded, List.mem_append, List.mem_singleton] at member
      obtain inFront | rfl := member
      · exact ih (n / 10) c inFront
      · have all : ∀ digit < 10, (Nat.digitChar digit).isDigit = true := by decide
        exact all (n % 10) (Nat.mod_lt n (by decide))

def readPadded (width : Nat) (chars : List Char) : Option (Nat × List Char) :=
  if (chars.take width).length = width ∧ (chars.take width).all Char.isDigit = true then
    some (Nat.ofDigitChars 10 (chars.take width) 0, chars.drop width)
  else none

def readMark (mark : Char) : List Char → Option (List Char)
  | [] => none
  | c :: rest => if c = mark then some rest else none

def readFraction : List Char → Option (Nat × List Char)
  | '.' :: rest => readPadded 6 rest
  | rest => some (0, rest)

def readOffsetSeconds : List Char → Option Nat
  | [] => some 0
  | ':' :: rest => (readPadded 2 rest).bind fun (seconds, rest) => if rest = [] then some seconds else none
  | _ => none

def readOffset : List Char → Option (Option Int)
  | [] => some none
  | sign :: rest =>
      if sign = '+' ∨ sign = '-' then do
        let (hours, rest) ← readPadded 2 rest
        let rest ← readMark ':' rest
        let (minutes, rest) ← readPadded 2 rest
        let seconds ← readOffsetSeconds rest
        let total : Int := ((hours * 3600 + minutes * 60 + seconds : Nat) : Int)
        return some (if sign = '-' then -total else total)
      else none

def Datetime.make (year month day hour minute second microsecond : Nat) (offset : Option Int) : Option Datetime :=
  if date : (1 ≤ year ∧ year ≤ 9999) ∧ (1 ≤ month ∧ month ≤ 12) ∧ 1 ≤ day ∧ day ≤ daysInMonth year month then
    if clock : hour < 24 ∧ minute < 60 ∧ second < 60 ∧ microsecond < 1000000 then
      if offsetRange : ∀ seconds ∈ offset, -86400 < seconds ∧ seconds < 86400 then
        some { year, month, day, hour, minute, second, microsecond, offset, offsetRange,
               yearRange := date.1, monthRange := date.2.1, dayRange := date.2.2, hourRange := clock.1,
               minuteRange := clock.2.1, secondRange := clock.2.2.1, microsecondRange := clock.2.2.2 }
      else none
    else none
  else none

-- datetime.fromisoformat, of the texts that isoformat writes.
def Datetime.fromisoformat (chars : List Char) : Option Datetime := do
  let (year, rest) ← readPadded 4 chars
  let rest ← readMark '-' rest
  let (month, rest) ← readPadded 2 rest
  let rest ← readMark '-' rest
  let (day, rest) ← readPadded 2 rest
  let rest ← readMark 'T' rest
  let (hour, rest) ← readPadded 2 rest
  let rest ← readMark ':' rest
  let (minute, rest) ← readPadded 2 rest
  let rest ← readMark ':' rest
  let (second, rest) ← readPadded 2 rest
  let (microsecond, rest) ← readFraction rest
  let offset ← readOffset rest
  Datetime.make year month day hour minute second microsecond offset

theorem padded_value (width n : Nat) (small : n < 10 ^ width) : Nat.ofDigitChars 10 (padded width n) 0 = n := by
  induction width generalizing n with
  | zero =>
      have zero : n = 0 := by omega
      rw [zero]
      rfl
  | succ width ih =>
      have front := ih (n / 10) (Nat.div_lt_of_lt_mul (by rw [← Nat.pow_succ']; exact small))
      rw [padded, Nat.ofDigitChars_append, front, Nat.ofDigitChars_cons_digitChar_of_lt_ten (Nat.mod_lt n (by decide)),
        Nat.ofDigitChars_nil]
      omega

theorem read_padded (width n : Nat) (small : n < 10 ^ width) (rest : List Char) :
    readPadded width (padded width n ++ rest) = some (n, rest) := by
  have front : (padded width n ++ rest).take width = padded width n := by
    rw [List.take_append_of_le_length (by rw [padded_length]), List.take_of_length_le (by rw [padded_length])]
  have back : (padded width n ++ rest).drop width = rest := by
    rw [List.drop_append_of_le_length (by rw [padded_length]), List.drop_of_length_le (by rw [padded_length]),
      List.nil_append]
  rw [readPadded, front, back, if_pos ⟨padded_length width n, List.all_eq_true.mpr (padded_digits width n)⟩,
    padded_value width n small]

theorem read_mark (mark : Char) (rest : List Char) : readMark mark (mark :: rest) = some rest := if_pos rfl

theorem offset_text_head (offset : Option Int) : ∀ c ∈ (offsetText offset).head?, c ≠ '.' := by
  cases offset with
  | none => exact fun c none => absurd none (Option.not_mem_none c)
  | some seconds =>
      intro c isHead
      have sign : (if seconds < 0 then '-' else '+') = c := Option.some.inj isHead
      rw [← sign]
      split <;> decide

theorem read_fraction (microsecond : Nat) (small : microsecond < 1000000) (offset : Option Int) :
    readFraction (fractionText microsecond ++ offsetText offset) = some (microsecond, offsetText offset) := by
  rw [fractionText]
  by_cases zero : microsecond = 0
  · rw [if_pos zero, zero, List.nil_append]
    have noDot := offset_text_head offset
    cases shape : offsetText offset with
    | nil => rfl
    | cons c rest =>
        rw [shape] at noDot
        rw [readFraction]
        intro tail same
        exact noDot c rfl (List.cons.inj same).1
  · rw [if_neg zero]
    exact read_padded 6 microsecond small (offsetText offset)

theorem read_offset_seconds (seconds : Nat) (small : seconds < 60) :
    readOffsetSeconds (if seconds = 0 then [] else ':' :: padded 2 seconds) = some seconds := by
  by_cases zero : seconds = 0
  · rw [if_pos zero, zero]
    rfl
  · have read := read_padded 2 seconds (by omega) []
    rw [List.append_nil] at read
    rw [if_neg zero, readOffsetSeconds, read]
    rfl

theorem read_offset (offset : Option Int) (range : ∀ seconds ∈ offset, -86400 < seconds ∧ seconds < 86400) :
    readOffset (offsetText offset) = some offset := by
  cases offset with
  | none => rfl
  | some seconds =>
      have inside := range seconds rfl
      have sign : (if seconds < 0 then '-' else '+') = '+' ∨ (if seconds < 0 then '-' else '+') = '-' := by
        split <;> simp
      rw [offsetText, readOffset, if_pos sign, read_padded 2 _ (by omega)]
      simp only [Option.bind_eq_bind, Option.bind_some, read_mark, read_padded 2 _ (show seconds.natAbs / 60 % 60 < 10 ^ 2 by omega),
        read_offset_seconds _ (show seconds.natAbs % 60 < 60 by omega), Option.pure_def]
      congr 2
      by_cases negative : seconds < 0
      · rw [if_pos negative, if_pos rfl]
        omega
      · rw [if_neg negative, if_neg (by decide)]
        omega

theorem datetime_make (time : Datetime) : Datetime.make time.year time.month time.day time.hour time.minute time.second
    time.microsecond time.offset = some time := by
  rw [Datetime.make, dif_pos ⟨time.yearRange, time.monthRange, time.dayRange⟩,
    dif_pos ⟨time.hourRange, time.minuteRange, time.secondRange, time.microsecondRange⟩, dif_pos time.offsetRange]

theorem fromisoformat_isoformat (time : Datetime) : Datetime.fromisoformat time.isoformat = some time := by
  have year := read_padded 4 time.year (by have := time.yearRange; omega)
  have month := read_padded 2 time.month (by have := time.monthRange; omega)
  have day := read_padded 2 time.day (by have := time.dayRange; have := days_in_month time.year time.month; omega)
  have hour := read_padded 2 time.hour (by have := time.hourRange; omega)
  have minute := read_padded 2 time.minute (by have := time.minuteRange; omega)
  have second := read_padded 2 time.second (by have := time.secondRange; omega)
  rw [Datetime.isoformat, Datetime.fromisoformat]
  simp only [Option.bind_eq_bind, Option.bind_some, year, read_mark, month, day, hour, minute, second,
    read_fraction time.microsecond time.microsecondRange, read_offset time.offset time.offsetRange, datetime_make]

theorem isoformat_injective (a b : Datetime) (same : a.isoformat = b.isoformat) : a = b := by
  have read := fromisoformat_isoformat a
  rw [same, fromisoformat_isoformat b] at read
  exact (Option.some.inj read).symm

end Vermyth
