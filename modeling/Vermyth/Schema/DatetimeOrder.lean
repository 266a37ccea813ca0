import Mathlib.Data.String.Basic
import Mathlib.Tactic.IntervalCases
import Vermyth.Schema.Casting

set_option autoImplicit false

namespace Vermyth

def Datetime.Before (a b : Datetime) : Prop :=
  a.year < b.year ∨ a.year = b.year ∧ (a.month < b.month ∨ a.month = b.month ∧
    (a.day < b.day ∨ a.day = b.day ∧ (a.hour < b.hour ∨ a.hour = b.hour ∧
      (a.minute < b.minute ∨ a.minute = b.minute ∧
        (a.second < b.second ∨ a.second = b.second ∧ a.microsecond < b.microsecond)))))

theorem lex_same_length (front back rest more : List Char) (same : front.length = back.length) (less : front < back) :
    front ++ rest < back ++ more := by
  induction front generalizing back with
  | nil =>
      obtain rfl := List.length_eq_zero_iff.mp same.symm
      exact absurd less (List.not_lt_nil _)
  | cons c front ih =>
      cases back with
      | nil => contradiction
      | cons d back =>
          rw [List.cons_append, List.cons_append, List.cons_lt_cons_iff]
          rcases List.cons_lt_cons_iff.mp less with first | ⟨rfl, later⟩
          · exact Or.inl first
          · exact Or.inr ⟨rfl, ih back (Nat.succ.inj same) later⟩

theorem digit_char_lt (a b : Nat) (less : a < b) (small : b < 10) : Nat.digitChar a < Nat.digitChar b := by
  revert a
  decide +revert

theorem padded_lt (width a b : Nat) (less : a < b) (small : b < 10 ^ width) : padded width a < padded width b := by
  induction width generalizing a b with
  | zero => omega
  | succ width ih =>
      rw [padded, padded]
      have fits : b / 10 < 10 ^ width := by
        rw [pow_succ] at small
        omega
      by_cases high : a / 10 < b / 10
      · exact lex_same_length _ _ _ _ (by rw [padded_length, padded_length]) (ih _ _ high fits)
      · have same : a / 10 = b / 10 := by omega
        rw [same]
        apply List.append_left_lt
        rw [List.cons_lt_cons_iff]
        exact Or.inl (digit_char_lt _ _ (by omega) (Nat.mod_lt _ (by decide)))

theorem padded_front (width a b : Nat) (small : b < 10 ^ width) (rest more : List Char)
    (order : a < b ∨ a = b ∧ rest < more) : padded width a ++ rest < padded width b ++ more := by
  rcases order with less | ⟨rfl, later⟩
  · exact lex_same_length _ _ _ _ (by rw [padded_length, padded_length]) (padded_lt width a b less small)
  · exact List.append_left_lt later

theorem mark_front (mark : Char) (rest more : List Char) (less : rest < more) : mark :: rest < mark :: more :=
  List.cons_lt_cons_iff.mpr (Or.inr ⟨rfl, less⟩)

-- '+' comes before '.', so a time without a fraction is before those with one.
theorem fraction_front (a b : Nat) (small : b < 1000000) (less : a < b) :
    fractionText a ++ offsetText (some 0) < fractionText b ++ offsetText (some 0) := by
  rw [fractionText, fractionText, if_neg (Nat.ne_of_gt (Nat.zero_lt_of_lt less))]
  by_cases zero : a = 0
  · rw [if_pos zero, List.nil_append, List.cons_append, offsetText, List.cons_lt_cons_iff]
    exact Or.inl (by decide)
  · rw [if_neg zero, List.cons_append, List.cons_append]
    exact mark_front '.' _ _ (padded_front 6 a b small _ _ (Or.inl less))

theorem isoformat_before (a b : Datetime) (zoneA : a.offset = some 0) (zoneB : b.offset = some 0)
    (before : a.Before b) : a.isoformat < b.isoformat := by
  have years : b.year < 10 ^ 4 := Nat.lt_succ_of_le b.yearRange.2
  have months : b.month < 10 ^ 2 := Nat.lt_of_le_of_lt b.monthRange.2 (by decide)
  have days : b.day < 10 ^ 2 :=
    Nat.lt_of_le_of_lt (b.dayRange.2.trans (days_in_month b.year b.month)) (by decide)
  have hours : b.hour < 10 ^ 2 := b.hourRange.trans (by decide)
  have minutes : b.minute < 10 ^ 2 := b.minuteRange.trans (by decide)
  have seconds : b.second < 10 ^ 2 := b.secondRange.trans (by decide)
  rw [Datetime.isoformat, Datetime.isoformat, zoneA, zoneB]
  refine padded_front 4 _ _ years _ _ (before.imp_right (And.imp_right fun before => mark_front _ _ _ ?_))
  refine padded_front 2 _ _ months _ _ (before.imp_right (And.imp_right fun before => mark_front _ _ _ ?_))
  refine padded_front 2 _ _ days _ _ (before.imp_right (And.imp_right fun before => mark_front _ _ _ ?_))
  refine padded_front 2 _ _ hours _ _ (before.imp_right (And.imp_right fun before => mark_front _ _ _ ?_))
  refine padded_front 2 _ _ minutes _ _ (before.imp_right (And.imp_right fun before => mark_front _ _ _ ?_))
  refine padded_front 2 _ _ seconds _ _ (before.imp_right (And.imp_right fun before => ?_))
  exact fraction_front _ _ b.microsecondRange before

theorem month_before (year month later : Nat) (first : 1 ≤ month) (less : month < later) (last : later ≤ 12) :
    daysBeforeMonth year month + daysInMonth year month ≤ daysBeforeMonth year later := by
  rw [daysBeforeMonth, daysInMonth, daysBeforeMonth]
  generalize isLeap year = leap
  interval_cases later <;> interval_cases month <;> revert leap <;> decide

theorem month_inside (year month : Nat) (first : 1 ≤ month) (last : month ≤ 12) :
    daysBeforeMonth year month + daysInMonth year month ≤ 365 + if isLeap year then 1 else 0 := by
  rw [daysBeforeMonth, daysInMonth]
  generalize isLeap year = leap
  interval_cases month <;> revert leap <;> decide

theorem quotient_next (n divisor : Nat) :
    (n + 1) / divisor = n / divisor + if (n + 1) % divisor = 0 then 1 else 0 := by
  rw [Nat.succ_div]
  simp only [Nat.dvd_iff_mod_eq_zero]

theorem year_next (year : Nat) :
    daysBeforeYear (year + 1) + (365 + if isLeap (year + 1) then 1 else 0) = daysBeforeYear (year + 2) := by
  have fourths := quotient_next year 4
  have hundredths := quotient_next year 100
  have quarters := quotient_next year 400
  have century : year / 100 ≤ year * 365 := by omega
  rw [daysBeforeYear, daysBeforeYear, isLeap]
  simp only [Nat.add_sub_cancel, show year + 2 - 1 = year + 1 from rfl]
  by_cases fourth : (year + 1) % 4 = 0
  · by_cases hundredth : (year + 1) % 100 = 0
    · by_cases quarter : (year + 1) % 400 = 0
      · simp [fourth, hundredth, quarter] at fourths hundredths quarters ⊢
        omega
      · simp [fourth, hundredth, quarter] at fourths hundredths quarters ⊢
        omega
    · have quarter : (year + 1) % 400 ≠ 0 := by omega
      simp [fourth, hundredth, quarter] at fourths hundredths quarters ⊢
      omega
  · have hundredth : (year + 1) % 100 ≠ 0 := by omega
    have quarter : (year + 1) % 400 ≠ 0 := by omega
    simp [fourth, hundredth, quarter] at fourths hundredths quarters ⊢
    omega

theorem year_before (year later : Nat) (first : 1 ≤ year) (less : year < later) :
    daysBeforeYear year + (365 + if isLeap year then 1 else 0) ≤ daysBeforeYear later := by
  have next : ∀ own, 1 ≤ own →
      daysBeforeYear own + (365 + if isLeap own then 1 else 0) = daysBeforeYear (own + 1) := by
    intro own some
    obtain ⟨past, rfl⟩ : ∃ past, own = past + 1 := Nat.exists_eq_succ_of_ne_zero (Nat.ne_of_gt some)
    exact year_next past
  induction later, less using Nat.le_induction with
  | base => exact (next year first).le
  | succ later bound ih =>
      have own := next later (by omega)
      omega

def dayNumber (time : Datetime) : Nat :=
  daysBeforeYear time.year + daysBeforeMonth time.year time.month + time.day

theorem day_number_year (a b : Datetime) (less : a.year < b.year) : dayNumber a < dayNumber b := by
  have years := year_before a.year b.year a.yearRange.1 less
  have month := month_inside a.year a.month a.monthRange.1 a.monthRange.2
  have dayA := a.dayRange.2
  have dayB := b.dayRange.1
  rw [dayNumber, dayNumber]
  omega

theorem day_number_month (a b : Datetime) (same : a.year = b.year) (less : a.month < b.month) :
    dayNumber a < dayNumber b := by
  have month := month_before a.year a.month b.month a.monthRange.1 less b.monthRange.2
  have dayA := a.dayRange.2
  have dayB := b.dayRange.1
  rw [dayNumber, dayNumber, ← same]
  omega

theorem clock_before (a b : Datetime) (before : a.Before b) : a.clock < b.clock := by
  have number : ∀ time : Datetime, time.clock = (((dayNumber time) * 86400 + time.hour * 3600 +
      time.minute * 60 + time.second : Nat) : Int) * 1000000 + time.microsecond := fun _ => rfl
  have hourA := a.hourRange
  have minuteA := a.minuteRange
  have secondA := a.secondRange
  have microsecondA := a.microsecondRange
  rw [number, number]
  rcases before with year | ⟨year, month | ⟨month, before⟩⟩
  · have day := day_number_year a b year
    omega
  · have day := day_number_month a b year month
    omega
  · have upToMonth : dayNumber a + b.day = dayNumber b + a.day := by
      rw [dayNumber, dayNumber, year, month]
      omega
    omega

theorem before_total (a b : Datetime) (zone : a.offset = b.offset) : a.Before b ∨ a = b ∨ b.Before a := by
  rw [Datetime.Before, Datetime.Before]
  rcases lt_trichotomy a.year b.year with less | year | more
  · exact Or.inl (Or.inl less)
  · rcases lt_trichotomy a.month b.month with less | month | more
    · exact Or.inl (Or.inr ⟨year, Or.inl less⟩)
    · by_cases same : a.day = b.day ∧ a.hour = b.hour ∧ a.minute = b.minute ∧ a.second = b.second ∧
          a.microsecond = b.microsecond
      · obtain ⟨day, hour, minute, second, microsecond⟩ := same
        refine Or.inr (Or.inl ?_)
        cases a
        cases b
        cases year
        cases month
        cases day
        cases hour
        cases minute
        cases second
        cases microsecond
        cases zone
        rfl
      · omega
    · exact Or.inr (Or.inr (Or.inr ⟨year.symm, Or.inl more⟩))
  · exact Or.inr (Or.inr (Or.inl more))

theorem isoformat_le_iff (a b : Datetime) (zoneA : a.offset = some 0) (zoneB : b.offset = some 0) :
    String.ofList a.isoformat ≤ String.ofList b.isoformat ↔ a.instant ≤ b.instant := by
  rw [String.le_iff_toList_le, String.toList_ofList, String.toList_ofList, Datetime.instant, Datetime.instant, zoneA,
    zoneB]
  rcases before_total a b (zoneA.trans zoneB.symm) with before | rfl | after
  · have clock := clock_before a b before
    exact iff_of_true (isoformat_before a b zoneA zoneB before).le (by simpa using clock.le)
  · exact iff_of_true le_rfl le_rfl
  · have clock := clock_before b a after
    exact iff_of_false (not_le.mpr (isoformat_before b a zoneB zoneA after)) (by simpa using clock)

end Vermyth
