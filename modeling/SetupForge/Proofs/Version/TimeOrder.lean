import Mathlib.Data.List.Lex
import Mathlib.Order.Monotone.Basic
import SetupForge.Proofs.Text.Numerals
import SetupForge.Value.Stamp
import SetupForge.Version.Timestamp

/-! # Versions and time

The text of a version from the clock is read back, part by part, as three numbers. Within a century
they order, part after part, as the minutes do that have gone by in the calendar, so that a build
gets a greater version than every build of an earlier minute, and the same one within a minute.
-/

namespace SetupForge

open Text

/-! ## The calendar -/

namespace Stamp

def daysBeforeMonth (year month : Nat) : Nat :=
  (List.range (month - 1)).foldl (fun days earlier => days + daysIn year (earlier + 1)) 0

def daysBeforeYear (year : Nat) : Nat :=
  (year - 1) * 365 + (year - 1) / 4 - (year - 1) / 100 + (year - 1) / 400

variable {year month later : Nat}

theorem daysIn_le (year month : Nat) : daysIn year month ≤ 31 := by
  unfold daysIn
  split
  · split <;> omega
  · split <;> omega

theorem daysBeforeMonth_succ (hpos : 1 ≤ month) :
    daysBeforeMonth year (month + 1) = daysBeforeMonth year month + daysIn year month := by
  have hrange : month + 1 - 1 = month - 1 + 1 := by omega
  have hmonth : month - 1 + 1 = month := by omega
  rw [daysBeforeMonth, hrange, List.range_succ, List.foldl_append, List.foldl_cons, List.foldl_nil,
    hmonth, ← daysBeforeMonth]

/-- What is summed up step by step, from the first step on, passes every later step in full. -/
theorem add_le_of_succ {total step : Nat → Nat} {first later : Nat}
    (hsucc : ∀ {n}, 1 ≤ n → total (n + 1) = total n + step n) (hpos : 1 ≤ first)
    (h : first < later) : total first + step first ≤ total later := by
  have hgrows (n : Nat) (hn : 1 ≤ n) : total n ≤ total (n + 1) := by
    rw [hsucc hn]
    exact Nat.le_add_right _ _
  rw [← hsucc hpos]
  exact Nat.rel_of_forall_rel_succ_of_le_of_le (· ≤ ·) hgrows (Nat.le_succ_of_le hpos) h

theorem isLeapYear_iff (year : Nat) :
    isLeapYear year = true ↔ year % 4 = 0 ∧ (year % 100 ≠ 0 ∨ year % 400 = 0) := by
  simp [isLeapYear]

theorem daysBeforeMonth_last (year : Nat) :
    daysBeforeMonth year 13 = if isLeapYear year then 366 else 365 := by
  cases hleap : isLeapYear year <;> simp [daysBeforeMonth, daysIn, hleap, List.range_succ]

theorem daysBeforeYear_succ (hpos : 1 ≤ year) :
    daysBeforeYear (year + 1) = daysBeforeYear year + daysBeforeMonth year 13 := by
  obtain ⟨years, rfl⟩ := Nat.exists_eq_add_of_le' hpos
  have hless : years / 100 ≤ years / 4 := Nat.div_le_div_left (by decide) (by decide)
  have hhundred : (years + 1) % 100 = 0 → (years + 1) % 4 = 0 := by omega
  have hfourHundred : (years + 1) % 400 = 0 → (years + 1) % 100 = 0 := by omega
  rw [daysBeforeMonth_last, daysBeforeYear, daysBeforeYear, Nat.add_sub_cancel, Nat.add_sub_cancel,
    Nat.succ_div, Nat.succ_div, Nat.succ_div]
  simp only [isLeapYear_iff, Nat.dvd_iff_mod_eq_zero]
  -- only which remainders are zero counts
  generalize years / 4 = fours at hless ⊢
  generalize years / 100 = hundreds at hless ⊢
  generalize (years + 1) % 4 = past at hhundred ⊢
  generalize (years + 1) % 100 = pastHundred at hhundred hfourHundred ⊢
  generalize (years + 1) % 400 = pastFourHundred at hfourHundred ⊢
  split_ifs <;> omega

end Stamp

/-! ## Minutes in order -/

namespace Moment

open Stamp

structure IsValid (moment : Moment) : Prop where
  year_pos : 1 ≤ moment.year
  month_pos : 1 ≤ moment.month
  month_le : moment.month ≤ 12
  day_pos : 1 ≤ moment.day
  day_le : moment.day ≤ daysIn moment.year moment.month
  hour_lt : moment.hour < 24
  minute_lt : moment.minute < 60

def elapsedDays (moment : Moment) : Nat :=
  Stamp.dayNumber ⟨moment.year, moment.month, moment.day, none⟩

def elapsedMinutes (moment : Moment) : Nat :=
  (moment.elapsedDays * 24 + moment.hour) * 60 + moment.minute

/-- Whether the day of a moment comes before that of another one, by their dates. -/
def DayBefore (first second : Moment) : Prop :=
  first.year < second.year ∨ first.year = second.year ∧
    (first.month < second.month ∨ first.month = second.month ∧ first.day < second.day)

/-- Whether a moment comes before another one, by their dates and times. -/
def Before (first second : Moment) : Prop :=
  first.DayBefore second ∨
    (first.year = second.year ∧ first.month = second.month ∧ first.day = second.day) ∧
      (first.hour < second.hour ∨ first.hour = second.hour ∧ first.minute < second.minute)

variable {moment first second : Moment}

theorem elapsedDays_eq (moment : Moment) : moment.elapsedDays =
    daysBeforeYear moment.year + daysBeforeMonth moment.year moment.month + (moment.day - 1) := rfl

theorem IsValid.dayOfYear_lt (h : moment.IsValid) :
    daysBeforeMonth moment.year moment.month + (moment.day - 1) <
      daysBeforeMonth moment.year 13 := by
  have hmonths : daysBeforeMonth moment.year moment.month + daysIn moment.year moment.month ≤
      daysBeforeMonth moment.year 13 :=
    add_le_of_succ daysBeforeMonth_succ h.month_pos (Nat.lt_succ_of_le h.month_le)
  have hpos := h.day_pos
  have hle := h.day_le
  omega

theorem elapsedDays_lt (hfirst : first.IsValid) (h : first.DayBefore second) :
    first.elapsedDays < second.elapsedDays := by
  have hpos := hfirst.day_pos
  have hle := hfirst.day_le
  rw [elapsedDays_eq, elapsedDays_eq]
  rcases h with hyear | ⟨hyear, hmonth | ⟨hmonth, hday⟩⟩
  · have hyears := add_le_of_succ daysBeforeYear_succ hfirst.year_pos hyear
    have hday := hfirst.dayOfYear_lt
    omega
  · have hmonths : daysBeforeMonth first.year first.month + daysIn first.year first.month ≤
        daysBeforeMonth first.year second.month :=
      add_le_of_succ daysBeforeMonth_succ hfirst.month_pos hmonth
    rw [← hyear]
    omega
  · rw [← hyear, ← hmonth]
    omega

theorem elapsedMinutes_lt (hfirst : first.IsValid) (h : first.Before second) :
    first.elapsedMinutes < second.elapsedMinutes := by
  have hhour := hfirst.hour_lt
  have hminute := hfirst.minute_lt
  unfold elapsedMinutes
  rcases h with hday | ⟨⟨hyear, hmonth, hday⟩, htime⟩
  · have hdays := elapsedDays_lt hfirst hday
    omega
  · have hdays : first.elapsedDays = second.elapsedDays := by
      rw [elapsedDays, elapsedDays, hyear, hmonth, hday]
    omega

theorem before_trichotomy (first second : Moment) :
    first.Before second ∨ first = second ∨ second.Before first := by
  by_cases hsame : first = second
  · exact Or.inr (Or.inl hsame)
  · have hne : ¬ (first.year = second.year ∧ first.month = second.month ∧
        first.day = second.day ∧ first.hour = second.hour ∧ first.minute = second.minute) := by
      intro h
      cases first
      cases second
      simp_all
    unfold Before DayBefore
    omega

theorem elapsedMinutes_lt_iff (hfirst : first.IsValid) (hsecond : second.IsValid) :
    first.elapsedMinutes < second.elapsedMinutes ↔ first.Before second := by
  constructor
  · intro hlt
    rcases before_trichotomy first second with hbefore | rfl | hafter
    · exact hbefore
    · omega
    · have hgt := elapsedMinutes_lt hsecond hafter
      omega
  · exact elapsedMinutes_lt hfirst

theorem elapsedMinutes_eq_iff (hfirst : first.IsValid) (hsecond : second.IsValid) :
    first.elapsedMinutes = second.elapsedMinutes ↔ first = second := by
  constructor
  · intro heq
    rcases before_trichotomy first second with hbefore | hsame | hafter
    · have hlt := elapsedMinutes_lt hfirst hbefore
      omega
    · exact hsame
    · have hgt := elapsedMinutes_lt hsecond hafter
      omega
  · rintro rfl
    rfl

/-! ## The numbers of a version -/

/-- The numbers that the parts of a version are read as, the parts being divided by dots. -/
def readVersion? (version : String) : Option (List Int) :=
  (version.toList.splitOn '.').mapM fun part => integer? (String.ofList part)

def numbers (moment : Moment) : List Int :=
  [(moment.year % 100 : Nat), ((moment.month + 20) * 100 + moment.day : Nat),
    ((moment.hour + 30) * 100 + moment.minute : Nat)]

theorem dot_not_mem_of_digits {text : List Char} (h : AllDigits text) : '.' ∉ text := by
  intro hmem
  exact absurd (h '.' hmem) (by decide)

theorem toList_version (moment : Moment) : moment.version.toList =
    ['.'].intercalate [(padded 2 (moment.year % 100)).toList,
      Nat.toDigits 10 (moment.month + 20) ++ (padded 2 moment.day).toList,
      (padded 2 (moment.hour + 30)).toList ++ (padded 2 moment.minute).toList] := by
  simp [version, String.toList_append, List.intercalate]

theorem splitOn_version (moment : Moment) : moment.version.toList.splitOn '.' =
    [(padded 2 (moment.year % 100)).toList,
      Nat.toDigits 10 (moment.month + 20) ++ (padded 2 moment.day).toList,
      (padded 2 (moment.hour + 30)).toList ++ (padded 2 moment.minute).toList] := by
  rw [toList_version]
  apply List.splitOn_intercalate
  · intro part hpart
    apply dot_not_mem_of_digits
    simp only [List.mem_cons, List.not_mem_nil, or_false] at hpart
    rcases hpart with rfl | rfl | rfl
    · exact allDigits_padded _ _
    · exact (allDigits_toDigits _).append (allDigits_padded _ _)
    · exact (allDigits_padded _ _).append (allDigits_padded _ _)
  · simp

/-- A number of at most two digits in front of a filled one of two is read with it. -/
theorem integer?_part {front : List Char} {n : Nat} (hfront : AllDigits front)
    (hlength : front.length ≤ 2) (h : n < 100) :
    integer? (String.ofList (front ++ (padded 2 n).toList)) =
      some ((Nat.ofDigitChars 10 front 0 * 100 + n : Nat) : Int) := by
  have hpadded : (padded 2 n).toList.length = 2 := length_padded (by decide) h
  have hsize : (front ++ (padded 2 n).toList).length = front.length + 2 := by
    rw [List.length_append, hpadded]
  have hne : front ++ (padded 2 n).toList ≠ [] := List.ne_nil_of_length_pos (by omega)
  have hfew : 4 ≤ maxIntegerDigits := by decide
  have hpower : Nat.pow 10 2 = 100 := rfl
  rw [integer?_of_digits hne (hfront.append (allDigits_padded 2 n)) (by omega),
    ofDigitChars_append_padded (by decide) h, hpower]

theorem readVersion?_version (h : moment.IsValid) :
    readVersion? moment.version = some moment.numbers := by
  have hmonth := h.month_le
  have hday := Nat.le_trans h.day_le (daysIn_le _ _)
  have hhour := h.hour_lt
  have hminute := h.minute_lt
  have hraised : moment.hour + 30 < 100 := by omega
  have hempty : AllDigits [] := by simp [AllDigits]
  have hfirst := integer?_part (n := moment.year % 100) hempty (by simp)
    (Nat.mod_lt _ (by decide))
  have hsecond := integer?_part (n := moment.day) (allDigits_toDigits (moment.month + 20))
    ((Nat.length_toDigits_le_iff (by decide) (by decide)).2 (by omega)) (by omega)
  have hthird := integer?_part (n := moment.minute) (allDigits_padded 2 (moment.hour + 30))
    (Nat.le_of_eq (length_padded (by decide) hraised)) (by omega)
  rw [List.nil_append, Nat.ofDigitChars_nil, Nat.zero_mul, Nat.zero_add] at hfirst
  rw [Nat.ofDigitChars_ten_toDigits] at hsecond
  rw [ofDigitChars_padded] at hthird
  rw [readVersion?, splitOn_version]
  simp only [List.mapM_cons, List.mapM_nil, hfirst, hsecond, hthird]
  rfl

/-- Within a century the numbers of versions order as the moments do. -/
theorem numbers_lt_iff (hfirst : first.IsValid) (hsecond : second.IsValid)
    (hcentury : first.year / 100 = second.year / 100) :
    first.numbers < second.numbers ↔ first.Before second := by
  have hday := Nat.le_trans hfirst.day_le (daysIn_le _ _)
  have hday' := Nat.le_trans hsecond.day_le (daysIn_le _ _)
  have hminute := hfirst.minute_lt
  have hminute' := hsecond.minute_lt
  simp only [numbers, List.cons_lt_cons_iff, List.lt_irrefl, and_false, or_false, Before, DayBefore]
  omega

theorem numbers_eq_iff (hfirst : first.IsValid) (hsecond : second.IsValid)
    (hcentury : first.year / 100 = second.year / 100) :
    first.numbers = second.numbers ↔ first = second := by
  constructor
  · intro hnumbers
    rcases before_trichotomy first second with hbefore | hsame | hafter
    · rw [← numbers_lt_iff hfirst hsecond hcentury, hnumbers] at hbefore
      exact absurd hbefore (List.lt_irrefl _)
    · exact hsame
    · rw [← numbers_lt_iff hsecond hfirst hcentury.symm, hnumbers] at hafter
      exact absurd hafter (List.lt_irrefl _)
  · rintro rfl
    rfl

theorem numbers_bounds (h : moment.IsValid) :
    ∀ number ∈ moment.numbers, 0 ≤ number ∧ number < 65536 := by
  have hmonth := h.month_le
  have hday := Nat.le_trans h.day_le (daysIn_le _ _)
  have hhour := h.hour_lt
  have hminute := h.minute_lt
  simp only [numbers, List.forall_mem_cons, List.not_mem_nil, false_imp_iff, implies_true, and_true]
  omega

/-- The versions of two minutes of one century are read as three numbers each. These order, part
after part, as the minutes do that have gone by, the texts are the same exactly within one minute,
and every number fits into sixteen bits. -/
theorem version_orders_like_time (hfirst : first.IsValid) (hsecond : second.IsValid)
    (hcentury : first.year / 100 = second.year / 100) :
    ∃ left right : List Int, readVersion? first.version = some left ∧
      readVersion? second.version = some right ∧ left.length = 3 ∧ right.length = 3 ∧
      (left < right ↔ first.elapsedMinutes < second.elapsedMinutes) ∧
      (first.version = second.version ↔ first.elapsedMinutes = second.elapsedMinutes) ∧
      ∀ number ∈ left ++ right, 0 ≤ number ∧ number < 65536 := by
  have hleft := readVersion?_version hfirst
  have hright := readVersion?_version hsecond
  refine ⟨first.numbers, second.numbers, hleft, hright, rfl, rfl, ?_, ?_, ?_⟩
  · rw [numbers_lt_iff hfirst hsecond hcentury, elapsedMinutes_lt_iff hfirst hsecond]
  · rw [elapsedMinutes_eq_iff hfirst hsecond]
    constructor
    · intro htext
      rw [htext, hright] at hleft
      have hnumbers : first.numbers = second.numbers := (Option.some.inj hleft).symm
      exact (numbers_eq_iff hfirst hsecond hcentury).1 hnumbers
    · rintro rfl
      rfl
  · rw [List.forall_mem_append]
    exact ⟨numbers_bounds hfirst, numbers_bounds hsecond⟩

/-- The last minute of a year and the first one of the next. -/
theorem version_orders_like_time_newYear :
    let last : Moment := ⟨2027, 12, 31, 23, 59⟩
    let next : Moment := ⟨2028, 1, 1, 0, 0⟩
    last.IsValid ∧ next.IsValid ∧ last.year / 100 = next.year / 100 ∧
      readVersion? last.version = some [27, 3231, 5359] ∧
      readVersion? next.version = some [28, 2101, 3000] ∧
      last.elapsedMinutes < next.elapsedMinutes ∧ last.version ≠ next.version := by
  intro last next
  have hlast : last.IsValid := by constructor <;> decide
  have hnext : next.IsValid := by constructor <;> decide
  have hcentury : last.year / 100 = next.year / 100 := by decide
  obtain ⟨left, right, hleft, hright, -, -, horder, hsame, -⟩ :=
    version_orders_like_time hlast hnext hcentury
  have hnumbers : last.numbers = [27, 3231, 5359] := by decide
  have hnumbers' : next.numbers = [28, 2101, 3000] := by decide
  have hread := readVersion?_version hlast
  have hread' := readVersion?_version hnext
  rw [hnumbers] at hread
  rw [hnumbers'] at hread'
  obtain rfl := Option.some.inj (hread.symm.trans hleft)
  obtain rfl := Option.some.inj (hread'.symm.trans hright)
  have hlt := horder.1 (by decide)
  refine ⟨hlast, hnext, hcentury, hread, hread', hlt, ?_⟩
  rw [Ne, hsame]
  exact Nat.ne_of_lt hlt

end Moment

end SetupForge
