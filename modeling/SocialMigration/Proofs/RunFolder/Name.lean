import Mathlib.Data.List.DropRight
import Mathlib.Data.List.TakeWhile
import SocialMigration.Proofs.Calendar
import SocialMigration.Proofs.Decimal.FixedPoint
import SocialMigration.Proofs.Decimal.Grammar
import SocialMigration.RunFolder.Name

/-!
# Reading the name of a run folder

A name is that of a run folder from a minute if it starts with the digits of that minute and goes on
in one line. Names whose decimal digits are those of ASCII are read back exactly so: the shape of
such a name and the moment that is read from its digits say together that it is a minute's name.
-/

namespace SocialMigration

namespace Text

variable {width n : Nat} {text : Text}

theorem digitValue?_digitCharacter :
    ∀ digit < 10, (digitCharacter digit).digitValue? = some digit := by decide

theorem exists_of_isAsciiDigit {c : CodePoint} (ascii : c.isAsciiDigit = true) :
    ∃ digit < 10, c = digitCharacter digit := by
  simp only [CodePoint.isAsciiDigit, Bool.and_eq_true, decide_eq_true_eq] at ascii
  refine ⟨c.val - 0x30, by omega, ?_⟩
  rw [digitCharacter, if_pos (by omega), Nat.add_sub_cancel' ascii.1, CodePoint.ofNat_val]

theorem isDigit_paddedNat (width n : Nat) : ∀ c ∈ paddedNat width n, c.isDigit = true := by
  intro c inside
  rcases List.mem_append.mp inside with zero | digit
  · rw [List.eq_of_mem_replicate zero]
    decide
  · have digits : ∀ digit < 10, (digitCharacter digit).isDigit = true := by decide
    have all : ∀ c ∈ ofNat n, c.isDigit = true := forall_mem_ofNat n digits
    exact all c digit

/-- Digits of ASCII are a number that is padded to their count. -/
theorem exists_paddedNat (some : text ≠ []) (ascii : ∀ c ∈ text, c.isAsciiDigit = true) :
    ∃ n < 10 ^ text.length, text = paddedNat text.length n := by
  induction text using List.reverseRecOn with
  | nil => exact absurd rfl some
  | append_singleton front last ih =>
      rw [List.forall_mem_append] at ascii
      rcases exists_of_isAsciiDigit (ascii.2 last (List.mem_singleton_self _)) with
        ⟨digit, small, rfl⟩
      rcases List.eq_nil_or_concat front with rfl | ⟨_, _, rfl⟩
      · refine ⟨digit, by simpa using small, ?_⟩
        rw [paddedNat, ofNat_of_lt small]
        rfl
      · rcases ih (by simp) ascii.1 with ⟨n, below, same⟩
        refine ⟨n * 10 + digit, ?_, ?_⟩
        · rw [List.length_append, List.length_singleton, pow_succ]
          omega
        · rw [List.length_append, List.length_singleton, paddedNat_succ (by simp)]
          rw [show (n * 10 + digit) / 10 = n by omega, show (n * 10 + digit) % 10 = digit by omega,
            ← same]

theorem paddedNat_two (small : n < 100) :
    paddedNat 2 n = [digitCharacter (n / 10), digitCharacter (n % 10)] := by
  rw [paddedNat_succ (by decide), paddedNat, ofNat_of_lt (by omega)]
  rfl

theorem spellsDigits_zeros (count : Nat) :
    SpellsDigits (List.replicate count 0x30) (List.replicate count 0) := by
  induction count with
  | zero => exact .nil
  | succ count ih => exact .cons rfl ih

end Text

namespace RunFolder

variable {name text rest date time : Text} {moment : Moment} {count : Nat}

/-! ## The number of digits -/

theorem valueOf_paddedNat (width n : Nat) : valueOf (Text.paddedNat width n) = n := by
  have spelled : (Text.paddedNat width n).SpellsDigits
      (List.replicate (width - (Text.ofNat n).length) 0 ++ Numeral.digits 10 n) := by
    apply List.rel_append
    · exact Text.spellsDigits_zeros _
    · exact List.forall₂_map_left_iff.mpr (List.forall₂_same.mpr fun digit inside =>
        Text.digitValue?_digitCharacter digit (Numeral.digits_lt (by decide) n digit inside))
  have read := spelled.spanDigits Text.endsDigits_nil
  rw [List.append_nil] at read
  rw [valueOf, read, Numeral.value_append, Numeral.value_zeros, Nat.zero_mul, Nat.zero_add,
    Numeral.value_digits (by decide)]

theorem valueOf_two {n : Nat} (small : n < 100) :
    valueOf [Text.digitCharacter (n / 10), Text.digitCharacter (n % 10)] = n := by
  rw [← Text.paddedNat_two small, valueOf_paddedNat]

/-! ## The shape of a name -/

theorem takeGroup?_eq_some_iff {digits : Text} :
    takeGroup? count text = some (digits, rest) ↔
      text = digits ++ 0x5F :: rest ∧ digits.length = count ∧ ∀ c ∈ digits, c.isDigit = true := by
  constructor
  · intro taken
    rw [takeGroup?] at taken
    split at taken
    · rename_i c behind cut
      split at taken
      · rename_i shaped
        cases taken
        simp only [Bool.and_eq_true, beq_iff_eq, List.all_eq_true] at shaped
        rcases shaped with ⟨⟨length, all⟩, rfl⟩
        exact ⟨by rw [← cut, List.take_append_drop], length, all⟩
      · cases taken
    · cases taken
  · rintro ⟨rfl, rfl, all⟩
    have digits' : digits.all CodePoint.isDigit = true := List.all_eq_true.mpr all
    simp [takeGroup?, digits']

theorem isOneLine_iff :
    isOneLine text = true ↔ ∃ line, 0x0A ∉ line ∧ (text = line ∨ text = line ++ [0x0A]) := by
  rw [isOneLine, decide_eq_true_eq]
  constructor
  · intro short
    have split := List.takeWhile_append_dropWhile (p := (· != (0x0A : CodePoint))) (l := text)
    have feed := List.head?_dropWhile_not (· != (0x0A : CodePoint)) text
    refine ⟨text.takeWhile (· != 0x0A), fun inside => ?_, ?_⟩
    · simpa using List.mem_takeWhile_imp inside
    · cases tail : text.dropWhile (· != 0x0A) with
      | nil =>
          rw [tail, List.append_nil] at split
          exact .inl split.symm
      | cons c rest =>
          rw [tail] at short split feed
          obtain rfl : rest = [] := List.eq_nil_of_length_eq_zero (by simpa using short)
          obtain rfl : c = 0x0A := by simpa using feed
          exact .inr split.symm
  · rintro ⟨line, single, rfl | rfl⟩
    · have none : text.dropWhile (· != 0x0A) = [] := by
        rw [List.dropWhile_eq_nil_iff]
        intro c inside
        have other : c ≠ 0x0A := fun same => single (same ▸ inside)
        simpa using other
      simp [none]
    · have before : ∀ c ∈ line, (c != 0x0A) = true := by
        intro c inside
        have other : c ≠ 0x0A := fun same => single (same ▸ inside)
        simpa using other
      rw [List.dropWhile_append_of_pos before]
      decide

theorem groups?_eq_some_iff :
    groups? name = some (date, time) ↔ ∃ rest, name = date ++ 0x5F :: (time ++ 0x5F :: rest) ∧
      date.length = 8 ∧ (∀ c ∈ date, c.isDigit = true) ∧ time.length = 4 ∧
      (∀ c ∈ time, c.isDigit = true) ∧ isOneLine rest = true := by
  constructor
  · intro found
    simp only [groups?, Option.bind_eq_bind, Option.bind_eq_some_iff] at found
    rcases found with ⟨⟨date', behind⟩, first, ⟨time', rest⟩, second, found⟩
    split at found
    · rename_i single
      cases found
      rcases takeGroup?_eq_some_iff.mp first with ⟨rfl, eight, dates⟩
      rcases takeGroup?_eq_some_iff.mp second with ⟨rfl, four, times⟩
      exact ⟨rest, rfl, eight, dates, four, times, single⟩
    · cases found
  · rintro ⟨rest, rfl, eight, dates, four, times, single⟩
    simp only [groups?, Option.bind_eq_bind, takeGroup?_eq_some_iff.mpr ⟨rfl, eight, dates⟩,
      Option.bind_some, takeGroup?_eq_some_iff.mpr ⟨rfl, four, times⟩, single, if_true]

/-! ## The moment of a name -/

theorem isMonth_iff : ∀ month < 100,
    isMonth (Text.digitCharacter (month / 10)) (Text.digitCharacter (month % 10)) = true ↔
      1 ≤ month ∧ month ≤ 12 := by
  decide

theorem isDay_iff : ∀ day < 100,
    isDay (Text.digitCharacter (day / 10)) (Text.digitCharacter (day % 10)) = true ↔
      1 ≤ day ∧ day ≤ 31 := by
  decide

theorem isHour_iff : ∀ hour < 100,
    isHour (Text.digitCharacter (hour / 10)) (Text.digitCharacter (hour % 10)) = true ↔
      hour < 24 := by
  decide

theorem isMinute_iff : ∀ minute < 100,
    isMinute (Text.digitCharacter (minute / 10)) (Text.digitCharacter (minute % 10)) = true ↔
      minute < 60 := by
  decide

/-- Nothing is left over of four digits just if they are two of an hour and two of a minute. -/
theorem readTime_cases (a b c d : CodePoint) :
    (isHour a b = true ∧ isMinute c d = true ∧ readTime [a, b, c, d] = ([a, b], [c, d], [])) ∨
      (¬(isHour a b = true ∧ isMinute c d = true) ∧ (readTime [a, b, c, d]).2.2 ≠ []) := by
  by_cases hour : isHour a b = true
  · by_cases minute : isMinute c d = true
    · exact .inl ⟨hour, minute, by simp [readTime, hour, minute]⟩
    · exact .inr ⟨by simp [minute], by simp [readTime, hour, minute]⟩
  · refine .inr ⟨by simp [hour], ?_⟩
    by_cases minute : isMinute b c = true <;> simp [readTime, hour, minute]

theorem daysInMonth_le (year month : Nat) : Calendar.daysInMonth year month ≤ 31 := by
  rw [Calendar.daysInMonth]
  repeat' split
  all_goals decide

/-- Every part of a date and of a time of day has two digits, but for the year. -/
theorem twoDigits (valid : moment.IsValid) :
    moment.month < 100 ∧ moment.day < 100 ∧ moment.hour < 100 ∧ moment.minute < 100 :=
  ⟨valid.month_le.trans_lt (by decide),
    (valid.day_le.trans (daysInMonth_le ..)).trans_lt (by decide),
    valid.hour_lt.trans (by decide), valid.minute_lt.trans (by decide)⟩

theorem isValid_minute {year month day hour minute : Nat} :
    (⟨year, month, day, hour, minute, 0, 0⟩ : Moment).IsValid ↔
      Calendar.IsDate year month day ∧ hour < 24 ∧ minute < 60 :=
  ⟨fun valid => ⟨valid.toIsDate, valid.hour_lt, valid.minute_lt⟩,
    fun ⟨date, inDay, inHour⟩ => ⟨date, inDay, inHour, by simp, by simp⟩⟩

/-- The digits of a date and a time are read as that moment, if it is one. -/
theorem readMoment_padded {year month day hour minute : Nat} (years : year < 10000)
    (months : month < 100) (days : day < 100) (hours : hour < 100) (minutes : minute < 100) :
    readMoment (Text.paddedNat 4 year ++ Text.paddedNat 2 month ++ Text.paddedNat 2 day)
      (Text.paddedNat 2 hour ++ Text.paddedNat 2 minute) = .ok moment ↔
      moment = ⟨year, month, day, hour, minute, 0, 0⟩ ∧ moment.IsValid := by
  have four : (Text.paddedNat 4 year).length = 4 := Text.length_paddedNat (by decide) years
  have inMonth := daysInMonth_le year month
  rw [readMoment, List.append_assoc, List.take_left' four, List.drop_left' four, valueOf_paddedNat,
    Text.paddedNat_two months, Text.paddedNat_two days, Text.paddedNat_two hours,
    Text.paddedNat_two minutes]
  simp only [List.cons_append, List.nil_append, valueOf_two months, valueOf_two days,
    Bool.and_eq_true, isMonth_iff month months, isDay_iff day days]
  have leftOver := readTime_cases (Text.digitCharacter (hour / 10))
    (Text.digitCharacter (hour % 10)) (Text.digitCharacter (minute / 10))
    (Text.digitCharacter (minute % 10))
  rw [isHour_iff hour hours, isMinute_iff minute minutes] at leftOver
  constructor
  · intro read
    split at read
    · rename_i date
      rcases leftOver with ⟨inDay, inHour, split⟩ | ⟨_, left⟩
      · simp only [split, List.isEmpty_nil, Bool.not_true, Bool.false_eq_true, if_false,
          valueOf_two hours, valueOf_two minutes, beq_iff_eq] at read
        split at read
        · cases read
        · split at read
          · cases read
          · cases read
            refine ⟨rfl, isValid_minute.mpr ⟨?_, inDay, inHour⟩⟩
            exact ⟨by omega, by omega, by omega, by omega, by omega, by omega⟩
      · rw [if_pos (by simpa using left)] at read
        cases read
    · cases read
  · rintro ⟨rfl, valid⟩
    rcases isValid_minute.mp valid with ⟨date, inDay, inHour⟩
    rcases date with ⟨positive, -, month_pos, month_le, day_pos, day_le⟩
    rcases leftOver with ⟨-, -, split⟩ | ⟨none, -⟩
    · simp only [split, List.isEmpty_nil, Bool.not_true, Bool.false_eq_true, if_false,
        valueOf_two hours, valueOf_two minutes, beq_iff_eq]
      rw [if_pos (by omega), if_neg (by omega), if_neg (by omega)]
    · exact absurd ⟨inDay, inHour⟩ none

/-! ## Names of minutes -/

/-- How the name of a folder from a minute starts. -/
def minuteName (moment : Moment) : Text :=
  Text.paddedNat 4 moment.year ++ Text.paddedNat 2 moment.month ++ Text.paddedNat 2 moment.day ++
    "_" ++ Text.paddedNat 2 moment.hour ++ Text.paddedNat 2 moment.minute ++ "_"

/-- A name of a run folder from a minute of the calendar: its digits, an underscore after the date
and after the time, and more text in the same line, which a line feed may end. -/
structure Names (name : Text) (moment : Moment) : Prop where
  valid : moment.IsValid
  second : moment.second = 0
  microsecond : moment.microsecond = 0
  spelled : ∃ line, 0x0A ∉ line ∧
    (name = minuteName moment ++ line ∨ name = minuteName moment ++ line ++ [0x0A])

theorem minuteName_append (moment : Moment) (rest : Text) :
    minuteName moment ++ rest = Text.paddedNat 4 moment.year ++ Text.paddedNat 2 moment.month ++
      Text.paddedNat 2 moment.day ++ 0x5F :: (Text.paddedNat 2 moment.hour ++
        Text.paddedNat 2 moment.minute ++ 0x5F :: rest) := by
  have underscore : Text.ofString "_" = [0x5F] := by decide
  simp [minuteName, underscore]

theorem Names.exists_rest (names : Names name moment) :
    ∃ rest, name = minuteName moment ++ rest ∧ isOneLine rest = true := by
  rcases names.spelled with ⟨line, single, rfl | rfl⟩
  · exact ⟨line, rfl, isOneLine_iff.mpr ⟨line, single, .inl rfl⟩⟩
  · exact ⟨_, List.append_assoc .., isOneLine_iff.mpr ⟨line, single, .inr rfl⟩⟩

/-- A name of a minute is read as that minute. -/
theorem Names.read (names : Names name moment) :
    ∃ date time, groups? name = some (date, time) ∧ readMoment date time = .ok moment := by
  have valid := names.valid
  have years : moment.year < 10 ^ 4 := Nat.lt_succ_of_le valid.year_le
  rcases twoDigits valid with ⟨months, days, hours, minutes⟩
  have onMinute : moment =
      ⟨moment.year, moment.month, moment.day, moment.hour, moment.minute, 0, 0⟩ := by
    calc moment
      _ = ⟨moment.year, moment.month, moment.day, moment.hour, moment.minute, moment.second,
          moment.microsecond⟩ := rfl
      _ = _ := by rw [names.second, names.microsecond]
  rcases names.exists_rest with ⟨rest, rfl, oneLine⟩
  refine ⟨_, _, groups?_eq_some_iff.mpr ⟨rest, minuteName_append moment rest, ?_, ?_, ?_, ?_,
    oneLine⟩, (readMoment_padded years months days hours minutes).mpr ⟨onMinute, valid⟩⟩
  · rw [List.length_append, List.length_append, Text.length_paddedNat (by decide) years,
      Text.length_paddedNat (by decide) months, Text.length_paddedNat (by decide) days]
  · simp only [List.forall_mem_append]
    exact ⟨⟨Text.isDigit_paddedNat 4 _, Text.isDigit_paddedNat 2 _⟩, Text.isDigit_paddedNat 2 _⟩
  · rw [List.length_append, Text.length_paddedNat (by decide) hours,
      Text.length_paddedNat (by decide) minutes]
  · simp only [List.forall_mem_append]
    exact ⟨Text.isDigit_paddedNat 2 _, Text.isDigit_paddedNat 2 _⟩

/-- Digits in front of digits of ASCII are a number that is padded to their count. -/
theorem exists_padded_append (width : Nat) (some : 0 < width) (length : width ≤ text.length)
    (ascii : ∀ c ∈ text, c.isAsciiDigit = true) :
    ∃ n < 10 ^ width, text = Text.paddedNat width n ++ text.drop width := by
  have front : (text.take width).length = width := by
    rw [List.length_take]
    omega
  have filled : text.take width ≠ [] := by
    intro empty
    rw [empty, List.length_nil] at front
    omega
  rcases Text.exists_paddedNat filled fun c inside => ascii c (List.mem_of_mem_take inside) with
    ⟨n, below, same⟩
  rw [front] at below same
  exact ⟨n, below, by rw [← same, List.take_append_drop]⟩

theorem exists_padded_two (four : text.length = 4) (ascii : ∀ c ∈ text, c.isAsciiDigit = true) :
    ∃ first < 100, ∃ second < 100, text = Text.paddedNat 2 first ++ Text.paddedNat 2 second := by
  rcases exists_padded_append 2 (by decide) (by omega) ascii with ⟨first, small, split⟩
  have rest : ∀ c ∈ text.drop 2, c.isAsciiDigit = true :=
    fun c inside => ascii c (List.mem_of_mem_drop inside)
  have two : (text.drop 2).length = 2 := by
    rw [List.length_drop]
    omega
  rcases exists_padded_append 2 (by decide) two.ge rest with ⟨second, small', split'⟩
  rw [List.drop_of_length_le two.le, List.append_nil] at split'
  exact ⟨first, small, second, small', by rw [split, split']⟩

theorem exists_padded_date (eight : date.length = 8)
    (ascii : ∀ c ∈ date, c.isAsciiDigit = true) :
    ∃ year < 10000, ∃ month < 100, ∃ day < 100,
      date = Text.paddedNat 4 year ++ Text.paddedNat 2 month ++ Text.paddedNat 2 day := by
  rcases exists_padded_append 4 (by decide) (by omega) ascii with ⟨year, years, split⟩
  have rest : ∀ c ∈ date.drop 4, c.isAsciiDigit = true :=
    fun c inside => ascii c (List.mem_of_mem_drop inside)
  have four : (date.drop 4).length = 4 := by
    rw [List.length_drop]
    omega
  rcases exists_padded_two four rest with ⟨month, months, day, days, split'⟩
  exact ⟨year, years, month, months, day, days, by rw [split, split', List.append_assoc]⟩

/-- A name whose only decimal digits are those of ASCII. -/
def HasAsciiDigits (name : Text) : Prop :=
  ∀ c ∈ name, c.isDigit = true → c.isAsciiDigit = true

instance : Decidable (HasAsciiDigits name) :=
  decidable_of_iff (name.all fun c => !c.isDigit || c.isAsciiDigit) <| by
    rw [List.all_eq_true]
    refine forall₂_congr fun c _ => ?_
    cases c.isDigit <;> simp

/-- What is read from a name is the minute of which it is a name. -/
theorem names_iff (plain : HasAsciiDigits name) :
    Names name moment ↔
      ∃ date time, groups? name = some (date, time) ∧ readMoment date time = .ok moment := by
  refine ⟨Names.read, ?_⟩
  rintro ⟨date, time, shaped, read⟩
  rcases groups?_eq_some_iff.mp shaped with ⟨rest, rfl, eight, dates, four, times, single⟩
  rcases exists_padded_date eight fun c inside => plain c (by simp [inside]) (dates c inside) with
    ⟨year, years, month, months, day, days, rfl⟩
  rcases exists_padded_two four fun c inside => plain c (by simp [inside]) (times c inside) with
    ⟨hour, hours, minute, minutes, rfl⟩
  rcases (readMoment_padded years months days hours minutes).mp read with ⟨rfl, valid⟩
  rcases isOneLine_iff.mp single with ⟨line, noFeed, spelled⟩
  refine ⟨valid, rfl, rfl, line, noFeed, ?_⟩
  rw [← minuteName_append ⟨year, month, day, hour, minute, 0, 0⟩ rest]
  rcases spelled with rfl | rfl
  · exact .inl rfl
  · exact .inr (List.append_assoc ..).symm

end RunFolder

end SocialMigration
