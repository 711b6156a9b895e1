import TextTemplate.Calendar.Reader
import TextTemplate.Calendar.Writer
import TextTemplate.Proofs.Calendar.Civil
import TextTemplate.Proofs.Path.Joined

/-!
# Dates are read back from their texts

The text of a date, and that of a local date and time outside of a leap second, is read in the form
in which it was written, although other forms are tried before.

* `number?_append`, `year?_append`: numbers in front of what cannot extend them.
* `fields?_date`, `fields?_time`: the forms of the texts, in front of any further fields.
* `of_rfc?`, `rfc?_text_append`: without an offset, a text is too short for the form that has one.
* `Moment.parse?_text`: a plain moment is read from its text.
* `Moment.plain_of_parse?`: what is read without an offset and outside of leap seconds is plain.
-/

namespace TextTemplate.Calendar

open Lexer (Ends takeWhile_append_ends digit_starts)

/-! ## Digits -/

/-- The digits of a number after some zeros. -/
def filled (missing n : Nat) : List Char := List.replicate missing '0' ++ Nat.toDigits 10 n

theorem isDigit_filled (missing n : Nat) : ∀ c ∈ filled missing n, c.isDigit = true := by
  intro c hc
  rcases List.mem_append.mp hc with h | h
  · exact isDigit_of_mem_zeros h
  · exact isDigit_of_mem_digits h

theorem value_filled (missing n : Nat) : Nat.ofDigitChars 10 (filled missing n) 0 = n := by
  rw [filled, Nat.ofDigitChars_append, Nat.ofDigitChars_replicate_zero, Nat.mul_zero,
    Nat.ofDigitChars_ten_toDigits]

theorem exists_filled (missing n : Nat) :
    ∃ c more, filled missing n = c :: more ∧ c.isDigit = true := by
  have hNe : filled missing n ≠ [] := List.append_ne_nil_of_right_ne_nil _ Nat.toDigits_ne_nil
  obtain ⟨c, more, hCons⟩ := List.exists_cons_of_ne_nil hNe
  exact ⟨c, more, hCons, isDigit_filled missing n c (hCons ▸ List.mem_cons_self)⟩

theorem zeros_eq (width n : Nat) :
    zeros width n = filled (width - (Nat.toDigits 10 n).length) n := by
  have hSign : ¬ (n : Int) < 0 := by omega
  unfold zeros padded
  dsimp only
  rw [if_neg hSign, if_neg Bool.false_ne_true, List.nil_append, List.length_nil, Nat.zero_add]
  rfl

theorem length_zeros {width n : Nat} (hWidth : 0 < width) (h : n < Nat.pow 10 width) :
    (zeros width n).length = width := by
  have hDigits := (Nat.length_toDigits_le_iff (by decide) hWidth).mpr h
  rw [zeros_eq, filled, List.length_append, List.length_replicate]
  omega

/-- A number of exactly so many digits. -/
theorem exists_filled_zeros {width n : Nat} (hWidth : 0 < width) (h : n < Nat.pow 10 width) :
    ∃ missing, zeros width n = filled missing n ∧ (filled missing n).length = width :=
  ⟨_, zeros_eq width n, zeros_eq width n ▸ length_zeros hWidth h⟩

theorem trimStart_filled (missing n : Nat) (rest : List Char) :
    Text.trimStart (filled missing n ++ rest) = filled missing n ++ rest := by
  obtain ⟨c, more, hCons, hDigit⟩ := exists_filled missing n
  rw [hCons, List.cons_append]
  exact Lexer.trimStart_cons _ (digit_starts hDigit).1

namespace Moment

/-- A number is read up to the end of its digits, or as far as it may reach. -/
theorem number?_append {most missing n : Nat} {rest : List Char}
    (h : (filled missing n).length ≤ most)
    (hEnd : (filled missing n).length = most ∨ Ends Char.isDigit rest) :
    number? most (filled missing n ++ rest) = some (n, rest) := by
  have hTake : (filled missing n ++ rest).take most
      = filled missing n ++ rest.take (most - (filled missing n).length) := by
    rw [List.take_append, List.take_of_length_le h]
  have hEnds : Ends Char.isDigit (rest.take (most - (filled missing n).length)) := by
    rcases hEnd with hFull | hRest
    · rw [hFull, Nat.sub_self, List.take_zero]
      exact Ends.nil _
    · intro c after hCons
      refine hRest c (after ++ rest.drop (most - (filled missing n).length)) ?_
      rw [← List.cons_append, ← hCons, List.take_append_drop]
  have hDigits := (takeWhile_append_ends (isDigit_filled missing n) hEnds).1
  have hValue := value_filled missing n
  unfold number?
  rw [hTake, hDigits]
  split
  · rename_i hNil
    obtain ⟨c, more, hCons, -⟩ := exists_filled missing n
    rw [hCons] at hNil
    cases hNil
  · rw [hValue, List.drop_left]

theorem length_zeros_two {n : Nat} (h : n < 100) : (zeros 2 n).length = 2 :=
  length_zeros (by decide) h

theorem number?_two {n : Nat} (h : n < 100) (rest : List Char) :
    number? 2 (Text.trimStart (zeros 2 n ++ rest)) = some (n, rest) := by
  obtain ⟨missing, hZeros, hLength⟩ := exists_filled_zeros (Nat.succ_pos 1) h
  rw [hZeros, trimStart_filled]
  exact number?_append (Nat.le_of_eq hLength) (.inl hLength)

theorem char?_cons (c : Char) (rest : List Char) : char? c (c :: rest) = some rest := if_pos rfl

/-! ## Years -/

/-- The sign of a year that is written with one. -/
def IsSign (year : Int) (sign : Char) : Prop := year < 0 ∧ sign = '-' ∨ 0 ≤ year ∧ sign = '+'

theorem IsSign.not_digit {year : Int} {sign : Char} (h : IsSign year sign) :
    sign.isDigit = false := by
  rcases h with ⟨-, rfl⟩ | ⟨-, rfl⟩ <;> rfl

theorem IsSign.not_blank {year : Int} {sign : Char} (h : IsSign year sign) :
    Text.isBlank sign = false := by
  rcases h with ⟨-, rfl⟩ | ⟨-, rfl⟩ <;> rfl

/-- A year is four digits, or a sign and its digits. -/
theorem yearText_cases (year : Int) :
    (0 ≤ year ∧ ∃ missing, yearText .zero year = filled missing year.natAbs ∧
        (filled missing year.natAbs).length = 4) ∨
      ∃ sign missing, IsSign year sign ∧
        yearText .zero year = sign :: filled missing year.natAbs := by
  unfold yearText
  split
  · rename_i hFour
    refine .inl ⟨hFour.1, ?_⟩
    have hSmall : year.natAbs < 10000 := by omega
    obtain ⟨missing, hZeros, hLength⟩ := exists_filled_zeros (Nat.succ_pos 3) hSmall
    rw [zeros, Int.natAbs_of_nonneg hFour.1] at hZeros
    exact ⟨missing, hZeros, hLength⟩
  · refine .inr ?_
    unfold padded
    dsimp only
    by_cases hNegative : year < 0
    · rw [if_pos hNegative]
      exact ⟨_, _, .inl ⟨hNegative, rfl⟩, rfl⟩
    · rw [if_neg hNegative, if_pos rfl]
      exact ⟨_, _, .inr ⟨Int.not_lt.mp hNegative, rfl⟩, rfl⟩

theorem year?_digits {missing n : Nat} {rest : List Char}
    (hLength : (filled missing n).length = 4) :
    year? (filled missing n ++ rest) = some ((n : Int), rest) := by
  obtain ⟨c, more, hCons, hDigit⟩ := exists_filled missing n
  have hNumber : number? 4 (filled missing n ++ rest) = some (n, rest) :=
    number?_append (Nat.le_of_eq hLength) (.inl hLength)
  rw [hCons, List.cons_append] at hNumber ⊢
  unfold year?
  split
  · rename_i hMinus
    cases hMinus
    cases hDigit
  · rename_i hPlus
    cases hPlus
    cases hDigit
  · rw [hNumber]
    rfl

theorem number?_signed {missing n : Nat} {rest : List Char} (h : Ends Char.isDigit rest) :
    number? (filled missing n ++ rest).length (filled missing n ++ rest) = some (n, rest) :=
  number?_append (by rw [List.length_append]; exact Nat.le_add_right _ _) (.inr h)

theorem year?_append (year : Int) {rest : List Char} (h : Ends Char.isDigit rest) :
    year? (Text.trimStart (yearText .zero year ++ rest)) = some (year, rest) := by
  rcases yearText_cases year with ⟨hNonneg, missing, hText, hLength⟩ | ⟨sign, missing, hSign, hText⟩
  · rw [hText, trimStart_filled, year?_digits hLength, Int.natAbs_of_nonneg hNonneg]
  · rw [hText, List.cons_append, Lexer.trimStart_cons _ hSign.not_blank]
    rcases hSign with ⟨hNegative, rfl⟩ | ⟨hNonneg, rfl⟩
    · rw [year?, number?_signed h, Option.map_some]
      exact congrArg (fun n => some (n, rest)) (by omega)
    · rw [year?, number?_signed h, Option.map_some]
      exact congrArg (fun n => some (n, rest)) (Int.natAbs_of_nonneg hNonneg)

/-! ## Fields -/

theorem daysInMonth_le (year : Int) (month : Nat) : daysInMonth year month ≤ 31 := by
  unfold daysInMonth
  split
  · split <;> decide
  · split <;> decide

theorem month_lt (d : Date) : d.month < 100 := by
  have hMonth : d.civil.month ≤ 12 := d.exists_civil.2.1
  unfold Date.month
  omega

theorem day_lt (d : Date) : d.day < 100 := by
  have hDay : d.civil.day ≤ daysInMonth d.civil.year d.civil.month := d.exists_civil.2.2.2
  have hDays := daysInMonth_le d.civil.year d.civil.month
  unfold Date.day
  omega

theorem text_append (d : Date) (rest : List Char) : d.text ++ rest
    = yearText .zero d.year ++ '-' :: (zeros 2 d.month ++ '-' :: (zeros 2 d.day ++ rest)) := by
  simp only [Date.text, List.append_assoc, List.cons_append]

/-- The fields of a date. -/
def dateFields : List Field := [.year, .mark '-', .month, .mark '-', .day]

/-- The fields of a time of day. -/
def timeFields : List Field := [.hour, .mark ':', .minute, .mark ':', .second]

theorem fields?_date (d : Date) (more : List Field) (r : Reading) (rest : List Char) :
    fields? (dateFields ++ more) r (d.text ++ rest)
      = fields? more { r with civil := d.civil } rest := by
  have hDash (after : List Char) : Ends Char.isDigit ('-' :: after) := Ends.cons rfl after
  rw [text_append]
  simp only [dateFields, List.cons_append, List.nil_append, fields?, field?,
    year?_append d.year (hDash _), number?_two (month_lt d), number?_two (day_lt d), char?_cons,
    Option.map_some, Option.bind_some]
  rfl

theorem time_append (t : DayTime) (rest : List Char) : t.text ++ rest
    = zeros 2 t.hour ++ ':' :: (zeros 2 t.minute ++ ':' :: (zeros 2 t.secondOfMinute ++ rest)) := by
  simp only [DayTime.text, List.append_assoc, List.cons_append]

/-- The numbers of a time outside of a leap second have two digits. -/
theorem time_lt {t : DayTime} (hSecond : t.second < 86400) (hNano : t.nano = 0) :
    t.hour < 100 ∧ t.minute < 100 ∧ t.secondOfMinute < 100 := by
  unfold DayTime.hour DayTime.minute DayTime.secondOfMinute
  omega

theorem length_time {t : DayTime} (hSecond : t.second < 86400) (hNano : t.nano = 0) :
    t.text.length = 8 := by
  obtain ⟨hHour, hMinute, hSecondOfMinute⟩ := time_lt hSecond hNano
  simp only [DayTime.text, List.length_append, List.length_cons, length_zeros_two hHour,
    length_zeros_two hMinute, length_zeros_two hSecondOfMinute]

theorem fields?_time {t : DayTime} (hSecond : t.second < 86400) (hNano : t.nano = 0)
    (r : Reading) : fields? timeFields r t.text = some
      ({ r with hour := t.hour, minute := t.minute, second := t.secondOfMinute }, []) := by
  obtain ⟨hHour, hMinute, hSecondOfMinute⟩ := time_lt hSecond hNano
  rw [← List.append_nil t.text, time_append]
  simp only [timeFields, fields?, field?, number?_two hHour, number?_two hMinute,
    number?_two hSecondOfMinute, char?_cons, Option.map_some, Option.bind_some]

theorem time?_eq {t : DayTime} (hSecond : t.second < 86400) (hNano : t.nano = 0) (c : Civil) :
    Reading.time? ⟨c, t.hour, t.minute, t.secondOfMinute⟩ 0 = some t := by
  obtain ⟨second, nano⟩ := t
  dsimp only at hSecond hNano
  subst hNano
  have hFields : second / 3600 < 24 ∧ second / 60 % 60 < 60 ∧ second % 60 + 0 ≤ 60 := by omega
  have hOrdinary : ¬ second % 60 + 0 = 60 := by omega
  have hSum : second / 3600 * 3600 + second / 60 % 60 * 60 + (second % 60 + 0) = second := by omega
  unfold Reading.time? DayTime.hour DayTime.minute DayTime.secondOfMinute
  dsimp only
  rw [Nat.zero_div, if_pos hFields, if_neg hOrdinary, hSum]

/-! ## The form with an offset -/

theorem fixed?_of_not_digit {c : Char} (h : c.isDigit = false) (rest : List Char) :
    fixed? 4 (c :: rest) = none := by
  have hNone : ((c :: rest).take 4).takeWhile Char.isDigit = [] :=
    List.takeWhile_cons_of_neg (by simp [h])
  unfold fixed?
  rw [hNone]
  rfl

theorem length_of_fixed? {count n : Nat} {text rest : List Char}
    (h : fixed? count text = some (n, rest)) : text.length = count + rest.length := by
  unfold fixed? at h
  dsimp only at h
  split at h
  · rename_i hCount
    cases h
    have hTake := List.takeWhile_prefix (l := text.take count) Char.isDigit |>.length_le
    rw [hCount, List.length_take] at hTake
    rw [List.length_drop]
    omega
  · cases h

theorem length_of_char? {c : Char} {text rest : List Char} (h : char? c text = some rest) :
    text.length = rest.length + 1 := by
  cases text with
  | nil => cases h
  | cons d after =>
    rw [char?] at h
    split at h
    · cases h
      rfl
    · cases h

theorem length_of_rfcFraction? {text rest : List Char} {n : Nat}
    (h : rfcFraction? text = some (n, rest)) : rest.length ≤ text.length := by
  unfold rfcFraction? at h
  split at h
  · rename_i after
    split at h
    · cases h
    · cases h
      exact Nat.le_succ_of_le (List.dropWhile_suffix Char.isDigit).length_le
  · cases h
    exact Nat.le_refl _

theorem length_of_rfcOffset? {text : List Char} {offset : Int}
    (h : rfcOffset? text = some offset) : 0 < text.length := by
  cases text with
  | nil => cases h
  | cons c rest => exact Nat.succ_pos _

/-- A text in the form that has an offset starts with four digits and is longer than the local
ones; what is read from it has an offset. -/
theorem of_rfc? {text : List Char} {m : Moment} (h : rfc? text = some m) :
    (∃ year rest, fixed? 4 text = some (year, rest)) ∧ 20 ≤ text.length ∧
      ∃ utc offset, m = .zoned utc offset := by
  unfold rfc? at h
  obtain ⟨⟨year, afterYear⟩, hYear, h⟩ := Option.bind_eq_some_iff.mp h
  obtain ⟨beforeMonth, hDash, h⟩ := Option.bind_eq_some_iff.mp h
  obtain ⟨⟨month, afterMonth⟩, hMonth, h⟩ := Option.bind_eq_some_iff.mp h
  obtain ⟨beforeDay, hDash', h⟩ := Option.bind_eq_some_iff.mp h
  obtain ⟨⟨day, afterDay⟩, hDay, h⟩ := Option.bind_eq_some_iff.mp h
  obtain ⟨beforeHour, hMark, h⟩ := Option.bind_eq_some_iff.mp h
  obtain ⟨⟨hour, afterHour⟩, hHour, h⟩ := Option.bind_eq_some_iff.mp h
  obtain ⟨beforeMinute, hColon, h⟩ := Option.bind_eq_some_iff.mp h
  obtain ⟨⟨minute, afterMinute⟩, hMinute, h⟩ := Option.bind_eq_some_iff.mp h
  obtain ⟨beforeSecond, hColon', h⟩ := Option.bind_eq_some_iff.mp h
  obtain ⟨⟨second, afterSecond⟩, hSecond, h⟩ := Option.bind_eq_some_iff.mp h
  obtain ⟨⟨nano, afterFraction⟩, hFraction, h⟩ := Option.bind_eq_some_iff.mp h
  obtain ⟨offset, hOffset, h⟩ := Option.bind_eq_some_iff.mp h
  obtain ⟨date, -, h⟩ := Option.bind_eq_some_iff.mp h
  obtain ⟨time, -, h⟩ := Option.bind_eq_some_iff.mp h
  have hMark' : afterDay.length = beforeHour.length + 1 := by
    rcases Option.or_eq_some_iff.mp hMark with hUpper | ⟨-, hMark⟩
    · exact length_of_char? hUpper
    rcases Option.or_eq_some_iff.mp hMark with hLower | ⟨-, hSpace⟩
    · exact length_of_char? hLower
    · exact length_of_char? hSpace
  have hDateLength : text.length = 10 + afterDay.length := by
    rw [length_of_fixed? hYear, length_of_char? hDash, length_of_fixed? hMonth,
      length_of_char? hDash', length_of_fixed? hDay]
    omega
  have hTimeLength : afterDay.length = 9 + afterSecond.length := by
    rw [hMark', length_of_fixed? hHour, length_of_char? hColon, length_of_fixed? hMinute,
      length_of_char? hColon', length_of_fixed? hSecond]
    omega
  have hEnd : 0 < afterSecond.length :=
    Nat.lt_of_lt_of_le (length_of_rfcOffset? hOffset) (length_of_rfcFraction? hFraction)
  exact ⟨⟨year, afterYear, hYear⟩, by omega, _, _, (Option.some.inj h).symm⟩

theorem rfc?_text_append (d : Date) {rest : List Char} (h : rest.length < 10) :
    rfc? (d.text ++ rest) = none := by
  refine Option.eq_none_iff_forall_ne_some.mpr fun m hRead => ?_
  obtain ⟨⟨year, after, hYear⟩, hLength, -⟩ := of_rfc? hRead
  rcases yearText_cases d.year with ⟨-, missing, hText, hFour⟩ | ⟨sign, missing, hSign, hText⟩
  · have hDate : d.text.length = 10 := by
      simp only [Date.text, hText, List.length_append, List.length_cons, hFour,
        length_zeros_two (month_lt d), length_zeros_two (day_lt d)]
    rw [List.length_append] at hLength
    omega
  · rw [text_append, hText, List.cons_append, fixed?_of_not_digit hSign.not_digit] at hYear
    cases hYear

/-! ## Plain moments -/

/-- A supported date, or a local time on one in a whole second that is not a leap second. -/
def Plain : Moment → Prop
  | .zoned _ _ => False
  | .here dt => dt.date.isSupported = true ∧ dt.time.second < 86400 ∧ dt.time.nano = 0
  | .date d => d.isSupported = true

theorem read?_date (d : Date) (more : List Field) (rest : List Char) :
    read? (dateFields ++ more) (d.text ++ rest)
      = match fields? more ⟨d.civil, 0, 0, 0⟩ rest with
        | some (r, []) => some r
        | _ => none :=
  congrArg (fun | some (r, []) => some r | _ => none) (fields?_date d more _ rest)

theorem dateTimeForms_eq : dateTimeForms
    = [dateFields ++ (.mark 'T' :: timeFields), dateFields ++ (.space :: timeFields)] := rfl

theorem dateForms_eq : dateForms = dateFields :: dateForms.tail := rfl

theorem parse?_date {d : Date} (h : d.isSupported = true) : parse? d.text = some (.date d) := by
  have hRead (more : List Field) := read?_date d more []
  rw [List.append_nil] at hRead
  have hMark : ofDateTime? (dateFields ++ (.mark 'T' :: timeFields)) d.text = none := by
    rw [ofDateTime?, hRead]
    rfl
  have hSpace : ofDateTime? (dateFields ++ (.space :: timeFields)) d.text = none := by
    rw [ofDateTime?, hRead]
    rfl
  have hDate : ofDate? dateFields d.text = some (.date d) := by
    have hAll := hRead []
    rw [List.append_nil] at hAll
    have hCivil := Date.ofCivil?_civil h
    simp only [ofDate?, hAll, fields?, hCivil, Option.bind_eq_bind, Option.bind_some]
  have hRfc : rfc? d.text = none := by
    rw [← List.append_nil d.text]
    exact rfc?_text_append d (by decide)
  rw [parse?, hRfc, dateTimeForms_eq, dateForms_eq]
  simp only [List.findSome?_cons, hMark, hSpace, hDate, List.findSome?_nil, Option.none_or]

theorem parse?_dateTime {dt : DateTime} (h : dt.date.isSupported = true)
    (hSecond : dt.time.second < 86400) (hNano : dt.time.nano = 0) :
    parse? dt.text = some (.here dt) := by
  obtain ⟨d, t⟩ := dt
  dsimp only at h hSecond hNano
  have hRest : fields? (.mark 'T' :: timeFields) ⟨d.civil, 0, 0, 0⟩ ('T' :: t.text)
      = some (⟨d.civil, t.hour, t.minute, t.secondOfMinute⟩, []) := by
    simp only [fields?, field?, char?_cons, Option.map_some, Option.bind_some,
      fields?_time hSecond hNano]
  have hRead : ofDateTime? (dateFields ++ (.mark 'T' :: timeFields)) (d.text ++ 'T' :: t.text)
      = some (.here ⟨d, t⟩) := by
    have hCivil := Date.ofCivil?_civil h
    simp only [ofDateTime?, read?_date, hRest, hCivil, time?_eq hSecond hNano,
      Option.bind_eq_bind, Option.bind_some]
  have hRfc : rfc? (d.text ++ 'T' :: t.text) = none :=
    rfc?_text_append d (by rw [List.length_cons, length_time hSecond hNano]; decide)
  simp only [parse?, DateTime.text, hRfc, dateTimeForms_eq, List.findSome?_cons, hRead,
    Option.none_or, Option.some_or]

/-- A plain moment is read from its text. -/
theorem parse?_text {m : Moment} (h : m.Plain) : parse? m.text = some m := by
  cases m with
  | zoned utc offset => cases h
  | here dt => exact parse?_dateTime h.1 h.2.1 h.2.2
  | date d => exact parse?_date h

/-- Is the moment without an offset and outside of leap seconds? -/
def isLocal : Moment → Bool
  | .zoned _ _ => false
  | .here dt => !dt.time.isLeap
  | .date _ => true

theorem time?_range {r : Reading} {t : DayTime} (h : r.time? 0 = some t)
    (hLeap : t.isLeap = false) : t.second < 86400 ∧ t.nano = 0 := by
  unfold Reading.time? at h
  split at h
  · dsimp only at h
    split at h
    · cases h
      cases hLeap
    · cases h
      exact ⟨by dsimp only; omega, rfl⟩
  · cases h

/-- What is read without an offset and outside of leap seconds is plain. -/
theorem plain_of_parse? {text : List Char} {m : Moment} (h : parse? text = some m)
    (hLocal : m.isLocal = true) : m.Plain := by
  rw [parse?, Option.or_eq_some_iff] at h
  rcases h with hRfc | ⟨-, h⟩
  · obtain ⟨utc, offset, rfl⟩ := (of_rfc? hRfc).2.2
    cases hLocal
  rcases Option.or_eq_some_iff.mp h with hDateTime | ⟨-, hDate⟩
  · obtain ⟨form, -, hForm⟩ := List.exists_of_findSome?_eq_some hDateTime
    simp only [ofDateTime?, Option.bind_eq_bind, Option.bind_eq_some_iff, Option.some.injEq]
      at hForm
    obtain ⟨r, -, d, hCivil, t, hTime, rfl⟩ := hForm
    have hLeap : t.isLeap = false := by simpa [isLocal] using hLocal
    exact ⟨Date.isSupported_of_ofCivil? hCivil, time?_range hTime hLeap⟩
  · obtain ⟨form, -, hForm⟩ := List.exists_of_findSome?_eq_some hDate
    simp only [ofDate?, Option.bind_eq_bind, Option.bind_eq_some_iff, Option.some.injEq] at hForm
    obtain ⟨r, -, d, hCivil, rfl⟩ := hForm
    exact Date.isSupported_of_ofCivil? hCivil

/-! ## Texts without white space -/

theorem zeros_not_blank (width n : Nat) : ∀ c ∈ zeros width n, Text.isBlank c = false := by
  rw [zeros_eq]
  exact fun c hc => (digit_starts (isDigit_filled _ n c hc)).1

theorem yearText_not_blank (year : Int) :
    ∀ c ∈ yearText .zero year, Text.isBlank c = false := by
  have hFilled (missing : Nat) : ∀ c ∈ filled missing year.natAbs, Text.isBlank c = false :=
    fun c hc => (digit_starts (isDigit_filled _ _ c hc)).1
  rcases yearText_cases year with ⟨-, missing, hText, -⟩ | ⟨sign, missing, hSign, hText⟩
  · exact hText ▸ hFilled missing
  · exact hText ▸ List.forall_mem_cons.mpr ⟨hSign.not_blank, hFilled missing⟩

theorem dateText_not_blank (d : Date) : ∀ c ∈ d.text, Text.isBlank c = false := by
  have hDash : Text.isBlank '-' = false := rfl
  simp only [Date.text, List.forall_mem_append, List.forall_mem_cons]
  exact ⟨⟨yearText_not_blank _, hDash, zeros_not_blank 2 _⟩, hDash, zeros_not_blank 2 _⟩

theorem text_not_blank {m : Moment} (h : m.Plain) : ∀ c ∈ m.text, Text.isBlank c = false := by
  cases m with
  | zoned utc offset => cases h
  | date d => exact dateText_not_blank d
  | here dt =>
    have hColon : Text.isBlank ':' = false := rfl
    have hT : Text.isBlank 'T' = false := rfl
    simp only [text, DateTime.text, DayTime.text, List.forall_mem_append, List.forall_mem_cons]
    exact ⟨dateText_not_blank _, hT,
      ⟨zeros_not_blank 2 _, hColon, zeros_not_blank 2 _⟩, hColon, zeros_not_blank 2 _⟩

end Moment

end TextTemplate.Calendar
