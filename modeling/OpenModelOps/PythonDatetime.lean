import OpenModelOps.JsonNumbers

namespace PythonDatetime
open JsonText PythonText

def leap (year : Int) : Bool := decide (year % 4 = 0) && (decide (year % 100 ≠ 0) || decide (year % 400 = 0))

def daysInMonth (year month : Int) : Int :=
  if month = 2 then (if leap year then 29 else 28)
  else if month = 4 ∨ month = 6 ∨ month = 9 ∨ month = 11 then 30 else 31

-- Days from the epoch to a date. A year starts in March here, so that the leap
-- day is its last.
def ordinal (year month day : Int) : Int :=
  let shifted := if month ≤ 2 then year - 1 else year
  let yearOfEra := shifted % 400
  let shiftedMonth := if 2 < month then month - 3 else month + 9
  shifted / 400 * 146097 + (yearOfEra * 365 + yearOfEra / 4 - yearOfEra / 100) +
    ((153 * shiftedMonth + 2) / 5 + day - 1) - 719468

structure Place (century quad year day : Int) : Prop where
  centuries : 0 ≤ century ∧ century ≤ 3
  quads : 0 ≤ quad ∧ quad ≤ 24
  years : 0 ≤ year ∧ year ≤ 3
  days : 0 ≤ day ∧ day ≤ 365
  last : day = 365 → year = 3 ∧ (quad = 24 → century = 3)

section Calendar
variable {century quad year day days : Int}

theorem era_place {n : Int} (low : 0 ≤ n) (high : n < 146097) : ∃ century quad year day, Place century quad year day ∧
    n = 36524 * century + 1461 * quad + 365 * year + day := by
  have parts : ∃ f r : Int, 0 ≤ f ∧ f ≤ 3 ∧ n = 36524 * f + r ∧ 0 ≤ r ∧ r ≤ 36524 ∧ (r = 36524 → f = 3) :=
    ⟨min (n / 36524) 3,n - 36524 * min (n / 36524) 3,by omega⟩
  obtain ⟨f,r,f0,f3,rfl,r0,r1,full⟩ := parts
  refine ⟨f,r / 1461,min (r % 1461 / 365) 3,r % 1461 - 365 * min (r % 1461 / 365) 3,⟨?_,?_,?_,?_,?_⟩,?_⟩ <;> omega

theorem Place.yearOfEra (place : Place century quad year day)
    (same : n = 36524 * century + 1461 * quad + 365 * year + day) :
    (n - n / 1460 + n / 36524 - n / 146096) / 365 = 100 * century + 4 * quad + year := by
  obtain ⟨hf,hq,hk,hd,last⟩ := place
  have low : 36524 * century ≤ n := by omega
  have high : n ≤ 36524 * century + 36524 := by omega
  have edge : n = 36524 * century + 36524 → century = 3 := by omega
  have centuries : n / 36524 - n / 146096 = century := by
    clear same
    obtain rfl | rfl | rfl | rfl : century = 0 ∨ century = 1 ∨ century = 2 ∨ century = 3 := by omega
    all_goals omega
  have quads : n / 1460 = 25 * century + quad ∨ n / 1460 = 25 * century + quad + 1 ∧ 0 < day := by omega
  have full : day = 365 → n / 1460 = 25 * century + quad + 1 := by omega
  omega

def calendarMonth (shiftedMonth : Int) : Int := if shiftedMonth < 10 then shiftedMonth + 3 else shiftedMonth - 9

structure Dated (days era century quad year day shiftedMonth : Int) : Prop where
  place : Place century quad year day
  counted : days + 719468 = 146097 * era + (36524 * century + 1461 * quad + 365 * year + day)
  month : shiftedMonth = (5 * day + 2) / 153
  date : civil days = (100 * century + 4 * quad + year + era * 400 + (if calendarMonth shiftedMonth ≤ 2 then 1 else 0),
    calendarMonth shiftedMonth,day - (153 * shiftedMonth + 2) / 5 + 1)

theorem civil_dated (days : Int) : ∃ era century quad year day shiftedMonth,
    Dated days era century quad year day shiftedMonth := by
  obtain ⟨century,quad,year,day,place,same⟩ := era_place (n := (days + 719468) % 146097) (by omega) (by omega)
  refine ⟨(days + 719468) / 146097,century,quad,year,day,_,place,by omega,rfl,?_⟩
  have yearOfEra := place.yearOfEra same
  have years := place.years
  have quads := place.quads
  have quarters : (100 * century + 4 * quad + year) / 4 = 25 * century + quad := by omega
  have hundreds : (100 * century + 4 * quad + year) / 100 = century := by omega
  have dayOfYear : (days + 719468) % 146097 - (365 * (100 * century + 4 * quad + year) + (25 * century + quad) - century) =
      day := by omega
  rw [civil]
  simp only [yearOfEra,quarters,hundreds,dayOfYear]
  rfl

theorem Dated.months (dated : Dated days era century quad year day shiftedMonth) :
    0 ≤ shiftedMonth ∧ shiftedMonth ≤ 11 := by
  have := dated.place.days
  have := dated.month
  omega

theorem ordinal_civil (days : Int) : ordinal (civil days).1 (civil days).2.1 (civil days).2.2 = days := by
  obtain ⟨era,century,quad,year,day,shiftedMonth,dated⟩ := civil_dated days
  obtain ⟨low,high⟩ := dated.months
  obtain ⟨⟨c0,c3⟩,⟨q0,q24⟩,⟨y0,y3⟩,⟨d0,d365⟩,_⟩ := dated.place
  have counted := dated.counted
  have shifted : (if calendarMonth shiftedMonth ≤ 2 then
      100 * century + 4 * quad + year + era * 400 + (if calendarMonth shiftedMonth ≤ 2 then 1 else 0) - 1
      else 100 * century + 4 * quad + year + era * 400 + (if calendarMonth shiftedMonth ≤ 2 then 1 else 0)) =
      100 * century + 4 * quad + year + era * 400 := by
    split <;> omega
  have month : (if 2 < calendarMonth shiftedMonth then calendarMonth shiftedMonth - 3 else calendarMonth shiftedMonth + 9) =
      shiftedMonth := by
    unfold calendarMonth
    split <;> split <;> omega
  have era_ : (100 * century + 4 * quad + year + era * 400) / 400 = era := by omega
  have yearOfEra : (100 * century + 4 * quad + year + era * 400) % 400 = 100 * century + 4 * quad + year := by omega
  have quarters : (100 * century + 4 * quad + year) / 4 = 25 * century + quad := by omega
  have hundreds : (100 * century + 4 * quad + year) / 100 = century := by omega
  rw [dated.date,ordinal]
  simp only [shifted,month,era_,yearOfEra,quarters,hundreds]
  omega

def validDate (year month day : Int) : Bool :=
  decide (1 ≤ month) && decide (month ≤ 12) && decide (1 ≤ day) && decide (day ≤ daysInMonth year month)

theorem leap_last {century quad era : Int} (_centuries : 0 ≤ century ∧ century ≤ 3) (quads : 0 ≤ quad ∧ quad ≤ 24)
    (last : quad = 24 → century = 3) : leap (100 * century + 4 * quad + 3 + era * 400 + 1) = true := by
  simp only [leap,Bool.and_eq_true,Bool.or_eq_true,decide_eq_true_eq]
  refine ⟨by omega,?_⟩
  by_cases full : quad = 24
  · have := last full
    right
    omega
  · left
    omega

theorem civil_valid (days : Int) : validDate (civil days).1 (civil days).2.1 (civil days).2.2 = true := by
  obtain ⟨era,century,quad,year,day,shiftedMonth,dated⟩ := civil_dated days
  obtain ⟨low,high⟩ := dated.months
  obtain ⟨centuries,quads,_,⟨d0,d365⟩,last⟩ := dated.place
  have month := dated.month
  rw [dated.date]
  simp only [validDate,Bool.and_eq_true,decide_eq_true_eq]
  by_cases february : shiftedMonth = 11
  · have second : calendarMonth shiftedMonth = 2 := by rw [february]; rfl
    rw [second]
    refine ⟨⟨⟨by omega,by omega⟩,by omega⟩,?_⟩
    rw [daysInMonth,if_pos rfl,if_pos (le_refl 2)]
    by_cases final : day = 365
    · obtain ⟨third,century3⟩ := last final
      rw [third,leap_last centuries quads century3,if_pos rfl]
      omega
    · split <;> omega
  · have other : calendarMonth shiftedMonth ≠ 2 := by
      unfold calendarMonth
      split <;> omega
    rw [daysInMonth,if_neg other]
    unfold calendarMonth
    split <;> split <;> omega

end Calendar

-- The instants of datetime: the years 1 to 9999.
def earliest : Instant := -62135596800000000
def latest : Instant := 253402300799999999

def Representable (t : Instant) : Prop := earliest ≤ t ∧ t ≤ latest

instance (t : Instant) : Decidable (Representable t) := inferInstanceAs (Decidable (earliest ≤ t ∧ t ≤ latest))

theorem Representable.year (representable : Representable t) :
    1 ≤ (civil (t / 1000000 / 86400)).1 ∧ (civil (t / 1000000 / 86400)).1 ≤ 9999 := by
  have low : (-62135596800000000 : Int) ≤ t := representable.1
  have high : (253402300799999999 : Int) ≥ t := representable.2
  obtain ⟨era,century,quad,year,day,shiftedMonth,dated⟩ := civil_dated (t / 1000000 / 86400)
  obtain ⟨centuries,quads,years,days,_⟩ := dated.place
  have counted := dated.counted
  have month := dated.month
  have first : 0 ≤ era := by omega
  have final : era ≤ 24 := by omega
  rw [dated.date]
  unfold calendarMonth
  constructor
  · by_cases zero : 100 * century + 4 * quad + year + era * 400 = 0
    · have winter : ¬ shiftedMonth < 10 := by omega
      have january : shiftedMonth - 9 ≤ 2 := by omega
      rw [if_neg winter,if_pos january]
      omega
    · split <;> omega
  · by_cases full : 100 * century + 4 * quad + year + era * 400 = 9999
    · have summer : shiftedMonth < 10 := by omega
      have march : ¬ shiftedMonth + 3 ≤ 2 := by omega
      rw [if_pos summer,if_neg march]
      omega
    · split <;> omega

def number (width : Nat) (cs : Text) : Option (Nat × Text) :=
  if (cs.take width).length = width ∧ (cs.take width).all isDigit then some (digitsValue (cs.take width),cs.drop width)
  else none

def skip (c : Nat) : Text → Option Text
  | [] => none
  | d :: rest => if d = c then some rest else none

theorem skip_cons (c : Nat) (rest : Text) : skip c (c :: rest) = some rest := if_pos rfl

-- The digits after a point, in microseconds; further ones are cut off.
def fraction (cs : Text) : Option (Nat × Text) :=
  match cs with
  | [] => some (0,[])
  | c :: rest =>
    if c = 0x2e then
      if (rest.takeWhile isDigit).isEmpty then none
      else some (digitsValue ((rest.takeWhile isDigit ++ List.replicate 6 0x30).take 6),rest.dropWhile isDigit)
    else some (0,cs)

-- Minutes of an offset from UTC.
def utcOffset (cs : Text) : Option Int := do
  let negative ← cs.head?.bind fun c => if c = 0x2b then some false else if c = 0x2d then some true else none
  let (hours,cs) ← number 2 cs.tail
  let cs ← skip 0x3a cs
  let (minutes,cs) ← number 2 cs
  if cs = [] ∧ hours < 24 ∧ minutes < 60 then
    some (if negative then -((60 * hours + minutes : Nat) : Int) else (60 * hours + minutes : Nat))
  else none

-- Days from the epoch to a written date.
def readDate (cs : Text) : Option (Int × Text) := do
  let (year,cs) ← number 4 cs
  let cs ← skip 0x2d cs
  let (month,cs) ← number 2 cs
  let cs ← skip 0x2d cs
  let (day,cs) ← number 2 cs
  if 1 ≤ year ∧ validDate year month day = true then some (ordinal year month day,cs) else none

-- Microseconds from midnight.
def readClock (cs : Text) : Option (Int × Text) := do
  let (hour,cs) ← number 2 cs
  let cs ← skip 0x3a cs
  let (minute,cs) ← number 2 cs
  let cs ← skip 0x3a cs
  let (second,cs) ← number 2 cs
  let (microsecond,cs) ← fraction cs
  if hour < 24 ∧ minute < 60 ∧ second < 60 then
    some ((((60 * hour + minute) * 60 + second) * 1000000 + microsecond : Nat),cs)
  else none

-- datetime.fromisoformat of the layout that isoformat writes: an extended date
-- and time with an offset.
def fromisoformat (cs : Text) : Option Instant := do
  let (days,cs) ← readDate cs
  let (microseconds,cs) ← readClock cs.tail
  let offset ← utcOffset cs
  return days * 86400000000 + microseconds - offset * 60000000

theorem text_append (left right : String) : text (left ++ right) = text left ++ text right := by
  rw [text,String.toList_append,List.map_append]
  rfl

theorem text_padded (width : Nat) (n : Int) : text (padded width n) = zeroFilled width n.toNat := by
  rw [text,padded,String.toList_ofList,List.map_append,List.map_replicate,zeroFilled,text,List.length_map]
  rfl

theorem number_padded (width : Nat) {n : Int} (positive : 0 < width) (low : 0 ≤ n) (high : n < 10 ^ width) (rest : Text) :
    number width (text (padded width n) ++ rest) = some (n.toNat,rest) := by
  have small : n.toNat < 10 ^ width := by
    have cast : ((10 ^ width : Nat) : Int) = 10 ^ width := by push_cast; rfl
    omega
  have length := zeroFilled_length positive small
  have taken : (zeroFilled width n.toNat ++ rest).take width = zeroFilled width n.toNat := by
    rw [List.take_append_of_le_length (by omega),List.take_of_length_le (by omega)]
  have dropped : (zeroFilled width n.toNat ++ rest).drop width = rest := by
    rw [List.drop_append_of_le_length (by omega),List.drop_of_length_le (by omega)]
    rfl
  rw [text_padded,number,taken,dropped,length,zeroFilled_value,
    if_pos ⟨rfl,List.all_eq_true.mpr (zeroFilled_digits _ _)⟩]

-- The fraction is left out when it is zero.
def pointed (micro : Int) : String := if micro = 0 then "" else "." ++ padded 6 micro

theorem fraction_pointed {micro : Int} (low : 0 ≤ micro) (high : micro < 1000000) (ends : Undigited rest)
    (opened : ∃ c more, rest = c :: more ∧ c ≠ 0x2e) :
    fraction (text (pointed micro) ++ rest) = some (micro.toNat,rest) := by
  obtain ⟨c,more,rfl,undotted⟩ := opened
  unfold pointed
  split
  · rename_i zero
    rw [zero]
    exact if_neg undotted
  · have small : micro.toNat < 10 ^ 6 := by omega
    have length := zeroFilled_length (by decide) small
    obtain ⟨taken,dropped⟩ := digits_span (zeroFilled_digits 6 micro.toNat) ends
    have nonempty : (zeroFilled 6 micro.toNat).isEmpty = false := List.isEmpty_eq_false_iff.mpr (zeroFilled_nonempty _ _)
    have cut : (zeroFilled 6 micro.toNat ++ List.replicate 6 0x30).take 6 = zeroFilled 6 micro.toNat := by
      rw [List.take_append_of_le_length (by omega),List.take_of_length_le (by omega)]
    have spelled : text ("." ++ padded 6 micro) ++ c :: more = 0x2e :: (zeroFilled 6 micro.toNat ++ c :: more) := by
      have dot : text "." = [0x2e] := rfl
      rw [text_append,text_padded,dot]
      rfl
    rw [spelled,fraction,if_pos rfl]
    simp only [taken,dropped,nonempty,cut,zeroFilled_value]
    rfl

def dateText (year month day : Int) (rest : Text) : Text :=
  text (padded 4 year) ++ 0x2d :: (text (padded 2 month) ++ 0x2d :: (text (padded 2 day) ++ rest))

def clockText (second micro : Int) (rest : Text) : Text :=
  text (padded 2 (second / 3600)) ++ 0x3a :: (text (padded 2 (second / 60 % 60)) ++
    0x3a :: (text (padded 2 (second % 60)) ++ (text (pointed micro) ++ rest)))

theorem text_isoformat (t : Instant) : text (isoformat t) =
    dateText (civil (t / 1000000 / 86400)).1 (civil (t / 1000000 / 86400)).2.1 (civil (t / 1000000 / 86400)).2.2
      (0x54 :: clockText (t / 1000000 % 86400) (t % 1000000) [0x2b,0x30,0x30,0x3a,0x30,0x30]) := by
  have dash : text "-" = [0x2d] := rfl
  have separator : text "T" = [0x54] := rfl
  have colon : text ":" = [0x3a] := rfl
  have zone : text "+00:00" = [0x2b,0x30,0x30,0x3a,0x30,0x30] := rfl
  rw [isoformat,dateText,clockText,pointed]
  generalize civil (t / 1000000 / 86400) = date
  obtain ⟨year,month,day⟩ := date
  simp only [text_append,List.append_assoc,dash,separator,colon,zone,List.cons_append,List.nil_append]

theorem daysInMonth_le (year month : Int) : daysInMonth year month ≤ 31 := by
  unfold daysInMonth
  split
  · split <;> decide
  · split <;> decide

theorem readDate_text {year month day : Int} (first : 1 ≤ year) (final : year ≤ 9999)
    (valid : validDate year month day = true) (rest : Text) :
    readDate (dateText year month day rest) = some (ordinal year month day,rest) := by
  have dated := valid
  simp only [validDate,Bool.and_eq_true,decide_eq_true_eq] at dated
  obtain ⟨⟨⟨month1,month12⟩,day1⟩,last⟩ := dated
  have short := daysInMonth_le year month
  have yearText := number_padded 4 (by decide) (show 0 ≤ year by omega) (by omega)
  have monthText := number_padded 2 (by decide) (show 0 ≤ month by omega) (by omega)
  have dayText := number_padded 2 (by decide) (show 0 ≤ day by omega) (by omega)
  simp only [readDate,dateText,yearText,monthText,dayText,skip_cons,Option.bind_eq_bind,Option.bind_some]
  rw [Int.toNat_of_nonneg (by omega),Int.toNat_of_nonneg (by omega),Int.toNat_of_nonneg (by omega),
    if_pos ⟨by omega,valid⟩]

theorem readClock_text {second micro : Int} (low : 0 ≤ second) (high : second < 86400) (microLow : 0 ≤ micro)
    (microHigh : micro < 1000000) (ends : Undigited rest) (opened : ∃ c more, rest = c :: more ∧ c ≠ 0x2e) :
    readClock (clockText second micro rest) = some (second * 1000000 + micro,rest) := by
  have hourText := number_padded 2 (by decide) (show 0 ≤ second / 3600 by omega) (by omega)
  have minuteText := number_padded 2 (by decide) (show 0 ≤ second / 60 % 60 by omega) (by omega)
  have secondText := number_padded 2 (by decide) (show 0 ≤ second % 60 by omega) (by omega)
  have microText := fraction_pointed microLow microHigh ends opened
  simp only [readClock,clockText,hourText,minuteText,secondText,microText,skip_cons,Option.bind_eq_bind,Option.bind_some]
  rw [if_pos (by omega)]
  refine congrArg some (Prod.ext ?_ rfl)
  push_cast
  rw [Int.toNat_of_nonneg (by omega),Int.toNat_of_nonneg (by omega),Int.toNat_of_nonneg (by omega),
    Int.toNat_of_nonneg microLow]
  omega

theorem fromisoformat_isoformat (representable : Representable t) : fromisoformat (text (isoformat t)) = some t := by
  have date := readDate_text representable.year.1 representable.year.2 (civil_valid (t / 1000000 / 86400))
  have clock := @readClock_text [0x2b,0x30,0x30,0x3a,0x30,0x30] (t / 1000000 % 86400) (t % 1000000)
    (by omega) (by omega) (by omega) (by omega) rfl ⟨_,_,rfl,by decide⟩
  have zone : utcOffset [0x2b,0x30,0x30,0x3a,0x30,0x30] = some 0 := by decide +kernel
  rw [text_isoformat,fromisoformat,date]
  simp only [Option.bind_eq_bind,Option.bind_some,List.tail_cons,clock,zone,ordinal_civil]
  refine congrArg some (show (_ : Int) = _ from ?_)
  omega

theorem isoformat_injective (left : Representable s) (right : Representable t) (same : isoformat s = isoformat t) : s = t := by
  have read := fromisoformat_isoformat left
  rw [same,fromisoformat_isoformat right] at read
  exact (Option.some.inj read).symm

example : fromisoformat (text "2026-02-29T00:00:00+00:00") = none ∧
    fromisoformat (text "2028-02-29T01:00:00.5+00:30") = some 1835397000500000 := by decide +kernel

end PythonDatetime
