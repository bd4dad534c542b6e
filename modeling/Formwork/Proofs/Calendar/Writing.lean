import Formwork.Proofs.Calendar.Days
import Formwork.Proofs.Calendar.Digits
/-!
# Written instants are read again

The form in which an instant is shown is that of a clock of universal time, with a letter in place
of the offset. Each part of it has a width of its own, so that the reader finds it where it was
written.
-/
namespace Formwork.Calendar

/-! ## Parts -/

namespace Iso

variable {t : Time} {count n year month day hour minute second micro : Nat}
  {cs ys ms ds rest : List Char}

theorem date_spelt (hyear : Spells 4 year ys) (hmonth : Spells 2 month ms)
    (hday : Spells 2 day ds) :
    date (ys ++ '-' :: (ms ++ '-' :: (ds ++ rest))) = .ok (⟨year, month, day⟩, rest) := by
  have hfound : calendarDate? (ys ++ '-' :: (ms ++ '-' :: (ds ++ rest))) =
      some (⟨year, month, day⟩, rest) := by
    simp only [calendarDate?, hyear.take_append, hyear.drop_append, hmonth.take_append,
      hmonth.drop_append, hday.take_append, hday.drop_append, hyear.number_eq, hmonth.number_eq,
      hday.number_eq]
    rfl
  simp only [date, hfound]

theorem Spells.ending?_eq (h : Spells (count + 1) n cs) (rest : List Char) :
    ending? t (cs ++ rest) = none := by
  obtain ⟨c, more, rfl⟩ := List.exists_cons_of_length_eq_add_one h.length
  have hdigit := h.digits c List.mem_cons_self
  have hoffset : startsOffset (c :: (more ++ rest)) = false := by
    simp only [startsOffset, Bool.or_eq_false_iff, decide_eq_false_iff_not]
    refine ⟨⟨⟨?_, ?_⟩, ?_⟩, ?_⟩ <;> (rintro rfl; cases hdigit)
  simp [ending?, hoffset]

theorem time_spelt (h : Spells 2 hour cs) (rest : List Char) :
    time (cs ++ rest) = afterHours { hour := hour } rest := by
  have hlong : ¬ (cs ++ rest).length < 2 := by
    rw [List.length_append, h.length]
    omega
  rw [time, if_neg hlong, h.ending?_eq, h.take_append, h.drop_append, h.number_eq]
  rfl

theorem afterHours_spelt (h : Spells 2 minute cs) (rest : List Char) :
    afterHours t (':' :: (cs ++ rest)) = afterMinutes { t with minute := minute } true rest := by
  have hcolon : ending? t (':' :: (cs ++ rest)) = none := rfl
  simp only [afterHours, hcolon, List.head?_cons, if_true, List.drop_one, List.tail_cons,
    h.take_append, h.drop_append, h.number_eq, decide_true]
  rfl

theorem afterMinutes_spelt (h : Spells 2 second cs) (rest : List Char) :
    afterMinutes t true (':' :: (cs ++ rest)) = afterSeconds { t with second := second } rest := by
  have hcolon : ending? t (':' :: (cs ++ rest)) = none := rfl
  simp only [afterMinutes, hcolon, List.head?_cons, if_true, List.drop_one, List.tail_cons,
    h.take_append, h.drop_append, h.number_eq, ne_eq, not_true, and_false, if_false]
  rfl

theorem fraction_spelt (h : Spells 6 micro cs) :
    fraction ('.' :: (cs ++ ['Z'])) = (micro, ['Z']) := by
  have htake : (cs ++ ['Z']).takeWhile isDigit = cs := by
    rw [List.takeWhile_append_of_pos h.digits]
    exact List.append_nil cs
  have hdrop : (cs ++ ['Z']).dropWhile isDigit = ['Z'] := by
    rw [List.dropWhile_append_of_pos h.digits]
    rfl
  have hsome : cs.isEmpty = false := by
    rw [List.isEmpty_eq_false_iff, ← List.length_pos_iff, h.length]
    omega
  have hkept : cs.take 6 = cs := List.take_of_length_le (Nat.le_of_eq h.length)
  have hvalue : cs.foldl (fun n d => 10 * n + (d.toNat - '0'.toNat)) 0 = micro := h.value
  simp only [fraction, htake, hdrop, hsome, hkept, hvalue, h.length, true_or, Bool.not_false,
    and_self, if_true, Nat.sub_self]
  rw [show Nat.pow 10 0 = 1 from rfl, Nat.mul_one]

theorem afterSeconds_universal (ht : t.micro = 0) (h : micro < microsPerSecond) :
    afterSeconds t ((fractionText micro).toList ++ ['Z']) =
      .ok { t with micro := micro, offset := some 0 } := by
  by_cases hmicro : micro = 0
  · subst hmicro
    obtain ⟨hour, minute, second, still, offset⟩ := t
    obtain rfl : still = 0 := ht
    rfl
  · have htext : (fractionText micro).toList = '.' :: (padded 6 micro).toList := by
      simp [fractionText, hmicro]
    have hpoint : ending? t ('.' :: ((padded 6 micro).toList ++ ['Z'])) = none := rfl
    simp only [htext, List.cons_append, afterSeconds, hpoint,
      fraction_spelt (spells_padded (by decide) h)]
    rfl

/-- A character that a reader accepts and that begins no offset ahead of universal time. -/
def Plain (c : Char) : Prop := c.toNat ≤ 127 ∧ c ≠ '+'

instance : DecidablePred Plain := fun _ => inferInstanceAs (Decidable (_ ∧ _))

theorem plain_of_isDigit {c : Char} (h : isDigit c = true) : Plain c := by
  have hnine : c.toNat ≤ '9'.toNat := by
    simp only [isDigit, Bool.and_eq_true, decide_eq_true_eq] at h
    exact h.2
  refine ⟨Nat.le_trans hnine (by decide), ?_⟩
  rintro rfl
  cases h

end Iso

/-! ## Instants -/

namespace Instant

variable (i : Instant)

/-- The second of the day. -/
def secondOfDay : Nat := i.microOfDay / microsPerSecond

/-- The microsecond of the second. -/
def microOfSecond : Nat := i.microOfDay % microsPerSecond

theorem secondOfDay_lt : i.secondOfDay < 86400 := by
  have hday : i.microOfDay < microsPerDay := Nat.mod_lt _ (by decide)
  simp only [microsPerDay, microsPerSecond, secondOfDay] at *
  omega

theorem microOfSecond_lt : i.microOfSecond < microsPerSecond := Nat.mod_lt _ (by decide)

theorem inCalendar_date : i.date.InCalendar := by
  refine Date.inCalendar_ofNumber (Nat.div_lt_of_lt_mul ?_)
  rw [Nat.mul_comm]
  exact i.micros_lt

theorem ofParts_parts : ofParts i.date (i.secondOfDay / 3600) (i.secondOfDay / 60 % 60)
    (i.secondOfDay % 60) i.microOfSecond = .ok i := by
  obtain ⟨hyear, hyears, hmonth, hmonths, hday, hdays⟩ := i.inCalendar_date
  have hsecond := i.secondOfDay_lt
  have hmicros : i.date.number * microsPerDay + ((i.secondOfDay / 3600 * 60 +
      i.secondOfDay / 60 % 60) * 60 + i.secondOfDay % 60) * microsPerSecond + i.microOfSecond =
        i.micros := by
    have hclock : (i.secondOfDay / 3600 * 60 + i.secondOfDay / 60 % 60) * 60 +
      i.secondOfDay % 60 = i.secondOfDay := by omega
    have hnumber : i.date.number = i.micros / microsPerDay := Date.number_ofNumber _
    rw [hclock, hnumber, secondOfDay, microOfSecond, Nat.add_assoc, Nat.div_add_mod',
      microOfDay, Nat.div_add_mod']
  rw [ofParts, if_neg (by omega), if_neg (by omega), if_neg (by omega), if_neg (by omega),
    if_neg (by omega), if_neg (by omega)]
  have hcast := congrArg (fun n : Nat => (n : Int)) hmicros
  simp only [Int.natCast_add, Int.natCast_mul, Int.cast_ofNat_Int] at hcast
  rw [hcast, ofMicros?_micros]

section Parts

open Iso (Spells spells_padded)

theorem spells_year : Spells 4 i.date.year (padded 4 i.date.year).toList :=
  spells_padded (by decide) (Nat.lt_of_le_of_lt i.inCalendar_date.year_le (by decide))

theorem spells_month : Spells 2 i.date.month (padded 2 i.date.month).toList :=
  spells_padded (by decide) (Nat.lt_of_le_of_lt i.inCalendar_date.month_le (by decide))

theorem spells_day : Spells 2 i.date.day (padded 2 i.date.day).toList :=
  spells_padded (by decide) (Nat.lt_of_le_of_lt
    (Nat.le_trans i.inCalendar_date.day_le (monthLength_le _ _)) (by decide))

theorem spells_hour : Spells 2 (i.secondOfDay / 3600) (padded 2 (i.secondOfDay / 3600)).toList := by
  have := i.secondOfDay_lt
  exact spells_padded (by decide) (show _ < 100 by omega)

theorem spells_minute :
    Spells 2 (i.secondOfDay / 60 % 60) (padded 2 (i.secondOfDay / 60 % 60)).toList :=
  spells_padded (by decide) (show _ < 100 by omega)

theorem spells_second : Spells 2 (i.secondOfDay % 60) (padded 2 (i.secondOfDay % 60)).toList :=
  spells_padded (by decide) (show _ < 100 by omega)

end Parts

/-- What a clock shows behind the separator. -/
def timeText : List Char :=
  (padded 2 (i.secondOfDay / 3600)).toList ++ ':' ::
    ((padded 2 (i.secondOfDay / 60 % 60)).toList ++ ':' ::
      ((padded 2 (i.secondOfDay % 60)).toList ++ (fractionText i.microOfSecond).toList))

theorem clockText_toList (separator : String) : (i.clockText separator).toList =
    (padded 4 i.date.year).toList ++ '-' :: ((padded 2 i.date.month).toList ++ '-' ::
      ((padded 2 i.date.day).toList ++ (separator.toList ++ i.timeText))) := by
  simp [clockText, timeText, secondOfDay, microOfSecond]

theorem plain_clockText : ∀ c ∈ (i.clockText "T").toList, Iso.Plain c := by
  have hdigits {count n : Nat} {cs : List Char} (h : Iso.Spells count n cs) :
      ∀ c ∈ cs, Iso.Plain c := fun c hc => Iso.plain_of_isDigit (h.digits c hc)
  have hmark (mark : Char) (h : Iso.Plain mark) : ∀ c ∈ [mark], Iso.Plain c :=
    List.forall_mem_singleton.mpr h
  have hfraction : ∀ c ∈ (fractionText i.microOfSecond).toList, Iso.Plain c := by
    unfold fractionText
    split
    · simp
    · simp only [String.toList_append, List.forall_mem_append]
      exact ⟨hmark '.' (by decide),
        hdigits (Iso.spells_padded (by decide) i.microOfSecond_lt)⟩
  simp only [clockText_toList, timeText, List.forall_mem_append, List.forall_mem_cons]
  exact ⟨hdigits i.spells_year, by decide, hdigits i.spells_month, by decide,
    hdigits i.spells_day, hmark 'T' (by decide), hdigits i.spells_hour, by decide,
    hdigits i.spells_minute, by decide, hdigits i.spells_second, hfraction⟩

end Instant

/-- Where a text has no character with which the part begins, nothing is replaced. -/
theorem replaceFrom_append {p : Char} {part new cs : List Char} (h : ∀ c ∈ cs, c ≠ p)
    (rest : List Char) :
    replaceFrom (p :: part) new 0 (cs ++ rest) = cs ++ replaceFrom (p :: part) new 0 rest := by
  induction cs with
  | nil => rfl
  | cons c cs ih =>
    obtain ⟨hc, hcs⟩ := List.forall_mem_cons.mp h
    have hother : (p :: part).isPrefixOf (c :: (cs ++ rest)) = false := by
      simp [List.isPrefixOf, Ne.symm hc]
    rw [List.cons_append, replaceFrom, hother, ih hcs]
    rfl

namespace Instant

variable (i : Instant)

theorem isoText_toList : i.isoText.toList = (i.clockText "T").toList ++ ['Z'] := by
  have hplain : (Stamp.ofInstant i).plainText = i.clockText "T" ++ "+00:00" := rfl
  have hoffset : "+00:00".toList = '+' :: "00:00".toList := rfl
  rw [isoText, String.toList_ofList, hplain, String.toList_append, hoffset,
    replaceFrom_append fun c hc => (i.plain_clockText c hc).2]
  rfl

theorem isAscii_isoText : i.isoText.toList.any (fun c => 127 < c.toNat) = false := by
  rw [isoText_toList, List.any_eq_false, List.forall_mem_append]
  refine ⟨fun c hc => ?_, List.forall_mem_singleton.mpr (by decide)⟩
  have hascii := (i.plain_clockText c hc).1
  simp only [decide_eq_true_eq]
  omega

theorem date_isoText : Iso.date i.isoText.toList = .ok (i.date, 'T' :: (i.timeText ++ ['Z'])) := by
  have htext : i.isoText.toList = (padded 4 i.date.year).toList ++ '-' ::
      ((padded 2 i.date.month).toList ++ '-' ::
        ((padded 2 i.date.day).toList ++ 'T' :: (i.timeText ++ ['Z']))) := by
    rw [isoText_toList, clockText_toList]
    simp
  rw [htext, Iso.date_spelt i.spells_year i.spells_month i.spells_day]

theorem time_timeText : Iso.time (i.timeText ++ ['Z']) = .ok
    { hour := i.secondOfDay / 3600, minute := i.secondOfDay / 60 % 60,
      second := i.secondOfDay % 60, micro := i.microOfSecond, offset := some 0 } := by
  simp only [timeText, List.append_assoc, List.cons_append]
  rw [Iso.time_spelt i.spells_hour, Iso.afterHours_spelt i.spells_minute,
    Iso.afterMinutes_spelt i.spells_second, Iso.afterSeconds_universal rfl i.microOfSecond_lt]

end Instant

theorem Stamp.ofIso_eq {s : String} {date : Date} {separator : Char} {rest : List Char}
    {t : Iso.Time} {wall : Instant} (hascii : s.toList.any (fun c => 127 < c.toNat) = false)
    (hdate : Iso.date s.toList = .ok (date, separator :: rest)) (htime : Iso.time rest = .ok t)
    (hhour : t.hour ≠ 24)
    (hwall : Instant.ofParts date t.hour t.minute t.second t.micro = .ok wall) :
    ofIso s = .ok ⟨wall, t.offset⟩ := by
  have hbind {α β : Type} (a : α) (next : α → Except IsoFault β) : (.ok a >>= next) = next a := rfl
  simp only [ofIso, hascii, hdate, hbind, Bool.false_eq_true, if_false, List.isEmpty_cons,
    List.drop_one, List.tail_cons, htime, hhour, false_and, hwall, Except.mapError]
  rfl

/-- What an instant is shown as is read as the clock of universal time that shows it. -/
theorem Stamp.ofIso_isoText (i : Instant) : ofIso i.isoText = .ok (ofInstant i) := by
  have hhour : i.secondOfDay / 3600 ≠ 24 := by
    have := i.secondOfDay_lt
    omega
  exact ofIso_eq i.isAscii_isoText i.date_isoText i.time_timeText hhour i.ofParts_parts

theorem Instant.ofIso_isoText (i : Instant) : ofIso i.isoText = .ok i := by
  have hbind (s : Stamp) (next : Stamp → Except IsoFault Instant) : (.ok s >>= next) = next s := rfl
  simp only [ofIso, Stamp.ofIso_isoText, hbind, Stamp.instant?_ofInstant]
  rfl

namespace Stamp

/-- The instant of a stamp is as much earlier than what the clock shows as the clock is ahead. -/
theorem instant?_eq (s : Stamp) :
    s.instant? = Instant.ofMicros? (s.wall.micros - s.offset.getD 0) := by
  obtain ⟨wall, offset⟩ := s
  cases offset with
  | none => simp [instant?, Instant.ofMicros?_micros]
  | some ahead => simp [instant?, Instant.shift?, Int.sub_eq_add_neg]

theorem instant?_of_reached {s : Stamp} (begun : s.offset.getD 0 ≤ s.wall.micros)
    (ends : s.wall.micros - s.offset.getD 0 < microCount) :
    ∃ i : Instant, s.instant? = some i ∧ (i.micros : Int) = s.wall.micros - s.offset.getD 0 := by
  have hreached : 0 ≤ s.wall.micros - s.offset.getD 0 ∧
    s.wall.micros - s.offset.getD 0 < microCount := ⟨Int.sub_nonneg_of_le begun, ends⟩
  refine ⟨⟨(s.wall.micros - s.offset.getD 0).toNat, by omega⟩, ?_, Int.toNat_of_nonneg hreached.1⟩
  rw [instant?_eq, Instant.ofMicros?, dif_pos hreached]

/-- A clock with whatever offset, or with none, has an instant if the calendar reaches it. What it
is shown as is read as that instant, and the clock of universal time that shows the instant is
shown as the same. -/
theorem isoText_round_trip {s : Stamp} (begun : s.offset.getD 0 ≤ s.wall.micros)
    (ends : s.wall.micros - s.offset.getD 0 < microCount) :
    ∃ (i : Instant) (text : String), s.instant? = some i ∧
      (i.micros : Int) = s.wall.micros - s.offset.getD 0 ∧ s.isoText? = some text ∧
        Instant.ofIso text = .ok i ∧ (ofInstant i).isoText? = s.isoText? := by
  obtain ⟨i, hinstant, hmicros⟩ := instant?_of_reached begun ends
  have htext : s.isoText? = some i.isoText := by rw [isoText?, hinstant, Option.map_some]
  have hagain : (ofInstant i).isoText? = some i.isoText := by
    rw [isoText?, instant?_ofInstant, Option.map_some]
  exact ⟨i, i.isoText, hinstant, hmicros, htext, i.ofIso_isoText, hagain.trans htext.symm⟩

/-- The last half hour of a year, on a clock five and a half hours behind. -/
def lateYear : Stamp := ⟨⟨738884 * microsPerDay + 84600000007, by decide⟩, some (-19800000000)⟩

theorem isoText_round_trip_lateYear : ∃ i : Instant, lateYear.instant? = some i ∧
    lateYear.isoText? = some "2024-01-01T05:00:00.000007Z" ∧
      Instant.ofIso "2024-01-01T05:00:00.000007Z" = .ok i := by
  have htext : lateYear.isoText? = some "2024-01-01T05:00:00.000007Z" := rfl
  obtain ⟨i, text, hinstant, -, hshown, hread, -⟩ :=
    isoText_round_trip (s := lateYear) (by decide) (by decide)
  obtain rfl := Option.some.inj (htext.symm.trans hshown)
  exact ⟨i, hinstant, htext, hread⟩

end Stamp
end Formwork.Calendar
