import FieldQuery.Calendar.Reading
import FieldQuery.Calendar.Written
import FieldQuery.Proofs.Text.Readers

/-!
Leap seconds in writing. The leap second at the end of a minute is written as second 60 and is read
again as what it was. One within a minute is written with the number of the second after it, so that
it cannot be told from that second. No reading of a text gives a leap second within a minute, but a
literal can be made of one.
-/

namespace FieldQuery
namespace Calendar

namespace ClockTime

variable {t : ClockTime}

/-- The time without its fraction of a second. A leap second stays one. -/
def wholeSecond (t : ClockTime) : ClockTime :=
  { t with
    nanosecond := t.nanosecond - t.fraction
    nanosecond_lt := Nat.lt_of_le_of_lt (Nat.sub_le ..) t.nanosecond_lt }

/-- A leap second, where the time is in one, is the last of its minute. -/
def LeapEndsMinute (t : ClockTime) : Prop := nanosPerSecond ≤ t.nanosecond → t.second = 59

/-- A leap second within a minute becomes the second after it. -/
def carried (t : ClockTime) : ClockTime :=
  if within : nanosPerSecond ≤ t.nanosecond ∧ t.second < 59 then
    { t with
      second := t.second + 1
      nanosecond := t.nanosecond - nanosPerSecond
      second_lt := Nat.succ_lt_succ within.2
      nanosecond_lt := Nat.lt_of_le_of_lt (Nat.sub_le ..) t.nanosecond_lt }
  else t

/-- What can be seen of the time in writing. -/
def shown (t : ClockTime) : ClockTime := t.carried.wholeSecond

section Arithmetic

theorem sub_nanosPerSecond_lt (t : ClockTime) :
    t.nanosecond - nanosPerSecond < nanosPerSecond := by
  have := t.nanosecond_lt
  omega

theorem whole_seconds_of_lt (plain : t.nanosecond < nanosPerSecond) :
    t.writtenSecond = t.second ∧ t.wholeSecond.nanosecond = 0 := by
  simp only [writtenSecond, wholeSecond, fraction, nanosPerSecond] at *
  omega

theorem whole_seconds_of_leap (leap : nanosPerSecond ≤ t.nanosecond) :
    t.writtenSecond = t.second + 1 ∧ t.wholeSecond.nanosecond = nanosPerSecond := by
  have := t.nanosecond_lt
  simp only [writtenSecond, wholeSecond, fraction, nanosPerSecond] at *
  omega

theorem writtenSecond_le (t : ClockTime) : t.writtenSecond ≤ 60 := by
  have := t.second_lt
  obtain plain | leap := Nat.lt_or_ge t.nanosecond nanosPerSecond
  · have := (whole_seconds_of_lt plain).1
    omega
  · have := (whole_seconds_of_leap leap).1
    omega

theorem writtenSecond_wholeSecond (t : ClockTime) :
    t.wholeSecond.writtenSecond = t.writtenSecond := by
  simp only [writtenSecond, wholeSecond, fraction, nanosPerSecond]
  omega

theorem wholeSecond_eq_self_iff : t.wholeSecond = t ↔ t.fraction = 0 := by
  have same : t.wholeSecond = t ↔ t.nanosecond - t.fraction = t.nanosecond := by
    simp [ClockTime.ext_iff, wholeSecond]
  rw [same, fraction, nanosPerSecond]
  omega

end Arithmetic

section Carrying

theorem carried_of_leapEndsMinute (regular : t.LeapEndsMinute) : t.carried = t := by
  apply dif_neg
  rintro ⟨leap, within⟩
  have := regular leap
  omega

theorem shown_of_leapEndsMinute (regular : t.LeapEndsMinute) : t.shown = t.wholeSecond := by
  rw [shown, carried_of_leapEndsMinute regular]

theorem shown_of_not_leapEndsMinute (within : ¬ t.LeapEndsMinute) :
    t.shown.hour = t.hour ∧ t.shown.minute = t.minute ∧ t.shown.second = t.second + 1 ∧
      t.shown.nanosecond = 0 := by
  obtain ⟨leap, other⟩ := Classical.not_imp.mp within
  have before : t.second < 59 := by
    have := t.second_lt
    omega
  have whole : t.nanosecond - nanosPerSecond - (t.nanosecond - nanosPerSecond) % nanosPerSecond =
      0 := by
    rw [Nat.mod_eq_of_lt t.sub_nanosPerSecond_lt, Nat.sub_self]
  simp [shown, carried, leap, before, wholeSecond, fraction, whole]

/-- What carrying leaves alone, and what it is for. -/
theorem carried_spec (t : ClockTime) :
    t.carried.hour = t.hour ∧ t.carried.minute = t.minute ∧
      t.carried.writtenSecond = t.writtenSecond ∧ t.carried.LeapEndsMinute := by
  rw [carried]
  split
  · next within =>
      refine ⟨rfl, rfl, ?_, ?_⟩
      · rw [(whole_seconds_of_leap within.1).1, writtenSecond,
          Nat.div_eq_of_lt t.sub_nanosPerSecond_lt]
      · exact fun leap => absurd t.sub_nanosPerSecond_lt (Nat.not_lt.mpr leap)
  · next regular =>
      refine ⟨rfl, rfl, rfl, ?_⟩
      intro leap
      have := t.second_lt
      omega

theorem chars_shown (t : ClockTime) : t.shown.chars = t.chars := by
  obtain ⟨hour, minute, second, -⟩ := t.carried_spec
  have whole : t.shown.writtenSecond = t.writtenSecond := by
    rw [shown, writtenSecond_wholeSecond, second]
  rw [chars, chars, whole, ← hour, ← minute]
  rfl

/-- A third of a second into a leap second after the fourth second of its minute. -/
def leapWithinMinute : ClockTime := (ofParts? 23 56 4 1333333333).get rfl

/-- The second that it looks like. -/
def secondAfterLeap : ClockTime := (ofParts? 23 56 5 0).get rfl

theorem shown_leapWithinMinute : leapWithinMinute.shown = secondAfterLeap := by decide

end Carrying

section Written

theorem ofParts?_parts (t : ClockTime) :
    ofParts? t.hour t.minute t.second t.nanosecond = some t := by
  simp [ofParts?, t.hour_lt, t.minute_lt, t.second_lt, t.nanosecond_lt]

theorem parts_of_ofParts? {hour minute second nanosecond : Nat}
    (made : ofParts? hour minute second nanosecond = some t) :
    t.second = second ∧ t.nanosecond = nanosecond := by
  rw [ofParts?] at made
  split at made
  · cases made
    exact ⟨rfl, rfl⟩
  · cases made

theorem ofWritten?_wholeSecond (regular : t.LeapEndsMinute) :
    ofWritten? t.hour t.minute t.writtenSecond 0 = some t.wholeSecond := by
  have parts := t.wholeSecond.ofParts?_parts
  obtain plain | leap := Nat.lt_or_ge t.nanosecond nanosPerSecond
  · obtain ⟨written, whole⟩ := whole_seconds_of_lt plain
    have before : t.second ≠ 60 := Nat.ne_of_lt t.second_lt
    rw [whole] at parts
    rw [ofWritten?, if_pos (by decide), written, if_neg before]
    exact parts
  · obtain ⟨written, whole⟩ := whole_seconds_of_leap leap
    have last : t.wholeSecond.second = 59 := regular leap
    rw [whole, last] at parts
    rw [ofWritten?, if_pos (by decide), written, regular leap, if_pos rfl]
    exact parts

/-- The time is found again from its numbers in writing. -/
theorem ofWritten?_shown (t : ClockTime) :
    ofWritten? t.hour t.minute t.writtenSecond 0 = some t.shown := by
  obtain ⟨hour, minute, second, regular⟩ := t.carried_spec
  have found := ofWritten?_wholeSecond regular
  rwa [hour, minute, second] at found

theorem leapEndsMinute_of_ofWritten? {hour minute second fraction : Nat}
    (made : ofWritten? hour minute second fraction = some t) : t.LeapEndsMinute := by
  rw [ofWritten?] at made
  split at made
  · next plain =>
      intro leap
      split at made
      · exact (parts_of_ofParts? made).1
      · rw [(parts_of_ofParts? made).2] at leap
        exact absurd plain (Nat.not_lt.mpr leap)
  · cases made

end Written

end ClockTime

section Readers

variable {cs rest : List Char} {t : ClockTime} {m n : Moment}

theorem leapEndsMinute_of_readHourMinuteSecond
    (read : readHourMinuteSecond cs = some (t, rest)) : t.LeapEndsMinute := by
  simp only [readHourMinuteSecond, Option.bind_eq_bind, Option.bind_eq_some_iff, Prod.exists,
    Option.pure_def, Option.some.injEq, Prod.mk.injEq] at read
  obtain ⟨_, _, _, -, _, -, _, _, -, _, made, rfl, -⟩ := read
  exact ClockTime.leapEndsMinute_of_ofWritten? made

theorem Timestamp.leapEndsMinute_of_readTime (read : readTime cs = some (t, rest)) :
    t.LeapEndsMinute := by
  simp only [readTime, Option.bind_eq_bind, Option.bind_eq_some_iff, Prod.exists,
    Option.pure_def, Option.some.injEq, Prod.mk.injEq] at read
  obtain ⟨_, _, -, _, -, _, _, -, _, -, _, _, -, _, _, -, _, made, rfl, -⟩ := read
  exact ClockTime.leapEndsMinute_of_ofWritten? made

namespace Moment

/-- A distance of whole minutes changes neither the second nor its fraction. -/
theorem leapEndsMinute_of_minutesEarlier? {minutes : Int}
    (earlier : m.minutesEarlier? minutes = some n) (regular : m.time.LeapEndsMinute) :
    n.time.LeapEndsMinute := by
  simp only [minutesEarlier?, Option.bind_eq_bind, Option.bind_eq_some_iff, Option.pure_def,
    Option.some.injEq] at earlier
  obtain ⟨_, -, time, made, rfl⟩ := earlier
  obtain ⟨second, nanosecond⟩ := ClockTime.parts_of_ofParts? made
  intro leap
  rw [nanosecond] at leap
  rw [second, regular leap]

theorem leapEndsMinute_of_readTimestamp? (read : readTimestamp? cs = some m) :
    m.time.LeapEndsMinute := by
  simp only [readTimestamp?, Option.bind_eq_bind, Option.bind_eq_some_iff, Prod.exists] at read
  obtain ⟨_, _, -, _, -, _, _, time, _, _, -, _, whole, earlier⟩ := read
  cases Text.eq_of_complete whole
  exact leapEndsMinute_of_minutesEarlier? earlier (Timestamp.leapEndsMinute_of_readTime time)

theorem leapEndsMinute_of_readJoined? (read : readJoined? cs = some m) :
    m.time.LeapEndsMinute := by
  simp only [readJoined?, Option.bind_eq_bind, Option.bind_eq_some_iff, Prod.exists] at read
  obtain ⟨_, _, -, _, -, _, _, time, whole⟩ := read
  cases Text.eq_of_complete whole
  exact leapEndsMinute_of_readHourMinuteSecond time

theorem leapEndsMinute_of_readSpaced? (read : readSpaced? cs = some m) :
    m.time.LeapEndsMinute := by
  simp only [readSpaced?, Option.bind_eq_bind, Option.bind_eq_some_iff, Prod.exists] at read
  obtain ⟨_, _, -, _, _, time, whole⟩ := read
  cases Text.eq_of_complete whole
  exact leapEndsMinute_of_readHourMinuteSecond time

theorem leapEndsMinute_of_readToMinute? (read : readToMinute? cs = some m) :
    m.time.LeapEndsMinute := by
  simp only [readToMinute?, Option.bind_eq_bind, Option.bind_eq_some_iff, Prod.exists] at read
  obtain ⟨_, _, -, _, -, _, _, _, -, _, made, whole⟩ := read
  cases Text.eq_of_complete whole
  exact ClockTime.leapEndsMinute_of_ofWritten? made

theorem leapEndsMinute_of_read? (read : Moment.read? cs = some m) : m.time.LeapEndsMinute := by
  simp only [Moment.read?, Option.orElse_eq_orElse, Option.orElse_eq_or, Option.or_eq_some_iff,
    Option.map_eq_some_iff] at read
  obtain read | ⟨-, read | ⟨-, read | ⟨-, read | ⟨-, d, -, rfl⟩⟩⟩⟩ := read
  · exact leapEndsMinute_of_readTimestamp? read
  · exact leapEndsMinute_of_readJoined? read
  · exact leapEndsMinute_of_readSpaced? read
  · exact leapEndsMinute_of_readToMinute? read
  · exact fun leap => absurd leap (Nat.not_succ_le_zero _)

end Moment

end Readers

end Calendar
end FieldQuery
