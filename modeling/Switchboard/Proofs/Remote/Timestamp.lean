import Switchboard.Proofs.Number.Digits
import Switchboard.Proofs.Remote.Calendar

/-!
# Times read back

`timestamp_gregorian`: the text of a time reads as a moment of the Gregorian calendar, which lies as
many seconds after the start of 1970 as the time has.
-/

namespace Switchboard.Remote

open Number

attribute [ext] Date

/-- A date with a time of day. -/
@[ext]
structure Moment where
  date : Date
  hour : Nat
  minute : Nat
  second : Nat

variable {m m' : Moment}

structure Moment.Valid (m : Moment) : Prop where
  date : m.date.Valid
  hour : m.hour < 24
  minute : m.minute < 60
  second : m.second < 60

/-- The seconds from the start of 1970 to a moment. -/
def Moment.seconds (m : Moment) : Nat :=
  86400 * m.date.daysFromEpoch + 3600 * m.hour + 60 * m.minute + m.second

def TwoDigits (cs : List Char) (n : Nat) : Prop := Numeral cs n ∧ cs.length = 2

/-- A text reads as a moment: the year in four digits or more, everything else in two. -/
inductive Moment.Reads (m : Moment) (text : String) : Prop
  | intro (year month day hour minute second : List Char)
      (spelled : text.toList = year ++ '-' :: (month ++ '-' :: (day ++ ' ' ::
        (hour ++ ':' :: (minute ++ ':' :: second)))))
      (isYear : Numeral year m.date.year ∧ 4 ≤ year.length)
      (isMonth : TwoDigits month m.date.month)
      (isDay : TwoDigits day m.date.day)
      (isHour : TwoDigits hour m.hour)
      (isMinute : TwoDigits minute m.minute)
      (isSecond : TwoDigits second m.second)

theorem Moment.Reads.unique {text : String} (reads : m.Reads text) (other : m'.Reads text) :
    m = m' := by
  obtain ⟨_, _, _, _, _, _, spelled, ⟨y, -⟩, ⟨mo, -⟩, ⟨d, -⟩, ⟨h, -⟩, ⟨mi, -⟩, ⟨s, -⟩⟩ := reads
  obtain ⟨_, _, _, _, _, _, same, ⟨y', -⟩, ⟨mo', -⟩, ⟨d', -⟩, ⟨h', -⟩, ⟨mi', -⟩, ⟨s', -⟩⟩ := other
  rw [spelled] at same
  obtain ⟨years, same⟩ := y.eq_of_append y' (by decide) same
  obtain ⟨months, same⟩ := mo.eq_of_append mo' (by decide) same
  obtain ⟨days, same⟩ := d.eq_of_append d' (by decide) same
  obtain ⟨hours, same⟩ := h.eq_of_append h' (by decide) same
  obtain ⟨minutes, same⟩ := mi.eq_of_append mi' (by decide) same
  have seconds : m.second = m'.second := by rw [← s.value, ← s'.value, same]
  exact Moment.ext (Date.ext years months days) hours minutes seconds

theorem twoDigits_zeroPadded {n : Nat} (small : n < 100) :
    TwoDigits (zeroPadded 2 n).toList n := by
  have fits : (Nat.toDigits 10 n).length ≤ 2 :=
    (Nat.length_toDigits_le_iff (by decide) (by decide)).mpr small
  refine ⟨numeral_zeroPadded 2 n, ?_⟩
  rw [length_toList_zeroPadded, ← String.length_toList, toList_decimal, Nat.max_eq_left fits]

theorem daysOfMonth_le (year month : Nat) : daysOfMonth year month ≤ 31 := by
  unfold daysOfMonth
  grind

theorem Moment.Valid.day_lt (v : m.Valid) : m.date.day < 100 := by
  have day := v.date.day_le
  have month := daysOfMonth_le m.date.year m.date.month
  omega

/-- The text of a moment. -/
def Moment.text (m : Moment) : String :=
  zeroPadded 4 m.date.year ++ "-" ++ zeroPadded 2 m.date.month ++ "-" ++
    zeroPadded 2 m.date.day ++ " " ++ zeroPadded 2 m.hour ++ ":" ++ zeroPadded 2 m.minute ++ ":" ++
    zeroPadded 2 m.second

theorem Moment.Valid.reads_text (v : m.Valid) : m.Reads m.text := by
  have month := v.date.month_le
  have hour := v.hour
  have minute := v.minute
  have second := v.second
  refine .intro _ _ _ _ _ _ ?_ ⟨numeral_zeroPadded 4 _, le_length_zeroPadded 4 _⟩
    (twoDigits_zeroPadded (by omega)) (twoDigits_zeroPadded v.day_lt)
    (twoDigits_zeroPadded (by omega)) (twoDigits_zeroPadded (by omega))
    (twoDigits_zeroPadded (by omega))
  have dash : "-".toList = ['-'] := rfl
  have space : " ".toList = [' '] := rfl
  have colon : ":".toList = [':'] := rfl
  simp only [text, String.toList_append, List.append_assoc, dash, space, colon, List.cons_append,
    List.nil_append]

/-- The moment of a time. -/
def Moment.ofSeconds (secs : Nat) : Moment where
  date := Date.ofDays (secs / daySeconds)
  hour := secs % daySeconds / 3600
  minute := secs % daySeconds % 3600 / 60
  second := secs % daySeconds % 60

variable (secs : Nat)

theorem formatTimestamp_eq : formatTimestamp secs = (Moment.ofSeconds secs).text := rfl

theorem Moment.valid_ofSeconds : (ofSeconds secs).Valid where
  date := valid_ofDays _
  hour := by
    unfold ofSeconds daySeconds
    dsimp only
    omega
  minute := by
    unfold ofSeconds
    dsimp only
    omega
  second := Nat.mod_lt _ (by decide)

theorem Moment.seconds_ofSeconds : (ofSeconds secs).seconds = secs := by
  unfold seconds ofSeconds
  dsimp only
  rw [daysFromEpoch_ofDays, daySeconds]
  omega

theorem Moment.reads_formatTimestamp : (ofSeconds secs).Reads (formatTimestamp secs) := by
  rw [formatTimestamp_eq]
  exact (valid_ofSeconds secs).reads_text

/-- The text of a time reads as a valid moment whose seconds since the start of 1970 are the time.
Its date is reckoned without a result outside the words. No other time has the same text. -/
theorem timestamp_gregorian (secs : UInt64) :
    (∃ m : Moment, Date.reckon? (secs.toNat / daySeconds) = some m.date ∧
      m.Reads (formatTimestamp secs.toNat) ∧ m.Valid ∧ m.seconds = secs.toNat) ∧
    ∀ other : UInt64, formatTimestamp other.toNat = formatTimestamp secs.toNat → other = secs := by
  refine ⟨⟨Moment.ofSeconds secs.toNat, reckon?_eq ?_, Moment.reads_formatTimestamp _,
    Moment.valid_ofSeconds _, Moment.seconds_ofSeconds _⟩, fun other same => ?_⟩
  · have word := secs.toNat_lt
    rw [daySeconds]
    omega
  · have reads := Moment.reads_formatTimestamp secs.toNat
    rw [← same] at reads
    have moments := reads.unique (Moment.reads_formatTimestamp other.toNat)
    rw [← UInt64.toNat_inj, ← Moment.seconds_ofSeconds other.toNat, ← moments,
      Moment.seconds_ofSeconds]

end Switchboard.Remote
