import BoundSql.Dialect.Builtin
import BoundSql.Dialect.Scalar
import BoundSql.Proofs.Calendar.Days
import BoundSql.Proofs.Number.Digits

/-!
# What a timestamp denotes

A date and time with an offset is written in UTC and to the second. Whatever the offset is, what is
written is a date of the calendar with a time of day, and read as UTC it is the same moment without
the fraction of its second (`DateTime.timestamp_denotes`). So timestamps tell seconds apart and
nothing else, and the literal of every dialect holds the timestamp.
-/

namespace BoundSql

theorem Date.of?_self (d : Date) : Date.of? d.year d.month d.day = some d :=
  dif_pos ⟨d.one_le_month, d.month_le, d.one_le_day, d.day_le⟩

namespace DateTime

/-! ### Moments -/

/-- The moment on the line of time in nanoseconds. -/
def moment (t : DateTime) : Int := t.instant * 1000000000 + t.nanosecond

/-- In UTC the day lies in the years from -9999 to 9999. -/
def InYears (t : DateTime) : Prop :=
  ∃ d : Date, -9999 ≤ d.year ∧ d.year ≤ 9999 ∧ d.dayNumber = t.instant / 86400

theorem moment_div (t : DateTime) : t.moment / 1000000000 = t.instant := by
  have := t.nanosecond_lt
  unfold moment
  omega

/-- UTC puts the same moment into a day and the seconds of it. -/
theorem utc_spec (t : DateTime) :
    t.utc.1.dayNumber = t.instant / 86400 ∧ (t.utc.2 : Int) = t.instant % 86400 := by
  have hday : t.utc.1.dayNumber = t.date.dayNumber + (t.second - t.offset) / 86400 :=
    Date.dayNumber_addDays t.date _
  have hsecond : (t.utc.2 : Int) = (t.second - t.offset) % 86400 :=
    Int.toNat_of_nonneg (Int.emod_nonneg _ (by decide))
  rw [hday, hsecond, instant]
  omega

theorem utc_second_lt (t : DateTime) : t.utc.2 < 86400 := by
  have h := t.utc_spec.2
  omega

theorem inYears_iff {t : DateTime} :
    t.InYears ↔ -9999 ≤ t.utc.1.year ∧ t.utc.1.year ≤ 9999 := by
  constructor
  · rintro ⟨d, hlow, hhigh, hd⟩
    have h : d = t.utc.1 := Date.dayNumber_injective (hd.trans t.utc_spec.1.symm)
    exact h ▸ ⟨hlow, hhigh⟩
  · exact fun h => ⟨t.utc.1, h.1, h.2, t.utc_spec.1⟩

/-- The second determines the day and the time of day in UTC. -/
theorem utc_eq_of_instant_eq {t u : DateTime} (h : t.instant = u.instant) : t.utc = u.utc := by
  have ht := t.utc_spec
  have hu := u.utc_spec
  rw [h] at ht
  refine Prod.ext (Date.dayNumber_injective (ht.1.trans hu.1.symm)) ?_
  exact Int.ofNat_inj.1 (ht.2.trans hu.2.symm)

theorem instant_eq_of_utc_eq {t u : DateTime} (h : t.utc = u.utc) : t.instant = u.instant := by
  have ht := t.utc_spec
  have hu := u.utc_spec
  rw [h] at ht
  omega

/-! ### Reading a timestamp -/

/-- The text after the given character, if it begins with it. -/
def takeChar? (c : Char) : List Char → Option (List Char)
  | d :: cs => if d = c then some cs else none
  | [] => none

/-- The number in two digits after the given character. -/
def takeField? (c : Char) (cs : List Char) : Option (Nat × List Char) :=
  (takeChar? c cs).bind (takeFixed? 2)

/-- A year in at least four digits, with a minus sign if and only if it is negative. -/
def takeYear? : List Char → Option (Int × List Char)
  | '-' :: cs => (takeNumber? 4 cs).bind fun x => if x.1 = 0 then none else some (-x.1, x.2)
  | cs => (takeNumber? 4 cs).map fun x => (x.1, x.2)

/-- The date and time in UTC that a text of the form `YYYY-MM-DD HH:MM:SS` denotes, if the calendar
has the date and the day has the time. -/
def ofTimestamp? (cs : List Char) : Option DateTime := do
  let (year, cs) ← takeYear? cs
  let (month, cs) ← takeField? '-' cs
  let (day, cs) ← takeField? '-' cs
  let (hour, cs) ← takeField? ' ' cs
  let (minute, cs) ← takeField? ':' cs
  let (second, cs) ← takeField? ':' cs
  if cs = [] then
    let date ← Date.of? year month day
    DateTime.of? date hour minute second 0 0
  else none

theorem takeYear?_yearText (y : Int) {c : Char} (hc : c.isDigit = false) (rest : List Char) :
    takeYear? (yearText y ++ c :: rest) = some (y, c :: rest) := by
  have hread : takeNumber? 4 (paddedDigits 4 y.natAbs ++ c :: rest) =
      some (y.natAbs, c :: rest) := takeNumber?_paddedDigits 4 _ (by simpa using hc)
  unfold yearText
  split
  · rename_i hy
    have hne : y.natAbs ≠ 0 := by omega
    have hneg : -(y.natAbs : Int) = y := by omega
    rw [List.cons_append, takeYear?, hread, Option.bind_some, if_neg hne, hneg]
  · rename_i hy
    have hpos : (y.natAbs : Int) = y := by omega
    cases hds : paddedDigits 4 y.natAbs with
    | nil => exact absurd (le_length_paddedDigits 4 y.natAbs) (by simp [hds])
    | cons d ds =>
      have hmem : d ∈ paddedDigits 4 y.natAbs := by simp [hds]
      have hminus : d ≠ '-' := by
        rintro rfl
        exact absurd (isDigit_of_mem_paddedDigits hmem) (by decide)
      rw [hds, List.cons_append] at hread
      rw [List.cons_append, takeYear?, hread, Option.map_some, hpos]
      exact fun _ h => hminus (List.cons.inj h).1

theorem takeField?_paddedDigits {c : Char} {n : Nat} (h : n < 100) (rest : List Char) :
    takeField? c (c :: (paddedDigits 2 n ++ rest)) = some (n, rest) := by
  rw [takeField?, takeChar?, if_pos rfl, Option.bind_some, takeFixed?_paddedDigits h (by decide)]

/-- A timestamp is read as the day and the seconds it was made of. -/
theorem ofTimestamp?_stamp {d : Date} {s : Nat} (hlow : -9999 ≤ d.year) (hhigh : d.year ≤ 9999)
    (hs : s < 86400) : ofTimestamp? (stamp d s) =
      some ⟨d, s, 0, 0, hlow, hhigh, hs, by decide, by decide, by decide⟩ := by
  have hmonth : d.month < 100 := Nat.lt_of_le_of_lt d.month_le (by decide)
  have hday : d.day < 100 :=
    Nat.lt_of_le_of_lt (d.day_le.trans (daysInMonth_le d.year d.month)) (by decide)
  have hstamp : stamp d s = yearText d.year ++ '-' :: (paddedDigits 2 d.month ++
      '-' :: (paddedDigits 2 d.day ++ ' ' :: (paddedDigits 2 (s / 3600) ++
        ':' :: (paddedDigits 2 (s / 60 % 60) ++ ':' :: (paddedDigits 2 (s % 60) ++ []))))) := by
    simp [stamp]
  have hhour : s / 3600 < 100 := by omega
  have hminute : s / 60 % 60 < 100 := by omega
  have hsecond : s % 60 < 100 := by omega
  have hdash : Char.isDigit '-' = false := rfl
  have hsum : s / 3600 * 3600 + s / 60 % 60 * 60 + s % 60 = s := by omega
  simp only [ofTimestamp?, hstamp, takeYear?_yearText d.year hdash,
    takeField?_paddedDigits hmonth, takeField?_paddedDigits hday, takeField?_paddedDigits hhour,
    takeField?_paddedDigits hminute, takeField?_paddedDigits hsecond, Option.bind_eq_bind,
    Option.bind_some, Date.of?_self, if_true]
  rw [DateTime.of?, dif_pos ⟨⟨hlow, hhigh⟩, by omega, by decide, by decide, by decide⟩]
  simp only [hsum]

/-- Timestamps differ where the days or the times of day do. -/
theorem stamp_injective {d e : Date} {s r : Nat} (hd : -9999 ≤ d.year ∧ d.year ≤ 9999)
    (he : -9999 ≤ e.year ∧ e.year ≤ 9999) (hs : s < 86400) (hr : r < 86400)
    (h : stamp d s = stamp e r) : d = e ∧ s = r := by
  have hread := ofTimestamp?_stamp hd.1 hd.2 hs
  rw [h, ofTimestamp?_stamp he.1 he.2 hr] at hread
  have heq := Option.some.inj hread
  exact ⟨(congrArg DateTime.date heq).symm, (congrArg DateTime.second heq).symm⟩

/-! ### Timestamps -/

theorem timestamp?_eq_some_iff {t : DateTime} {text : String} :
    t.timestamp? = some text ↔ t.InYears ∧ text.toList = stamp t.utc.1 t.utc.2 := by
  rw [timestamp?, inYears_iff]
  split
  · rename_i h
    rw [Option.some_inj, and_iff_right h, ← String.toList_inj, String.toList_ofList, eq_comm]
  · rename_i h
    simp [h]

/-- Two moments have the same timestamp exactly if they lie in the same second. -/
theorem timestamp?_eq_iff {t u : DateTime} {text : String} (ht : t.timestamp? = some text) :
    u.timestamp? = some text ↔ u.instant = t.instant := by
  obtain ⟨hyears, htext⟩ := timestamp?_eq_some_iff.1 ht
  rw [timestamp?_eq_some_iff, htext]
  constructor
  · rintro ⟨hu, h⟩
    obtain ⟨hdate, hsecond⟩ := stamp_injective (inYears_iff.1 hyears) (inYears_iff.1 hu)
      t.utc_second_lt u.utc_second_lt h
    exact instant_eq_of_utc_eq (Prod.ext hdate.symm hsecond.symm)
  · intro h
    refine ⟨?_, by rw [utc_eq_of_instant_eq h]⟩
    rwa [InYears, h]

/-- What is read from a timestamp is the moment in UTC, without the fraction of its second. -/
theorem read_timestamp {t : DateTime} {text : String} (h : t.timestamp? = some text) :
    ∃ u, ofTimestamp? text.toList = some u ∧ u.offset = 0 ∧
      u.moment = t.moment / 1000000000 * 1000000000 := by
  obtain ⟨hyears, htext⟩ := timestamp?_eq_some_iff.1 h
  obtain ⟨hlow, hhigh⟩ := inYears_iff.1 hyears
  refine ⟨_, by rw [htext, ofTimestamp?_stamp hlow hhigh t.utc_second_lt], rfl, ?_⟩
  have hutc := t.utc_spec
  have hinstant : t.utc.1.dayNumber * 86400 + t.utc.2 - 0 = t.instant := by omega
  rw [moment_div, ← hinstant]
  exact Int.add_zero _

end DateTime

/-! ### Literals -/

/-- What stands between the first two quotation marks in an expression. -/
def firstQuoted (cs : List Char) : List Char :=
  ((cs.dropWhile (· != '\'')).drop 1).takeWhile (· != '\'')

theorem firstQuoted_eq {l cs r : List Char} (hl : '\'' ∉ l) (hcs : '\'' ∉ cs) :
    firstQuoted (l ++ '\'' :: (cs ++ '\'' :: r)) = cs := by
  have hpass : ∀ ds : List Char, '\'' ∉ ds → ∀ c ∈ ds, (c != '\'') = true := by
    intro ds hds c hc
    exact bne_iff_ne.2 fun h => hds (h ▸ hc)
  rw [firstQuoted, List.dropWhile_append_of_pos (hpass l hl)]
  simp [List.takeWhile_append_of_pos (hpass cs hcs)]

/-- Before the date a literal of a family has one quotation mark, at the end, and after it another
one, at the beginning. -/
theorem Dialect.IsBuiltin.date_quotes {d : Dialect} (hd : d.IsBuiltin) :
    ∃ l r, d.dateOpening.toList = l ++ ['\''] ∧ '\'' ∉ l ∧ d.dateClosing.toList = '\'' :: r := by
  obtain f | _ | v := hd
  · cases f
    · exact ⟨[], [], rfl, by decide, rfl⟩
    · exact ⟨[], "::timestamp".toList, rfl, by decide, rfl⟩
    · exact ⟨[], [], rfl, by decide, rfl⟩
    · exact ⟨"CAST(".toList, " AS DATETIME2)".toList, rfl, by decide, rfl⟩
    · exact ⟨"TO_TIMESTAMP(".toList, ", 'YYYY-MM-DD HH24:MI:SS')".toList, rfl, by decide, rfl⟩
  · exact ⟨"CAST(".toList, " AS DATETIME2)".toList, rfl, by decide, rfl⟩
  · have hopen : (Dialect.oracleVersion v).dateOpening = Dialect.oracle.dateOpening := rfl
    have hclose : (Dialect.oracleVersion v).dateClosing = Dialect.oracle.dateClosing := rfl
    rw [hopen, hclose]
    exact ⟨"TO_TIMESTAMP(".toList, ", 'YYYY-MM-DD HH24:MI:SS')".toList, rfl, by decide, rfl⟩

namespace DateTime

theorem quote_notMem_stamp (d : Date) (s : Nat) : '\'' ∉ stamp d s := by
  have hdigits : ∀ width n, '\'' ∉ paddedDigits width n := fun width n h =>
    absurd (isDigit_of_mem_paddedDigits h) (by decide)
  have hyear : '\'' ∉ yearText d.year := by
    unfold yearText
    split <;> simp [hdigits]
  simp [stamp, hdigits, hyear]

/-- **A timestamp denotes its moment.** If the moment lies in the years from -9999 to 9999 in UTC,
it has a timestamp. The timestamp is that of a day of the calendar and a time of day, and read as
UTC it is the moment rounded down to the second. A date and time has the same timestamp exactly if
it lies in the same second, whatever the offsets are. The literal in each dialect holds the
timestamp, in those of the families as all that is quoted first. -/
theorem timestamp_denotes {t : DateTime} (ht : t.InYears) :
    ∃ text, t.timestamp? = some text ∧
      (∃ u, ofTimestamp? text.toList = some u ∧ u.offset = 0 ∧
        u.moment = t.moment / 1000000000 * 1000000000) ∧
      (∀ u : DateTime, u.timestamp? = some text ↔
        u.moment / 1000000000 = t.moment / 1000000000) ∧
      ∀ d : Dialect, ∃ literal, d.dateLiteral? t = some literal ∧
        text.toList <:+: literal.toList ∧
        (d.IsBuiltin → firstQuoted literal.toList = text.toList) := by
  have htext : t.timestamp? = some (String.ofList (stamp t.utc.1 t.utc.2)) :=
    timestamp?_eq_some_iff.2 ⟨ht, String.toList_ofList⟩
  refine ⟨_, htext, read_timestamp htext, fun u => ?_, fun d => ?_⟩
  · rw [timestamp?_eq_iff htext, moment_div, moment_div]
  · refine ⟨_, by rw [Dialect.dateLiteral?, htext, Option.map_some], ?_, fun hd => ?_⟩
    · exact ⟨d.dateOpening.toList, d.dateClosing.toList, by simp⟩
    · obtain ⟨l, r, hopen, hl, hclose⟩ := hd.date_quotes
      simp only [String.toList_append, String.toList_ofList, hopen, hclose, List.append_assoc,
        List.singleton_append]
      exact firstQuoted_eq hl (quote_notMem_stamp _ _)

/-- Midnight of the first of January of year 0, where the clock is almost 26 hours ahead of UTC, is
two days and a year earlier there. A reading of the same second in UTC has the same timestamp, which
is also read from it, and the literal of Oracle holds it. -/
theorem timestamp_denotes_year_zero :
    let t : DateTime := ⟨⟨0, 1, 1, by decide, by decide, by decide, by decide⟩, 0, 999999999, 93599,
      by decide, by decide, by decide, by decide, by decide, by decide⟩
    let u : DateTime := ⟨⟨-1, 12, 30, by decide, by decide, by decide, by decide⟩, 79201, 0, 0,
      by decide, by decide, by decide, by decide, by decide, by decide⟩
    let text := "-0001-12-30 22:00:01"
    t.InYears ∧ t.timestamp? = some text ∧ u.timestamp? = some text ∧
      ofTimestamp? text.toList = some u ∧ u.moment = t.moment / 1000000000 * 1000000000 ∧
      ∃ literal, Dialect.oracle.dateLiteral? t = some literal ∧
        firstQuoted literal.toList = text.toList := by
  intro t u text
  have ht : t.InYears := ⟨u.date, by decide, by decide, by decide +kernel⟩
  obtain ⟨text', htext', ⟨v, hv, -, hmoment⟩, hsame, hliteral⟩ := timestamp_denotes ht
  have htext : t.timestamp? = some text := by decide +kernel
  obtain rfl : text = text' := Option.some.inj (htext.symm.trans htext')
  have hu : ofTimestamp? text.toList = some u := by decide +kernel
  obtain rfl : u = v := Option.some.inj (hu.symm.trans hv)
  obtain ⟨literal, hl, -, hquoted⟩ := hliteral .oracle
  exact ⟨ht, htext, (hsame u).2 (by decide +kernel), hu, hmoment, literal, hl,
    hquoted (.family .oracle)⟩

end DateTime

end BoundSql
