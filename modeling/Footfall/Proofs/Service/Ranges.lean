import Mathlib
import Footfall.Proofs.Calendar.Grid
import Footfall.Proofs.Stats.Split
import Footfall.Proofs.Text.Cut
import Footfall.Service.Params

/-!
# The range of a request

A caller names the ends of a range by instants or by dates, or else a period that goes
back from now.  A text that is neither is refused, and a period stops at the first day
of the calendar.  The end of a date is found by a step over its last midnight, and the
last day of the calendar has none.  That is the only text for which there is neither a
range nor a refusal.

## Main Definitions

* `StatsParams.EndsCalendar` — a request whose range ends with the calendar

## Main Statements

* `Day.parse?_text` — the text of a day is read back
* `Bound.parse_start_text`, `Bound.parse_stop_text` — the ends of a range that are days
* `StatsParams.range_outcome` — every request has a range or is refused, but those that end
  with the calendar
* `StatsParams.not_range_or_refusal` — there is one that has neither
-/

namespace Footfall

/-! ## Reading digits -/

/-- A run of digits has no blank in front. -/
theorem dropBlanks_of_digits {ds rest : List Char} (nonempty : ds ≠ [])
    (digits : ∀ c ∈ ds, c.isDigit = true) : dropBlanks (ds ++ rest) = ds ++ rest := by
  obtain ⟨c, cs, rfl⟩ := List.exists_cons_of_ne_nil nonempty
  refine dropBlanks_of_head fun d hd => ?_
  obtain rfl : c = d := Option.some.inj hd
  exact isBlank_of_isDigit (digits c List.mem_cons_self)

/-- A run of digits writes a number with no more places. -/
theorem digitsValue_lt {ds : List Char} (digits : ∀ c ∈ ds, c.isDigit = true) :
    digitsValue ds < 10 ^ ds.length := by
  induction ds using List.reverseRecOn with
  | nil => simp [digitsValue]
  | append_singleton ds c ih =>
      have hlast := toNat_of_isDigit (digits c (by simp))
      have hfront := ih fun d hd => digits d (List.mem_append_left _ hd)
      rw [digitsValue_append_singleton, List.length_append, List.length_singleton, pow_succ]
      omega

theorem lt_of_readUpTo {most n : ℕ} {cs rest : List Char}
    (h : readUpTo most cs = some (n, rest)) : n < 10 ^ most := by
  have hdigits : ∀ c ∈ (cs.take most).takeWhile Char.isDigit, c.isDigit = true := fun c hc =>
    List.mem_takeWhile_imp hc
  have hlength : ((cs.take most).takeWhile Char.isDigit).length ≤ most :=
    (List.takeWhile_sublist _).length_le.trans (List.length_take_le _ _)
  rw [readUpTo] at h
  split at h
  · cases h
  · obtain ⟨rfl, -⟩ := Prod.mk.inj (Option.some.inj h)
    exact (digitsValue_lt hdigits).trans_le (Nat.pow_le_pow_right (by decide) hlength)

/-- What is read off the front starts with a digit, unless nothing is. -/
theorem exists_isDigit_of_readExactly {width n : ℕ} {cs rest : List Char} (hw : 0 < width)
    (h : readExactly width cs = some (n, rest)) :
    ∃ c tail, cs = c :: tail ∧ c.isDigit = true := by
  rw [readExactly] at h
  split at h
  · next hlength =>
    have hne : (cs.take width).takeWhile Char.isDigit ≠ [] := by
      rw [ne_eq, ← List.length_eq_zero_iff, hlength]
      omega
    obtain ⟨c, ds, hds⟩ := List.exists_cons_of_ne_nil hne
    have hc : c ∈ (cs.take width).takeWhile Char.isDigit := hds ▸ List.mem_cons_self
    have hfront : c :: ds <+: cs :=
      hds ▸ (List.takeWhile_prefix _).trans (List.take_prefix _ _)
    obtain ⟨tail, htail⟩ := hfront
    exact ⟨c, ds ++ tail, htail.symm, List.mem_takeWhile_imp hc⟩
  · cases h

/-- A year without a sign has at most four digits. -/
theorem readYear_of_isDigit {c : Char} {cs rest : List Char} {year : ℤ} (hc : c.isDigit = true)
    (h : readYear (c :: cs) = some (year, rest)) : year ≤ 9999 := by
  have hsign : c ≠ '-' ∧ c ≠ '+' := by
    constructor <;> rintro rfl <;> exact absurd hc (by decide)
  rw [readYear, Option.map_eq_some_iff] at h
  · obtain ⟨⟨n, tail⟩, hread, hyear⟩ := h
    have hlt := lt_of_readUpTo hread
    obtain ⟨rfl, -⟩ := Prod.mk.inj hyear
    omega
  · exact fun cs h => hsign.1 (List.cons.inj h).1
  · exact fun cs h => hsign.2 (List.cons.inj h).1

/-! ## Dates that are read -/

/-- The day of a date has the date. -/
theorem Day.civil_of_ofCivil? {c : Civil} {d : Day} (h : ofCivil? c = some d) : d.civil = c := by
  rw [ofCivil?] at h
  split at h
  · next valid =>
    rw [civil, ofNumber?_eq_some_iff.mp h]
    exact Civil.ofDayNumber_dayNumber valid
  · cases h

/-- **A text that is read as an instant names no day after 9999.** -/
theorem Day.year_le_of_parse? {raw : String} {t : Instant} {d : Day}
    (instant : Instant.parseRfc3339? raw = some t) (day : parse? raw = some d) :
    d.civil.year ≤ 9999 := by
  -- an instant starts with the digits of its year, so the day has no sign in front either
  obtain ⟨c, tail, htext, hc⟩ : ∃ c tail, raw.toList = c :: tail ∧ c.isDigit = true := by
    rw [Instant.parseRfc3339?, Option.bind_eq_bind, Option.bind_eq_some_iff] at instant
    obtain ⟨⟨year, rest⟩, hread, -⟩ := instant
    exact exists_isDigit_of_readExactly (by decide) hread
  have hblank : dropBlanks (c :: tail) = c :: tail :=
    dropBlanks_of_head (by simpa using isBlank_of_isDigit hc)
  simp only [parse?, Option.bind_eq_bind, Option.bind_eq_some_iff, htext, hblank] at day
  obtain ⟨⟨year, rest⟩, hyear, _, -, ⟨month, _⟩, -, _, -, ⟨number, _⟩, -, hday⟩ := day
  split at hday
  · rw [civil_of_ofCivil? hday]
    exact readYear_of_isDigit hc hyear
  · cases hday

/-! ## Texts of days -/

/-- Every year is read as it was written. -/
theorem readYear_yearDigits (year : ℤ) {rest : List Char} (ends : EndsRun rest) :
    readYear (yearDigits year ++ rest) = some (year, rest) := by
  have hdigits : ∀ c ∈ paddedDigits 4 year.natAbs, c.isDigit = true := fun _ =>
    isDigit_of_mem_paddedDigits
  have hne := paddedDigits_ne_nil (show 0 < 4 by decide) year.natAbs
  unfold yearDigits
  split
  · next hyear =>
    rw [readYear_append (fixedDigits_ne_nil (by decide) _)
      (fun _ hc => isDigit_of_mem_fixedDigits hc) ends (by simp), digitsValue_fixedDigits]
    congr 2
    omega
  · split
    · next hneg =>
      rw [List.cons_append, readYear, readAll_append hne hdigits ends, digitsValue_paddedDigits]
      simp only [Option.map_some]
      congr 2
      omega
    · next hneg =>
      rw [List.cons_append, readYear, readAll_append hne hdigits ends, digitsValue_paddedDigits]
      simp only [Option.map_some]
      congr 2
      omega

/-- The text of a day has no blank in front. -/
theorem dropBlanks_yearDigits (year : ℤ) (rest : List Char) :
    dropBlanks (yearDigits year ++ rest) = yearDigits year ++ rest := by
  unfold yearDigits
  split
  · exact dropBlanks_of_digits (fixedDigits_ne_nil (by decide) _) fun _ =>
      isDigit_of_mem_fixedDigits
  · refine dropBlanks_of_head fun c hc => ?_
    obtain rfl := Option.some.inj hc
    split <;> decide

theorem dropBlanks_fixedDigits {width : ℕ} (hw : 0 < width) (n : ℕ) (rest : List Char) :
    dropBlanks (fixedDigits width n ++ rest) = fixedDigits width n ++ rest :=
  dropBlanks_of_digits (fixedDigits_ne_nil hw n) fun _ => isDigit_of_mem_fixedDigits

/-- The calendar has the day of its date. -/
theorem Day.ofCivil?_civil (d : Day) : ofCivil? d.civil = some d := by
  have valid : d.civil.Valid := Civil.valid_ofDayNumber d.number
  rw [ofCivil?, if_pos valid, ofNumber?_eq_some_iff]
  exact (Civil.dayNumber_ofDayNumber d.number).symm

/-- **The text of a day is read back.** -/
theorem Day.parse?_text (d : Day) : parse? d.text = some d := by
  obtain ⟨month_lt, day_lt⟩ := (Civil.valid_ofDayNumber d.number).lt_hundred
  have dash : ∀ cs, EndsRun ('-' :: cs) := fun cs => endsRun_cons (by decide)
  have hday : readUpTo 2 (fixedDigits 2 d.civil.day ++ []) = some (d.civil.day % 10 ^ 2, []) :=
    readUpTo_fixedDigits (by decide) le_rfl (by simp [EndsRun])
  have hblank := dropBlanks_fixedDigits (show 0 < 2 by decide) d.civil.day []
  rw [List.append_nil] at hday hblank
  simp only [parse?, text, String.toList_ofList, Civil.chars, List.append_assoc,
    List.cons_append]
  rw [dropBlanks_yearDigits, readYear_yearDigits _ (dash _)]
  simp only [Option.bind_eq_bind, Option.bind_some, readChar_cons_self]
  rw [dropBlanks_fixedDigits (by decide), readUpTo_fixedDigits (by decide) le_rfl (dash _)]
  simp only [Option.bind_some, readChar_cons_self]
  rw [hblank, hday]
  simp only [Option.bind_some, List.isEmpty_nil, if_true]
  rw [show d.civil.month % 10 ^ 2 = d.civil.month from Nat.mod_eq_of_lt month_lt,
    show d.civil.day % 10 ^ 2 = d.civil.day from Nat.mod_eq_of_lt day_lt]
  exact d.ofCivil?_civil

/-- **The text of a day names no instant**: either a sign comes first, or there is no time. -/
theorem Instant.parseRfc3339?_text (d : Day) : parseRfc3339? d.text = none := by
  by_cases hyear : 0 ≤ d.civil.year ∧ d.civil.year ≤ 9999
  · have hchars : d.text.toList = fixedDigits 4 d.civil.year.toNat ++
        '-' :: (fixedDigits 2 d.civil.month ++ '-' :: fixedDigits 2 d.civil.day) := by
      rw [Day.text, String.toList_ofList, Civil.chars, yearDigits, if_pos hyear]
      simp only [List.append_assoc, List.cons_append]
    have hday := readExactly_fixedDigits 2 d.civil.day []
    rw [List.append_nil] at hday
    -- the texts are read field by field, and nothing is left for the time
    rw [parseRfc3339?, hchars, readExactly_fixedDigits, Option.bind_eq_bind, Option.bind_some]
    dsimp only
    rw [readChar_cons_self, Option.bind_eq_bind, Option.bind_some, readExactly_fixedDigits,
      Option.bind_some]
    dsimp only
    rw [readChar_cons_self, Option.bind_eq_bind, Option.bind_some, hday, Option.bind_some]
    rfl
  · rw [Option.eq_none_iff_forall_ne_some]
    intro t h
    rw [parseRfc3339?, Option.bind_eq_bind, Option.bind_eq_some_iff] at h
    obtain ⟨⟨year, rest⟩, hread, -⟩ := h
    obtain ⟨c, tail, htext, hc⟩ := exists_isDigit_of_readExactly (by decide) hread
    rw [Day.text, String.toList_ofList, Civil.chars, yearDigits, if_neg hyear, List.cons_append,
      List.cons_append] at htext
    obtain ⟨rfl, -⟩ := List.cons.inj htext
    revert hc
    split <;> decide

/-! ## Ends of a range -/

/-- **The last microsecond of a day is found by way of the next midnight**, which the last
day of the calendar does not have. -/
theorem lastMicrosecond?_eq (d : Day) :
    lastMicrosecond? d = if d = Day.last then none else some (.endOfDay d) := by
  have hlength : Instant.dayLength = 86400 * Instant.second := rfl
  rw [lastMicrosecond?, hlength, Granularity.add?_of_nanos_eq_zero rfl]
  split
  · next hlast =>
    subst hlast
    rfl
  · next hlast =>
    have hle := d.le_last
    have hne : d.number ≠ 95026236 := fun h => hlast (Day.eq_of_number h)
    obtain ⟨next, hnext⟩ : ∃ next : Day, next.number = d.number + 1 :=
      ⟨⟨d.number + 1, by have := d.first_le; omega, by omega⟩, rfl⟩
    have hmidnight : Instant.ofParts? ((Instant.midnight d).seconds + 86400) 0 =
        some (.midnight next) := by
      rw [Instant.ofParts?_eq_some_iff, Instant.midnight_seconds, Instant.midnight_seconds, hnext]
      exact ⟨by omega, rfl⟩
    rw [hmidnight, Option.bind_some]
    exact Instant.add?_neg_microsecond hnext.symm

namespace Bound

section Dates

variable {raw : String} {d : Day} (instant : Instant.parseRfc3339? raw = none)
  (day : Day.parse? raw = some d)
include instant day

/-- As the start of a range, a date stands for its first instant. -/
theorem parse_start_of_day : start.parse raw = .ok (.midnight d) := by
  simp only [parse, instant, day]

/-- As its end, a date stands for its last microsecond. -/
theorem parse_stop_of_day :
    stop.parse raw = if d = Day.last then .error .beyondCalendar else .ok (.endOfDay d) := by
  simp only [parse, instant, day, lastMicrosecond?_eq]
  by_cases hlast : d = Day.last
  · rw [if_pos hlast, if_pos hlast]
  · rw [if_neg hlast, if_neg hlast]

end Dates

theorem parse_start_text (d : Day) : start.parse d.text = .ok (.midnight d) :=
  parse_start_of_day (Instant.parseRfc3339?_text d) d.parse?_text

theorem parse_stop_text {d : Day} (h : d ≠ Day.last) : stop.parse d.text = .ok (.endOfDay d) := by
  rw [parse_stop_of_day (Instant.parseRfc3339?_text d) d.parse?_text, if_neg h]

/-- A text names an end of a range or is refused, or it names the last day as the end. -/
theorem parse_cases (b : Bound) (raw : String) :
    (∃ t, b.parse raw = .ok t) ∨ b.parse raw = .error (.badRequest s!"Invalid date: {raw}") ∨
      b = .stop ∧ Day.parse? raw = some Day.last ∧ b.parse raw = .error .beyondCalendar := by
  cases instant : Instant.parseRfc3339? raw with
  | some t => exact .inl ⟨t, by simp only [parse, instant]⟩
  | none =>
      cases day : Day.parse? raw with
      | none => exact .inr (.inl (by simp only [parse, instant, day]))
      | some d =>
          cases b with
          | start => exact .inl ⟨_, parse_start_of_day instant day⟩
          | stop =>
              rw [parse_stop_of_day instant day]
              by_cases hlast : d = Day.last
              · exact .inr (.inr ⟨rfl, by rw [hlast], if_pos hlast⟩)
              · exact .inl ⟨_, if_neg hlast⟩

/-- The end of the last day is the only one that leads out of the calendar. -/
theorem parse_eq_beyondCalendar_iff {b : Bound} {raw : String} :
    b.parse raw = .error .beyondCalendar ↔ b = .stop ∧ Day.parse? raw = some Day.last := by
  constructor
  · intro h
    rcases b.parse_cases raw with ⟨t, ht⟩ | hrefused | ⟨hb, hraw, -⟩
    · rw [ht] at h
      cases h
    · rw [hrefused] at h
      cases h
    · exact ⟨hb, hraw⟩
  · rintro ⟨rfl, hraw⟩
    have hinstant : Instant.parseRfc3339? raw = none := by
      rw [Option.eq_none_iff_forall_ne_some]
      exact fun t ht => absurd (Day.year_le_of_parse? ht hraw) (by decide)
    rw [parse_stop_of_day hinstant hraw, if_pos rfl]

end Bound

/-! ## Ranges -/

namespace StatsParams

variable {p : StatsParams} {now : Instant}

/-- **The range of a request ends with the calendar**: its start can be read, and its end
is the last day. -/
def EndsCalendar (p : StatsParams) : Prop :=
  ∃ start ∈ p.start, ∃ stop ∈ p.stop,
    (∃ t, Bound.start.parse start = .ok t) ∧ Day.parse? stop = some Day.last

/-- Without both ends a request has a period, or one that is unknown is refused. -/
theorem range_of_period (h : ∀ start ∈ p.start, p.stop = none) (now : Instant) :
    (∃ span, p.range now = .ok span) ∨ ∃ reason, p.range now = .error (.badRequest reason) := by
  unfold range
  split
  · next start stop hstart hstop =>
    rw [h start hstart] at hstop
    cases hstop
  · split
    · exact .inl ⟨_, rfl⟩
    · exact .inr ⟨_, rfl⟩

section Bounds

variable {start stop : String} (hstart : p.start = some start) (hstop : p.stop = some stop)
include hstart hstop

theorem range_of_bounds (now : Instant) :
    p.range now = (do .ok ⟨← Bound.start.parse start, ← Bound.stop.parse stop⟩) := by
  simp only [range, hstart, hstop]

theorem endsCalendar_iff :
    p.EndsCalendar ↔ (∃ t, Bound.start.parse start = .ok t) ∧
      Bound.stop.parse stop = .error .beyondCalendar := by
  simp only [EndsCalendar, hstart, hstop, Option.mem_some_iff, exists_eq_left',
    Bound.parse_eq_beyondCalendar_iff, true_and]

/-- With both ends a request has a range or one end is refused, or its range ends with the
calendar. -/
theorem outcome_of_bounds (now : Instant) :
    (∃ span, p.range now = .ok span) ∧ ¬ p.EndsCalendar ∨
      (∃ reason, p.range now = .error (.badRequest reason)) ∧ ¬ p.EndsCalendar ∨
        p.range now = .error .beyondCalendar ∧ p.EndsCalendar := by
  rw [range_of_bounds hstart hstop, endsCalendar_iff hstart hstop]
  rcases Bound.start.parse_cases start with ⟨a, ha⟩ | hrefused | ⟨hb, -, -⟩
  · rw [ha]
    rcases Bound.stop.parse_cases stop with ⟨b, hb⟩ | hrefused | ⟨-, -, hb⟩
    · rw [hb]
      exact .inl ⟨⟨_, rfl⟩, by simp⟩
    · rw [hrefused]
      exact .inr (.inl ⟨⟨_, rfl⟩, by simp⟩)
    · rw [hb]
      exact .inr (.inr ⟨rfl, ⟨a, rfl⟩, rfl⟩)
  · rw [hrefused]
    exact .inr (.inl ⟨⟨_, rfl⟩, by simp⟩)
  · cases hb

end Bounds

/-- **Every request has a range or is refused**, but those whose range ends with the
calendar. -/
theorem range_outcome (p : StatsParams) (now : Instant) :
    (p.range now = .error .beyondCalendar ↔ p.EndsCalendar) ∧
      (p.EndsCalendar ∨ (∃ span, p.range now = .ok span) ∨
        ∃ reason, p.range now = .error (.badRequest reason)) := by
  by_cases bounds : ∃ start stop, p.start = some start ∧ p.stop = some stop
  · obtain ⟨start, stop, hstart, hstop⟩ := bounds
    rcases outcome_of_bounds hstart hstop now with ⟨⟨span, h⟩, hnot⟩ | ⟨⟨reason, h⟩, hnot⟩ | h
    · rw [h]
      exact ⟨by simp [hnot], .inr (.inl ⟨span, rfl⟩)⟩
    · rw [h]
      exact ⟨by simp [hnot], .inr (.inr ⟨reason, rfl⟩)⟩
    · exact ⟨iff_of_true h.1 h.2, .inl h.2⟩
  · have hperiod : ∀ start ∈ p.start, p.stop = none := fun start hstart =>
      Option.eq_none_iff_forall_ne_some.mpr fun stop hstop => bounds ⟨start, stop, hstart, hstop⟩
    have houtcome := range_of_period hperiod now
    have hnot : ¬ p.EndsCalendar := fun ⟨start, hstart, stop, hstop, _⟩ =>
      bounds ⟨start, stop, hstart, hstop⟩
    refine ⟨iff_of_false (fun h => ?_) hnot, .inr houtcome⟩
    rw [h] at houtcome
    simp at houtcome

/-- A request for all that is still to come. -/
def openEnded : StatsParams where
  site := "blog"
  start := some "2024-01-01"
  stop := some "+262142-12-31"

/-- The day 2024-01-20. -/
def requestDay : Day :=
  ⟨19742, by decide, by decide⟩

/-- **Some request has neither a range nor a refusal.** -/
theorem not_range_or_refusal :
    openEnded.range (.midnight requestDay) = .error .beyondCalendar ∧
      ¬ ∀ (p : StatsParams) (now : Instant), (∃ span, p.range now = .ok span) ∨
        ∃ reason, p.range now = .error (.badRequest reason) := by
  have hlast : Day.last.text = "+262142-12-31" := by decide +kernel
  have hfirst : Day.text ⟨19723, by decide, by decide⟩ = "2024-01-01" := by decide +kernel
  have hstart := Bound.parse_start_text ⟨19723, by decide, by decide⟩
  rw [hfirst] at hstart
  have hstop : Bound.stop.parse "+262142-12-31" = .error .beyondCalendar :=
    Bound.parse_eq_beyondCalendar_iff.mpr ⟨rfl, hlast ▸ Day.parse?_text Day.last⟩
  have hrange : openEnded.range (.midnight requestDay) = .error .beyondCalendar := by
    rw [range_of_bounds rfl rfl, hstart, hstop]
    rfl
  refine ⟨hrange, fun h => ?_⟩
  have hothers := h openEnded (.midnight requestDay)
  rw [hrange] at hothers
  simp at hothers

end StatsParams

end Footfall
