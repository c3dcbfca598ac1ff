import Mathlib
import Footfall.Proofs.Calendar.Clock
import Footfall.Proofs.Calendar.Precision
import Footfall.Stats.Range

/-!
# The two sides of midnight

Where a range is cut at the midnight of today.  The historic part ends with the
day before, so nothing of today is served from rollups.

It ends a microsecond before midnight.  Instants between that and midnight, a leap
second among them, are in neither part, but no instant to the microsecond is one of
them.  So the moments of the store are shared out between the parts, wherever the
ends of the range lie, and a part may well be there and hold none of them.

## Main Definitions

* `Span.Contains` — an instant lies in a range
* `Split.SharesOut` — the parts share out the moments of a range
* `leapSecond` — the leap second at the end of 2016

## Main Statements

* `split?_of_pred` — the two parts of a range
* `split?_of_first` — on the first day of the calendar nothing is split
* `split?_of_past`, `split?_of_live` — a whole day lies on one side of midnight
* `historic_bounds` — the historic part ends before midnight
* `exists_contains_historic_iff`, `exists_contains_live_iff` — what lies in each part
* `split_shares_out_range` — on every other day than the first, a range is shared out
-/

namespace Footfall

/-! ## Whole days and midnight -/

namespace Instant

/-- A microsecond before midnight, the day before ends. -/
theorem add?_neg_microsecond {d p : Day} (h : p.number + 1 = d.number) :
    (midnight d).add? (-microsecond) = some (endOfDay p) := by
  rw [add?_eq_some_iff (isLeap_midnight d), clock_midnight]
  refine ⟨rfl, ?_⟩
  simp only [clock, endOfDay, dayLength, microsecond, second]
  omega

/-- Before the first day of the calendar there is no instant. -/
theorem add?_neg_microsecond_first :
    (midnight Day.first).add? (-microsecond) = none := by
  decide

theorem midnight_lt_iff {d e : Day} : midnight d < midnight e ↔ d < e := by
  simp only [lt_iff, key, midnight_seconds, midnight_nanos, Day.lt_iff]
  omega

theorem endOfDay_le_iff {d e : Day} : endOfDay d ≤ endOfDay e ↔ d ≤ e := by
  simp only [le_iff, key, endOfDay, Day.le_iff]
  omega

theorem midnight_le_endOfDay_iff {d e : Day} : midnight d ≤ endOfDay e ↔ d ≤ e := by
  simp only [le_iff, key, endOfDay, midnight_seconds, midnight_nanos, Day.le_iff]
  omega

theorem lt_midnight_iff {t : Instant} {d : Day} : t < midnight d ↔ t.day < d := by
  have := t.nanos_lt
  simp only [lt_iff, key, midnight_seconds, midnight_nanos, Day.lt_iff, day]
  omega

theorem midnight_le_iff {t : Instant} {d : Day} : midnight d ≤ t ↔ d ≤ t.day := by
  have := t.nanos_lt
  simp only [le_iff, key, midnight_seconds, midnight_nanos, Day.le_iff, day]
  omega

theorem le_endOfDay {t : Instant} {d : Day} (h : t ≤ endOfDay d) : t.day ≤ d := by
  have := t.nanos_lt
  simp only [le_iff, key, endOfDay] at h
  simp only [Day.le_iff, day]
  omega

/-- To the microsecond, a day holds all instants up to its end. -/
theorem Exact.le_endOfDay_iff {t : Instant} {d : Day} (exact : t.Exact) :
    t ≤ endOfDay d ↔ t.day ≤ d := by
  refine ⟨le_endOfDay, fun h => ?_⟩
  have hregular := nanos_lt_of_regular exact.1
  have hplaces := exact.2
  simp only [Day.le_iff, day] at h
  simp only [le_iff, key, endOfDay]
  omega

theorem le_min_iff {t a b : Instant} : t ≤ a.min b ↔ t ≤ a ∧ t ≤ b := by
  unfold min
  split <;> simp only [le_iff] at * <;> omega

theorem max_le_iff {t a b : Instant} : a.max b ≤ t ↔ a ≤ t ∧ b ≤ t := by
  unfold max
  split <;> simp only [le_iff] at * <;> omega

/-- A range that is cut off at the end of a day reaches no further than the day. -/
theorem le_day_min_endOfDay_iff {t : Instant} {d p : Day} :
    d ≤ (t.min (endOfDay p)).day ↔ d ≤ t.day ∧ d ≤ p := by
  unfold min
  split
  · next h =>
    have hle := le_endOfDay h
    simp only [Day.le_iff] at hle ⊢
    omega
  · next h =>
    have hle : p ≤ t.day := by
      have := t.nanos_lt
      simp only [le_iff, key, endOfDay] at h
      simp only [Day.le_iff, day]
      omega
    rw [day_endOfDay]
    simp only [Day.le_iff] at hle ⊢
    omega

end Instant

theorem checkRange_eq_ok_iff {start stop : Instant} :
    checkRange start stop = .ok () ↔ start ≤ stop := by
  unfold checkRange
  split
  · next h => simp only [reduceCtorEq, false_iff, Instant.le_iff, not_le, ← Instant.lt_iff, h]
  · next h =>
    rw [Instant.lt_iff, not_lt] at h
    simp only [Instant.le_iff, h]

section Split

variable {d : Day} {now : Instant}

theorem exists_pred_of_lt {d e : Day} (h : e < d) : ∃ p : Day, p.number + 1 = d.number := by
  have hfirst := e.first_le
  have hlast := d.le_last
  rw [Day.lt_iff] at h
  exact ⟨⟨d.number - 1, by omega, by omega⟩, by simp⟩

/-- On the first day of the calendar nothing is split. -/
theorem split?_of_first (h : now.day = Day.first) (start stop : Instant) :
    split? start stop now = none := by
  rw [split?, h, Instant.add?_neg_microsecond_first]
  rfl

/-- On every other day a range is cut between the end of yesterday and midnight. -/
theorem split?_of_pred {p : Day} (h : p.number + 1 = now.day.number) (start stop : Instant) :
    split? start stop now = some {
      historic := if start < .midnight now.day then some ⟨start, stop.min (.endOfDay p)⟩ else none
      live := if .midnight now.day ≤ stop then some ⟨start.max (.midnight now.day), stop⟩
        else none } := by
  rw [split?, Instant.add?_neg_microsecond h]
  rfl

theorem exists_pred_of_ne_first (h : d ≠ Day.first) : ∃ p : Day, p.number + 1 = d.number := by
  have hfirst := d.first_le
  apply exists_pred_of_lt (e := Day.first)
  rw [Day.lt_iff]
  exact lt_of_le_of_ne hfirst fun heq => h (Day.eq_of_number heq.symm)

theorem exists_pred_of_split? {start stop : Instant} {parts : Split}
    (h : split? start stop now = some parts) : ∃ p : Day, p.number + 1 = now.day.number := by
  apply exists_pred_of_ne_first
  intro hfirst
  rw [split?_of_first hfirst] at h
  cases h

section Parts

variable {start stop : Instant} {parts : Split} {part : Span}

/-- There is a part before midnight if the range starts before, and it ends with yesterday. -/
theorem mem_historic_iff (hparts : split? start stop now = some parts) {p : Day}
    (hp : p.number + 1 = now.day.number) :
    part ∈ parts.historic ↔
      start < .midnight now.day ∧ part = ⟨start, stop.min (.endOfDay p)⟩ := by
  rw [split?_of_pred hp] at hparts
  obtain rfl := Option.some.inj hparts
  rw [Option.mem_ite_none_right, Option.mem_some, eq_comm]

/-- There is a part from midnight on if the range reaches it. -/
theorem mem_live_iff (hparts : split? start stop now = some parts) :
    part ∈ parts.live ↔
      .midnight now.day ≤ stop ∧ part = ⟨start.max (.midnight now.day), stop⟩ := by
  obtain ⟨yesterday, hyesterday⟩ := exists_pred_of_split? hparts
  rw [split?_of_pred hyesterday] at hparts
  obtain rfl := Option.some.inj hparts
  rw [Option.mem_ite_none_right, Option.mem_some, eq_comm]

end Parts

/-- After its end, a day is history. -/
theorem split?_of_past (h : d < now.day) :
    split? (.midnight d) (.endOfDay d) now =
      some ⟨some ⟨.midnight d, .endOfDay d⟩, none⟩ := by
  obtain ⟨p, hp⟩ := exists_pred_of_lt h
  have hle : Instant.endOfDay d ≤ Instant.endOfDay p := by
    rw [Instant.endOfDay_le_iff, Day.le_iff]
    rw [Day.lt_iff] at h
    omega
  have hlive : ¬ Instant.midnight now.day ≤ Instant.endOfDay d := by
    rw [Instant.midnight_le_endOfDay_iff, Day.le_iff]
    rw [Day.lt_iff] at h
    omega
  rw [split?_of_pred hp, if_pos (Instant.midnight_lt_iff.mpr h), if_neg hlive, Instant.min,
    if_pos hle]

/-- Until its end, a day is live. -/
theorem split?_of_live (hfirst : Day.first < now.day) (h : now.day ≤ d) :
    split? (.midnight d) (.endOfDay d) now =
      some ⟨none, some ⟨.midnight d, .endOfDay d⟩⟩ := by
  obtain ⟨p, hp⟩ := exists_pred_of_lt hfirst
  have hpast : ¬ Instant.midnight d < Instant.midnight now.day := by
    rw [Instant.midnight_lt_iff, Day.lt_iff]
    rw [Day.le_iff] at h
    omega
  have hmax : (Instant.midnight d).max (.midnight now.day) = .midnight d := by
    unfold Instant.max
    split
    · next hle =>
      have hday : d ≤ now.day := by
        rw [Instant.midnight_le_iff, Instant.day_midnight] at hle
        exact hle
      rw [Day.eq_of_number (Int.le_antisymm h hday)]
    · rfl
  rw [split?_of_pred hp, if_neg hpast, if_pos (Instant.midnight_le_endOfDay_iff.mpr h), hmax]

/-- **The historic part ends before midnight**, and on no later day than the range. -/
theorem historic_bounds {start stop : Instant} {parts : Split} {range : Span}
    (h : split? start stop now = some parts) (hrange : parts.historic = some range) :
    range.start = start ∧ range.stop.day ≤ stop.day ∧ range.stop.day < now.day := by
  obtain ⟨p, hp⟩ := exists_pred_of_split? h
  obtain ⟨-, rfl⟩ := (mem_historic_iff h hp).mp hrange
  obtain ⟨hstop, hpast⟩ := Instant.le_day_min_endOfDay_iff.mp (Int.le_refl _ :
    (stop.min (.endOfDay p)).day ≤ (stop.min (.endOfDay p)).day)
  have hbefore : p < now.day := by
    rw [Day.lt_iff]
    omega
  exact ⟨rfl, hstop, Int.lt_of_le_of_lt hpast hbefore⟩

end Split

/-! ## Sharing out a range -/

/-- The instant lies in a range, both ends included. -/
def Span.Contains (range : Span) (t : Instant) : Prop :=
  range.start ≤ t ∧ t ≤ range.stop

/-- **Two parts share out the moments of a range** at a midnight. -/
structure Split.SharesOut (parts : Split) (range : Span) (midnight : Instant) : Prop where
  /-- What comes before midnight lies in the historic part, and not in the live one. -/
  before : ∀ t : Instant, t.Exact → range.Contains t → t < midnight →
    (∃ part ∈ parts.historic, part.Contains t) ∧ ¬ ∃ part ∈ parts.live, part.Contains t
  /-- What does not lies in the live part, and not in the historic one. -/
  from_midnight : ∀ t : Instant, t.Exact → range.Contains t → midnight ≤ t →
    (∃ part ∈ parts.live, part.Contains t) ∧ ¬ ∃ part ∈ parts.historic, part.Contains t
  /-- No instant lies in a part and not in the range. -/
  within : ∀ part, part ∈ parts.historic ∨ part ∈ parts.live →
    ∀ t, part.Contains t → range.Contains t
  /-- There is a part. -/
  present : parts.historic.isSome ∨ parts.live.isSome
  /-- All instants of the historic part come before those of the live one. -/
  precedes : ∀ past ∈ parts.historic, ∀ live ∈ parts.live, ∀ t u, past.Contains t →
    live.Contains u → t < u

section Sharing

variable {start stop now t : Instant} {parts : Split} {part : Span}

/-- What lies in the historic part lies in the range, before midnight. -/
theorem of_contains_historic (h : split? start stop now = some parts)
    (hpart : part ∈ parts.historic) (ht : part.Contains t) :
    Span.Contains ⟨start, stop⟩ t ∧ t < .midnight now.day := by
  obtain ⟨yesterday, hyesterday⟩ := exists_pred_of_split? h
  obtain ⟨-, rfl⟩ := (mem_historic_iff h hyesterday).mp hpart
  obtain ⟨hstop, hend⟩ := Instant.le_min_iff.mp ht.2
  have hday := Instant.le_endOfDay hend
  refine ⟨⟨ht.1, hstop⟩, ?_⟩
  rw [Instant.lt_midnight_iff, Day.lt_iff]
  rw [Day.le_iff] at hday
  omega

/-- **The moments of the range before midnight lie in the historic part.** -/
theorem exists_contains_historic_iff (h : split? start stop now = some parts) (exact : t.Exact) :
    (∃ part ∈ parts.historic, part.Contains t) ↔
      Span.Contains ⟨start, stop⟩ t ∧ t < .midnight now.day := by
  constructor
  · rintro ⟨part, hpart, ht⟩
    exact of_contains_historic h hpart ht
  · rintro ⟨⟨hfrom, hto⟩, hlt⟩
    obtain ⟨yesterday, hyesterday⟩ := exists_pred_of_split? h
    have hstart : start < .midnight now.day := Int.lt_of_le_of_lt hfrom hlt
    -- to the microsecond, what is not past yesterday has come by its end
    have hend : t ≤ .endOfDay yesterday := by
      rw [exact.le_endOfDay_iff, Day.le_iff]
      rw [Instant.lt_midnight_iff, Day.lt_iff] at hlt
      omega
    exact ⟨_, (mem_historic_iff h hyesterday).mpr ⟨hstart, rfl⟩, hfrom,
      Instant.le_min_iff.mpr ⟨hto, hend⟩⟩

/-- **All instants of the range from midnight on lie in the live part.** -/
theorem exists_contains_live_iff (h : split? start stop now = some parts) :
    (∃ part ∈ parts.live, part.Contains t) ↔
      Span.Contains ⟨start, stop⟩ t ∧ .midnight now.day ≤ t := by
  constructor
  · rintro ⟨part, hpart, hfrom, hto⟩
    obtain ⟨-, rfl⟩ := (mem_live_iff h).mp hpart
    obtain ⟨hstart, hle⟩ := Instant.max_le_iff.mp hfrom
    exact ⟨⟨hstart, hto⟩, hle⟩
  · rintro ⟨⟨hfrom, hto⟩, hle⟩
    have hstop : .midnight now.day ≤ stop := Int.le_trans hle hto
    exact ⟨_, (mem_live_iff h).mpr ⟨hstop, rfl⟩, Instant.max_le_iff.mpr ⟨hfrom, hle⟩, hto⟩

/-- A range that does not end before it starts has a part. -/
theorem isSome_or_of_split? (order : start ≤ stop) (h : split? start stop now = some parts) :
    parts.historic.isSome ∨ parts.live.isSome := by
  obtain ⟨yesterday, hyesterday⟩ := exists_pred_of_split? h
  rw [Option.isSome_iff_exists, Option.isSome_iff_exists]
  rcases Int.lt_or_le start.key (Instant.midnight now.day).key with hbefore | hfrom
  · exact .inl ⟨_, (mem_historic_iff h hyesterday).mpr ⟨hbefore, rfl⟩⟩
  · have hstop : .midnight now.day ≤ stop := Int.le_trans hfrom order
    exact .inr ⟨_, (mem_live_iff h).mpr ⟨hstop, rfl⟩⟩

theorem sharesOut_of_split? (order : start ≤ stop) (h : split? start stop now = some parts) :
    parts.SharesOut ⟨start, stop⟩ (.midnight now.day) where
  before t exact hin hlt := by
    refine ⟨(exists_contains_historic_iff h exact).mpr ⟨hin, hlt⟩, fun hlive => ?_⟩
    exact Int.not_le.mpr hlt ((exists_contains_live_iff h).mp hlive).2
  from_midnight t exact hin hle := by
    refine ⟨(exists_contains_live_iff h).mpr ⟨hin, hle⟩, fun hpast => ?_⟩
    exact Int.not_le.mpr ((exists_contains_historic_iff h exact).mp hpast).2 hle
  within part hpart t ht := by
    rcases hpart with hpast | hlive
    · exact (of_contains_historic h hpast ht).1
    · exact ((exists_contains_live_iff h).mp ⟨part, hlive, ht⟩).1
  present := isSome_or_of_split? order h
  precedes past hpast live hlive t u ht hu := by
    have hbefore := (of_contains_historic h hpast ht).2
    have hfrom := ((exists_contains_live_iff h).mp ⟨live, hlive, hu⟩).2
    exact Int.lt_of_lt_of_le hbefore hfrom

/-- **On every day but the first of the calendar, a range is shared out** at the midnight of the
day. -/
theorem split_shares_out_range (order : start ≤ stop) (hnow : now.day ≠ Day.first) :
    ∃ parts, split? start stop now = some parts ∧
      parts.SharesOut ⟨start, stop⟩ (.midnight now.day) := by
  obtain ⟨yesterday, hyesterday⟩ := exists_pred_of_ne_first hnow
  have hsplit := split?_of_pred hyesterday start stop
  exact ⟨_, hsplit, sharesOut_of_split? order hsplit⟩

end Sharing

/-- New Year of 2017, which a leap second comes before. -/
def newYear : Day := ⟨17167, by decide, by decide⟩

/-- The last day of 2016. -/
def newYearsEve : Day := ⟨17166, by decide, by decide⟩

/-- The leap second between them. -/
def leapSecond : Instant :=
  (Instant.ofParts? 1483228799 1000000000).get (by decide)

/-- From one microsecond before midnight to midnight each part has one moment, and the leap second
that lies in between is in neither. -/
theorem split_around_leapSecond :
    Instant.endOfDay newYearsEve ≤ Instant.midnight newYear ∧
      (Instant.midnight newYear).day ≠ Day.first ∧
      ∃ parts, split? (.endOfDay newYearsEve) (.midnight newYear) (.midnight newYear) = some parts ∧
        parts = ⟨some ⟨.endOfDay newYearsEve, .endOfDay newYearsEve⟩,
          some ⟨.midnight newYear, .midnight newYear⟩⟩ ∧
        parts.SharesOut ⟨.endOfDay newYearsEve, .midnight newYear⟩ (.midnight newYear) := by
  have order : Instant.endOfDay newYearsEve ≤ Instant.midnight newYear := by decide
  have hnow : (Instant.midnight newYear).day ≠ Day.first := by decide
  obtain ⟨parts, hsplit, hshares⟩ := split_shares_out_range order hnow
  refine ⟨order, hnow, parts, hsplit, ?_, hshares⟩
  apply Option.some.inj
  rw [← hsplit]
  decide

/-- Within the last microsecond of a day, the historic part ends before it starts. -/
example : ∃ t parts, Instant.ofParts? 86399 999999500 = some t ∧
    split? t t (.midnight ⟨1, by decide, by decide⟩) = some parts ∧
      ∃ past ∈ parts.historic, past.stop < past.start :=
  ⟨_, _, rfl, rfl, _, rfl, by decide⟩

end Footfall
