import Mathlib
import Footfall.Proofs.Store.Complete
import Footfall.Proofs.Store.Select
import Footfall.Stats.Series

/-!
# What a range selects

A query compares the facts of a site with both ends of a range.  Of the rows of the daily
rollup it compares the midnights, with the midnight before the range and with its end.  An end
that the store does not take lets every moment pass, up to the comparison with the end itself,
which fails.  So a range with such an end can be read as long as nothing gets so far, and then
it holds nothing.

## Main Definitions

* `Span.Storable` — a range whose ends the store takes
* `Span.Admits` — a moment gets past the comparisons with those ends that the store takes
* `Span.FailsAmong` — a range fails at one of some moments
* `Store.siteFactsWithin`, `Store.siteRowsIn` — the facts and the rows of a site in a range

## Main Statements

* `Store.siteFacts_eq_ok_iff`, `Store.siteRows_eq_ok_iff` — when a range can be read, and what
  is read
-/

namespace Footfall

namespace Span

variable {range : Span} {times : List Timestamp} {t : Timestamp}

/-- Both ends of the range can be told to the store. -/
def Storable (range : Span) : Prop :=
  range.start.Storable ∧ range.stop.Storable

instance (range : Span) : Decidable range.Storable :=
  inferInstanceAs (Decidable (_ ∧ _))

/-- The moment gets past the comparisons with those ends of the range that the store takes. -/
def Admits (range : Span) (t : Timestamp) : Prop :=
  (range.start.Storable → range.start.toTimestamp ≤ t) ∧
    (range.stop.Storable → t ≤ range.stop.toTimestamp)

instance (range : Span) (t : Timestamp) : Decidable (range.Admits t) :=
  inferInstanceAs (Decidable (_ ∧ _))

/-- **A range fails among some moments**: the store does not take both of its ends, and one of
the moments gets as far as to be compared with one that it does not take. -/
def FailsAmong (range : Span) (times : List Timestamp) : Prop :=
  ¬ range.Storable ∧ ∃ t ∈ times, range.Admits t

instance (range : Span) (times : List Timestamp) : Decidable (range.FailsAmong times) :=
  inferInstanceAs (Decidable (_ ∧ _))

/-- The range from the midnight before its start on, as it is compared with midnights. -/
def fromMidnight (range : Span) : Span :=
  ⟨.midnight range.start.day, range.stop⟩

theorem Storable.not_failsAmong (h : range.Storable) : ¬ range.FailsAmong times :=
  fun hfails => hfails.1 h

theorem storable_fromMidnight_iff :
    range.fromMidnight.Storable ↔ range.start.day.Storable ∧ range.stop.Storable := by
  rw [Storable, fromMidnight, Instant.storable_midnight_iff]

/-- A moment between the ends themselves gets past all comparisons. -/
theorem admits_of_within
    (h : t.within range.start.toTimestamp range.stop.toTimestamp = true) : range.Admits t := by
  rw [Timestamp.within, Bool.and_eq_true, decide_eq_true_eq, decide_eq_true_eq] at h
  exact ⟨fun _ => h.1, fun _ => h.2⟩

/-- If a range can be read and one of the moments lies in it, the store takes it. -/
theorem storable_of_within (h : ¬ range.FailsAmong times) (ht : t ∈ times)
    (hwithin : t.within range.start.toTimestamp range.stop.toTimestamp = true) :
    range.Storable := by
  by_contra storable
  exact h ⟨storable, t, ht, admits_of_within hwithin⟩

/-- What is selected of some rows between the ends of a range, and when. -/
theorem selects_iff {α : Type} (range : Span) (time : α → Timestamp) {rows selected : List α} :
    selectRows [range.start.condition (· ≤ time ·),
        range.stop.condition fun stop r => time r ≤ stop] rows = .ok selected ↔
      ¬ range.FailsAmong (rows.map time) ∧ selected = rows.filter fun r =>
        (time r).within range.start.toTimestamp range.stop.toTimestamp := by
  rw [selectRows_between_eq_ok_iff, and_comm]
  refine and_congr ?_ Iff.rfl
  rw [FailsAmong, not_and_or, not_not]
  simp only [decide_eq_true_eq, List.mem_map, not_exists, not_and, forall_exists_index, and_imp,
    forall_apply_eq_imp_iff₂, Admits, Storable]

end Span

namespace Store

variable {s : Store} {site : String} {range : Span}

/-- The times of the facts of a site. -/
def siteTimes (s : Store) (site : String) : List Timestamp :=
  (s.factList.filter (·.ofSite site)).map (·.time)

/-- The buckets of the daily rows of a site. -/
def siteBuckets (s : Store) (site : String) : List Timestamp :=
  (s.dailyTable.rows.filter (·.1.site == site)).map (·.1.bucket)

/-- The facts of a site in a range. -/
def siteFactsWithin (s : Store) (site : String) (range : Span) : List Fact :=
  s.factList.filter fun f =>
    f.ofSite site && f.time.within range.start.toTimestamp range.stop.toTimestamp

/-- The daily rows of a site from the first day of a range to its end. -/
def siteRowsIn (s : Store) (site : String) (range : Span) : List (RollupKey × Measures) :=
  s.dailyTable.rows.filter fun r =>
    r.1.site == site && r.1.bucket.within (.midnight range.start.day) range.stop.toTimestamp

theorem mem_siteFactsWithin {f : Fact} : f ∈ s.siteFactsWithin site range ↔
    f ∈ s.factList ∧ f.site = site ∧
      f.time.within range.start.toTimestamp range.stop.toTimestamp = true := by
  simp only [siteFactsWithin, List.mem_filter, Bool.and_eq_true, Fact.ofSite, beq_iff_eq]

theorem mem_siteTimes_of_mem {f : Fact} (h : f ∈ s.siteFactsWithin site range) :
    f.time ∈ s.siteTimes site := by
  obtain ⟨hf, hsite, -⟩ := mem_siteFactsWithin.mp h
  exact List.mem_map_of_mem (List.mem_filter.mpr ⟨hf, beq_iff_eq.mpr hsite⟩)

/-- If the facts of a range can be read and there is one, the store takes the range. -/
theorem storable_of_mem_siteFactsWithin {f : Fact}
    (accepted : ¬ range.FailsAmong (s.siteTimes site)) (hf : f ∈ s.siteFactsWithin site range) :
    range.Storable :=
  Span.storable_of_within accepted (mem_siteTimes_of_mem hf) (mem_siteFactsWithin.mp hf).2.2

theorem within_of_mem_siteRowsIn {r : RollupKey × Measures} (hr : r ∈ s.siteRowsIn site range) :
    r.1.bucket.within range.fromMidnight.start.toTimestamp
      range.fromMidnight.stop.toTimestamp = true := by
  have hwithin := (Bool.and_eq_true_iff.mp (List.mem_filter.mp hr).2).2
  rw [← Instant.toTimestamp_midnight] at hwithin
  exact hwithin

/-- If the rows of a range can be read and there is one, the store takes the range. -/
theorem storable_of_mem_siteRowsIn {r : RollupKey × Measures}
    (accepted : ¬ range.fromMidnight.FailsAmong (s.siteBuckets site))
    (hr : r ∈ s.siteRowsIn site range) : range.fromMidnight.Storable := by
  obtain ⟨hmem, hin⟩ := List.mem_filter.mp hr
  have hbucket : r.1.bucket ∈ s.siteBuckets site :=
    List.mem_map_of_mem (List.mem_filter.mpr ⟨hmem, (Bool.and_eq_true_iff.mp hin).1⟩)
  exact Span.storable_of_within accepted hbucket (within_of_mem_siteRowsIn hr)

theorem siteFactsWithin_eq_filter (s : Store) (site : String) (range : Span) :
    s.siteFactsWithin site range = (s.factList.filter (·.ofSite site)).filter fun f =>
      f.time.within range.start.toTimestamp range.stop.toTimestamp := by
  rw [List.filter_filter, siteFactsWithin]
  exact List.filter_congr fun f _ => Bool.and_comm _ _

/-- **When the facts of a site in a range can be read, and which they are.** -/
theorem siteFacts_eq_ok_iff {facts : List Fact} :
    s.siteFacts site range = .ok facts ↔
      s.facts = .table s.factList ∧ ¬ range.FailsAmong (s.siteTimes site) ∧
        facts = s.siteFactsWithin site range := by
  rw [siteFactsWithin_eq_filter, siteFacts, bind_eq_ok_iff]
  simp only [Store.factRows, Slot.read_eq_ok_iff, selectRows_cons_ok, range.selects_iff]
  constructor
  · rintro ⟨table, htable, haccepted, rfl⟩
    have hfacts : s.factList = table := by rw [factList, htable, Slot.rowsOr]
    rw [siteTimes, hfacts]
    exact ⟨htable, haccepted, rfl⟩
  · rintro ⟨htable, haccepted, rfl⟩
    exact ⟨_, htable, haccepted, rfl⟩

/-- The facts of a range that the store takes can be read. -/
theorem siteFacts_of_storable (stands : s.facts = .table s.factList) (h : range.Storable) :
    s.siteFacts site range = .ok (s.siteFactsWithin site range) :=
  siteFacts_eq_ok_iff.mpr ⟨stands, h.not_failsAmong, rfl⟩

/-- **When the rows of a site in a range can be read, and which they are.** -/
theorem siteRows_eq_ok_iff {rows : List (RollupKey × Measures)} :
    s.siteRows site range = .ok rows ↔
      s.daily = .table s.dailyTable ∧ ¬ range.fromMidnight.FailsAmong (s.siteBuckets site) ∧
        rows = s.siteRowsIn site range := by
  have hin : s.siteRowsIn site range = (s.dailyTable.rows.filter (·.1.site == site)).filter fun r =>
      r.1.bucket.within range.fromMidnight.start.toTimestamp
        range.fromMidnight.stop.toTimestamp := by
    rw [List.filter_filter, siteRowsIn, Span.fromMidnight, Instant.toTimestamp_midnight]
    exact List.filter_congr fun r _ => Bool.and_comm _ _
  rw [hin, siteRows, bind_eq_ok_iff]
  simp only [Store.dailyRows, Slot.read_eq_ok_iff, selectRows_cons_ok]
  constructor
  · rintro ⟨table, htable, h⟩
    obtain ⟨haccepted, rfl⟩ := (range.fromMidnight.selects_iff _).mp h
    have hrows : s.dailyTable = table := by rw [dailyTable, htable, Slot.rowsOr]
    rw [siteBuckets, hrows]
    exact ⟨htable, haccepted, rfl⟩
  · rintro ⟨htable, haccepted, rfl⟩
    exact ⟨_, htable, (range.fromMidnight.selects_iff _).mpr ⟨haccepted, rfl⟩⟩

/-- Of the rows up to an end that the store does not take, there are none or it refuses the
end. -/
theorem siteRows_of_not_storable (h : ¬ range.stop.Storable) (site : String) :
    ∃ fault, ∀ s : Store, s.Complete →
      s.siteRows site range = .ok [] ∨ s.siteRows site range = .error fault := by
  let last : Condition (RollupKey × Measures) :=
    range.stop.condition fun stop r => r.1.bucket ≤ stop
  let cs := [.ok (·.1.site == site),
    (Granularity.day.truncate range.start).condition (· ≤ ·.1.bucket), last]
  obtain ⟨fault, hfault⟩ : ∃ fault, cs.findSome? (·.fault?) = some fault := by
    refine Option.ne_none_iff_exists'.mp fun hnone => h ?_
    have hlast : last ∈ cs := by simp [cs]
    exact Instant.fault?_condition.mp (List.findSome?_eq_none_iff.mp hnone last hlast)
  refine ⟨fault, fun s c => ?_⟩
  rw [siteRows, c.dailyRows, ok_bind]
  exact selectRows_of_fault hfault s.dailyTable.rows

end Store

end Footfall
