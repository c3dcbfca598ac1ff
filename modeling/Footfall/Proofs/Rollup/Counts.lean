import Mathlib
import Footfall.Proofs.Rollup.Run
import Footfall.Proofs.Rollup.Sums

/-!
# What a compaction counts

A row of a rollup is about the facts of one bucket, one site and one combination
of reference ids.  Two of its measures are counted among these facts.  The third
looks further: whether a view is a bounce depends on all that its visitor viewed
on the site in the bucket, whatever the ids.

Nothing is asked of the store.  Its facts may be any, and so may the rows that
stand in the rollups before.

## Main Definitions

* `Fact.CountsTo` — a fact is one of those that a row is about
* `Fact.Alone` — a fact is the only view of its visitor in the bucket
* `Measures.Tallies` — the measures of a row, counted in facts
* `Rollup.Recounted` — a rollup in which some facts were counted anew
* `Store.Counted` — what a compaction left and reported
* `sampleDay`, `viewOn` — some days, and a view of a page on a day

## Main Statements

* `Rollup.recounted_putAll` — writing the rows of some facts counts them anew
* `Rollup.length_aggregate` — there is a row for each key of a fact
* `Store.compaction_counts_day` — a compaction that succeeds counts its day
-/

namespace Footfall

/-! ## The facts of a row -/

/-- A row is about this fact: the bucket, the site and the ids are those of its
key, where an id that the fact lacks reads as zero. -/
def Fact.CountsTo (g : Granularity) (k : RollupKey) (f : Fact) : Prop :=
  f.time.truncate g = k.bucket ∧ f.site = k.site ∧ ∀ d, (f.ids.get d).getD 0 = k.ids.get d

/-- The visitor of this fact has no other view on its site in its bucket. -/
def Fact.Alone (g : Granularity) (facts : List Fact) (f : Fact) : Prop :=
  facts.countP (fun b => b.visitor = f.visitor ∧ b.site = f.site ∧
    b.time.truncate g = f.time.truncate g) = 1

section Facts

variable {g : Granularity} {facts : List Fact} {k : RollupKey} {f : Fact}

theorem Fact.countsTo_iff : f.CountsTo g k ↔ f.key g = k := by
  cases k
  rw [CountsTo, key, RollupKey.mk.injEq, PerDimension.ext_iff]
  simp only [PerDimension.get_map]

instance : Decidable (f.CountsTo g k) :=
  decidable_of_iff (f.key g = k) Fact.countsTo_iff.symm

instance : Decidable (f.Alone g facts) :=
  inferInstanceAs (Decidable (_ = _))

theorem Fact.isBounce_iff : f.isBounce g facts = true ↔ f.Alone g facts := by
  rw [isBounce, Alone, beq_iff_eq]
  refine iff_of_eq (congrArg (· = 1) (List.countP_congr fun b _ => ?_))
  simp only [sameVisit, Bool.and_eq_true, beq_iff_eq, decide_eq_true_eq, and_assoc]

theorem Rollup.group_eq_filter : group g facts k = facts.filter (·.CountsTo g k) := by
  refine List.filter_congr fun f _ => ?_
  rw [beq_eq_decide]
  exact decide_eq_decide.mpr Fact.countsTo_iff.symm

end Facts

theorem length_visitorsOf (facts : List Fact) :
    (visitorsOf facts).length = (facts.map (·.visitor)).toFinset.card := by
  rw [visitorsOf, distinct_eq_dedup, List.card_toFinset]

/-! ## Rows -/

/-- **The measures of the row of a key, counted in facts.** -/
structure Measures.Tallies (g : Granularity) (facts : List Fact) (k : RollupKey)
    (m : Measures) : Prop where
  /-- Pageviews are the facts that the row is about. -/
  count : m.count = facts.countP (·.CountsTo g k)
  /-- Visitors are counted once each. -/
  visitors : m.visitors = ((facts.filter (·.CountsTo g k)).map (·.visitor)).toFinset.card
  /-- Bounces are the facts of the row without a second view in the bucket, be it
  in this row or in another. -/
  bounces : m.bounces = facts.countP fun f => f.CountsTo g k ∧ f.Alone g facts

namespace Rollup

variable {g : Granularity} {facts : List Fact} {k : RollupKey}

theorem tallies_measures : (measures g facts k).Tallies g facts k where
  count := by
    rw [measures, group_eq_filter, ← List.countP_eq_length_filter]
  visitors := by
    rw [measures, group_eq_filter, length_visitorsOf]
  bounces := by
    rw [measures, group_eq_filter, List.countP_filter]
    refine congrArg Nat.cast (List.countP_congr fun f _ => ?_)
    rw [Bool.and_eq_true, Fact.isBounce_iff, decide_eq_true_eq, decide_eq_true_eq, and_comm]

/-- **Some facts were counted anew** in a rollup. -/
structure Recounted (g : Granularity) (facts : List Fact) (before after : Rollup) : Prop where
  /-- A key with a fact has the row that counts its facts. -/
  counted : ∀ k, (∃ f ∈ facts, f.CountsTo g k) →
    ∃ m, after.get? k = some m ∧ m.Tallies g facts k
  /-- Any other key has the row that it had, if it had one. -/
  kept : ∀ k, (∀ f ∈ facts, ¬ f.CountsTo g k) → after.get? k = before.get? k

/-- **Writing the rows of some facts counts them anew.** -/
theorem recounted_putAll (t : Rollup) : Recounted g facts t (t.putAll (aggregate g facts)) where
  counted := by
    rintro k ⟨f, hf, hk⟩
    refine ⟨measures g facts k, ?_, tallies_measures⟩
    rw [get?_putAll_aggregate, row?, if_pos (mem_keys.mpr ⟨f, hf, Fact.countsTo_iff.mp hk⟩),
      Option.some_or]
  kept := by
    intro k hnone
    have hrow : row? g facts k = none :=
      row?_eq_none_iff.mpr fun f hf hk => hnone f hf (Fact.countsTo_iff.mpr hk)
    rw [get?_putAll_aggregate, hrow, Option.none_or]

/-- There is one row for each key of a fact. -/
theorem length_aggregate :
    (aggregate g facts).length = Set.ncard {k | ∃ f ∈ facts, f.CountsTo g k} := by
  have hkeys : {k | ∃ f ∈ facts, f.CountsTo g k} = ↑(keys g facts).toFinset := by
    ext k
    simp only [Set.mem_ofPred_eq, Fact.countsTo_iff, List.coe_toFinset, mem_keys]
  rw [hkeys, Set.ncard_coe_finset, List.toFinset_card_of_nodup nodup_keys,
    ← map_fst_aggregate, List.length_map]

end Rollup

/-! ## A compacted day -/

namespace Store

/-- **What a compaction of a day left of a store, and what it reported.** -/
structure Counted (s : Store) (d : Day) (s' : Store) (r : Report) : Prop where
  /-- The tables stood. -/
  before : s.Ready
  /-- They still stand. -/
  after : s'.Ready
  /-- The facts of the day are counted in the rollup by day. -/
  daily : Rollup.Recounted .day (s.factsOn d) s.dailyTable s'.dailyTable
  /-- And hour by hour in the rollup by hour. -/
  hourly : Rollup.Recounted .hour (s.factsOn d) s.hourlyTable s'.hourlyTable
  /-- The report is about the day. -/
  day : r.day = d
  /-- It tells the number of facts of the day, over all sites. -/
  factCount : r.factCount = (s.factsOn d).length
  /-- It tells the number of keys with a fact on the day. -/
  dailyRows : r.dailyRows = Set.ncard {k | ∃ f ∈ s.factsOn d, f.CountsTo .day k}
  /-- And the number of keys with a fact in an hour of the day. -/
  hourlyRows : r.hourlyRows = Set.ncard {k | ∃ f ∈ s.factsOn d, f.CountsTo .hour k}
  /-- The watermark of the day tells the same numbers. -/
  mark : ∃ clock, s'.marks.get? (.midnight d) =
    some ⟨clock, r.factCount, r.dailyRows, r.hourlyRows⟩

theorem ready_compacted {s : Store} (c : s.Ready) (d : Day) (now : Instant) :
    (s.compacted d now).Ready where
  facts := c.facts
  watermarks := rfl
  daily := rfl
  hourly := rfl

/-- **A compaction succeeds on a day that is over, if its tables stand and the store
can keep its times, and counts the day.** -/
theorem compaction_counts_day (s : Store) (d : Day) (now : Instant) :
    ((∃ s' r, s.compactDay d now = .ok (s', r)) ↔ s.Ready ∧ Compactable d now) ∧
      ∀ s' r, s.compactDay d now = .ok (s', r) → s.Counted d s' r := by
  constructor
  · simp only [compactDay_eq_ok_iff, exists_and_left, exists_eq, and_true]
  · intro s' r h
    obtain ⟨ready, -, rfl, rfl⟩ := compactDay_eq_ok_iff.mp h
    exact {
      before := ready
      after := ready_compacted ready d now
      daily := Rollup.recounted_putAll s.dailyTable
      hourly := Rollup.recounted_putAll s.hourlyTable
      day := rfl
      factCount := rfl
      dailyRows := Rollup.length_aggregate
      hourlyRows := Rollup.length_aggregate
      mark := ⟨now.toTimestamp, mark_compacted_self⟩ }

end Store

/-! ## A day of a store -/

/-- Two weeks of January 2024, numbered from the fifteenth on. -/
def sampleDay (n : ℕ) : Day :=
  ⟨19737 + (n % 14 : ℕ), by omega, by omega⟩

/-- A view of a page by one visitor at the start of a day. -/
def viewOn (d : Day) (site path : String) : Action :=
  .record (.plain site path (.midnight d) 7) (.midnight d)

namespace Store

/-- A fact of a page on the first sample day, so many hours after midnight. -/
def sampleFact (id hour : ℕ) (visitor : ℕ) (path : ℤ) : Fact where
  id := id
  time := ⟨(Timestamp.midnight (sampleDay 0)).micros + hour * Timestamp.hourMicros⟩
  site := "blog"
  visitor := visitor
  ids := (PerDimension.replicate none).set .path (some path)

/-- The row of the blog's home page on the first sample day. -/
def sampleKeyOfHome : RollupKey where
  bucket := .midnight (sampleDay 0)
  site := "blog"
  ids := (PerDimension.replicate 0).set .path 1

/-- One visitor viewed two pages in two hours and another one of them once.  The row
of the home page is out of date. -/
def twoVisitors : Store :=
  { migrated with
    facts := .table [sampleFact 1 8 7 1, sampleFact 2 9 7 2, sampleFact 3 9 8 1]
    daily := .table (Table.empty.put sampleKeyOfHome ⟨1, 1, 1⟩) }

theorem compactDay_twoVisitors :
    twoVisitors.compactDay (sampleDay 0) (.midnight (sampleDay 3)) =
      .ok (twoVisitors.compacted (sampleDay 0) (.midnight (sampleDay 3)),
        ⟨sampleDay 0, 3, 2, 3⟩) := by
  rw [compactDay_eq_ok_iff]
  exact ⟨⟨⟨rfl, rfl⟩, rfl, rfl⟩, by decide, rfl, rfl⟩

theorem home_counted_of_twoVisitors :
    ∃ s', twoVisitors.compactDay (sampleDay 0) (.midnight (sampleDay 3)) =
        .ok (s', ⟨sampleDay 0, 3, 2, 3⟩) ∧
      s'.dailyTable.get? sampleKeyOfHome = some ⟨2, 2, 1⟩ ∧
      twoVisitors.Counted (sampleDay 0) s' ⟨sampleDay 0, 3, 2, 3⟩ :=
  ⟨_, compactDay_twoVisitors, by decide,
    (compaction_counts_day twoVisitors _ _).2 _ _ compactDay_twoVisitors⟩

end Store

end Footfall
