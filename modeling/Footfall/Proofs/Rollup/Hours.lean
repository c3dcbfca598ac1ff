import Mathlib
import Footfall.Proofs.Rollup.Ledger

/-!
# A day and its hours

The two rollups are written by two statements and never compared.  They agree all
the same, since the last compaction of a day counted one list of facts in both of
them.  A daily row is about some facts of that list, and the hourly rows of its
site and ids part the same facts by hour.

Pageviews add up over the hours, and visitors and bounces do not.  A visitor of two
hours is counted in both, and the only view of an hour need not be the only one of
the day.

## Main Definitions

* `Store.hoursOf` — the hourly rows of a site and a combination of ids on a day
* `Measures.SpreadOver` — what a daily row has to do with its hours
* `Store.HoursAgree` — the rollups and the watermark of a day agree

## Main Statements

* `Fact.isBounce_hour_of_day` — the only view of a day is the only one of its hour
* `Account.Balanced.hoursOf_perm` — the hourly rows part the facts of the daily row
* `Account.rowsMarked_run` — a watermark tells how many rows the counted facts have
* `Store.hours_agree` — the rollups agree in every reachable state
-/

namespace Footfall

/-! ## Hours within a day -/

theorem Timestamp.truncate_day_of_hour {t u : Timestamp}
    (h : t.truncate .hour = u.truncate .hour) : t.truncate .day = u.truncate .day := by
  have hday : t.dayNumber = u.dayNumber := by
    rw [← dayNumber_truncate_hour t, h, dayNumber_truncate_hour]
  simp only [truncate, hday]

/-- **The only view of a day is the only one of its hour.** -/
theorem Fact.isBounce_hour_of_day {facts : List Fact} {f : Fact} (hf : f ∈ facts)
    (h : f.isBounce .day facts = true) : f.isBounce .hour facts = true := by
  rw [isBounce, beq_iff_eq] at h ⊢
  have hle : facts.countP (f.sameVisit .hour) ≤ facts.countP (f.sameVisit .day) := by
    refine List.countP_mono_left fun b _ hvisit => ?_
    simp only [sameVisit, Bool.and_eq_true, beq_iff_eq] at hvisit ⊢
    exact ⟨hvisit.1, Timestamp.truncate_day_of_hour hvisit.2⟩
  have hpos : 0 < facts.countP (f.sameVisit .hour) :=
    List.countP_pos_iff.mpr ⟨f, hf, by simp [sameVisit]⟩
  omega

/-- What has one row by hour has one row by day. -/
theorem Fact.key_day_of_hour {a b : Fact} (h : a.key .hour = b.key .hour) :
    a.key .day = b.key .day := by
  simp only [key, RollupKey.mk.injEq] at h ⊢
  exact ⟨Timestamp.truncate_day_of_hour h.1, h.2⟩

theorem length_visitorsOf_le {facts others : List Fact} (h : facts ⊆ others) :
    (visitorsOf facts).length ≤ (visitorsOf others).length := by
  refine ((nodup_distinct _).subperm fun v hv => ?_).length_le
  exact mem_distinct.mpr (List.map_subset _ h (mem_distinct.mp hv))

/-! ## A row and its hours -/

/-- **What a daily row has to do with its hours.** -/
structure Measures.SpreadOver (m : Measures) (hours : List (RollupKey × Measures)) : Prop where
  /-- Pageviews add up. -/
  count : m.count = total (hours.map (·.2.count))
  /-- No hour has more visitors than the day. -/
  visitors_le : ∀ r ∈ hours, r.2.visitors ≤ m.visitors
  /-- A visitor of the day is one of some hour. -/
  visitors_le_total : m.visitors ≤ total (hours.map (·.2.visitors))
  /-- A bounce of the day is one of its hour. -/
  bounces_le_total : m.bounces ≤ total (hours.map (·.2.bounces))

theorem Measures.SpreadOver.of_perm {m : Measures} {hours others : List (RollupKey × Measures)}
    (h : m.SpreadOver others) (perm : hours.Perm others) : m.SpreadOver hours where
  count := by
    rw [h.count, Store.total_eq_of_perm (perm.map _) (·.count)]
  visitors_le r hr := h.visitors_le r (perm.subset hr)
  visitors_le_total := by
    rw [Store.total_eq_of_perm (perm.map _) (·.visitors)]
    exact h.visitors_le_total
  bounces_le_total := by
    rw [Store.total_eq_of_perm (perm.map _) (·.bounces)]
    exact h.bounces_le_total

namespace Rollup

variable {facts : List Fact} {k j : RollupKey}

/-- The hourly rows of the facts of a daily row. -/
def hoursOfRow (facts : List Fact) (k : RollupKey) : List (RollupKey × Measures) :=
  (keys .hour (group .day facts k)).map fun j => (j, measures .hour facts j)

/-- The facts of such a row are among those of the daily row. -/
theorem group_hour_eq (hj : j ∈ keys .hour (group .day facts k)) :
    group .hour facts j = group .hour (group .day facts k) j := by
  obtain ⟨f, hf, rfl⟩ := mem_keys.mp hj
  obtain ⟨-, hday⟩ := List.mem_filter.mp hf
  rw [beq_iff_eq] at hday
  rw [group, group, group, List.filter_filter]
  refine List.filter_congr fun b _ => ?_
  rw [Bool.eq_iff_iff, Bool.and_eq_true, beq_iff_eq, beq_iff_eq]
  exact ⟨fun hhour => ⟨hhour, (Fact.key_day_of_hour hhour).trans hday⟩, fun h => h.1⟩

theorem hoursOfRow_eq_nil_iff : hoursOfRow facts k = [] ↔ row? .day facts k = none := by
  rw [hoursOfRow, List.map_eq_nil_iff, keys, distinct_eq_nil_iff, List.map_eq_nil_iff, group,
    List.filter_eq_nil_iff, row?_eq_none_iff]
  exact forall₂_congr fun f _ => by rw [beq_iff_eq]

/-- A measure that a row takes from its own facts is that of the hours alone. -/
theorem map_hoursOfRow (m : Measures → ℤ)
    (own : ∀ j, group .hour facts j = group .hour (group .day facts k) j →
      m (measures .hour facts j) = m (measures .hour (group .day facts k) j)) :
    (hoursOfRow facts k).map (m ·.2) =
      (aggregate .hour (group .day facts k)).map (m ·.2) := by
  rw [hoursOfRow, aggregate, List.map_map, List.map_map]
  exact List.map_congr_left fun j hj => own j (group_hour_eq hj)

/-- **A daily row is spread over its hours.** -/
theorem spreadOver_hoursOfRow (facts : List Fact) (k : RollupKey) :
    (measures .day facts k).SpreadOver (hoursOfRow facts k) where
  count := by
    rw [map_hoursOfRow (·.count) fun j hj => by simp only [measures, hj], total_count_aggregate]
    rfl
  visitors_le := by
    intro r hr
    obtain ⟨j, hj, rfl⟩ := List.mem_map.mp hr
    simp only [measures, group_hour_eq hj, Nat.cast_le]
    exact length_visitorsOf_le (List.filter_subset_self _)
  visitors_le_total := by
    rw [map_hoursOfRow (·.visitors) fun j hj => by simp only [measures, hj],
      total_visitors_aggregate]
    exact Nat.cast_le.mpr Totals.visitors_le_ofRows
  bounces_le_total := by
    -- bounces of an hour are told among all facts, and not among those of the row
    have hrows : (hoursOfRow facts k).map (·.2.bounces) =
        (keys .hour (group .day facts k)).map fun j =>
          (((group .hour (group .day facts k) j).countP (·.isBounce .hour facts) : ℕ) : ℤ) := by
      rw [hoursOfRow, List.map_map]
      refine List.map_congr_left fun j hj => ?_
      simp only [Function.comp_apply, measures, group_hour_eq hj]
    rw [hrows, total_map_natCast, sum_countP_group]
    refine Nat.cast_le.mpr (List.countP_mono_left fun f hf hbounce => ?_)
    exact Fact.isBounce_hour_of_day (List.mem_of_mem_filter hf) hbounce

end Rollup

/-! ## The rows of a store -/

namespace Store

/-- The hourly rows of a site and a combination of ids on a day. -/
def hoursOf (s : Store) (d : Day) (site : String) (ids : PerDimension ℤ) :
    List (RollupKey × Measures) :=
  (s.hourlyOn d).filter fun r => r.1.site = site ∧ r.1.ids = ids

/-- **The rollups and the watermark of a day agree.** -/
structure HoursAgree (s : Store) (d : Day) : Prop where
  /-- Daily rows bear the midnight of the day. -/
  midnight : ∀ r ∈ s.dailyOn d, r.1.bucket = .midnight d
  /-- There is a daily row exactly if there is one of an hour. -/
  row_iff : ∀ site ids, (∃ m, s.dailyTable.get? ⟨.midnight d, site, ids⟩ = some m) ↔
    s.hoursOf d site ids ≠ []
  /-- It is spread over those of the hours. -/
  spread : ∀ site ids m, s.dailyTable.get? ⟨.midnight d, site, ids⟩ = some m →
    m.SpreadOver (s.hoursOf d site ids)
  /-- The watermark tells the pageviews of all daily rows. -/
  factCount : ∀ mark, s.marks.get? (.midnight d) = some mark →
    mark.factCount = total ((s.dailyOn d).map (·.2.count))
  /-- It tells their number. -/
  dailyRows : ∀ mark, s.marks.get? (.midnight d) = some mark →
    mark.dailyRows = (s.dailyOn d).length
  /-- And the number of hourly rows. -/
  hourlyRows : ∀ mark, s.marks.get? (.midnight d) = some mark →
    mark.hourlyRows = (s.hourlyOn d).length

end Store

namespace Account

variable {x : Account} {d : Day} {site : String} {ids : PerDimension ℤ} {as : List Action}

/-- A row at a midnight is about facts of the day. -/
theorem key_eq_midnight_iff {f : Fact} (hf : f.time.OnDay d) :
    f.key .day = ⟨.midnight d, site, ids⟩ ↔
      (f.key .hour).site = site ∧ (f.key .hour).ids = ids := by
  simp only [Fact.key, RollupKey.mk.injEq, Timestamp.truncate_day_eq_midnight_iff.mpr hf,
    true_and]

/-- **The hourly rows part the facts of the daily row.** -/
theorem Balanced.hoursOf_perm (h : x.Balanced) (d : Day) (site : String)
    (ids : PerDimension ℤ) :
    (x.store.hoursOf d site ids).Perm
      (Rollup.hoursOfRow (factsOfDay d x.counted) ⟨.midnight d, site, ids⟩) := by
  refine ((h.hourlyOn_perm d).filter _).trans ?_
  rw [Rollup.aggregate, List.filter_map, Rollup.hoursOfRow]
  refine List.Perm.map _ ?_
  refine (List.perm_ext_iff_of_nodup (Rollup.nodup_keys.filter _) Rollup.nodup_keys).mpr
    fun k => ?_
  simp only [List.mem_filter, Rollup.mem_keys, Rollup.group, Function.comp_apply,
    decide_eq_true_eq, beq_iff_eq]
  constructor
  · rintro ⟨⟨f, hf, rfl⟩, htuple⟩
    exact ⟨f, ⟨hf, (key_eq_midnight_iff (mem_factsOfDay.mp hf).2).mpr htuple⟩, rfl⟩
  · rintro ⟨f, ⟨hf, hkey⟩, rfl⟩
    exact ⟨⟨f, hf, rfl⟩, (key_eq_midnight_iff (mem_factsOfDay.mp hf).2).mp hkey⟩

theorem Balanced.get?_midnight (h : x.Balanced) :
    x.store.dailyTable.get? ⟨.midnight d, site, ids⟩ =
      Rollup.row? .day (factsOfDay d x.counted) ⟨.midnight d, site, ids⟩ := by
  rw [h.daily, Rollup.row?_factsOfDay withinDay_day (Timestamp.onDay_midnight d)]

/-! ## Watermarks -/

/-- **A watermark tells how many rows the counted facts of its day have.** -/
def RowsMarked (x : Account) : Prop :=
  ∀ d mark, x.store.marks.get? (.midnight d) = some mark →
    mark.dailyRows = (Rollup.aggregate .day (factsOfDay d x.counted)).length ∧
      mark.hourlyRows = (Rollup.aggregate .hour (factsOfDay d x.counted)).length

theorem rowsMarked_opening : opening.RowsMarked := by
  intro d mark h
  rw [opening, Store.marks_migrated, Table.get?_empty] at h
  cases h

theorem RowsMarked.step (hm : x.RowsMarked) (h : x.Balanced) (a : Action) :
    (x.step a).RowsMarked := by
  have hstep := h.becomes_step a
  generalize x.step a = y at hstep
  intro e mark hmark
  cases hstep with
  | quiet grown =>
      rw [grown.marks] at hmark
      exact hm e mark hmark
  | @fact v now s' grown complete sound time site visitor ids =>
      rw [show (s'.withFact time site visitor ids).marks = s'.marks from rfl, grown.marks] at hmark
      exact hm e mark hmark
  | @compacted d now =>
      by_cases he : e = d
      · rw [he, Store.mark_compacted_self] at hmark
        rw [he, factsOfDay_recount_self, ← Option.some.inj hmark]
        exact ⟨rfl, rfl⟩
      · rw [Store.mark_compacted_of_ne he] at hmark
        rw [factsOfDay_recount_of_ne x he]
        exact hm e mark hmark

theorem RowsMarked.run (hm : x.RowsMarked) (h : x.Balanced) (as : List Action) :
    (x.run as).RowsMarked := by
  induction as generalizing x with
  | nil => exact hm
  | cons a as ih => exact ih (hm.step h a) (h.step a)

/-- **So it does after every run.** -/
theorem rowsMarked_run (as : List Action) : (opening.run as).RowsMarked :=
  rowsMarked_opening.run balanced_opening as

/-! ## Reachable states -/

theorem Balanced.hoursAgree (h : x.Balanced) (hm : x.RowsMarked) (d : Day) :
    x.store.HoursAgree d where
  midnight := by
    intro r hr
    obtain ⟨k, hk, rfl⟩ := List.mem_map.mp ((h.dailyOn_perm d).subset hr)
    obtain ⟨f, hf, rfl⟩ := Rollup.mem_keys.mp hk
    exact Timestamp.truncate_day_eq_midnight_iff.mpr (mem_factsOfDay.mp hf).2
  row_iff := by
    intro site ids
    have hperm := h.hoursOf_perm d site ids
    have hnil : x.store.hoursOf d site ids = [] ↔
        Rollup.row? .day (factsOfDay d x.counted) ⟨.midnight d, site, ids⟩ = none := by
      rw [← Rollup.hoursOfRow_eq_nil_iff, ← List.length_eq_zero_iff, hperm.length_eq,
        List.length_eq_zero_iff]
    rw [h.get?_midnight, ← Option.ne_none_iff_exists', Ne, Ne, hnil]
  spread := by
    intro site ids m hm'
    rw [h.get?_midnight, Rollup.row?] at hm'
    split at hm'
    · rw [← Option.some.inj hm']
      exact (Rollup.spreadOver_hoursOfRow _ _).of_perm (h.hoursOf_perm d site ids)
    · cases hm'
  factCount := by
    intro mark hmark
    rw [h.marked d mark hmark,
      Store.total_eq_of_perm ((h.dailyOn_perm d).map _) (·.count),
      Rollup.total_count_aggregate]
    rfl
  dailyRows := by
    intro mark hmark
    rw [(hm d mark hmark).1, (h.dailyOn_perm d).length_eq]
  hourlyRows := by
    intro mark hmark
    rw [(hm d mark hmark).2, (h.hourlyOn_perm d).length_eq]

end Account

/-- **The rollups of a day agree with each other and with its watermark in every
reachable state**, whether facts came late or not. -/
theorem Store.hours_agree (ops : List Operation) (d : Day) :
    (migrated.perform ops).HoursAgree d := by
  rw [perform, ← Account.store_run_opening]
  exact (Account.balanced_run _).hoursAgree (Account.rowsMarked_run _) d

end Footfall
