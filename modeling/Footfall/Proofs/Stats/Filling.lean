import Mathlib
import Footfall.Proofs.Stats.LiveSeries
import Footfall.Proofs.Stats.ZeroFill

/-!
# Filling loses nothing

A series is filled by putting a point on every boundary of its range, and a point of
the series is found again if its time is exactly one of these boundaries.  The times
come from three sources, the rows of the rollup, the groups of the store and the
calendar, and the boundaries from steps.  In a reachable state all of them are starts
of buckets, so no point falls between two boundaries.

## Main Definitions

* `Filled` — a series and what filling makes of it
* `Bucket.Aligned` — buckets that start in order at boundaries of a range

## Main Statements

* `filled_of_aligned` — filling keeps buckets that start at boundaries
* `Store.aligned_of_buckets` — the buckets of a series do
* `Store.every_series_filled` — every series of a reachable state is filled without loss
-/

namespace Footfall

/-- **A series is filled without loss**: there is a point for every bucket of the range,
those of the series among them, and the others are zero. -/
structure Filled (g : Granularity) (start stop : Instant) (points filled : List Point) :
    Prop where
  /-- There is a point for every bucket of the range. -/
  length_eq : (filled.length : ℤ) = g.bucketCount start stop
  /-- There is a bucket. -/
  length_pos : 1 ≤ filled.length
  /-- There are no more than a series may have. -/
  length_le : filled.length ≤ Granularity.maxBuckets
  /-- The first one is that of the start. -/
  first : (filled.map (·.time)).head? = some (g.truncate start)
  /-- The last one is that of the end. -/
  last : (filled.map (·.time)).getLast? = some (g.truncate stop)
  /-- Each one is the step of the one before. -/
  steps : (filled.map (·.time)).IsChain fun t u => u = g.step t
  /-- The points of the series are among them, unchanged and in their order. -/
  sublist : points.Sublist filled
  /-- Each of them has one place there. -/
  once : ∀ p ∈ points, ∃! i : ℕ, filled[i]? = some p
  /-- Every other point is zero. -/
  zero : ∀ p ∈ filled, p ∉ points → p = .zero p.time
  /-- So there is no more traffic and no less. -/
  pageviews : (filled.map (·.pageviews)).sum = (points.map (·.pageviews)).sum

/-- **Buckets start in order at boundaries of a range.** -/
structure Bucket.Aligned (g : Granularity) (start stop : Instant) (buckets : List Bucket) :
    Prop where
  /-- Starts are strictly increasing. -/
  increasing : buckets.Pairwise fun a b => a.start < b.start
  /-- They are boundaries. -/
  mem : ∀ b ∈ buckets, b.start ∈ g.boundaries start stop

/-! ## Lists in order -/

instance : Std.Antisymm (fun t u : Instant => t < u) :=
  ⟨fun _ _ h h' => absurd (Int.lt_trans h h') (Int.lt_irrefl _)⟩

/-- A member of a list without repetitions has one place there. -/
theorem existsUnique_getElem? {α : Type} {as : List α} {a : α} (nodup : as.Nodup) (h : a ∈ as) :
    ∃! i : ℕ, as[i]? = some a := by
  obtain ⟨i, hi⟩ := List.mem_iff_getElem?.mp h
  obtain ⟨hlt, -⟩ := List.getElem?_eq_some_iff.mp hi
  refine ⟨i, hi, fun j hj => ?_⟩
  exact ((List.getElem?_inj hlt nodup).mp (hi.trans hj.symm)).symm

/-! ## Filling aligned buckets -/

section Fill

variable {g : Granularity} {start stop : Instant} {buckets : List Bucket}

namespace Bucket.Aligned

variable (h : Aligned g start stop buckets)
include h

theorem nodup_starts : (buckets.map (·.start)).Nodup :=
  Instant.nodup_of_pairwise_lt (List.pairwise_map.mpr h.increasing)

/-- The starts are some of the boundaries, in their order. -/
theorem starts_sublist : (buckets.map (·.start)).Sublist (g.boundaries start stop) := by
  refine List.sublist_of_subperm_of_pairwise (r := (· < ·))
    (List.subperm_of_subset h.nodup_starts fun t ht => ?_)
    (List.pairwise_map.mpr h.increasing) (pairwise_walk _ _ _)
  obtain ⟨b, hb, rfl⟩ := List.mem_map.mp ht
  exact h.mem b hb

theorem sublist_filled :
    buckets.Sublist ((g.boundaries start stop).map (bucketAt buckets)) := by
  have hsublist := h.starts_sublist.map (bucketAt buckets)
  rwa [map_bucketAt_starts h.nodup_starts] at hsublist

end Bucket.Aligned

/-- The times of a filled series are the boundaries. -/
theorem times_filled (buckets : List Bucket) (boundaries : List Instant) :
    ((boundaries.map (bucketAt buckets)).map Bucket.point).map (·.time) = boundaries := by
  rw [List.map_map, List.map_map]
  exact (List.map_congr_left fun t _ => start_bucketAt buckets t).trans (List.map_id boundaries)

/-- **Filling keeps buckets that start at boundaries.** -/
theorem filled_of_aligned (h : Bucket.Aligned g start stop buckets) (order : start ≤ stop)
    (fits : g.bucketCount start stop ≤ Granularity.maxBuckets) :
    Filled g start stop (buckets.map Bucket.point)
      (g.densify (buckets.map Bucket.point) start stop) := by
  have hlength := Granularity.length_boundaries (g := g) order
  have hhead := Granularity.head?_boundaries (g := g) order
  have htimes := times_filled buckets (g.boundaries start stop)
  have hsublist := h.sublist_filled.map Bucket.point
  have hnodup : ((((g.boundaries start stop).map (bucketAt buckets)).map Bucket.point).map
      (·.time)).Nodup := by
    rw [htimes]
    exact nodup_walk _ _ _
  rw [densify_eq_map_bucketAt]
  refine ⟨?_, ?_, ?_, ?_, ?_, ?_, hsublist, fun p hp => ?_, fun p hp hnot => ?_, ?_⟩
  · rw [List.length_map, List.length_map, hlength]
  · rw [List.length_map, List.length_map]
    exact List.length_pos_iff.mpr fun hnil => by rw [hnil] at hhead; cases hhead
  · rw [List.length_map, List.length_map, ← Int.ofNat_le, hlength]
    exact fits
  · rw [htimes, hhead]
  · rw [htimes, Granularity.getLast?_boundaries order]
  · rw [htimes]
    exact isChain_walk _ _ _
  · exact existsUnique_getElem? hnodup.of_map (hsublist.subset hp)
  · obtain ⟨b, hb, rfl⟩ := List.mem_map.mp hp
    obtain ⟨t, -, rfl⟩ := List.mem_map.mp hb
    -- where a bucket starts, it would be shown
    by_cases ht : t ∈ buckets.map (·.start)
    · obtain ⟨c, hc, rfl⟩ := List.mem_map.mp ht
      rw [bucketAt_start h.nodup_starts hc] at hnot
      exact absurd (List.mem_map_of_mem hc) hnot
    · rw [bucketAt_of_notMem ht]
      rfl
  · rw [List.map_map, List.map_map (l := buckets)]
    exact (fillsWithNothing_boundaries h.nodup_starts h.mem).sum_eq (·.pageviews) rfl

end Fill

/-! ## The buckets of a series -/

namespace Store

variable {s : Store} {site : String} {g : Granularity} {start stop now : Instant}
  {buckets : List Bucket}

/-- Facts between two bounds lie in buckets of the range. -/
theorem mem_boundaries_of_within {t : Timestamp} (hstart : start.Storable)
    (hstop : stop.Storable) {b : Instant} (hb : t.bucketStart? g = some b)
    (h : t.within start.toTimestamp stop.toTimestamp = true) :
    b ∈ g.boundaries start stop := by
  have hnanos := hstart.nanos_lt
  have hnanos' := hstop.nanos_lt
  simp only [Timestamp.within, Bool.and_eq_true, decide_eq_true_eq, Timestamp.le_iff,
    Instant.toTimestamp] at h
  unfold Timestamp.bucketStart? at hb
  split at hb
  · next hyear =>
    rw [← Option.some.inj hb]
    refine Granularity.truncate_mem_boundaries ?_ ?_ <;> simp only [Timestamp.toInstant] <;> omega
  · cases hb

/-- **The buckets of hours and months start at boundaries.** -/
theorem aligned_of_live (years : ∀ f ∈ s.factList, f.time.FourDigit) (live : g ≠ .day)
    (h : s.buckets site start stop g now = .ok buckets) :
    Bucket.Aligned g start stop buckets := by
  obtain ⟨-, -, hread⟩ := (buckets_live_eq_ok_iff live).mp h
  obtain ⟨-, accepted, hread⟩ := liveBuckets_eq_ok_iff.mp hread
  have htallied := tallied_of_mapM_readLive
    (fun f hf => years f (List.mem_of_mem_filter hf)) hread
  refine ⟨htallied.increasing, fun b hb => ?_⟩
  obtain ⟨f, hf, hb⟩ := (htallied.start_iff b.start).mp ⟨b, hb, rfl⟩
  obtain ⟨hstart, hstop⟩ := storable_of_mem_siteFactsWithin accepted hf
  exact mem_boundaries_of_within hstart hstop hb (mem_siteFactsWithin.mp hf).2.2

/-- **So do those of days**, whether they come from rows or from facts. -/
theorem aligned_of_days (keyed : s.KeyedAtMidnights)
    (years : ∀ f ∈ s.factList, f.time.FourDigit)
    (h : s.buckets site start stop .day now = .ok buckets) :
    Bucket.Aligned .day start stop buckets := by
  obtain ⟨-, -, parts, hparts, hday⟩ := buckets_day_eq_ok_iff.mp h
  have hstitched := stitched_of_serves (dayBuckets_serve keyed years hparts hday)
  refine ⟨hstitched.increasing, fun b hb => ?_⟩
  obtain ⟨d, hfrom, hto, hd⟩ := hstitched.of_range b hb
  rw [hd]
  exact Granularity.mem_boundaries.mpr ⟨d.number, hfrom, hto, rfl, rfl⟩

theorem aligned_of_buckets (keyed : s.KeyedAtMidnights)
    (years : ∀ f ∈ s.factList, f.time.FourDigit)
    (h : s.buckets site start stop g now = .ok buckets) :
    Bucket.Aligned g start stop buckets := by
  by_cases live : g = .day
  · subst live
    exact aligned_of_days keyed years h
  · exact aligned_of_live years live h

theorem range_of_buckets (h : s.buckets site start stop g now = .ok buckets) :
    start ≤ stop ∧ g.bucketCount start stop ≤ Granularity.maxBuckets := by
  by_cases live : g = .day
  · subst live
    obtain ⟨hrange, hbuckets, -⟩ := buckets_day_eq_ok_iff.mp h
    exact ⟨checkRange_eq_ok_iff.mp hrange, checkBuckets_eq_ok_iff.mp hbuckets⟩
  · obtain ⟨hrange, hbuckets, -⟩ := (buckets_live_eq_ok_iff live).mp h
    exact ⟨hrange, hbuckets⟩

/-! ## Every reachable state -/

/-- **Every series of a reachable state is filled without loss.** -/
theorem every_series_filled (ops : List Operation) (years : ∀ op ∈ ops, op.InYears)
    (site : String) (g : Granularity) (start stop now : Instant) (points : List Point)
    (h : (migrated.perform ops).series site start stop g now = .ok points) :
    Filled g start stop points (g.densify points start stop) := by
  have hbalanced := Account.balanced_run (migrated.trace ops)
  have hyears := Account.fourDigit_of_trace years
  rw [perform, ← Account.store_run_opening] at h
  obtain ⟨buckets, hbuckets, rfl⟩ := series_eq_ok_iff.mp h
  obtain ⟨order, fits⟩ := range_of_buckets hbuckets
  exact filled_of_aligned
    (aligned_of_buckets (hbalanced.keyedAtMidnights hyears) hyears hbuckets) order fits

/-- A day of the rollup and a view of today, with two days between them to be filled. -/
theorem filled_viewsOfTwoDays :
    (∀ op ∈ viewsOfTwoDays.map Operation.call, op.InYears) ∧
      ∃ points, (migrated.perform (viewsOfTwoDays.map .call)).series "blog"
          (.endOfDay (sampleDay 0)) (.endOfDay (sampleDay 3)) .day (.endOfDay (sampleDay 3)) =
            .ok points ∧
        Filled .day (.endOfDay (sampleDay 0)) (.endOfDay (sampleDay 3)) points
          (Granularity.day.densify points (.endOfDay (sampleDay 0)) (.endOfDay (sampleDay 3))) ∧
        points.map (·.time) = [.midnight (sampleDay 0), .midnight (sampleDay 3)] ∧
        (Granularity.day.densify points (.endOfDay (sampleDay 0))
          (.endOfDay (sampleDay 3))).length = 4 := by
  have hyears : ∀ op ∈ viewsOfTwoDays.map Operation.call, op.InYears :=
    inYears_map_call (by decide)
  have hbuckets : ((migrated.perform (viewsOfTwoDays.map .call)).buckets "blog"
      (.endOfDay (sampleDay 0)) (.endOfDay (sampleDay 3)) .day
      (.endOfDay (sampleDay 3))).toOption =
        some [⟨.midnight (sampleDay 0), ⟨1, 1, 1⟩⟩, ⟨.midnight (sampleDay 3), ⟨1, 1, 1⟩⟩] := by
    rw [perform_map_call]
    decide +kernel
  have hseries := series_eq_ok_iff.mpr ⟨_, eq_ok_of_toOption hbuckets, rfl⟩
  have hfilled := every_series_filled _ hyears "blog" .day _ _ _ _ hseries
  refine ⟨hyears, _, hseries, hfilled, rfl, ?_⟩
  have hlength := hfilled.length_eq
  have hcount : Granularity.day.bucketCount (.endOfDay (sampleDay 0)) (.endOfDay (sampleDay 3)) =
      4 := by decide
  omega

end Store

end Footfall
