import Mathlib
import Footfall.Calendar.Text
import Footfall.Proofs.Stats.Split
import Footfall.Proofs.Stats.Walk

/-!
# Filling gaps with any step

A step may be any function of instants: it may stall, lead back or jump over the end.  A
series is filled by a loop that goes on as long as a step leads forward and not past the
end.  There are finitely many instants up to the end, so the loop ends for every step,
and what it has filled are the points of the longest prefix of the steps that leads
forward within the range.

Steps of one width are told by the clock.  From an instant outside of leap seconds they
never lead into a leap second, so a range that ends in one has no more boundaries than
the range up to the nanosecond before it, although the clock shows a longer time.

## Main Definitions

* `LeadsForward` — so many steps lead forward within a range
* `GapLoop` — the loop that fills a series, round by round
* `ShownAt` — what a filled series shows at an instant
* `FillsWalk` — a series is filled along the walk of a step
* `Instant.HasSteps` — the calendar has all steps of one width that a range asks for

## Main Statements

* `leadsForward_iff` — a walk is the longest prefix of the steps that leads forward
* `GapLoop.exists_round` — the loop ends, and with the filled series
* `length_densifyBy` — how many points steps of one width give
* `gaps_filled` — what is filled, for every step and for steps of one width
* `length_densifyBy_ne_in_leapSecond` — the time that the clock shows is no measure for it
-/

namespace Footfall

/-! ## The longest prefix -/

/-- The first `n` boundaries, from `start` on, do not lie after `stop`, and each of them is later
than the one before. -/
structure LeadsForward (step : Instant → Instant) (start stop : Instant) (n : ℕ) : Prop where
  /-- None of them lies after the end. -/
  le_stop : ∀ t ∈ List.iterate step start n, t ≤ stop
  /-- Each one is later than the one before. -/
  increasing : (List.iterate step start n).IsChain (· < ·)

section Prefix

variable {step : Instant → Instant} {start stop t : Instant} {n : ℕ}

theorem leadsForward_zero : LeadsForward step start stop 0 :=
  ⟨fun _ ht => absurd ht List.not_mem_nil, .nil⟩

theorem leadsForward_one : LeadsForward step start stop 1 ↔ start ≤ stop := by
  constructor
  · intro h
    exact h.le_stop start List.mem_cons_self
  · intro h
    refine ⟨fun t ht => ?_, .singleton start⟩
    rw [List.mem_singleton.mp ht]
    exact h

/-- One more step leads forward if the first one does and the others do from there. -/
theorem leadsForward_add_two :
    LeadsForward step start stop (n + 2) ↔
      start ≤ stop ∧ start < step start ∧ LeadsForward step (step start) stop (n + 1) := by
  constructor
  · intro h
    obtain ⟨hforward, hrest⟩ := List.isChain_cons_cons.mp h.increasing
    exact ⟨h.le_stop start List.mem_cons_self, hforward,
      fun t ht => h.le_stop t (List.mem_cons_of_mem _ ht), hrest⟩
  · rintro ⟨hle, hforward, hrest⟩
    refine ⟨fun t ht => ?_, List.isChain_cons_cons.mpr ⟨hforward, hrest.increasing⟩⟩
    rcases List.mem_cons.mp ht with rfl | ht
    · exact hle
    · exact hrest.le_stop t ht

/-- A walk goes from step to step. -/
theorem walk_eq_iterate (step : Instant → Instant) (start stop : Instant) :
    walk step stop start = List.iterate step start (walk step stop start).length := by
  induction start using walk.induct step stop with
  | case1 start hle hlt ih =>
      rw [walk, if_pos hle, if_pos hlt, List.length_cons, List.iterate, ← ih]
  | case2 start hle hlt =>
      rw [walk, if_pos hle, if_neg hlt]
      rfl
  | case3 start hle =>
      rw [walk, if_neg hle]
      rfl

/-- **A walk is the longest prefix of the steps that leads forward** within its range. -/
theorem leadsForward_iff : LeadsForward step start stop n ↔ n ≤ (walk step stop start).length := by
  induction start using walk.induct step stop generalizing n with
  | case1 start hle hlt ih =>
      rw [walk, if_pos hle, if_pos hlt, List.length_cons]
      rcases n with _ | _ | n
      · exact iff_of_true leadsForward_zero (Nat.zero_le _)
      · exact iff_of_true (leadsForward_one.mpr hle) (Nat.le_add_left _ _)
      · rw [leadsForward_add_two, and_iff_right hle, and_iff_right hlt, ih]
        omega
  | case2 start hle hlt =>
      rw [walk, if_pos hle, if_neg hlt, List.length_singleton]
      rcases n with _ | _ | n
      · exact iff_of_true leadsForward_zero (Nat.zero_le _)
      · exact iff_of_true (leadsForward_one.mpr hle) le_rfl
      · refine iff_of_false (fun h => hlt ?_) (by omega)
        exact (leadsForward_add_two.mp h).2.1
  | case3 start hle =>
      rw [walk, if_neg hle, List.length_nil]
      cases n with
      | zero => exact iff_of_true leadsForward_zero le_rfl
      | succ n =>
          refine iff_of_false (fun h => hle ?_) (by omega)
          exact h.le_stop start List.mem_cons_self

end Prefix

/-! ## The loop -/

/-- The loop that fills a series, between two of its rounds. -/
structure GapLoop where
  /-- The points so far. -/
  filled : List Point
  /-- The next boundary, until the loop has ended. -/
  cursor : Option Instant

namespace GapLoop

variable {points done : List Point} {step : Instant → Instant} {start stop : Instant}

/-- A round adds the point of a boundary that is not past the end, and the loop ends where there
is no such boundary or a step does not lead forward. -/
def round (points : List Point) (stop : Instant) (step : Instant → Instant) (loop : GapLoop) :
    GapLoop :=
  match loop.cursor with
  | none => loop
  | some t =>
    if t ≤ stop then
      { filled := loop.filled ++ [pointAt points t]
        cursor := if t < step t then some (step t) else none }
    else { loop with cursor := none }

/-- **The loop ends, whatever the step**, and what it leaves is the filled series. -/
theorem exists_round (points done : List Point) (start stop : Instant)
    (step : Instant → Instant) :
    ∃ n, (round points stop step)^[n] ⟨done, some start⟩ =
      ⟨done ++ densify points start stop step, none⟩ := by
  unfold densify
  induction start using walk.induct step stop generalizing done with
  | case1 start hle hlt ih =>
      obtain ⟨n, hn⟩ := ih (done ++ [pointAt points start])
      have hround : round points stop step ⟨done, some start⟩ =
          ⟨done ++ [pointAt points start], some (step start)⟩ := by
        simp only [round, if_pos hle, if_pos hlt]
      refine ⟨n + 1, ?_⟩
      rw [Function.iterate_succ_apply, hround, hn, walk.eq_1 step stop start, if_pos hle,
        if_pos hlt, List.map_cons, List.append_assoc]
      rfl
  | case2 start hle hlt =>
      refine ⟨1, ?_⟩
      rw [walk, if_pos hle, if_neg hlt]
      simp only [Function.iterate_one, round, if_pos hle, if_neg hlt, List.map_cons, List.map_nil]
  | case3 start hle =>
      refine ⟨1, ?_⟩
      rw [walk, if_neg hle]
      simp only [Function.iterate_one, round, if_neg hle, List.map_nil, List.append_nil]

end GapLoop

/-! ## What is shown -/

/-- What a filled series shows at an instant: the last point there, or the zero point. -/
inductive ShownAt (points : List Point) (t : Instant) : Point → Prop
  | last {earlier later : List Point} {p : Point} (split : points = earlier ++ p :: later)
      (time : p.time = t) (last : ∀ q ∈ later, q.time ≠ t) : ShownAt points t p
  | zero (none_there : ∀ p ∈ points, p.time ≠ t) : ShownAt points t (.zero t)

section Shown

variable {points others : List Point} {p q : Point} {step : Instant → Instant}
  {start stop t : Instant}

theorem ShownAt.time_eq (h : ShownAt points t p) : p.time = t := by
  cases h with
  | last _ time _ => exact time
  | zero _ => rfl

/-- Where there are points, one of them is shown. -/
theorem ShownAt.mem (h : ShownAt points t p) (hq : q ∈ points) (htime : q.time = t) :
    p ∈ points := by
  cases h with
  | last split _ _ =>
      rw [split]
      exact List.mem_append_right _ List.mem_cons_self
  | zero none_there => exact absurd htime (none_there q hq)

theorem shownAt_pointAt (points : List Point) (t : Instant) :
    ShownAt points t (pointAt points t) := by
  unfold pointAt
  cases hfind : points.reverse.find? (·.time == t) with
  | none =>
      rw [List.find?_eq_none] at hfind
      exact .zero fun p hp htime => hfind p (List.mem_reverse.mpr hp) (beq_iff_eq.mpr htime)
  | some p =>
      obtain ⟨htime, later, earlier, hsplit, hlater⟩ := List.find?_eq_some_iff_append.mp hfind
      have hpoints : points = earlier.reverse ++ p :: later.reverse := by
        rw [List.reverse_eq_iff.mp hsplit, List.reverse_append, List.reverse_cons,
          List.append_assoc]
        rfl
      refine .last hpoints (beq_iff_eq.mp htime) fun q hq heq => ?_
      have hne := hlater q (List.mem_reverse.mp hq)
      rw [heq, beq_self_eq_true] at hne
      cases hne

theorem time_pointAt (points : List Point) (t : Instant) : (pointAt points t).time = t :=
  (shownAt_pointAt points t).time_eq

/-- What is shown at an instant are the points there and no others. -/
theorem pointAt_eq (points : List Point) (t : Instant) :
    pointAt points t = ((points.filter (·.time == t)).getLast?).getD (.zero t) := by
  rw [pointAt, ← List.head?_filter, List.filter_reverse, List.head?_reverse]

theorem pointAt_congr (h : others.filter (·.time == t) = points.filter (·.time == t)) :
    pointAt others t = pointAt points t := by
  rw [pointAt_eq, h, pointAt_eq]

theorem map_time_densify (points : List Point) (start stop : Instant)
    (step : Instant → Instant) :
    (densify points start stop step).map (·.time) = walk step stop start := by
  rw [densify, List.map_map]
  exact (List.map_congr_left fun t _ => time_pointAt points t).trans (List.map_id _)

/-- **Points off the walk have no effect.** -/
theorem densify_congr (h : others.filter (·.time ∈ walk step stop start) =
    points.filter (·.time ∈ walk step stop start)) :
    densify others start stop step = densify points start stop step := by
  refine List.map_congr_left fun t ht => pointAt_congr ?_
  have hfilter (ps : List Point) : ps.filter (·.time == t) =
      (ps.filter (·.time ∈ walk step stop start)).filter (·.time == t) := by
    rw [List.filter_filter]
    refine List.filter_congr fun p _ => ?_
    by_cases htime : p.time = t
    · simp [htime, ht]
    · simp [htime]
  rw [hfilter others, h, ← hfilter points]

/-- **Filled once more, a filled series stays as it is.** -/
theorem densify_self (points : List Point) (start stop : Instant) (step : Instant → Instant) :
    densify (densify points start stop step) start stop step = densify points start stop step := by
  have htimes := map_time_densify points start stop step
  refine List.map_congr_left fun t ht => ?_
  have hmem : pointAt points t ∈ densify points start stop step := List.mem_map_of_mem ht
  have hnodup : ((densify points start stop step).map (·.time)).Nodup := by
    rw [htimes]
    exact nodup_walk _ _ _
  -- what is shown at `t` is a point of the series, and no two of its points share a time
  have hshown := shownAt_pointAt (densify points start stop step) t
  exact List.inj_on_of_nodup_map hnodup (hshown.mem hmem (time_pointAt points t)) hmem
    (hshown.time_eq.trans (time_pointAt points t).symm)

end Shown

/-! ## Steps of one width -/

namespace Instant

variable {t u start stop : Instant} {width : ℤ}

/-- The step to the instant `width` nanoseconds later. -/
def stepBy (width : ℤ) (t : Instant) : Instant :=
  (t.add? width).getD t

/-- The calendar has the step from every instant that whole widths lead to within the range. -/
def HasSteps (start stop : Instant) (width : ℤ) : Prop :=
  ∀ (i : ℕ) (t : Instant), start.add? (i * width) = some t → t ≤ stop → (t.add? width).isSome

theorem stepBy_of_add? (h : t.add? width = some u) : stepBy width t = u := by
  rw [stepBy, h, Option.getD_some]

/-- What the calendar has from an instant on, it has from the next one on. -/
theorem HasSteps.next (h : HasSteps t stop width) (regular : t.isLeap = false)
    (next : t.add? width = some u) : HasSteps u stop width := by
  intro i v hv hle
  obtain ⟨huregular, huclock⟩ := (add?_eq_some_iff regular).mp next
  obtain ⟨hvregular, hvclock⟩ := (add?_eq_some_iff huregular).mp hv
  refine h (i + 1) v ((add?_eq_some_iff regular).mpr ⟨hvregular, ?_⟩) hle
  rw [hvclock, huclock, Nat.cast_succ, add_mul, one_mul]
  omega

/-- It has them all if it has one from the end. -/
theorem hasSteps_of_clock (forward : 0 < width) (regular : start.isLeap = false)
    (h : stop.beforeLeap.clock + width < 8210266876800 * second) : HasSteps start stop width := by
  intro i t ht hle
  obtain ⟨htregular, -⟩ := (add?_eq_some_iff regular).mp ht
  obtain ⟨hfirst, -⟩ := clock_bounds htregular
  rw [le_iff_clock htregular] at hle
  rw [isSome_add?_iff htregular]
  omega

/-- No addition of the walk leads out of the calendar. -/
theorem HasSteps.isSome_add? (h : HasSteps start stop width) (regular : start.isLeap = false)
    (ht : t ∈ walk (stepBy width) stop start) : (t.add? width).isSome := by
  induction start using walk.induct (stepBy width) stop with
  | case1 start hle hlt ih =>
      have hfirst := h 0 start ((add?_eq_some_iff regular).mpr ⟨regular, by omega⟩) hle
      obtain ⟨u, hu⟩ := Option.isSome_iff_exists.mp hfirst
      rw [walk, if_pos hle, if_pos hlt, List.mem_cons, stepBy_of_add? hu] at ht
      rw [stepBy_of_add? hu] at ih
      rcases ht with rfl | ht
      · exact hfirst
      · exact ih (h.next regular hu) ((add?_eq_some_iff regular).mp hu).1 ht
  | case2 start hle hlt =>
      rw [walk, if_pos hle, if_neg hlt, List.mem_singleton] at ht
      rw [ht]
      exact h 0 start ((add?_eq_some_iff regular).mpr ⟨regular, by omega⟩) hle
  | case3 start hle =>
      rw [walk, if_neg hle] at ht
      cases ht

/-- **A walk of one width has a boundary for each width that fits** before the end, and one for
the start. -/
theorem length_walk_stepBy (forward : 0 < width) (regular : start.isLeap = false)
    (steps : ∀ t ∈ walk (stepBy width) stop start, (t.add? width).isSome) :
    ((walk (stepBy width) stop start).length : ℤ) =
      if start ≤ stop then (stop.beforeLeap.clock - start.clock) / width + 1 else 0 := by
  induction start using walk.induct (stepBy width) stop with
  | case1 start hle hlt ih =>
      rw [walk, if_pos hle, if_pos hlt] at steps ⊢
      obtain ⟨u, hu⟩ := Option.isSome_iff_exists.mp (steps start List.mem_cons_self)
      obtain ⟨huregular, huclock⟩ := (add?_eq_some_iff regular).mp hu
      rw [stepBy_of_add? hu] at ih steps ⊢
      rw [List.length_cons, Nat.cast_succ, if_pos hle,
        ih huregular fun t ht => steps t (List.mem_cons_of_mem _ ht)]
      split
      · -- one width less is left from the next boundary on
        have hleft : stop.beforeLeap.clock - start.clock =
            stop.beforeLeap.clock - u.clock + 1 * width := by omega
        rw [hleft, Int.add_mul_ediv_right _ _ forward.ne']
      · next hpast =>
        -- less than a width is left
        rw [le_iff_clock huregular] at hpast
        rw [le_iff_clock regular] at hle
        rw [Int.ediv_eq_zero_of_lt (by omega) (by omega)]
  | case2 start hle hlt =>
      rw [walk, if_pos hle, if_neg hlt] at steps
      obtain ⟨u, hu⟩ := Option.isSome_iff_exists.mp (steps start List.mem_cons_self)
      obtain ⟨huregular, huclock⟩ := (add?_eq_some_iff regular).mp hu
      refine absurd ?_ hlt
      rw [stepBy_of_add? hu, lt_iff_clock huregular, beforeLeap_of_regular regular]
      omega
  | case3 start hle =>
      rw [walk, if_neg hle, if_neg hle, List.length_nil, Nat.cast_zero]

end Instant

section Width

variable {start stop : Instant} {width : ℤ}

/-- **Steps of one width that the calendar has give a series**, with a point for each width that
fits before the end and one for the start. -/
theorem length_densifyBy (points : List Point) (forward : 0 < width)
    (regular : start.isLeap = false) (steps : start.HasSteps stop width) :
    densifyBy? points start stop width =
        some (densify points start stop (Instant.stepBy width)) ∧
      ((densify points start stop (Instant.stepBy width)).length : ℤ) =
        if start ≤ stop then stop.beforeLeap.nanosSince start / width + 1 else 0 := by
  have hall : ∀ t ∈ walk (Instant.stepBy width) stop start, (t.add? width).isSome :=
    fun t ht => steps.isSome_add? regular ht
  constructor
  · exact if_pos (List.all_eq_true.mpr hall)
  · rw [densify, List.length_map, Instant.length_walk_stepBy forward regular hall,
      Instant.nanosSince_of_regular stop.isLeap_beforeLeap regular]

end Width

/-! ## Filled series -/

/-- **A series is filled along the walk of a step.** -/
structure FillsWalk (points : List Point) (start stop : Instant) (step : Instant → Instant)
    (filled : List Point) : Prop where
  /-- The loop ends with the series. -/
  ends : ∃ n, (GapLoop.round points stop step)^[n] ⟨[], some start⟩ = ⟨filled, none⟩
  /-- Each point is later than the one before. -/
  increasing : (filled.map (·.time)).Pairwise (· < ·)
  /-- Their times are the start, the step from there, the step from there and so on. -/
  times : filled.map (·.time) = List.iterate step start filled.length
  /-- They go on for as long as this leads forward within the range. -/
  longest : ∀ n, LeadsForward step start stop n ↔ n ≤ filled.length
  /-- Each one is the last of the given points at its time, or the zero point. -/
  shown : ∀ p ∈ filled, ShownAt points p.time p
  /-- Given points at other times have no effect. -/
  off_walk : ∀ others : List Point,
    others.filter (·.time ∈ filled.map (·.time)) = points.filter (·.time ∈ filled.map (·.time)) →
      densify others start stop step = filled
  /-- Filled once more, the series stays as it is. -/
  again : densify filled start stop step = filled

theorem fillsWalk_densify (points : List Point) (start stop : Instant)
    (step : Instant → Instant) :
    FillsWalk points start stop step (densify points start stop step) := by
  have htimes := map_time_densify points start stop step
  have hlength : (densify points start stop step).length = (walk step stop start).length :=
    List.length_map _
  refine ⟨?_, ?_, ?_, fun n => ?_, fun p hp => ?_, fun others h => ?_, densify_self _ _ _ _⟩
  · exact GapLoop.exists_round points [] start stop step
  · rw [htimes]
    exact pairwise_walk _ _ _
  · rw [htimes, hlength]
    exact walk_eq_iterate step start stop
  · rw [hlength]
    exact leadsForward_iff
  · obtain ⟨t, -, rfl⟩ := List.mem_map.mp hp
    rw [time_pointAt]
    exact shownAt_pointAt points t
  · rw [htimes] at h
    exact densify_congr h

/-- **Every series is filled along the walk of its step.** Steps of one width from an instant
outside of leap seconds give a point for each width that fits into the time up to the end, and
one for the start, if the end is not before the start. An end in a leap second counts as the last
nanosecond before it. -/
theorem gaps_filled (points : List Point) (start stop : Instant) :
    (∀ step, FillsWalk points start stop step (densify points start stop step)) ∧
      ∀ width : ℤ, 0 < width → start.isLeap = false → start.HasSteps stop width →
        densifyBy? points start stop width =
            some (densify points start stop (Instant.stepBy width)) ∧
          ((densify points start stop (Instant.stepBy width)).length : ℤ) =
            if start ≤ stop then stop.beforeLeap.nanosSince start / width + 1 else 0 :=
  ⟨fillsWalk_densify points start stop,
    fun _ forward regular steps => length_densifyBy points forward regular steps⟩

/-- The last second of 2016 before the leap second. -/
def lastSecond : Instant :=
  (Instant.parseRfc3339? "2016-12-31T23:59:59Z").get (by decide +kernel)

theorem hasSteps_lastSecond : lastSecond.HasSteps leapSecond Instant.second :=
  Instant.hasSteps_of_clock (by decide) (by decide +kernel) (by decide +kernel)

/-- Two points at one time, the end in a leap second: one boundary. -/
theorem gaps_filled_up_to_leapSecond :
    0 < Instant.second ∧ lastSecond.isLeap = false ∧
      lastSecond.HasSteps leapSecond Instant.second ∧
      ((densify [⟨lastSecond, 1, 1, 1.0⟩, ⟨lastSecond, 5, 2, 0.5⟩] lastSecond leapSecond
        (Instant.stepBy Instant.second)).length : ℤ) = 1 := by
  obtain ⟨-, hwidth⟩ := gaps_filled [⟨lastSecond, 1, 1, 1.0⟩, ⟨lastSecond, 5, 2, 0.5⟩] lastSecond
    leapSecond
  obtain ⟨-, hlength⟩ := hwidth Instant.second (by decide) (by decide +kernel) hasSteps_lastSecond
  refine ⟨by decide, by decide +kernel, hasSteps_lastSecond, hlength.trans ?_⟩
  decide +kernel

/-- **The time that the clock shows does not tell the number of points** if the range ends in a
leap second: a second fits into it, but no step leads into the leap second. -/
theorem length_densifyBy_ne_in_leapSecond :
    0 < Instant.second ∧ lastSecond.isLeap = false ∧
      lastSecond.HasSteps leapSecond Instant.second ∧ lastSecond ≤ leapSecond ∧
      leapSecond.nanosSince lastSecond = Instant.second ∧
      ((densify [] lastSecond leapSecond (Instant.stepBy Instant.second)).length : ℤ) ≠
        leapSecond.nanosSince lastSecond / Instant.second + 1 := by
  obtain ⟨-, hlength⟩ := length_densifyBy [] (by decide) (by decide +kernel) hasSteps_lastSecond
  refine ⟨by decide, by decide +kernel, hasSteps_lastSecond, by decide +kernel,
    by decide +kernel, ?_⟩
  rw [hlength]
  decide +kernel

end Footfall
