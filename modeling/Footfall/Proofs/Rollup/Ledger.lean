import Mathlib
import Footfall.Proofs.Rollup.Run
import Footfall.Proofs.Rollup.Sums

/-!
# The ledger of counted facts

The rollups keep no record of the facts that they stand for.  The proofs do:
beside the store they carry the list of facts that the last compaction of each
day saw.  Every row is then a row of that list, and the watermarks tell how many
of its facts lie on their day.

## Main Definitions

* `Account` — a store and the facts that its rollups stand for
* `Account.step` — what an action does to both
* `Account.Balanced` — the invariant
* `Account.Becomes` — what an action makes of an account

## Main Statements

* `Account.Balanced.becomes_step` — the three things that an action can do
* `Account.Balanced.step`, `Account.balanced_run` — every action keeps the
  invariant, so it holds after every run
* `Account.Balanced.dailyOn_perm`, `Account.Balanced.hourlyOn_perm` — the rows of
  a day are those of the facts counted on it
-/

namespace Footfall

/-! ## Widths of buckets within a day -/

/-- The buckets of a width lie within a day each. -/
def Granularity.WithinDay (g : Granularity) : Prop :=
  ∀ t : Timestamp, (t.truncate g).dayNumber = t.dayNumber

theorem withinDay_day : Granularity.WithinDay .day :=
  Timestamp.dayNumber_truncate_day

theorem withinDay_hour : Granularity.WithinDay .hour :=
  Timestamp.dayNumber_truncate_hour

/-- The facts of a list that lie on a day. -/
def factsOfDay (d : Day) (facts : List Fact) : List Fact :=
  facts.filter fun f => f.time.OnDay d

theorem mem_factsOfDay {d : Day} {facts : List Fact} {f : Fact} :
    f ∈ factsOfDay d facts ↔ f ∈ facts ∧ f.time.OnDay d := by
  rw [factsOfDay, List.mem_filter, decide_eq_true_eq]

/-- The facts of a list that do not. -/
def factsOffDay (d : Day) (facts : List Fact) : List Fact :=
  facts.filter fun f => ¬ f.time.OnDay d

namespace Rollup

variable {g : Granularity} {facts : List Fact} {k : RollupKey} {d : Day}

theorem onDay_of_bucket (hg : g.WithinDay) {f : Fact} (h : f.time.truncate g = k.bucket) :
    f.time.OnDay d ↔ k.bucket.OnDay d := by
  rw [Timestamp.OnDay, Timestamp.OnDay, ← h, hg]

/-- The row of a key on a day depends on the facts of that day. -/
theorem row?_factsOfDay (hg : g.WithinDay) (h : k.bucket.OnDay d) :
    row? g (factsOfDay d facts) k = row? g facts k := by
  refine row?_filter fun f _ hbucket _ => ?_
  simpa using (onDay_of_bucket hg hbucket).mpr h

/-- The row of any other key does not depend on them. -/
theorem row?_factsOffDay (hg : g.WithinDay) (h : ¬ k.bucket.OnDay d) :
    row? g (factsOffDay d facts) k = row? g facts k := by
  refine row?_filter fun f _ hbucket _ => ?_
  simpa using mt (onDay_of_bucket hg hbucket).mp h

theorem row?_factsOfDay_eq_none (hg : g.WithinDay) (h : ¬ k.bucket.OnDay d) :
    row? g (factsOfDay d facts) k = none := by
  refine row?_eq_none_iff.mpr ?_
  rintro f hf rfl
  exact h ((onDay_of_bucket hg rfl).mp (mem_factsOfDay.mp hf).2)

end Rollup

/-! ## Accounts -/

/-- A store and the facts that its rollups stand for. -/
structure Account where
  /-- The store. -/
  store : Store
  /-- For each compacted day, the facts that its last compaction saw. -/
  counted : List Fact

namespace Account

/-- The facts that the rollups stand for after a compaction of `d`. -/
def recount (x : Account) (d : Day) : List Fact :=
  factsOffDay d x.counted ++ x.store.factsOn d

/-- The facts that the rollups stand for after an action. -/
def counts (x : Account) : Action → List Fact
  | .compact d now =>
    match x.store.compactDay d now with
    | .ok _ => x.recount d
    | .error _ => x.counted
  | _ => x.counted

/-- What an action does to an account. -/
def step (x : Account) (a : Action) : Account :=
  ⟨a.run x.store, x.counts a⟩

/-- What some actions do to an account. -/
def run (x : Account) (as : List Action) : Account :=
  as.foldl step x

/-- A freshly migrated store, whose rollups stand for nothing. -/
def opening : Account :=
  ⟨.migrated, []⟩

variable {x : Account} {as : List Action} {d : Day}

theorem run_append (bs : List Action) : x.run (as ++ bs) = (x.run as).run bs :=
  List.foldl_append

theorem run_concat (a : Action) : x.run (as ++ [a]) = (x.run as).step a :=
  run_append [a]

theorem store_run : (x.run as).store = x.store.runAll as := by
  induction as generalizing x with
  | nil => rfl
  | cons a as ih => exact ih (x := x.step a)

theorem step_of_compactable (c : x.store.Complete) {now : Instant} (h : Compactable d now) :
    x.step (.compact d now) = ⟨x.store.compacted d now, x.recount d⟩ := by
  have hday := Store.compactDay_of_compactable c h
  simp only [step, Action.run, counts, hday]

theorem step_of_not_compactable {now : Instant} (h : ¬ Compactable d now) :
    x.step (.compact d now) = x := by
  obtain ⟨e, hday⟩ := Store.compactDay_of_not_compactable (s := x.store) h
  simp only [step, Action.run, counts, hday]

/-! ## The invariant -/

/-- **The rollups stand for the counted facts**, and the counted facts of a day
are those that came first. -/
structure Balanced (x : Account) : Prop where
  /-- Every table stands. -/
  complete : x.store.Complete
  /-- Reference tables are numbered soundly. -/
  referential : x.store.Referential
  /-- The ids of every fact lead to rows. -/
  holds : ∀ f ∈ x.store.factList, x.store.Holds f.ids
  /-- Facts are numbered in the order in which they came. -/
  increasing : x.store.factList.Pairwise fun a b => a.id < b.id
  /-- No fact has an id that was not handed out. -/
  numbered : ∀ f ∈ x.store.factList, f.id ≤ (x.store.factIds.getD 0 : ℕ)
  /-- The daily rows are those of the counted facts. -/
  daily : ∀ k, x.store.dailyTable.get? k = Rollup.row? .day x.counted k
  /-- So are the hourly rows. -/
  hourly : ∀ k, x.store.hourlyTable.get? k = Rollup.row? .hour x.counted k
  /-- Only facts are counted. -/
  known : ∀ f ∈ x.counted, f ∈ x.store.factList
  /-- The counted facts of a day are the first ones on it. -/
  first : ∀ d, factsOfDay d x.counted <+: x.store.factsOn d
  /-- Without a watermark, no fact of a day is counted. -/
  unmarked : ∀ d, x.store.marks.get? (.midnight d) = none → factsOfDay d x.counted = []
  /-- A watermark tells how many facts of its day are counted. -/
  marked : ∀ d mark, x.store.marks.get? (.midnight d) = some mark →
    mark.factCount = (factsOfDay d x.counted).length

theorem balanced_opening : opening.Balanced where
  complete := Store.complete_migrated
  referential := Store.referential_migrated
  holds := by simp [opening]
  increasing := by simp [opening]
  numbered := by simp [opening]
  daily := fun _ => rfl
  hourly := fun _ => rfl
  known := by simp [opening]
  first := fun _ => List.nil_prefix
  unmarked := fun _ _ => rfl
  marked := by
    intro d mark h
    rw [opening, Store.marks_migrated, Table.get?_empty] at h
    cases h

theorem Balanced.counted_subset (h : x.Balanced) {f : Fact} (hf : f ∈ x.counted)
    (hday : f.time.OnDay d) : f ∈ x.store.factsOn d :=
  (h.first d).subset (mem_factsOfDay.mpr ⟨hf, hday⟩)

/-- Growing reference tables keep the balance. -/
theorem Balanced.grown (h : x.Balanced) {s' : Store} (grown : x.store.Grown s')
    (complete : s'.Complete) (sound : s'.Referential) : Balanced ⟨s', x.counted⟩ where
  complete := complete
  referential := sound
  holds := by
    dsimp only
    rw [grown.factList]
    exact fun f hf => (h.holds f hf).of_grown grown
  increasing := by
    dsimp only
    rw [grown.factList]
    exact h.increasing
  numbered := by
    dsimp only
    rw [grown.factList, grown.factIds]
    exact h.numbered
  daily := by
    dsimp only
    rw [grown.dailyTable]
    exact h.daily
  hourly := by
    dsimp only
    rw [grown.hourlyTable]
    exact h.hourly
  known := by
    dsimp only
    rw [grown.factList]
    exact h.known
  first := by
    intro d
    have hfacts : s'.factsOn d = x.store.factsOn d := by
      rw [Store.factsOn, grown.factList, Store.factsOn]
    rw [hfacts]
    exact h.first d
  unmarked := by
    dsimp only
    rw [grown.marks]
    exact h.unmarked
  marked := by
    dsimp only
    rw [grown.marks]
    exact h.marked

/-- A new fact is not counted yet. -/
theorem Balanced.withFact (h : x.Balanced) (time : Timestamp) (site : String) (visitor : ℕ)
    {ids : PerDimension (Option ℤ)} (holds : x.store.Holds ids) :
    Balanced ⟨x.store.withFact time site visitor ids, x.counted⟩ where
  complete := Store.complete_withFact h.complete time site visitor ids
  referential := h.referential
  holds := by
    intro f hf
    rcases List.mem_append.mp (show f ∈ x.store.factList ++ [_] from hf) with hf | hf
    · exact h.holds f hf
    · rw [List.mem_singleton.mp hf]
      exact holds
  increasing := by
    refine List.pairwise_append.mpr ⟨h.increasing, List.pairwise_singleton _ _, ?_⟩
    intro a ha b hb
    rw [List.mem_singleton.mp hb]
    exact Int.lt_add_one_of_le (h.numbered a ha)
  numbered := by
    intro f hf
    simp only [Store.withFact, Option.getD_some, Nat.cast_add, Nat.cast_one]
    rcases List.mem_append.mp (show f ∈ x.store.factList ++ [_] from hf) with hf | hf
    · exact (h.numbered f hf).trans (by omega)
    · rw [List.mem_singleton.mp hf]
  daily := h.daily
  hourly := h.hourly
  known f hf := List.mem_append_left _ (h.known f hf)
  first := by
    intro d
    refine (h.first d).trans ?_
    rw [Store.factsOn, Store.factsOn, show (x.store.withFact time site visitor ids).factList =
      x.store.factList ++ [_] from rfl, List.filter_append]
    exact List.prefix_append _ _
  unmarked := h.unmarked
  marked := h.marked

/-! ## Compactions -/

theorem factsOn_eq (s : Store) (d : Day) : s.factsOn d = factsOfDay d s.factList := rfl

theorem factsOfDay_recount_self (x : Account) (d : Day) :
    factsOfDay d (x.recount d) = x.store.factsOn d := by
  rw [recount, factsOfDay, List.filter_append, factsOffDay, List.filter_filter, factsOn_eq,
    factsOfDay, List.filter_filter]
  simp

theorem factsOfDay_recount_of_ne (x : Account) {d e : Day} (h : e ≠ d) :
    factsOfDay e (x.recount d) = factsOfDay e x.counted := by
  have hboth : ∀ f : Fact, f.time.OnDay e → ¬ f.time.OnDay d :=
    fun f he hd => h (he.unique hd)
  rw [recount, factsOfDay, List.filter_append, factsOffDay, List.filter_filter, factsOn_eq,
    factsOfDay, List.filter_filter, factsOfDay]
  -- the facts that the count of `d` takes in are on no other day
  have hnone : x.store.factList.filter (fun f => decide (f.time.OnDay e) &&
      decide (f.time.OnDay d)) = [] := by
    rw [List.filter_eq_nil_iff]
    intro f _
    simp only [Bool.and_eq_true, decide_eq_true_eq, not_and]
    exact hboth f
  rw [hnone, List.append_nil]
  refine List.filter_congr fun f _ => ?_
  by_cases he : f.time.OnDay e
  · simp [he, hboth f he]
  · simp [he]

/-- Rows of a day are written over, and there is a new one for every old one. -/
theorem Balanced.row?_recount (h : x.Balanced) {g : Granularity} (hg : g.WithinDay)
    (k : RollupKey) :
    Rollup.row? g (x.recount d) k =
      (Rollup.row? g (x.store.factsOn d) k).or (Rollup.row? g x.counted k) := by
  -- a bucket has its facts on one day: all of them were recounted, or none
  by_cases hday : k.bucket.OnDay d
  · rw [← Rollup.row?_factsOfDay hg hday, factsOfDay_recount_self]
    cases hrow : Rollup.row? g (x.store.factsOn d) k with
    | some m => rw [Option.some_or]
    | none =>
        -- no fact of the day has this key, so no counted one has
        rw [Option.none_or, eq_comm, Rollup.row?_eq_none_iff]
        rintro f hf rfl
        have hon := (Rollup.onDay_of_bucket hg (f := f) (d := d) rfl).mpr hday
        exact Rollup.row?_eq_none_iff.mp hrow f (h.counted_subset hf hon) rfl
  · rw [factsOn_eq, Rollup.row?_factsOfDay_eq_none hg hday, Option.none_or,
      ← Rollup.row?_factsOffDay hg hday, ← @Rollup.row?_factsOffDay g x.counted k d hg hday]
    congr 1
    rw [recount, factsOn_eq, factsOffDay, factsOffDay, factsOfDay, List.filter_append,
      List.filter_filter, List.filter_filter]
    simp

/-- A compaction moves the facts of its day into the count. -/
theorem Balanced.compacted (h : x.Balanced) (d : Day) (now : Instant) :
    Balanced ⟨x.store.compacted d now, x.recount d⟩ where
  complete := Store.complete_compacted h.complete d now
  referential := h.referential
  holds := h.holds
  increasing := h.increasing
  numbered := h.numbered
  daily := by
    intro k
    rw [h.row?_recount withinDay_day, Store.dailyTable_compacted, Rollup.get?_putAll_aggregate,
      h.daily]
  hourly := by
    intro k
    rw [h.row?_recount withinDay_hour, Store.hourlyTable_compacted, Rollup.get?_putAll_aggregate,
      h.hourly]
  known := by
    intro f hf
    rcases List.mem_append.mp hf with hf | hf
    · exact h.known f (List.mem_of_mem_filter hf)
    · exact List.mem_of_mem_filter hf
  first := by
    intro e
    by_cases he : e = d
    · rw [he, factsOfDay_recount_self]
      exact List.prefix_refl _
    · rw [factsOfDay_recount_of_ne x he]
      exact h.first e
  unmarked := by
    intro e hmark
    by_cases he : e = d
    · rw [he, Store.mark_compacted_self] at hmark
      cases hmark
    · rw [Store.mark_compacted_of_ne he] at hmark
      rw [factsOfDay_recount_of_ne x he, h.unmarked e hmark]
  marked := by
    intro e mark hmark
    by_cases he : e = d
    · rw [he, Store.mark_compacted_self] at hmark
      rw [he, factsOfDay_recount_self, ← Option.some.inj hmark]
      rfl
    · rw [Store.mark_compacted_of_ne he] at hmark
      rw [factsOfDay_recount_of_ne x he, h.marked e mark hmark]

/-! ## Runs -/

/-- **What an action makes of an account.** -/
inductive Becomes (x : Account) : Action → Account → Prop where
  /-- Nothing was written, except that reference tables may have grown. -/
  | quiet {a : Action} {s' : Store} (grown : x.store.Grown s') (complete : s'.Complete)
      (sound : s'.Referential) (unseen : a.sightings = [])
      (idle : ∀ d now, a = .compact d now → ¬ Compactable d now) : Becomes x a ⟨s', x.counted⟩
  /-- The fact of a visit was written. -/
  | fact {v : Visit} {now : Instant} {s' : Store} (grown : x.store.Grown s')
      (complete : s'.Complete) (sound : s'.Referential) (time : Timestamp) (site : String)
      (visitor : ℕ) {ids : PerDimension (Option ℤ)} (holds : s'.Holds ids)
      (seen : v.sighting? now = some ⟨time, site, visitor, s'.names ids⟩) :
      Becomes x (.record v now) ⟨s'.withFact time site visitor ids, x.counted⟩
  /-- The facts of a day were counted. -/
  | compacted {d : Day} {now : Instant} (h : Compactable d now) :
      Becomes x (.compact d now) ⟨x.store.compacted d now, x.recount d⟩

theorem Balanced.becomes_step (h : x.Balanced) (a : Action) : x.Becomes a (x.step a) := by
  cases a with
  | record v now =>
      have hrecord := Store.record_spec h.complete h.referential v now
      rw [step, Action.run]
      generalize hsight : v.sighting? now = sighting,
        (x.store.record v.event v.attributes v.policy now).1 = s' at hrecord
      cases hrecord with
      | nothing grown complete sound =>
          exact .quiet grown complete sound (by rw [Action.sightings, hsight, Option.toList_none])
            fun _ _ h => by cases h
      | fact grown complete sound time site visitor holds =>
          exact .fact grown complete sound time site visitor holds hsight
  | resolve k =>
      obtain ⟨grown, complete, sound, -⟩ := Store.resolve_spec h.complete h.referential k
      exact .quiet grown complete sound rfl fun _ _ h => by cases h
  | compact d now =>
      by_cases hd : Compactable d now
      · rw [step_of_compactable h.complete hd]
        exact .compacted hd
      · rw [step_of_not_compactable hd]
        refine .quiet (.refl x.store) h.complete h.referential rfl fun e clock heq => ?_
        cases heq
        exact hd

/-- **Every action keeps the balance.** -/
theorem Balanced.step (h : x.Balanced) (a : Action) : (x.step a).Balanced := by
  have hstep := h.becomes_step a
  generalize x.step a = y at hstep
  cases hstep with
  | quiet grown complete sound => exact h.grown grown complete sound
  | fact grown complete sound time site visitor holds =>
      exact (h.grown grown complete sound).withFact time site visitor holds
  | @compacted d now => exact h.compacted d now

theorem Balanced.run (h : x.Balanced) (as : List Action) : (x.run as).Balanced := by
  induction as generalizing x with
  | nil => exact h
  | cons a as ih => exact ih (h.step a)

/-- **The balance holds after every run.** -/
theorem balanced_run (as : List Action) : (opening.run as).Balanced :=
  balanced_opening.run as

theorem store_run_opening (as : List Action) :
    (opening.run as).store = Store.migrated.runAll as :=
  store_run

/-- Whether a day is compacted does not depend on what happened before. -/
theorem compacts_iff {before : List Action} {now : Instant} :
    Store.migrated.Compacts before d now ↔ Compactable d now := by
  have hcomplete := (balanced_run before).complete
  rw [store_run_opening] at hcomplete
  exact Store.compactDay_isOk_iff hcomplete

/-! ## The rows of a day -/

/-- The rows of a table on a day are those of the facts counted on it. -/
theorem rowsOn_perm {t : Rollup} {g : Granularity} (hg : g.WithinDay) {counted : List Fact}
    (h : ∀ k, t.get? k = Rollup.row? g counted k) (d : Day) :
    (t.rows.filter fun r => r.1.bucket.OnDay d).Perm
      (Rollup.aggregate g (factsOfDay d counted)) := by
  have hday : factsOfDay d counted = counted.filter fun f => (f.key g).bucket.OnDay d :=
    List.filter_congr fun f _ => decide_eq_decide.mpr (Rollup.onDay_of_bucket hg rfl)
  rw [hday]
  refine Rollup.filter_rows_perm h (q := fun k => k.bucket.OnDay d) fun k k' hbucket _ => ?_
  simp only [hbucket]

/-- A counted fact has a row in the daily rollup. -/
theorem Balanced.exists_row_of_mem_counted (h : x.Balanced) {f : Fact} (hf : f ∈ x.counted) :
    ∃ r ∈ x.store.dailyTable.rows, r.1 = f.key .day := by
  refine ⟨(f.key .day, Rollup.measures .day x.counted (f.key .day)), ?_, rfl⟩
  rw [← Table.get?_eq_some_iff, h.daily, Rollup.row?, if_pos (Rollup.mem_keys.mpr ⟨f, hf, rfl⟩)]

theorem Balanced.dailyOn_perm (h : x.Balanced) (d : Day) :
    (x.store.dailyOn d).Perm (Rollup.aggregate .day (factsOfDay d x.counted)) :=
  rowsOn_perm withinDay_day h.daily d

theorem Balanced.hourlyOn_perm (h : x.Balanced) (d : Day) :
    (x.store.hourlyOn d).Perm (Rollup.aggregate .hour (factsOfDay d x.counted)) :=
  rowsOn_perm withinDay_hour h.hourly d

end Account

end Footfall
