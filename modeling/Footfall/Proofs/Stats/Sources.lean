import Mathlib
import Footfall.Proofs.Stats.Answers
import Footfall.Proofs.Stats.Stitching

/-!
# What a query reads

A summary and a day series are two queries with two statements each.  They read the
same rows of the rollup and the same facts: a range is cut at midnight, the rows of
a site are selected before it and the facts of the site from it on.  The summary adds
them up at once, and the series adds them up bucket by bucket.

Nothing is asked of the store.  It need not have come about by visits, and the rows
may be keyed at any moments.

## Main Definitions

* `Store.historicRows`, `Store.liveFacts` — the rows and facts of the parts of a range
* `Bucket.OfText` — a bucket that sums the rows of one text
* `Bucket.OfFacts` — a bucket that counts the facts of one bucket of time

## Main Statements

* `Store.liveBuckets_of_ok` — a series of facts, bucket by bucket
* `Store.dayBuckets_of_ok` — a day series, text by text and day by day
* `Store.splitTotals_of_ok` — a summary reads the same rows and facts
-/

namespace Footfall

/-! ## Reading one by one -/

theorem eq_ok_of_toOption {α ε : Type} {x : Except ε α} {a : α} (h : x.toOption = some a) :
    x = .ok a := by
  cases x with
  | error e => cases h
  | ok b => exact congrArg Except.ok (Option.some.inj h)

section OneByOne

variable {α β ε : Type} {f : α → Except ε β} {R : α → β → Prop} {as : List α} {bs : List β}

/-- Each member is read to the answer in its place. -/
theorem forall₂_of_mapM (h : as.mapM f = .ok bs) :
    List.Forall₂ (fun a b => f a = .ok b) as bs := by
  rw [mapM_eq_ok_iff] at h
  have hsame : List.Forall₂ (· = ·) (as.map f) (bs.map .ok) := by
    rw [h, List.forall₂_eq_eq_eq]
  rwa [List.forall₂_map_left_iff, List.forall₂_map_right_iff] at hsame

theorem exists_of_forall₂ (h : List.Forall₂ R as bs) {b : β} (hb : b ∈ bs) :
    ∃ a ∈ as, R a b := by
  induction h with
  | nil => cases hb
  | cons hab _ ih =>
      rcases List.mem_cons.mp hb with rfl | hb
      · exact ⟨_, List.mem_cons_self, hab⟩
      · obtain ⟨a, ha, hR⟩ := ih hb
        exact ⟨a, List.mem_cons_of_mem _ ha, hR⟩

/-- What is told of each answer by its member can be told by the members. -/
theorem map_eq_of_forall₂ {γ : Type} {m : β → γ} {k : α → γ} (h : List.Forall₂ R as bs)
    (same : ∀ a b, R a b → m b = k a) : bs.map m = as.map k := by
  have heq : List.Forall₂ (· = ·) (bs.map m) (as.map k) := by
    rw [List.forall₂_map_left_iff, List.forall₂_map_right_iff]
    exact (h.imp same).flip
  rwa [List.forall₂_eq_eq_eq] at heq

end OneByOne

/-! ## Buckets -/

/-- **A bucket sums the rows of one text**, which names its start. -/
structure Bucket.OfText (rows : List (RollupKey × Measures)) (text : String)
    (b : Bucket) : Prop where
  /-- The rows are summed. -/
  sums : SumsOf (rows.filter (·.1.bucket.bucketText == text)) b.totals
  /-- The text is read as the start. -/
  start : Instant.ofStoredText? text = some b.start

/-- **A bucket counts the facts of one bucket of time.** -/
structure Bucket.OfFacts (g : Granularity) (facts : List Fact) (t : Timestamp)
    (b : Bucket) : Prop where
  /-- The facts are counted. -/
  totals : b.totals = .ofFacts (facts.filter (·.time.truncate g == t))
  /-- The moment is read as the start. -/
  start : t.readBucket = .ok b.start

/-- The texts of the buckets of rows, in order. -/
def bucketTexts (rows : List (RollupKey × Measures)) : List String :=
  (distinct (rows.map (·.1.bucket.bucketText))).mergeSort (· ≤ ·)

theorem bucketTexts_nil : bucketTexts [] = [] := by
  simp [bucketTexts, distinct]

theorem bucketsOf_nil (g : Granularity) : Store.bucketsOf g [] = [] := by
  simp [Store.bucketsOf, distinct]

namespace Store

variable {s : Store} {site : String} {range : Span} {g : Granularity} {parts : Split}
  {buckets : List Bucket} {t : Totals}

/-- The rows that the part of a range before midnight reads. -/
def historicRows (s : Store) (site : String) (part : Option Span) : List (RollupKey × Measures) :=
  part.elim [] (s.siteRowsIn site)

/-- The facts that the part from midnight on reads. -/
def liveFacts (s : Store) (site : String) (part : Option Span) : List Fact :=
  part.elim [] (s.siteFactsWithin site)

/-- **A series of facts**, bucket by bucket. -/
theorem liveBuckets_of_ok (h : s.liveBuckets site range g = .ok buckets) :
    List.Forall₂ (Bucket.OfFacts g (s.siteFactsWithin site range))
      (bucketsOf g (s.siteFactsWithin site range)) buckets := by
  rw [liveBuckets, bind_eq_ok_iff] at h
  obtain ⟨facts, hfacts, h⟩ := h
  obtain ⟨-, -, -, rfl⟩ := siteFacts_eq_ok_iff.mp hfacts
  refine (forall₂_of_mapM h).imp fun t b hb => ?_
  obtain ⟨start, hstart, hb⟩ := bind_eq_ok_iff.mp hb
  obtain ⟨totals, htotals, hb⟩ := bind_eq_ok_iff.mp hb
  obtain rfl := Except.ok.inj hb
  exact ⟨(countFacts_eq_ok_iff.mp htotals).1, hstart⟩

theorem historicBuckets_of_ok (h : s.historicBuckets site range = .ok buckets) :
    List.Forall₂ (Bucket.OfText (s.siteRowsIn site range))
      (bucketTexts (s.siteRowsIn site range)) buckets := by
  rw [historicBuckets, bind_eq_ok_iff] at h
  obtain ⟨rows, hrows, h⟩ := h
  obtain ⟨-, -, -, rfl⟩ := siteRows_eq_ok_iff.mp hrows
  refine (forall₂_of_mapM h).imp fun text b hb => ?_
  obtain ⟨totals, htotals, hb⟩ := bind_eq_ok_iff.mp hb
  obtain ⟨hsums, -⟩ := sumRows_eq_ok_iff.mp htotals
  cases hread : Instant.ofStoredText? text with
  | none =>
      rw [hread] at hb
      cases hb
  | some start =>
      rw [hread] at hb
      obtain rfl := Except.ok.inj hb
      exact ⟨hsums, hread⟩

/-- **A day series**, text by text before midnight and day by day from then on. -/
theorem dayBuckets_of_ok (h : s.dayBuckets site parts = .ok buckets) :
    ∃ historic live, buckets = historic ++ live ∧
      List.Forall₂ (Bucket.OfText (s.historicRows site parts.historic))
        (bucketTexts (s.historicRows site parts.historic)) historic ∧
      List.Forall₂ (Bucket.OfFacts .day (s.liveFacts site parts.live))
        (bucketsOf .day (s.liveFacts site parts.live)) live := by
  obtain ⟨historic, live, hhistoric, hlive, rfl⟩ := dayBuckets_eq_ok_iff.mp h
  refine ⟨historic, live, rfl, ?_, ?_⟩
  · cases hpart : parts.historic with
    | none =>
        rw [hpart, Option.elim_none] at hhistoric
        rw [← Except.ok.inj hhistoric, historicRows, Option.elim_none, bucketTexts_nil]
        exact .nil
    | some range =>
        rw [hpart, Option.elim_some] at hhistoric
        exact historicBuckets_of_ok hhistoric
  · cases hpart : parts.live with
    | none =>
        rw [hpart, Option.elim_none] at hlive
        rw [← Except.ok.inj hlive, liveFacts, Option.elim_none, bucketsOf_nil]
        exact .nil
    | some range =>
        rw [hpart, Option.elim_some] at hlive
        exact liveBuckets_of_ok hlive

/-- **A summary reads the same rows and facts**, and adds them up at once. -/
theorem splitTotals_of_ok (h : s.splitTotals site parts = .ok t) :
    ∃ historic, SumsOf (s.historicRows site parts.historic) historic ∧
      t = historic.add (.ofFacts (s.liveFacts site parts.live)) := by
  obtain ⟨historic, live, hhistoric, hlive, rfl⟩ := Account.splitTotals_eq_ok_iff.mp h
  have hsums : SumsOf (s.historicRows site parts.historic) historic := by
    cases hpart : parts.historic with
    | none =>
        rw [hpart, Option.elim_none] at hhistoric
        rw [← Except.ok.inj hhistoric]
        exact ⟨rfl, rfl, rfl⟩
    | some range =>
        rw [hpart, Option.elim_some, bind_eq_ok_iff] at hhistoric
        obtain ⟨rows, hrows, hsum⟩ := hhistoric
        obtain ⟨-, -, -, rfl⟩ := siteRows_eq_ok_iff.mp hrows
        exact (sumRows_eq_ok_iff.mp hsum).1
  have hcounts : live = .ofFacts (s.liveFacts site parts.live) := by
    cases hpart : parts.live with
    | none =>
        rw [hpart, Option.elim_none] at hlive
        exact (Except.ok.inj hlive).symm
    | some range =>
        rw [hpart, Option.elim_some, bind_eq_ok_iff] at hlive
        obtain ⟨facts, hfacts, hcount⟩ := hlive
        obtain ⟨-, -, -, rfl⟩ := siteFacts_eq_ok_iff.mp hfacts
        exact (countFacts_eq_ok_iff.mp hcount).1
  exact ⟨historic, hsums, hcounts ▸ rfl⟩

/-! ## Summaries -/

variable {start stop now : Instant}

theorem totals_eq_ok_iff :
    s.totals site start stop now = .ok t ↔
      checkRange start stop = .ok () ∧
        ∃ parts, split? start stop now = some parts ∧ s.splitTotals site parts = .ok t := by
  unfold totals
  simp only [bind_eq_ok_iff, mapError_eq_ok_iff, Unique.exists_iff]
  refine and_congr_right fun _ => ?_
  cases split? start stop now with
  | none => simp only [reduceCtorEq, false_and, exists_false]
  | some parts => simp only [Option.some.injEq, exists_eq_left', mapError_eq_ok_iff]

theorem summary_eq_ok_iff {sum : Summary} :
    s.summary site start stop now = .ok sum ↔
      ∃ t, s.totals site start stop now = .ok t ∧
        sum = ⟨t.pageviews, t.visitors, bounceRate t.bounces t.visitors⟩ := by
  simp only [summary, bind_eq_ok_iff, Except.ok.injEq]
  exact exists_congr fun t => and_congr_right fun _ => eq_comm

end Store

end Footfall
