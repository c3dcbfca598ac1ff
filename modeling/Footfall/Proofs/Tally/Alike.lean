import Mathlib
import Footfall.Proofs.Rollup.Sums
import Footfall.Proofs.Visit.Sighting

/-!
# Facts that show the same

Two stores that saw the same visits in another order hold facts with other ids.
What a query makes of facts depends on their sightings alone, and not on the
order in which they came.

## Main Definitions

* `Alike` — facts of two stores show the same sightings, each as often
* `NamedKey.measures` — the measures of a rollup row, told by sightings
* `AlikeRows` — rollup rows of two stores are the same with names in place of ids

## Main Statements

* `mergeSort_congr` — sorting forgets the order
* `Alike.countFacts_eq` — alike facts have equal totals
* `Alike.bucketsOf_eq` — and lie in the same buckets
* `Alike.exists_ranking` — and have one ranking of labels
* `Alike.aggregate` — and have alike rollup rows
* `AlikeRows.sumRows_eq`, `AlikeRows.historicBuckets_eq` — which add up to the same
-/

namespace Footfall

/-! ## Sorting -/

/-- Sorting by an order forgets the order in which the members came. -/
theorem mergeSort_congr {α : Type} {le : α → α → Bool} {as bs : List α} (h : as.Perm bs)
    (trans : ∀ a b c, le a b → le b c → le a c) (total : ∀ a b, le a b || le b a)
    (antisymm : ∀ a ∈ as, ∀ b ∈ as, le a b → le b a → a = b) :
    as.mergeSort le = bs.mergeSort le := by
  have hperm : (as.mergeSort le).Perm (bs.mergeSort le) :=
    (List.mergeSort_perm as le).trans (h.trans (List.mergeSort_perm bs le).symm)
  refine hperm.eq_of_pairwise ?_ (List.pairwise_mergeSort trans total as)
    (List.pairwise_mergeSort trans total bs)
  intro a b ha hb
  exact antisymm a (List.mem_mergeSort.mp ha) b (h.symm.subset (List.mem_mergeSort.mp hb))

/-- Distinct moments sort in one way. -/
theorem mergeSort_timestamps {as bs : List Timestamp} (h : as.Perm bs) :
    as.mergeSort (· ≤ ·) = bs.mergeSort (· ≤ ·) := by
  refine mergeSort_congr h ?_ ?_ ?_
  · simp only [decide_eq_true_eq, Timestamp.le_iff]
    omega
  · simp only [Bool.or_eq_true, decide_eq_true_eq, Timestamp.le_iff]
    omega
  · intro a _ b _ hab hba
    rw [decide_eq_true_eq, Timestamp.le_iff] at hab hba
    cases a
    cases b
    exact congrArg Timestamp.mk (le_antisymm hab hba)

/-- Distinct texts sort in one way. -/
theorem mergeSort_strings {as bs : List String} (h : as.Perm bs) :
    as.mergeSort (· ≤ ·) = bs.mergeSort (· ≤ ·) := by
  refine mergeSort_congr h ?_ ?_ ?_
  · simp only [decide_eq_true_eq]
    exact fun _ _ _ => String.le_trans
  · simp only [Bool.or_eq_true, decide_eq_true_eq]
    exact String.le_total
  · simp only [decide_eq_true_eq]
    exact fun _ _ _ _ => String.le_antisymm

/-! ## Alike facts -/

/-- The facts of two stores show the same sightings, each as often. -/
def Alike (s₁ : Store) (facts₁ : List Fact) (s₂ : Store) (facts₂ : List Fact) : Prop :=
  (facts₁.map s₁.sight).Perm (facts₂.map s₂.sight)

namespace Alike

variable {s₁ s₂ : Store} {facts₁ facts₂ : List Fact}

/-- A choice by what facts show. -/
theorem filter (h : Alike s₁ facts₁ s₂ facts₂) (p : Sighting → Bool) :
    Alike s₁ (facts₁.filter fun f => p (s₁.sight f)) s₂
      (facts₂.filter fun f => p (s₂.sight f)) := by
  rw [Alike, s₁.map_sight_filter, s₂.map_sight_filter]
  exact List.Perm.filter p h

/-- Whatever is told by what facts show. -/
theorem map {α : Type} (h : Alike s₁ facts₁ s₂ facts₂) (φ : Sighting → α) :
    (facts₁.map fun f => φ (s₁.sight f)).Perm (facts₂.map fun f => φ (s₂.sight f)) := by
  have hmap := List.Perm.map φ h
  rwa [List.map_map, List.map_map] at hmap

theorem length_eq (h : Alike s₁ facts₁ s₂ facts₂) : facts₁.length = facts₂.length := by
  simpa using List.Perm.length_eq h

theorem countFacts_eq (h : Alike s₁ facts₁ s₂ facts₂) :
    countFacts facts₁ = countFacts facts₂ :=
  countFacts_congr (h.map Sighting.visitor)

theorem length_visitorsOf_eq (h : Alike s₁ facts₁ s₂ facts₂) :
    (visitorsOf facts₁).length = (visitorsOf facts₂).length :=
  (distinct_perm (h.map Sighting.visitor)).length_eq

theorem bucketsOf_eq (h : Alike s₁ facts₁ s₂ facts₂) (g : Granularity) :
    Store.bucketsOf g facts₁ = Store.bucketsOf g facts₂ :=
  mergeSort_timestamps (distinct_perm (h.map fun σ => σ.time.truncate g))

end Alike

/-! ## Rankings -/

/-- The facts of one label. -/
def ofLabel (label : Fact → String) (facts : List Fact) (l : String) : List Fact :=
  facts.filter (label · == l)

/-- The order of a ranking, told by how often a label occurs. -/
def labelBefore (count : String → ℕ) (l l' : String) : Bool :=
  count l' < count l || (count l' == count l && decide (l ≤ l'))

theorem ranking_eq_map (label : Fact → String) (facts : List Fact) :
    ranking label facts =
      ((distinct (facts.map label)).mergeSort
        (labelBefore fun l => (ofLabel label facts l).length)).map
          fun l => (l, ofLabel label facts l) :=
  (List.map_mergeSort (s := ranksBefore) (f := fun l => (l, ofLabel label facts l))
    fun _ _ _ _ => rfl).symm

theorem labelBefore_iff {count : String → ℕ} {l l' : String} : labelBefore count l l' = true ↔
    count l' < count l ∨ count l' = count l ∧ l ≤ l' := by
  simp only [labelBefore, Bool.or_eq_true, Bool.and_eq_true, decide_eq_true_eq, beq_iff_eq]

theorem labelBefore_trans {count : String → ℕ} (a b c : String)
    (hab : labelBefore count a b = true) (hbc : labelBefore count b c = true) :
    labelBefore count a c = true := by
  rw [labelBefore_iff] at hab hbc ⊢
  rcases hab with hab | ⟨hab, hle⟩
  · exact .inl (by omega)
  · rcases hbc with hbc | ⟨hbc, hle'⟩
    · exact .inl (by omega)
    · exact .inr ⟨by omega, String.le_trans hle hle'⟩

theorem labelBefore_total {count : String → ℕ} (a b : String) :
    (labelBefore count a b || labelBefore count b a) = true := by
  rw [Bool.or_eq_true, labelBefore_iff, labelBefore_iff]
  rcases Nat.lt_trichotomy (count a) (count b) with hlt | heq | hlt
  · exact .inr (.inl hlt)
  · rcases String.le_total a b with hle | hle
    · exact .inl (.inr ⟨heq.symm, hle⟩)
    · exact .inr (.inr ⟨heq, hle⟩)
  · exact .inl (.inl hlt)

theorem mergeSort_labels {as bs : List String} (h : as.Perm bs) (count : String → ℕ) :
    as.mergeSort (labelBefore count) = bs.mergeSort (labelBefore count) := by
  refine mergeSort_congr h labelBefore_trans labelBefore_total ?_
  intro a _ b _ hab hba
  rw [labelBefore_iff] at hab hba
  rcases hab with hab | ⟨hab, hle⟩
  · omega
  · rcases hba with hba | ⟨hba, hle'⟩
    · omega
    · exact String.le_antisymm hle hle'

namespace Alike

variable {s₁ s₂ : Store} {facts₁ facts₂ : List Fact}

/-- **Alike facts have one ranking**, if labels are told by what facts show. -/
theorem exists_ranking (h : Alike s₁ facts₁ s₂ facts₂) {label₁ label₂ : Fact → String}
    (φ : Sighting → String) (h₁ : ∀ f, label₁ f = φ (s₁.sight f))
    (h₂ : ∀ f, label₂ f = φ (s₂.sight f)) :
    ∃ labels : List String,
      ranking label₁ facts₁ = labels.map (fun l => (l, ofLabel label₁ facts₁ l)) ∧
      ranking label₂ facts₂ = labels.map (fun l => (l, ofLabel label₂ facts₂ l)) ∧
      ∀ l, Alike s₁ (ofLabel label₁ facts₁ l) s₂ (ofLabel label₂ facts₂ l) := by
  obtain rfl : label₁ = fun f => φ (s₁.sight f) := funext h₁
  obtain rfl : label₂ = fun f => φ (s₂.sight f) := funext h₂
  have halike := fun l => h.filter fun σ => φ σ == l
  have hcount : (fun l => (ofLabel (fun f => φ (s₁.sight f)) facts₁ l).length) =
      fun l => (ofLabel (fun f => φ (s₂.sight f)) facts₂ l).length :=
    funext fun l => (halike l).length_eq
  refine ⟨_, ranking_eq_map _ facts₁, ?_, halike⟩
  rw [ranking_eq_map, hcount, mergeSort_labels (distinct_perm (h.map φ))]

end Alike

/-! ## Rows -/

/-- Whether two sightings are views of one visitor on one site in one bucket. -/
def Sighting.sameVisit (g : Granularity) (a b : Sighting) : Bool :=
  b.visitor == a.visitor && b.site == a.site && b.time.truncate g == a.time.truncate g

/-- Whether a sighting is the only one of its visitor on its site in its bucket. -/
def Sighting.isBounce (g : Granularity) (sightings : List Sighting) (σ : Sighting) : Bool :=
  sightings.countP (σ.sameVisit g) == 1

/-- What a row of a rollup is about, with names in place of ids. -/
abbrev NamedKey := Timestamp × String × PerDimension (Option String)

/-- The key of the row to which a sighting contributes. -/
def Sighting.key (g : Granularity) (σ : Sighting) : NamedKey :=
  (σ.time.truncate g, σ.site, σ.names)

/-- The measures of the row of a key. -/
def NamedKey.measures (g : Granularity) (sightings : List Sighting) (κ : NamedKey) : Measures where
  count := (sightings.countP (·.key g == κ) : ℕ)
  visitors := ((distinct ((sightings.filter (·.key g == κ)).map (·.visitor))).length : ℕ)
  bounces := ((sightings.filter (·.key g == κ)).countP (·.isBounce g sightings) : ℕ)

theorem NamedKey.measures_congr {sightings others : List Sighting} (h : sightings.Perm others)
    (g : Granularity) : measures g sightings = measures g others := by
  have hbounce : Sighting.isBounce g sightings = Sighting.isBounce g others := by
    funext σ
    rw [Sighting.isBounce, Sighting.isBounce, h.countP_eq]
  funext κ
  have hgroup := h.filter (·.key g == κ)
  rw [measures, measures, h.countP_eq, (distinct_perm (hgroup.map (·.visitor))).length_eq, hbounce,
    hgroup.countP_eq]

namespace Store

variable {s : Store}

/-- A key with the names behind its ids. -/
def namedKey (s : Store) (k : RollupKey) : NamedKey :=
  (k.bucket, k.site, s.names (k.ids.map some))

/-- A row with the names behind the ids of its key. -/
def namedRow (s : Store) (r : RollupKey × Measures) : NamedKey × Measures :=
  (s.namedKey r.1, r.2)

/-- The zero that stands for an absent id has no name either. -/
theorem namedKey_key (sound : s.Referential) (g : Granularity) (f : Fact) :
    s.namedKey (f.key g) = (s.sight f).key g := by
  have hnames : s.names ((f.ids.map (·.getD 0)).map some) = s.names f.ids := by
    ext1 d
    simp only [names, PerDimension.get_ofFn, PerDimension.get_map]
    cases hid : f.ids.get d with
    | some id => rfl
    | none =>
        have hzero : (s.rowsOf d).find? (·.id == 0) = none := by
          rw [List.find?_eq_none]
          intro r hr
          have := ((sound d).bounds r hr).1
          rw [beq_iff_eq]
          omega
        rw [Option.getD_none, nameOf, Option.bind_some, hzero]
        rfl
  rw [namedKey, Sighting.key, Fact.key, hnames]
  rfl

/-- **Keys are the same exactly if they show the same.** -/
theorem key_sight_eq_iff (sound : s.Referential) (g : Granularity) {a b : Fact}
    (ha : s.Holds a.ids) (hb : s.Holds b.ids) :
    (s.sight a).key g = (s.sight b).key g ↔ a.key g = b.key g := by
  simp only [Sighting.key, sight, Fact.key, Prod.mk.injEq, RollupKey.mk.injEq,
    names_eq_iff sound ha hb, Holds.getD_inj sound ha hb]

variable {facts : List Fact} {g : Granularity}

/-- The measures of a row can be told by sightings. -/
theorem measures_sight (sound : s.Referential) (holds : ∀ f ∈ facts, s.Holds f.ids)
    {f : Fact} (hf : f ∈ facts) :
    NamedKey.measures g (facts.map s.sight) (s.namedKey (f.key g)) =
      Rollup.measures g facts (f.key g) := by
  have hkey : ∀ b ∈ facts, ((s.sight b).key g == (s.sight f).key g) = (b.key g == f.key g) := by
    intro b hb
    rw [beq_eq_decide, beq_eq_decide,
      decide_eq_decide.mpr (key_sight_eq_iff sound g (holds b hb) (holds f hf))]
  have hgroup : (facts.map s.sight).filter (·.key g == (s.sight f).key g) =
      (Rollup.group g facts (f.key g)).map s.sight := by
    rw [← s.map_sight_filter fun σ => σ.key g == (s.sight f).key g, Rollup.group,
      List.filter_congr hkey]
  have hbounce : ∀ b, (s.sight b).isBounce g (facts.map s.sight) = b.isBounce g facts := by
    intro b
    rw [Sighting.isBounce, List.countP_map]
    rfl
  rw [namedKey_key sound, NamedKey.measures, List.countP_eq_length_filter, hgroup, List.length_map,
    List.map_map, List.countP_map, Rollup.measures]
  simp only [Function.comp_def, hbounce]
  rfl

/-- **With names in place of ids, the rows of some facts are told by what they
show.** -/
theorem namedRows_perm (sound : s.Referential) (holds : ∀ f ∈ facts, s.Holds f.ids) :
    ((Rollup.aggregate g facts).map s.namedRow).Perm
      ((distinct ((facts.map s.sight).map (·.key g))).map fun κ =>
        (κ, κ.measures g (facts.map s.sight))) := by
  -- names take the place of ids without merging keys
  have hkeys : ((Rollup.keys g facts).map s.namedKey).Perm
      (distinct ((facts.map s.sight).map (·.key g))) := by
    refine (List.perm_ext_iff_of_nodup ?_ (nodup_distinct _)).mpr fun κ => ?_
    · refine Rollup.nodup_keys.map_on fun k hk k' hk' heq => ?_
      obtain ⟨f, hf, rfl⟩ := Rollup.mem_keys.mp hk
      obtain ⟨f', hf', rfl⟩ := Rollup.mem_keys.mp hk'
      rw [namedKey_key sound, namedKey_key sound] at heq
      exact (key_sight_eq_iff sound g (holds f hf) (holds f' hf')).mp heq
    · simp [Rollup.mem_keys, namedKey_key sound]
  have hrows : (Rollup.aggregate g facts).map s.namedRow =
      ((Rollup.keys g facts).map s.namedKey).map fun κ =>
        (κ, κ.measures g (facts.map s.sight)) := by
    rw [Rollup.aggregate, List.map_map, List.map_map]
    refine List.map_congr_left fun k hk => ?_
    obtain ⟨f, hf, rfl⟩ := Rollup.mem_keys.mp hk
    rw [Function.comp, Function.comp, namedRow, measures_sight sound holds hf]
  rw [hrows]
  exact hkeys.map _

end Store

/-- The rows of two stores are the same with names in place of ids, each as often. -/
def AlikeRows (s₁ : Store) (rows₁ : List (RollupKey × Measures)) (s₂ : Store)
    (rows₂ : List (RollupKey × Measures)) : Prop :=
  (rows₁.map s₁.namedRow).Perm (rows₂.map s₂.namedRow)

/-- **Alike facts have alike rows.** -/
theorem Alike.aggregate {s₁ s₂ : Store} {facts₁ facts₂ : List Fact}
    (h : Alike s₁ facts₁ s₂ facts₂) (sound₁ : s₁.Referential) (sound₂ : s₂.Referential)
    (holds₁ : ∀ f ∈ facts₁, s₁.Holds f.ids) (holds₂ : ∀ f ∈ facts₂, s₂.Holds f.ids)
    (g : Granularity) :
    AlikeRows s₁ (Rollup.aggregate g facts₁) s₂ (Rollup.aggregate g facts₂) := by
  have hkeys := distinct_perm (List.Perm.map (·.key g) h)
  have hperm₁ := Store.namedRows_perm (g := g) sound₁ holds₁
  have hperm₂ := Store.namedRows_perm (g := g) sound₂ holds₂
  rw [NamedKey.measures_congr h g] at hperm₁
  exact hperm₁.trans ((hkeys.map _).trans hperm₂.symm)

namespace AlikeRows

variable {s₁ s₂ : Store} {rows₁ rows₂ : List (RollupKey × Measures)}

theorem map {α : Type} (h : AlikeRows s₁ rows₁ s₂ rows₂) (φ : NamedKey × Measures → α) :
    (rows₁.map fun r => φ (s₁.namedRow r)).Perm (rows₂.map fun r => φ (s₂.namedRow r)) := by
  have hmap := List.Perm.map φ h
  rwa [List.map_map, List.map_map] at hmap

theorem filter (h : AlikeRows s₁ rows₁ s₂ rows₂) (p : NamedKey → Bool) :
    AlikeRows s₁ (rows₁.filter fun r => p (s₁.namedKey r.1)) s₂
      (rows₂.filter fun r => p (s₂.namedKey r.1)) := by
  have hmap : ∀ (s : Store) (rows : List (RollupKey × Measures)),
      (rows.filter fun r => p (s.namedKey r.1)).map s.namedRow =
        (rows.map s.namedRow).filter fun r => p r.1 := by
    intro s rows
    rw [List.filter_map]
    rfl
  rw [AlikeRows, hmap, hmap]
  exact List.Perm.filter _ h

theorem total_eq (h : AlikeRows s₁ rows₁ s₂ rows₂) (m : Measures → ℤ) :
    total (rows₁.map (m ·.2)) = total (rows₂.map (m ·.2)) :=
  Store.total_eq_of_perm (h.map (·.2)) m

theorem sumRows_eq (h : AlikeRows s₁ rows₁ s₂ rows₂) :
    Store.sumRows rows₁ = Store.sumRows rows₂ :=
  Store.sumRows_eq_of_perm (h.map (·.2))

/-- Alike rows add up to the same, bucket by bucket. -/
theorem historicBucket_eq (h : AlikeRows s₁ rows₁ s₂ rows₂) :
    Store.historicBucket rows₁ = Store.historicBucket rows₂ := by
  funext text
  have hsum := (h.filter fun κ => κ.1.bucketText == text).sumRows_eq
  simp only [Store.namedKey] at hsum
  rw [Store.historicBucket, Store.historicBucket, hsum]

theorem historicBuckets_eq (h : AlikeRows s₁ rows₁ s₂ rows₂) :
    ((distinct (rows₁.map (·.1.bucket.bucketText))).mergeSort (· ≤ ·)).mapM
        (Store.historicBucket rows₁) =
      ((distinct (rows₂.map (·.1.bucket.bucketText))).mergeSort (· ≤ ·)).mapM
        (Store.historicBucket rows₂) := by
  have htexts : (rows₁.map (·.1.bucket.bucketText)).Perm (rows₂.map (·.1.bucket.bucketText)) :=
    h.map fun r => r.1.1.bucketText
  rw [h.historicBucket_eq, mergeSort_strings (distinct_perm htexts)]

end AlikeRows

end Footfall
