import Mathlib
import Footfall.Tally

/-!
# Counting in groups

What grouping does to counts.  A count over a list is the sum of the counts over
its groups; a number of distinct values is the sum over groups only if the group
is part of the value.  That is why pageviews and bounces of a rollup add up and
visitors do not.

## Main Statements

* `sum_countP_fiber`, `sum_length_fiber`, `sum_total_fiber` — counts, sizes and totals
  add up over groups
* `sum_length_distinct_fiber` — distinct values of a group add up to distinct
  pairs of group and value
* `length_distinct_map_congr` — the number of distinct values depends only on
  which members share a value
* `pairwise_mergeSort_distinct` — distinct values in order stand strictly in order
* `Totals.ofFacts_congr` — the totals of facts depend only on how often each
  visitor occurs
-/

namespace Footfall

/-! ## Distinct members -/

section Distinct

variable {α β γ : Type} [DecidableEq α] [DecidableEq β]

theorem distinct_eq_dedup (as : List α) : distinct as = as.dedup := by
  induction as with
  | nil => rfl
  | cons a as ih =>
      unfold distinct
      split
      · next h => rw [List.dedup_cons_of_mem h, ih]
      · next h => rw [List.dedup_cons_of_notMem h, ih]

theorem distinct_perm {as bs : List α} (h : as.Perm bs) : (distinct as).Perm (distinct bs) := by
  rw [distinct_eq_dedup, distinct_eq_dedup]
  exact h.dedup

theorem distinct_eq_nil_iff {as : List α} : distinct as = [] ↔ as = [] := by
  rw [distinct_eq_dedup, List.dedup_eq_nil]

theorem length_distinct_le (as : List α) : (distinct as).length ≤ as.length := by
  rw [distinct_eq_dedup]
  exact (List.dedup_sublist as).length_le

/-- A list of one repeated member has that member. -/
theorem distinct_eq_singleton {as : List α} {a : α} (nonempty : as ≠ [])
    (same : ∀ b ∈ as, b = a) : distinct as = [a] := by
  have ha : a ∈ as := by
    obtain ⟨b, hb⟩ := List.exists_mem_of_ne_nil as nonempty
    rwa [← same b hb]
  refine List.perm_singleton.mp
    ((List.perm_ext_iff_of_nodup (nodup_distinct as) (List.nodup_singleton a)).mpr fun b => ?_)
  rw [mem_distinct, List.mem_singleton]
  exact ⟨same b, fun hb => hb ▸ ha⟩

/-- **How many values occur depends only on which members share a value.** -/
theorem length_distinct_map_congr {as : List γ} {f : γ → α} {g : γ → β}
    (h : ∀ a ∈ as, ∀ b ∈ as, f a = f b ↔ g a = g b) :
    (distinct (as.map f)).length = (distinct (as.map g)).length := by
  induction as with
  | nil => rfl
  | cons a as ih =>
      have hrest := ih fun b hb c hc =>
        h b (List.mem_cons_of_mem a hb) c (List.mem_cons_of_mem a hc)
      have hmem : f a ∈ as.map f ↔ g a ∈ as.map g := by
        simp only [List.mem_map]
        exact exists_congr fun b => and_congr_right fun hb =>
          h b (List.mem_cons_of_mem a hb) a List.mem_cons_self
      -- a member brings a new value under `f` exactly if it does under `g`
      by_cases hf : f a ∈ as.map f
      · simp [distinct, hf, hmem.mp hf, hrest]
      · simp [distinct, hf, mt hmem.mpr hf, hrest]

/-- Forgetting part of a value can only merge values. -/
theorem length_distinct_map_le {as : List γ} {f : γ → α} {g : γ → β}
    (h : ∀ a ∈ as, ∀ b ∈ as, f a = f b → g a = g b) :
    (distinct (as.map g)).length ≤ (distinct (as.map f)).length := by
  induction as with
  | nil => simp [distinct]
  | cons a as ih =>
      have hrest := ih fun b hb c hc =>
        h b (List.mem_cons_of_mem a hb) c (List.mem_cons_of_mem a hc)
      have hmem : f a ∈ as.map f → g a ∈ as.map g := by
        simp only [List.mem_map]
        rintro ⟨b, hb, heq⟩
        exact ⟨b, hb, h b (List.mem_cons_of_mem a hb) a List.mem_cons_self heq⟩
      -- a value that is old under `f` is old under `g`, so only `f` may get ahead
      by_cases hf : f a ∈ as.map f
      · simpa [distinct, hf, hmem hf] using hrest
      · by_cases hg : g a ∈ as.map g
        · simp only [List.map_cons, distinct, hf, hg, if_true, if_false, List.length_cons]
          omega
        · simpa [distinct, hf, hg] using hrest

/-- Forgetting part of a value merges no values exactly if members that agree on
the rest agree on that part too. -/
theorem length_distinct_map_eq_iff {as : List γ} {f : γ → α} {g : γ → β}
    (h : ∀ a ∈ as, ∀ b ∈ as, f a = f b → g a = g b) :
    (distinct (as.map f)).length = (distinct (as.map g)).length ↔
      ∀ a ∈ as, ∀ b ∈ as, g a = g b → f a = f b := by
  constructor
  · intro heq
    induction as with
    | nil => simp
    | cons a as ih =>
        have hrestle := length_distinct_map_le fun b hb c hc =>
          h b (List.mem_cons_of_mem a hb) c (List.mem_cons_of_mem a hc)
        have hmem : f a ∈ as.map f → g a ∈ as.map g := by
          simp only [List.mem_map]
          rintro ⟨b, hb, hfb⟩
          exact ⟨b, hb, h b (List.mem_cons_of_mem a hb) a List.mem_cons_self hfb⟩
        -- a value new under `f` alone would put `f` ahead, and `g` never catches up
        have hback : g a ∈ as.map g → f a ∈ as.map f := by
          intro hg
          by_contra hf
          simp only [List.map_cons, distinct, hf, hg, if_true, if_false,
            List.length_cons] at heq
          omega
        have hrest : (distinct (as.map f)).length = (distinct (as.map g)).length := by
          by_cases hf : f a ∈ as.map f
          · simpa [distinct, hf, hmem hf] using heq
          · simpa [distinct, hf, mt hback hf] using heq
        have hrec := ih (fun b hb c hc =>
          h b (List.mem_cons_of_mem a hb) c (List.mem_cons_of_mem a hc)) hrest
        -- the new member shares its values with some older one, or with none at all
        have hnew : ∀ b ∈ as, g a = g b → f a = f b := by
          intro b hb hgb
          obtain ⟨c, hc, hfc⟩ := List.mem_map.mp
            (hback (List.mem_map.mpr ⟨b, hb, hgb.symm⟩))
          have hgc : g c = g b := by
            rw [h c (List.mem_cons_of_mem a hc) a List.mem_cons_self hfc, hgb]
          rw [← hfc, hrec c hc b hb hgc]
        intro b hb c hc hbc
        rcases List.mem_cons.mp hb with hba | hb
        · rcases List.mem_cons.mp hc with hca | hc
          · rw [hba, hca]
          · rw [hba] at hbc ⊢
            exact hnew c hc hbc
        · rcases List.mem_cons.mp hc with hca | hc
          · rw [hca] at hbc ⊢
            exact (hnew b hb hbc.symm).symm
          · exact hrec b hb c hc hbc
  · intro hback
    exact length_distinct_map_congr fun a ha b hb => ⟨h a ha b hb, hback a ha b hb⟩

/-- Sorted without repetitions, each member comes strictly before the next. -/
theorem pairwise_mergeSort_distinct {le : α → α → Bool}
    {lt : α → α → Prop} (trans : ∀ a b c, le a b → le b c → le a c)
    (total : ∀ a b, le a b || le b a) (strict : ∀ a b, le a b → a ≠ b → lt a b)
    (as : List α) : ((distinct as).mergeSort le).Pairwise lt := by
  have hsorted := List.pairwise_mergeSort trans total (distinct as)
  have hnodup : ((distinct as).mergeSort le).Nodup :=
    (List.mergeSort_perm (distinct as) le).nodup_iff.mpr (nodup_distinct as)
  exact (hsorted.and hnodup).imp fun h => strict _ _ h.1 h.2

end Distinct

/-- Distinct moments in order, each strictly before the next. -/
theorem pairwise_distinct_timestamps (ts : List Timestamp) :
    ((distinct ts).mergeSort (· ≤ ·)).Pairwise (· < ·) := by
  refine pairwise_mergeSort_distinct ?_ ?_ ?_ ts
  · intro a b c hab hbc
    simp only [decide_eq_true_eq, Timestamp.le_iff] at hab hbc ⊢
    exact hab.trans hbc
  · intro a b
    simp only [Bool.or_eq_true, decide_eq_true_eq, Timestamp.le_iff]
    exact le_total _ _
  · intro a b hab hne
    simp only [decide_eq_true_eq, Timestamp.le_iff] at hab
    refine lt_of_le_of_ne hab fun heq => hne ?_
    cases a
    cases b
    exact congrArg Timestamp.mk heq

/-! ## Sums over groups -/

section Groups

variable {α β : Type} [DecidableEq β]

theorem sum_map_indicator {ks : List β} (nodup : ks.Nodup) (x : β) :
    (ks.map fun k => if x = k then 1 else 0).sum = if x ∈ ks then 1 else 0 := by
  induction ks with
  | nil => simp
  | cons k ks ih =>
      obtain ⟨hk, nodup⟩ := List.nodup_cons.mp nodup
      rw [List.map_cons, List.sum_cons, ih nodup]
      by_cases hx : x = k
      · simp [hx, hk]
      · simp [hx]

/-- **Counts add up over groups.**  Only the members that are counted need a
group among `ks`. -/
theorem sum_countP_fiber {ks : List β} (nodup : ks.Nodup) (key : α → β) (p : α → Bool)
    {as : List α} (cover : ∀ a ∈ as, p a = true → key a ∈ ks) :
    (ks.map fun k => as.countP fun a => decide (key a = k) && p a).sum = as.countP p := by
  induction as with
  | nil => simp
  | cons a as ih =>
      have hrest := ih fun b hb => cover b (List.mem_cons_of_mem a hb)
      simp only [List.countP_cons, List.sum_map_add, hrest, Nat.add_left_cancel_iff]
      cases hp : p a with
      | false => simp
      | true =>
          have hmem := cover a List.mem_cons_self hp
          have hone := sum_map_indicator nodup (key a)
          simpa [hmem] using hone

/-- **The sizes of groups add up**, if every member has one. -/
theorem sum_length_fiber {ks : List β} (nodup : ks.Nodup) (key : α → β) {as : List α}
    (cover : ∀ a ∈ as, key a ∈ ks) :
    (ks.map fun k => (as.filter (key · = k)).length).sum = as.length := by
  have hsum := sum_countP_fiber nodup key (fun _ => true) fun a ha _ => cover a ha
  rw [List.countP_true] at hsum
  simpa only [Bool.and_true, List.countP_eq_length_filter] using hsum

/-- **Distinct values do not add up, pairs of group and value do.** -/
theorem sum_length_distinct_fiber [DecidableEq α] {ks : List β} (nodup : ks.Nodup)
    {pairs : List (β × α)} (cover : ∀ x ∈ pairs, x.1 ∈ ks) :
    (ks.map fun k => (distinct ((pairs.filter (·.1 = k)).map (·.2))).length).sum =
      (distinct pairs).length := by
  have hgroup : ∀ k, (distinct ((pairs.filter (·.1 = k)).map (·.2))).length =
      (distinct pairs).countP fun x => decide (x.1 = k) && true := by
    intro k
    -- within one group, a pair is told by its second half
    have hnodup : (((distinct pairs).filter (·.1 = k)).map (·.2)).Nodup := by
      refine ((nodup_distinct pairs).filter _).map_on ?_
      rintro ⟨k₁, a₁⟩ h₁ ⟨k₂, a₂⟩ h₂ heq
      simp only [List.mem_filter, decide_eq_true_eq] at h₁ h₂
      simp_all
    have hperm : (distinct ((pairs.filter (·.1 = k)).map (·.2))).Perm
        (((distinct pairs).filter (·.1 = k)).map (·.2)) := by
      refine (List.perm_ext_iff_of_nodup (nodup_distinct _) hnodup).mpr fun a => ?_
      simp
    rw [hperm.length_eq, List.length_map, ← List.countP_eq_length_filter]
    simp
  rw [List.map_congr_left fun k _ => hgroup k,
    sum_countP_fiber nodup _ _ fun x hx _ => cover x (mem_distinct.mp hx)]
  simp

end Groups

/-! ## Totals of facts -/

theorem viewsOf_eq_count (facts : List Fact) (visitor : ℕ) :
    viewsOf facts visitor = (facts.map (·.visitor)).count visitor := by
  rw [viewsOf, List.count, List.countP_map]
  rfl

/-- The totals of facts depend only on how often each visitor occurs. -/
theorem Totals.ofFacts_congr {facts others : List Fact}
    (h : (facts.map (·.visitor)).Perm (others.map (·.visitor))) :
    Totals.ofFacts facts = Totals.ofFacts others := by
  have hlength : facts.length = others.length := by simpa using h.length_eq
  have hvisitors : (visitorsOf facts).Perm (visitorsOf others) := distinct_perm h
  have hviews : ∀ v, viewsOf facts v = viewsOf others v := by
    intro v
    rw [viewsOf_eq_count, viewsOf_eq_count, h.count_eq]
  simp only [Totals.ofFacts, hlength, hvisitors.length_eq, hviews, hvisitors.countP_eq]

theorem readTotal_natCast (n : ℕ) :
    readTotal n = if n < 2 ^ 63 then .ok n else .error (.outOfRange n) := by
  rw [readTotal]
  exact if_congr (by omega) (by rw [Int.toNat_natCast]) rfl

theorem readTotal_eq_ok_iff {z : ℤ} {n : ℕ} : readTotal z = .ok n ↔ z = n ∧ n < 2 ^ 63 := by
  unfold readTotal
  split
  · next h =>
    rw [Except.ok.injEq]
    omega
  · next h =>
    simp only [reduceCtorEq, false_iff]
    omega

/-- Facts can be counted exactly if they are not too many. -/
theorem countFacts_eq_ok_iff {facts : List Fact} {t : Totals} :
    countFacts facts = .ok t ↔ t = Totals.ofFacts facts ∧ facts.length < 2 ^ 63 := by
  rw [countFacts]
  split
  · next h => exact ⟨fun ht => ⟨(Except.ok.inj ht).symm, h⟩, fun ht => congrArg Except.ok ht.1.symm⟩
  · next h => exact ⟨fun ht => (by cases ht), fun ht => absurd ht.2 h⟩

/-- Counting facts depends only on how often each visitor occurs. -/
theorem countFacts_congr {facts others : List Fact}
    (h : (facts.map (·.visitor)).Perm (others.map (·.visitor))) :
    countFacts facts = countFacts others := by
  have hlength : facts.length = others.length := by simpa using h.length_eq
  rw [countFacts, countFacts, Totals.ofFacts_congr h, hlength]

theorem total_eq_sum (ns : List ℤ) : total ns = ns.sum := rfl

/-- **Totals add up over groups.** -/
theorem sum_total_fiber {α β : Type} [DecidableEq β] {ks : List β} (nodup : ks.Nodup)
    (key : α → β) (m : α → ℤ) {as : List α} (cover : ∀ a ∈ as, key a ∈ ks) :
    (ks.map fun k => total ((as.filter (key · == k)).map m)).sum = total (as.map m) := by
  induction as with
  | nil => simp [total_eq_sum]
  | cons a as ih =>
      have hrest := ih fun b hb => cover b (List.mem_cons_of_mem a hb)
      have hone : (ks.map fun k => if k = key a then m a else 0).sum = m a := by
        have hcount := List.count_eq_one_of_mem nodup (cover a List.mem_cons_self)
        simp [List.sum_map_ite_eq, hcount]
      have hsplit : ∀ k, total (((a :: as).filter (key · == k)).map m) =
          (if k = key a then m a else 0) + total ((as.filter (key · == k)).map m) := by
        intro k
        by_cases hk : key a = k
        · simp [total_eq_sum, hk]
        · simp [total_eq_sum, hk, Ne.symm hk]
      rw [List.map_congr_left fun k _ => hsplit k, List.sum_map_add, hone, hrest]
      rfl

/-- Counts are added up as whole numbers. -/
theorem total_map_natCast {α : Type} (as : List α) (f : α → ℕ) :
    total (as.map fun a => (f a : ℤ)) = ((as.map f).sum : ℕ) := by
  induction as with
  | nil => rfl
  | cons a as ih =>
      rw [total_eq_sum] at ih ⊢
      simp only [List.map_cons, List.sum_cons, ih, Nat.cast_add]

end Footfall
