import OrderedLexer.Proofs.RuleSet.Orders
import Mathlib.Data.List.Induction

namespace OrderedLexer.RuleSet

/-!
# Insertion by priority

An order is kept sorted by descending priority, and among rules of one priority the later stands
behind the earlier.

* `insertByPriority_eq_filter` — in a sorted order, looking at the last rule alone and searching for
  the place both put a rule behind those of at least its priority and before all others;
* `insertByPriority_tiers` — inserting into the tiers of some rules gives the tiers of these rules
  with the new one behind them, so insertion is stable;
* `tiers_of_sorted` — sorted rules are the tiers of themselves;
* `tiers_eq_mergeSort` — the tiers of any rules are these rules, stably sorted.
-/

variable {r : Rule} {rules : List Rule}

/-- The priorities never rise from a rule to one behind it. -/
def Sorted (rules : List Rule) : Prop := rules.Pairwise fun a b => b.priority ≤ a.priority

/-- The rules of one priority, as they stand. -/
def tier (p : Priority) (rules : List Rule) : List Rule := rules.filter (·.priority = p)

/-- The rules priority by priority, the highest first. -/
def tiers (rules : List Rule) : List Rule :=
  tier .immediate rules ++ tier .natural rules ++ tier .last rules

theorem mem_tier {p : Priority} {s : Rule} : s ∈ tier p rules ↔ s ∈ rules ∧ s.priority = p := by
  simp [tier]

/-- If no rule has a lower priority than `r`, all stand on one side of it. -/
theorem filter_of_le (h : ∀ t ∈ rules, r.priority ≤ t.priority) :
    rules.filter (r.priority ≤ ·.priority) = rules ∧
      rules.filter (¬ r.priority ≤ ·.priority) = [] := by
  constructor
  · rw [List.filter_eq_self]
    intro t ht
    simpa using h t ht
  · rw [List.filter_eq_nil_iff]
    intro t ht
    simpa using h t ht

/-- Searching for the place of a rule in a sorted order. -/
theorem insertIdx_findIdx_of_sorted (h : Sorted rules) (r : Rule) :
    rules.insertIdx (rules.findIdx (·.priority < r.priority)) r =
      rules.filter (r.priority ≤ ·.priority) ++ r :: rules.filter (¬ r.priority ≤ ·.priority) := by
  induction rules with
  | nil => rfl
  | cons s rest ih =>
    have ⟨hs, hrest⟩ := List.pairwise_cons.1 h
    by_cases hlt : s.priority < r.priority
    · -- The place is found: no rule from here on has the priority of `r`.
      have hlow : ∀ t ∈ s :: rest, ¬ r.priority ≤ t.priority := by
        intro t ht
        rw [Priority.lt_def] at hlt
        rw [Priority.le_def]
        rcases List.mem_cons.1 ht with rfl | ht
        · omega
        · have := Priority.le_def.1 (hs t ht)
          omega
      have hfront : (s :: rest).filter (fun t => decide (r.priority ≤ t.priority)) = [] := by
        rw [List.filter_eq_nil_iff]
        intro t ht
        simpa using hlow t ht
      have hback :
          (s :: rest).filter (fun t => decide (¬ r.priority ≤ t.priority)) = s :: rest := by
        rw [List.filter_eq_self]
        intro t ht
        simpa using hlow t ht
      rw [hfront, hback, List.findIdx_cons]
      simp [hlt]
    · have hle : r.priority ≤ s.priority := by
        rw [Priority.lt_def] at hlt
        rw [Priority.le_def]
        omega
      rw [List.findIdx_cons]
      simp only [hlt, decide_false, cond_false, List.insertIdx_succ_cons, ih hrest]
      simp [hle]

/-- **Insertion.** In a sorted order both ways to insert put a rule behind those of at least its
    priority and before all others, and move none of these. -/
theorem insertByPriority_eq_filter (h : Sorted rules) (r : Rule) :
    insertByPriority r rules =
      rules.filter (r.priority ≤ ·.priority) ++ r :: rules.filter (¬ r.priority ≤ ·.priority) := by
  unfold insertByPriority
  cases hlast : rules.getLast? with
  | none =>
    rw [List.getLast?_eq_none_iff] at hlast
    subst hlast
    rfl
  | some last =>
    by_cases hle : r.priority ≤ last.priority
    · -- The last rule has the lowest priority, so all have at least that of `r`.
      obtain ⟨front, rfl⟩ := List.getLast?_eq_some_iff.1 hlast
      have hhigh : ∀ t ∈ front ++ [last], r.priority ≤ t.priority := by
        intro t ht
        rcases List.mem_append.1 ht with ht | ht
        · exact Nat.le_trans hle ((List.pairwise_append.1 h).2.2 t ht last List.mem_cons_self)
        · rwa [List.mem_singleton.1 ht]
      obtain ⟨hfront, hback⟩ := filter_of_le hhigh
      simp only [hle, if_true, hfront, hback]
    · simp only [hle, if_false]
      exact insertIdx_findIdx_of_sorted h r

/-- Insertion adds a rule and loses none, in any order. -/
theorem insertByPriority_perm (r : Rule) (rules : List Rule) :
    (insertByPriority r rules).Perm (r :: rules) := by
  unfold insertByPriority
  cases hlast : rules.getLast? with
  | none =>
    rw [List.getLast?_eq_none_iff] at hlast
    subst hlast
    exact List.Perm.refl _
  | some last =>
    by_cases hle : r.priority ≤ last.priority
    · simp only [hle, if_true]
      exact List.perm_append_comm
    · simp only [hle, if_false]
      exact List.perm_insertIdx r rules List.findIdx_le_length

/-! ### Tiers -/

/-- Each rule stands in the tier of its priority. -/
theorem tiers_eq_nil_iff : tiers rules = [] ↔ rules = [] := by
  constructor
  · intro h
    obtain ⟨⟨himmediate, hnatural⟩, hlast⟩ := (List.append_eq_nil_iff.1 h).imp_left
      List.append_eq_nil_iff.1
    refine List.eq_nil_iff_forall_not_mem.2 fun r hr => ?_
    have hmem : r ∈ tier r.priority rules := mem_tier.2 ⟨hr, rfl⟩
    cases hp : r.priority with
    | immediate => simp_all
    | natural => simp_all
    | last => simp_all
  · rintro rfl
    rfl

/-- Tiers are sorted. -/
theorem sorted_tiers (rules : List Rule) : Sorted (tiers rules) := by
  have hsame : ∀ p, Sorted (tier p rules) := by
    intro p
    refine List.pairwise_of_forall_mem_list fun a ha b hb => ?_
    rw [(mem_tier.1 ha).2, (mem_tier.1 hb).2]
    exact Nat.le_refl _
  refine List.pairwise_append.2 ⟨List.pairwise_append.2 ⟨hsame _, hsame _, ?_⟩, hsame _, ?_⟩
  · intro a ha b hb
    rw [(mem_tier.1 ha).2, (mem_tier.1 hb).2]
    decide
  · intro a ha b hb
    rw [(mem_tier.1 hb).2]
    cases a.priority <;> decide

/-- **Stability.** A rule inserted into the tiers of some rules stands where it would if it had come
    after all of them. -/
theorem insertByPriority_tiers (r : Rule) (rules : List Rule) :
    insertByPriority r (tiers rules) = tiers (rules ++ [r]) := by
  rw [insertByPriority_eq_filter (sorted_tiers rules)]
  have hkeep : ∀ (f : Rule → Bool) (p : Priority), (∀ s, s.priority = p → f s = true) →
      (tier p rules).filter f = tier p rules := by
    intro f p hf
    rw [List.filter_eq_self]
    exact fun s hs => hf s (mem_tier.1 hs).2
  have hdrop : ∀ (f : Rule → Bool) (p : Priority), (∀ s, s.priority = p → f s = false) →
      (tier p rules).filter f = [] := by
    intro f p hf
    rw [List.filter_eq_nil_iff]
    exact fun s hs => by simp [hf s (mem_tier.1 hs).2]
  simp only [tiers, List.filter_append]
  -- Each tier lies on one side of `r`, whatever its priority is.
  cases hp : r.priority with
  | immediate =>
    rw [hkeep _ .immediate, hdrop _ .natural, hdrop _ .last, hdrop _ .immediate, hkeep _ .natural,
      hkeep _ .last]
    · simp [tier, hp]
    all_goals simp +contextual [Priority.le_def, Priority.level]
  | natural =>
    rw [hkeep _ .immediate, hkeep _ .natural, hdrop _ .last, hdrop _ .immediate, hdrop _ .natural,
      hkeep _ .last]
    · simp [tier, hp]
    all_goals simp +contextual [Priority.le_def, Priority.level]
  | last =>
    rw [hkeep _ .immediate, hkeep _ .natural, hkeep _ .last, hdrop _ .immediate, hdrop _ .natural,
      hdrop _ .last]
    · simp [tier, hp]
    all_goals simp +contextual [Priority.le_def, Priority.level]

/-- Sorted rules are the tiers of themselves. -/
theorem tiers_of_sorted (h : Sorted rules) : tiers rules = rules := by
  -- The last rule is inserted last, behind all others.
  induction rules using List.reverseRecOn with
  | nil => rfl
  | append_singleton front s ih =>
    obtain ⟨hfront, _, hs⟩ := List.pairwise_append.1 h
    have hall : ∀ t ∈ front, s.priority ≤ t.priority := fun t ht => hs t ht s List.mem_cons_self
    obtain ⟨hkeep, hdrop⟩ := filter_of_le hall
    rw [← insertByPriority_tiers, ih hfront, insertByPriority_eq_filter hfront, hkeep, hdrop]

/-! ### Sorting -/

/-- The order in which an order holds its rules: a rule may stand before one of at most its
    priority. -/
def mayPrecede (a b : Rule) : Bool := b.priority ≤ a.priority

/-- **Stable sort.** The tiers of some rules are these rules, sorted by descending priority without
    moving rules of one priority past each other. -/
theorem tiers_eq_mergeSort (rules : List Rule) : tiers rules = rules.mergeSort mayPrecede := by
  have htrans : ∀ a b c : Rule, mayPrecede a b → mayPrecede b c → mayPrecede a c := by
    intro a b c hab hbc
    simp only [mayPrecede, decide_eq_true_eq, Priority.le_def] at *
    omega
  have htotal : ∀ a b : Rule, (mayPrecede a b || mayPrecede b a) = true := by
    intro a b
    simp only [mayPrecede, Bool.or_eq_true, decide_eq_true_eq, Priority.le_def]
    omega
  have hsorted : Sorted (rules.mergeSort mayPrecede) :=
    (List.pairwise_mergeSort htrans htotal rules).imp of_decide_eq_true
  -- Rules of one priority are sorted as they stand, so they stay in sequence.
  have htier : ∀ p, tier p (rules.mergeSort mayPrecede) = tier p rules := by
    intro p
    have hsame : (tier p rules).Pairwise (mayPrecede · ·) := by
      refine List.pairwise_of_forall_mem_list fun a ha b hb => ?_
      simp [mayPrecede, (mem_tier.1 ha).2, (mem_tier.1 hb).2, Priority.le_def]
    have hsub : (tier p rules).Sublist (rules.mergeSort mayPrecede) :=
      List.sublist_mergeSort htrans htotal hsame List.filter_sublist
    have hfilter : (tier p rules).Sublist (tier p (rules.mergeSort mayPrecede)) := by
      simpa [tier, List.filter_filter] using hsub.filter (·.priority = p)
    have hlength := ((List.mergeSort_perm rules mayPrecede).filter (·.priority = p)).length_eq
    exact (hfilter.eq_of_length hlength.symm).symm
  rw [← tiers_of_sorted hsorted, tiers, tiers, htier, htier, htier]

end OrderedLexer.RuleSet
