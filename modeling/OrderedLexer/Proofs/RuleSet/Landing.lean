import OrderedLexer.Proofs.RuleSet.History

namespace OrderedLexer.RuleSet

/-!
# Where an inserted rule lands in the walk

The walk over all rules goes through the orders below a key, the order of this key, and the orders
above it. An insertion under the key changes the middle only.

* `Orders.Ascending.exists_cut` — the orders are cut at a key, before and after a change there;
* `exists_rules_cut` — so is the walk, before and after an insertion under the key;
* `Beats` — a rule stands before the place where another lands;
* `exists_landing` — in a sorted order, an inserted rule lands behind the rules that beat it, and
  before all others.
-/

variable {set : RuleSet} {key : OrderKey} {r : Rule}

/-! ### Cuts at a key -/

/-- **Cut.** An ascending list is cut at a key, and a change under the key takes place at the
    cut. -/
theorem Orders.Ascending.exists_cut {orders : Orders} (h : orders.Ascending) (key : OrderKey) :
    ∃ lower higher : Orders, (∀ o ∈ lower, o.1 < key) ∧ (∀ o ∈ higher, key < o.1) ∧
      orders = lower ++ (orders.lookup key).toList.map (key, ·) ++ higher ∧
      ∀ f, orders.atKey key f = lower ++ (key, f ((orders.lookup key).getD [])) :: higher := by
  induction orders with
  | nil => exact ⟨[], [], by simp, by simp, rfl, fun f => rfl⟩
  | cons o rest ih =>
    obtain ⟨k, rules⟩ := o
    obtain ⟨hk, hrest⟩ := List.pairwise_cons.1 h
    by_cases hlt : key < k
    · -- All orders are above the key, and so none is found.
      have habove : ∀ o ∈ (k, rules) :: rest, key < o.1 :=
        List.forall_mem_cons.2 ⟨hlt, fun o ho => Int.lt_trans hlt (hk o ho)⟩
      have hnone : List.lookup key ((k, rules) :: rest) = none := by
        rw [List.lookup_eq_none_iff]
        intro o ho
        rw [bne_iff_ne]
        rintro rfl
        exact Int.lt_irrefl _ (habove o ho)
      refine ⟨[], (k, rules) :: rest, by simp, habove, ?_, fun f => ?_⟩
      · rw [hnone]
        rfl
      · rw [hnone, Orders.atKey, if_pos hlt]
        rfl
    · by_cases heq : key = k
      · subst heq
        refine ⟨[], rest, by simp, hk, ?_, fun f => ?_⟩
        · rw [List.lookup_cons_self]
          rfl
        · rw [List.lookup_cons_self, Orders.atKey, if_neg hlt, if_pos rfl]
          rfl
      · obtain ⟨lower, higher, hlower, hhigher, hsplit, hchange⟩ := ih hrest
        have hbelow : k < key := by
          have hne : key.val ≠ k.val := fun h => heq (OrderKey.ext h)
          rw [OrderKey.lt_def] at hlt ⊢
          omega
        have hlookup : List.lookup key ((k, rules) :: rest) = rest.lookup key := by
          have hbeq : (key == k) = false := by simpa using heq
          rw [List.lookup_cons, hbeq]
        refine ⟨(k, rules) :: lower, higher, List.forall_mem_cons.2 ⟨hbelow, hlower⟩, hhigher,
          ?_, fun f => ?_⟩
        · rw [hlookup, List.cons_append, List.cons_append, ← hsplit]
        · rw [hlookup, Orders.atKey, if_neg hlt, if_neg heq, hchange, List.cons_append]

/-- **Walk.** The walk is cut at a key, and an insertion under the key takes place at the cut. -/
theorem exists_rules_cut (set : RuleSet) (key : OrderKey) :
    ∃ below above,
      (∀ s, s ∈ below ↔ ∃ lower rules, lower < key ∧ set.order? lower = some rules ∧ s ∈ rules) ∧
      (∀ s, s ∈ above ↔
        ∃ higher rules, key < higher ∧ set.order? higher = some rules ∧ s ∈ rules) ∧
      set.rules = below ++ (set.order? key).getD [] ++ above ∧
      ∀ r, (set.insertAt key r).rules =
        below ++ insertByPriority r ((set.order? key).getD []) ++ above := by
  obtain ⟨lower, higher, hlower, hhigher, hsplit, hchange⟩ := set.ascending.exists_cut key
  -- An order of the list is on one side of the key exactly if its key is.
  have hmem : ∀ o, o ∈ set.orders ↔
      o ∈ lower ∨ set.order? key = some o.2 ∧ o.1 = key ∨ o ∈ higher := by
    rintro ⟨k, rules⟩
    conv => lhs; rw [hsplit]
    show _ ↔ _ ∨ set.orders.lookup key = some rules ∧ k = key ∨ _
    rw [List.mem_append, List.mem_append, or_assoc]
    simp [eq_comm]
  have hbelow : ∀ o, o ∈ lower ↔ o.1 < key ∧ set.order? o.1 = some o.2 := by
    intro o
    rw [order?_eq_some_iff, hmem]
    constructor
    · intro ho
      exact ⟨hlower o ho, .inl ho⟩
    · rintro ⟨hlt, ho | ⟨-, rfl⟩ | ho⟩
      · exact ho
      · exact absurd hlt (Int.lt_irrefl _)
      · exact absurd (Int.lt_trans hlt (hhigher o ho)) (Int.lt_irrefl _)
  have habove : ∀ o, o ∈ higher ↔ key < o.1 ∧ set.order? o.1 = some o.2 := by
    intro o
    rw [order?_eq_some_iff, hmem]
    constructor
    · intro ho
      exact ⟨hhigher o ho, .inr (.inr ho)⟩
    · rintro ⟨hlt, ho | ⟨-, rfl⟩ | ho⟩
      · exact absurd (Int.lt_trans hlt (hlower o ho)) (Int.lt_irrefl _)
      · exact absurd hlt (Int.lt_irrefl _)
      · exact ho
  refine ⟨lower.flatMap (·.2), higher.flatMap (·.2), fun s => ?_, fun s => ?_, ?_, fun r => ?_⟩
  · simp only [List.mem_flatMap, hbelow, Prod.exists, and_assoc]
  · simp only [List.mem_flatMap, habove, Prod.exists, and_assoc]
  · conv => lhs; rw [rules, hsplit]
    rw [List.flatMap_append, List.flatMap_append]
    show _ ++ List.flatMap _ (List.map _ (set.order? key).toList) ++ _ = _
    cases set.order? key <;> simp
  · show (set.orders.atKey key (insertByPriority r)).flatMap (·.2) = _
    rw [hchange, List.flatMap_append, List.flatMap_cons, List.append_assoc]
    rfl

/-! ### Landing -/

/-- A rule of the rule set stands before the place where `r` lands in the order `key`: it stands in
    a lower order, or in the same order and has at least the priority of `r`. -/
def Beats (set : RuleSet) (s : Rule) (key : OrderKey) (r : Rule) : Prop :=
  (∃ lower rules, lower < key ∧ set.order? lower = some rules ∧ s ∈ rules) ∨
    ∃ rules, set.order? key = some rules ∧ s ∈ rules ∧ r.priority ≤ s.priority

/-- Sorted rules of at least the priority of `r` come before all others. -/
theorem filter_append_of_sorted {rules : List Rule} (h : Sorted rules) (r : Rule) :
    rules.filter (r.priority ≤ ·.priority) ++ rules.filter (¬ r.priority ≤ ·.priority) = rules := by
  induction rules with
  | nil => rfl
  | cons s rest ih =>
    obtain ⟨hs, hrest⟩ := List.pairwise_cons.1 h
    by_cases hle : r.priority ≤ s.priority
    · simpa [hle] using ih hrest
    · -- No rule from here on has the priority of `r`.
      have hlow : ∀ t ∈ s :: rest, ¬ r.priority ≤ t.priority :=
        List.forall_mem_cons.2 ⟨hle, fun t ht hlet => hle (Nat.le_trans hlet (hs t ht))⟩
      rw [List.filter_eq_nil_iff.2 (by simpa using hlow),
        List.filter_eq_self.2 (by simpa using hlow), List.nil_append]

/-- **Landing.** In a sorted order, an inserted rule lands behind the rules that beat it. -/
theorem exists_landing (h : ∀ rules, set.order? key = some rules → Sorted rules) (r : Rule) :
    ∃ ahead behind, set.rules = ahead ++ behind ∧
      (set.insertAt key r).rules = ahead ++ r :: behind ∧ ∀ s, s ∈ ahead ↔ set.Beats s key r := by
  obtain ⟨below, above, hbelow, -, hrules, hinsert⟩ := exists_rules_cut set key
  have hsorted : Sorted ((set.order? key).getD []) := by
    cases hfound : set.order? key with
    | none => exact List.Pairwise.nil
    | some rules => exact h rules hfound
  have hown : ∀ s, s ∈ (set.order? key).getD [] ↔
      ∃ rules, set.order? key = some rules ∧ s ∈ rules := by
    intro s
    cases set.order? key <;> simp
  refine ⟨below ++ ((set.order? key).getD []).filter (r.priority ≤ ·.priority),
    ((set.order? key).getD []).filter (¬ r.priority ≤ ·.priority) ++ above, ?_, ?_, fun s => ?_⟩
  · rw [List.append_assoc, ← List.append_assoc (List.filter _ _), filter_append_of_sorted hsorted,
      hrules, List.append_assoc]
  · rw [hinsert, insertByPriority_eq_filter hsorted]
    simp
  · rw [List.mem_append, hbelow, List.mem_filter, hown, decide_eq_true_iff, Beats]
    refine or_congr Iff.rfl ⟨?_, ?_⟩
    · rintro ⟨⟨rules, hrules, hs⟩, hle⟩
      exact ⟨rules, hrules, hs, hle⟩
    · rintro ⟨rules, hrules, hs, hle⟩
      exact ⟨⟨rules, hrules, hs⟩, hle⟩

end OrderedLexer.RuleSet
