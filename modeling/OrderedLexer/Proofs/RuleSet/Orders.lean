import OrderedLexer.RuleSet.Basic

namespace OrderedLexer.RuleSet

/-!
# The orders of a rule set as a finite map

`RuleSet.order?` looks an order up; the list behind it ascends strictly in its keys, so list and map
determine each other:

* `order?_eq_some_iff` — an order is found exactly when it stands in the list;
* `lookup_atKey_self`, `lookup_atKey_of_ne` — `Orders.atKey` changes the order under its key and no
  other;
* `rules_eq_flatMap_keys` — the walk over all rules goes through the keys one after the other;
* `eq_of_order?` — two rule sets are equal if the same orders are found in them.
-/

namespace Orders

variable {orders : Orders} {key : OrderKey} {rules : List Rule}

/-- A key stands in at most one place of an ascending list. -/
theorem Ascending.eq_of_mem (h : orders.Ascending) {o o' : OrderKey × List Rule}
    (ho : o ∈ orders) (ho' : o' ∈ orders) (hkey : o.1 = o'.1) : o = o' := by
  induction orders with
  | nil => cases ho
  | cons p rest ih =>
    have ⟨hp, hrest⟩ := List.pairwise_cons.1 h
    have hne : ∀ q ∈ rest, p.1 ≠ q.1 := by
      intro q hq heq
      have : p.1.val < q.1.val := hp q hq
      rw [heq] at this
      omega
    rcases List.mem_cons.1 ho with hop | hot <;> rcases List.mem_cons.1 ho' with hop' | hot'
    · rw [hop, hop']
    · exact absurd (hop ▸ hkey) (hne o' hot')
    · exact absurd (hop' ▸ hkey.symm) (hne o hot)
    · exact ih hrest hot hot'

/-- In an ascending list, the rules found under a key are those that stand under it. -/
theorem Ascending.lookup_eq_some_iff (h : orders.Ascending) :
    orders.lookup key = some rules ↔ (key, rules) ∈ orders := by
  constructor
  · intro hl
    obtain ⟨front, back, rfl, _⟩ := List.lookup_eq_some_iff.1 hl
    simp
  · intro hmem
    cases hl : orders.lookup key with
    | none =>
      rw [List.lookup_eq_none_iff] at hl
      exact absurd (hl _ hmem) (by simp)
    | some found =>
      -- Whatever is found stands under the same key, so it is the same.
      obtain ⟨front, back, heq, _⟩ := List.lookup_eq_some_iff.1 hl
      have hfound : (key, found) ∈ orders := by rw [heq]; simp
      have := h.eq_of_mem hfound hmem rfl
      simp_all

/-- The changed order is found under its key. -/
theorem lookup_atKey_self (orders : Orders) (key : OrderKey) (f : List Rule → List Rule)
    (h : orders.Ascending) :
    (orders.atKey key f).lookup key = some (f ((orders.lookup key).getD [])) := by
  induction orders with
  | nil => simp [atKey]
  | cons p rest ih =>
    obtain ⟨k, rules⟩ := p
    obtain ⟨hk, hrest⟩ := List.pairwise_cons.1 h
    rw [atKey]
    by_cases hlt : key < k
    · -- The key lies below all others, so it is not found in the list as it was.
      have hnone : List.lookup key ((k, rules) :: rest) = none := by
        rw [List.lookup_eq_none_iff]
        intro q hq
        rw [bne_iff_ne]
        rintro rfl
        rcases List.mem_cons.1 hq with rfl | hq
        · exact absurd hlt (Int.lt_irrefl _)
        · exact absurd (Int.lt_trans hlt (hk q hq)) (Int.lt_irrefl _)
      rw [if_pos hlt, List.lookup_cons_self, hnone]
      rfl
    · rw [if_neg hlt]
      by_cases heq : key = k
      · subst heq
        simp
      · have hbeq : (key == k) = false := by simpa using heq
        rw [if_neg heq]
        simp only [List.lookup_cons, hbeq]
        exact ih hrest

/-- Under other keys nothing changes. -/
theorem lookup_atKey_of_ne (orders : Orders) (f : List Rule → List Rule) {key other : OrderKey}
    (hne : other ≠ key) : (orders.atKey key f).lookup other = orders.lookup other := by
  have hbeq : (other == key) = false := by simpa using hne
  induction orders with
  | nil => simp [atKey, List.lookup_cons, hbeq]
  | cons p rest ih =>
    obtain ⟨k, rules⟩ := p
    rw [atKey]
    by_cases hlt : key < k
    · rw [if_pos hlt, List.lookup_cons, hbeq]
    · rw [if_neg hlt]
      by_cases heq : key = k
      · subst heq
        simp [List.lookup_cons, hbeq]
      · rw [if_neg heq]
        simp only [List.lookup_cons, ih]

end Orders

variable {set : RuleSet} {key : OrderKey} {rules : List Rule}

/-- An order is found exactly when it stands in the list. -/
theorem order?_eq_some_iff : set.order? key = some rules ↔ (key, rules) ∈ set.orders :=
  set.ascending.lookup_eq_some_iff

/-- A rule is tried exactly when it stands in some order. -/
theorem mem_rules_iff {r : Rule} :
    r ∈ set.rules ↔ ∃ key rules, set.order? key = some rules ∧ r ∈ rules := by
  simp only [RuleSet.rules, List.mem_flatMap, Prod.exists, order?_eq_some_iff]

/-- The keys of the orders, as they are tried. -/
def keys (set : RuleSet) : List OrderKey := set.orders.map (·.1)

/-- The keys ascend strictly. -/
theorem keys_ascending (set : RuleSet) : set.keys.Pairwise (· < ·) :=
  List.pairwise_map.2 set.ascending

/-- A key is among the keys exactly when its order exists. -/
theorem mem_keys_iff : key ∈ set.keys ↔ (set.order? key).isSome := by
  simp only [keys, List.mem_map, Option.isSome_iff_exists, order?_eq_some_iff, Prod.exists,
    exists_and_right, exists_eq_right]

/-- The orders are their keys, each with the rules found under it. -/
theorem orders_eq_map_keys (set : RuleSet) :
    set.orders = set.keys.map fun key => (key, (set.order? key).getD []) := by
  rw [keys, List.map_map]
  refine (List.map_id _).symm.trans (List.map_congr_left fun o ho => ?_)
  have : set.order? o.1 = some o.2 := order?_eq_some_iff.2 ho
  simp [this]

/-- The walk over all rules goes through the keys one after the other. -/
theorem rules_eq_flatMap_keys (set : RuleSet) :
    set.rules = set.keys.flatMap fun key => (set.order? key).getD [] := by
  have hflat := congrArg (List.flatMap (·.2)) (orders_eq_map_keys set)
  rwa [List.flatMap_map] at hflat

/-- Two rule sets are equal if the same orders are found in them. -/
theorem eq_of_order? {set set' : RuleSet}
    (h : ∀ key rules, set.order? key = some rules ↔ set'.order? key = some rules)
    (hcursor : set.cursor = set'.cursor) (hfloor : set.floor = set'.floor) : set = set' := by
  -- The lists hold the same pairs, and both ascend.
  have hperm : set.orders.Perm set'.orders := by
    have hnodup : ∀ set : RuleSet, set.orders.Nodup := by
      intro set
      refine List.Pairwise.imp ?_ set.ascending
      rintro a b hlt rfl
      exact Int.lt_irrefl _ hlt
    rw [List.perm_ext_iff_of_nodup (hnodup set) (hnodup set')]
    rintro ⟨key, rules⟩
    rw [← order?_eq_some_iff, ← order?_eq_some_iff]
    exact h key rules
  have horders : set.orders = set'.orders := by
    refine hperm.eq_of_pairwise ?_ set.ascending set'.ascending
    intro a b _ _ hlt hlt'
    exact absurd (Int.lt_trans hlt hlt') (Int.lt_irrefl _)
  cases set
  cases set'
  simp_all

end OrderedLexer.RuleSet
