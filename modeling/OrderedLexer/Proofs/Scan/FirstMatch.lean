import OrderedLexer.Proofs.RuleSet.Orders
import OrderedLexer.Scan.Course

namespace OrderedLexer.RuleSet

open Text (dropBytes? byteLength)

/-!
# First refusal

Which rule matches at a byte position, told order by order: a rule is the first to match if it does
and no rule before it in its order, nor any rule of a lower order, matches there.

* `nextMatch?_eq_some_iff` — `RuleSet.nextMatch?` finds this rule, with what it matches;
* `nextMatch?_eq_none_iff` — it finds none exactly when no rule of any order matches;
* `nextMatch?_of_dropBytes?` — only the text from the position on counts.
-/

variable {set : RuleSet} {text : List Char} {pos : Nat} {matched : List Char} {r : Rule}

/-- The first rule that matches at a byte position, in the order in which rules are tried, is `r`,
    and it matches `matched`. -/
def IsFirstMatch (set : RuleSet) (text : List Char) (pos : Nat) (matched : List Char) (r : Rule) :
    Prop :=
  ∃ key before after, set.order? key = some (before ++ r :: after) ∧
    r.matchAt? text pos = some matched ∧
    (∀ s ∈ before, s.matchAt? text pos = none) ∧
    ∀ lower rules, lower < key → set.order? lower = some rules →
      ∀ s ∈ rules, s.matchAt? text pos = none

/-- No rule of any order matches at a byte position. -/
def NoMatchAt (set : RuleSet) (text : List Char) (pos : Nat) : Prop :=
  ∀ key rules, set.order? key = some rules → ∀ r ∈ rules, r.matchAt? text pos = none

/-- A search through the orders, one after the other, searches each order in turn. -/
theorem findSome?_rules {α : Type} (set : RuleSet) (f : Rule → Option α) :
    set.rules.findSome? f = set.orders.findSome? fun o => o.2.findSome? f := by
  rw [RuleSet.rules]
  induction set.orders with
  | nil => rfl
  | cons o rest ih =>
    rw [List.flatMap_cons, List.findSome?_append, List.findSome?_cons, ih]
    cases o.2.findSome? f <;> rfl

/-- The search stops nowhere exactly when no rule of any order matches. -/
theorem nextMatch?_eq_none_iff : set.nextMatch? text pos = none ↔ set.NoMatchAt text pos := by
  simp only [nextMatch?, List.findSome?_eq_none_iff, Option.map_eq_none_iff, mem_rules_iff,
    forall_exists_index, and_imp, NoMatchAt]
  constructor
  · intro h key rules horder r hr
    exact h r key rules horder hr
  · intro h r key rules horder hr
    exact h key rules horder r hr

/-- **First refusal.** The search through the walk stops at the first rule of the lowest order of
    which a rule matches. -/
theorem nextMatch?_eq_some_iff :
    set.nextMatch? text pos = some (matched, r) ↔ set.IsFirstMatch text pos matched r := by
  -- What one rule contributes; an order contributes its first success.
  let attempt (s : Rule) : Option (List Char × Rule) := (s.matchAt? text pos).map (·, s)
  have hattempt : ∀ s, attempt s = none ↔ s.matchAt? text pos = none := by
    intro s
    exact Option.map_eq_none_iff
  have hwalk : set.nextMatch? text pos = set.orders.findSome? fun o => o.2.findSome? attempt := by
    exact findSome?_rules set attempt
  rw [hwalk, List.findSome?_eq_some_iff]
  constructor
  · rintro ⟨front, ⟨key, rules⟩, back, horders, hfound, hfront⟩
    obtain ⟨before, s, after, hrules, hs, hbefore⟩ := List.findSome?_eq_some_iff.1 hfound
    obtain ⟨m, hm, heq⟩ := Option.map_eq_some_iff.1 hs
    obtain ⟨rfl, rfl⟩ := Prod.mk.inj heq
    have horder : set.order? key = some rules := by
      rw [order?_eq_some_iff, horders]
      simp
    refine ⟨key, before, after, by rw [horder, ← hrules], hm, ?_, ?_⟩
    · intro s hs
      exact (hattempt s).1 (hbefore s hs)
    · -- A lower key cannot stand behind `key` in the ascending list.
      intro lower rules' hlt hlower s hs
      have hasc := set.ascending
      rw [horders, Orders.Ascending, List.pairwise_append, List.pairwise_cons] at hasc
      have hmem := order?_eq_some_iff.1 hlower
      rw [horders, List.mem_append, List.mem_cons] at hmem
      rcases hmem with hmem | hmem | hmem
      · exact (hattempt s).1 (List.findSome?_eq_none_iff.1 (hfront _ hmem) s hs)
      · have : lower = key := congrArg Prod.fst hmem
        subst this
        exact absurd hlt (Int.lt_irrefl _)
      · exact absurd (Int.lt_trans hlt (hasc.2.1.1 _ hmem)) (Int.lt_irrefl _)
  · rintro ⟨key, before, after, horder, hmatch, hbefore, hlower⟩
    obtain ⟨front, back, horders⟩ := List.append_of_mem (order?_eq_some_iff.1 horder)
    refine ⟨front, _, back, horders, ?_, ?_⟩
    · refine List.findSome?_eq_some_iff.2 ⟨before, r, after, rfl, ?_, ?_⟩
      · exact Option.map_eq_some_iff.2 ⟨matched, hmatch, rfl⟩
      · intro s hs
        exact (hattempt s).2 (hbefore s hs)
    · intro o ho
      have hasc := set.ascending
      rw [horders, Orders.Ascending, List.pairwise_append] at hasc
      have hlt : o.1 < key := hasc.2.2 o ho _ List.mem_cons_self
      have hmem : set.order? o.1 = some o.2 := by
        rw [order?_eq_some_iff, horders]
        exact List.mem_append_left _ ho
      rw [List.findSome?_eq_none_iff]
      intro s hs
      exact (hattempt s).2 (hlower o.1 o.2 hlt hmem s hs)

/-- There is at most one first match at a position. -/
theorem IsFirstMatch.unique {matched' : List Char} {r' : Rule}
    (h : set.IsFirstMatch text pos matched r) (h' : set.IsFirstMatch text pos matched' r') :
    matched = matched' ∧ r = r' := by
  have heq := (nextMatch?_eq_some_iff.2 h).symm.trans (nextMatch?_eq_some_iff.2 h')
  exact Prod.mk.inj (Option.some.inj heq)

/-- Where a rule is the first to match, it is not so that none matches. -/
theorem IsFirstMatch.not_noMatchAt (h : set.IsFirstMatch text pos matched r) :
    ¬ set.NoMatchAt text pos := by
  intro hno
  have := (nextMatch?_eq_some_iff.2 h).symm.trans (nextMatch?_eq_none_iff.2 hno)
  contradiction

/-- Only the text from the position on counts. -/
theorem nextMatch?_of_dropBytes? {rest : List Char} (h : dropBytes? pos text = some rest) :
    set.nextMatch? text pos = firstMatch? set.rules rest := by
  have : ∀ s : Rule, s.matchAt? text pos = s.matchStart? rest := by
    intro s
    rw [Rule.matchAt?, h, Option.bind_some]
  simp only [nextMatch?, firstMatch?, this]

/-- What the first match takes is what the text ahead starts with. -/
theorem eq_append_of_firstMatch? {rules : List Rule} {rest : List Char}
    (h : firstMatch? rules rest = some (matched, r)) :
    rest = matched ++ rest.drop matched.length := by
  obtain ⟨s, _, hs⟩ := List.exists_of_findSome?_eq_some h
  obtain ⟨m, hm, heq⟩ := Option.map_eq_some_iff.1 hs
  obtain ⟨n, _, rfl⟩ := Option.map_eq_some_iff.1 hm
  obtain ⟨rfl, rfl⟩ := Prod.mk.inj heq
  exact (List.prefix_iff_eq_append.1 (List.take_prefix n rest)).symm

end OrderedLexer.RuleSet
