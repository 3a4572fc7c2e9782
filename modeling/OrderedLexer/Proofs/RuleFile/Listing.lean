import OrderedLexer.Proofs.RuleFile.Reachable

namespace OrderedLexer.RuleFile

open RuleSet

/-!
# The rules of a listing

A rule file lists its rules group by group; an order may have several groups, in any sequence. They
come together in the rule set, each order sorted by descending priority.

* `rulesAt` — the rules of all groups of an order, `logged_eq_rulesAt`;
* `Group.Refused` — a group with rules below the floor;
* `Holds` — what a rule set holds that comes of a listing, `Holds.eq`, `holds_insertAll`;
* `toRuleSet?_eq_ok_iff`, `toRuleSet?_eq_error_iff` — a listing fails exactly at the first group
  that is refused, and otherwise the rule set holds what is listed.
-/

variable {file : RuleFile} {key low : OrderKey}

/-! ### The groups of an order -/

/-- The rules of all groups of an order, in the sequence in which they are listed. -/
def rulesAt (file : RuleFile) (key : OrderKey) : List Rule :=
  (file.groups.filter (·.order = key)).flatMap (·.rules)

theorem logged_eq_rulesAt (file : RuleFile) (key : OrderKey) :
    logged key file.entries = file.rulesAt key := by
  unfold entries rulesAt
  induction file.groups with
  | nil => rfl
  | cons g groups ih =>
    rw [List.flatMap_cons, logged_append, ih]
    by_cases hkey : g.order = key
    · simp [logged, hkey, List.filter_map, Function.comp_def]
    · simp [logged, hkey, List.filter_map, Function.comp_def]

theorem mem_entries_iff {e : OrderKey × Rule} :
    e ∈ file.entries ↔ ∃ g ∈ file.groups, g.order = e.1 ∧ e.2 ∈ g.rules := by
  obtain ⟨key, r⟩ := e
  simp only [entries, List.mem_flatMap, List.mem_map, Prod.mk.injEq]
  constructor
  · rintro ⟨g, hg, r', hr', rfl, rfl⟩
    exact ⟨g, hg, rfl, hr'⟩
  · rintro ⟨g, hg, rfl, hr⟩
    exact ⟨g, hg, r, hr, rfl, rfl⟩

/-! ### Refusal -/

/-- A group has rules and lies below a floor. -/
def Group.Refused (g : Group) (low : OrderKey) : Prop := g.rules ≠ [] ∧ g.order < low

instance (g : Group) (low : OrderKey) : Decidable (g.Refused low) :=
  inferInstanceAs (Decidable (_ ∧ _))

/-- The rules of groups that are not refused do not lie below the floor. -/
theorem not_below_of_groups {groups : List Group} (h : ∀ g ∈ groups, ¬ g.Refused low) :
    ∀ e ∈ groups.flatMap (fun g => g.rules.map (g.order, ·)),
      ¬ (RuleSet.start (some low)).Below e.1 := by
  rintro e he ⟨low', hlow, hlt⟩
  obtain rfl : low = low' := Option.some.inj hlow
  obtain ⟨g, hg, hmem⟩ := List.mem_flatMap.1 he
  obtain ⟨r, hr, rfl⟩ := List.mem_map.1 hmem
  exact h g hg ⟨List.ne_nil_of_mem hr, hlt⟩

/-- **Refused listings.** The rules are inserted up to the first group that is refused. -/
theorem insertAll?_of_refused {front back : List Group} {g : Group} (hlow : file.start = some low)
    (hgroups : file.groups = front ++ g :: back) (hg : g.Refused low)
    (hfront : ∀ g' ∈ front, ¬ g'.Refused low) :
    (RuleSet.start file.start).insertAll? file.entries = .error ⟨g.order, low⟩ := by
  obtain ⟨r, rules, hrules⟩ := List.exists_cons_of_ne_nil hg.1
  rw [insertAll?_eq_error_iff, hlow]
  refine ⟨_, g.order, r, rules.map (g.order, ·) ++ back.flatMap fun g => g.rules.map (g.order, ·),
    ?_, not_below_of_groups hfront, insert?_eq_error_iff.2 ⟨low, rfl, hg.2, rfl⟩⟩
  rw [entries, hgroups, List.flatMap_append, List.flatMap_cons, hrules]
  rfl

/-- Either some group is refused, and there is a first one, or no rule lies below the floor. -/
theorem refused_or_not_below (file : RuleFile) :
    (∃ low front g back, file.start = some low ∧ file.groups = front ++ g :: back ∧
      g.Refused low ∧ ∀ g' ∈ front, ¬ g'.Refused low) ∨
    (∀ low, file.start = some low → ∀ g ∈ file.groups, ¬ g.Refused low) ∧
      ∀ e ∈ file.entries, ¬ (RuleSet.start file.start).Below e.1 := by
  cases hstart : file.start with
  | none =>
    have hnone : ∀ key, ¬ (RuleSet.start none).Below key := by
      rintro key ⟨low, hlow, -⟩
      cases hlow
    exact .inr ⟨fun low hlow => (nomatch hlow), fun e _ => hnone e.1⟩
  | some low =>
    cases hfind : file.groups.find? (·.Refused low) with
    | some g =>
      obtain ⟨hg, front, back, hgroups, hfront⟩ := List.find?_eq_some_iff_append.1 hfind
      exact .inl ⟨low, front, g, back, rfl, hgroups, of_decide_eq_true hg,
        fun g' hg' => by simpa using hfront g' hg'⟩
    | none =>
      have hnone : ∀ g ∈ file.groups, ¬ g.Refused low := by
        simpa using List.find?_eq_none.1 hfind
      refine .inr ⟨fun low' hlow' => ?_, not_below_of_groups hnone⟩
      rwa [← Option.some.inj hlow']

/-! ### What a listing comes to -/

/-- What the rule set of a listing holds. The floor is the start of the listing, and the cursor
    stands there, or at 0. There is an order for each group with rules, and it holds the rules of
    all its groups, stably sorted by descending priority. -/
structure Holds (file : RuleFile) (set : RuleSet) : Prop where
  floor : set.floor = file.start
  cursor : set.cursor = file.start.getD OrderKey.zero
  keys : ∀ key, key ∈ set.keys ↔ ∃ g ∈ file.groups, g.order = key ∧ g.rules ≠ []
  order? : ∀ key ∈ set.keys, set.order? key = some ((file.rulesAt key).mergeSort mayPrecede)

/-- Only one rule set holds what is listed. -/
theorem Holds.eq {set set' : RuleSet} (h : file.Holds set) (h' : file.Holds set') : set = set' := by
  have hkeys : ∀ key, key ∈ set.keys ↔ key ∈ set'.keys :=
    fun key => (h.keys key).trans (h'.keys key).symm
  refine eq_of_order? (fun key rules => ?_) (h.cursor.trans h'.cursor.symm)
    (h.floor.trans h'.floor.symm)
  by_cases hkey : key ∈ set.keys
  · rw [h.order? key hkey, h'.order? key ((hkeys key).1 hkey)]
  · have hnone : ∀ {set : RuleSet}, key ∉ set.keys → set.order? key = none := by
      intro set hkey
      rwa [mem_keys_iff, Option.not_isSome_iff_eq_none] at hkey
    rw [hnone hkey, hnone (mt (hkeys key).2 hkey)]

/-- What is listed is held when it is inserted. -/
theorem holds_insertAll (file : RuleFile) :
    file.Holds ((RuleSet.start file.start).insertAll file.entries) := by
  have hrecords : ((RuleSet.start file.start).insertAll file.entries).Records file.entries [] :=
    (records_start file.start).insertAll file.entries
  refine ⟨insertAll_floor _ _, insertAll_cursor _ _, fun key => ?_, fun key hkey => ?_⟩
  · rw [mem_keys_iff, hrecords.isSome_iff]
    simp only [List.mem_map, mem_entries_iff, Prod.exists, List.not_mem_nil, or_false]
    constructor
    · rintro ⟨_, r, ⟨g, hg, rfl, hr⟩, rfl⟩
      exact ⟨g, hg, rfl, List.ne_nil_of_mem hr⟩
    · rintro ⟨g, hg, rfl, hne⟩
      obtain ⟨r, hr⟩ := List.exists_mem_of_ne_nil _ hne
      exact ⟨g.order, r, ⟨g, hg, rfl, hr⟩, rfl⟩
  · have hholds := hrecords.getD_eq key
    rw [logged_eq_rulesAt, tiers_eq_mergeSort] at hholds
    rw [mem_keys_iff] at hkey
    obtain ⟨rules, hrules⟩ := Option.isSome_iff_exists.1 hkey
    rw [hrules] at hholds ⊢
    exact congrArg some hholds

/-- **Accepted listings.** A listing is inserted exactly if no group is refused, and then the rule
    set holds what is listed. -/
theorem toRuleSet?_eq_ok_iff {set : RuleSet} :
    file.toRuleSet? = .ok set ↔
      (∀ low, file.start = some low → ∀ g ∈ file.groups, ¬ g.Refused low) ∧ file.Holds set := by
  unfold toRuleSet?
  rcases refused_or_not_below file with ⟨low, front, g, back, hlow, hgroups, hg, hfront⟩ |
    ⟨hnone, hbelow⟩
  · rw [insertAll?_of_refused hlow hgroups hg hfront]
    constructor
    · intro h
      cases h
    · rintro ⟨h, -⟩
      have hmem : g ∈ file.groups := by simp [hgroups]
      exact absurd hg (h low hlow g hmem)
  · rw [insertAll?_eq_ok_iff]
    constructor
    · rintro ⟨-, rfl⟩
      exact ⟨hnone, holds_insertAll file⟩
    · rintro ⟨-, hset⟩
      exact ⟨hbelow, hset.eq (holds_insertAll file)⟩

/-- **Refused listings.** A listing fails exactly at the first group that is refused. -/
theorem toRuleSet?_eq_error_iff {e : InvalidOrder} :
    file.toRuleSet? = .error e ↔
      ∃ low front g back, file.start = some low ∧ file.groups = front ++ g :: back ∧
        g.Refused low ∧ (∀ g' ∈ front, ¬ g'.Refused low) ∧ e = ⟨g.order, low⟩ := by
  constructor
  · intro h
    rcases refused_or_not_below file with ⟨low, front, g, back, hlow, hgroups, hg, hfront⟩ |
      ⟨hnone, -⟩
    · have herror := insertAll?_of_refused hlow hgroups hg hfront
      exact ⟨low, front, g, back, hlow, hgroups, hg, hfront, Except.error.inj (h.symm.trans herror)⟩
    · have hok := toRuleSet?_eq_ok_iff.2 ⟨hnone, holds_insertAll file⟩
      rw [h] at hok
      contradiction
  · rintro ⟨low, front, g, back, hlow, hgroups, hg, hfront, rfl⟩
    exact insertAll?_of_refused hlow hgroups hg hfront

end OrderedLexer.RuleFile
