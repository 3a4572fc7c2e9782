import OrderedLexer.CommandLine.Run
import OrderedLexer.Proofs.RuleFile.ReadBack
import OrderedLexer.Proofs.RuleFile.Reachable

namespace OrderedLexer.RuleSet

open RuleFile (ofRuleSet Reading)

/-!
# Rule sets are dumped and loaded again

A rule set that is written as a rule file and loaded again loses its empty orders, and its cursor
stands at the floor; nothing else changes.

* `logged_entries` — the rules listed under a key are those of its order;
* `toRuleSet?_ofRuleSet` — inserting what is listed gives the rule set without its empty orders;
* `Loaded.settled_eq` — a rule set that was just loaded has none, and its cursor is at the floor;
* `ofJson_of_print` — a text that prints a rule file is loaded as this file is;
* `reload` — what becomes of a rule set that is dumped and loaded again.
-/

variable {set : RuleSet} {key : OrderKey} {rules : List Rule}

/-- The rule set without its empty orders, with the cursor at the floor. -/
def settled (set : RuleSet) : RuleSet where
  orders := set.orders.filter fun o => !o.2.isEmpty
  ascending := List.Pairwise.filter _ set.ascending
  cursor := set.floor.getD OrderKey.zero
  floor := set.floor

/-! ### Lists of orders -/

/-- An order is found in the settled rule set exactly if it is not empty. -/
theorem order?_settled_eq_some_iff :
    set.settled.order? key = some rules ↔ set.order? key = some rules ∧ rules ≠ [] := by
  rw [order?_eq_some_iff, order?_eq_some_iff, settled, List.mem_filter]
  simp

/-- The empty orders play no part in the walk over all rules. -/
theorem rules_settled (set : RuleSet) : set.settled.rules = set.rules := by
  have hfilter : ∀ orders : Orders,
      (orders.filter fun o => !o.2.isEmpty).flatMap (·.2) = orders.flatMap (·.2) := by
    intro orders
    induction orders with
    | nil => rfl
    | cons o rest ih =>
      obtain ⟨k, rules⟩ := o
      cases rules with
      | nil => exact ih
      | cons r rules => exact congrArg (r :: rules ++ ·) ih
  exact hfilter set.orders

/-! ### Listing and inserting -/

/-- The rules listed under a key are those of its order. -/
theorem logged_entries (set : RuleSet) (key : OrderKey) :
    logged key (ofRuleSet set).entries = (set.order? key).getD [] := by
  have horders : ∀ orders : Orders, orders.Ascending →
      logged key (orders.flatMap fun o => o.2.map (o.1, ·)) = (orders.lookup key).getD [] := by
    intro orders hascending
    induction orders with
    | nil => rfl
    | cons o rest ih =>
      obtain ⟨k, rules⟩ := o
      have ⟨hk, hrest⟩ := List.pairwise_cons.1 hascending
      rw [List.flatMap_cons, logged_append, ih hrest]
      by_cases heq : key = k
      · subst heq
        have hnone : rest.lookup key = none := by
          rw [List.lookup_eq_none_iff]
          intro o ho
          rw [bne_iff_ne]
          rintro rfl
          exact absurd (hk o ho) (Int.lt_irrefl _)
        rw [hnone]
        simp [logged, List.filter_map, Function.comp_def]
      · have hbeq : (key == k) = false := by simpa using heq
        have hne : k ≠ key := Ne.symm heq
        rw [List.lookup_cons, hbeq]
        simp [logged, List.filter_map, Function.comp_def, hne]
  have hentries : (ofRuleSet set).entries = set.orders.flatMap fun o => o.2.map (o.1, ·) := by
    unfold RuleFile.entries ofRuleSet
    rw [List.flatMap_map]
  rw [hentries]
  exact horders set.orders set.ascending

/-- **Listing.** Inserting what is listed gives the rule set without its empty orders. -/
theorem toRuleSet?_ofRuleSet (h : Reachable set) :
    (ofRuleSet set).toRuleSet? = .ok set.settled := by
  have hrecords : ((start set.floor).insertAll (ofRuleSet set).entries).Records _ [] :=
    (records_start set.floor).insertAll (ofRuleSet set).entries
  unfold RuleFile.toRuleSet?
  rw [insertAll?_eq_ok_iff]
  constructor
  · intro e he
    obtain ⟨g, hg, he⟩ := List.mem_flatMap.1 he
    obtain ⟨o, ho, rfl⟩ := List.mem_map.1 hg
    obtain ⟨r, hr, rfl⟩ := List.mem_map.1 he
    exact h.not_below (order?_eq_some_iff.2 ho) (List.ne_nil_of_mem hr)
  · have hcursor := insertAll_cursor (start set.floor) (ofRuleSet set).entries
    have hfloor := insertAll_floor (start set.floor) (ofRuleSet set).entries
    refine eq_of_order? (fun key rules => ?_) hcursor.symm hfloor.symm
    refine order?_settled_eq_some_iff.trans (Iff.trans ?_ hrecords.order?_eq_some_iff.symm)
    rw [List.nil_append, logged_entries]
    -- Inserting sorts the rules of an order, which are sorted already.
    cases hfound : set.order? key with
    | none =>
      rw [Option.getD_none, show tiers [] = [] from rfl]
      simp
    | some found =>
      rw [Option.getD_some, tiers_of_sorted (h.sorted hfound), Option.some.injEq]
      simp [eq_comm]

/-- A rule set that was just loaded has no empty order, and its cursor stands at the floor. -/
theorem Loaded.settled_eq (h : Loaded set) : set.settled = set := by
  obtain ⟨floor, entries, -, rfl⟩ := h.drafted
  have hrecords : ((start floor).insertAll entries).Records _ [] :=
    (records_start floor).insertAll entries
  refine eq_of_order? (fun key rules => ?_) ?_ rfl
  · rw [order?_settled_eq_some_iff, hrecords.order?_eq_some_iff, and_assoc, and_self]
  · rw [insertAll_cursor]
    show ((start floor).insertAll entries).floor.getD OrderKey.zero = _
    rw [insertAll_floor]
    rfl

/-! ### Loading what is dumped -/

/-- A text that prints a rule file, with a line break behind it or without, is loaded as this
    file. -/
theorem ofJson_of_print {layout : Json.Layout} (hlayout : layout.Blank) (h : Reachable set)
    (origin : String) {ws : List Char} (hws : Json.Reader.Blanks ws) :
    ofJson (Cursor.ofText origin (set.dump layout ++ String.ofList ws)) = .ok set.settled := by
  have hread := RuleFile.ofJson?_print hlayout (ofRuleSet set) Json.Reader.blanks_nil hws
  have htext : String.ofList (Cursor.ofText origin (set.dump layout ++ String.ofList ws)).text =
      String.ofList ([] ++ ((ofRuleSet set).toJson.print layout).toList ++ ws) := by
    simp [Cursor.text, Cursor.ofText, dump]
  unfold ofJson Reading.ofJson
  rw [htext, hread]
  show (ofRuleSet set).toRuleSet?.mapError LoadError.invalidOrder = _
  rw [toRuleSet?_ofRuleSet h]
  rfl

/-- **Reload.** Every reachable rule set that is dumped, in either layout or as the rules are shown
    in JSON, is loaded again. What is loaded

    * has the same floor, and its cursor stands there, or at 0 without a floor;
    * has the same orders but the empty ones, each with equal rules in the same sequence;
    * scans every text to the same tokens or the same error;
    * is the rule set itself, if that was just loaded from a rule file. -/
theorem reload (h : Reachable set) (origin text : String)
    (htext : text ∈ [set.dump .compact, set.dump .indented, CommandLine.showRules set .json]) :
    ∃ reloaded, ofJson (Cursor.ofText origin text) = .ok reloaded ∧
      reloaded.floor = set.floor ∧
      reloaded.cursor = set.floor.getD OrderKey.zero ∧
      reloaded.orders = set.orders.filter (fun o => !o.2.isEmpty) ∧
      (∀ o ∈ reloaded.orders, o.2 ≠ []) ∧
      (∀ input file size, reloaded.scan input file size = set.scan input file size) ∧
      (Loaded set → reloaded = set) := by
  have hload : ofJson (Cursor.ofText origin text) = .ok set.settled := by
    have hbreak : Json.Reader.Blanks ['\n'] := by
      intro c hc
      rw [List.mem_singleton.1 hc]
      rfl
    have hcompact := ofJson_of_print Json.blank_compact h origin Json.Reader.blanks_nil
    have hindented := ofJson_of_print Json.blank_indented h origin Json.Reader.blanks_nil
    have hshown := ofJson_of_print Json.blank_indented h origin hbreak
    rw [String.ofList_nil, String.append_empty] at hcompact hindented
    simp only [List.mem_cons, List.not_mem_nil, or_false] at htext
    rcases htext with rfl | rfl | rfl
    · exact hcompact
    · exact hindented
    · exact hshown
  refine ⟨set.settled, hload, rfl, rfl, rfl, fun o ho => ?_, fun input file size => ?_,
    Loaded.settled_eq⟩
  · exact (order?_settled_eq_some_iff.1 (order?_eq_some_iff.2 ho)).2
  · unfold scan course
    rw [rules_settled]

/-- An order that was advanced over is not loaded again. -/
theorem reload_advance : ∃ r, Rule.ofPattern "a" .last = .ok r ∧
    ∃ reloaded, ofJson (Cursor.ofText "rules.json"
        (((startingAt ⟨2, by decide⟩).advance.advance.insertHere r).dump .compact)) = .ok reloaded ∧
      reloaded.orders = [(⟨4, by decide⟩, [r])] ∧ reloaded.cursor = ⟨2, by decide⟩ := by
  have hcompiles : (Regex.compile "a").isOk = true := by decide
  obtain ⟨r, hr⟩ := Rule.exists_ofPattern hcompiles .last true none
  have hadvanced := ((Reachable.startingAt ⟨2, by decide⟩).change .advance).change .advance
  have hreachable := hadvanced.change (.insertHere r)
  obtain ⟨reloaded, hload, _, hcursor, horders, _⟩ :=
    reload hreachable "rules.json" _ List.mem_cons_self
  exact ⟨r, hr, reloaded, hload, horders, hcursor⟩

end OrderedLexer.RuleSet
