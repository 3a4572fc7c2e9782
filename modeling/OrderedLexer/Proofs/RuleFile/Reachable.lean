import OrderedLexer.Proofs.RuleFile.Plain.Statements
import OrderedLexer.Proofs.RuleSet.History
import OrderedLexer.RuleFile.Load

namespace OrderedLexer

open RuleFile (Reading)
open RuleFile.Plain

/-!
# Reachable rule sets

A rule set is made empty, with one rule for blanks, or from a rule file, and then changed at will.

* `insertAll?_eq_ok_iff`, `insertAll?_eq_error_iff` — inserting a list succeeds exactly if none of
  its orders lies below the floor, and fails at the first that does;
* `ofJson_of_error`, `ofJson_of_ok`, `ofJson_eq_ok_iff` — a file in JSON is read first, and then its
  rules are inserted;
* `Loaded.drafted` — a rule set that was just loaded is an empty one into which a list was
  inserted, whichever format the file has;
* `Reachable.exists_run` — every reachable rule set comes from an empty one by a run of changes;
* `Reachable.sorted`, `Reachable.not_below` — its orders are sorted, and rules stand in no order
  below the floor.
-/

namespace RuleSet

variable {set changed : RuleSet} {key : OrderKey} {rules : List Rule}
  {entries : List (OrderKey × Rule)}

/-- A rule set that a rule file was just loaded into. -/
inductive Loaded : RuleSet → Prop
  | plain {source : Cursor} {set : RuleSet} : ofPlain source = .ok set → Loaded set
  | json {source : Cursor} {set : RuleSet} : ofJson source = .ok set → Loaded set

/-- A rule set that comes from a constructor or a rule file by any changes. -/
inductive Reachable : RuleSet → Prop
  | new : Reachable new
  | startingAt (floor : OrderKey) : Reachable (startingAt floor)
  | skippingWhitespace {set : RuleSet} : skippingWhitespace = .ok set → Reachable set
  | loaded {set : RuleSet} : Loaded set → Reachable set
  | change {set : RuleSet} (c : Change) : Reachable set → Reachable (c.apply set)

/-! ### Lists of insertions -/

/-- **Lists.** Inserting a list succeeds exactly if the floor refuses none of its orders. -/
theorem insertAll?_eq_ok_iff :
    set.insertAll? entries = .ok changed ↔
      (∀ e ∈ entries, ¬ set.Below e.1) ∧ changed = set.insertAll entries := by
  unfold insertAll?
  induction entries generalizing set with
  | nil =>
    rw [List.foldlM_nil, insertAll_nil]
    constructor
    · intro h
      exact ⟨by simp, (Except.ok.inj h).symm⟩
    · rintro ⟨-, rfl⟩
      rfl
  | cons e entries ih =>
    rw [List.foldlM_cons, insertAll_cons, List.forall_mem_cons]
    cases hins : set.insert? e.1 e.2 with
    | error refused =>
      have hbelow : set.Below e.1 := by
        obtain ⟨floor, hfloor, hlt, -⟩ := insert?_eq_error_iff.1 hins
        exact ⟨floor, hfloor, hlt⟩
      constructor
      · intro h
        cases h
      · rintro ⟨⟨hnot, -⟩, -⟩
        exact absurd hbelow hnot
    | ok next =>
      obtain ⟨hnot, rfl⟩ := insert?_eq_ok_iff.1 hins
      have hrest := @ih (set.insertAt e.1 e.2)
      -- The floor is the same after an insertion.
      rw [and_assoc]
      exact hrest.trans (and_iff_right hnot).symm

/-- **Refused lists.** Inserting a list fails exactly at the first of its orders that the floor
    refuses. -/
theorem insertAll?_eq_error_iff {e : InvalidOrder} :
    set.insertAll? entries = .error e ↔
      ∃ done key r more, entries = done ++ (key, r) :: more ∧
        (∀ d ∈ done, ¬ set.Below d.1) ∧ set.insert? key r = .error e := by
  unfold insertAll?
  induction entries generalizing set with
  | nil =>
    rw [List.foldlM_nil]
    constructor
    · intro h
      cases h
    · rintro ⟨done, key, r, more, h, -⟩
      simp at h
  | cons first entries ih =>
    rw [List.foldlM_cons]
    cases hins : set.insert? first.1 first.2 with
    | error refused =>
      have hbelow : set.Below first.1 := by
        obtain ⟨floor, hfloor, hlt, -⟩ := insert?_eq_error_iff.1 hins
        exact ⟨floor, hfloor, hlt⟩
      constructor
      · intro h
        obtain rfl : refused = e := Except.error.inj h
        exact ⟨[], first.1, first.2, entries, rfl, by simp, hins⟩
      · rintro ⟨done, key, r, more, h, hdone, hrefused⟩
        cases done with
        | nil =>
          obtain ⟨rfl, -⟩ := List.cons.inj h
          exact hins.symm.trans hrefused
        | cons d done =>
          obtain ⟨rfl, -⟩ := List.cons.inj h
          exact absurd hbelow (hdone first List.mem_cons_self)
    | ok next =>
      obtain ⟨hnot, rfl⟩ := insert?_eq_ok_iff.1 hins
      -- The floor is the same after an insertion, and so are the refusals.
      have hrefusals : ∀ key r, (set.insertAt first.1 first.2).insert? key r = .error e ↔
          set.insert? key r = .error e := by
        intro key r
        rw [insert?_eq_error_iff, insert?_eq_error_iff, insertAt_floor]
      refine (@ih (set.insertAt first.1 first.2)).trans ?_
      simp only [hrefusals]
      constructor
      · rintro ⟨done, key, r, more, rfl, hdone, hrefused⟩
        exact ⟨first :: done, key, r, more, rfl, List.forall_mem_cons.2 ⟨hnot, hdone⟩, hrefused⟩
      · rintro ⟨done, key, r, more, h, hdone, hrefused⟩
        cases done with
        | nil =>
          obtain ⟨rfl, -⟩ := List.cons.inj h
          rw [hins] at hrefused
          contradiction
        | cons d done =>
          obtain ⟨rfl, rfl⟩ := List.cons.inj h
          exact ⟨done, key, r, more, rfl, (List.forall_mem_cons.1 hdone).2, hrefused⟩

/-- A list that the floor does not refuse is inserted by a run of changes. -/
theorem run_insert (h : ∀ e ∈ entries, ¬ set.Below e.1) :
    set.run (entries.map fun e => .insert e.1 e.2) = set.insertAll entries := by
  induction entries generalizing set with
  | nil => rfl
  | cons e entries ih =>
    obtain ⟨hnot, hrest⟩ := List.forall_mem_cons.1 h
    have hins : set.insert? e.1 e.2 = .ok (set.insertAt e.1 e.2) := insert?_eq_ok_iff.2 ⟨hnot, rfl⟩
    have hstep : (Change.insert e.1 e.2).apply set = set.insertAt e.1 e.2 := by
      simp only [Change.apply, hins]
    have := @ih (set.insertAt e.1 e.2) hrest
    rw [insertAll_cons, ← this, ← hstep]
    rfl

/-! ### Loaded rule sets -/

/-- An empty rule set into which a list was inserted that its floor does not refuse. -/
def Drafted (set : RuleSet) : Prop :=
  ∃ floor entries, (∀ e ∈ entries, ¬ (start floor).Below e.1) ∧
    set = (start floor).insertAll entries

theorem drafted_start (floor : Option OrderKey) : (start floor).Drafted :=
  ⟨floor, [], by simp, rfl⟩

/-- The list may be extended by one more insertion. -/
theorem Drafted.insert? {r : Rule} (h : set.Drafted) (hins : set.insert? key r = .ok changed) :
    changed.Drafted := by
  obtain ⟨floor, entries, hentries, rfl⟩ := h
  obtain ⟨hnot, rfl⟩ := insert?_eq_ok_iff.1 hins
  refine ⟨floor, entries ++ [(key, r)], ?_, ?_⟩
  · intro e he
    rcases List.mem_append.1 he with he | he
    · exact hentries e he
    · unfold Below at hnot
      rw [insertAll_floor] at hnot
      rwa [List.mem_singleton.1 he]
  · rw [insertAll_append]
    rfl

/-- **Step.** A statement of a plain rule file inserts a rule, starts anew, or leaves the rules. -/
theorem Drafted.statement {draft draft' : Draft} {c c' : Cursor} (h : draft.set.Drafted)
    (hread : RuleFile.Plain.statement draft c = .ok (draft', c')) : draft'.set.Drafted := by
  rcases statement_eq_ok_iff.1 hread with ⟨rest, -, hdirective⟩ | ⟨-, hrule⟩
  · obtain ⟨rest', hargument, -, -⟩ := directive_eq_ok_iff.1 hdirective
    rcases argument_eq_ok_iff.1 hargument with ⟨-, key, -, rfl⟩ | ⟨-, -, rfl⟩ | ⟨-, -, key, -, rfl⟩
    · exact h
    · exact h
    · exact drafted_start (some key)
  · obtain ⟨_, _, _, _, r, set, _, _, _, hins, rfl⟩ := rule_eq_ok_iff.1 hrule
    exact h.insert? hins

/-- **Run.** So do the statements of a file. -/
theorem Drafted.statements {draft : Draft} {c : Cursor} (h : draft.set.Drafted) :
    (RuleFile.Plain.statements draft c).1.set.Drafted := by
  fun_induction RuleFile.Plain.statements draft c with
  | case1 draft c c' hend => exact h
  | case2 draft c c' hend draft' rest hread ih => exact ih (h.statement hread)
  | case3 draft c c' hend fault hread => exact h

/-- A file in JSON that cannot be read is not loaded, whatever its rules are. -/
theorem ofJson_of_error {source : Cursor} {fault : Json.Fault}
    (h : RuleFile.ofJson? (String.ofList source.text) = .error fault) :
    ofJson source = .error (.json source.origin fault) := by
  unfold ofJson Reading.ofJson
  rw [h]

/-- The rules of a file in JSON are inserted as they are listed. -/
theorem ofJson_of_ok {source : Cursor} {file : RuleFile}
    (h : RuleFile.ofJson? (String.ofList source.text) = .ok file) :
    ofJson source = ((start file.start).insertAll? file.entries).mapError .invalidOrder := by
  unfold ofJson Reading.ofJson
  rw [h]
  rfl

theorem mapError_eq_ok_iff {ε ε' α : Type} {x : Except ε α} {f : ε → ε'} {a : α} :
    x.mapError f = .ok a ↔ x = .ok a := by
  cases x <;> simp [Except.mapError]

theorem mapError_eq_error_iff {ε ε' α : Type} {x : Except ε α} {f : ε → ε'} {e' : ε'} :
    x.mapError f = .error e' ↔ ∃ e, x = .error e ∧ f e = e' := by
  cases x <;> simp [Except.mapError]

/-- A file in JSON is loaded exactly if it is read and the floor refuses none of its rules. -/
theorem ofJson_eq_ok_iff {source : Cursor} :
    ofJson source = .ok set ↔
      ∃ file, RuleFile.ofJson? (String.ofList source.text) = .ok file ∧
        (∀ e ∈ file.entries, ¬ (start file.start).Below e.1) ∧
        set = (start file.start).insertAll file.entries := by
  cases hread : RuleFile.ofJson? (String.ofList source.text) with
  | error fault => simp [ofJson_of_error hread]
  | ok file =>
    rw [ofJson_of_ok hread, mapError_eq_ok_iff, insertAll?_eq_ok_iff]
    simp

/-- **Loaded.** Whichever format its file has, a loaded rule set is an empty one into which a list
    was inserted. -/
theorem Loaded.drafted (h : Loaded set) : set.Drafted := by
  cases h with
  | @plain source set hload =>
    have hdrafted : (read source).1.set.Drafted := (drafted_start none).statements
    unfold ofPlain Reading.ofPlain at hload
    dsimp only at hload
    split at hload
    · rw [← Except.ok.inj hload]
      exact hdrafted
    · contradiction
  | json hload =>
    obtain ⟨file, -, hnot, rfl⟩ := ofJson_eq_ok_iff.1 hload
    exact ⟨file.start, file.entries, hnot, rfl⟩

/-! ### Reachable rule sets -/

/-- **Runs.** Every reachable rule set comes from an empty one by a run of changes. -/
theorem Reachable.exists_run (h : Reachable set) :
    ∃ floor changes, set = (start floor).run changes := by
  induction h with
  | new => exact ⟨none, [], rfl⟩
  | startingAt floor => exact ⟨some floor, [], rfl⟩
  | @skippingWhitespace set hset =>
    unfold RuleSet.skippingWhitespace at hset
    cases hrule : Rule.ofPattern "\\s+" .immediate false with
    | error e =>
      rw [hrule] at hset
      contradiction
    | ok r =>
      rw [hrule] at hset
      exact ⟨none, [.insertHere r], (Except.ok.inj hset).symm⟩
  | loaded hloaded =>
    obtain ⟨floor, entries, hentries, rfl⟩ := hloaded.drafted
    exact ⟨floor, _, (run_insert hentries).symm⟩
  | @change set c _ ih =>
    obtain ⟨floor, changes, rfl⟩ := ih
    refine ⟨floor, changes ++ [c], ?_⟩
    rw [run, run, List.foldl_append]
    rfl

/-- The orders of a reachable rule set are sorted. -/
theorem Reachable.sorted (h : Reachable set) (hrules : set.order? key = some rules) :
    Sorted rules := by
  obtain ⟨floor, changes, rfl⟩ := h.exists_run
  have hrecords := (records_start floor).run changes
  have htiers := hrecords.getD_eq key
  rw [hrules, Option.getD_some] at htiers
  rw [htiers]
  exact sorted_tiers _

/-- No rules of a reachable rule set stand in an order below its floor. -/
theorem Reachable.not_below (h : Reachable set) (hrules : set.order? key = some rules)
    (hne : rules ≠ []) : ¬ set.Below key := by
  obtain ⟨floor, changes, rfl⟩ := h.exists_run
  have hrecords := (records_start floor).run changes
  have htiers := hrecords.getD_eq key
  rw [hrules, Option.getD_some, List.nil_append] at htiers
  -- The order is not empty, so its key is logged.
  obtain ⟨e, he, rfl⟩ : ∃ e ∈ (start floor).log changes, e.1 = key := by
    by_contra hnone
    refine hne ?_
    have hlogged : logged key ((start floor).log changes) = [] := by
      unfold logged
      rw [List.map_eq_nil_iff, List.filter_eq_nil_iff]
      intro e he hkey
      exact hnone ⟨e, he, by simpa using hkey⟩
    rw [htiers, hlogged]
    rfl
  have hlog := not_below_log (not_below_start floor) he
  unfold Below at hlog ⊢
  rwa [floor_run]

end RuleSet
end OrderedLexer
