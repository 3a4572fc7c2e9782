import OrderedLexer.Proofs.RuleFile.Plain.Returns
import OrderedLexer.Proofs.RuleFile.Plain.Writing
import OrderedLexer.Proofs.RuleSet.Batches

namespace OrderedLexer.RuleFile.Plain

/-!
# Batches in plain rule files

`@next` does in a plain rule file what advancing does to a rule set: the rules behind it stand in a
greater order than those before it, unless these stand at the greatest key.

* `entriesFrom_append` — the rules of some lines, and of lines behind them;
* `lt_foldl_orderAfter` — an `@next` moves the order on, if no other order is chosen;
* `exists_cut_of_next` — so it cuts the walk between a rule before it and one behind it;
* `batches_in_sequence` — the batches of any rule set, and those of any plain rule file.
-/

variable {key : OrderKey} {lines before between after : List Line} {r s : Rule} {set : RuleSet}

/-! ### Orders and rules of lines -/

theorem entriesFrom_append (key : OrderKey) (lines lines' : List Line) :
    entriesFrom key (lines ++ lines') =
      entriesFrom key lines ++ entriesFrom (lines.foldl Line.orderAfter key) lines' := by
  induction lines generalizing key with
  | nil => rfl
  | cons line lines ih =>
    rw [List.cons_append, entriesFrom_cons, entriesFrom_cons, ih, List.append_assoc]
    rfl

/-- The rules of lines, whatever their orders. -/
theorem map_entriesFrom (key : OrderKey) (lines : List Line) :
    (entriesFrom key lines).map (·.2) = lines.filterMap Line.rule? := by
  induction lines generalizing key with
  | nil => rfl
  | cons line lines ih =>
    rw [entriesFrom_cons, List.map_append, ih, List.filterMap_cons]
    cases line.rule? <;> rfl

/-- The line chooses no order of its own. -/
def Line.Follows : Line → Prop
  | .order _ => False
  | .start _ => False
  | _ => True

theorem Line.Follows.le_orderAfter {line : Line} (h : line.Follows) (key : OrderKey) :
    key ≤ line.orderAfter key := by
  cases line with
  | next => exact OrderKey.le_next key
  | order _ => cases h
  | start _ => cases h
  | nothing => exact Int.le_refl _
  | rule r => exact Int.le_refl _

/-- The order does not fall if none is chosen. -/
theorem le_foldl_orderAfter (h : ∀ line ∈ lines, line.Follows) (key : OrderKey) :
    key ≤ lines.foldl Line.orderAfter key := by
  induction lines generalizing key with
  | nil => exact Int.le_refl _
  | cons line lines ih =>
    obtain ⟨hline, hlines⟩ := List.forall_mem_cons.1 h
    exact Int.le_trans (hline.le_orderAfter key) (ih hlines _)

/-- An `@next` moves the order on, if none is chosen and it is not the greatest. -/
theorem lt_foldl_orderAfter (h : ∀ line ∈ lines, line.Follows) (hnext : .next ∈ lines)
    (hkey : key ≠ OrderKey.greatest) : key < lines.foldl Line.orderAfter key := by
  obtain ⟨front, back, rfl⟩ := List.append_of_mem hnext
  have hfront := le_foldl_orderAfter (fun line hline => h line (List.mem_append_left _ hline)) key
  have hback : ∀ line ∈ back, line.Follows :=
    fun line hline => h line (List.mem_append_right _ (List.mem_cons_of_mem _ hline))
  rw [List.foldl_append, List.foldl_cons]
  exact Int.lt_of_lt_of_le ((OrderKey.lt_next_iff_of_le hfront).2 hkey)
    (le_foldl_orderAfter hback _)

/-! ### Files -/

/-- The lines behind a rule choose no order unless there is an `@order`. -/
theorem follows_of_startsFirst (h : StartsFirst (before ++ .rule r :: between ++ .rule s :: after))
    (horder : ∀ key, .order key ∉ between) : ∀ line ∈ between, line.Follows := by
  intro line hline
  rw [List.append_assoc] at h
  have hstart := (startsFirst_cons.1 (List.pairwise_append.1 h).2.1).1 rfl line
    (List.mem_append_left _ hline)
  cases line with
  | start key => cases hstart
  | order key => exact horder key hline
  | _ => trivial

/-- **Cut.** Of two rules with an `@next` and no `@order` between them, the first stands ahead of a
    cut in the walk and the second behind it, if the first does not stand at the greatest key. -/
theorem exists_cut_of_next {source : Cursor}
    (htext : FileText source.ahead (before ++ .rule r :: between ++ .rule s :: after))
    (hload : RuleSet.ofPlain source = .ok set) (hnext : .next ∈ between)
    (horder : ∀ key, .order key ∉ between)
    (hkey : before.foldl Line.orderAfter OrderKey.zero ≠ OrderKey.greatest) :
    ∃ ahead behind others others', set.rules = ahead ++ behind ∧ ahead.Perm (r :: others) ∧
      behind.Perm (s :: others') ∧
      (others ++ others').Perm ((before ++ between ++ after).filterMap Line.rule?) := by
  obtain ⟨hstarts, -, rfl⟩ := htext.ofPlain_iff.1 hload
  generalize hlow : before.foldl Line.orderAfter OrderKey.zero = low at hkey
  have hlt : low < between.foldl Line.orderAfter low :=
    lt_foldl_orderAfter (follows_of_startsFirst hstarts horder) hnext hkey
  have hentries : entriesFrom OrderKey.zero (before ++ .rule r :: between ++ .rule s :: after) =
      entriesFrom OrderKey.zero before ++ (low, r) :: (entriesFrom low between ++
        (between.foldl Line.orderAfter low, s) ::
          entriesFrom (between.foldl Line.orderAfter low) after) := by
    rw [List.append_assoc, List.cons_append, entriesFrom_append, hlow]
    refine congrArg (entriesFrom OrderKey.zero before ++ ·) ?_
    show (low, r) :: entriesFrom low (between ++ .rule s :: after) = _
    rw [entriesFrom_append]
    rfl
  obtain ⟨ahead, behind, others, others', hrules, hahead, hbehind, hothers⟩ :=
    RuleSet.exists_cut_insertAll (floorOf (before ++ .rule r :: between ++ .rule s :: after)) hlt
      (entriesFrom OrderKey.zero before) (entriesFrom low between)
      (entriesFrom (between.foldl Line.orderAfter low) after)
  rw [← hentries] at hrules
  rw [List.map_append, List.map_append, map_entriesFrom, map_entriesFrom, map_entriesFrom,
    ← List.filterMap_append, ← List.filterMap_append, ← List.append_assoc] at hothers
  exact ⟨ahead, behind, others, others', hrules, hahead, hbehind, hothers⟩

/-- **Batches.** What is inserted before an advance comes first, except at the greatest key.

    * Let rules be inserted at the cursor of any rule set, with any advances, one of which is looked
      at. This cuts the walk in two. Ahead of the cut stand the rules of the lower orders, with all
      those inserted before the advance while the cursor was not at the greatest key; behind it
      stand the rules of the other orders, with all those inserted afterwards, and with those
      inserted before at the greatest key.
    * In a plain rule file let an `@next` stand between two rules, and no `@order`. If the first
      rule does not stand at the greatest key, there is a cut of the walk with the first rule ahead
      of it and the second one behind it, and with all other rules of the file on either side. -/
theorem batches_in_sequence :
    (∀ (set : RuleSet) (first second : List RuleSet.Change), (∀ c ∈ first, c.AtCursor) →
      (∀ c ∈ second, c.AtCursor) →
      let opened := (set.run first).advance.cursor
      ∃ ahead behind, (set.run (first ++ .advance :: second)).rules = ahead ++ behind ∧
        ahead.Perm (set.rulesWhere (· < opened) ++
          RuleSet.loggedWhere (· ≠ OrderKey.greatest) (set.log first)) ∧
        behind.Perm (set.rulesWhere (opened ≤ ·) ++
          RuleSet.loggedWhere (· = OrderKey.greatest) (set.log first) ++
          ((set.run first).advance.log second).map (·.2))) ∧
    ∀ (source : Cursor) (set : RuleSet) (before between after : List Line) (r s : Rule),
      FileText source.ahead (before ++ .rule r :: between ++ .rule s :: after) →
      RuleSet.ofPlain source = .ok set → .next ∈ between → (∀ key, .order key ∉ between) →
      before.foldl Line.orderAfter OrderKey.zero ≠ OrderKey.greatest →
      ∃ ahead behind others others', set.rules = ahead ++ behind ∧ ahead.Perm (r :: others) ∧
        behind.Perm (s :: others') ∧
        (others ++ others').Perm ((before ++ between ++ after).filterMap Line.rule?) :=
  ⟨fun set _ _ hfirst hsecond => set.run_batches hfirst hsecond,
    fun _ _ _ _ _ _ _ htext hload hnext horder hkey =>
      exists_cut_of_next htext hload hnext horder hkey⟩

/-- An immediate rule behind an `@next` does not get ahead of a natural one before it. -/
theorem batches_in_sequence_immediate :
    let text := "A ::= a".toList ++
      '\n' :: ("@next".toList ++ [] ++ '\n' :: ("immediate B ::= b".toList ++ []))
    ∃ set a b, Rule.ofPattern "a" .natural true (some "A") = .ok a ∧
      Rule.ofPattern "b" .immediate true (some "B") = .ok b ∧
      RuleSet.ofPlain ⟨"t", [], text⟩ = .ok set ∧
      (∃ ahead behind others others', set.rules = ahead ++ behind ∧ ahead.Perm (a :: others) ∧
        behind.Perm (b :: others') ∧ (others ++ others').Perm []) ∧
      ∃ ahead behind,
        (RuleSet.new.run [.insertHere a, .advance, .insertHere b]).rules = ahead ++ behind ∧
          ahead.Perm [a] ∧ behind.Perm [b] := by
  intro text
  have hcompiles : (Regex.compile "a").isOk = true ∧ (Regex.compile "b").isOk = true := by decide
  obtain ⟨a, ha⟩ := Rule.exists_ofPattern hcompiles.1 .natural true (some "A")
  obtain ⟨b, hb⟩ := Rule.exists_ofPattern hcompiles.2 .immediate true (some "B")
  have hword : ∀ word ∈ ["A", "B", "immediate"], IsWord word := by
    simp only [List.forall_mem_cons, IsWord]
    exact ⟨⟨by decide, List.all_eq_true.1 (by decide)⟩, ⟨by decide, List.all_eq_true.1 (by decide)⟩,
      ⟨by decide, List.all_eq_true.1 (by decide)⟩, by simp⟩
  have hfirst : RuleText "A ::= a".toList a :=
    .mk (.cons_word blanks_nil (hword "A" (by simp)) (wordEnds_space []) (.nil blanks_space))
      .none blanks_space (List.cons_ne_nil 'a' []) (by simp [isBlank]) ha
  have hsecond : RuleText "immediate B ::= b".toList b :=
    .mk (.cons_word blanks_nil (hword "immediate" (by simp)) (wordEnds_space _)
        (.cons_word blanks_space (hword "B" (by simp)) (wordEnds_space []) (.nil blanks_space)))
      (.priority .immediate) blanks_space (List.cons_ne_nil 'b' []) (by simp [isBlank]) hb
  have hfeed : Unicode.isWhitespace '\n' = true := by decide
  have hletter : Unicode.isWhitespace 'A' = false ∧ Unicode.isWhitespace 'i' = false := by decide
  have htext : FileText text ([] ++ .rule a :: [.next] ++ .rule b :: []) :=
    .rule (List.all_eq_true.1 (by decide)) (by simpa using hletter.1) hfirst
      (by simp [notLineFeed])
      (.space hfeed (.directive .next blanks_nil (by simp [notBreak])
        (.space hfeed (.rule (List.all_eq_true.1 (by decide)) (by simpa using hletter.2) hsecond
          (by simp) .nil))))
  have hload : RuleSet.ofPlain ⟨"t", [], text⟩ =
      .ok ((RuleSet.start none).insertAll [(OrderKey.zero, a), (OrderKey.zero.next, b)]) := by
    refine htext.ofPlain_iff.2 ⟨?_, ?_, rfl⟩
    · exact startsFirst_of_none (by simp [Line.start?])
    · intro e _ low hlow
      cases hlow
  obtain ⟨ahead, behind, others, others', hrules, hahead, hbehind, hothers⟩ :=
    batches_in_sequence.2 _ _ [] [.next] [] a b htext hload (by simp) (by simp) (by decide)
  obtain ⟨ahead', behind', hrun, hfront, hback⟩ :=
    batches_in_sequence.1 RuleSet.new [.insertHere a] [.insertHere b]
      (by simp [RuleSet.Change.AtCursor]) (by simp [RuleSet.Change.AtCursor])
  exact ⟨_, a, b, ha, hb, hload, ⟨_, _, _, _, hrules, hahead, hbehind, hothers⟩, _, _, hrun,
    hfront, hback⟩

/-- At the greatest key a rule of higher priority gets ahead of one inserted before the advance. -/
theorem batches_at_greatest : ∃ a b, a ≠ b ∧
    Rule.ofPattern "a" .last true (some "A") = .ok a ∧
    Rule.ofPattern "b" .immediate true (some "B") = .ok b ∧
    ((RuleSet.startingAt OrderKey.greatest).run [.insertHere a, .advance, .insertHere b]).rules =
      [b, a] ∧
    (RuleSet.ofPlain (Cursor.ofText "t"
      "@start 2147483647\nend A ::= a\n@next\nimmediate B ::= b")).toOption.map (·.rules) =
      some [b, a] := by
  have hcompiles : (Regex.compile "a").isOk = true ∧ (Regex.compile "b").isOk = true := by decide
  obtain ⟨a, ha⟩ := Rule.exists_ofPattern hcompiles.1 .last true (some "A")
  obtain ⟨b, hb⟩ := Rule.exists_ofPattern hcompiles.2 .immediate true (some "B")
  have heval : ((Rule.ofPattern "a" .last true (some "A")).toOption.bind fun a =>
      (Rule.ofPattern "b" .immediate true (some "B")).toOption.map fun b =>
        decide (a ≠ b ∧
          ((RuleSet.startingAt OrderKey.greatest).run
            [.insertHere a, .advance, .insertHere b]).rules = [b, a] ∧
          (RuleSet.ofPlain (Cursor.ofText "t"
            "@start 2147483647\nend A ::= a\n@next\nimmediate B ::= b")).toOption.map (·.rules) =
            some [b, a])) = some true := by decide +kernel
  rw [ha, hb] at heval
  obtain ⟨hne, hrules, hload⟩ := of_decide_eq_true (Option.some.inj heval)
  exact ⟨a, b, hne, ha, hb, hrules, hload⟩

end OrderedLexer.RuleFile.Plain
