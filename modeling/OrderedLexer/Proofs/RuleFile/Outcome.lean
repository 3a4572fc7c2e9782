import OrderedLexer.Proofs.RuleFile.Listing
import OrderedLexer.Proofs.RuleFile.ReadBack
import OrderedLexer.Proofs.RuleFile.Spelling

namespace OrderedLexer.RuleSet

/-!
# What comes of a rule file in JSON

A rule file in JSON is read to its end before any rule is inserted. So a fault of the text anywhere
comes before a rule below the floor.

* `ofJson_outcome` — the error or the rule set, for every text.
-/

/-- **Outcome.** A text that tells no rule file is malformed, whatever rules stand in it. For a text
    that tells one,

    * loading it fails exactly if it has a start and some group has rules and lies below the start;
    * the error tells the order of the first such group, and the start;
    * otherwise the rule set holds what the file lists. -/
theorem ofJson_outcome (origin text : String) :
    ((∀ file, ¬ RuleFile.Tells text file) ↔
      ∃ fault, ofJson (Cursor.ofText origin text) = .error (.json origin fault)) ∧
    ∀ file, RuleFile.Tells text file →
      ((∃ e, ofJson (Cursor.ofText origin text) = .error e) ↔
        ∃ low, file.start = some low ∧ ∃ g ∈ file.groups, g.Refused low) ∧
      (∀ e, ofJson (Cursor.ofText origin text) = .error e ↔
        ∃ low front g back, file.start = some low ∧ file.groups = front ++ g :: back ∧
          g.Refused low ∧ (∀ g' ∈ front, ¬ g'.Refused low) ∧ e = .invalidOrder ⟨g.order, low⟩) ∧
      ∀ set, ofJson (Cursor.ofText origin text) = .ok set ↔
        (∀ low, file.start = some low → ∀ g ∈ file.groups, ¬ g.Refused low) ∧ file.Holds set := by
  have htext : String.ofList (Cursor.ofText origin text).text = text := String.ofList_toList
  have hfile : ∀ file, RuleFile.Tells text file →
      ofJson (Cursor.ofText origin text) = file.toRuleSet?.mapError .invalidOrder := by
    intro file htells
    rw [← RuleFile.ofJson?_eq_ok_iff, ← htext] at htells
    exact ofJson_of_ok htells
  refine ⟨⟨fun hnone => ?_, ?_⟩, fun file htells => ?_⟩
  · cases hread : RuleFile.ofJson? text with
    | ok file => exact absurd (RuleFile.ofJson?_eq_ok_iff.1 hread) (hnone file)
    | error fault =>
      rw [← htext] at hread
      exact ⟨fault, ofJson_of_error hread⟩
  · rintro ⟨fault, hfault⟩ file htells
    rw [hfile file htells, mapError_eq_error_iff] at hfault
    obtain ⟨_, -, hfault⟩ := hfault
    cases hfault
  · have hload := hfile file htells
    have hok : ∀ set, ofJson (Cursor.ofText origin text) = .ok set ↔
        (∀ low, file.start = some low → ∀ g ∈ file.groups, ¬ g.Refused low) ∧ file.Holds set := by
      intro set
      rw [hload, mapError_eq_ok_iff, RuleFile.toRuleSet?_eq_ok_iff]
    have herror : ∀ e, ofJson (Cursor.ofText origin text) = .error e ↔
        ∃ low front g back, file.start = some low ∧ file.groups = front ++ g :: back ∧
          g.Refused low ∧ (∀ g' ∈ front, ¬ g'.Refused low) ∧
            e = .invalidOrder ⟨g.order, low⟩ := by
      intro e
      rw [hload, mapError_eq_error_iff]
      constructor
      · rintro ⟨refused, hrefused, rfl⟩
        obtain ⟨low, front, g, back, hlow, hgroups, hg, hfront, rfl⟩ :=
          RuleFile.toRuleSet?_eq_error_iff.1 hrefused
        exact ⟨low, front, g, back, hlow, hgroups, hg, hfront, rfl⟩
      · rintro ⟨low, front, g, back, hlow, hgroups, hg, hfront, rfl⟩
        exact ⟨⟨g.order, low⟩, RuleFile.toRuleSet?_eq_error_iff.2
          ⟨low, front, g, back, hlow, hgroups, hg, hfront, rfl⟩, rfl⟩
    refine ⟨⟨?_, ?_⟩, herror, hok⟩
    · rintro ⟨e, he⟩
      obtain ⟨low, front, g, back, hlow, hgroups, hg, -⟩ := (herror e).1 he
      exact ⟨low, hlow, g, by simp [hgroups], hg⟩
    · rintro ⟨low, hlow, g, hmem, hg⟩
      cases hset : ofJson (Cursor.ofText origin text) with
      | error e => exact ⟨e, rfl⟩
      | ok set => exact absurd hg (((hok set).1 hset).1 low hlow g hmem)

/-- A rule below the floor is refused, unless the text is malformed behind it. A group without rules
    may lie there. -/
theorem ofJson_outcome_below :
    (∃ fault, ofJson (Cursor.ofText "rules.json" "[1, [[0, [[\"a\"]]], ]]") =
      .error (.json "rules.json" fault)) ∧
    ∃ r, Rule.ofPattern "a" = .ok r ∧
      ofJson (Cursor.ofText "rules.json" (RuleFile.toJson ⟨some OrderKey.zero.next,
          [⟨OrderKey.zero, []⟩, ⟨OrderKey.zero.next, [r]⟩, ⟨OrderKey.zero, [r]⟩]⟩ |>.print
            .compact)) =
        .error (.invalidOrder ⟨OrderKey.zero, OrderKey.zero.next⟩) := by
  have hcompiles : (Regex.compile "a").isOk = true := by decide
  obtain ⟨r, hr⟩ := Rule.exists_ofPattern hcompiles .natural true none
  have hread := RuleFile.ofJson?_print Json.blank_compact ⟨some OrderKey.zero.next,
    [⟨OrderKey.zero, []⟩, ⟨OrderKey.zero.next, [r]⟩, ⟨OrderKey.zero, [r]⟩]⟩
    Json.Reader.blanks_nil Json.Reader.blanks_nil
  rw [List.nil_append, List.append_nil, String.ofList_toList] at hread
  refine ⟨(ofJson_outcome "rules.json" _).1.1 fun file htells => ?_, r, hr, ?_⟩
  · have hfault : RuleFile.ofJson? "[1, [[0, [[\"a\"]]], ]]" = .error .trailingComma := by
      decide +kernel
    rw [RuleFile.ofJson?_eq_ok_iff.2 htells] at hfault
    cases hfault
  · refine (((ofJson_outcome "rules.json" _).2 _ (RuleFile.ofJson?_eq_ok_iff.1 hread)).2.1 _).2
      ⟨_, [⟨OrderKey.zero, []⟩, ⟨OrderKey.zero.next, [r]⟩], _, [], rfl, rfl, ?_, ?_, rfl⟩
    · have hbelow : OrderKey.zero < OrderKey.zero.next := by decide
      exact ⟨List.cons_ne_nil r [], hbelow⟩
    · have hnot : ¬ OrderKey.zero.next < OrderKey.zero.next := by decide
      simp [RuleFile.Group.Refused, hnot]

end OrderedLexer.RuleSet
