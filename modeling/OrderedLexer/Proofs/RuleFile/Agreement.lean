import OrderedLexer.Proofs.RuleFile.Plain.Writing
import OrderedLexer.Proofs.RuleFile.ReadBack
import OrderedLexer.Proofs.RuleFile.Reachable
import OrderedLexer.Proofs.RuleFile.Spelling

namespace OrderedLexer.RuleSet

open RuleFile.Plain

/-!
# Rules are supplied in three ways

Rules with their orders are inserted one by one, listed in a rule file in JSON, or written in a
plain rule file. All three come to the same rule set, or fail because of the same rule.

* `Lists` — a JSON text lists rules with their orders, and a floor;
* `lists_print` — every rule file is listed by a text;
* `ofJson_of_lists` — a listing is loaded as its rules are inserted;
* `supply_agrees` — inserting, listing and writing agree.
-/

variable {start : Option OrderKey} {entries : List (OrderKey × Rule)}

/-- A JSON text lists rules with their orders, and a floor. The rules of one order may stand in one
    group or in several. -/
def Lists (start : Option OrderKey) (entries : List (OrderKey × Rule)) (text : String) : Prop :=
  ∃ file, RuleFile.Tells text file ∧ file.start = start ∧ file.entries = entries

/-- Every rule file is listed by the text printed for it. -/
theorem lists_print {layout : Json.Layout} (h : layout.Blank) (file : RuleFile) :
    Lists file.start file.entries (file.toJson.print layout) := by
  have hread := RuleFile.ofJson?_print h file Json.Reader.blanks_nil Json.Reader.blanks_nil
  rw [List.nil_append, List.append_nil, String.ofList_toList] at hread
  exact ⟨file, RuleFile.ofJson?_eq_ok_iff.1 hread, rfl, rfl⟩

/-- A listing is loaded as its rules are inserted. -/
theorem ofJson_of_lists (origin : String) {text : String} (h : Lists start entries text) :
    ofJson (Cursor.ofText origin text) =
      ((RuleSet.start start).insertAll? entries).mapError .invalidOrder := by
  obtain ⟨file, htells, rfl, rfl⟩ := h
  have htext : String.ofList (Cursor.ofText origin text).text = text := String.ofList_toList
  rw [← RuleFile.ofJson?_eq_ok_iff, ← htext] at htells
  exact ofJson_of_ok htells

/-- **Agreement.** Take any rules that fit into lines, each with an order, and a floor or none. They
    are written by some plain text, and every rule file that groups them is listed by its printed
    text. Whichever texts list and write them,

    * inserting them one by one, loading the listing and loading the plain text all succeed, with
      one and the same rule set; or
    * there is a floor, and all three fail because of the first rule whose order lies below it, with
      the same two orders. The fault of the plain text spans this rule. -/
theorem supply_agrees (start : Option OrderKey) (entries : List (OrderKey × Rule))
    (hwritable : ∀ e ∈ entries, Writable e.2) :
    (∃ plain, Writes start entries plain) ∧
    (∀ (file : RuleFile) (layout : Json.Layout), layout.Blank → file.start = start →
      file.entries = entries → Lists start entries (file.toJson.print layout)) ∧
    ∀ origin json plain : String, Lists start entries json → Writes start entries plain.toList →
      (∃ set, (RuleSet.start start).insertAll? entries = .ok set ∧
        ofJson (Cursor.ofText origin json) = .ok set ∧
        ofPlain (Cursor.ofText origin plain) = .ok set) ∨
      ∃ done key r more low, entries = done ++ (key, r) :: more ∧ start = some low ∧
        (∀ e ∈ done, low ≤ e.1) ∧ key < low ∧
        (RuleSet.start start).insertAll? entries = .error ⟨key, low⟩ ∧
        ofJson (Cursor.ofText origin json) = .error (.invalidOrder ⟨key, low⟩) ∧
        ∃ location, ofPlain (Cursor.ofText origin plain) =
            .error (.plain (.invalidOrder ⟨key, low⟩) location) ∧
          LocatesRule origin plain.toList done r location := by
  refine ⟨exists_writes start hwritable, fun file layout hlayout hstart hentries => ?_,
    fun origin json plain hjson hplain => ?_⟩
  · rw [← hstart, ← hentries]
    exact lists_print hlayout file
  have hload := ofJson_of_lists origin hjson
  cases hinsert : (RuleSet.start start).insertAll? entries with
  | ok set =>
    obtain ⟨hfloor, rfl⟩ := insertAll?_eq_ok_iff.1 hinsert
    rw [hinsert] at hload
    exact .inl ⟨_, rfl, hload, ofPlain_of_writes origin hplain hfloor⟩
  | error e =>
    obtain ⟨done, key, r, more, rfl, hdone, hrefused⟩ := insertAll?_eq_error_iff.1 hinsert
    obtain ⟨low, hlow, hlt, rfl⟩ := insert?_eq_error_iff.1 hrefused
    rw [hinsert] at hload
    have hstart : start = some low := hlow
    have hfloor : ∀ e ∈ done, low ≤ e.1 := fun e he =>
      (not_below_start_iff start e.1).1 (hdone e he) low hstart
    exact .inr ⟨done, key, r, more, low, rfl, hstart, hfloor, hlt, rfl, hload,
      ofPlain_of_writes_below origin hplain hdone hrefused⟩

/-- The second rule lies below the floor, however the rules are supplied. -/
theorem supply_agrees_below : ∃ a b, Rule.ofPattern "a" .natural true (some "A") = .ok a ∧
    Rule.ofPattern "b" .last true (some "B") = .ok b ∧
    (RuleSet.start (some OrderKey.zero.next)).insertAll?
        [(OrderKey.zero.next.next, a), (OrderKey.zero, b)] =
      .error ⟨OrderKey.zero, OrderKey.zero.next⟩ ∧
    (∃ json, Lists (some OrderKey.zero.next)
        [(OrderKey.zero.next.next, a), (OrderKey.zero, b)] json ∧
      ofJson (Cursor.ofText "rules" json) =
        .error (.invalidOrder ⟨OrderKey.zero, OrderKey.zero.next⟩)) ∧
    ∃ location, ofPlain (Cursor.ofText "rules" "@start 1\n@next\nA::=a\n@order 0\nend B::=b") =
      .error (.plain (.invalidOrder ⟨OrderKey.zero, OrderKey.zero.next⟩) location) := by
  have hcompiles : (Regex.compile "a").isOk = true ∧ (Regex.compile "b").isOk = true := by decide
  obtain ⟨a, ha⟩ := Rule.exists_ofPattern hcompiles.1 .natural true (some "A")
  obtain ⟨b, hb⟩ := Rule.exists_ofPattern hcompiles.2 .last true (some "B")
  have hA : IsWord "A" := ⟨by decide, List.all_eq_true.1 (by decide)⟩
  have hB : IsWord "B" := ⟨by decide, List.all_eq_true.1 (by decide)⟩
  have hend : IsWord "end" := ⟨by decide, List.all_eq_true.1 (by decide)⟩
  have hwritable : ∀ e ∈ [(OrderKey.zero.next.next, a), (OrderKey.zero, b)], Writable e.2 := by
    obtain ⟨hpattern, -, -, hname⟩ := Rule.ofPattern_eq_ok_iff.1 ha
    obtain ⟨hpattern', -, -, hname'⟩ := Rule.ofPattern_eq_ok_iff.1 hb
    have hwritableA : Writable a := by
      refine ⟨⟨"A", hname, hA⟩, ?_, ?_, ?_, ?_⟩ <;> simp [hpattern, isBlank]
    have hwritableB : Writable b := by
      refine ⟨⟨"B", hname', hB⟩, ?_, ?_, ?_, ?_⟩ <;> simp [hpattern', isBlank]
    simp [hwritableA, hwritableB]
  have hplain : Writes (some OrderKey.zero.next)
      [(OrderKey.zero.next.next, a), (OrderKey.zero, b)]
      "@start 1\n@next\nA::=a\n@order 0\nend B::=b".toList := by
    have hstart : DirectiveText ("@start".toList ++ [' '] ++ ['1']) (.start OrderKey.zero.next) :=
      .start blanks_space (.plain (by decide) (List.all_eq_true.1 (by decide)) (by decide))
        (wordEnds_space ['1'])
    have horder : DirectiveText ("@order".toList ++ [' '] ++ ['0']) (.order OrderKey.zero) :=
      .order blanks_space (.plain (by decide) (List.all_eq_true.1 (by decide)) (by decide))
        (wordEnds_space ['0'])
    have hnameA : WordsText ([] ++ "A".toList ++ spaced []) ([] ++ ["A"]) :=
      .cons_word blanks_nil hA (wordEnds_spaced []) (.nil blanks_nil)
    have hruleA : RuleText ([] ++ "A".toList ++ spaced [] ++ "::=".toList ++ [] ++ ['a']) a :=
      .mk hnameA .none blanks_nil (by decide) (by simp [isBlank]) ha
    have hnameB : WordsText ([] ++ "end".toList ++ spaced ["B"]) ([Priority.last.name] ++ ["B"]) :=
      .cons_word blanks_nil hend (wordEnds_spaced ["B"]) (wordsText_spaced (by simpa using hB))
    have hruleB : RuleText ([] ++ "end".toList ++ spaced ["B"] ++ "::=".toList ++ [] ++ ['b']) b :=
      .mk hnameB (.priority .last) blanks_nil (by decide) (by simp [isBlank]) hb
    refine ⟨[.start OrderKey.zero.next, .next, .rule a, .order OrderKey.zero, .rule b],
      ?_, ?_, rfl, rfl⟩
    · exact .cons (.directive hstart blanks_nil) (.cons (.directive .next blanks_nil)
        (.cons (.rule hruleA) (.cons (.directive horder blanks_nil) (.cons (.rule hruleB) .nil))))
    · simp [StartsFirst, Line.rule?, Line.start?]
  obtain ⟨-, hlists, hagree⟩ := supply_agrees _ _ hwritable
  have hjson := hlists ⟨some OrderKey.zero.next,
    [⟨OrderKey.zero.next.next, [a]⟩, ⟨OrderKey.zero, [b]⟩]⟩ .compact Json.blank_compact rfl rfl
  have hrefused : (RuleSet.start (some OrderKey.zero.next)).insertAll?
        [(OrderKey.zero.next.next, a), (OrderKey.zero, b)] =
      .error ⟨OrderKey.zero, OrderKey.zero.next⟩ := rfl
  refine ⟨a, b, ha, hb, hrefused, ?_⟩
  rcases hagree "rules" _ _ hjson hplain with ⟨set, hok, -⟩ |
    ⟨_, key, _, _, low, -, -, -, -, herror, hload, location, hread, -⟩
  · rw [hrefused] at hok
    contradiction
  · obtain ⟨rfl, rfl⟩ := InvalidOrder.mk.inj (Except.error.inj (herror.symm.trans hrefused))
    exact ⟨⟨_, hjson, hload⟩, location, hread⟩

end OrderedLexer.RuleSet
