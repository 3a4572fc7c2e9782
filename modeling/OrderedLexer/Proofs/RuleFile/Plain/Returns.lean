import OrderedLexer.Proofs.RuleFile.Plain.Meaning

namespace OrderedLexer.RuleFile.Plain

/-!
# What any plain text says

A carriage return may stand anywhere in a text: it ends a directive, but not a rule. So a text in
which one stands inside a line is told statement by statement, not line by line.

* `FileText` — what a text says, statement by statement;
* `fileText_drop_iff` — what is skipped before a statement says nothing;
* `fileText_of_statement`, `FileText.statement` — a statement that is read is said, and one that is
  said is read exactly if it can be done;
* `exists_fileText`, `FileText.statements_iff` — so are the statements of a text;
* `FileText.ofPlain_iff` — the rule set of any plain text.
-/

variable {draft draft' : Draft} {c c' : Cursor} {line : Line} {lines : List Line}
  {text rest ws : List Char} {set : RuleSet}

/-- What a text says, statement by statement. Whitespace and comments say nothing. A directive ends
    before a line feed or a carriage return, a rule before a line feed only. -/
inductive FileText : List Char → List Line → Prop
  | nil : FileText [] []
  | space {ch : Char} {text : List Char} {lines : List Line} : Unicode.isWhitespace ch = true →
      FileText text lines → FileText (ch :: text) lines
  | comment {text rest : List Char} {lines : List Line} : (∀ ch ∈ text, notLineFeed ch = true) →
      (∀ ch ∈ rest.head?, notLineFeed ch = false) → FileText rest lines →
      FileText ('#' :: text ++ rest) lines
  | directive {text ws rest : List Char} {line : Line} {lines : List Line} :
      DirectiveText text line → Blanks ws → (∀ ch ∈ rest.head?, notBreak ch = false) →
      FileText rest lines → FileText (text ++ ws ++ rest) (line :: lines)
  | rule {text rest : List Char} {r : Rule} {lines : List Line} :
      (∀ ch ∈ text, notLineFeed ch = true) →
      (∀ ch ∈ text.head?, Unicode.isWhitespace ch = false) → RuleText (trimReturn text) r →
      (∀ ch ∈ rest.head?, notLineFeed ch = false) → FileText rest lines →
      FileText (text ++ rest) (.rule r :: lines)

/-! ### What is skipped -/

/-- Where a statement starts, nothing is skipped. -/
theorem blankLength_eq_zero {ch : Char} (hspace : Unicode.isWhitespace ch = false)
    (hcomment : ch ≠ '#') (text : List Char) : blankLength false (ch :: text) = 0 := by
  rw [blankLength, if_neg hcomment, if_neg (by simp [hspace])]

/-- A comment is skipped to the end of its line. -/
theorem drop_comment (htext : ∀ ch ∈ text, notLineFeed ch = true)
    (hrest : ∀ ch ∈ rest.head?, notLineFeed ch = false) :
    (text ++ rest).drop (blankLength true (text ++ rest)) = rest.drop (blankLength false rest) := by
  induction text with
  | nil =>
    cases rest with
    | nil => rfl
    | cons ch rest =>
      obtain rfl : ch = '\n' := by simpa [notLineFeed] using hrest ch rfl
      rfl
  | cons ch text ih =>
    obtain ⟨hch, htext⟩ := List.forall_mem_cons.1 htext
    have hline : (ch != '\n') = true := hch
    rw [List.cons_append, blankLength, hline, List.drop_succ_cons]
    exact ih htext

/-- A rule starts where nothing is skipped. -/
theorem exists_cons_of_rule {r : Rule}
    (hspace : ∀ ch ∈ text.head?, Unicode.isWhitespace ch = false)
    (h : RuleText (trimReturn text) r) :
    ∃ ch cs, text = ch :: cs ∧ Unicode.isWhitespace ch = false ∧ ch ≠ '#' := by
  obtain ⟨cr, htext, -⟩ := exists_trimReturn_append text
  obtain ⟨ch, cs, hcs, hch⟩ := h.exists_cons
  rw [hcs] at htext
  rw [htext] at hspace ⊢
  refine ⟨ch, cs ++ cr, rfl, hspace ch rfl, ?_⟩
  rintro rfl
  exact absurd hch (by decide)

/-- Behind what is skipped before a statement, the text says the same. -/
theorem FileText.drop (h : FileText text lines) :
    FileText (text.drop (blankLength false text)) lines := by
  induction h with
  | nil => exact .nil
  | @space ch text lines hspace _ ih =>
    have hcomment : ch ≠ '#' := by
      rintro rfl
      exact absurd hspace (by decide)
    rw [blankLength, if_neg hcomment, if_pos hspace, List.drop_succ_cons]
    exact ih
  | comment htext hrest _ ih =>
    rw [List.cons_append, blankLength, if_pos rfl, List.drop_succ_cons, drop_comment htext hrest]
    exact ih
  | @directive text ws rest line lines htext hws hrest hmore ih =>
    have hdirective := FileText.directive htext hws hrest hmore
    obtain ⟨cs, rfl⟩ := htext.exists_cons
    rw [List.cons_append, List.cons_append] at hdirective ⊢
    rw [blankLength_eq_zero (by decide) (by decide), List.drop_zero]
    exact hdirective
  | @rule text rest r lines hline hspace htext hrest hmore ih =>
    have hrule := FileText.rule hline hspace htext hrest hmore
    obtain ⟨ch, cs, rfl, hch, hcomment⟩ := exists_cons_of_rule hspace htext
    rw [List.cons_append] at hrule ⊢
    rw [blankLength_eq_zero hch hcomment, List.drop_zero]
    exact hrule

/-- What is said behind what is skipped, the text says; inside a comment, behind its end. -/
theorem fileText_of_drop (text : List Char) :
    (FileText (text.drop (blankLength false text)) lines → FileText text lines) ∧
    (FileText (text.drop (blankLength true text)) lines →
      FileText (text.dropWhile notLineFeed) lines) := by
  -- Both at once: `#` leads from the first to the second, the end of the line back.
  induction text with
  | nil => exact ⟨id, id⟩
  | cons ch text ih =>
    constructor
    · unfold blankLength
      intro h
      by_cases hcomment : ch = '#'
      · subst hcomment
        rw [if_pos rfl, List.drop_succ_cons] at h
        have hline : ∀ ch ∈ text.takeWhile notLineFeed, notLineFeed ch = true :=
          fun ch hch => List.mem_takeWhile_imp hch
        have hmore := FileText.comment hline (head?_dropWhile notLineFeed text) (ih.2 h)
        rwa [List.cons_append, List.takeWhile_append_dropWhile] at hmore
      · rw [if_neg hcomment] at h
        by_cases hspace : Unicode.isWhitespace ch = true
        · rw [if_pos hspace, List.drop_succ_cons] at h
          exact .space hspace (ih.1 h)
        · rwa [if_neg hspace, List.drop_zero] at h
    · unfold blankLength
      rw [List.drop_succ_cons]
      intro h
      by_cases hfeed : ch = '\n'
      · subst hfeed
        rw [List.dropWhile_cons_of_neg (by decide)]
        exact .space (by decide) (ih.1 h)
      · have hline : (ch != '\n') = true := by simpa using hfeed
        have hnot : notLineFeed ch = true := hline
        rw [hline] at h
        rw [List.dropWhile_cons_of_pos hnot]
        exact ih.2 h

/-- What is skipped before a statement says nothing. -/
theorem fileText_drop_iff :
    FileText (text.drop (blankLength false text)) lines ↔ FileText text lines :=
  ⟨(fileText_of_drop text).1, FileText.drop⟩

/-! ### Statements -/

/-- A statement that is read is said, before what is said behind it. -/
theorem fileText_of_statement (hstart : ∀ ch ∈ c.ahead.head?, Unicode.isWhitespace ch = false)
    (h : statement draft c = .ok (draft', c')) :
    ∃ line, Step draft line draft' ∧
      ∀ lines, FileText c'.ahead lines → FileText c.ahead (line :: lines) := by
  rcases statement_eq_ok_iff.1 h with ⟨rest, hskip, hdirective⟩ | ⟨-, hrule⟩
  · obtain ⟨text, ws, line, htext, hws, hstep, hahead, -, hbreak⟩ := directive_text hdirective
    have hat : c.ahead = '@' :: rest.ahead := Cursor.ahead_eq_of_skip? hskip
    rw [hat, hahead]
    exact ⟨line, hstep, fun lines => .directive htext hws hbreak⟩
  · obtain ⟨r, htext, hstep, hrest⟩ := rule_line hrule
    refine ⟨.rule r, hstep, fun lines hmore => ?_⟩
    rw [hrest] at hmore
    rw [← List.takeWhile_append_dropWhile (p := notLineFeed) (l := c.ahead)] at hstart ⊢
    exact .rule (fun ch hch => List.mem_takeWhile_imp hch)
      (fun ch hch => hstart ch (mem_head?_append hch _)) htext (head?_dropWhile _ _) hmore

/-- A directive that is read does what it says. -/
theorem step_of_directive {start : Nat} (htext : DirectiveText text line) (hws : Blanks ws)
    (hc : '@' :: c.ahead = text ++ ws ++ rest) (hrest : ∀ ch ∈ rest.head?, notBreak ch = false)
    (h : directive draft start c = .ok (draft', c')) :
    Step draft line draft' ∧ c'.ahead = rest := by
  -- The directive can be done, so what is read is what it does.
  have hdone : ∀ {next}, Step draft line next → Step draft line draft' ∧ c'.ahead = rest := by
    intro next hstep
    obtain ⟨after, hread, hafter⟩ := exists_directive start htext hws hstep hc hrest
    obtain ⟨rfl, rfl⟩ := Prod.mk.inj (Except.ok.inj (hread.symm.trans h))
    exact ⟨hstep, hafter⟩
  cases htext with
  | next => exact hdone .next
  | order _ _ _ => exact hdone (.order _)
  | @start ws' number key hws' hnumber hends =>
    have hahead : c.ahead = "start".toList ++ (ws' ++ (number ++ (ws ++ rest))) := by
      simpa using hc
    obtain ⟨-, hword, -⟩ :=
      exists_number hahead (List.all_eq_true.1 (by decide)) hends hws' hnumber hws hrest
    obtain ⟨_, hargument, -⟩ := directive_eq_ok_iff.1 h
    rw [hword] at hargument
    rcases argument_eq_ok_iff.1 hargument with ⟨hother, -⟩ | ⟨hother, -⟩ | ⟨-, hempty, -⟩
    · exact absurd hother (by decide)
    · exact absurd hother (by decide)
    · exact hdone (.start key hempty)

/-- Where a statement starts, a text says a first line. It is read exactly if it can be done, and
    what is left says the lines behind it. -/
theorem FileText.statement (h : FileText c.ahead lines) (hne : c.ahead ≠ [])
    (hstart : ∀ ch ∈ c.ahead.head?, Unicode.isWhitespace ch = false ∧ ch ≠ '#') :
    ∃ line lines', lines = line :: lines' ∧ ∀ draft draft',
      (∀ c', statement draft c = .ok (draft', c') →
        Step draft line draft' ∧ FileText c'.ahead lines') ∧
      (Step draft line draft' → ∃ c', statement draft c = .ok (draft', c')) := by
  generalize hahead : c.ahead = ahead at h
  rw [hahead] at hne hstart
  cases h with
  | nil => exact absurd rfl hne
  | @space ch text _ hspace _ =>
    rw [(hstart ch rfl).1] at hspace
    contradiction
  | comment _ _ _ => exact absurd rfl (hstart '#' rfl).2
  | @directive text ws rest line lines htext hws hrest hmore =>
    obtain ⟨cs, hcs⟩ := htext.exists_cons
    have hat : c.ahead = "@".toList ++ (cs ++ ws ++ rest) := by
      rw [hahead, hcs]
      simp
    obtain ⟨after, hskip, hafter⟩ := Cursor.exists_skip? "@" hat
    have hc : '@' :: after.ahead = text ++ ws ++ rest := by
      rw [hafter, hcs]
      rfl
    refine ⟨line, lines, rfl, fun draft draft' => ⟨fun c' hread => ?_, fun hstep => ?_⟩⟩
    · rcases statement_eq_ok_iff.1 hread with ⟨after', hskip', hdirective⟩ | ⟨hnone, -⟩
      · obtain rfl : after = after' := Option.some.inj (hskip.symm.trans hskip')
        obtain ⟨hstep, rfl⟩ := step_of_directive htext hws hc hrest hdirective
        exact ⟨hstep, hmore⟩
      · rw [hskip] at hnone
        contradiction
    · obtain ⟨c', hdirective, -⟩ := exists_directive c.pos htext hws hstep hc hrest
      exact ⟨c', statement_eq_ok_iff.2 (.inl ⟨after, hskip, hdirective⟩)⟩
  | @rule text rest r lines hline hspace htext hrest hmore =>
    obtain ⟨htake, hdrop⟩ := takeWhile_dropWhile_append hline hrest
    obtain ⟨cr, hcr, -⟩ := exists_trimReturn_append text
    have hat : c.ahead = trimReturn text ++ (cr ++ rest) := by
      rw [hahead, ← List.append_assoc, ← hcr]
    have hnone := htext.skip?_eq_none hat
    rw [← htake, ← hahead] at htext
    obtain ⟨after, hafter, -, hread⟩ := exists_rule htext
    rw [hahead, hdrop] at hafter
    refine ⟨.rule r, lines, rfl, fun draft draft' => ⟨fun c' h => ?_, fun hstep => ?_⟩⟩
    · rcases statement_eq_ok_iff.1 h with ⟨_, hskip, -⟩ | ⟨-, hrule⟩
      · rw [hnone] at hskip
        contradiction
      · rw [hread draft] at hrule
        cases hinsert : draft.set.insert? draft.order r with
        | error e =>
          rw [hinsert] at hrule
          contradiction
        | ok set =>
          rw [hinsert] at hrule
          obtain ⟨rfl, rfl⟩ := Prod.mk.inj (Except.ok.inj hrule)
          rw [hafter]
          exact ⟨.rule hinsert, hmore⟩
    · cases hstep with
      | rule hinsert =>
        have hok := hread draft
        rw [hinsert] at hok
        exact ⟨after, statement_eq_ok_iff.2 (.inr ⟨hnone, hok⟩)⟩

/-! ### Files -/

/-- **Run.** A text of which all statements are read says something. -/
theorem exists_fileText (h : statements draft c = (draft', none)) :
    ∃ lines, FileText c.ahead lines := by
  fun_induction statements draft c with
  | case1 draft c c' hend =>
    have hnil : (skipBlankLines c).ahead = [] := by simpa [Cursor.isExhausted] using hend
    rw [skipBlankLines, Cursor.ahead_advanceBy] at hnil
    refine ⟨[], fileText_drop_iff.1 ?_⟩
    rw [hnil]
    exact .nil
  | case2 draft c c' hend next rest hread ih =>
    obtain ⟨lines, hlines⟩ := ih h
    obtain ⟨line, -, hmore⟩ :=
      fileText_of_statement (fun ch hch => (head?_drop c.ahead false ch hch).1) hread
    exact ⟨line :: lines, fileText_drop_iff.1 (hmore lines hlines)⟩
  | case3 draft c c' hend fault hread => cases h

/-- **Run.** All statements of a text are read exactly if what the text says can be done, with the
    same draft. -/
theorem FileText.statements_iff (h : FileText c.ahead lines) :
    statements draft c = (draft', none) ↔ Steps draft lines draft' := by
  have hskip : ∀ {c : Cursor} {lines},
      FileText c.ahead lines → FileText (skipBlankLines c).ahead lines :=
    fileText_drop_iff.2
  -- Induction along the statements, whatever they say: each is the first line that is said.
  revert lines
  fun_induction statements draft c with
  | case1 draft c c' =>
    rename_i hend
    intro lines h
    have hnil : (skipBlankLines c).ahead = [] := by simpa [Cursor.isExhausted] using hend
    have hmore := hskip h
    rw [hnil] at hmore
    generalize hempty : ([] : List Char) = empty at hmore
    cases hmore with
    | nil =>
      constructor
      · intro heq
        obtain ⟨rfl, -⟩ := Prod.mk.inj heq
        exact .nil draft
      · intro hsteps
        cases hsteps
        rfl
    | space _ _ => contradiction
    | comment _ _ _ => contradiction
    | directive htext _ _ _ =>
      obtain ⟨cs, rfl⟩ := htext.exists_cons
      contradiction
    | rule _ hspace htext _ _ =>
      obtain ⟨ch, cs, rfl, -⟩ := exists_cons_of_rule hspace htext
      contradiction
  | case2 draft c c' hend next rest hread =>
    rename_i ih
    intro lines h
    have hne : (skipBlankLines c).ahead ≠ [] := by simpa [Cursor.isExhausted] using hend
    obtain ⟨line, lines, rfl, hline⟩ := (hskip h).statement hne (head?_drop c.ahead false)
    obtain ⟨hstep, hmore⟩ := (hline draft next).1 rest hread
    refine (ih hmore).trans ⟨.cons hstep, fun hsteps => ?_⟩
    cases hsteps with
    | @cons _ next' _ _ _ hstep' hsteps =>
      obtain ⟨_, hread'⟩ := (hline draft next').2 hstep'
      obtain ⟨rfl, -⟩ := Prod.mk.inj (Except.ok.inj (hread.symm.trans hread'))
      exact hsteps
  | case3 draft c c' hend fault =>
    rename_i hread
    intro lines h
    have hne : (skipBlankLines c).ahead ≠ [] := by simpa [Cursor.isExhausted] using hend
    obtain ⟨line, lines, rfl, hline⟩ := (hskip h).statement hne (head?_drop c.ahead false)
    constructor
    · intro heq
      cases heq
    · intro hsteps
      cases hsteps with
      | @cons _ next _ _ _ hstep _ =>
        obtain ⟨_, hread'⟩ := (hline draft next).2 hstep
        rw [hread] at hread'
        contradiction

/-- **Files.** Any plain text is loaded exactly if it says lines of which no `@start` comes behind a
    rule and no rule stands in an order below the floor, and then as the rules inserted in
    sequence. -/
theorem FileText.ofPlain_iff {source : Cursor} (h : FileText source.ahead lines) :
    RuleSet.ofPlain source = .ok set ↔
      StartsFirst lines ∧
      (∀ e ∈ entriesFrom OrderKey.zero lines, ∀ low ∈ floorOf lines, low ≤ e.1) ∧
      set = (RuleSet.start (floorOf lines)).insertAll (entriesFrom OrderKey.zero lines) := by
  rw [ofPlain_eq_ok_iff_statements, ← steps_start_iff]
  simp only [h.statements_iff]

/-- A plain text that is loaded says something. -/
theorem exists_fileText_of_ofPlain {source : Cursor} (h : RuleSet.ofPlain source = .ok set) :
    ∃ lines, FileText source.ahead lines := by
  obtain ⟨draft, hread, -⟩ := ofPlain_eq_ok_iff_statements.1 h
  exact exists_fileText hread

end OrderedLexer.RuleFile.Plain
