import OrderedLexer.Proofs.RuleFile.Plain.Spelling

namespace OrderedLexer.RuleFile.Plain

/-!
# Plain rule files are read line by line

The reader goes from statement to statement, not from line to line. Still, what it accepts is told
by the lines ahead.

* `Accepts` — the lines of a text take one draft to another;
* `linesOf_eq` — the first line of a text, and the lines behind it;
* `tells_drop` — the lines that are skipped before a statement change nothing;
* `accepts_statement` — the line of a statement does what the line says;
* `statements_eq_none_iff` — all statements are read exactly if the lines are accepted.
-/

variable {draft draft' : Draft} {c : Cursor} {line : Line} {text : List Char}
  {P : List Line → Prop}

/-- What lines do to a draft, one after the other. -/
inductive Steps : Draft → List Line → Draft → Prop
  | nil (draft : Draft) : Steps draft [] draft
  | cons {draft draft' draft'' : Draft} {line : Line} {lines : List Line} :
      Step draft line draft' → Steps draft' lines draft'' → Steps draft (line :: lines) draft''

/-- The lines of a text say what satisfies `P`. -/
def Tells (P : List Line → Prop) (text : List Char) : Prop :=
  ∃ lines, List.Forall₂ (LineText Blanks) (linesOf text) lines ∧ P lines

/-- The lines of a text take one draft to another. -/
def Accepts (draft : Draft) (text : List Char) (draft' : Draft) : Prop :=
  ∃ lines, List.Forall₂ (LineText Blanks) (linesOf text) lines ∧ Steps draft lines draft'

/-! ### Lines that say nothing -/

theorem lineText_nil_iff : LineText Blanks [] line ↔ line = .nothing := by
  constructor
  · intro h
    generalize htext : ([] : List Char) = text at h
    cases h with
    | empty => rfl
    | comment _ => rfl
    | directive hdirective _ =>
      obtain ⟨cs, rfl⟩ := hdirective.exists_cons
      contradiction
    | rule hrule =>
      obtain ⟨ch, cs, rfl, -⟩ := hrule.exists_cons
      contradiction
  · rintro rfl
    exact .empty

theorem lineText_comment_iff {cs : List Char} :
    LineText Blanks ('#' :: cs) line ↔ line = .nothing := by
  constructor
  · intro h
    generalize htext : '#' :: cs = text at h
    cases h with
    | empty => rfl
    | comment _ => rfl
    | directive hdirective _ =>
      obtain ⟨cs', rfl⟩ := hdirective.exists_cons
      exact absurd (List.cons.inj htext).1 (by decide)
    | rule hrule =>
      obtain ⟨ch, cs', rfl, hch⟩ := hrule.exists_cons
      rw [← (List.cons.inj htext).1] at hch
      exact absurd hch (by decide)
  · rintro rfl
    exact .comment cs

/-- A line that says nothing is empty or a comment. -/
theorem eq_of_lineText_nothing {ch : Char} {cs : List Char}
    (h : LineText Blanks (ch :: cs) .nothing) : ch = '#' := by
  generalize htext : ch :: cs = text at h
  cases h with
  | empty => contradiction
  | comment _ => exact (List.cons.inj htext).1
  | directive hdirective _ => cases hdirective

/-- A first line that says nothing does nothing. -/
theorem steps_nothing_iff {lines : List Line} :
    Steps draft (.nothing :: lines) draft' ↔ Steps draft lines draft' := by
  constructor
  · intro h
    cases h with
    | cons hstep hsteps =>
      cases hstep
      exact hsteps
  · exact .cons .nothing

/-- A first line that says nothing is left out. -/
theorem tells_iff_of_nothing (hP : ∀ lines, P (.nothing :: lines) ↔ P lines) {first : List Char}
    {others : List (List Char)} (hlines : linesOf text = first :: others)
    (hfirst : ∀ line, LineText Blanks first line ↔ line = .nothing) :
    Tells P text ↔ ∃ lines, List.Forall₂ (LineText Blanks) others lines ∧ P lines := by
  unfold Tells
  rw [hlines]
  constructor
  · rintro ⟨lines, hall, hlinesP⟩
    cases hall with
    | @cons _ line _ lines hline hall =>
      obtain rfl := (hfirst line).1 hline
      exact ⟨lines, hall, (hP lines).1 hlinesP⟩
  · rintro ⟨lines, hall, hlinesP⟩
    exact ⟨.nothing :: lines, .cons ((hfirst _).2 rfl) hall, (hP lines).2 hlinesP⟩

/-! ### The first line -/

/-- A line feed ends an empty line. -/
theorem linesOf_feed (text : List Char) : linesOf ('\n' :: text) = [] :: linesOf text := by
  have hnil : '\n' ∉ ([] : List Char) := List.not_mem_nil
  have hcons := List.splitOn_append_cons_self_of_not_mem hnil text
  rw [List.nil_append] at hcons
  rw [linesOf, hcons]
  rfl

theorem trimReturn_cons_cons (ch x : Char) (line : List Char) :
    trimReturn (ch :: x :: line) = ch :: trimReturn (x :: line) :=
  trimReturn_append [ch] (List.cons_ne_nil x line)

/-- What starts with no whitespace still does as a line. -/
theorem exists_trimReturn_cons {ch : Char} (hspace : Unicode.isWhitespace ch = false)
    (text : List Char) : ∃ cs, trimReturn ((ch :: text).takeWhile notLineFeed) = ch :: cs := by
  obtain ⟨hfeed, hreturn⟩ := Bool.and_eq_true_iff.1 (notBreak_of_not_isWhitespace hspace)
  have hline : notLineFeed ch = true := hfeed
  rw [List.takeWhile_cons_of_pos hline]
  cases text.takeWhile notLineFeed with
  | nil =>
    have hne : ch ≠ '\r' := by simpa using hreturn
    exact ⟨[], by simp [trimReturn, hne]⟩
  | cons x line => exact ⟨trimReturn (x :: line), trimReturn_cons_cons ch x line⟩

/-- The first line of a text, and the lines behind it. -/
theorem linesOf_eq (text : List Char) :
    ∃ others, linesOf text =
        (trimReturn (text.takeWhile notLineFeed)).dropWhile Unicode.isWhitespace :: others ∧
      linesOf (text.dropWhile notLineFeed) = [] :: others := by
  have hline : ∀ ch ∈ text.takeWhile notLineFeed, notLineFeed ch = true :=
    fun ch hch => List.mem_takeWhile_imp hch
  have hsplit := text.takeWhile_append_dropWhile (p := notLineFeed)
  have hbehind := head?_dropWhile notLineFeed text
  generalize text.takeWhile notLineFeed = line at *
  generalize text.dropWhile notLineFeed = behind at *
  subst hsplit
  have hfeed : '\n' ∉ line := by
    intro hmem
    have := hline '\n' hmem
    contradiction
  cases behind with
  | nil =>
    refine ⟨[], ?_, rfl⟩
    rw [List.append_nil, linesOf, List.splitOn_eq_singleton hfeed]
    rfl
  | cons ch behind =>
    obtain rfl : ch = '\n' := by simpa [notLineFeed] using hbehind ch rfl
    refine ⟨linesOf behind, ?_, ?_⟩
    · rw [linesOf, List.splitOn_append_cons_self_of_not_mem hfeed]
      rfl
    · exact linesOf_feed behind

/-- Whitespace at the start of a line plays no part. -/
theorem linesOf_cons {ch : Char} (hspace : Unicode.isWhitespace ch = true) (hfeed : ch ≠ '\n')
    (text : List Char) : linesOf (ch :: text) = linesOf text := by
  obtain ⟨others, hlines, hbehind⟩ := linesOf_eq text
  obtain ⟨others', hlines', hbehind'⟩ := linesOf_eq (ch :: text)
  have hch : notLineFeed ch = true := by simpa [notLineFeed] using hfeed
  rw [List.takeWhile_cons_of_pos hch] at hlines'
  rw [List.dropWhile_cons_of_pos hch, hbehind] at hbehind'
  rw [hlines, hlines', (List.cons.inj hbehind').2]
  congr 1
  cases text.takeWhile notLineFeed with
  | nil =>
    by_cases hreturn : ch = '\r'
    · subst hreturn
      rfl
    · have htrim : trimReturn [ch] = [ch] := by simp [trimReturn, hreturn]
      rw [htrim, List.dropWhile_cons_of_pos hspace]
      rfl
  | cons x line =>
    -- A carriage return at the end is not the first character.
    rw [trimReturn_cons_cons, List.dropWhile_cons_of_pos hspace]

/-! ### What is skipped -/

/-- Whitespace changes nothing. -/
theorem tells_whitespace (hP : ∀ lines, P (.nothing :: lines) ↔ P lines) {ch : Char}
    (hspace : Unicode.isWhitespace ch = true) : Tells P (ch :: text) ↔ Tells P text := by
  by_cases hfeed : ch = '\n'
  · subst hfeed
    exact tells_iff_of_nothing hP (linesOf_feed text) fun line => lineText_nil_iff
  · unfold Tells
    rw [linesOf_cons hspace hfeed]

/-- A comment changes nothing. -/
theorem tells_comment (hP : ∀ lines, P (.nothing :: lines) ↔ P lines) :
    Tells P ('#' :: text) ↔ Tells P (text.dropWhile notLineFeed) := by
  obtain ⟨others, hlines, hbehind⟩ := linesOf_eq ('#' :: text)
  rw [List.dropWhile_cons_of_pos (by decide)] at hbehind
  have hspace : Unicode.isWhitespace '#' = false := by decide
  obtain ⟨cs, hcs⟩ := exists_trimReturn_cons hspace text
  rw [hcs, List.dropWhile_cons_of_neg (by simp [hspace])] at hlines
  rw [tells_iff_of_nothing hP hlines fun line => lineText_comment_iff,
    tells_iff_of_nothing hP hbehind fun line => lineText_nil_iff]

/-- What is skipped before a statement changes nothing; inside a comment, it is skipped to its end
    first. -/
theorem tells_drop (hP : ∀ lines, P (.nothing :: lines) ↔ P lines) (text : List Char) :
    (Tells P (text.drop (blankLength false text)) ↔ Tells P text) ∧
    (Tells P (text.drop (blankLength true text)) ↔ Tells P (text.dropWhile notLineFeed)) := by
  -- Both at once: `#` leads from the first to the second, the end of the line back.
  induction text with
  | nil => exact ⟨Iff.rfl, Iff.rfl⟩
  | cons ch text ih =>
    constructor
    · unfold blankLength
      by_cases hcomment : ch = '#'
      · subst hcomment
        rw [if_pos rfl, List.drop_succ_cons, ih.2, tells_comment hP]
      · rw [if_neg hcomment]
        by_cases hspace : Unicode.isWhitespace ch = true
        · rw [if_pos hspace, List.drop_succ_cons, ih.1, tells_whitespace hP hspace]
        · rw [if_neg hspace, List.drop_zero]
    · unfold blankLength
      rw [List.drop_succ_cons]
      by_cases hfeed : ch = '\n'
      · subst hfeed
        rw [List.dropWhile_cons_of_neg (by decide), tells_whitespace hP (by decide)]
        exact ih.1
      · have hline : (ch != '\n') = true := by simpa using hfeed
        have hnot : notLineFeed ch = true := hline
        rw [hline, List.dropWhile_cons_of_pos hnot]
        exact ih.2

/-- Behind a statement the lines go on, whether a carriage return is left or not. -/
theorem tells_behind (hP : ∀ lines, P (.nothing :: lines) ↔ P lines) {behind rest : List Char}
    (h : behind = rest ∨ behind = '\r' :: rest) : Tells P behind ↔ Tells P rest := by
  rcases h with rfl | rfl
  · exact Iff.rfl
  · exact tells_whitespace hP (by decide)

/-- What is skipped ends before a character that starts a statement. -/
theorem head?_drop (text : List Char) (comment : Bool) :
    ∀ ch ∈ (text.drop (blankLength comment text)).head?,
      Unicode.isWhitespace ch = false ∧ ch ≠ '#' := by
  induction text generalizing comment with
  | nil => simp
  | cons x text ih =>
    cases comment with
    | true =>
      unfold blankLength
      rw [List.drop_succ_cons]
      exact ih _
    | false =>
      unfold blankLength
      by_cases hcomment : x = '#'
      · rw [if_pos hcomment, List.drop_succ_cons]
        exact ih true
      · rw [if_neg hcomment]
        by_cases hspace : Unicode.isWhitespace x = true
        · rw [if_pos hspace, List.drop_succ_cons]
          exact ih false
        · rw [if_neg hspace, List.drop_zero]
          intro ch hch
          rw [← Option.some.inj hch]
          exact ⟨by simpa using hspace, hcomment⟩

/-! ### Statements -/

/-- A text that starts with no whitespace starts with its first line. -/
theorem linesOf_statement (hspace : ∀ ch ∈ text.head?, Unicode.isWhitespace ch = false) :
    ∃ others, linesOf text = trimReturn (text.takeWhile notLineFeed) :: others ∧
      linesOf (text.dropWhile notLineFeed) = [] :: others := by
  obtain ⟨others, hlines, hbehind⟩ := linesOf_eq text
  refine ⟨others, ?_, hbehind⟩
  rw [hlines]
  cases text with
  | nil => rfl
  | cons ch text =>
    have hch : Unicode.isWhitespace ch = false := hspace ch rfl
    obtain ⟨cs, hcs⟩ := exists_trimReturn_cons hch text
    rw [hcs, List.dropWhile_cons_of_neg (by simp [hch])]

/-- Where a statement starts, the first line is told with the lines behind it. -/
theorem tells_statement (hspace : ∀ ch ∈ text.head?, Unicode.isWhitespace ch = false) :
    Tells P text ↔ ∃ line, LineText Blanks (trimReturn (text.takeWhile notLineFeed)) line ∧
      ∃ lines, List.Forall₂ (LineText Blanks) (linesOf (text.dropWhile notLineFeed))
        (.nothing :: lines) ∧ P (line :: lines) := by
  obtain ⟨others, hlines, hbehind⟩ := linesOf_statement hspace
  unfold Tells
  rw [hlines, hbehind]
  constructor
  · rintro ⟨lines, hall, hP⟩
    cases hall with
    | @cons _ line _ lines hline hall =>
      exact ⟨line, hline, lines, .cons .empty hall, hP⟩
  · rintro ⟨line, hline, lines, hall, hP⟩
    cases hall with
    | cons _ hall => exact ⟨line :: lines, .cons hline hall, hP⟩

/-- Where nothing is left to skip, the line says something. -/
theorem ne_nothing (hstart : ∀ ch ∈ text.head?, Unicode.isWhitespace ch = false ∧ ch ≠ '#')
    (hne : text ≠ []) (hline : LineText Blanks (trimReturn (text.takeWhile notLineFeed)) line) :
    line ≠ .nothing := by
  rintro rfl
  obtain ⟨ch, text, rfl⟩ := List.exists_cons_of_ne_nil hne
  obtain ⟨hspace, hcomment⟩ := hstart ch rfl
  obtain ⟨cs, hcs⟩ := exists_trimReturn_cons hspace text
  rw [hcs] at hline
  exact hcomment (eq_of_lineText_nothing hline)

/-- The first line of a text that starts with no whitespace does what it says. -/
theorem accepts_statement (hspace : ∀ ch ∈ text.head?, Unicode.isWhitespace ch = false) :
    Accepts draft text draft' ↔
      ∃ line next, LineText Blanks (trimReturn (text.takeWhile notLineFeed)) line ∧
        Step draft line next ∧ Accepts next (text.dropWhile notLineFeed) draft' := by
  refine (tells_statement hspace).trans ?_
  constructor
  · rintro ⟨line, hline, lines, hall, hsteps⟩
    cases hsteps with
    | @cons _ next _ _ _ hstep hsteps =>
      exact ⟨line, next, hline, hstep, _, hall, steps_nothing_iff.2 hsteps⟩
  · rintro ⟨line, next, hline, hstep, haccepts⟩
    obtain ⟨others, -, hbehind⟩ := linesOf_statement hspace
    obtain ⟨lines, hall, hsteps⟩ :=
      (tells_iff_of_nothing (fun _ => steps_nothing_iff) hbehind fun line =>
        lineText_nil_iff).1 haccepts
    rw [hbehind]
    exact ⟨line, hline, lines, .cons .empty hall, .cons hstep hsteps⟩

/-! ### Files -/

theorem accepts_nil : Accepts draft [] draft' ↔ draft = draft' := by
  have hlines : linesOf [] = [[]] := rfl
  refine (tells_iff_of_nothing (fun _ => steps_nothing_iff) hlines fun line =>
    lineText_nil_iff).trans ?_
  constructor
  · rintro ⟨lines, hall, hsteps⟩
    cases hall
    cases hsteps
    rfl
  · rintro rfl
    exact ⟨[], .nil, .nil draft⟩

/-- Behind a statement the lines do the same, whether a carriage return is left or not. -/
theorem accepts_behind {behind rest : List Char} (h : behind = rest ∨ behind = '\r' :: rest) :
    Accepts draft behind draft' ↔ Accepts draft rest draft' :=
  tells_behind (fun _ => steps_nothing_iff) h

/-- Behind a statement carriage returns end lines still. -/
theorem ReturnsEndLines.statement {next : Draft} {rest : Cursor} (h : ReturnsEndLines c.ahead)
    (hread : Plain.statement draft c = .ok (next, rest)) : ReturnsEndLines rest.ahead := by
  obtain ⟨line, -, -, hrest⟩ := statement_text hread h
  rw [← List.takeWhile_append_dropWhile (p := notBreak) (l := c.ahead)] at h
  have hbehind := h.of_append
  rcases hrest with heq | heq
  · rwa [heq] at hbehind
  · rw [heq] at hbehind
    exact hbehind.2

/-- **Statement.** Where a statement starts, the lines are accepted exactly if a statement is read
    and the lines behind it are accepted. -/
theorem accepts_iff_statement
    (hstart : ∀ ch ∈ c.ahead.head?, Unicode.isWhitespace ch = false ∧ ch ≠ '#')
    (hne : c.ahead ≠ []) (hreturns : ReturnsEndLines c.ahead) :
    Accepts draft c.ahead draft' ↔
      ∃ next rest, statement draft c = .ok (next, rest) ∧ Accepts next rest.ahead draft' := by
  rw [accepts_statement fun ch hch => (hstart ch hch).1]
  constructor
  · rintro ⟨line, next, hline, hstep, haccepts⟩
    obtain ⟨rest, hread, hrest⟩ := exists_statement hline (ne_nothing hstart hne hline) hstep
    exact ⟨next, rest, hread, (accepts_behind hrest).2 haccepts⟩
  · rintro ⟨next, rest, hread, haccepts⟩
    obtain ⟨line, hline, hstep, hrest⟩ := statement_text hread hreturns
    obtain ⟨htrim, hbehind⟩ := trimReturn_takeWhile hreturns
    rw [← htrim] at hline
    exact ⟨line, next, hline, hstep,
      (accepts_behind hbehind).1 ((accepts_behind hrest).2 haccepts)⟩

/-- **Run.** All statements are read exactly if the lines ahead are accepted, with the same
    draft. -/
theorem statements_eq_none_iff (hreturns : ReturnsEndLines c.ahead) :
    statements draft c = (draft', none) ↔ Accepts draft c.ahead draft' := by
  have hskip : ∀ (draft : Draft) (c : Cursor),
      Accepts draft (skipBlankLines c).ahead draft' ↔ Accepts draft c.ahead draft' :=
    fun _ c => (tells_drop (fun _ => steps_nothing_iff) c.ahead).1
  have hreturnsSkip : ∀ c : Cursor, ReturnsEndLines c.ahead →
      ReturnsEndLines (skipBlankLines c).ahead := by
    intro c h
    rw [← List.take_append_drop (blankLength false c.ahead) c.ahead] at h
    exact h.of_append
  -- Induction along the statements: each is the first line of what is left.
  fun_induction statements draft c with
  | case1 draft c c' hend =>
    have hnil : c'.ahead = [] := by simpa [Cursor.isExhausted] using hend
    rw [← hskip, hnil, accepts_nil, Prod.mk.injEq]
    simp
  | case2 draft c c' hend next rest hread ih =>
    have hne : c'.ahead ≠ [] := by simpa [Cursor.isExhausted] using hend
    rw [← hskip, accepts_iff_statement (head?_drop c.ahead false) hne (hreturnsSkip c hreturns)]
    have hrest := ih ((hreturnsSkip c hreturns).statement hread)
    constructor
    · intro h
      exact ⟨next, rest, hread, hrest.1 h⟩
    · rintro ⟨next', rest', hread', haccepts⟩
      obtain ⟨rfl, rfl⟩ := Prod.mk.inj (Except.ok.inj (hread.symm.trans hread'))
      exact hrest.2 haccepts
  | case3 draft c c' hend fault hread =>
    have hne : c'.ahead ≠ [] := by simpa [Cursor.isExhausted] using hend
    rw [← hskip, accepts_iff_statement (head?_drop c.ahead false) hne (hreturnsSkip c hreturns)]
    constructor
    · intro h
      cases h
    · rintro ⟨next', rest', hread', -⟩
      rw [hread] at hread'
      contradiction

end OrderedLexer.RuleFile.Plain
