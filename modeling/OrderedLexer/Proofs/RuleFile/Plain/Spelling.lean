import OrderedLexer.Proofs.RuleFile.Plain.Parts
import OrderedLexer.Proofs.RuleFile.Plain.Statements
import Mathlib.Data.List.Basic

namespace OrderedLexer.RuleFile.Plain

/-!
# Statements are lines

A statement is read exactly where a line of the grammar stands, and does to the draft what the line
says.

* `Step` — what a line does to a draft;
* `notBreak` — the characters inside a line, of which every part of a statement is made;
* `directive_text`, `exists_directive` — directives;
* `rule_line`, `rule_text`, `exists_rule` — rules; a rule that is spelled may still be refused;
* `statement_text`, `exists_statement` — one or the other.
-/

variable {draft draft' : Draft} {c c' : Cursor} {line : Line} {text rest : List Char}

/-- What a line does to a draft. -/
inductive Step (draft : Draft) : Line → Draft → Prop
  | nothing : Step draft .nothing draft
  | next : Step draft .next { draft with order := draft.order.next }
  | order (key : OrderKey) : Step draft (.order key) { draft with order := key }
  | start (key : OrderKey) : draft.set.isEmpty = true →
      Step draft (.start key) { draft with set := RuleSet.startingAt key, order := key }
  | rule {r : Rule} {set : RuleSet} : draft.set.insert? draft.order r = .ok set →
      Step draft (.rule r) { draft with set, inserted := (draft.order, r) :: draft.inserted }

/-! ### The end of a line -/

/-- The characters inside a line. -/
def notBreak (ch : Char) : Bool := ch != '\n' && ch != '\r'

/-- A class of characters that no line break belongs to. -/
theorem notBreak_of_class {p : Char → Bool} (hp : p '\n' = false ∧ p '\r' = false) {ch : Char}
    (h : p ch = true) : notBreak ch = true := by
  unfold notBreak
  rw [Bool.and_eq_true, bne_iff_ne, bne_iff_ne]
  constructor
  · rintro rfl
    rw [hp.1] at h
    contradiction
  · rintro rfl
    rw [hp.2] at h
    contradiction

theorem notBreak_of_isBlank {ch : Char} (h : isBlank ch = true) : notBreak ch = true :=
  notBreak_of_class (by decide) h

theorem notBreak_of_isWordChar {ch : Char} (h : isWordChar ch = true) : notBreak ch = true :=
  notBreak_of_class (by decide) h

theorem notBreak_of_isDigit {ch : Char} (h : ch.isDigit = true) : notBreak ch = true :=
  notBreak_of_class (by decide) h

theorem notBreak_of_not_isWhitespace {ch : Char} (h : Unicode.isWhitespace ch = false) :
    notBreak ch = true :=
  notBreak_of_class (p := fun ch => !Unicode.isWhitespace ch) (by decide) (by simp [h])

/-- What starts with a line break starts with no character of a number or of a word. -/
theorem head?_of_break {p : Char → Bool} (hp : ∀ ch, p ch = true → notBreak ch = true)
    (h : ∀ ch ∈ rest.head?, notBreak ch = false) : ∀ ch ∈ rest.head?, p ch = false := by
  intro ch hch
  have hbreak := h ch hch
  cases hpch : p ch with
  | false => rfl
  | true =>
    rw [hp ch hpch] at hbreak
    contradiction

theorem atLineEnd_iff : atLineEnd c = true ↔ ∀ ch ∈ c.ahead.head?, notBreak ch = false := by
  unfold atLineEnd Cursor.get?
  cases c.ahead.head? with
  | none => simp
  | some ch =>
    simp only [Option.all_some, Bool.or_eq_true, decide_eq_true_eq, Option.mem_def,
      Option.some.injEq, forall_eq', notBreak, Bool.and_eq_false_iff, bne_eq_false_iff_eq]

/-- A carriage return at the end of a line is behind what stands there at all. -/
theorem trimReturn_append (text : List Char) (h : rest ≠ []) :
    trimReturn (text ++ rest) = text ++ trimReturn rest := by
  unfold trimReturn
  rw [List.getLast?_append_of_ne_nil _ h]
  split
  · rw [List.dropLast_append_of_ne_nil h]
  · rfl

/-- Only a carriage return is taken from the end of a line. -/
theorem exists_trimReturn_append (line : List Char) :
    ∃ cr, line = trimReturn line ++ cr ∧ (cr = [] ∨ cr = ['\r']) := by
  unfold trimReturn
  split
  · next hlast => exact ⟨['\r'], (List.dropLast_append_getLast? _ hlast).symm, .inr rfl⟩
  · exact ⟨[], (List.append_nil line).symm, .inl rfl⟩

theorem ReturnsEndLines.of_append (h : ReturnsEndLines (text ++ rest)) : ReturnsEndLines rest := by
  induction text with
  | nil => exact h
  | cons ch text ih => exact ih h.2

/-- The line ahead without a carriage return at its end, and what stands behind it. -/
theorem trimReturn_takeWhile (h : ReturnsEndLines text) :
    trimReturn (text.takeWhile notLineFeed) = text.takeWhile notBreak ∧
      (text.dropWhile notBreak = text.dropWhile notLineFeed ∨
        text.dropWhile notBreak = '\r' :: text.dropWhile notLineFeed) := by
  have hline : ∀ ch ∈ text.takeWhile notBreak, notBreak ch = true :=
    fun ch hch => List.mem_takeWhile_imp hch
  have hfeed : ∀ ch ∈ text.takeWhile notBreak, notLineFeed ch = true :=
    fun ch hch => (Bool.and_eq_true_iff.1 (hline ch hch)).1
  have hsplit := text.takeWhile_append_dropWhile (p := notBreak)
  have hrest := head?_dropWhile notBreak text
  have hreturns : ReturnsEndLines (text.dropWhile notBreak) := by
    rw [← hsplit] at h
    exact h.of_append
  generalize text.takeWhile notBreak = line at *
  generalize text.dropWhile notBreak = rest at *
  subst hsplit
  have htrim : trimReturn line = line := by
    unfold trimReturn
    rw [if_neg]
    intro hlast
    have := hline '\r' (List.mem_of_getLast? hlast)
    contradiction
  by_cases hreturn : rest.head? = some '\r'
  · -- The line ends in a carriage return, behind which a line feed stands.
    obtain ⟨rest, rfl⟩ := List.head?_eq_some_iff.1 hreturn
    have hstart : ∀ ch ∈ rest.head?, notLineFeed ch = false := by
      intro ch hch
      rw [hreturns.1 rfl] at hch
      rw [← Option.some.inj hch]
      rfl
    have hlong : ∀ ch ∈ line ++ ['\r'], notLineFeed ch = true := by
      intro ch hch
      rcases List.mem_append.1 hch with hch | hch
      · exact hfeed ch hch
      · rw [List.mem_singleton.1 hch]
        rfl
    obtain ⟨htake, hdrop⟩ := takeWhile_dropWhile_append hlong hstart
    rw [List.append_assoc, List.singleton_append] at htake hdrop
    rw [htake, hdrop]
    refine ⟨?_, .inr rfl⟩
    unfold trimReturn
    rw [if_pos List.getLast?_concat, List.dropLast_concat]
  · have hstart : ∀ ch ∈ rest.head?, notLineFeed ch = false := by
      intro ch hch
      have hbreak := hrest ch hch
      rw [Option.mem_def] at hch
      rw [hch] at hreturn
      simp only [notBreak, Bool.and_eq_false_iff, bne_eq_false_iff_eq] at hbreak
      rcases hbreak with rfl | rfl
      · rfl
      · exact absurd rfl hreturn
    obtain ⟨htake, hdrop⟩ := takeWhile_dropWhile_append hfeed hstart
    rw [htake, hdrop]
    exact ⟨htrim, .inl rfl⟩

/-! ### Directives -/

/-- What is read behind the word of a directive with a number. -/
theorem number_text {after : Cursor} {key : OrderKey}
    (h : integer (after.skipWhile isBlank) = .ok (key, c'))
    (hafter : ∀ ch ∈ after.ahead.head?, isWordChar ch = false) :
    ∃ ws number, after.ahead = ws ++ number ++ c'.ahead ∧ Blanks ws ∧ IntegerText number key ∧
      WordEnds (ws ++ number) ∧ ∀ ch ∈ ws ++ number, notBreak ch = true := by
  obtain ⟨number, hnumber, hahead, hchars⟩ := integer_text h
  rw [Cursor.ahead_skipWhile] at hahead
  have hsplit := after.ahead.takeWhile_append_dropWhile (p := isBlank)
  rw [hahead, ← List.append_assoc] at hsplit
  refine ⟨_, number, hsplit.symm, fun ch hch => List.mem_takeWhile_imp hch, hnumber, ?_, ?_⟩
  · intro ch hch
    refine hafter ch ?_
    rw [← hsplit]
    exact mem_head?_append hch _
  · intro ch hch
    rcases List.mem_append.1 hch with hch | hch
    · exact notBreak_of_isBlank (List.mem_takeWhile_imp hch)
    · rcases hchars ch hch with rfl | hdigit
      · rfl
      · exact notBreak_of_isDigit hdigit

/-- A directive that is read is spelled by what was ahead up to the line break, apart from blanks at
    the end. -/
theorem directive_text {start : Nat} (h : directive draft start c = .ok (draft', c')) :
    ∃ text ws line, DirectiveText text line ∧ Blanks ws ∧ Step draft line draft' ∧
      '@' :: c.ahead = text ++ ws ++ c'.ahead ∧ (∀ ch ∈ text ++ ws, notBreak ch = true) ∧
      ∀ ch ∈ c'.ahead.head?, notBreak ch = false := by
  obtain ⟨rest, hargument, rfl, hend⟩ := directive_eq_ok_iff.1 h
  rw [atLineEnd_iff] at hend
  have hafter : ∀ ch ∈ (c.skipWhile isWordChar).ahead.head?, isWordChar ch = false := by
    rw [Cursor.ahead_skipWhile]
    exact head?_dropWhile isWordChar c.ahead
  have hword : c.ahead = (wordAhead c).toList ++ (c.skipWhile isWordChar).ahead := by
    rw [wordAhead, String.toList_ofList, Cursor.ahead_skipWhile, List.takeWhile_append_dropWhile]
  have hblanks : ∀ d : Cursor,
      d.ahead = d.ahead.takeWhile isBlank ++ (d.skipWhile isBlank).ahead := by
    intro d
    rw [Cursor.ahead_skipWhile, List.takeWhile_append_dropWhile]
  have hws : ∀ text : List Char, Blanks (text.takeWhile isBlank) :=
    fun text ch hch => List.mem_takeWhile_imp hch
  have hchars : ∀ {word middle : List Char}, (∀ ch ∈ word, notBreak ch = true) →
      (∀ ch ∈ middle, notBreak ch = true) →
      ∀ ch ∈ word ++ middle ++ rest.ahead.takeWhile isBlank, notBreak ch = true := by
    intro word middle hword hmiddle ch hch
    rcases List.mem_append.1 hch with hch | hch
    · exact (List.mem_append.1 hch).elim (hword ch) (hmiddle ch)
    · exact notBreak_of_isBlank (hws _ ch hch)
  -- The word tells which directive it is. Behind `@next`, the blanks are skipped in two steps.
  rcases argument_eq_ok_iff.1 hargument with ⟨hname, key, hint, rfl⟩ | ⟨hname, rfl, rfl⟩ |
    ⟨hname, hempty, key, hint, rfl⟩
  · obtain ⟨ws, number, hahead, hblank, hnumber, hends, hmiddle⟩ := number_text hint hafter
    refine ⟨"@order".toList ++ ws ++ number, _, _, .order hblank hnumber hends, hws rest.ahead,
      .order key, ?_, ?_, hend⟩
    · rw [hword, hname, hahead, hblanks rest]
      simp
    · rw [List.append_assoc "@order".toList]
      exact hchars (List.all_eq_true.1 (by decide)) hmiddle
  · refine ⟨"@next".toList, (c.skipWhile isWordChar).ahead.takeWhile isBlank ++
      ((c.skipWhile isWordChar).skipWhile isBlank).ahead.takeWhile isBlank, .next, .next, ?_, .next,
      ?_, ?_, hend⟩
    · intro ch hch
      exact (List.mem_append.1 hch).elim (hws _ ch) (hws _ ch)
    · rw [hword, hname, hblanks (c.skipWhile isWordChar),
        hblanks ((c.skipWhile isWordChar).skipWhile isBlank)]
      simp
    · rw [← List.append_assoc]
      exact hchars (List.all_eq_true.1 (by decide)) fun ch hch => notBreak_of_isBlank (hws _ ch hch)
  · obtain ⟨ws, number, hahead, hblank, hnumber, hends, hmiddle⟩ := number_text hint hafter
    refine ⟨"@start".toList ++ ws ++ number, _, _, .start hblank hnumber hends, hws rest.ahead,
      .start key hempty, ?_, ?_, hend⟩
    · rw [hword, hname, hahead, hblanks rest]
      simp
    · rw [List.append_assoc "@start".toList]
      exact hchars (List.all_eq_true.1 (by decide)) hmiddle

/-- A number starts with a minus or a digit. -/
theorem IntegerText.exists_cons {number : List Char} {key : OrderKey} (h : IntegerText number key) :
    ∃ ch cs, number = ch :: cs ∧ (ch = '-' ∨ ch.isDigit = true) := by
  cases h with
  | plain hne hdigits _ =>
    obtain ⟨d, ds, rfl⟩ := List.exists_cons_of_ne_nil hne
    exact ⟨d, ds, rfl, .inr (hdigits d List.mem_cons_self)⟩
  | @negative digits key _ _ _ => exact ⟨'-', digits, rfl, .inl rfl⟩

/-- Blanks up to a line break start with no character of a number or of a word. -/
theorem head?_of_blanks {p : Char → Bool} {ws : List Char}
    (hblank : ∀ ch, p ch = true → isBlank ch = false) (hp : ∀ ch, p ch = true → notBreak ch = true)
    (hws : Blanks ws) (hrest : ∀ ch ∈ rest.head?, notBreak ch = false) :
    ∀ ch ∈ (ws ++ rest).head?, p ch = false := by
  cases ws with
  | nil => exact head?_of_break hp hrest
  | cons w ws =>
    intro ch hch
    rw [← Option.some.inj hch]
    have hw := hws w List.mem_cons_self
    cases hpw : p w with
    | false => rfl
    | true =>
      rw [hblank w hpw] at hw
      contradiction

/-- The word of a directive is read, with the blanks behind it. -/
theorem reads_word {word ws : List Char} (hc : c.ahead = word ++ (ws ++ rest))
    (hword : ∀ ch ∈ word, isWordChar ch = true) (hends : WordEnds (ws ++ rest)) (hws : Blanks ws)
    (hrest : ∀ ch ∈ rest.head?, isBlank ch = false) :
    wordAhead c = String.ofList word ∧
      ((c.skipWhile isWordChar).skipWhile isBlank).ahead = rest := by
  obtain ⟨htake, hdrop⟩ := takeWhile_dropWhile_append hword hends
  constructor
  · rw [wordAhead, hc, htake]
  · rw [Cursor.ahead_skipWhile, Cursor.ahead_skipWhile, hc, hdrop]
    exact (takeWhile_dropWhile_append hws hrest).2

/-- The number of a directive is read, with the blanks before it and behind it. -/
theorem exists_number {word ws number ws' : List Char} {key : OrderKey}
    (hc : c.ahead = word ++ (ws ++ (number ++ (ws' ++ rest))))
    (hword : ∀ ch ∈ word, isWordChar ch = true) (hends : WordEnds (ws ++ number)) (hws : Blanks ws)
    (hnumber : IntegerText number key) (hws' : Blanks ws')
    (hrest : ∀ ch ∈ rest.head?, notBreak ch = false) :
    ∃ c', wordAhead c = String.ofList word ∧
      integer ((c.skipWhile isWordChar).skipWhile isBlank) = .ok (key, c') ∧
      (c'.skipWhile isBlank).ahead = rest := by
  obtain ⟨d, ds, rfl, hd⟩ := hnumber.exists_cons
  have hblank : ∀ ch ∈ (d :: ds ++ (ws' ++ rest)).head?, isBlank ch = false := by
    intro ch hch
    rw [← Option.some.inj hch]
    rcases hd with rfl | hdigit
    · rfl
    · exact not_isBlank_of_isDigit hdigit
  -- What follows the word is a blank or the number, whatever stands behind.
  have hends' : WordEnds (ws ++ (d :: ds ++ (ws' ++ rest))) := by
    intro ch hch
    refine hends ch ?_
    cases ws with
    | nil => exact hch
    | cons w ws => exact hch
  have hdigit := head?_of_blanks (fun ch => not_isBlank_of_isDigit) (fun ch => notBreak_of_isDigit)
    hws' hrest
  obtain ⟨hwordAhead, hahead⟩ := reads_word hc hword hends' hws hblank
  obtain ⟨c', hint, hc'⟩ := exists_integer hnumber hahead hdigit
  refine ⟨c', hwordAhead, hint, ?_⟩
  rw [Cursor.ahead_skipWhile, hc']
  exact (takeWhile_dropWhile_append hws' (head?_of_break (fun ch => notBreak_of_isBlank) hrest)).2

/-- A spelled directive is read up to the line break. -/
theorem exists_directive (start : Nat) {ws : List Char} (h : DirectiveText text line)
    (hws : Blanks ws) (hstep : Step draft line draft') (hc : '@' :: c.ahead = text ++ ws ++ rest)
    (hrest : ∀ ch ∈ rest.head?, notBreak ch = false) :
    ∃ c', directive draft start c = .ok (draft', c') ∧ c'.ahead = rest := by
  have hend : ∀ {d : Cursor}, d.ahead = rest → atLineEnd d = true := by
    rintro d rfl
    exact atLineEnd_iff.2 hrest
  have hblank := head?_of_break (fun ch => notBreak_of_isBlank) hrest
  cases h with
  | next =>
    cases hstep with
    | next =>
      have hnext : c.ahead = "next".toList ++ (ws ++ rest) := (List.cons.inj hc).2
      have hends := head?_of_blanks (fun ch => not_isBlank_of_isWordChar)
        (fun ch => notBreak_of_isWordChar) hws hrest
      obtain ⟨hword, hahead⟩ :=
        reads_word hnext (List.all_eq_true.1 (by decide)) hends hws hblank
      have hskip :
          (((c.skipWhile isWordChar).skipWhile isBlank).skipWhile isBlank).ahead = rest := by
        rw [Cursor.ahead_skipWhile, hahead]
        show ([] ++ rest).dropWhile isBlank = rest
        exact (takeWhile_dropWhile_append (by simp) hblank).2
      refine ⟨_, directive_eq_ok_iff.2 ⟨_, ?_, rfl, hend hskip⟩, hskip⟩
      exact argument_eq_ok_iff.2 (.inr (.inl ⟨hword, rfl, rfl⟩))
  | @order ws₁ number key hws₁ hnumber hends =>
    cases hstep with
    | order key =>
      have horder : c.ahead = "order".toList ++ (ws₁ ++ (number ++ (ws ++ rest))) := by
        simpa using hc
      obtain ⟨c', hword, hint, hskip⟩ :=
        exists_number horder (List.all_eq_true.1 (by decide)) hends hws₁ hnumber hws hrest
      refine ⟨_, directive_eq_ok_iff.2 ⟨_, ?_, rfl, hend hskip⟩, hskip⟩
      exact argument_eq_ok_iff.2 (.inl ⟨hword, key, hint, rfl⟩)
  | @start ws₁ number key hws₁ hnumber hends =>
    cases hstep with
    | start key hempty =>
      have hstart : c.ahead = "start".toList ++ (ws₁ ++ (number ++ (ws ++ rest))) := by
        simpa using hc
      obtain ⟨c', hword, hint, hskip⟩ :=
        exists_number hstart (List.all_eq_true.1 (by decide)) hends hws₁ hnumber hws hrest
      refine ⟨_, directive_eq_ok_iff.2 ⟨_, ?_, rfl, hend hskip⟩, hskip⟩
      exact argument_eq_ok_iff.2 (.inr (.inr ⟨hword, hempty, key, hint, rfl⟩))

/-! ### Rules -/

/-- Words with blanks between them go on inside a line. -/
theorem WordsText.notBreak {head : List Char} {names : List String} (h : WordsText head names) :
    ∀ ch ∈ head, notBreak ch = true := by
  induction h with
  | nil hws => exact fun ch hch => notBreak_of_isBlank (hws ch hch)
  | cons hws _ hword _ _ ih =>
    intro ch hch
    rcases List.mem_append.1 hch with hch | hch
    · rcases List.mem_append.1 hch with hch | hch
      · exact notBreak_of_isBlank (hws ch hch)
      · exact notBreak_of_isWordChar (hword ch hch)
    · exact ih ch hch

/-- The line of a rule goes on at least up to its pattern. -/
theorem notBreak_of_head {head ws : List Char} {names : List String} (h : WordsText head names)
    (hws : Blanks ws) : ∀ ch ∈ head ++ "::=".toList ++ ws, notBreak ch = true := by
  intro ch hch
  rcases List.mem_append.1 hch with hch | hch
  · rcases List.mem_append.1 hch with hch | hch
    · exact h.notBreak ch hch
    · have hdefinition : "::=".toList.all Plain.notBreak = true := by decide
      exact List.all_eq_true.1 hdefinition ch hch
  · exact notBreak_of_isBlank (hws ch hch)

/-- A rule that is read is spelled by the line ahead, apart from a carriage return at its end. -/
theorem rule_line (h : rule draft c = .ok (draft', c')) :
    ∃ r, RuleText (trimReturn (c.ahead.takeWhile notLineFeed)) r ∧ Step draft (.rule r) draft' ∧
      c'.ahead = c.ahead.dropWhile notLineFeed := by
  obtain ⟨name, modifiers, rest, m, r, set, hwords, hmodifiers, hpattern, hinsert, rfl⟩ :=
    rule_eq_ok_iff.1 h
  obtain ⟨head, read, htext, hread, hahead⟩ := words_text hwords
  have hnames : read.map Word.text = modifiers.reverse.map Word.text ++ [name.text] := by
    have : read = modifiers.reverse ++ [name] := by
      rw [← List.reverse_reverse read, ← List.append_nil read.reverse, ← hread]
      simp
    rw [this, List.map_append]
    rfl
  rw [hnames] at htext
  obtain ⟨hne, hcompiles, rfl⟩ := pattern_eq_ok_iff.1 hpattern
  -- The line is cut where the pattern begins.
  have hsplit : c.ahead = head ++ "::=".toList ++ rest.ahead.takeWhile isBlank ++
      (rest.skipWhile isBlank).ahead := by
    rw [hahead, Cursor.ahead_skipWhile, List.append_assoc _ _ (rest.ahead.dropWhile isBlank),
      List.takeWhile_append_dropWhile]
  have hws : Blanks (rest.ahead.takeWhile isBlank) := fun ch hch => List.mem_takeWhile_imp hch
  have hhead : ∀ ch ∈ head ++ "::=".toList ++ rest.ahead.takeWhile isBlank,
      notLineFeed ch = true :=
    fun ch hch => (Bool.and_eq_true_iff.1 (notBreak_of_head htext hws ch hch)).1
  have hstart := head?_dropWhile isBlank rest.ahead
  rw [← Cursor.ahead_skipWhile] at hstart
  rw [Cursor.ahead_skipWhile (rest.skipWhile isBlank) notLineFeed, hsplit,
    List.takeWhile_append_of_pos hhead, List.dropWhile_append_of_pos hhead]
  generalize (rest.skipWhile isBlank).ahead = tail at *
  have htail : tail.takeWhile notLineFeed ≠ [] := by
    intro hnil
    rw [hnil] at hne
    exact hne rfl
  rw [trimReturn_append _ htail]
  refine ⟨r, .mk htext (modifiers_text hmodifiers) hws hne ?_ hcompiles, .rule hinsert, rfl⟩
  intro ch hch
  obtain ⟨cr, hcr, -⟩ := exists_trimReturn_append (tail.takeWhile notLineFeed)
  refine hstart ch ?_
  rw [← List.takeWhile_append_dropWhile (p := notLineFeed) (l := tail), hcr, List.append_assoc]
  exact mem_head?_append hch _

/-- A rule that is read is spelled by the line ahead. -/
theorem rule_text (h : rule draft c = .ok (draft', c')) (hreturns : ReturnsEndLines c.ahead) :
    ∃ r, RuleText (c.ahead.takeWhile notBreak) r ∧ Step draft (.rule r) draft' ∧
      (c.ahead.dropWhile notBreak = c'.ahead ∨ c.ahead.dropWhile notBreak = '\r' :: c'.ahead) := by
  obtain ⟨r, htext, hstep, hrest⟩ := rule_line h
  obtain ⟨htrim, hbehind⟩ := trimReturn_takeWhile hreturns
  rw [htrim] at htext
  rw [hrest]
  exact ⟨r, htext, hstep, hbehind⟩

/-- A spelled rule is read up to the line feed, and inserted into the order chosen or refused. The
    fault of a refusal spans the rule. -/
theorem exists_rule {r : Rule} (h : RuleText (trimReturn (c.ahead.takeWhile notLineFeed)) r) :
    ∃ c', c'.ahead = c.ahead.dropWhile notLineFeed ∧ c'.text = c.text ∧
      ∀ draft : Draft, rule draft c = match draft.set.insert? draft.order r with
        | .ok set =>
          .ok ({ draft with set, inserted := (draft.order, r) :: draft.inserted }, c')
        | .error e => .error ⟨.invalidOrder e, c.pos, c'.pos⟩ := by
  have hsplit := c.ahead.takeWhile_append_dropWhile (p := notLineFeed)
  have hbehind := head?_dropWhile notLineFeed c.ahead
  have hline : ∀ ch ∈ c.ahead.takeWhile notLineFeed, notLineFeed ch = true :=
    fun ch hch => List.mem_takeWhile_imp hch
  generalize c.ahead.takeWhile notLineFeed = line at *
  generalize c.ahead.dropWhile notLineFeed = behind at *
  obtain ⟨cr, hcr, -⟩ := exists_trimReturn_append line
  generalize htrim : trimReturn line = trimmed at *
  cases h with
  | @mk head ws pattern modifiers name ignore priority r hwords hmodifiers hws hne hstart
      hcompiles =>
    have hahead : c.ahead = head ++ "::=".toList ++ (ws ++ (pattern ++ cr ++ behind)) := by
      rw [← hsplit, hcr]
      simp only [List.append_assoc]
    obtain ⟨read, rest, hread, hnames, hrest⟩ := exists_words hwords hahead []
    have htext := text_of_words hread
    -- The last word that is read is the name, those before it are the modifiers.
    obtain ⟨modifierWords, nameWords, rfl, hmodifierWords, hnameWords⟩ :=
      List.map_eq_append_iff.1 hnames
    obtain ⟨nameWord, rfl, rfl⟩ := List.map_eq_singleton_iff.1 hnameWords
    rw [List.append_nil, List.reverse_append] at hread
    subst hmodifierWords
    have hpattern : (rest.skipWhile isBlank).ahead = pattern ++ cr ++ behind := by
      rw [Cursor.ahead_skipWhile, hrest]
      refine (takeWhile_dropWhile_append hws fun ch hch => ?_).2
      obtain ⟨p, ps, rfl⟩ := List.exists_cons_of_ne_nil hne
      exact hstart ch hch
    have hpatternLine : ∀ ch ∈ pattern ++ cr, notLineFeed ch = true := by
      intro ch hch
      refine hline ch ?_
      rw [hcr, List.append_assoc]
      exact List.mem_append_right _ hch
    -- The pattern ends where the line does.
    have hend : trimReturn (pattern ++ cr) = pattern := by
      have hpatternNe : pattern ++ cr ≠ [] := by simp [hne]
      rw [hcr, List.append_assoc, trimReturn_append _ hpatternNe] at htrim
      exact List.append_cancel_left htrim
    obtain ⟨htake, hdrop⟩ := takeWhile_dropWhile_append hpatternLine hbehind
    have hreadPattern : Plain.pattern ⟨ignore, priority⟩ nameWord.text (rest.skipWhile isBlank) =
        .ok (r, (rest.skipWhile isBlank).skipWhile notLineFeed) := by
      rw [pattern_eq_ok_iff, hpattern, htake, hend]
      exact ⟨hne, hcompiles, rfl⟩
    have hreadModifiers := exists_modifiers hmodifiers rest.pos
    refine ⟨(rest.skipWhile isBlank).skipWhile notLineFeed, ?_, ?_, fun draft => ?_⟩
    · rw [Cursor.ahead_skipWhile, hpattern, hdrop]
    · rw [Cursor.text_skipWhile, Cursor.text_skipWhile, htext]
    · rw [← List.reverse_reverse modifierWords] at hreadModifiers
      cases hinsert : draft.set.insert? draft.order r <;>
        simp only [rule, bind, Except.bind, hread, List.singleton_append, List.reverse_singleton,
          hreadModifiers, hreadPattern, hinsert]

/-! ### Statements -/

/-- A line that tells a rule starts with a blank or a word. -/
theorem RuleText.exists_cons {r : Rule} (h : RuleText text r) :
    ∃ ch cs, text = ch :: cs ∧ (isBlank ch = true ∨ isWordChar ch = true) := by
  cases h with
  | @mk head ws pattern modifiers name ignore priority r hwords _ _ _ _ _ =>
    generalize hnames : modifiers ++ [name] = names at hwords
    cases hwords with
    | nil => simp at hnames
    | @cons ws' word tail names hws' hne hword _ _ =>
      cases ws' with
      | cons w ws' => exact ⟨w, _, rfl, .inl (hws' w List.mem_cons_self)⟩
      | nil =>
        obtain ⟨w, word, rfl⟩ := List.exists_cons_of_ne_nil hne
        exact ⟨w, _, rfl, .inr (hword w List.mem_cons_self)⟩

/-- A directive starts with `@`. -/
theorem DirectiveText.exists_cons (h : DirectiveText text line) : ∃ cs, text = '@' :: cs := by
  cases h with
  | next => exact ⟨_, rfl⟩
  | order _ _ _ => exact ⟨_, rfl⟩
  | start _ _ _ => exact ⟨_, rfl⟩

/-- A statement that is read leaves the text as it is. -/
theorem text_of_statement (h : statement draft c = .ok (draft', c')) : c'.text = c.text := by
  rcases statement_eq_ok_iff.1 h with ⟨rest, hskip, hdirective⟩ | ⟨-, hrule⟩
  · obtain ⟨rest', hargument, rfl, -⟩ := directive_eq_ok_iff.1 hdirective
    have hbehind : ((rest.skipWhile isWordChar).skipWhile isBlank).text = c.text := by
      rw [Cursor.text_skipWhile, Cursor.text_skipWhile, Cursor.text_of_skip? hskip]
    rw [Cursor.text_skipWhile, ← hbehind]
    rcases argument_eq_ok_iff.1 hargument with ⟨-, _, hint, -⟩ | ⟨-, rfl, -⟩ | ⟨-, -, _, hint, -⟩
    · exact text_of_integer hint
    · rfl
    · exact text_of_integer hint
  · obtain ⟨_, _, _, _, _, _, hwords, -, hpattern, -, -⟩ := rule_eq_ok_iff.1 hrule
    obtain ⟨-, -, rfl⟩ := pattern_eq_ok_iff.1 hpattern
    rw [Cursor.text_skipWhile, Cursor.text_skipWhile, text_of_words hwords]

/-- A rule starts with a blank or a word, so not with `@`. -/
theorem RuleText.skip?_eq_none {r : Rule} (h : RuleText text r) (hc : c.ahead = text ++ rest) :
    c.skip? "@" = none := by
  refine Cursor.skip?_eq_none (k := '@') rfl ?_
  obtain ⟨ch, cs, rfl, hch⟩ := h.exists_cons
  rw [hc, List.cons_append, List.head?_cons]
  intro heq
  rw [Option.some.inj heq] at hch
  exact absurd hch (by decide)

/-- A statement that is read is spelled by the line ahead. -/
theorem statement_text (h : statement draft c = .ok (draft', c'))
    (hreturns : ReturnsEndLines c.ahead) :
    ∃ line, LineText Blanks (c.ahead.takeWhile notBreak) line ∧ Step draft line draft' ∧
      (c.ahead.dropWhile notBreak = c'.ahead ∨ c.ahead.dropWhile notBreak = '\r' :: c'.ahead) := by
  rcases statement_eq_ok_iff.1 h with ⟨rest, hskip, hdirective⟩ | ⟨-, hrule⟩
  · obtain ⟨text, ws, line, htext, hws, hstep, hahead, hchars, hbreak⟩ := directive_text hdirective
    have hat : c.ahead = '@' :: rest.ahead := Cursor.ahead_eq_of_skip? hskip
    obtain ⟨htake, hdrop⟩ := takeWhile_dropWhile_append hchars hbreak
    rw [hat, hahead, htake, hdrop]
    exact ⟨line, .directive htext hws, hstep, .inl rfl⟩
  · obtain ⟨r, htext, hstep, hbehind⟩ := rule_text hrule hreturns
    exact ⟨.rule r, .rule htext, hstep, hbehind⟩

/-- A spelled statement is read up to the end of its line, apart from a carriage return there. -/
theorem exists_statement
    (h : LineText Blanks (trimReturn (c.ahead.takeWhile notLineFeed)) line)
    (hline : line ≠ .nothing) (hstep : Step draft line draft') :
    ∃ c', statement draft c = .ok (draft', c') ∧
      (c'.ahead = c.ahead.dropWhile notLineFeed ∨
        c'.ahead = '\r' :: c.ahead.dropWhile notLineFeed) := by
  have hsplit := c.ahead.takeWhile_append_dropWhile (p := notLineFeed)
  have hbehind := head?_dropWhile notLineFeed c.ahead
  obtain ⟨cr, hcr, hreturn⟩ := exists_trimReturn_append (c.ahead.takeWhile notLineFeed)
  generalize htext : trimReturn (c.ahead.takeWhile notLineFeed) = text at h hcr
  rw [hcr, List.append_assoc] at hsplit
  cases h with
  | empty => exact absurd rfl hline
  | comment _ => exact absurd rfl hline
  | @directive directiveText ws line hdirective hws =>
    obtain ⟨cs, rfl⟩ := hdirective.exists_cons
    generalize c.ahead.dropWhile notLineFeed = behind at *
    have hat : c.ahead = "@".toList ++ (cs ++ ws ++ (cr ++ behind)) := by
      rw [← hsplit]
      simp
    obtain ⟨rest, hskip, hrest⟩ := Cursor.exists_skip? "@" hat
    have hahead : '@' :: rest.ahead = '@' :: cs ++ ws ++ (cr ++ behind) := by
      rw [hrest]
      rfl
    have hbreak : ∀ ch ∈ (cr ++ behind).head?, notBreak ch = false := by
      intro ch hch
      rcases hreturn with rfl | rfl
      · have hfeed := hbehind ch hch
        simp only [notLineFeed, bne_eq_false_iff_eq] at hfeed
        rw [hfeed]
        rfl
      · rw [← Option.some.inj hch]
        rfl
    obtain ⟨c', hread, hc'⟩ := exists_directive c.pos hdirective hws hstep hahead hbreak
    refine ⟨c', statement_eq_ok_iff.2 (.inl ⟨rest, hskip, hread⟩), ?_⟩
    rw [hc']
    rcases hreturn with rfl | rfl
    · exact .inl rfl
    · exact .inr rfl
  | @rule _ r hrule =>
    have hnone := hrule.skip?_eq_none hsplit.symm
    rw [← htext] at hrule
    obtain ⟨c', hc', -, hread⟩ := exists_rule hrule
    cases hstep with
    | @rule r set hinsert =>
      have hok := hread draft
      rw [hinsert] at hok
      exact ⟨c', statement_eq_ok_iff.2 (.inr ⟨hnone, hok⟩), .inl hc'⟩

end OrderedLexer.RuleFile.Plain
