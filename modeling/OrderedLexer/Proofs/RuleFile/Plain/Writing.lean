import OrderedLexer.Proofs.RuleFile.Plain.Refusal

namespace OrderedLexer.RuleFile.Plain

/-!
# Rules are written as plain text

Rules whose names are words and whose patterns fit into a line are written in any sequence, each in
any order, with any floor.

* `Writable` — a rule that fits into a line;
* `Stands` — a text that stands in a line of its own and says something;
* `exists_stands_order`, `exists_stands_start`, `exists_stands_rule` — lines for what is to be said;
* `exists_linesOf` — lines are put together to a text;
* `exists_writes` — so there is a text for every list of rules.
-/

variable {text rest : List Char} {line : Line} {lines : List Line} {key : OrderKey}
  {start : Option OrderKey} {entries : List (OrderKey × Rule)}

/-- A name made of the characters of words. -/
def IsWord (name : String) : Prop := name.toList ≠ [] ∧ ∀ ch ∈ name.toList, isWordChar ch = true

/-- A rule that fits into a line: its name is a word, and its pattern is not empty, has no line feed
    in it, and neither starts with a blank nor ends in a carriage return. -/
structure Writable (r : Rule) : Prop where
  name : ∃ name, r.name = some name ∧ IsWord name
  ne_nil : r.pattern.toList ≠ []
  feed : '\n' ∉ r.pattern.toList
  head : ∀ ch ∈ r.pattern.toList.head?, isBlank ch = false
  last : r.pattern.toList.getLast? ≠ some '\r'

/-! ### One line -/

/-- A text stands in a line of its own and says something. -/
def Stands (text : List Char) (line : Line) : Prop :=
  '\n' ∉ text ∧ LineText Blanks ((trimReturn text).dropWhile Unicode.isWhitespace) line

/-- Without whitespace at its start and a carriage return at its end, a text is all of its line. -/
theorem LineText.stands (h : LineText Blanks text line) (hfeed : '\n' ∉ text)
    (hhead : ∀ ch ∈ text.head?, Unicode.isWhitespace ch = false)
    (hlast : text.getLast? ≠ some '\r') : Stands text line := by
  refine ⟨hfeed, ?_⟩
  rw [trimReturn, if_neg hlast]
  cases text with
  | nil => exact h
  | cons ch text =>
    rw [List.dropWhile_cons_of_neg (by simp [hhead ch rfl])]
    exact h

/-- Every key is spelled. -/
theorem exists_integerText (key : OrderKey) : ∃ number, IntegerText number key := by
  have hdigits : ∀ n, ∀ d ∈ Nat.toDigits 10 n, d.isDigit = true :=
    fun n d hd => Nat.isDigit_of_mem_toDigits (by decide) (by decide) hd
  have hvalue : ∀ n, Nat.ofDigitChars 10 (Nat.toDigits 10 n) 0 = n :=
    fun n => Nat.ofDigitChars_ten_toDigits
  by_cases hneg : key.val < 0
  · refine ⟨'-' :: Nat.toDigits 10 key.val.natAbs, .negative Nat.toDigits_ne_nil (hdigits _) ?_⟩
    rw [hvalue]
    omega
  · refine ⟨Nat.toDigits 10 key.val.natAbs, .plain Nat.toDigits_ne_nil (hdigits _) ?_⟩
    rw [hvalue]
    omega

theorem IntegerText.notBreak {number : List Char} (h : IntegerText number key) :
    ∀ ch ∈ number, notBreak ch = true := by
  cases h with
  | plain _ hdigits _ => exact fun ch hch => notBreak_of_isDigit (hdigits ch hch)
  | negative _ hdigits _ =>
    intro ch hch
    rcases List.mem_cons.1 hch with rfl | hch
    · rfl
    · exact notBreak_of_isDigit (hdigits ch hch)

theorem DirectiveText.notBreak (h : DirectiveText text line) :
    ∀ ch ∈ text, notBreak ch = true := by
  have hnumber : ∀ {word ws number : List Char} {key : OrderKey},
      word.all Plain.notBreak = true → Blanks ws → IntegerText number key →
      ∀ ch ∈ word ++ ws ++ number, Plain.notBreak ch = true := by
    intro word ws number key hword hws hnumber ch hch
    rcases List.mem_append.1 hch with hch | hch
    · rcases List.mem_append.1 hch with hch | hch
      · exact List.all_eq_true.1 hword ch hch
      · exact notBreak_of_isBlank (hws ch hch)
    · exact hnumber.notBreak ch hch
  cases h with
  | next => exact List.all_eq_true.1 (by decide)
  | order hws hkey _ => exact hnumber (by decide) hws hkey
  | start hws hkey _ => exact hnumber (by decide) hws hkey

/-- A directive is all of its line. -/
theorem DirectiveText.stands (h : DirectiveText text line) : Stands text line := by
  have hline : LineText Blanks (text ++ []) line := .directive h blanks_nil
  rw [List.append_nil] at hline
  have hbreak := h.notBreak
  obtain ⟨cs, rfl⟩ := h.exists_cons
  refine hline.stands (fun hfeed => ?_) (fun ch hch => ?_) fun hlast => ?_
  · exact absurd (hbreak _ hfeed) (by decide)
  · rw [← Option.some.inj hch]
    decide
  · exact absurd (hbreak _ (List.mem_of_getLast? hlast)) (by decide)

theorem wordEnds_space (text : List Char) : WordEnds (' ' :: text) := by
  intro ch hch
  rw [← Option.some.inj hch]
  decide

/-- A line that sets the order. -/
theorem exists_stands_order (key : OrderKey) : ∃ text, Stands text (.order key) := by
  obtain ⟨number, hnumber⟩ := exists_integerText key
  exact ⟨_, (DirectiveText.order blanks_space hnumber (wordEnds_space number)).stands⟩

/-- A line that sets the floor. -/
theorem exists_stands_start (key : OrderKey) : ∃ text, Stands text (.start key) := by
  obtain ⟨number, hnumber⟩ := exists_integerText key
  exact ⟨_, (DirectiveText.start blanks_space hnumber (wordEnds_space number)).stands⟩

theorem WordsText.cons_word {ws : List Char} {word : String} {words : List String}
    (hws : Blanks ws) (hword : IsWord word) (hrest : WordEnds rest) (h : WordsText rest words) :
    WordsText (ws ++ word.toList ++ rest) (word :: words) := by
  have hcons : WordsText (ws ++ word.toList ++ rest) (String.ofList word.toList :: words) :=
    .cons hws hword.1 hword.2 hrest h
  rwa [String.ofList_toList] at hcons

/-- Words, each behind a blank. -/
def spaced (words : List String) : List Char := words.flatMap fun word => ' ' :: word.toList

theorem wordEnds_spaced (words : List String) : WordEnds (spaced words) := by
  cases words with
  | nil => simp [spaced, WordEnds]
  | cons word words => exact wordEnds_space _

theorem wordsText_spaced {words : List String} (h : ∀ word ∈ words, IsWord word) :
    WordsText (spaced words) words := by
  induction words with
  | nil => exact .nil blanks_nil
  | cons word words ih =>
    obtain ⟨hword, hrest⟩ := List.forall_mem_cons.1 h
    exact .cons_word blanks_space hword (wordEnds_spaced words) (ih hrest)

/-- Words for any modifiers. The first of them starts a line. -/
theorem exists_modifiersText (ignore : Bool) (p : Priority) :
    ∃ first more, ModifiersText (first :: more) ignore (some p) ∧
      (∀ word ∈ first :: more, IsWord word) ∧
      first.toList.head?.any Unicode.isWhitespace = false := by
  have hname : IsWord p.name := by
    cases p <;> exact ⟨by decide, List.all_eq_true.1 (by decide)⟩
  cases ignore with
  | false =>
    refine ⟨p.name, [], .priority p, by simpa using hname, ?_⟩
    cases p <;> decide
  | true =>
    have hignore : IsWord "ignore" := ⟨by decide, List.all_eq_true.1 (by decide)⟩
    exact ⟨"ignore", [p.name], .ignoreFirst p, by simp [hname, hignore], by decide⟩

/-- A line that tells a rule: its priority, and `ignore` if it captures nothing, before its name. -/
theorem exists_stands_rule {r : Rule} (h : Writable r) : ∃ text, Stands text (.rule r) := by
  obtain ⟨name, hname, hword⟩ := h.name
  obtain ⟨first, more, hmodifiers, hwords, hfirst⟩ := exists_modifiersText (!r.captures) r.priority
  obtain ⟨hfirstWord, hmore⟩ := List.forall_mem_cons.1 hwords
  have hhead : WordsText ([] ++ first.toList ++ spaced (more ++ [name]))
      (first :: more ++ [name]) := by
    have hall : ∀ word ∈ more ++ [name], IsWord word := by
      intro word hmem
      rcases List.mem_append.1 hmem with hmem | hmem
      · exact hmore word hmem
      · rwa [List.mem_singleton.1 hmem]
    exact .cons_word blanks_nil hfirstWord (wordEnds_spaced _) (wordsText_spaced hall)
  have hcompiles : Rule.ofPattern (String.ofList r.pattern.toList)
      ((some r.priority).getD .natural) (!!r.captures) (some name) = .ok r := by
    rw [String.ofList_toList, Bool.not_not]
    exact Rule.ofPattern_eq_ok_iff.2 ⟨rfl, rfl, rfl, hname⟩
  have hline : LineText Blanks ([] ++ first.toList ++ spaced (more ++ [name]) ++ "::=".toList ++
      [] ++ r.pattern.toList) (.rule r) :=
    .rule (.mk hhead hmodifiers blanks_nil h.ne_nil h.head hcompiles)
  refine ⟨_, hline.stands (fun hfeed => ?_) (fun ch hch => ?_) ?_⟩
  · rcases List.mem_append.1 hfeed with hfeed | hfeed
    · exact absurd (notBreak_of_head hhead blanks_nil _ hfeed) (by decide)
    · exact h.feed hfeed
  · obtain ⟨c, cs, hcs⟩ := List.exists_cons_of_ne_nil hfirstWord.1
    rw [hcs] at hfirst hch
    rw [← Option.some.inj hch]
    exact hfirst
  · rw [List.getLast?_append_of_ne_nil _ h.ne_nil]
    exact h.last

/-! ### Texts -/

/-- Texts of lines are put together to a text. -/
theorem exists_linesOf (h : ∀ line ∈ lines, ∃ text, Stands text line) (hne : lines ≠ []) :
    ∃ text, List.Forall₂ (LineText Blanks) (linesOf text) lines := by
  induction lines with
  | nil => exact absurd rfl hne
  | cons line lines ih =>
    obtain ⟨⟨first, hfeed, hline⟩, hrest⟩ := List.forall_mem_cons.1 h
    cases lines with
    | nil =>
      refine ⟨first, ?_⟩
      rw [linesOf, List.splitOn_eq_singleton hfeed]
      exact .cons hline .nil
    | cons second lines =>
      obtain ⟨rest, hall⟩ := ih hrest (List.cons_ne_nil _ _)
      refine ⟨first ++ '\n' :: rest, ?_⟩
      rw [linesOf, List.splitOn_append_cons_self_of_not_mem hfeed]
      exact .cons hline hall

/-- Lines that set no floor set none behind a rule. -/
theorem startsFirst_of_none (h : ∀ line ∈ lines, line.start? = none) : StartsFirst lines := by
  induction lines with
  | nil => exact List.Pairwise.nil
  | cons line lines ih =>
    obtain ⟨-, hrest⟩ := List.forall_mem_cons.1 h
    exact startsFirst_cons.2 ⟨fun _ => hrest, ih hrest⟩

/-- The lines of rules, each behind its order. -/
theorem entriesFrom_flatMap (key : OrderKey) (entries : List (OrderKey × Rule)) :
    entriesFrom key (entries.flatMap fun e => [.order e.1, .rule e.2]) = entries := by
  induction entries generalizing key with
  | nil => rfl
  | cons e entries ih => exact congrArg (e :: ·) (ih e.1)

/-- **Writing.** Rules that fit into lines are written, whatever the sequence, the orders and the
    floor. -/
theorem exists_writes (start : Option OrderKey) (h : ∀ e ∈ entries, Writable e.2) :
    ∃ text, Writes start entries text := by
  -- One line for each order and each rule, behind an empty line and perhaps the floor.
  have hnone : ∀ line ∈ entries.flatMap fun e => [Line.order e.1, .rule e.2],
      line.start? = none := by
    intro line hline
    obtain ⟨e, -, hline⟩ := List.mem_flatMap.1 hline
    rcases List.mem_pair.1 hline with rfl | rfl
    · rfl
    · rfl
  have hstands : ∀ line ∈ entries.flatMap fun e => [Line.order e.1, .rule e.2],
      ∃ text, Stands text line := by
    intro line hline
    obtain ⟨e, he, hline⟩ := List.mem_flatMap.1 hline
    rcases List.mem_pair.1 hline with rfl | rfl
    · exact exists_stands_order e.1
    · exact exists_stands_rule (h e he)
  have hempty : ∃ text, Stands text .nothing := ⟨[], by simp, .empty⟩
  cases start with
  | none =>
    obtain ⟨text, hall⟩ := exists_linesOf (List.forall_mem_cons.2 ⟨hempty, hstands⟩)
      (List.cons_ne_nil _ _)
    refine ⟨text, _, hall, startsFirst_of_none (List.forall_mem_cons.2 ⟨rfl, hnone⟩),
      floorOf_eq_none (List.forall_mem_cons.2 ⟨rfl, hnone⟩), ?_⟩
    exact entriesFrom_flatMap _ entries
  | some low =>
    obtain ⟨text, hall⟩ := exists_linesOf
      (List.forall_mem_cons.2 ⟨exists_stands_start low, hstands⟩) (List.cons_ne_nil _ _)
    refine ⟨text, _, hall, startsFirst_cons.2 ⟨by simp [Line.rule?],
      startsFirst_of_none hnone⟩, ?_, ?_⟩
    · rw [floorOf_cons, floorOf_eq_none hnone]
      rfl
    · exact entriesFrom_flatMap _ entries

end OrderedLexer.RuleFile.Plain
