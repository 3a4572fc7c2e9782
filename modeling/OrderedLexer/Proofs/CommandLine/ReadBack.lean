import OrderedLexer.CommandLine.Run
import OrderedLexer.Proofs.RuleFile.Plain.Batches
import OrderedLexer.Proofs.RuleFile.Plain.BlankLines
import OrderedLexer.Proofs.Scan.Outcome
import OrderedLexer.Proofs.Text.Unescape

namespace OrderedLexer

/-!
# Reading printed tokens back

Each token is printed on a line of its own: offset, label and text, with tabs between them. The text
is written with escapes, but the label as it is. So the output can be read back exactly if no label
has a tab or a line feed in it.

* `CommandLine.Tells` — an output tells fields, line by line;
* `CommandLine.Tells.unique` — it tells one list of fields at most;
* `CommandLine.tells_showTokens_iff` — when printed tokens are told;
* `RuleFile.Plain.unbroken_label` — in the labels of a plain rule file there are neither tabs nor
  line feeds;
* `CommandLine.run_lex` — what this comes to for the command.
-/

/-! ### Lines and cuts -/

namespace RuleFile.Plain

variable {lines lines' : List (List Char)}

/-- Lines are got back by cutting behind them. -/
theorem splitOn_ended (h : ∀ line ∈ lines, '\n' ∉ line) :
    (ended lines).splitOn '\n' = lines ++ [[]] := by
  induction lines with
  | nil => rfl
  | cons line lines ih =>
    obtain ⟨hline, hlines⟩ := List.forall_mem_cons.1 h
    rw [ended, List.flatMap_cons, List.append_assoc, List.singleton_append,
      List.splitOn_append_cons_self_of_not_mem hline]
    exact congrArg (line :: ·) (ih hlines)

/-- A text consists of lines in one way only. -/
theorem ended_inj (h : ∀ line ∈ lines, '\n' ∉ line) (h' : ∀ line ∈ lines', '\n' ∉ line)
    (heq : ended lines = ended lines') : lines = lines' := by
  have hsplit := splitOn_ended h
  rw [heq, splitOn_ended h'] at hsplit
  exact (List.append_cancel_right hsplit).symm

/-- There are at least as many line feeds as lines, and no more if none is inside of a line. -/
theorem count_feed_ended (lines : List (List Char)) :
    lines.length ≤ (ended lines).count '\n' ∧
      ((ended lines).count '\n' = lines.length ↔ ∀ line ∈ lines, '\n' ∉ line) := by
  induction lines with
  | nil => simp [ended]
  | cons line lines ih =>
    obtain ⟨hle, heq⟩ := ih
    have hcount : (ended (line :: lines)).count '\n' =
        line.count '\n' + 1 + (ended lines).count '\n' := by
      rw [ended, List.flatMap_cons, List.count_append, List.count_append]
      rfl
    rw [hcount, List.length_cons, List.forall_mem_cons, ← heq, ← List.count_eq_zero]
    omega

end RuleFile.Plain

/-- A text, cut at the first of a character. -/
def Text.cutAt (c : Char) (text : List Char) : List Char × List Char :=
  (text.takeWhile (· ≠ c), (text.dropWhile (· ≠ c)).tail)

theorem Text.cutAt_append {c : Char} {front : List Char} (h : c ∉ front) (back : List Char) :
    cutAt c (front ++ c :: back) = (front, back) := by
  have hfront : ∀ d ∈ front, decide (d ≠ c) = true := by
    rintro d hd
    exact decide_eq_true fun heq => h (heq ▸ hd)
  rw [cutAt, List.takeWhile_append_of_pos hfront, List.dropWhile_append_of_pos hfront]
  simp

theorem Text.not_mem_cutAt (c : Char) (text : List Char) : c ∉ (cutAt c text).1 := by
  intro h
  simpa using List.all_eq_true.1 List.all_takeWhile c h

/-! ### Labels from plain rule files -/

/-- A label without tabs and line feeds. -/
def CommandLine.Unbroken (label : String) : Prop := '\t' ∉ label.toList ∧ '\n' ∉ label.toList

instance (label : String) : Decidable (CommandLine.Unbroken label) :=
  inferInstanceAs (Decidable ('\t' ∉ label.toList ∧ '\n' ∉ label.toList))

namespace RuleFile.Plain

variable {head text : List Char} {words : List String} {r : Rule} {lines : List Line}

/-- Words consist of the characters of words. -/
theorem WordsText.isWordChar (h : WordsText head words) {word : String} (hword : word ∈ words) :
    ∀ ch ∈ word.toList, isWordChar ch = true := by
  induction h with
  | nil _ => cases hword
  | cons _ _ hchars _ _ ih =>
    rcases List.mem_cons.1 hword with rfl | hword
    · rwa [String.toList_ofList]
    · exact ih hword

/-- The label of a rule is the name that its text gives it. -/
theorem RuleText.unbroken_label (h : RuleText text r) : CommandLine.Unbroken r.label := by
  obtain ⟨hwords, -, -, -, -, hr⟩ := h
  obtain ⟨-, -, -, hname⟩ := Rule.ofPattern_eq_ok_iff.1 hr
  have hchars := hwords.isWordChar (List.mem_append_right _ List.mem_cons_self)
  rw [Rule.label, hname]
  exact ⟨fun h => absurd (hchars _ h) (by decide), fun h => absurd (hchars _ h) (by decide)⟩

/-- The rules that a text says are rules that it spells. -/
theorem FileText.exists_ruleText (h : FileText text lines) (hr : .rule r ∈ lines) :
    ∃ line, RuleText line r := by
  induction h with
  | nil => cases hr
  | space _ _ ih => exact ih hr
  | comment _ _ _ ih => exact ih hr
  | directive hdirective _ _ _ ih =>
    rcases List.mem_cons.1 hr with rfl | hr
    · cases hdirective
    · exact ih hr
  | rule _ _ hrule _ _ ih =>
    rcases List.mem_cons.1 hr with heq | hr
    · obtain rfl := Line.rule.inj heq
      exact ⟨_, hrule⟩
    · exact ih hr

/-- **Names.** The labels of a plain rule file are names, without tabs and line feeds. -/
theorem unbroken_label {source : Cursor} {set : RuleSet} (h : RuleSet.ofPlain source = .ok set)
    (hr : r ∈ set.rules) : CommandLine.Unbroken r.label := by
  obtain ⟨lines, htext⟩ := exists_fileText_of_ofPlain h
  obtain ⟨-, -, hset⟩ := htext.ofPlain_iff.1 h
  have hperm := RuleSet.rulesWhere_insertAll (RuleSet.start (floorOf lines))
    (entriesFrom OrderKey.zero lines) fun _ => true
  rw [← hset] at hperm
  have hmem : r ∈ (entriesFrom OrderKey.zero lines).map (·.2) := by
    have hall : r ∈ set.rulesWhere fun _ => true := by
      rwa [RuleSet.rulesWhere, List.filter_true]
    simpa [RuleSet.rulesWhere, RuleSet.loggedWhere, RuleSet.start] using hperm.subset hall
  rw [map_entriesFrom] at hmem
  obtain ⟨line, hline, hrule⟩ := List.mem_filterMap.1 hmem
  obtain rfl : line = .rule r := by cases line <;> simp_all [Line.rule?]
  obtain ⟨_, hrule⟩ := htext.exists_ruleText hline
  exact hrule.unbroken_label

end RuleFile.Plain

namespace CommandLine

open RuleFile.Plain (ended)
open Text (cutAt escape unescape)

/-! ### Fields -/

/-- What is printed of a token. -/
def fields (t : Token) : Nat × String × String := (t.offset, t.rule.label, t.text)

/-- A line, cut at its first two tabs: a number, a label, and a text without its escapes. -/
def readLine (line : List Char) : Nat × String × String :=
  let (offset, rest) := cutAt '\t' line
  let (label, text) := cutAt '\t' rest
  (Nat.ofDigitChars 10 offset 0, String.ofList label, String.ofList (unescape text))

/-- An output tells the given fields, each on a line that is ended by a line feed. -/
def Tells (output : String) (told : List (Nat × String × String)) : Prop :=
  ∃ lines : List (List Char), (∀ line ∈ lines, '\n' ∉ line) ∧ output.toList = ended lines ∧
    lines.map readLine = told

/-- **Uniqueness.** An output tells one list of fields at most. -/
theorem Tells.unique {output : String} {told told' : List (Nat × String × String)}
    (h : Tells output told) (h' : Tells output told') : told = told' := by
  obtain ⟨lines, hlines, houtput, rfl⟩ := h
  obtain ⟨lines', hlines', houtput', rfl⟩ := h'
  rw [RuleFile.Plain.ended_inj hlines hlines' (houtput.symm.trans houtput')]

/-- The line of a token without the line feed at its end. -/
def lineOf (t : Token) : List Char :=
  Nat.toDigits 10 t.offset ++ '\t' :: (t.rule.label.toList ++ '\t' :: escape t.text.toList)

theorem toList_showTokens (tokens : List Token) :
    (showTokens false tokens).toList = ended (tokens.map lineOf) := by
  have hline : ∀ t, (tokenLine t).toList = lineOf t ++ ['\n'] := by
    intro t
    simp [tokenLine, lineOf, Text.escapeString, toString]
  rw [showTokens, if_neg Bool.false_ne_true, String.toList_join, ended, List.flatMap_map,
    List.flatMap_map]
  simp only [hline]

/-- Digits are no line feeds or tabs. -/
theorem not_mem_toDigits (n : Nat) : '\n' ∉ Nat.toDigits 10 n ∧ '\t' ∉ Nat.toDigits 10 n := by
  have hdigit : ∀ {d}, d ∈ Nat.toDigits 10 n → d.isDigit = true :=
    Nat.isDigit_of_mem_toDigits (by decide) (by decide)
  exact ⟨fun h => absurd (hdigit h) (by decide), fun h => absurd (hdigit h) (by decide)⟩

/-- A line feed in the line of a token is one in the label. -/
theorem feed_not_mem_lineOf_iff {t : Token} : '\n' ∉ lineOf t ↔ '\n' ∉ t.rule.label.toList := by
  simp [lineOf, (not_mem_toDigits t.offset).1, (Text.not_mem_escape t.text.toList).1]

/-- **Line.** The line of a token tells its fields exactly if there is no tab in the label. -/
theorem readLine_lineOf_iff {t : Token} :
    readLine (lineOf t) = fields t ↔ '\t' ∉ t.rule.label.toList := by
  rw [readLine, lineOf, Text.cutAt_append (not_mem_toDigits t.offset).2]
  constructor
  · intro h
    have hlabel : String.ofList
        (cutAt '\t' (t.rule.label.toList ++ '\t' :: escape t.text.toList)).1 = t.rule.label :=
      (Prod.mk.inj (Prod.mk.inj h).2).1
    rw [← hlabel, String.toList_ofList]
    exact Text.not_mem_cutAt _ _
  · intro h
    simp only [Text.cutAt_append h, Text.unescape_escape, Nat.ofDigitChars_ten_toDigits,
      String.ofList_toList, fields]

/-- **Tokens.** Printed tokens are told by their lines exactly if no label is broken by a tab or a
    line feed. -/
theorem tells_showTokens_iff {tokens : List Token} :
    Tells (showTokens false tokens) (tokens.map fields) ↔
      ∀ t ∈ tokens, Unbroken t.rule.label := by
  constructor
  · rintro ⟨lines, hlines, houtput, hread⟩
    rw [toList_showTokens] at houtput
    -- There are as many lines as tokens, so no line feed is left for the labels.
    have hlength : lines.length = tokens.length := by
      rw [← List.length_map, hread, List.length_map]
    have hlineOf : ∀ line ∈ tokens.map lineOf, '\n' ∉ line := by
      rw [← (RuleFile.Plain.count_feed_ended _).2, houtput,
        (RuleFile.Plain.count_feed_ended lines).2.2 hlines, hlength, List.length_map]
    rw [← RuleFile.Plain.ended_inj hlineOf hlines houtput, List.map_map, List.map_inj_left] at hread
    exact fun t ht => ⟨readLine_lineOf_iff.1 (hread t ht),
      feed_not_mem_lineOf_iff.1 (hlineOf _ (List.mem_map_of_mem ht))⟩
  · intro h
    refine ⟨tokens.map lineOf, fun line hline => ?_, toList_showTokens tokens, ?_⟩
    · obtain ⟨t, ht, rfl⟩ := List.mem_map.1 hline
      exact feed_not_mem_lineOf_iff.2 (h t ht).2
    · rw [List.map_map, List.map_inj_left]
      exact fun t ht => readLine_lineOf_iff.2 (h t ht).1

/-! ### The command -/

/-- The rule of a token is a rule of the set. -/
theorem rule_mem_of_scan {set : RuleSet} {text file : String} {size : Nat} {tokens : List Token}
    (h : set.scan text file size = .ok tokens) {t : Token} (ht : t ∈ tokens) :
    t.rule ∈ set.rules := by
  obtain ⟨pieces, hcuts, rfl⟩ := RuleSet.scan_eq_ok_iff.1 h
  obtain ⟨key, _, _, horder, -, -, -⟩ := hcuts.first t (List.mem_of_mem_filter ht)
  exact RuleSet.mem_rules_iff.2 ⟨key, _, horder, by simp⟩

theorem eq_ok_of_toOption {ε α : Type} {x : Except ε α} {a : α} (h : x.toOption = some a) :
    x = .ok a := by
  cases x with
  | error e => cases h
  | ok b => exact congrArg Except.ok (Option.some.inj h)

/-- **Printed tokens.** If the rules are loaded and the scan of the source succeeds, so does the
    command that prints the tokens. Then

    * the output tells offset, label and text of each token on a line of its own, exactly if no
      label has a tab or a line feed in it;
    * this is so for all plain rule files;
    * among the tokens of which this is so, no others are printed alike. -/
theorem run_lex {disk : Disk} {input : ByteArray} {path : String} {source : Option String}
    {set : RuleSet} {c : Cursor} {tokens : List Token} (verbosity : Nat)
    (hload : RuleSet.load disk path = .ok set) (hsource : Command.source disk input source = .ok c)
    (hscan : set.scan c.peek c.origin = .ok tokens) :
    let outcome := (Command.lex false path source).run verbosity disk input
    outcome.status = 0 ∧
    (Tells outcome.output (tokens.map fields) ↔ ∀ t ∈ tokens, Unbroken t.rule.label) ∧
    (∀ file, RuleFile.locate disk path = .ok (file, .plain) →
      ∀ t ∈ tokens, Unbroken t.rule.label) ∧
    ((∀ t ∈ tokens, Unbroken t.rule.label) → ∀ tokens' : List Token,
      (∀ t ∈ tokens', Unbroken t.rule.label) → outcome.output = showTokens false tokens' →
        tokens.map fields = tokens'.map fields) := by
  intro outcome
  have hrun : outcome = ⟨0, showTokens false tokens, outcome.errors⟩ := by
    simp only [outcome, Command.run, Command.rulesPath, hload, Command.runWith, hsource, hscan]
    rfl
  rw [hrun]
  refine ⟨rfl, tells_showTokens_iff, fun file hfile t ht => ?_, fun h tokens' h' houtput => ?_⟩
  · have hrule := rule_mem_of_scan hscan ht
    simp only [RuleSet.load, hfile, bind, Except.bind] at hload
    split at hload
    · contradiction
    · exact RuleFile.Plain.unbroken_label hload hrule
  · have htold := tells_showTokens_iff.2 h
    have htold' := tells_showTokens_iff.2 h'
    rw [← houtput] at htold'
    exact htold.unique htold'

/-- Two tokens from a plain rule file, one of them a line feed. -/
theorem run_lex_plain :
    let disk := Disk.ofList [("r.olx", .ok ⟨.file "A ::= a\nB ::= \\s".toUTF8, 0⟩),
      ("s", .ok ⟨.file "a\n".toUTF8, 0⟩)]
    ∃ set tokens, RuleSet.load disk "r.olx" = .ok set ∧ set.scan "a\n" "s" = .ok tokens ∧
      tokens.map fields = [(0, "A", "a"), (1, "B", "\n")] ∧
      Tells ((Command.lex false "r.olx" (some "s")).run 0 disk ByteArray.empty).output
        (tokens.map fields) := by
  intro disk
  have heval : ((RuleSet.load disk "r.olx").toOption.bind fun set =>
      (set.scan "a\n" "s").toOption.map fun tokens =>
        decide (tokens.map fields = [(0, "A", "a"), (1, "B", "\n")])) = some true := by
    decide +kernel
  obtain ⟨set, hset, heval⟩ := Option.bind_eq_some_iff.1 heval
  obtain ⟨tokens, htokens, heval⟩ := Option.map_eq_some_iff.1 heval
  have hload := eq_ok_of_toOption hset
  have hscan := eq_ok_of_toOption htokens
  have hsource : Command.source disk ByteArray.empty (some "s") = .ok (Cursor.ofText "s" "a\n") :=
    eq_ok_of_toOption (by decide +kernel)
  have hlocate : RuleFile.locate disk "r.olx" = .ok ("r.olx", .plain) :=
    eq_ok_of_toOption (by decide +kernel)
  obtain ⟨-, htells, hplain, -⟩ := run_lex 0 hload hsource hscan
  exact ⟨set, tokens, hload, hscan, of_decide_eq_true heval, htells.2 (hplain _ hlocate)⟩

/-- A pattern that is a line feed breaks the line of its match: it is printed as two lines, which do
    not tell the token. And a label with tabs and a line feed makes one token look like two. -/
theorem run_lex_broken :
    (let disk := Disk.ofList [
        ("r.json", .ok ⟨.file
          ("\x7b\"orders\":[\x7b\"order\":0,\"rules\":" ++
            "[\x7b\"pattern\":\"\\n\"\x7d]\x7d]\x7d").toUTF8, 0⟩),
        ("s", .ok ⟨.file "\n".toUTF8, 0⟩)]
      ∃ set tokens, RuleSet.load disk "r.json" = .ok set ∧ set.scan "\n" "s" = .ok tokens ∧
        tokens.map fields = [(0, "\n", "\n")] ∧
        (Command.lex false "r.json" (some "s")).run 0 disk ByteArray.empty =
          ⟨0, "0\t\n\t\\n\n", ""⟩ ∧
        ¬ Tells "0\t\n\t\\n\n" (tokens.map fields)) ∧
    ∃ a b c, Rule.ofPattern "a" .natural true (some "A") = .ok a ∧
      Rule.ofPattern "b" .natural true (some "B") = .ok b ∧
      Rule.ofPattern "b" .natural true (some "A\ta\n1\tB") = .ok c ∧
      (RuleSet.new.extendHere [a, b]).scan "ab" = .ok [⟨"a", a, 0⟩, ⟨"b", b, 1⟩] ∧
      (RuleSet.new.insertHere c).scan "b" = .ok [⟨"b", c, 0⟩] ∧
      showTokens false [⟨"a", a, 0⟩, ⟨"b", b, 1⟩] = showTokens false [⟨"b", c, 0⟩] := by
  constructor
  · intro disk
    have heval : ((RuleSet.load disk "r.json").toOption.bind fun set =>
        (set.scan "\n" "s").toOption.map fun tokens =>
          decide (tokens.map fields = [(0, "\n", "\n")] ∧
            showTokens false tokens = "0\t\n\t\\n\n" ∧
            ¬ ∀ t ∈ tokens, Unbroken t.rule.label)) = some true := by
      decide +kernel
    obtain ⟨set, hset, heval⟩ := Option.bind_eq_some_iff.1 heval
    obtain ⟨tokens, htokens, heval⟩ := Option.map_eq_some_iff.1 heval
    obtain ⟨hfields, hshow, hbroken⟩ := of_decide_eq_true heval
    have hrun : (Command.lex false "r.json" (some "s")).run 0 disk ByteArray.empty =
        ⟨0, "0\t\n\t\\n\n", ""⟩ := by decide +kernel
    refine ⟨set, tokens, eq_ok_of_toOption hset, eq_ok_of_toOption htokens, hfields, hrun, ?_⟩
    rw [← hshow]
    exact mt tells_showTokens_iff.1 hbroken
  · have hcompiles : (Regex.compile "a").isOk = true ∧ (Regex.compile "b").isOk = true := by decide
    obtain ⟨a, ha⟩ := Rule.exists_ofPattern hcompiles.1 .natural true (some "A")
    obtain ⟨b, hb⟩ := Rule.exists_ofPattern hcompiles.2 .natural true (some "B")
    obtain ⟨c, hc⟩ := Rule.exists_ofPattern hcompiles.2 .natural true (some "A\ta\n1\tB")
    have heval : ((Rule.ofPattern "a" .natural true (some "A")).toOption.bind fun a =>
        (Rule.ofPattern "b" .natural true (some "B")).toOption.bind fun b =>
          (Rule.ofPattern "b" .natural true (some "A\ta\n1\tB")).toOption.map fun c =>
            decide (((RuleSet.new.extendHere [a, b]).scan "ab").toOption =
                some [⟨"a", a, 0⟩, ⟨"b", b, 1⟩] ∧
              ((RuleSet.new.insertHere c).scan "b").toOption = some [⟨"b", c, 0⟩] ∧
              showTokens false [⟨"a", a, 0⟩, ⟨"b", b, 1⟩] =
                showTokens false [⟨"b", c, 0⟩])) = some true := by
      decide +kernel
    rw [ha, hb, hc] at heval
    obtain ⟨htwo, hone, hshow⟩ := of_decide_eq_true (Option.some.inj heval)
    exact ⟨a, b, c, ha, hb, hc, eq_ok_of_toOption htwo, eq_ok_of_toOption hone, hshow⟩

end CommandLine
end OrderedLexer
