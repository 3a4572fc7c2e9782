import OrderedLexer.Proofs.Regex.ClassRun
import OrderedLexer.Proofs.RuleSet.Batches
import OrderedLexer.Proofs.Scan.Outcome

namespace OrderedLexer

open Text (dropBytes? byteLength blanks)
open Unicode (isWhitespace)

/-!
# Scans that skip whitespace

In a rule set that is made to skip whitespace, the rule for the blanks stands first in the walk, and
it stays there if nothing is inserted into an order below 0. So wherever a scan meets blanks, all of
them are passed over at once.

* `RuleSet.rules_run_first` — the rule for the blanks stays first;
* `RuleSet.firstMatch?_of_blanks` — where there are blanks, the first match is all of them;
* `RuleSet.Cuts.head?_of_captures` — so what is kept does not begin with one;
* `Course.behind`, `Course.tokens_behind` — courses, and what they come to, further behind;
* `RuleSet.courseFrom_behind` — a text that starts further behind is scanned alike;
* `RuleSet.course_append_of_blanks` — blanks in front of a text move its course behind them;
* `RuleSet.head?_of_scan`, `RuleSet.scan_append_of_blanks` — the same for whole scans;
* `RuleSet.scan_skippingWhitespace` — what this comes to for the tokens and the errors.
-/

/-! ### Blanks -/

namespace Text

variable {w u text : List Char}

theorem blanks_eq_nil_iff : blanks text = [] ↔ ∀ c ∈ text.head?, isWhitespace c = false := by
  cases text with
  | nil => simp [blanks]
  | cons c text => cases hc : isWhitespace c <;> simp [blanks, hc]

/-- Blanks in front of a text that does not begin with one are its blanks. -/
theorem blanks_append (hw : ∀ c ∈ w, isWhitespace c = true)
    (hu : ∀ c ∈ u.head?, isWhitespace c = false) : blanks (w ++ u) = w := by
  rw [blanks, List.takeWhile_append_of_pos hw]
  exact (congrArg (w ++ ·) (blanks_eq_nil_iff.2 hu)).trans (List.append_nil w)

end Text

/-! ### Tokens and courses behind a text -/

/-- The token in a text with `n` more bytes in front. -/
def Token.behind (n : Nat) (t : Token) : Token := { t with offset := n + t.offset }

/-- The course in a text with `n` more bytes in front. -/
def Course.behind (n : Nat) (c : Course) : Course where
  found := c.found.map (Token.behind n)
  halt := c.halt
  offset := n + c.offset
  rest := c.rest

theorem Course.kept_behind (n : Nat) (c : Course) :
    (c.behind n).kept = c.kept.map (Token.behind n) := List.filter_map

/-- The course comes to the same further behind. -/
theorem Course.tokens_behind (n : Nat) (c : Course) (ix ix' : LineIndex) (size : Nat) :
    (∀ tokens, (c.behind n).tokens ix' size = .ok tokens ↔
      ∃ tokens', c.tokens ix size = .ok tokens' ∧ tokens = tokens'.map (Token.behind n)) ∧
    (∀ p window location, (c.behind n).tokens ix' size = .error (.noMatch p window location) ↔
      ∃ p' location', c.tokens ix size = .error (.noMatch p' window location') ∧ p = n + p' ∧
        location = ix'.point p) ∧
    (∀ pattern location, (c.behind n).tokens ix' size = .error (.emptyMatch pattern location) ↔
      c.tokens ix size = .error (.emptyMatch pattern (ix.point c.offset)) ∧
        location = ix'.point (n + c.offset)) := by
  rw [tokens, kept_behind]
  obtain ⟨found, halt, p, ahead⟩ := c
  cases halt with
  | finished => simp [behind, tokens, eq_comm]
  | noMatch =>
    refine ⟨by simp [behind, tokens], fun q window location => ⟨fun h => ?_, ?_⟩,
      by simp [behind, tokens]⟩
    · obtain ⟨rfl, rfl, rfl⟩ := ScanError.noMatch.inj (Except.error.inj h)
      exact ⟨p, _, rfl, rfl, rfl⟩
    · rintro ⟨q', location', h, rfl, rfl⟩
      obtain ⟨rfl, rfl, -⟩ := ScanError.noMatch.inj (Except.error.inj h)
      rfl
  | emptyMatch r => simp [behind, tokens, eq_comm]

namespace RuleSet

variable {set : RuleSet} {r : Rule} {rules : List Rule} {changes : List Change}
  {w u text : List Char} {ps : List Token} {p : Nat}

/-- **Shift.** A text that starts further behind is scanned alike. -/
theorem courseFrom_behind (rules : List Rule) (n offset : Nat) (text : List Char) :
    courseFrom rules (n + offset) text = (courseFrom rules offset text).behind n := by
  fun_induction courseFrom rules offset text with
  | case1 offset =>
    rw [courseFrom, if_pos rfl]
    rfl
  | case2 offset text hne hnone =>
    rw [courseFrom, if_neg hne, hnone]
    rfl
  | case3 offset text hne s hsome =>
    rw [courseFrom, if_neg hne, hsome]
    rfl
  | case4 offset text hne matched s hsome hmatched course ih =>
    rw [courseFrom, if_neg hne, hsome]
    simp only [if_neg hmatched]
    rw [Nat.add_assoc, ih]
    rfl

/-! ### The walk -/

/-- **Walk.** If no order below 0 is named, a rule that was inserted into order 0 as the first of
    all, and is immediate, stays the first of the walk. -/
theorem rules_run_first (hpriority : r.priority = .immediate)
    (hnamed : ∀ key s, Change.insert key s ∈ changes → OrderKey.zero ≤ key) :
    ∃ rest, ((new.insertHere r).run changes).rules = r :: rest := by
  have hrecords : ((new.insertHere r).run changes).Records
      ((OrderKey.zero, r) :: (new.insertHere r).log changes)
      ((new.insertHere r).opened changes) :=
    ((records_start none).insertAt OrderKey.zero r).run changes
  have hcursor : OrderKey.zero ≤ (new.insertHere r).cursor := Int.le_refl 0
  generalize (new.insertHere r).run changes = set at hrecords ⊢
  have hzero : OrderKey.zero ∈ set.keys := by
    rw [mem_keys_iff, hrecords.isSome_iff]
    exact .inl List.mem_cons_self
  have hleast : ∀ key ∈ set.keys, OrderKey.zero ≤ key := by
    intro key hkey
    rw [mem_keys_iff, hrecords.isSome_iff] at hkey
    rcases hkey with hkey | hkey
    · obtain ⟨e, he, rfl⟩ := List.mem_map.1 hkey
      rcases List.mem_cons.1 he with rfl | he
      · exact Int.le_refl 0
      · exact le_of_mem_log hcursor hnamed he
    · exact Int.le_trans hcursor (cursor_le_of_mem_opened hkey)
  -- The keys ascend, so the least of them comes first.
  obtain ⟨keys, hkeys⟩ : ∃ keys, set.keys = OrderKey.zero :: keys := by
    have hascending := set.keys_ascending
    cases hkeys : set.keys with
    | nil =>
      rw [hkeys] at hzero
      cases hzero
    | cons key keys =>
      rw [hkeys] at hzero hleast hascending
      rcases List.mem_cons.1 hzero with rfl | hmem
      · exact ⟨keys, rfl⟩
      · exact absurd ((List.pairwise_cons.1 hascending).1 _ hmem)
          (Int.not_lt.2 (hleast key List.mem_cons_self))
  rw [set.rules_eq_flatMap_keys, hkeys, List.flatMap_cons, hrecords.getD_eq,
    ← List.singleton_append, logged_append, logged_self]
  simp [tiers, tier, hpriority]

/-! ### First matches -/

/-- **Blanks.** If the rule for the blanks stands first, the first match where there are blanks is
    all of them. -/
theorem firstMatch?_of_blanks (hpattern : r.pattern = "\\s+") (h : blanks text ≠ []) :
    firstMatch? (r :: rules) text = some (blanks text, r) := by
  rw [firstMatch?, List.findSome?_cons, Rule.matchStart?_whitespace hpattern, if_neg h]
  rfl

/-- What is kept does not begin with a blank. -/
theorem Cuts.head?_of_captures (hrules : set.rules = r :: rules) (hpattern : r.pattern = "\\s+")
    (hcaptures : r.captures = false) (h : set.Cuts text ps p) {t : Token} (ht : t ∈ ps)
    (hkept : t.rule.captures = true) : ∀ c ∈ t.text.toList.head?, isWhitespace c = false := by
  have hfirst := nextMatch?_eq_some_iff.2 (h.first t ht)
  obtain ⟨rest, hrest⟩ : ∃ rest, dropBytes? t.offset text = some rest := by
    obtain ⟨_, _, _, -, hmatch, -, -⟩ := h.first t ht
    obtain ⟨rest, hrest, -⟩ := Option.bind_eq_some_iff.1 hmatch
    exact ⟨rest, hrest⟩
  rw [nextMatch?_of_dropBytes? hrest] at hfirst
  have hnone : blanks rest = [] := by
    by_contra hne
    rw [hrules, firstMatch?_of_blanks hpattern hne] at hfirst
    obtain ⟨-, rfl⟩ := Prod.mk.inj (Option.some.inj hfirst)
    rw [hcaptures] at hkept
    contradiction
  -- The match begins as the rest of the text does.
  intro c hc
  refine Text.blanks_eq_nil_iff.1 hnone c ?_
  rw [eq_append_of_firstMatch? hfirst, List.head?_append, Option.mem_def.1 hc]
  rfl

/-- **Blanks in front.** Blanks in front of a text that does not begin with one move its course
    behind them, and nothing of them is kept. -/
theorem course_append_of_blanks (hrules : set.rules = r :: rules) (hpattern : r.pattern = "\\s+")
    (hcaptures : r.captures = false) (hw : ∀ c ∈ w, isWhitespace c = true)
    (hu : ∀ c ∈ u.head?, isWhitespace c = false) :
    let shifted := (set.course u).behind (byteLength w)
    (set.course (w ++ u)).kept = shifted.kept ∧ (set.course (w ++ u)).halt = shifted.halt ∧
      (set.course (w ++ u)).offset = shifted.offset ∧
      (set.course (w ++ u)).rest = shifted.rest := by
  intro shifted
  have hshifted : shifted = courseFrom set.rules (byteLength w) u :=
    (courseFrom_behind set.rules (byteLength w) 0 u).symm
  by_cases hempty : w = []
  · subst hempty
    rw [hshifted]
    exact ⟨rfl, rfl, rfl, rfl⟩
  · have hblanks : blanks (w ++ u) = w := Text.blanks_append hw hu
    have hfirst : firstMatch? set.rules (w ++ u) = some (w, r) := by
      rw [hrules, firstMatch?_of_blanks hpattern (by rwa [hblanks]), hblanks]
    have hcourse : set.course (w ++ u) =
        { shifted with found := ⟨String.ofList w, r, 0⟩ :: shifted.found } := by
      rw [course, courseFrom, if_neg (by simp [hempty]), hfirst]
      simp only [if_neg hempty]
      rw [Nat.zero_add, List.drop_left, hshifted]
    rw [hcourse]
    refine ⟨?_, rfl, rfl, rfl⟩
    rw [Course.kept, Course.kept, List.filter_cons_of_neg (by simp [hcaptures])]

/-! ### Scans -/

/-- The tokens of a text do not begin with blanks. -/
theorem head?_of_scan (hrules : set.rules = r :: rules) (hpattern : r.pattern = "\\s+")
    (hcaptures : r.captures = false) {text file : String} {size : Nat} {tokens : List Token}
    (hscan : set.scan text file size = .ok tokens) {t : Token} (ht : t ∈ tokens) :
    ∀ c ∈ t.text.toList.head?, isWhitespace c = false := by
  obtain ⟨pieces, hcuts, rfl⟩ := scan_eq_ok_iff.1 hscan
  obtain ⟨ht, hkept⟩ := List.mem_filter.1 ht
  exact hcuts.head?_of_captures hrules hpattern hcaptures ht hkept

/-- With blanks in front, a scan comes to what the course of the other text comes to behind them. -/
theorem scan_append_of_blanks (hrules : set.rules = r :: rules) (hpattern : r.pattern = "\\s+")
    (hcaptures : r.captures = false) {w u : String} (hw : ∀ c ∈ w.toList, isWhitespace c = true)
    (hu : ∀ c ∈ u.toList.head?, isWhitespace c = false) (file : String) (size : Nat) :
    set.scan (w ++ u) file size = ((set.course u.toList).behind (byteLength w.toList)).tokens
      (LineIndex.ofText file (w ++ u).toList) size := by
  obtain ⟨hkept, hhalt, hoffset, hahead⟩ :=
    course_append_of_blanks hrules hpattern hcaptures hw hu
  simp only [scan, String.toList_append, Course.tokens, Course.window, hkept, hhalt, hoffset,
    hahead]

/-- **Skipping whitespace.** A rule set that skips whitespace can be made. After any changes that
    name no order below 0,

    * the rule for the blanks stands first in the walk;
    * no token of a text begins with a blank;
    * with blanks in front of a text that does not begin with one, the scan gives tokens exactly if
      it does without them, namely the same tokens further behind; no rule matches exactly if none
      does without them, further behind and with the same window; and an empty match is refused
      exactly if it is without them, for the same pattern and further behind: in each case by as
      many bytes as the blanks have. -/
theorem scan_skippingWhitespace : ∃ made blank, skippingWhitespace = .ok made ∧
    Rule.ofPattern "\\s+" .immediate false = .ok blank ∧
    ∀ changes : List Change,
      (∀ key r, Change.insert key r ∈ changes → OrderKey.zero ≤ key) →
      let set := made.run changes
      (∃ rest, set.rules = blank :: rest) ∧
      (∀ (text file : String) (size : Nat) (tokens : List Token),
        set.scan text file size = .ok tokens →
          ∀ t ∈ tokens, ∀ c ∈ t.text.toList.head?, isWhitespace c = false) ∧
      ∀ (w u file : String) (size : Nat), (∀ c ∈ w.toList, isWhitespace c = true) →
        (∀ c ∈ u.toList.head?, isWhitespace c = false) →
        let length := byteLength w.toList
        let place := (LineIndex.ofText file (w ++ u).toList).point
        (∀ tokens, set.scan (w ++ u) file size = .ok tokens ↔
          ∃ tokens', set.scan u file size = .ok tokens' ∧
            tokens = tokens'.map fun t => { t with offset := length + t.offset }) ∧
        (∀ p window location, set.scan (w ++ u) file size = .error (.noMatch p window location) ↔
          ∃ p' location', set.scan u file size = .error (.noMatch p' window location') ∧
            p = length + p' ∧ location = place p) ∧
        (∀ pattern location, set.scan (w ++ u) file size = .error (.emptyMatch pattern location) ↔
          set.scan u file size = .error (.emptyMatch pattern
              ((LineIndex.ofText file u.toList).point (set.course u.toList).offset)) ∧
            location = place (length + (set.course u.toList).offset)) := by
  have hcompiles : (Regex.compile "\\s+").isOk = true := by
    rw [Regex.compile_whitespace]
    rfl
  obtain ⟨blank, hblank⟩ := Rule.exists_ofPattern hcompiles .immediate false none
  obtain ⟨hpattern, hpriority, hcaptures, -⟩ := Rule.ofPattern_eq_ok_iff.1 hblank
  refine ⟨new.insertHere blank, blank, by rw [skippingWhitespace, hblank]; rfl, hblank,
    fun changes hnamed => ?_⟩
  intro set
  obtain ⟨rest, hrules⟩ : ∃ rest, set.rules = blank :: rest := rules_run_first hpriority hnamed
  refine ⟨⟨rest, hrules⟩, fun text file size tokens hscan t ht =>
    head?_of_scan hrules hpattern hcaptures hscan ht, fun w u file size hw hu => ?_⟩
  intro length place
  rw [scan_append_of_blanks hrules hpattern hcaptures hw hu]
  exact (set.course u.toList).tokens_behind length (LineIndex.ofText file u.toList)
    (LineIndex.ofText file (w ++ u).toList) size

/-- An immediate rule of order 0 stays behind the rule for the blanks, and its match is moved by a
    tab and a line feed in front. -/
theorem scan_skippingWhitespace_immediate : ∃ made blank a, skippingWhitespace = .ok made ∧
    Rule.ofPattern "\\s+" .immediate false = .ok blank ∧
    Rule.ofPattern "a" .immediate = .ok a ∧
    let set := made.run [.insert OrderKey.zero a, .advance]
    (∃ rest, set.rules = blank :: rest) ∧ set.scan "a" = .ok [⟨"a", a, 0⟩] ∧
      set.scan "\t\na" = .ok [⟨"a", a, 2⟩] := by
  have hcompiles : (Regex.compile "a").isOk = true := by decide
  obtain ⟨a, ha⟩ := Rule.exists_ofPattern hcompiles .immediate true none
  obtain ⟨made, blank, hmade, hblank, hchanges⟩ := scan_skippingWhitespace
  have hnamed : ∀ key r, Change.insert key r ∈ [.insert OrderKey.zero a, .advance] →
      OrderKey.zero ≤ key := by
    intro key r h
    obtain ⟨rfl, -⟩ : key = OrderKey.zero ∧ r = a := by simpa using h
    exact Int.le_refl 0
  obtain ⟨hfirst, -, hscans⟩ := hchanges [.insert OrderKey.zero a, .advance] hnamed
  have heval : (skippingWhitespace.toOption.bind fun made =>
      (Rule.ofPattern "a" .immediate).toOption.map fun a =>
        decide ((made.run [.insert OrderKey.zero a, .advance]).course "a".toList =
          ⟨[⟨"a", a, 0⟩], .finished, 1, []⟩ ∧ a.captures = true)) = some true := by
    decide +kernel
  rw [hmade, ha] at heval
  obtain ⟨hcourse, hcaptures⟩ := of_decide_eq_true (Option.some.inj heval)
  have hscan : (made.run [.insert OrderKey.zero a, .advance]).scan "a" = .ok [⟨"a", a, 0⟩] := by
    rw [scan, hcourse]
    simp [Course.tokens, Course.kept, hcaptures]
  have hblanks : ∀ c ∈ "\t\n".toList, isWhitespace c = true := List.all_eq_true.1 (by decide)
  have hletter : isWhitespace 'a' = false := by decide
  obtain ⟨htokens, -, -⟩ := hscans "\t\n" "a" "<input>" Course.windowSize hblanks
    (by simpa using hletter)
  exact ⟨made, blank, a, hmade, hblank, ha, hfirst, hscan, (htokens _).2 ⟨_, hscan, rfl⟩⟩

end RuleSet
end OrderedLexer
