import OrderedLexer.Proofs.RuleFile.Plain.Meaning
import Mathlib.Data.List.Forall2

namespace OrderedLexer.RuleFile.Plain

/-!
# Where a plain rule file is refused

A plain rule file whose lines are all lines of the grammar is read up to its end, or up to the first
rule that lies below the floor. Inside a pattern a carriage return may stand anywhere.

* `Indented`, `indented_skip` — a statement stands behind whitespace in its line;
* `Leads` — what lines do to a draft, up to a refused rule;
* `FaultOf` — the fault of a refusal spans the rule;
* `statement_of_leads`, `statements_of_leads` — what is read is what the lines do;
* `Writes` — a text writes rules with their orders, and a floor;
* `ofPlain_of_writes`, `ofPlain_of_writes_below` — it is loaded, or refused where a rule lies below.
-/

variable {draft last : Draft} {c : Cursor} {line : Line} {lines front : List Line} {r : Rule}
  {text : List Char} {key k : OrderKey} {start : Option OrderKey}
  {entries done more : List (OrderKey × Rule)}

/-! ### Where a line starts -/

/-- A text ends with some whitespace of a line, and whole lines before it. -/
def Indented (text : List Char) : Prop :=
  ∃ before indent, text = before ++ indent ∧ (∀ ch ∈ before.getLast?, ch = '\n') ∧
    ∀ ch ∈ indent, Unicode.isWhitespace ch = true ∧ ch ≠ '\n'

theorem indented_feed (text : List Char) : Indented (text ++ ['\n']) := by
  refine ⟨text ++ ['\n'], [], (List.append_nil _).symm, fun ch hch => ?_, nofun⟩
  rw [List.getLast?_concat] at hch
  exact (Option.some.inj hch).symm

theorem Indented.concat {ch : Char} (h : Indented text) (hspace : Unicode.isWhitespace ch = true) :
    Indented (text ++ [ch]) := by
  by_cases hfeed : ch = '\n'
  · exact hfeed ▸ indented_feed text
  · obtain ⟨before, indent, rfl, hended, hindent⟩ := h
    refine ⟨before, indent ++ [ch], List.append_assoc _ _ _, hended, ?_⟩
    exact List.forall_mem_append.2 ⟨hindent, List.forall_mem_singleton.2 ⟨hspace, hfeed⟩⟩

/-- What is skipped ends with the whitespace before a statement, whether it starts in a comment, in
    the whitespace of a line, or where the line has nothing else. -/
theorem indented_skip {comment : Bool} {passed : List Char}
    (h : comment = false → Indented passed ∨
      ∀ ch ∈ text.takeWhile notLineFeed, Unicode.isWhitespace ch = true)
    (hlt : blankLength comment text < text.length) :
    Indented (passed ++ text.take (blankLength comment text)) := by
  induction text generalizing comment passed with
  | nil => simp at hlt
  | cons ch text ih =>
    -- One more character is skipped, and `comment'` tells where that leads to.
    have hmore : ∀ comment', blankLength comment (ch :: text) = blankLength comment' text + 1 →
        (comment' = false → Indented (passed ++ [ch]) ∨
          ∀ x ∈ text.takeWhile notLineFeed, Unicode.isWhitespace x = true) →
        Indented (passed ++ (ch :: text).take (blankLength comment (ch :: text))) := by
      intro comment' hcons hnext
      rw [hcons, List.length_cons] at hlt
      rw [hcons, List.take_succ_cons, List.append_cons]
      exact ih hnext (Nat.lt_of_succ_lt_succ hlt)
    cases comment with
    | true =>
      refine hmore (ch != '\n') rfl fun hend => .inl ?_
      have hfeed : ch = '\n' := by simpa using hend
      exact hfeed ▸ indented_feed passed
    | false =>
      by_cases hsharp : ch = '#'
      · exact hmore true (by rw [blankLength, if_pos hsharp]) (fun hfalse => by contradiction)
      by_cases hspace : Unicode.isWhitespace ch = true
      · refine hmore false (by rw [blankLength, if_neg hsharp, if_pos hspace]) fun _ => ?_
        by_cases hfeed : ch = '\n'
        · exact .inl (hfeed ▸ indented_feed passed)
        rcases h rfl with hpassed | hline
        · exact .inl (hpassed.concat hspace)
        · rw [List.takeWhile_cons_of_pos (by simpa [notLineFeed] using hfeed)] at hline
          exact .inr fun x hx => hline x (List.mem_cons_of_mem ch hx)
      · -- Nothing is skipped before the statement, so the line has something else than whitespace.
        rw [blankLength, if_neg hsharp, if_neg hspace, List.take_zero, List.append_nil]
        refine (h rfl).resolve_right fun hline => hspace (hline ch ?_)
        have hbreak := notBreak_of_not_isWhitespace (Bool.eq_false_iff.2 hspace)
        have hch : notLineFeed ch = true := (Bool.and_eq_true_iff.1 hbreak).1
        rw [List.takeWhile_cons_of_pos hch]
        exact List.mem_cons_self

/-- In the line of a cursor stands nothing but whitespace before it, or nothing but whitespace
    behind it. -/
def Apart (c : Cursor) : Prop :=
  Indented c.passed.reverse ∨
    ∀ ch ∈ c.ahead.takeWhile notLineFeed, Unicode.isWhitespace ch = true

/-- Before a statement stands whitespace. -/
theorem Apart.skipBlankLines (h : Apart c) (hne : (skipBlankLines c).ahead ≠ []) :
    Indented (skipBlankLines c).passed.reverse := by
  have hlt : blankLength false c.ahead < c.ahead.length := by
    have hlength := List.length_pos_of_ne_nil hne
    rw [Plain.skipBlankLines, Cursor.ahead_advanceBy, List.length_drop] at hlength
    omega
  rw [Plain.skipBlankLines, Cursor.advanceBy, List.reverse_append, List.reverse_reverse]
  exact indented_skip (fun _ => h) hlt

/-- At the end of a line stands nothing behind a cursor. -/
theorem apart_of_behind (h : c.ahead = text.dropWhile notLineFeed ∨
    c.ahead = '\r' :: text.dropWhile notLineFeed) : Apart c := by
  have hnil : (text.dropWhile notLineFeed).takeWhile notLineFeed = [] := by
    have hhead := head?_dropWhile notLineFeed text
    cases hrest : text.dropWhile notLineFeed with
    | nil => rfl
    | cons ch rest =>
      rw [hrest] at hhead
      exact List.takeWhile_cons_of_neg (by rw [hhead ch rfl]; decide)
  rcases h with h | h
  · refine .inr fun ch hch => ?_
    rw [h, hnil] at hch
    contradiction
  · refine .inr fun ch hch => ?_
    rw [h, List.takeWhile_cons_of_pos (by decide), hnil] at hch
    rw [List.mem_singleton.1 hch]
    decide

/-! ### Lines and refusals -/

/-- A rule that is refused. -/
structure Refusal where
  error : InvalidOrder
  rule : Rule
  /-- The lines behind the rule. -/
  behind : List Line

variable {refusal? : Option Refusal}

/-- What lines do to a draft, one after the other, up to a rule that is refused. -/
inductive Leads : Draft → List Line → Draft → Option Refusal → Prop
  | nil (draft : Draft) : Leads draft [] draft none
  | cons {draft next last : Draft} {line : Line} {lines : List Line} {refusal? : Option Refusal} :
      Step draft line next → Leads next lines last refusal? →
      Leads draft (line :: lines) last refusal?
  | refused {draft : Draft} {r : Rule} {e : InvalidOrder} {behind : List Line} :
      draft.set.insert? draft.order r = .error e →
      Leads draft (.rule r :: behind) draft (some ⟨e, r, behind⟩)

theorem leads_nothing_iff :
    Leads draft (.nothing :: lines) last refusal? ↔ Leads draft lines last refusal? := by
  constructor
  · intro h
    cases h with
    | cons hstep hleads =>
      cases hstep
      exact hleads
  · exact .cons .nothing

/-- Lines that are all read come before those that lead on. -/
theorem Steps.leads {next : Draft} (h : Steps draft front next)
    (hleads : Leads next lines last refusal?) : Leads draft (front ++ lines) last refusal? := by
  induction h with
  | nil draft => exact hleads
  | cons hstep _ ih => exact .cons hstep (ih hleads)

/-- The fault of a refusal spans the rule, which stands behind some whitespace and runs to the end
    of its line. The lines behind it tell which line it is. -/
inductive FaultOf (content : List Char) : Option Refusal → Option Fault → Prop
  | none : FaultOf content none none
  | refused {refusal : Refusal} {before indent line behind : List Char} :
      content = before ++ (indent ++ line) ++ behind → (∀ ch ∈ before.getLast?, ch = '\n') →
      (∀ ch ∈ indent, Unicode.isWhitespace ch = true ∧ ch ≠ '\n') →
      RuleText (trimReturn line) refusal.rule → '\n' ∉ line → (∀ ch ∈ behind.head?, ch = '\n') →
      behind.count '\n' = refusal.behind.length →
      FaultOf content (some refusal) (some ⟨.invalidOrder refusal.error,
        Text.byteLength (before ++ indent), Text.byteLength (before ++ (indent ++ line))⟩)

/-- There is one more line than there are line feeds. -/
theorem length_linesOf (text : List Char) : (linesOf text).length = text.count '\n' + 1 := by
  unfold linesOf
  rw [List.length_map]
  induction text with
  | nil => rfl
  | cons ch text ih =>
    rw [List.splitOn_cons_eq_if_modifyHead]
    by_cases hfeed : ch = '\n'
    · subst hfeed
      simp [ih]
    · simp [ih, hfeed]

theorem lineText_rule_iff : LineText Blanks text (.rule r) ↔ RuleText text r := by
  constructor
  · intro h
    cases h with
    | directive hdirective _ => cases hdirective
    | rule hrule => exact hrule
  · exact .rule

/-- A rule that is refused is a fault, and the fault spans the rule. -/
theorem statement_refused {e : InvalidOrder} {behind : List Line}
    (hindented : Indented c.passed.reverse)
    (hrule : RuleText (trimReturn (c.ahead.takeWhile notLineFeed)) r)
    (hrefused : draft.set.insert? draft.order r = .error e)
    (hbehind : (c.ahead.dropWhile notLineFeed).count '\n' = behind.length) :
    ∃ fault, statement draft c = .error fault ∧
      FaultOf c.text (some ⟨e, r, behind⟩) (some fault) := by
  have hsplit := c.ahead.takeWhile_append_dropWhile (p := notLineFeed)
  obtain ⟨before, indent, hpassed, hended, hindent⟩ := hindented
  have hcontent : c.text = before ++ (indent ++ c.ahead.takeWhile notLineFeed) ++
      c.ahead.dropWhile notLineFeed := by
    rw [← List.append_assoc, ← hpassed, List.append_assoc, hsplit]
    rfl
  obtain ⟨c', hc', htext, hread⟩ := exists_rule hrule
  have hstatement : statement draft c = .error ⟨.invalidOrder e, c.pos, c'.pos⟩ := by
    obtain ⟨cr, hcr, -⟩ := exists_trimReturn_append (c.ahead.takeWhile notLineFeed)
    rw [hcr, List.append_assoc] at hsplit
    have hrefusal := hread draft
    rw [hrefused] at hrefusal
    unfold statement
    rw [hrule.skip?_eq_none hsplit.symm]
    exact hrefusal
  have hpos : c.pos = Text.byteLength (before ++ indent) := by
    rw [← hpassed, Text.byteLength_reverse, Cursor.pos]
  have hpos' : c'.pos =
      Text.byteLength (before ++ (indent ++ c.ahead.takeWhile notLineFeed)) := by
    refine Cursor.pos_of_text ?_
    rw [htext, hc', hcontent]
  refine ⟨_, hstatement, ?_⟩
  rw [hpos, hpos']
  refine .refused hcontent hended hindent hrule (fun hfeed => ?_) (fun ch hch => ?_) hbehind
  · exact absurd (List.mem_takeWhile_imp hfeed) (by decide)
  · simpa [notLineFeed] using head?_dropWhile notLineFeed c.ahead ch hch

/-- **Statement.** Where lines lead on, a statement is read and the lines behind it lead on, or its
    rule is refused. -/
theorem statement_of_leads (hindented : Indented c.passed.reverse)
    (hstart : ∀ ch ∈ c.ahead.head?, Unicode.isWhitespace ch = false ∧ ch ≠ '#')
    (hne : c.ahead ≠ []) (h : Tells (Leads draft · last refusal?) c.ahead) :
    (∃ next rest, statement draft c = .ok (next, rest) ∧ Apart rest ∧
      Tells (Leads next · last refusal?) rest.ahead) ∨
    (last = draft ∧ ∃ fault, statement draft c = .error fault ∧
      FaultOf c.text refusal? (some fault)) := by
  obtain ⟨line, hline, lines, hall, hleads⟩ := (tells_statement fun ch hch => (hstart ch hch).1).1 h
  cases hleads with
  | @cons _ next _ _ _ _ hstep hleads =>
    obtain ⟨rest, hread, hrest⟩ := exists_statement hline (ne_nothing hstart hne hline) hstep
    refine .inl ⟨next, rest, hread, apart_of_behind hrest,
      (tells_behind (fun _ => leads_nothing_iff) hrest).2 ?_⟩
    exact ⟨_, hall, leads_nothing_iff.2 hleads⟩
  | refused hrefused =>
    have hcount : (c.ahead.dropWhile notLineFeed).count '\n' = lines.length := by
      have hlength := hall.length_eq
      rw [length_linesOf, List.length_cons] at hlength
      exact Nat.succ.inj hlength
    exact .inr ⟨rfl, statement_refused hindented (lineText_rule_iff.1 hline) hrefused hcount⟩

/-- **Run.** The statements of a text do what its lines do. -/
theorem statements_of_leads (hapart : Apart c) (h : Tells (Leads draft · last refusal?) c.ahead) :
    ∃ fault?, statements draft c = (last, fault?) ∧ FaultOf c.text refusal? fault? := by
  have hskip : ∀ (draft : Draft) (c : Cursor), Tells (Leads draft · last refusal?) c.ahead →
      Tells (Leads draft · last refusal?) (skipBlankLines c).ahead :=
    fun _ c => (tells_drop (fun _ => leads_nothing_iff) c.ahead).1.2
  have htext : ∀ c : Cursor, (skipBlankLines c).text = c.text := fun c => c.text_advanceBy _
  -- Induction along the statements: each is the first line of what is left.
  fun_induction statements draft c with
  | case1 draft c c' hend =>
    have hnil : c'.ahead = [] := by simpa [Cursor.isExhausted] using hend
    have htold := hskip draft c h
    rw [hnil] at htold
    have hlines : linesOf [] = [[]] := rfl
    obtain ⟨lines, hall, hleads⟩ := (tells_iff_of_nothing (fun _ => leads_nothing_iff) hlines
      fun line => lineText_nil_iff).1 htold
    cases hall
    cases hleads
    exact ⟨none, rfl, .none⟩
  | case2 draft c c' hend next rest hread ih =>
    have hne : c'.ahead ≠ [] := by simpa [Cursor.isExhausted] using hend
    rcases statement_of_leads (hapart.skipBlankLines hne) (head?_drop c.ahead false) hne
      (hskip draft c h) with ⟨next', rest', hread', hrest, htold⟩ | ⟨-, fault, hread', -⟩
    · obtain ⟨rfl, rfl⟩ := Prod.mk.inj (Except.ok.inj (hread.symm.trans hread'))
      rw [← htext c, ← text_of_statement hread]
      exact ih hrest htold
    · rw [hread] at hread'
      contradiction
  | case3 draft c c' hend fault hread =>
    have hne : c'.ahead ≠ [] := by simpa [Cursor.isExhausted] using hend
    rcases statement_of_leads (hapart.skipBlankLines hne) (head?_drop c.ahead false) hne
      (hskip draft c h) with ⟨next, rest, hread', -⟩ | ⟨rfl, fault', hread', hfault⟩
    · rw [hread] at hread'
      contradiction
    · obtain rfl := Except.error.inj (hread.symm.trans hread')
      rw [← htext c]
      exact ⟨some fault, rfl, hfault⟩

/-! ### The rules of lines -/

/-- A text writes rules with their orders, and a floor: its lines are lines of the grammar, no
    `@start` comes behind a rule, the last one sets the floor, and the rules come in this sequence,
    each where the directives before it have set its order. -/
def Writes (start : Option OrderKey) (entries : List (OrderKey × Rule)) (text : List Char) : Prop :=
  ∃ lines, List.Forall₂ (LineText Blanks) (linesOf text) lines ∧ StartsFirst lines ∧
    floorOf lines = start ∧ entriesFrom OrderKey.zero lines = entries

/-- Before the line of a rule stand the lines of the rules before it, which leave its order. -/
theorem exists_eq_append (h : entriesFrom key lines = done ++ (k, r) :: more) :
    ∃ front back, lines = front ++ .rule r :: back ∧ entriesFrom key front = done ∧
      front.foldl Line.orderAfter key = k := by
  induction lines generalizing key done with
  | nil => simp [entriesFrom] at h
  | cons line lines ih =>
    rw [entriesFrom_cons] at h
    cases hrule : line.rule? with
    | none =>
      rw [hrule] at h
      obtain ⟨front, back, rfl, hentries, hk⟩ := ih h
      refine ⟨line :: front, back, rfl, ?_, hk⟩
      rw [entriesFrom_cons, hrule, hentries]
      rfl
    | some s =>
      obtain rfl : line = .rule s := by
        cases line <;> simp_all [Line.rule?]
      cases done with
      | nil =>
        obtain ⟨hhead, -⟩ := List.cons.inj h
        obtain ⟨rfl, rfl⟩ := Prod.mk.inj hhead
        exact ⟨[], lines, rfl, rfl, rfl⟩
      | cons d done =>
        obtain ⟨rfl, htail⟩ := List.cons.inj h
        obtain ⟨front, back, rfl, hentries, hk⟩ := ih htail
        refine ⟨.rule s :: front, back, rfl, ?_, hk⟩
        rw [entriesFrom_cons]
        exact congrArg ((key, s) :: ·) hentries

/-- The order that lines leave. -/
theorem Steps.order_eq (h : Steps draft lines last) :
    last.order = lines.foldl Line.orderAfter draft.order := by
  induction h with
  | nil draft => rfl
  | cons hstep _ ih =>
    rw [ih, List.foldl_cons]
    cases hstep <;> rfl

/-- Behind a rule no floor is set. -/
theorem StartsFirst.floorOf_front (h : StartsFirst (front ++ .rule r :: lines)) :
    StartsFirst front ∧ floorOf (front ++ .rule r :: lines) = floorOf front := by
  obtain ⟨hfront, hback, -⟩ := List.pairwise_append.1 h
  have hnone : ∀ line ∈ Line.rule r :: lines, line.start? = none :=
    List.forall_mem_cons.2 ⟨rfl, (startsFirst_cons.1 hback).1 rfl⟩
  refine ⟨hfront, ?_⟩
  unfold floorOf
  rw [List.filterMap_append, List.filterMap_eq_nil_iff.2 hnone, List.append_nil]

/-! ### Files -/

/-- A location spans the rule that a text tells behind the rules of `done`, from its first character
    to the end of its line. -/
def LocatesRule (origin : String) (content : List Char) (done : List (OrderKey × Rule)) (r : Rule)
    (location : Location) : Prop :=
  ∃ front back before indent line behind,
    List.Forall₂ (LineText Blanks) (linesOf content) (front ++ .rule r :: back) ∧
    entriesFrom OrderKey.zero front = done ∧
    content = before ++ (indent ++ line) ++ behind ∧
    -- The line is the one behind those of `front`, which are whole.
    before.count '\n' = front.length ∧ (∀ ch ∈ before.getLast?, ch = '\n') ∧
    -- In it, nothing but whitespace stands before the rule.
    (∀ ch ∈ indent, Unicode.isWhitespace ch = true ∧ ch ≠ '\n') ∧
    '\n' ∉ line ∧ (∀ ch ∈ behind.head?, ch = '\n') ∧ RuleText (trimReturn line) r ∧
    location = (LineIndex.ofText origin content).span (Text.byteLength (before ++ indent))
      (Text.byteLength (before ++ (indent ++ line)))

/-- Before the start of a text stands nothing. -/
theorem apart_ofText (origin text : String) : Apart (Cursor.ofText origin text) :=
  .inl ⟨[], [], rfl, nofun, nofun⟩

/-- **Files.** A text that writes rules is loaded if none of them lies below the floor: the rules
    are inserted in their sequence. -/
theorem ofPlain_of_writes (origin : String) {content : String}
    (h : Writes start entries content.toList)
    (hfloor : ∀ e ∈ entries, ¬ (RuleSet.start start).Below e.1) :
    RuleSet.ofPlain (Cursor.ofText origin content) =
      .ok ((RuleSet.start start).insertAll entries) := by
  obtain ⟨lines, hall, hfirst, rfl, rfl⟩ := h
  obtain ⟨last, hsteps, hset⟩ := steps_start_iff.2
    ⟨hfirst, fun e he => (not_below_start_iff _ _).1 (hfloor e he), rfl⟩
  have hleads := hsteps.leads (.nil last)
  rw [List.append_nil] at hleads
  have htold : Tells (Leads {} · last none) (Cursor.ofText origin content).ahead :=
    ⟨lines, hall, hleads⟩
  obtain ⟨fault?, hread, hfault⟩ := statements_of_leads (apart_ofText origin content) htold
  cases hfault
  exact ofPlain_eq_ok_iff_statements.2 ⟨last, hread, hset⟩

/-- **Refused files.** A text that writes rules is refused at the first of them that lies below the
    floor, and the location spans this rule. -/
theorem ofPlain_of_writes_below (origin : String) {content : String} {e : InvalidOrder}
    (h : Writes start (done ++ (key, r) :: more) content.toList)
    (hfloor : ∀ e ∈ done, ¬ (RuleSet.start start).Below e.1)
    (hrefused : (RuleSet.start start).insert? key r = .error e) :
    ∃ location, RuleSet.ofPlain (Cursor.ofText origin content) =
        .error (.plain (.invalidOrder e) location) ∧
      LocatesRule origin content.toList done r location := by
  obtain ⟨lines, hall, hfirst, rfl, hentries⟩ := h
  obtain ⟨front, back, rfl, rfl, rfl⟩ := exists_eq_append hentries
  obtain ⟨hstarts, hsame⟩ := hfirst.floorOf_front
  rw [hsame] at hfloor hrefused
  -- The lines before the rule insert the rules of `done` and leave the order.
  obtain ⟨last, hsteps, hset⟩ := steps_start_iff.2
    ⟨hstarts, fun e he => (not_below_start_iff _ _).1 (hfloor e he), rfl⟩
  have hrefusal : last.set.insert? last.order r = .error e := by
    rw [RuleSet.insert?_eq_error_iff] at hrefused ⊢
    rw [hset, RuleSet.insertAll_floor, hsteps.order_eq]
    exact hrefused
  have htold : Tells (Leads {} · last (some ⟨e, r, back⟩)) (Cursor.ofText origin content).ahead :=
    ⟨_, hall, hsteps.leads (.refused hrefusal)⟩
  obtain ⟨fault?, hread, hfault⟩ := statements_of_leads (apart_ofText origin content) htold
  cases hfault with
  | @refused _ before indent line behind hcontent hended hindent hrule hfeed hend hcount =>
    have hsplit : content.toList = before ++ (indent ++ line) ++ behind := hcontent
    have hbehind : behind.count '\n' = back.length := hcount
    have hlines : before.count '\n' = front.length := by
      have hlength := hall.length_eq
      have hindentFeed : '\n' ∉ indent := fun hmem => (hindent _ hmem).2 rfl
      rw [length_linesOf, hsplit, List.count_append, List.count_append, List.count_append, hbehind,
        List.count_eq_zero_of_not_mem hfeed, List.count_eq_zero_of_not_mem hindentFeed,
        List.length_append, List.length_cons] at hlength
      omega
    refine ⟨_, ?_, front, back, before, indent, line, behind, hall, rfl, hsplit, hlines, hended,
      hindent, hfeed, hend, hrule, rfl⟩
    have hreadAll : read (Cursor.ofText origin content) =
      statements {} (Cursor.ofText origin content) := rfl
    unfold RuleSet.ofPlain Reading.ofPlain
    rw [hreadAll, hread]
    rfl

end OrderedLexer.RuleFile.Plain
