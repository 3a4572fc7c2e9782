import OrderedLexer.Proofs.RuleFile.Plain.LineByLine
import OrderedLexer.RuleFile.Load

namespace OrderedLexer.RuleFile.Plain

/-!
# The meaning of plain rule files

A plain rule file is loaded exactly if its lines describe a rule set, and then this one.

* `Remaining` — what lines come to behind others, of which floor, order and rules are known;
* `remaining_cons`, `remaining_start`, `remaining_rule` — what one line adds;
* `step_iff_of_none`, `step_start_iff`, `step_rule_iff` — what one line does to a draft;
* `steps_iff` — what lines do to a draft is what they come to;
* `ofPlain_eq_ok_iff` — the rule sets of plain rule files.
-/

variable {floor : Option OrderKey} {key : OrderKey} {entries : List (OrderKey × Rule)}
  {line : Line} {lines : List Line} {set : RuleSet} {draft : Draft}

/-! ### One line -/

theorem entriesFrom_cons (key : OrderKey) (line : Line) (lines : List Line) :
    entriesFrom key (line :: lines) =
      line.rule?.toList.map (key, ·) ++ entriesFrom (line.orderAfter key) lines := rfl

theorem floorOf_cons (line : Line) (lines : List Line) :
    floorOf (line :: lines) = (floorOf lines).or line.start? := by
  unfold floorOf
  cases hstart : line.start? with
  | none => rw [List.filterMap_cons_none hstart, Option.or_none]
  | some key =>
    rw [List.filterMap_cons_some hstart, List.getLast?_cons]
    cases (lines.filterMap Line.start?).getLast? <;> rfl

theorem floorOf_eq_none (h : ∀ line ∈ lines, line.start? = none) : floorOf lines = none := by
  unfold floorOf
  rw [List.getLast?_eq_none_iff, List.filterMap_eq_nil_iff]
  exact h

theorem startsFirst_cons : StartsFirst (line :: lines) ↔
    (line.rule?.isSome → ∀ other ∈ lines, other.start? = none) ∧ StartsFirst lines := by
  unfold StartsFirst
  rw [List.pairwise_cons]
  exact and_congr_left fun _ =>
    ⟨fun h hr other ho => h other ho hr, fun h other ho hr => h hr other ho⟩

/-- What lines come to, behind lines that set the floor, left the order `key`, and told the rules of
    `entries`. -/
def Remaining (floor : Option OrderKey) (key : OrderKey) (entries : List (OrderKey × Rule))
    (lines : List Line) (set : RuleSet) : Prop :=
  (entries ≠ [] → ∀ line ∈ lines, line.start? = none) ∧
  StartsFirst lines ∧
  (∀ e ∈ entriesFrom key lines, ∀ low ∈ (floorOf lines).or floor, low ≤ e.1) ∧
  set = (RuleSet.start ((floorOf lines).or floor)).insertAll (entries ++ entriesFrom key lines)

/-- A line without a rule and without a floor changes the order at most. -/
theorem remaining_cons (hstart : line.start? = none) (hrule : line.rule? = none) :
    Remaining floor key entries (line :: lines) set ↔
      Remaining floor (line.orderAfter key) entries lines set := by
  unfold Remaining
  rw [floorOf_cons, startsFirst_cons, entriesFrom_cons, hstart, hrule, Option.or_none]
  simp [hstart]

/-- `@start` comes before all rules, and the floor before it does not count. -/
theorem remaining_start {low : OrderKey} : Remaining floor key entries (.start low :: lines) set ↔
    entries = [] ∧ Remaining (some low) low [] lines set := by
  have hfloor : (floorOf (.start low :: lines)).or floor = (floorOf lines).or (some low) := by
    rw [floorOf_cons]
    cases floorOf lines <;> rfl
  have hentries : entriesFrom key (.start low :: lines) = entriesFrom low lines := rfl
  unfold Remaining
  rw [hfloor, startsFirst_cons, hentries]
  constructor
  · rintro ⟨hstarts, ⟨-, hfirst⟩, hlow, hset⟩
    have hnil : entries = [] := by
      by_contra hne
      have := hstarts hne _ List.mem_cons_self
      contradiction
    subst hnil
    exact ⟨rfl, fun hne => absurd rfl hne, hfirst, hlow, hset⟩
  · rintro ⟨rfl, -, hfirst, hlow, hset⟩
    refine ⟨fun hne => absurd rfl hne, ⟨fun hrule => ?_, hfirst⟩, hlow, hset⟩
    contradiction

/-- A key is not refused exactly if it is not less than the floor. -/
theorem not_below_start_iff (floor : Option OrderKey) (key : OrderKey) :
    ¬ (RuleSet.start floor).Below key ↔ ∀ low ∈ floor, low ≤ key := by
  constructor
  · intro h low hlow
    exact Int.not_lt.1 fun hlt => h ⟨low, hlow, hlt⟩
  · rintro h ⟨low, hlow, hlt⟩
    exact Int.not_lt.2 (h low hlow) hlt

/-- A rule does not lie below the floor, and no `@start` comes behind it. -/
theorem remaining_rule {r : Rule} : Remaining floor key entries (.rule r :: lines) set ↔
    ¬ (RuleSet.start floor).Below key ∧ Remaining floor key (entries ++ [(key, r)]) lines set := by
  have hentries : entriesFrom key (.rule r :: lines) = (key, r) :: entriesFrom key lines := rfl
  have hbelow := not_below_start_iff floor key
  have hfloor : (floorOf (.rule r :: lines)) = floorOf lines := by
    rw [floorOf_cons]
    exact Option.or_none
  unfold Remaining
  rw [hfloor, startsFirst_cons, hentries, hbelow, List.append_assoc, List.singleton_append]
  constructor
  · -- No floor is set behind the rule, so the floor is the one before it.
    rintro ⟨-, ⟨hfirst, hrest⟩, hall, hset⟩
    obtain ⟨hkey, hlow⟩ := List.forall_mem_cons.1 hall
    have hnone := hfirst rfl
    rw [floorOf_eq_none hnone, Option.none_or] at hkey
    exact ⟨hkey, fun _ => hnone, hrest, hlow, hset⟩
  · rintro ⟨hkey, hstarts, hrest, hlow, hset⟩
    have hnone := hstarts (by simp)
    have hall : ∀ line ∈ Line.rule r :: lines, line.start? = none :=
      List.forall_mem_cons.2 ⟨rfl, hnone⟩
    refine ⟨fun _ => hall, ⟨fun _ => hnone, hrest⟩, List.forall_mem_cons.2 ⟨?_, hlow⟩, hset⟩
    rw [floorOf_eq_none hnone, Option.none_or]
    exact hkey

/-! ### All lines -/

/-- A line without a rule and without a floor sets the order. -/
theorem step_iff_of_none (hstart : line.start? = none) (hrule : line.rule? = none) {next : Draft} :
    Step draft line next ↔ next = { draft with order := line.orderAfter draft.order } := by
  constructor
  · intro h
    cases h with
    | nothing => rfl
    | next => rfl
    | order key => rfl
    | start key _ => contradiction
    | rule _ => contradiction
  · rintro rfl
    cases line with
    | nothing => exact .nothing
    | next => exact .next
    | order key => exact .order key
    | start key => contradiction
    | rule r => contradiction

/-- `@start` sets the floor and the order, before any rule. -/
theorem step_start_iff {next : Draft} : Step draft (.start key) next ↔
    draft.set.isEmpty = true ∧
      next = { draft with set := RuleSet.startingAt key, order := key } := by
  constructor
  · intro h
    cases h with
    | start _ hempty => exact ⟨hempty, rfl⟩
  · rintro ⟨hempty, rfl⟩
    exact .start key hempty

/-- A rule is inserted into the order chosen, if this does not lie below the floor. -/
theorem step_rule_iff {r : Rule} {next : Draft}
    (hset : draft.set = (RuleSet.start floor).insertAll entries) :
    Step draft (.rule r) next ↔ ¬ (RuleSet.start floor).Below draft.order ∧
      next = { draft with
        set := (RuleSet.start floor).insertAll (entries ++ [(draft.order, r)])
        inserted := (draft.order, r) :: draft.inserted } := by
  have hinsert : ∀ inserted, draft.set.insert? draft.order r = .ok inserted ↔
      ¬ (RuleSet.start floor).Below draft.order ∧
        inserted = (RuleSet.start floor).insertAll (entries ++ [(draft.order, r)]) := by
    intro inserted
    rw [RuleSet.insert?_eq_ok_iff, hset, RuleSet.insertAll_append]
    unfold RuleSet.Below
    rw [RuleSet.insertAll_floor]
    rfl
  constructor
  · intro h
    cases h with
    | rule hok =>
      obtain ⟨hnot, rfl⟩ := (hinsert _).1 hok
      exact ⟨hnot, rfl⟩
  · rintro ⟨hnot, rfl⟩
    exact .rule ((hinsert _).2 ⟨hnot, rfl⟩)

/-- A draft is empty if it holds no rules. -/
theorem isEmpty_insertAll_iff : ((RuleSet.start floor).insertAll entries).isEmpty = true ↔
    entries = [] := by
  unfold RuleSet.isEmpty
  rw [decide_eq_true_iff, RuleSet.size_insertAll]
  show 0 + entries.length = 0 ↔ _
  rw [Nat.zero_add, List.length_eq_zero_iff]

theorem remaining_nil (hset : draft.set = (RuleSet.start floor).insertAll entries) :
    Remaining floor draft.order entries [] set ↔ draft.set = set := by
  have hvalue : (RuleSet.start ((floorOf []).or floor)).insertAll
      (entries ++ entriesFrom draft.order []) = draft.set := by
    rw [hset, entriesFrom, List.append_nil]
    rfl
  unfold Remaining
  rw [hvalue]
  constructor
  · rintro ⟨-, -, -, h⟩
    exact h.symm
  · intro h
    exact ⟨by simp, List.Pairwise.nil, by simp [entriesFrom], h.symm⟩

/-- A first line that leads to one draft at most comes before the others. -/
theorem exists_steps_cons_iff {P : Prop} {next : Draft}
    (hstep : ∀ d, Step draft line d ↔ P ∧ d = next) :
    (∃ draft', Steps draft (line :: lines) draft' ∧ draft'.set = set) ↔
      P ∧ ∃ draft', Steps next lines draft' ∧ draft'.set = set := by
  constructor
  · rintro ⟨draft', hsteps, hset⟩
    cases hsteps with
    | cons hfirst hsteps =>
      obtain ⟨hP, rfl⟩ := (hstep _).1 hfirst
      exact ⟨hP, draft', hsteps, hset⟩
  · rintro ⟨hP, draft', hsteps, hset⟩
    exact ⟨draft', .cons ((hstep next).2 ⟨hP, rfl⟩) hsteps, hset⟩

/-- **Lines.** What lines do to a draft is what they come to. -/
theorem steps_iff (hset : draft.set = (RuleSet.start floor).insertAll entries) :
    (∃ draft', Steps draft lines draft' ∧ draft'.set = set) ↔
      Remaining floor draft.order entries lines set := by
  -- Induction along the lines, with what the draft holds.
  induction lines generalizing draft floor entries with
  | nil =>
    rw [remaining_nil hset]
    constructor
    · rintro ⟨draft', hsteps, rfl⟩
      cases hsteps
      rfl
    · intro h
      exact ⟨draft, .nil draft, h⟩
  | cons line lines ih =>
    -- The lines that only set the order are of one kind.
    have hquiet (hstart : line.start? = none) (hrule : line.rule? = none) :
        (∃ draft', Steps draft (line :: lines) draft' ∧ draft'.set = set) ↔
          Remaining floor draft.order entries (line :: lines) set := by
      have hstep : ∀ d, Step draft line d ↔
          True ∧ d = { draft with order := line.orderAfter draft.order } := fun d =>
        (step_iff_of_none hstart hrule).trans (iff_of_eq (true_and _)).symm
      rw [exists_steps_cons_iff hstep, true_and, remaining_cons hstart hrule]
      exact ih hset
    cases line with
    | nothing => exact hquiet rfl rfl
    | next => exact hquiet rfl rfl
    | order key => exact hquiet rfl rfl
    | start key =>
      rw [exists_steps_cons_iff fun _ => step_start_iff, remaining_start, hset,
        isEmpty_insertAll_iff]
      exact and_congr_right fun _ => ih rfl
    | rule r =>
      rw [exists_steps_cons_iff fun _ => step_rule_iff hset, remaining_rule]
      exact and_congr_right fun _ => ih rfl

/-! ### Files -/

/-- What lines do to the first draft. -/
theorem steps_start_iff :
    (∃ draft', Steps {} lines draft' ∧ draft'.set = set) ↔
      StartsFirst lines ∧
      (∀ e ∈ entriesFrom OrderKey.zero lines, ∀ low ∈ floorOf lines, low ≤ e.1) ∧
      set = (RuleSet.start (floorOf lines)).insertAll (entriesFrom OrderKey.zero lines) := by
  have hsteps : (∃ draft', Steps {} lines draft' ∧ draft'.set = set) ↔
      Remaining none OrderKey.zero [] lines set := steps_iff rfl
  rw [hsteps]
  unfold Remaining
  rw [Option.or_none, List.nil_append]
  exact and_iff_right fun hne => absurd rfl hne

/-- A text describes a rule set exactly if its lines take the first draft to one with this rule
    set. -/
theorem describes_iff_accepts {text : List Char} :
    Describes Blanks text set ↔ ∃ draft, Accepts {} text draft ∧ draft.set = set := by
  unfold Describes Accepts
  constructor
  · rintro ⟨lines, hall, hmeaning⟩
    obtain ⟨draft', hsteps, hset⟩ := steps_start_iff.2 hmeaning
    exact ⟨draft', ⟨lines, hall, hsteps⟩, hset⟩
  · rintro ⟨draft', ⟨lines, hall, hsteps⟩, hset⟩
    exact ⟨lines, hall, steps_start_iff.1 ⟨draft', hsteps, hset⟩⟩

/-- The rule set of a file is that of the last draft, if all statements are read. -/
theorem ofPlain_eq_ok_iff_statements {source : Cursor} :
    RuleSet.ofPlain source = .ok set ↔
      ∃ draft, statements {} source = (draft, none) ∧ draft.set = set := by
  have hread : read source = statements {} source := rfl
  unfold RuleSet.ofPlain Reading.ofPlain
  rw [hread]
  obtain ⟨draft, fault?⟩ := statements {} source
  cases fault? with
  | none => simp
  | some fault => simp

/-- The error of a file is the fault at which the statements stop, with its location. -/
theorem ofPlain_eq_error_iff_statements {source : Cursor} {error : LoadError} :
    RuleSet.ofPlain source = .error error ↔
      ∃ draft fault, statements {} source = (draft, some fault) ∧
        error = .plain fault.cause (source.lineIndex.span fault.start fault.stop) := by
  have hread : read source = statements {} source := rfl
  unfold RuleSet.ofPlain Reading.ofPlain
  rw [hread]
  obtain ⟨draft, fault?⟩ := statements {} source
  cases fault? with
  | none => simp
  | some fault => simp [eq_comm]

theorem blanks_nil : Blanks [] := by simp [Blanks]

theorem blanks_space : Blanks [' '] := by
  intro ch hch
  rw [List.mem_singleton.1 hch]
  rfl

/-- **Files.** A plain rule file in which carriage returns only end lines is loaded exactly if its
    lines describe a rule set, and then as this one. Blanks may stand behind a directive.

    Each line, without the whitespace at its start, is empty, a comment, a directive or a rule. The
    order starts at 0, or at the floor, and is set by the directives; `@start` comes before all
    rules, and the last one sets the floor; no rule stands in an order below it. The rules are
    inserted in the sequence of the lines into an empty rule set with this floor, whose cursor stays
    there. -/
theorem ofPlain_eq_ok_iff (origin content : String) (set : RuleSet)
    (hreturns : ReturnsEndLines content.toList) :
    RuleSet.ofPlain (Cursor.ofText origin content) = .ok set ↔
      Describes Blanks content.toList set := by
  rw [ofPlain_eq_ok_iff_statements, describes_iff_accepts]
  have hstatements : ∀ draft, statements {} (Cursor.ofText origin content) = (draft, none) ↔
      Accepts {} content.toList draft :=
    fun draft => statements_eq_none_iff hreturns
  simp only [hstatements]

/-- A floor, a carriage return and a rule with a priority. -/
theorem ofPlain_start : ReturnsEndLines "@start 2\r\nend A ::= a".toList ∧
    ∃ r, Rule.ofPattern "a" .last true (some "A") = .ok r ∧
      RuleSet.ofPlain (Cursor.ofText "rules.olx" "@start 2\r\nend A ::= a") =
        .ok ((RuleSet.startingAt ⟨2, by decide⟩).insertAt ⟨2, by decide⟩ r) := by
  have hreturns : ReturnsEndLines "@start 2\r\nend A ::= a".toList := by decide
  refine ⟨hreturns, ?_⟩
  have hcompiles : (Regex.compile "a").isOk = true := by decide
  obtain ⟨r, hr⟩ := Rule.exists_ofPattern hcompiles .last true (some "A")
  have hends : ∀ rest, WordEnds (' ' :: rest) := by
    intro rest ch hch
    rw [← Option.some.inj hch]
    decide
  have hnone : Blanks [] := by simp [Blanks]
  have hstart : DirectiveText ("@start".toList ++ [' '] ++ ['2']) (.start ⟨2, by decide⟩) :=
    .start blanks_space (.plain (by decide) (List.all_eq_true.1 (by decide)) (by decide))
      (hends ['2'])
  have hname : WordsText ([' '] ++ ['A'] ++ [' ']) ["A"] :=
    .cons blanks_space (by decide) (List.all_eq_true.1 (by decide)) (hends []) (.nil blanks_space)
  have hwords : WordsText ([] ++ "end".toList ++ [' ', 'A', ' ']) ([Priority.last.name] ++ ["A"]) :=
    .cons hnone (by decide) (List.all_eq_true.1 (by decide)) (hends ['A', ' ']) hname
  have hrule :
      RuleText ([] ++ "end".toList ++ [' ', 'A', ' '] ++ "::=".toList ++ [' '] ++ ['a']) r :=
    .mk hwords (.priority .last) blanks_space (by decide) (by simp [isBlank]) hr
  refine ⟨r, hr, (ofPlain_eq_ok_iff _ _ _ hreturns).2
    ⟨[.start ⟨2, by decide⟩, .rule r], ?_, ?_, ?_, rfl⟩⟩
  · exact .cons (.directive hstart hnone) (.cons (.rule hrule) .nil)
  · exact .cons (by simp [Line.rule?]) (.cons (by simp) .nil)
  · intro e he low hlow
    obtain rfl : e = (⟨2, by decide⟩, r) := List.mem_singleton.1 he
    obtain rfl := Option.some.inj hlow
    exact Int.le_refl _

/-- Blanks behind a directive are needed for this: `@next ` is read, with a blank at its end. -/
theorem not_forall_ofPlain_eq_ok_iff_bare :
    ¬ ∀ (origin content : String) (set : RuleSet), ReturnsEndLines content.toList →
      (RuleSet.ofPlain (Cursor.ofText origin content) = .ok set ↔
        Describes (· = []) content.toList set) := by
  intro h
  have hreturns : ReturnsEndLines "@next ".toList := by decide
  have hload : RuleSet.ofPlain (Cursor.ofText "rules.olx" "@next ") = .ok RuleSet.new := by
    have hnext : Accepts {} "@next ".toList { order := OrderKey.zero.next } :=
      ⟨[.next], .cons (.directive .next blanks_space) .nil, .cons .next (.nil _)⟩
    exact ofPlain_eq_ok_iff_statements.2 ⟨_, (statements_eq_none_iff hreturns).2 hnext, rfl⟩
  obtain ⟨lines, hall, -⟩ := (h _ _ _ hreturns).1 hload
  have hlines : linesOf "@next ".toList = ["@next ".toList] := rfl
  rw [hlines] at hall
  cases hall with
  | cons hline _ =>
    generalize htext : "@next ".toList = text at hline
    cases hline with
    | empty => simp at htext
    | comment _ => simp at htext
    | directive hdirective hnone =>
      subst hnone
      cases hdirective with
      | next => simp at htext
      | order _ _ _ => simp at htext
      | start _ _ _ => simp at htext
    | rule hrule =>
      obtain ⟨ch, cs, rfl, hch⟩ := hrule.exists_cons
      obtain rfl : '@' = ch := (List.cons.inj htext).1
      exact absurd hch (by decide)

end OrderedLexer.RuleFile.Plain
