import OrderedLexer.Proofs.RuleSet.History
import OrderedLexer.Proofs.Scan.Cuts
import OrderedLexer.Scan.Tokens

namespace OrderedLexer.RuleSet

open Text (dropBytes? byteLength)

/-!
# Rules of last resort

A rule that is tried behind all others is asked only where none of these matches. So it changes no
scan that succeeds, nor one that stops at an empty match; where no rule matched, it may help on.

* `LandsLast`, `rules_insertAt` — when an inserted rule stands at the end of the walk;
* `firstMatch?_append` — rules at the end of the walk are asked last;
* `courseFrom_append` — a scan with more rules at the end of the walk goes on where it would have
  stopped for want of a rule, and is the same otherwise;
* `course_insertAt` — so does a scan with a rule of last resort;
* `scan_insert_last` — what this comes to for the tokens and the errors.
-/

variable {set : RuleSet} {key : OrderKey} {r : Rule} {rules : List Rule} {text : List Char}

/-! ### The end of the walk -/

/-- An inserted rule lands at the end of the walk: there are no rules in higher orders, and those of
    its own order have at least its priority. -/
structure LandsLast (set : RuleSet) (key : OrderKey) (r : Rule) : Prop where
  higher : ∀ other rules, key < other → set.order? other = some rules → rules = []
  own : ∀ rules, set.order? key = some rules → ∀ s ∈ rules, r.priority ≤ s.priority

/-- A rule is put behind rules of at least its priority. -/
theorem insertByPriority_of_le (h : ∀ s ∈ rules, r.priority ≤ s.priority) :
    insertByPriority r rules = rules ++ [r] := by
  unfold insertByPriority
  cases hlast : rules.getLast? with
  | none =>
    rw [List.getLast?_eq_none_iff.1 hlast]
    rfl
  | some last => exact if_pos (h last (List.mem_of_getLast? hlast))

/-- Changing an order at the end puts the rule at the end. -/
theorem flatMap_atKey_of_last {orders : Orders} (hascending : orders.Ascending)
    (hhigher : ∀ o ∈ orders, key < o.1 → o.2 = [])
    (hown : ∀ o ∈ orders, o.1 = key → ∀ s ∈ o.2, r.priority ≤ s.priority) :
    (orders.atKey key (insertByPriority r)).flatMap (·.2) = orders.flatMap (·.2) ++ [r] := by
  induction orders with
  | nil => rfl
  | cons o rest ih =>
    obtain ⟨k, rules⟩ := o
    obtain ⟨hk, hrest⟩ := List.pairwise_cons.1 hascending
    have hempty : key ≤ k → rest.flatMap (·.2) = [] := by
      intro hle
      rw [List.flatMap_eq_nil_iff]
      intro o ho
      exact hhigher o (List.mem_cons_of_mem _ ho) (Int.lt_of_le_of_lt hle (hk o ho))
    rw [Orders.atKey]
    by_cases hlt : key < k
    · have hnone : rules = [] := hhigher (k, rules) List.mem_cons_self hlt
      rw [if_pos hlt, List.flatMap_cons, List.flatMap_cons, hnone, hempty (Int.le_of_lt hlt)]
      rfl
    · rw [if_neg hlt]
      by_cases heq : key = k
      · subst heq
        rw [if_pos rfl, List.flatMap_cons, List.flatMap_cons, hempty (Int.le_refl _),
          insertByPriority_of_le (hown _ List.mem_cons_self rfl), List.append_nil, List.append_nil]
      · rw [if_neg heq, List.flatMap_cons, List.flatMap_cons, List.append_assoc,
          ih hrest (fun o ho => hhigher o (List.mem_cons_of_mem _ ho))
            (fun o ho => hown o (List.mem_cons_of_mem _ ho))]

/-- **Landing.** The walk with the rule is the walk without it, and then the rule. -/
theorem rules_insertAt (h : set.LandsLast key r) :
    (set.insertAt key r).rules = set.rules ++ [r] := by
  refine flatMap_atKey_of_last set.ascending ?_ ?_
  · rintro ⟨k, rules⟩ ho hlt
    exact h.higher k rules hlt (order?_eq_some_iff.2 ho)
  · rintro ⟨k, rules⟩ ho rfl
    exact h.own rules (order?_eq_some_iff.2 ho)

/-! ### Scans with more rules -/

/-- Rules at the end of the walk are asked last. -/
theorem firstMatch?_append (rules more : List Rule) (text : List Char) :
    firstMatch? (rules ++ more) text = (firstMatch? rules text).or (firstMatch? more text) :=
  List.findSome?_append

/-- **Run.** With more rules at the end of the walk a scan is the same, unless it would have stopped
    for want of a rule; from there it goes on. -/
theorem courseFrom_append (rules more : List Rule) (offset : Nat) (text : List Char) :
    let course := courseFrom rules offset text
    let beyond := courseFrom (rules ++ more) course.offset course.rest
    (course.halt ≠ .noMatch → courseFrom (rules ++ more) offset text = course) ∧
    (course.halt = .noMatch →
      courseFrom (rules ++ more) offset text =
        { beyond with found := course.found ++ beyond.found }) := by
  intro course beyond
  unfold beyond course
  -- Induction along the scan with fewer rules.
  fun_induction courseFrom rules offset text with
  | case1 offset =>
    rw [courseFrom, if_pos rfl]
    exact ⟨fun _ => rfl, fun h => by cases h⟩
  | case2 offset text hne hnone => exact ⟨fun h => absurd rfl h, fun _ => rfl⟩
  | case3 offset text hne s hsome =>
    rw [courseFrom, if_neg hne, firstMatch?_append, hsome]
    exact ⟨fun _ => rfl, fun h => by cases h⟩
  | case4 offset text hne matched s hsome hmatched course ih =>
    have hstep := courseFrom.eq_def (rules ++ more) offset text
    rw [if_neg hne, firstMatch?_append, hsome, Option.some_or] at hstep
    simp only [if_neg hmatched] at hstep
    rw [hstep]
    refine ⟨fun h => ?_, fun h => ?_⟩
    · rw [ih.1 h]
    · rw [ih.2 h, List.cons_append]

/-- A scan does not halt before it starts, nor does it find anything there. -/
theorem le_offset_courseFrom (rules : List Rule) (offset : Nat) (text : List Char) :
    offset ≤ (courseFrom rules offset text).offset ∧
      ∀ t ∈ (courseFrom rules offset text).found, offset ≤ t.offset := by
  fun_induction courseFrom rules offset text with
  | case1 offset => exact ⟨Nat.le_refl _, by simp⟩
  | case2 offset text hne hnone => exact ⟨Nat.le_refl _, by simp⟩
  | case3 offset text hne s hsome => exact ⟨Nat.le_refl _, by simp⟩
  | case4 offset text hne matched s hsome hmatched course ih =>
    obtain ⟨hoffset, hfound⟩ := ih
    have hle : offset ≤ offset + Text.byteLength matched := Nat.le_add_right _ _
    refine ⟨Nat.le_trans hle hoffset, fun t ht => ?_⟩
    rcases List.mem_cons.1 ht with rfl | ht
    · exact Nat.le_refl _
    · exact Nat.le_trans hle (hfound t ht)

/-- Where a scan stops for want of a rule, text is left, and none of its rules matches there. -/
theorem firstMatch?_rest_eq_none (hhalt : (set.course text).halt = .noMatch) :
    (set.course text).rest ≠ [] ∧ firstMatch? set.rules (set.course text).rest = none ∧
      dropBytes? (set.course text).offset text = some (set.course text).rest := by
  obtain ⟨ps, halt, p, rest, hcourse, -, hrest, hhalts⟩ := exists_course_eq set text
  rw [hcourse] at hhalt ⊢
  obtain rfl : halt = .noMatch := hhalt
  cases hhalts with
  | noMatch hlt hno =>
    have hne : rest ≠ [] := mt (Text.dropBytes?_eq_nil_iff hrest).1 (Nat.ne_of_lt hlt)
    have hnone := nextMatch?_eq_none_iff.2 hno
    rw [nextMatch?_of_dropBytes? hrest] at hnone
    exact ⟨hne, hnone, hrest⟩

/-- **Insertion.** With a rule of last resort a scan is the same, unless it would have stopped for
    want of a rule. Then it finds the same up to there, and stops there still if the rule does not
    match. -/
theorem course_insertAt (h : set.LandsLast key r) (text : List Char) :
    let course := set.course text
    let changed := (set.insertAt key r).course text
    (course.halt ≠ .noMatch → changed = course) ∧
    (course.halt = .noMatch →
      (∃ more, changed.found = course.found ++ more ∧ ∀ t ∈ more, course.offset ≤ t.offset) ∧
      course.offset ≤ changed.offset ∧
      (r.matchAt? text course.offset = none → changed = course)) := by
  intro course changed
  have hchanged : changed = courseFrom (set.rules ++ [r]) 0 text := by
    rw [← rules_insertAt h]
    rfl
  rw [hchanged]
  obtain ⟨hsame, hbeyond⟩ := courseFrom_append set.rules [r] 0 text
  refine ⟨hsame, fun hhalt => ?_⟩
  obtain ⟨hle, hfound⟩ := le_offset_courseFrom (set.rules ++ [r]) course.offset course.rest
  rw [hbeyond hhalt]
  refine ⟨⟨_, rfl, hfound⟩, hle, fun hmatch => ?_⟩
  -- The rule is asked where no other rule matches, and does not match there either.
  obtain ⟨hne, hnone, hrest⟩ := firstMatch?_rest_eq_none hhalt
  rw [Rule.matchAt?, hrest, Option.bind_some] at hmatch
  have hstuck : firstMatch? (set.rules ++ [r]) course.rest = none := by
    rw [firstMatch?_append, hnone, Option.none_or, firstMatch?, List.findSome?_singleton, hmatch]
    rfl
  have hstop : courseFrom (set.rules ++ [r]) course.offset course.rest =
      ⟨[], .noMatch, course.offset, course.rest⟩ := by
    rw [courseFrom, if_neg hne, hstuck]
  show { courseFrom (set.rules ++ [r]) course.offset course.rest with
    found := course.found ++ (courseFrom (set.rules ++ [r]) course.offset course.rest).found } = _
  rw [hstop, List.append_nil, ← hhalt]

/-- **Last resort.** A rule that the floor does not refuse and that lands at the end of the walk is
    inserted, and stands behind all others. For every text:

    * if it gave tokens, it gives the same tokens;
    * if an empty match was refused, the same is refused at the same place;
    * if no rule matched at an offset, the matches up to it are the same, and the scan succeeds or
      stops at the offset or behind it; it stops there with the same error if the rule does not
      match there. -/
theorem scan_insert_last (hfloor : ¬ set.Below key) (hlast : set.LandsLast key r) :
    ∃ changed, set.insert? key r = .ok changed ∧ changed.rules = set.rules ++ [r] ∧
      ∀ (text file : String) (size : Nat),
        (∀ tokens, set.scan text file size = .ok tokens →
          changed.scan text file size = .ok tokens) ∧
        (∀ pattern location, set.scan text file size = .error (.emptyMatch pattern location) →
          changed.scan text file size = .error (.emptyMatch pattern location)) ∧
        (∀ p window location, set.scan text file size = .error (.noMatch p window location) →
          let stop := (changed.course text.toList).offset
          let place := (LineIndex.ofText file text.toList).point stop
          (∃ more, (changed.course text.toList).found = (set.course text.toList).found ++ more ∧
            ∀ t ∈ more, p ≤ t.offset) ∧
          p ≤ stop ∧
          ((∃ tokens, changed.scan text file size = .ok tokens) ∨
            (∃ window', changed.scan text file size = .error (.noMatch stop window' place)) ∨
            (∃ pattern, changed.scan text file size = .error (.emptyMatch pattern place))) ∧
          (r.matchAt? text.toList p = none →
            changed.scan text file size = .error (.noMatch p window location))) := by
  have hrules := rules_insertAt hlast
  refine ⟨set.insertAt key r, insert?_eq_ok_iff.2 ⟨hfloor, rfl⟩, hrules, fun text file size => ?_⟩
  obtain ⟨hsame, hbeyond⟩ := course_insertAt hlast text.toList
  unfold scan
  generalize set.course text.toList = c at hsame hbeyond ⊢
  generalize (set.insertAt key r).course text.toList = c' at hsame hbeyond ⊢
  obtain ⟨found, halt, p, rest⟩ := c
  cases halt with
  | finished =>
    rw [hsame (by simp)]
    exact ⟨fun _ h => h, fun _ _ h => h, fun _ _ _ h => by cases h⟩
  | emptyMatch s =>
    rw [hsame (by simp)]
    exact ⟨fun _ h => h, fun _ _ h => h, fun _ _ _ h => by cases h⟩
  | noMatch =>
    refine ⟨fun _ h => ?_, fun _ _ h => ?_, fun q window location h => ?_⟩
    · cases h
    · cases h
    · obtain ⟨rfl, rfl, rfl⟩ := ScanError.noMatch.inj (Except.error.inj h)
      obtain ⟨hfound, hle, hstuck⟩ := hbeyond rfl
      refine ⟨hfound, hle, ?_, fun hmatch => by rw [hstuck hmatch]; rfl⟩
      obtain ⟨found', halt', stop, rest'⟩ := c'
      cases halt' with
      | finished => exact .inl ⟨_, rfl⟩
      | noMatch => exact .inr (.inl ⟨_, rfl⟩)
      | emptyMatch s => exact .inr (.inr ⟨_, rfl⟩)

/-- A rule of last resort does not help where it does not match either. -/
theorem scan_insert_last_unmatched : ∃ a b, Rule.ofPattern "a" = .ok a ∧
    Rule.ofPattern "b" .last = .ok b ∧ ¬ (new.insertHere a).Below OrderKey.zero ∧
    (new.insertHere a).LandsLast OrderKey.zero b ∧
    ∃ changed, (new.insertHere a).insert? OrderKey.zero b = .ok changed ∧
      (new.insertHere a).scan "ac" = changed.scan "ac" ∧
      ∃ location, changed.scan "ac" = .error (.noMatch 1 "c" location) := by
  have hcompiles : (Regex.compile "a").isOk = true ∧ (Regex.compile "b").isOk = true := by decide
  obtain ⟨a, ha⟩ := Rule.exists_ofPattern hcompiles.1 .natural true none
  obtain ⟨b, hb⟩ := Rule.exists_ofPattern hcompiles.2 .last true none
  have heval : ((Rule.ofPattern "a").toOption.bind fun a =>
      (Rule.ofPattern "b" .last).toOption.map fun b =>
        decide (b.priority ≤ a.priority ∧ b.matchAt? "ac".toList 1 = none ∧
          (new.insertHere a).course "ac".toList = ⟨[⟨"a", a, 0⟩], .noMatch, 1, ['c']⟩)) =
      some true := by decide +kernel
  rw [ha, hb] at heval
  obtain ⟨hle, hmatch, hcourse⟩ := of_decide_eq_true (Option.some.inj heval)
  have horder : ∀ key rules, (new.insertHere a).order? key = some rules →
      key = OrderKey.zero ∧ rules = [a] := by
    intro key rules h
    exact Prod.mk.inj (List.mem_singleton.1 (order?_eq_some_iff.1 h))
  have hfloor : ¬ (new.insertHere a).Below OrderKey.zero := by
    rintro ⟨low, hlow, -⟩
    cases hlow
  have hlast : (new.insertHere a).LandsLast OrderKey.zero b := by
    refine ⟨fun other rules hlt h => ?_, fun rules h s hs => ?_⟩
    · rw [(horder other rules h).1] at hlt
      exact absurd hlt (Int.lt_irrefl _)
    · rw [(horder _ rules h).2] at hs
      rwa [List.mem_singleton.1 hs]
  have hscan : (new.insertHere a).scan "ac" = .error (.noMatch 1 "c"
      ((LineIndex.ofText "<input>" "ac".toList).point 1)) := by
    unfold scan
    rw [hcourse]
    rfl
  obtain ⟨changed, hins, -, hscans⟩ := scan_insert_last hfloor hlast
  obtain ⟨-, -, -, hstuck⟩ := (hscans "ac" "<input>" Course.windowSize).2.2 _ _ _ hscan
  exact ⟨a, b, ha, hb, hfloor, hlast, changed, hins, hscan.trans (hstuck hmatch).symm, _,
    hstuck hmatch⟩

end OrderedLexer.RuleSet
