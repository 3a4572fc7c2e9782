import OrderedLexer.RuleFile.Plain.Reader

namespace OrderedLexer.RuleFile.Plain

/-!
# The steps of a plain rule file

When a statement is read, and what it does to the draft. Nothing is said about faults here.

* `argument_eq_ok_iff`, `directive_eq_ok_iff` — directives set the order, and `@start` the floor;
* `pattern_eq_ok_iff` — a pattern runs to the end of its line;
* `rule_eq_ok_iff` — a rule is put together from words and a pattern, and inserted into the order
  chosen;
* `statement_eq_ok_iff` — a statement is one or the other, by its first character.
-/

variable {draft draft' : Draft} {c c' : Cursor}

/-- The argument of a directive is read exactly in these three ways. -/
theorem argument_eq_ok_iff {start : Nat} {word : String} :
    argument draft start word c = .ok (draft', c') ↔
      (word = "order" ∧ ∃ key, integer c = .ok (key, c') ∧ draft' = { draft with order := key }) ∨
      (word = "next" ∧ c' = c ∧ draft' = { draft with order := draft.order.next }) ∨
      (word = "start" ∧ draft.set.isEmpty = true ∧ ∃ key, integer c = .ok (key, c') ∧
        draft' = { draft with set := RuleSet.startingAt key, order := key }) := by
  have hmap : ∀ f : OrderKey → Draft,
      (integer c).map (fun found => (f found.1, found.2)) = .ok (draft', c') ↔
        ∃ key, integer c = .ok (key, c') ∧ draft' = f key := by
    intro f
    cases integer c with
    | error fault => simp [Except.map]
    | ok found =>
      obtain ⟨key, rest⟩ := found
      simp only [Except.map, Except.ok.injEq, Prod.mk.injEq]
      constructor
      · rintro ⟨rfl, rfl⟩
        exact ⟨key, ⟨rfl, rfl⟩, rfl⟩
      · rintro ⟨key', ⟨rfl, rfl⟩, rfl⟩
        exact ⟨rfl, rfl⟩
  unfold argument
  split
  · exact (hmap fun key => { draft with order := key }).trans (by simp)
  · constructor
    · intro h
      obtain ⟨rfl, rfl⟩ := Prod.mk.inj (Except.ok.inj h)
      exact .inr (.inl ⟨rfl, rfl, rfl⟩)
    · rintro (⟨hword, -⟩ | ⟨-, rfl, rfl⟩ | ⟨hword, -⟩)
      · contradiction
      · rfl
      · contradiction
  · cases draft.set.isEmpty with
    | true =>
      exact (hmap fun key => { draft with set := RuleSet.startingAt key, order := key }).trans
        (by simp)
    | false => simp
  · next horder hnext hstart =>
    constructor
    · intro h
      cases h
    · rintro (⟨hword, -⟩ | ⟨hword, -⟩ | ⟨hword, -⟩)
      · exact absurd hword horder
      · exact absurd hword hnext
      · exact absurd hword hstart

/-- A directive is a word with what belongs to it, up to the end of the line. -/
theorem directive_eq_ok_iff {start : Nat} :
    directive draft start c = .ok (draft', c') ↔
      ∃ rest, argument draft start (wordAhead c) ((c.skipWhile isWordChar).skipWhile isBlank) =
          .ok (draft', rest) ∧ c' = rest.skipWhile isBlank ∧ atLineEnd c' = true := by
  unfold directive
  by_cases hword : (wordAhead c).isEmpty
  · -- No directive has an empty word.
    have hempty : wordAhead c = "" := by simpa using hword
    simp only [hempty, argument_eq_ok_iff]
    simp
  · simp only [hword]
    cases hargument :
        argument draft start (wordAhead c) ((c.skipWhile isWordChar).skipWhile isBlank) with
    | error fault => simp [bind, Except.bind]
    | ok found =>
      obtain ⟨read, rest⟩ := found
      simp only [bind, Except.bind]
      by_cases hend : atLineEnd (rest.skipWhile isBlank) = true
      · simp only [hend, if_true]
        constructor
        · intro h
          obtain ⟨rfl, rfl⟩ := Prod.mk.inj (Except.ok.inj h)
          exact ⟨rest, rfl, rfl, hend⟩
        · rintro ⟨rest', h, rfl, -⟩
          obtain ⟨rfl, rfl⟩ := Prod.mk.inj (Except.ok.inj h)
          rfl
      · simp only [hend]
        constructor
        · intro h
          cases h
        · rintro ⟨rest', h, rfl, hend'⟩
          obtain ⟨rfl, rfl⟩ := Prod.mk.inj (Except.ok.inj h)
          exact absurd hend' hend

/-- A pattern is what stands up to the end of the line, if there is something and it compiles. -/
theorem pattern_eq_ok_iff {m : Modifiers} {name : String} {r : Rule} :
    pattern m name c = .ok (r, c') ↔
      trimReturn (c.ahead.takeWhile notLineFeed) ≠ [] ∧
      Rule.ofPattern (String.ofList (trimReturn (c.ahead.takeWhile notLineFeed)))
        (m.priority.getD .natural) (!m.ignore) (some name) = .ok r ∧
      c' = c.skipWhile notLineFeed := by
  unfold pattern
  generalize trimReturn (c.ahead.takeWhile notLineFeed) = text
  by_cases hempty : text = []
  · subst hempty
    simp
  · simp only [List.isEmpty_iff, hempty]
    cases
      Rule.ofPattern (String.ofList text) (m.priority.getD .natural) (!m.ignore) (some name) with
    | error e => simp
    | ok found => simp [hempty, eq_comm (a := found), eq_comm (a := c')]

/-- A rule is put together from words and a pattern, and inserted into the order chosen. -/
theorem rule_eq_ok_iff :
    rule draft c = .ok (draft', c') ↔
      ∃ name modifiers rest m r set, words [] c = .ok (name :: modifiers, rest) ∧
        modifiers.reverse.foldlM (Modifiers.add rest.pos) {} = .ok m ∧
        pattern m name.text (rest.skipWhile isBlank) = .ok (r, c') ∧
        draft.set.insert? draft.order r = .ok set ∧
        draft' = { draft with set, inserted := (draft.order, r) :: draft.inserted } := by
  constructor
  · intro h
    simp only [rule, bind, Except.bind] at h
    split at h
    · contradiction
    · next found hwords =>
      split at h
      · contradiction
      · next name modifiers rest =>
        split at h
        · contradiction
        · next m hmodifiers =>
          split at h
          · contradiction
          · next read hpattern =>
            split at h
            · next set hinsert =>
              obtain ⟨rfl, rfl⟩ := Prod.mk.inj (Except.ok.inj h)
              exact ⟨name, modifiers, rest, m, read.1, set, hwords, hmodifiers, hpattern, hinsert,
                rfl⟩
            · contradiction
  · rintro ⟨name, modifiers, rest, m, r, set, hwords, hmodifiers, hpattern, hinsert, rfl⟩
    simp only [rule, bind, Except.bind, hwords, hmodifiers, hpattern, hinsert]

/-- A statement is a directive if it starts with `@`, and a rule otherwise. -/
theorem statement_eq_ok_iff :
    statement draft c = .ok (draft', c') ↔
      (∃ rest, c.skip? "@" = some rest ∧ directive draft c.pos rest = .ok (draft', c')) ∨
      (c.skip? "@" = none ∧ rule draft c = .ok (draft', c')) := by
  unfold statement
  cases c.skip? "@" with
  | none => simp
  | some rest => simp

end OrderedLexer.RuleFile.Plain
