import OrderedLexer.Proofs.RuleFile.Plain.Lockstep

namespace OrderedLexer.RuleFile.Plain

/-!
# Files that are read alike

Two readers go side by side for as long as they come to lines that say the same. What is kept along
the way is a relation between their cursors, and each use of the lemma picks its own.

* `blankLength_append`, `statements_skipped` — what is skipped before a statement may be cut at the
  end of a line;
* `Kept`, `statements_alike` — a relation that is kept leads two runs to the same end;
* `statements_append` — whole lines are read first, and their fault is the fault of the file.
-/

variable {draft : Draft} {c c₁ c₂ d₁ d₂ : Cursor} {front back : List Char}

/-! ### Whole lines -/

/-- What a text ends with, a longer one ends with. -/
theorem mem_getLast?_append {ch : Char} (h : ch ∈ back.getLast?) (front : List Char) :
    ch ∈ (front ++ back).getLast? := by
  rw [List.getLast?_append, Option.mem_def.1 h]
  rfl

/-- Whole lines behind whole lines are whole lines. -/
theorem ended_append (hfront : ∀ ch ∈ front.getLast?, ch = '\n')
    (hback : ∀ ch ∈ back.getLast?, ch = '\n') : ∀ ch ∈ (front ++ back).getLast?, ch = '\n' := by
  intro ch hch
  rw [List.getLast?_append] at hch
  cases hlast : back.getLast? with
  | none =>
    rw [hlast] at hch
    exact hfront ch hch
  | some x =>
    rw [hlast] at hch
    exact hback ch (hlast.trans hch)

/-- Whole lines have a line feed, unless there are none. -/
theorem mem_of_ended (h : ∀ ch ∈ front.getLast?, ch = '\n') (hne : front ≠ []) : '\n' ∈ front := by
  obtain ⟨ch, hch⟩ := Option.ne_none_iff_exists'.1 (mt List.getLast?_eq_none_iff.1 hne)
  rw [← h ch hch]
  exact List.mem_of_getLast? hch

/-! ### What is skipped -/

/-- The first character is skipped, and then what is skipped behind it, or nothing is. Behind a line
    feed, no comment goes on. -/
theorem blankLength_cons (comment : Bool) (ch : Char) :
    (∃ comment', (ch = '\n' → comment' = false) ∧
      ∀ text, blankLength comment (ch :: text) = blankLength comment' text + 1) ∨
    ∀ text, blankLength comment (ch :: text) = 0 := by
  cases comment with
  | true => exact .inl ⟨ch != '\n', by simp, fun text => rfl⟩
  | false =>
    by_cases hsharp : ch = '#'
    · subst hsharp
      exact .inl ⟨true, by decide, fun text => rfl⟩
    · by_cases hspace : Unicode.isWhitespace ch = true
      · exact .inl ⟨false, fun _ => rfl, fun text => by
          rw [blankLength, if_neg hsharp, if_pos hspace]⟩
      · exact .inr fun text => by rw [blankLength, if_neg hsharp, if_neg hspace]

theorem blankLength_le (comment : Bool) (text : List Char) :
    blankLength comment text ≤ text.length := by
  induction text generalizing comment with
  | nil => simp [blankLength]
  | cons ch text ih =>
    rcases blankLength_cons comment ch with ⟨comment', -, hcons⟩ | hcons
    · rw [hcons]
      exact Nat.succ_le_succ (ih comment')
    · rw [hcons]
      exact Nat.zero_le _

/-- What is skipped is told by the front of a text if it does not go up to its end. -/
theorem blankLength_append_of_lt {comment : Bool}
    (h : blankLength comment front < front.length) (back : List Char) :
    blankLength comment (front ++ back) = blankLength comment front := by
  induction front generalizing comment with
  | nil => simp at h
  | cons ch front ih =>
    rw [List.cons_append]
    rcases blankLength_cons comment ch with ⟨comment', -, hcons⟩ | hcons
    · rw [hcons, List.length_cons] at h
      rw [hcons, hcons, ih (Nat.lt_of_succ_lt_succ h)]
    · rw [hcons, hcons]

/-- Behind whole lines that are skipped, more may be skipped. A comment ends with its line. -/
theorem blankLength_append {comment : Bool} (h : blankLength comment front = front.length)
    (hended : ∀ ch ∈ front.getLast?, ch = '\n') (hcomment : front = [] → comment = false)
    (back : List Char) :
    blankLength comment (front ++ back) = front.length + blankLength false back := by
  induction front generalizing comment with
  | nil => simp [hcomment rfl]
  | cons ch front ih =>
    rw [List.cons_append, List.length_cons]
    rcases blankLength_cons comment ch with ⟨comment', hfeed, hcons⟩ | hcons
    · rw [hcons, List.length_cons] at h
      rw [hcons, ih (Nat.succ.inj h)]
      · omega
      · exact fun x hx => hended x (mem_getLast?_append hx [ch])
      · rintro rfl
        exact hfeed (hended ch rfl)
    · rw [hcons] at h
      contradiction

theorem ahead_skipBlankLines (c : Cursor) :
    (skipBlankLines c).ahead = c.ahead.drop (blankLength false c.ahead) := rfl

theorem ahead_skipBlankLines_eq_nil_iff :
    (skipBlankLines c).ahead = [] ↔ blankLength false c.ahead = c.ahead.length := by
  have hle := blankLength_le false c.ahead
  rw [ahead_skipBlankLines, List.drop_eq_nil_iff]
  omega

/-! ### The steps of a run -/

theorem statements_of_nil (h : (skipBlankLines c).ahead = []) :
    statements draft c = (draft, none) := by
  rw [statements]
  exact if_pos (by simp [Cursor.isExhausted, h])

theorem statements_of_ok {next : Draft} {rest : Cursor} (hne : (skipBlankLines c).ahead ≠ [])
    (hread : statement draft (skipBlankLines c) = .ok (next, rest)) :
    statements draft c = statements next rest := by
  conv => lhs; rw [statements]
  rw [if_neg (by simpa [Cursor.isExhausted] using hne)]
  split
  · next hread' =>
    obtain ⟨rfl, rfl⟩ := Prod.mk.inj (Except.ok.inj (hread.symm.trans hread'))
    rfl
  · next hread' =>
    rw [hread] at hread'
    contradiction

theorem statements_of_error {fault : Fault} (hne : (skipBlankLines c).ahead ≠ [])
    (hread : statement draft (skipBlankLines c) = .error fault) :
    statements draft c = (draft, some fault) := by
  rw [statements, if_neg (by simpa [Cursor.isExhausted] using hne)]
  split
  · next hread' =>
    rw [hread] at hread'
    contradiction
  · next hread' => rw [Except.error.inj (hread.symm.trans hread')]

/-- Reading goes on from where nothing is left to skip. -/
theorem statements_eq_of_skip (h : skipBlankLines c₁ = skipBlankLines c₂) :
    statements draft c₁ = statements draft c₂ := by
  by_cases hne : (skipBlankLines c₂).ahead = []
  · rw [statements_of_nil hne, statements_of_nil (h ▸ hne)]
  · cases hread : statement draft (skipBlankLines c₂) with
    | ok x => rw [statements_of_ok hne hread, statements_of_ok (h ▸ hne) (h ▸ hread)]
    | error fault => rw [statements_of_error hne hread, statements_of_error (h ▸ hne) (h ▸ hread)]

/-- Whole lines that are skipped may be passed before. -/
theorem statements_skipped (h : blankLength false front = front.length)
    (hended : ∀ ch ∈ front.getLast?, ch = '\n') (origin : String) (passed back : List Char) :
    statements draft ⟨origin, passed, front ++ back⟩ =
      statements draft ⟨origin, front.reverse ++ passed, back⟩ := by
  refine statements_eq_of_skip ?_
  unfold skipBlankLines
  rw [blankLength_append h hended fun _ => rfl, ← Cursor.advanceBy_advanceBy]
  congr 1
  simp [Cursor.advanceBy]

/-! ### Two runs -/

/-- A relation between cursors that statements keep: lines that come next say the same, and the
    relation holds wherever two readers come to inside these lines. -/
structure Kept (R : Cursor → Cursor → Prop) : Prop where
  said_eq {c₁ c₂ : Cursor} : R c₁ c₂ → (skipBlankLines c₁).ahead ≠ [] →
    saidAhead (skipBlankLines c₁) = saidAhead (skipBlankLines c₂)
  behind {c₁ c₂ d₁ d₂ : Cursor} : R c₁ c₂ → (skipBlankLines c₁).ahead ≠ [] →
    Abreast (skipBlankLines c₁) (skipBlankLines c₂) d₁ d₂ → R d₁ d₂

/-- What comes of two runs. When the first one ends, the second one may still go on. -/
inductive RunsAlike (R : Cursor → Cursor → Prop) (draft : Draft) (c₁ c₂ : Cursor) : Prop
  | ends {last : Draft} {e₁ e₂ : Cursor} : R e₁ e₂ → (skipBlankLines e₁).ahead = [] →
      statements draft c₁ = (last, none) → statements draft c₂ = statements last e₂ →
      RunsAlike R draft c₁ c₂
  | stops {last : Draft} {cause : Cause} {s₁ s₂ t₁ t₂ : Cursor} : R s₁ s₂ → R t₁ t₂ →
      statements draft c₁ = (last, some ⟨cause, s₁.pos, t₁.pos⟩) →
      statements draft c₂ = (last, some ⟨cause, s₂.pos, t₂.pos⟩) → RunsAlike R draft c₁ c₂

/-- Where a line starts that says something, a text is ahead. -/
theorem ahead_ne_nil (hne : (skipBlankLines c₁).ahead ≠ [])
    (hsaid : saidAhead (skipBlankLines c₁) = saidAhead (skipBlankLines c₂)) :
    (skipBlankLines c₂).ahead ≠ [] := by
  intro hnil
  obtain ⟨ch, text, htext⟩ := List.exists_cons_of_ne_nil hne
  have hstart := head?_drop c₁.ahead false
  rw [← ahead_skipBlankLines, htext] at hstart
  obtain ⟨cs, hcs⟩ := exists_trimReturn_cons (hstart ch rfl).1 text
  rw [saidAhead, saidAhead, htext, hcs, hnil] at hsaid
  exact absurd hsaid (List.cons_ne_nil _ _)

/-- **Statement.** Where a relation is kept, the next statements do the same, or are refused for one
    cause. -/
theorem next_statement_alike {R : Cursor → Cursor → Prop} (hR : Kept R) (draft : Draft)
    (h : R c₁ c₂) (hne : (skipBlankLines c₁).ahead ≠ []) :
    (∃ next rest₁ rest₂, R rest₁ rest₂ ∧
      statement draft (skipBlankLines c₁) = .ok (next, rest₁) ∧
      statement draft (skipBlankLines c₂) = .ok (next, rest₂)) ∨
    ∃ cause s₁ s₂ t₁ t₂, R s₁ s₂ ∧ R t₁ t₂ ∧
      statement draft (skipBlankLines c₁) = .error ⟨cause, s₁.pos, t₁.pos⟩ ∧
      statement draft (skipBlankLines c₂) = .error ⟨cause, s₂.pos, t₂.pos⟩ := by
  have hstep := statement_alike draft (hR.said_eq h hne)
  generalize statement draft (skipBlankLines c₁) = x at hstep ⊢
  generalize statement draft (skipBlankLines c₂) = y at hstep ⊢
  cases hstep with
  | @ok x y hsame =>
    obtain ⟨next, rest₁⟩ := x
    obtain ⟨_, rest₂⟩ := y
    obtain ⟨rfl, hbehind⟩ := hsame
    exact .inl ⟨next, rest₁, rest₂, hR.behind h hne hbehind, rfl, rfl⟩
  | error hfaults =>
    obtain ⟨cause, hstart, hstop, -⟩ := hfaults
    exact .inr ⟨cause, _, _, _, _, hR.behind h hne hstart, hR.behind h hne hstop, rfl, rfl⟩

/-- **Run.** Where a relation is kept, two runs come to the same draft, or stop for one cause. -/
theorem statements_alike {R : Cursor → Cursor → Prop} (hR : Kept R) (draft : Draft)
    (h : R c₁ c₂) : RunsAlike R draft c₁ c₂ := by
  -- Induction along the statements of the first run: the second one reads the same ones.
  fun_induction statements draft c₁ generalizing c₂ with
  | case1 draft c₁ c' =>
    rename_i hend
    have hnil : (skipBlankLines c₁).ahead = [] := by simpa [Cursor.isExhausted] using hend
    exact .ends h hnil (statements_of_nil hnil) rfl
  | case2 draft c₁ c' hend =>
    rename_i next rest hread ih
    have hne : (skipBlankLines c₁).ahead ≠ [] := by simpa [Cursor.isExhausted] using hend
    have hne₂ := ahead_ne_nil hne (hR.said_eq h hne)
    rcases next_statement_alike hR draft h hne with
      ⟨_, _, rest₂, hrest, hread₁, hread₂⟩ | ⟨_, _, _, _, _, -, -, hread₁, -⟩
    · obtain ⟨rfl, rfl⟩ := Prod.mk.inj (Except.ok.inj (hread.symm.trans hread₁))
      have hnext₁ := statements_of_ok hne hread₁
      have hnext₂ := statements_of_ok hne₂ hread₂
      cases ih hrest with
      | ends he hnil hrun₁ hrun₂ => exact .ends he hnil (hnext₁.trans hrun₁) (hnext₂.trans hrun₂)
      | stops hs ht hrun₁ hrun₂ => exact .stops hs ht (hnext₁.trans hrun₁) (hnext₂.trans hrun₂)
    · rw [hread] at hread₁
      contradiction
  | case3 draft c₁ c' hend =>
    rename_i fault hread
    have hne : (skipBlankLines c₁).ahead ≠ [] := by simpa [Cursor.isExhausted] using hend
    have hne₂ := ahead_ne_nil hne (hR.said_eq h hne)
    rcases next_statement_alike hR draft h hne with
      ⟨_, _, _, -, hread₁, -⟩ | ⟨cause, s₁, s₂, t₁, t₂, hs, ht, hread₁, hread₂⟩
    · rw [hread] at hread₁
      contradiction
    · exact .stops hs ht (statements_of_error hne hread₁) (statements_of_error hne₂ hread₂)

/-- In equal lines, two readers are abreast behind equal parts of them. -/
theorem Abreast.exists_advanceBy {b₁ b₂ : Cursor} (h : Abreast b₁ b₂ d₁ d₂)
    (hline : b₁.ahead.takeWhile notLineFeed = b₂.ahead.takeWhile notLineFeed) :
    ∃ n ≤ (b₁.ahead.takeWhile notLineFeed).length, d₁ = b₁.advanceBy n ∧ d₂ = b₂.advanceBy n := by
  cases h with
  | inStep hstep =>
    obtain ⟨-, n, hn, rfl, rfl⟩ := hstep
    exact ⟨n, le_length_line hn, rfl, rfl⟩
  | atEnds _ =>
    refine ⟨_, Nat.le_refl _, rfl, ?_⟩
    rw [hline]
    rfl

/-! ### Whole lines first -/

/-- Two cursors behind the same characters, of which the first one sees only whole lines of the text
    of `c`, and the second one `back` behind them. -/
structure SeesFront (c : Cursor) (back : List Char) (c₁ c₂ : Cursor) : Prop where
  origin_eq : c₁.origin = c.origin
  text_eq : c₁.text = c.text
  more_eq : c₂ = { c₁ with ahead := c₁.ahead ++ back }
  ended : ∀ ch ∈ c₁.ahead.getLast?, ch = '\n'

namespace SeesFront

theorem advanceBy (h : SeesFront c back c₁ c₂) {n : Nat} (hn : n ≤ c₁.ahead.length) :
    SeesFront c back (c₁.advanceBy n) (c₂.advanceBy n) where
  origin_eq := h.origin_eq
  text_eq := (c₁.text_advanceBy n).trans h.text_eq
  more_eq := by
    rw [h.more_eq]
    simp only [Cursor.advanceBy, List.take_append_of_le_length hn,
      List.drop_append_of_le_length hn]
  ended := by
    intro ch hch
    rw [Cursor.ahead_advanceBy, List.getLast?_drop] at hch
    split at hch
    · contradiction
    · exact h.ended ch hch

theorem ahead_eq (h : SeesFront c back c₁ c₂) : c₂.ahead = c₁.ahead ++ back := by rw [h.more_eq]

theorem pos_eq (h : SeesFront c back c₁ c₂) : c₂.pos = c₁.pos := by
  rw [h.more_eq]
  rfl

/-- As long as whole lines are ahead, what is skipped lies in them. -/
theorem skipBlankLines (h : SeesFront c back c₁ c₂) (hne : (skipBlankLines c₁).ahead ≠ []) :
    SeesFront c back (Plain.skipBlankLines c₁) (Plain.skipBlankLines c₂) := by
  have hlt : blankLength false c₁.ahead < c₁.ahead.length :=
    Nat.lt_of_le_of_ne (blankLength_le _ _) (mt ahead_skipBlankLines_eq_nil_iff.2 hne)
  unfold Plain.skipBlankLines
  rw [h.ahead_eq, blankLength_append_of_lt hlt back]
  exact h.advanceBy (Nat.le_of_lt hlt)

/-- The next line is the same for both. -/
theorem line_eq (h : SeesFront c back c₁ c₂) (hne : c₁.ahead ≠ []) :
    c₁.ahead.takeWhile notLineFeed = c₂.ahead.takeWhile notLineFeed := by
  rw [h.ahead_eq, List.takeWhile_append]
  split
  · next hall =>
    -- The line would have no end.
    have hfeed := mem_of_ended h.ended hne
    rw [← (List.takeWhile_prefix notLineFeed).eq_of_length hall] at hfeed
    exact absurd (List.mem_takeWhile_imp hfeed) (by decide)
  · rfl

theorem kept (c : Cursor) (back : List Char) : Kept (SeesFront c back) where
  said_eq h hne := congrArg trimReturn ((h.skipBlankLines hne).line_eq hne)
  behind h hne habreast := by
    obtain ⟨n, hn, rfl, rfl⟩ :=
      habreast.exists_advanceBy ((h.skipBlankLines hne).line_eq hne)
    exact (h.skipBlankLines hne).advanceBy
      (Nat.le_trans hn (List.takeWhile_sublist notLineFeed).length_le)

end SeesFront

/-- **Whole lines.** Whole lines are read first, and then the text behind them; or they are faulty,
    and this is the fault. -/
theorem statements_append (draft : Draft) (hended : ∀ ch ∈ c.ahead.getLast?, ch = '\n')
    (back : List Char) :
    (∃ last, statements draft c = (last, none) ∧
      statements draft { c with ahead := c.ahead ++ back } =
        statements last ⟨c.origin, c.text.reverse, back⟩) ∨
    ∃ last fault, statements draft c = (last, some fault) ∧
      statements draft { c with ahead := c.ahead ++ back } = (last, some fault) := by
  have hsees : SeesFront c back c { c with ahead := c.ahead ++ back } := ⟨rfl, rfl, rfl, hended⟩
  cases statements_alike (SeesFront.kept c back) draft hsees with
  | @ends last e₁ e₂ he hnil hrun₁ hrun₂ =>
    -- What the first one has left is skipped, and then the second one is behind the whole lines.
    have hskipped := ahead_skipBlankLines_eq_nil_iff.1 hnil
    refine .inl ⟨last, hrun₁, hrun₂.trans ?_⟩
    rw [he.more_eq, statements_skipped hskipped he.ended, he.origin_eq, ← he.text_eq, Cursor.text,
      List.reverse_append, List.reverse_reverse]
  | @stops last cause s₁ s₂ t₁ t₂ hs ht hrun₁ hrun₂ =>
    -- Both have passed the same characters, so the fault has the same positions.
    rw [hs.pos_eq, ht.pos_eq] at hrun₂
    exact .inr ⟨last, _, hrun₁, hrun₂⟩

end OrderedLexer.RuleFile.Plain
