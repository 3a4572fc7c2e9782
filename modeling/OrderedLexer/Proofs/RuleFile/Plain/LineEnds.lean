import OrderedLexer.Proofs.RuleFile.Plain.Faults

namespace OrderedLexer.RuleFile.Plain

open Text (byteLength)

/-!
# Line feeds and carriage returns

Lines may end with a line feed, or with a carriage return and a line feed; a plain rule file says
the same. A carriage return belongs to no pattern, no directive and no comment, and it is skipped
before the line feed.

* `withReturns` — a text with a carriage return before each line feed;
* `drop_withReturns` — as much is skipped before a statement;
* `Returned`, `Returned.kept` — two readers at the same place of the two texts;
* `ofPlain_withReturns` — both are loaded as one rule set, or refused for one cause in one line.
-/

variable {draft : Draft} {c₁ c₂ : Cursor} {text line tail : List Char}

/-! ### Carriage returns before line feeds -/

/-- A text with a carriage return before each line feed. -/
def withReturns (text : List Char) : List Char :=
  text.flatMap fun ch => if ch = '\n' then ['\r', '\n'] else [ch]

theorem withReturns_feed (text : List Char) :
    withReturns ('\n' :: text) = '\r' :: '\n' :: withReturns text := rfl

theorem withReturns_cons {ch : Char} (h : ch ≠ '\n') (text : List Char) :
    withReturns (ch :: text) = ch :: withReturns text := by
  simp [withReturns, h]

/-- A line stays as it is. -/
theorem withReturns_append (hline : ∀ ch ∈ line, notLineFeed ch = true) (tail : List Char) :
    withReturns (line ++ tail) = line ++ withReturns tail := by
  induction line with
  | nil => rfl
  | cons ch line ih =>
    obtain ⟨hch, hline⟩ := List.forall_mem_cons.1 hline
    rw [List.cons_append, withReturns_cons (by simpa [notLineFeed] using hch), ih hline,
      List.cons_append]

theorem count_withReturns (text : List Char) :
    (withReturns text).count '\n' = text.count '\n' := by
  induction text with
  | nil => rfl
  | cons ch text ih =>
    by_cases hfeed : ch = '\n'
    · subst hfeed
      rw [withReturns_feed, List.count_cons_of_ne (by decide), List.count_cons_self,
        List.count_cons_self, ih]
    · rw [withReturns_cons hfeed, List.count_cons_of_ne hfeed, List.count_cons_of_ne hfeed, ih]

/-- A line feed is skipped, inside a comment or not, and no comment goes on behind it. -/
theorem blankLength_feed (comment : Bool) (text : List Char) :
    blankLength comment ('\n' :: text) = blankLength false text + 1 := by
  cases comment with
  | true => rfl
  | false => rw [blankLength, if_neg (by decide), if_pos (by decide)]

/-- A carriage return is skipped, inside a comment or not. -/
theorem blankLength_return (comment : Bool) (text : List Char) :
    blankLength comment ('\r' :: text) = blankLength comment text + 1 := by
  cases comment with
  | true => rfl
  | false => rw [blankLength, if_neg (by decide), if_pos (by decide)]

/-- What is skipped before a statement is the same, carriage returns apart. -/
theorem drop_withReturns (comment : Bool) (text : List Char) :
    (withReturns text).drop (blankLength comment (withReturns text)) =
      withReturns (text.drop (blankLength comment text)) := by
  induction text generalizing comment with
  | nil => rfl
  | cons ch text ih =>
    by_cases hfeed : ch = '\n'
    · subst hfeed
      rw [withReturns_feed, blankLength_return, blankLength_feed, blankLength_feed,
        List.drop_succ_cons, List.drop_succ_cons, List.drop_succ_cons, ih]
    · rw [withReturns_cons hfeed]
      rcases blankLength_cons comment ch with ⟨comment', -, hcons⟩ | hcons
      · rw [hcons, hcons, List.drop_succ_cons, List.drop_succ_cons, ih]
      · rw [hcons, hcons, List.drop_zero, List.drop_zero, withReturns_cons hfeed]

/-! ### Lines and their ends -/

theorem trimReturn_eq_self (h : '\r' ∉ line) : trimReturn line = line := by
  refine if_neg fun hlast => h (List.mem_of_getLast? hlast)

/-- The first line of a text, and the rest from its line feed on. -/
theorem exists_splitLine (text : List Char) :
    ∃ line tail, text = line ++ tail ∧ (∀ ch ∈ line, notLineFeed ch = true) ∧
      (tail = [] ∨ ∃ rest, tail = '\n' :: rest) := by
  refine ⟨text.takeWhile notLineFeed, text.dropWhile notLineFeed,
    List.takeWhile_append_dropWhile.symm, fun ch hch => List.mem_takeWhile_imp hch, ?_⟩
  have hhead := head?_dropWhile notLineFeed text
  cases htail : text.dropWhile notLineFeed with
  | nil => exact .inl rfl
  | cons ch rest =>
    rw [htail] at hhead
    obtain rfl : ch = '\n' := by simpa [notLineFeed] using hhead ch rfl
    exact .inr ⟨rest, rfl⟩

/-- Without a carriage return at its end, the line says what it is. -/
theorem line_bare (hline : ∀ ch ∈ line, notLineFeed ch = true) (hreturn : '\r' ∉ line)
    (htail : tail = [] ∨ ∃ rest, tail = '\n' :: rest) :
    trimReturn ((line ++ tail).takeWhile notLineFeed) = line ∧
      (line ++ tail).dropWhile notLineFeed = tail := by
  have hend : ∀ ch ∈ tail.head?, notLineFeed ch = false := by
    rcases htail with rfl | ⟨rest, rfl⟩
    · simp
    · intro ch hch
      rw [← Option.some.inj hch]
      decide
  obtain ⟨htake, hdrop⟩ := takeWhile_dropWhile_append hline hend
  rw [htake, hdrop]
  exact ⟨trimReturn_eq_self hreturn, rfl⟩

/-- With a carriage return at its end, the line says the same, and the line feed stays ahead. -/
theorem line_withReturns (hline : ∀ ch ∈ line, notLineFeed ch = true) (hreturn : '\r' ∉ line)
    (htail : tail = [] ∨ ∃ rest, tail = '\n' :: rest) :
    trimReturn ((line ++ withReturns tail).takeWhile notLineFeed) = line ∧
      ((line ++ withReturns tail).dropWhile notLineFeed = withReturns tail ∨
        ∃ rest, tail = '\n' :: rest ∧
          (line ++ withReturns tail).dropWhile notLineFeed = '\n' :: withReturns rest) := by
  rcases htail with rfl | ⟨rest, rfl⟩
  · obtain ⟨hsaid, hdrop⟩ := line_bare hline hreturn (.inl rfl)
    exact ⟨hsaid, .inl hdrop⟩
  · have hreturned : ∀ ch ∈ line ++ ['\r'], notLineFeed ch = true := by
      intro ch hch
      rcases List.mem_append.1 hch with hch | hch
      · exact hline ch hch
      · rw [List.mem_singleton.1 hch]
        decide
    have hend : ∀ ch ∈ ('\n' :: withReturns rest).head?, notLineFeed ch = false := by
      intro ch hch
      rw [← Option.some.inj hch]
      decide
    obtain ⟨htake, hdrop⟩ := takeWhile_dropWhile_append hreturned hend
    rw [List.append_assoc, List.singleton_append] at htake hdrop
    rw [withReturns_feed, htake, hdrop]
    exact ⟨by simp [trimReturn], .inr ⟨rest, rfl, rfl⟩⟩

/-! ### Two readers at one place -/

/-- Two readers at the same place of a text with and without carriage returns. They have the same
    text ahead, or are both before a line feed, the second one behind its carriage return. -/
structure Returned (text : List Char) (c₁ c₂ : Cursor) : Prop where
  text_eq : c₁.text = text
  text_eq_returns : c₂.text = withReturns text
  ahead : c₂.ahead = withReturns c₁.ahead ∨
    ∃ rest, c₁.ahead = '\n' :: rest ∧ c₂.ahead = '\n' :: withReturns rest

namespace Returned

/-- They have passed as many lines. -/
theorem count_eq (h : Returned text c₁ c₂) : c₂.passed.count '\n' = c₁.passed.count '\n' := by
  have hahead : c₂.ahead.count '\n' = c₁.ahead.count '\n' := by
    rcases h.ahead with hsame | ⟨rest, hahead₁, hahead₂⟩
    · rw [hsame, count_withReturns]
    · rw [hahead₁, hahead₂, List.count_cons_self, List.count_cons_self, count_withReturns]
  have htext : c₂.text.count '\n' = c₁.text.count '\n' := by
    rw [h.text_eq, h.text_eq_returns, count_withReturns]
  rw [Cursor.text, Cursor.text, List.count_append, List.count_append, List.count_reverse,
    List.count_reverse, hahead] at htext
  exact Nat.add_right_cancel htext

/-- The carriage return is skipped with its line feed. -/
theorem ahead_skipBlankLines (h : Returned text c₁ c₂) :
    (skipBlankLines c₂).ahead = withReturns (skipBlankLines c₁).ahead := by
  unfold skipBlankLines
  rw [Cursor.ahead_advanceBy, Cursor.ahead_advanceBy]
  rcases h.ahead with hsame | ⟨rest, hahead₁, hahead₂⟩
  · rw [hsame, drop_withReturns]
  · rw [hahead₁, hahead₂, blankLength_feed, blankLength_feed, List.drop_succ_cons,
      List.drop_succ_cons, drop_withReturns]

/-- What is ahead of the first reader has no carriage return. -/
theorem not_mem (h : Returned text c₁ c₂) (hreturn : '\r' ∉ text) : '\r' ∉ c₁.ahead := by
  intro hmem
  rw [← h.text_eq] at hreturn
  exact hreturn (List.mem_append_right _ hmem)

theorem advanceBy (h : Returned text c₁ c₂) {m n : Nat}
    (hahead : c₂.ahead.drop n = withReturns (c₁.ahead.drop m) ∨
      ∃ rest, c₁.ahead.drop m = '\n' :: rest ∧ c₂.ahead.drop n = '\n' :: withReturns rest) :
    Returned text (c₁.advanceBy m) (c₂.advanceBy n) where
  text_eq := (c₁.text_advanceBy m).trans h.text_eq
  text_eq_returns := (c₂.text_advanceBy n).trans h.text_eq_returns
  ahead := hahead

theorem skipBlankLines (h : Returned text c₁ c₂) :
    Returned text (Plain.skipBlankLines c₁) (Plain.skipBlankLines c₂) :=
  h.advanceBy (.inl h.ahead_skipBlankLines)

/-- Where nothing is left to skip, the same line is ahead of both. -/
theorem exists_line (h : Returned text c₁ c₂) (hreturn : '\r' ∉ text) :
    ∃ line tail, (∀ ch ∈ line, notLineFeed ch = true) ∧ '\r' ∉ line ∧
      (tail = [] ∨ ∃ rest, tail = '\n' :: rest) ∧ (Plain.skipBlankLines c₁).ahead = line ++ tail ∧
      (Plain.skipBlankLines c₂).ahead = line ++ withReturns tail := by
  obtain ⟨line, tail, hsplit, hline, htail⟩ := exists_splitLine (Plain.skipBlankLines c₁).ahead
  have hnone := h.skipBlankLines.not_mem hreturn
  rw [hsplit, List.mem_append, not_or] at hnone
  refine ⟨line, tail, hline, hnone.1, htail, hsplit, ?_⟩
  rw [h.ahead_skipBlankLines, hsplit, withReturns_append hline]

/-- **Kept.** The two lines say the same, and the two readers stay at one place in them. -/
theorem kept (hreturn : '\r' ∉ text) : Kept (Returned text) where
  said_eq h _ := by
    obtain ⟨line, tail, hline, hnone, htail, hahead₁, hahead₂⟩ := h.exists_line hreturn
    rw [saidAhead, saidAhead, hahead₁, hahead₂, (line_bare hline hnone htail).1,
      (line_withReturns hline hnone htail).1]
  behind h _ habreast := by
    obtain ⟨line, tail, hline, hnone, htail, hahead₁, hahead₂⟩ := h.exists_line hreturn
    obtain ⟨hsaid, hbehind₁⟩ := line_bare hline hnone htail
    obtain ⟨-, hbehind₂⟩ := line_withReturns hline hnone htail
    cases habreast with
    | inStep hstep =>
      obtain ⟨-, n, hn, rfl, rfl⟩ := hstep
      rw [saidAhead, hahead₁, hsaid] at hn
      refine h.skipBlankLines.advanceBy (.inl ?_)
      rw [hahead₁, hahead₂, List.drop_append_of_le_length hn, List.drop_append_of_le_length hn,
        withReturns_append fun ch hch => hline ch (List.mem_of_mem_drop hch)]
    | atEnds _ =>
      have hrest : ∀ c : Cursor, c.ahead.drop (c.ahead.takeWhile notLineFeed).length =
          c.ahead.dropWhile notLineFeed := fun c => c.ahead_skipWhile notLineFeed
      refine h.skipBlankLines.advanceBy ?_
      rwa [hrest, hrest, hahead₁, hahead₂, hbehind₁]

end Returned

/-! ### Files -/

/-- The line of a cursor is told by the line feeds that it has passed. -/
theorem line_place (file : String) (c : Cursor) :
    ((LineIndex.ofText file c.text).place c.pos).line = c.passed.count '\n' := by
  rw [Cursor.text, Cursor.pos, ← Text.byteLength_reverse, LineIndex.place_byteLength,
    Walker.line_foldl, List.count_reverse]
  exact Nat.zero_add _

/-- Two readers at the same place are in the same line. -/
theorem Returned.line_eq (h : Returned text c₁ c₂) (file : String) :
    ((LineIndex.ofText file (withReturns text)).place c₂.pos).line =
      ((LineIndex.ofText file text).place c₁.pos).line := by
  rw [← h.text_eq_returns, ← h.text_eq, line_place, line_place, h.count_eq]

/-- **Line ends.** A text without carriage returns, and the same text with one before each line
    feed, are loaded as one rule set, or refused for one cause in one line. -/
theorem ofPlain_withReturns (origin content : String) (hreturn : '\r' ∉ content.toList) :
    (∃ set, RuleSet.ofPlain (Cursor.ofText origin content) = .ok set ∧
      RuleSet.ofPlain (Cursor.ofText origin (String.ofList (withReturns content.toList))) =
        .ok set) ∨
    ∃ cause location location',
      RuleSet.ofPlain (Cursor.ofText origin content) = .error (.plain cause location) ∧
      RuleSet.ofPlain (Cursor.ofText origin (String.ofList (withReturns content.toList))) =
        .error (.plain cause location') ∧
      location'.file = location.file ∧ location'.start.line = location.start.line ∧
      location'.stop.line = location.stop.line := by
  have hcontent : Cursor.ofText origin content = ⟨origin, [], content.toList⟩ := rfl
  rw [hcontent, ofText_ofList]
  generalize content.toList = text at hreturn ⊢
  have hstart : Returned text ⟨origin, [], text⟩ ⟨origin, [], withReturns text⟩ :=
    ⟨rfl, rfl, .inl rfl⟩
  cases statements_alike (Returned.kept hreturn) {} hstart with
  | @ends last e₁ e₂ he hnil hrun₁ hrun₂ =>
    have hend : (skipBlankLines e₂).ahead = [] := by
      rw [he.ahead_skipBlankLines, hnil]
      rfl
    exact .inl ⟨last.set, ofPlain_eq_ok_iff_statements.2 ⟨last, hrun₁, rfl⟩,
      ofPlain_eq_ok_iff_statements.2 ⟨last, hrun₂.trans (statements_of_nil hend), rfl⟩⟩
  | @stops last cause s₁ s₂ t₁ t₂ hs ht hrun₁ hrun₂ =>
    exact .inr ⟨cause, _, _, ofPlain_of_fault hrun₁, ofPlain_of_fault hrun₂, rfl,
      hs.line_eq origin, ht.line_eq origin⟩

/-- A directive that is none, in the second line. -/
theorem ofPlain_withReturns_directive : '\r' ∉ "@next\n@nxt".toList ∧
    ∃ location,
      RuleSet.ofPlain (Cursor.ofText "t" "@next\r\n@nxt") =
        .error (.plain (.unknownDirective "nxt") location) ∧
      location.start.line = 1 ∧ location.stop.line = 1 := by
  have hreturn : '\r' ∉ "@next\n@nxt".toList := by decide
  have hfault : (statements {} ⟨"t", [], "@next\n@nxt".toList⟩).2 =
      some ⟨.unknownDirective "nxt", 6, 10⟩ := by decide +kernel
  have hspan : (LineIndex.ofText "t" "@next\n@nxt".toList).span 6 10 =
      ⟨"t", ⟨1, 0⟩, ⟨1, 4⟩⟩ := by decide +kernel
  have herror : RuleSet.ofPlain (Cursor.ofText "t" "@next\n@nxt") =
      .error (.plain (.unknownDirective "nxt") ⟨"t", ⟨1, 0⟩, ⟨1, 4⟩⟩) := by
    rw [← hspan]
    exact ofPlain_of_fault (Prod.ext rfl hfault)
  have hreturned : String.ofList (withReturns "@next\n@nxt".toList) = "@next\r\n@nxt" := by
    decide +kernel
  refine ⟨hreturn, ?_⟩
  rw [← hreturned]
  rcases ofPlain_withReturns "t" "@next\n@nxt" hreturn with
    ⟨set, hset, -⟩ | ⟨cause, location, location', hlocation, hlocation', -, hstart, hstop⟩
  · rw [herror] at hset
    cases hset
  · rw [herror] at hlocation
    obtain ⟨rfl, rfl⟩ := LoadError.plain.inj (Except.error.inj hlocation)
    exact ⟨location', hlocation', hstart, hstop⟩

end OrderedLexer.RuleFile.Plain
