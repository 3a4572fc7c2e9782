import OrderedLexer.Proofs.RuleFile.Plain.Faults

namespace OrderedLexer

open Text (byteLength)

/-!
# Lines that say nothing

Blank lines and comments change nothing but the lines in which the faults behind them are told. What
is read is decided line by line, so the first bad line decides, whatever stands behind it.

* `SaysNothing`, `blankLength_lines` — such lines are skipped;
* `LineIndex.place_behind` — behind more lines, the same place is as many lines further down;
* `Shifted`, `statements_shifted` — a text is read the same behind other lines;
* `ofPlain_append_error` — whole lines that are faulty are faulty before any text;
* `blank_lines_inert` — both, for any file.
-/

namespace LineIndex

variable {file : String}

/-- Behind whole lines, a place is told by what stands between it and these lines. -/
theorem place_behind (file : String) (mid rest : List Char) :
    ∃ line column, ∀ front : List Char, (∀ c ∈ front.getLast?, c = '\n') →
      (ofText file (front ++ mid ++ rest)).place (byteLength (front ++ mid)) =
        ⟨front.count '\n' + line, column⟩ := by
  obtain ⟨lines, part, rfl, hended, hline⟩ := exists_lines_part mid
  refine ⟨lines.count '\n', part.length, fun front hfront => ?_⟩
  have hlines := RuleFile.Plain.ended_append hfront hended
  rw [← List.append_assoc, place_of_part file rest hlines hline, List.count_append]

/-- What stands behind a text plays no part for the places in it. -/
theorem place_append {front : List Char} {pos : Nat} (h : Text.IsBoundary front pos)
    (back : List Char) : (ofText file (front ++ back)).place pos = (ofText file front).place pos := by
  obtain ⟨passed, rest, rfl, rfl⟩ := Text.isBoundary_iff.1 h
  rw [List.append_assoc, place_byteLength, place_byteLength]

theorem span_append {front : List Char} {start stop : Nat} (hstart : Text.IsBoundary front start)
    (hstop : Text.IsBoundary front stop) (back : List Char) :
    (ofText file (front ++ back)).span start stop = (ofText file front).span start stop := by
  show (⟨file, _, _⟩ : Location) = ⟨file, _, _⟩
  rw [place_append hstart, place_append hstop]

/-- Before the line feed at the end of whole lines lies none of the lines behind them. -/
theorem line_lt_count {front : List Char} {pos : Nat} (hended : ∀ c ∈ front.getLast?, c = '\n')
    (h : Text.IsBoundary front pos) (hlt : pos < byteLength front) :
    ((ofText file front).place pos).line < front.count '\n' := by
  obtain ⟨passed, rest, rfl, rfl⟩ := Text.isBoundary_iff.1 h
  have hline := Walker.line_foldl Walker.start passed
  have hne : rest ≠ [] := by
    rintro rfl
    simp at hlt
  have hfeed : 0 < rest.count '\n' := List.count_pos_iff.2 <|
    RuleFile.Plain.mem_of_ended (fun c hc =>
      hended c (RuleFile.Plain.mem_getLast?_append hc passed)) hne
  rw [place_byteLength, hline, List.count_append]
  show 0 + _ < _
  omega

end LineIndex

/-- A location is further down by `m` lines if it starts in line `line` or behind it. -/
def Location.movedDown (line m : Nat) (l : Location) : Location :=
  if line ≤ l.start.line then
    ⟨l.file, ⟨l.start.line + m, l.start.column⟩, ⟨l.stop.line + m, l.stop.column⟩⟩
  else l

theorem Location.movedDown_of_lt {line : Nat} {l : Location} (h : l.start.line < line) (m : Nat) :
    l.movedDown line m = l :=
  if_neg (Nat.not_le.2 h)

/-- An error in a plain rule file is further down. -/
def LoadError.movedDown (line m : Nat) : LoadError → LoadError
  | .plain cause location => .plain cause (location.movedDown line m)
  | error => error

namespace RuleFile.Plain

variable {draft last : Draft} {c c₁ c₂ : Cursor} {origin : String} {fault : Fault}
  {front front₁ front₂ back line ws text : List Char} {lines : List (List Char)}

/-! ### What is skipped -/

/-- A line, without the line feed at its end, that is whitespace, or whitespace and a comment. -/
def SaysNothing (line : List Char) : Prop :=
  '\n' ∉ line ∧ ∃ ws text, line = ws ++ text ∧ (∀ ch ∈ ws, Unicode.isWhitespace ch = true) ∧
    ∀ ch ∈ text.head?, ch = '#'

/-- Whitespace is skipped. -/
theorem blankLength_whitespace (hws : ∀ ch ∈ ws, Unicode.isWhitespace ch = true)
    (text : List Char) : blankLength false (ws ++ text) = ws.length + blankLength false text := by
  induction ws with
  | nil => simp
  | cons ch ws ih =>
    obtain ⟨hch, hws⟩ := List.forall_mem_cons.1 hws
    have hsharp : ch ≠ '#' := by
      rintro rfl
      exact absurd hch (by decide)
    rw [List.cons_append, blankLength, if_neg hsharp, if_pos hch, ih hws, List.length_cons]
    omega

/-- A comment is skipped up to the end of its line. -/
theorem blankLength_comment (htext : '\n' ∉ text) (rest : List Char) :
    blankLength true (text ++ '\n' :: rest) = text.length + 1 + blankLength false rest := by
  induction text with
  | nil =>
    show blankLength false rest + 1 = _
    simp [Nat.add_comm]
  | cons ch text ih =>
    obtain ⟨hch, htext⟩ := List.ne_and_not_mem_of_not_mem_cons htext
    have hline : (ch != '\n') = true := by simpa using Ne.symm hch
    rw [List.cons_append, blankLength, hline, ih htext, List.length_cons]
    omega

theorem SaysNothing.blankLength_eq (h : SaysNothing line) (rest : List Char) :
    blankLength false (line ++ '\n' :: rest) = line.length + 1 + blankLength false rest := by
  obtain ⟨hfeed, ws, text, rfl, hws, hcomment⟩ := h
  rw [List.append_assoc, blankLength_whitespace hws, List.length_append]
  cases text with
  | nil =>
    have hspace : ∀ ch ∈ ['\n'], Unicode.isWhitespace ch = true := by
      intro ch hch
      rw [List.mem_singleton.1 hch]
      decide
    have hskip := blankLength_whitespace hspace rest
    rw [List.singleton_append] at hskip
    rw [List.nil_append, hskip]
    simp
    omega
  | cons ch text =>
    obtain rfl : ch = '#' := hcomment ch rfl
    have htext : '\n' ∉ text := by
      intro hmem
      exact hfeed (List.mem_append_right _ (List.mem_cons_of_mem _ hmem))
    rw [List.cons_append, blankLength, if_pos rfl, blankLength_comment htext, List.length_cons]
    omega

/-- Lines, each with the line feed at its end. -/
def ended (lines : List (List Char)) : List Char := lines.flatMap (· ++ ['\n'])

theorem getLast?_ended (lines : List (List Char)) : ∀ ch ∈ (ended lines).getLast?, ch = '\n' := by
  induction lines with
  | nil => simp [ended]
  | cons line lines ih =>
    have hline : ∀ ch ∈ (line ++ ['\n']).getLast?, ch = '\n' := by simp
    exact ended_append hline ih

theorem count_ended (h : ∀ line ∈ lines, SaysNothing line) :
    (ended lines).count '\n' = lines.length := by
  induction lines with
  | nil => rfl
  | cons line lines ih =>
    obtain ⟨hline, hlines⟩ := List.forall_mem_cons.1 h
    show (line ++ ['\n'] ++ ended lines).count '\n' = _
    rw [List.count_append, List.count_append, ih hlines, List.count_eq_zero_of_not_mem hline.1]
    simp
    omega

/-- **Lines.** Lines that say nothing are skipped. -/
theorem blankLength_lines (h : ∀ line ∈ lines, SaysNothing line) :
    blankLength false (ended lines) = (ended lines).length := by
  induction lines with
  | nil => rfl
  | cons line lines ih =>
    obtain ⟨hline, hlines⟩ := List.forall_mem_cons.1 h
    have hcons : ended (line :: lines) = line ++ '\n' :: ended lines := by simp [ended]
    rw [hcons, hline.blankLength_eq, ih hlines, List.length_append, List.length_cons]
    omega

/-! ### The same text behind other lines -/

/-- Two cursors in the same text `back`, which stands behind different texts. -/
def Shifted (origin : String) (front₁ front₂ back : List Char) (c₁ c₂ : Cursor) : Prop :=
  ∃ mid rest, back = mid ++ rest ∧ c₁ = ⟨origin, (front₁ ++ mid).reverse, rest⟩ ∧
    c₂ = ⟨origin, (front₂ ++ mid).reverse, rest⟩

theorem Shifted.ahead_eq (h : Shifted origin front₁ front₂ back c₁ c₂) : c₂.ahead = c₁.ahead := by
  obtain ⟨mid, rest, -, rfl, rfl⟩ := h
  rfl

theorem Shifted.advanceBy (h : Shifted origin front₁ front₂ back c₁ c₂) (n : Nat) :
    Shifted origin front₁ front₂ back (c₁.advanceBy n) (c₂.advanceBy n) := by
  obtain ⟨mid, rest, rfl, rfl, rfl⟩ := h
  refine ⟨mid ++ rest.take n, rest.drop n, ?_, ?_, ?_⟩
  · rw [List.append_assoc, List.take_append_drop]
  · simp [Cursor.advanceBy]
  · simp [Cursor.advanceBy]

theorem Shifted.skipBlankLines (h : Shifted origin front₁ front₂ back c₁ c₂) :
    Shifted origin front₁ front₂ back (skipBlankLines c₁) (skipBlankLines c₂) := by
  unfold Plain.skipBlankLines
  rw [h.ahead_eq]
  exact h.advanceBy _

theorem Shifted.kept (origin : String) (front₁ front₂ back : List Char) :
    Kept (Shifted origin front₁ front₂ back) where
  said_eq h _ := by rw [saidAhead, saidAhead, h.skipBlankLines.ahead_eq]
  behind h _ habreast := by
    obtain ⟨n, -, rfl, rfl⟩ :=
      habreast.exists_advanceBy (by rw [h.skipBlankLines.ahead_eq])
    exact h.skipBlankLines.advanceBy n

/-- The same text has its places as many lines further down as there are lines more before it. -/
theorem Shifted.place_eq (h : Shifted origin front₁ front₂ back c₁ c₂)
    (hended₁ : ∀ ch ∈ front₁.getLast?, ch = '\n') (hended₂ : ∀ ch ∈ front₂.getLast?, ch = '\n') :
    ∃ line column,
      (LineIndex.ofText origin (front₁ ++ back)).place c₁.pos =
        ⟨front₁.count '\n' + line, column⟩ ∧
      (LineIndex.ofText origin (front₂ ++ back)).place c₂.pos =
        ⟨front₂.count '\n' + line, column⟩ := by
  obtain ⟨mid, rest, rfl, rfl, rfl⟩ := h
  obtain ⟨line, column, hplace⟩ := LineIndex.place_behind origin mid rest
  refine ⟨line, column, ?_, ?_⟩
  · rw [← hplace front₁ hended₁, List.append_assoc, Cursor.pos, Text.byteLength_reverse]
  · rw [← hplace front₂ hended₂, List.append_assoc, Cursor.pos, Text.byteLength_reverse]

/-- **Run.** A text is read the same behind other whole lines, and its faults have their places as
    many lines further down. -/
theorem statements_shifted (draft : Draft) (origin : String)
    (hended₁ : ∀ ch ∈ front₁.getLast?, ch = '\n') (hended₂ : ∀ ch ∈ front₂.getLast?, ch = '\n')
    (back : List Char) :
    (∃ last, statements draft ⟨origin, front₁.reverse, back⟩ = (last, none) ∧
      statements draft ⟨origin, front₂.reverse, back⟩ = (last, none)) ∨
    ∃ last fault₁ fault₂ line column line' column',
      statements draft ⟨origin, front₁.reverse, back⟩ = (last, some fault₁) ∧
      statements draft ⟨origin, front₂.reverse, back⟩ = (last, some fault₂) ∧
      fault₂.cause = fault₁.cause ∧
      (LineIndex.ofText origin (front₁ ++ back)).span fault₁.start fault₁.stop =
        ⟨origin, ⟨front₁.count '\n' + line, column⟩, ⟨front₁.count '\n' + line', column'⟩⟩ ∧
      (LineIndex.ofText origin (front₂ ++ back)).span fault₂.start fault₂.stop =
        ⟨origin, ⟨front₂.count '\n' + line, column⟩, ⟨front₂.count '\n' + line', column'⟩⟩ := by
  have hshifted : Shifted origin front₁ front₂ back ⟨origin, front₁.reverse, back⟩
      ⟨origin, front₂.reverse, back⟩ := ⟨[], back, rfl, by simp, by simp⟩
  cases statements_alike (Shifted.kept origin front₁ front₂ back) draft hshifted with
  | @ends last e₁ e₂ he hnil hrun₁ hrun₂ =>
    rw [← he.skipBlankLines.ahead_eq] at hnil
    exact .inl ⟨last, hrun₁, hrun₂.trans (statements_of_nil hnil)⟩
  | @stops last cause s₁ s₂ t₁ t₂ hs ht hrun₁ hrun₂ =>
    obtain ⟨line, column, hstart₁, hstart₂⟩ := hs.place_eq hended₁ hended₂
    obtain ⟨line', column', hstop₁, hstop₂⟩ := ht.place_eq hended₁ hended₂
    refine .inr ⟨last, _, _, line, column, line', column', hrun₁, hrun₂, rfl, ?_, ?_⟩
    · rw [← hstart₁, ← hstop₁]
      rfl
    · rw [← hstart₂, ← hstop₂]
      rfl

/-! ### Files -/

/-- Whole lines that are faulty are so before any text, with the same error, which lies in one of
    them. -/
theorem ofPlain_append_error {error : LoadError} (hended : ∀ ch ∈ front.getLast?, ch = '\n')
    (h : RuleSet.ofPlain ⟨origin, [], front⟩ = .error error) (back : List Char) :
    RuleSet.ofPlain ⟨origin, [], front ++ back⟩ = .error error ∧
      ∀ m, error.movedDown (front.count '\n') m = error := by
  obtain ⟨last, fault, hread, herror⟩ := ofPlain_eq_error_iff_statements.1 h
  have hlocated : error = .plain fault.cause
      ((LineIndex.ofText origin front).span fault.start fault.stop) := herror
  obtain ⟨_, _, _, _, hline⟩ := statements_inLine hread
  have hstart : Text.IsBoundary front fault.start := hline.start_boundary
  rw [hlocated]
  constructor
  · rcases statements_append (c := ⟨origin, [], front⟩) {} hended back with
      ⟨_, hnone, -⟩ | ⟨last', fault', hfault, hmore⟩
    · rw [hread] at hnone
      cases hnone
    · obtain ⟨rfl, hsame⟩ := Prod.mk.inj (hread.symm.trans hfault)
      obtain rfl := Option.some.inj hsame
      rw [← LineIndex.span_append hstart hline.stop_boundary back]
      exact ofPlain_of_fault hmore
  · intro m
    have hlt : ((LineIndex.ofText origin front).place fault.start).line < front.count '\n' :=
      LineIndex.line_lt_count hended hstart
        (Nat.lt_of_le_of_lt hline.start_le (hline.stop_lt hended))
    exact congrArg (LoadError.plain _) (Location.movedDown_of_lt hlt m)

/-- Whole lines that are loaded may be followed by any lines that say nothing. -/
theorem ofPlain_lines {set : RuleSet} (hended : ∀ ch ∈ front.getLast?, ch = '\n')
    (hlines : ∀ line ∈ lines, SaysNothing line)
    (h : RuleSet.ofPlain ⟨origin, [], front⟩ = .ok set) (back : List Char) :
    RuleSet.ofPlain ⟨origin, [], front ++ ended lines ++ back⟩ =
      (RuleSet.ofPlain ⟨origin, [], front ++ back⟩).mapError
        (LoadError.movedDown (front.count '\n') lines.length) := by
  obtain ⟨last, hread, -⟩ := ofPlain_eq_ok_iff_statements.1 h
  have hbehind : ∀ back, statements {} ⟨origin, [], front ++ back⟩ =
      statements last ⟨origin, front.reverse, back⟩ := by
    intro back
    rcases statements_append (c := ⟨origin, [], front⟩) {} hended back with
      ⟨last', hnone, hmore⟩ | ⟨_, _, hsome, -⟩
    · obtain ⟨rfl, -⟩ := Prod.mk.inj (hread.symm.trans hnone)
      exact hmore
    · rw [hread] at hsome
      cases hsome
  have hended' := ended_append hended (getLast?_ended lines)
  have hcount : (front ++ ended lines).count '\n' = front.count '\n' + lines.length := by
    rw [List.count_append, count_ended hlines]
  have hskipped : statements {} ⟨origin, [], front ++ ended lines ++ back⟩ =
      statements last ⟨origin, (front ++ ended lines).reverse, back⟩ := by
    rw [List.append_assoc, hbehind, statements_skipped (blankLength_lines hlines)
      (getLast?_ended lines), List.reverse_append]
  rcases statements_shifted last origin hended hended' back with
    ⟨last', hrun₁, hrun₂⟩ | ⟨last', fault₁, fault₂, line, column, line', column', hrun₁, hrun₂,
      hcause, hspan₁, hspan₂⟩
  · rw [ofPlain_eq_ok_iff_statements.2 ⟨last', (hbehind back).trans hrun₁, rfl⟩,
      ofPlain_eq_ok_iff_statements.2 ⟨last', hskipped.trans hrun₂, rfl⟩]
    rfl
  · rw [ofPlain_of_fault ((hbehind back).trans hrun₁), ofPlain_of_fault (hskipped.trans hrun₂),
      hspan₁, hspan₂, hcause, hcount]
    show _ = Except.error (LoadError.plain _ (Location.movedDown _ _ _))
    rw [Location.movedDown, if_pos (Nat.le_add_right _ _)]
    simp only [Nat.add_right_comm]

/-- **Lines that say nothing.** Whole lines, then lines that say nothing, then any text: the lines
    in the middle play no part.

    * The file is loaded exactly if it is without them, and as the same rule set; and otherwise the
      cause is the same, and so are the columns of its location. If this starts in a line behind
      them, it is as many lines further down, and otherwise it is the same.
    * Whole lines that are no plain rule file are none whatever stands behind them, with the same
      error. -/
theorem blank_lines_inert (origin : String) :
    (∀ front back lines, (∀ ch ∈ front.getLast?, ch = '\n') → (∀ line ∈ lines, SaysNothing line) →
      RuleSet.ofPlain (Cursor.ofText origin (String.ofList (front ++ ended lines ++ back))) =
        (RuleSet.ofPlain (Cursor.ofText origin (String.ofList (front ++ back)))).mapError
          (LoadError.movedDown (front.count '\n') lines.length)) ∧
    ∀ content more error, content.getLast? = some '\n' →
      RuleSet.ofPlain (Cursor.ofText origin (String.ofList content)) = .error error →
      RuleSet.ofPlain (Cursor.ofText origin (String.ofList (content ++ more))) = .error error := by
  simp only [ofText_ofList]
  refine ⟨fun front back lines hended hlines => ?_, fun content more error hended h => ?_⟩
  · cases hfront : RuleSet.ofPlain ⟨origin, [], front⟩ with
    | ok set => exact ofPlain_lines hended hlines hfront back
    | error error =>
      -- The lines before those that say nothing decide.
      obtain ⟨hcontent, hmoved⟩ := ofPlain_append_error hended hfront back
      obtain ⟨hextended, -⟩ := ofPlain_append_error hended hfront (ended lines ++ back)
      rw [List.append_assoc, hextended, hcontent]
      exact congrArg Except.error (hmoved lines.length).symm
  · refine (ofPlain_append_error ?_ h more).1
    rintro ch hch
    rw [hended] at hch
    exact (Option.some.inj hch).symm

/-- A comment and a blank line before a directive that is none. -/
theorem blank_lines_inert_comment :
    let lines := ["  # é".toList, ['\t']]
    (∀ line ∈ lines, SaysNothing line) ∧
    RuleSet.ofPlain (Cursor.ofText "t" (String.ofList ("@next\n".toList ++ "@nxt".toList))) =
      .error (.plain (.unknownDirective "nxt") ⟨"t", ⟨1, 0⟩, ⟨1, 4⟩⟩) ∧
    RuleSet.ofPlain
        (Cursor.ofText "t" (String.ofList ("@next\n".toList ++ ended lines ++ "@nxt".toList))) =
      .error (.plain (.unknownDirective "nxt") ⟨"t", ⟨3, 0⟩, ⟨3, 4⟩⟩) := by
  intro lines
  have hlines : ∀ line ∈ lines, SaysNothing line := by
    intro line hline
    have hcases : line = "  # é".toList ∨ line = ['\t'] := by simpa [lines] using hline
    rcases hcases with rfl | rfl
    · exact ⟨by decide, [' ', ' '], ['#', ' ', 'é'], rfl, List.all_eq_true.1 (by decide), by simp⟩
    · exact ⟨by decide, ['\t'], [], rfl, List.all_eq_true.1 (by decide), by simp⟩
  have hlast : "@next\n".toList.getLast? = some '\n' := by decide
  have hended : ∀ ch ∈ "@next\n".toList.getLast?, ch = '\n' := by
    intro ch hch
    rw [hlast] at hch
    exact (Option.some.inj hch).symm
  have herror :
      RuleSet.ofPlain (Cursor.ofText "t" (String.ofList ("@next\n".toList ++ "@nxt".toList))) =
        .error (.plain (.unknownDirective "nxt") ⟨"t", ⟨1, 0⟩, ⟨1, 4⟩⟩) := by
    rw [ofText_ofList]
    have hfault : (statements {} ⟨"t", [], "@next\n".toList ++ "@nxt".toList⟩).2 =
        some ⟨.unknownDirective "nxt", 6, 10⟩ := by decide +kernel
    have hspan : (LineIndex.ofText "t" ("@next\n".toList ++ "@nxt".toList)).span 6 10 =
        ⟨"t", ⟨1, 0⟩, ⟨1, 4⟩⟩ := by decide +kernel
    rw [← hspan]
    exact ofPlain_of_fault (Prod.ext rfl hfault)
  refine ⟨hlines, herror, ?_⟩
  rw [(blank_lines_inert "t").1 "@next\n".toList "@nxt".toList lines hended hlines, herror]
  rfl

end RuleFile.Plain
end OrderedLexer
