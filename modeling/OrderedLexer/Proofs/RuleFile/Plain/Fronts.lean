import OrderedLexer.Proofs.RuleFile.Plain.Runs
import Mathlib.Data.List.DropRight

namespace OrderedLexer

/-!
# Files that are cut

What is read up to some place does not depend on the text behind it. So a file that is cut where a
statement starts is read as far as that, and without a fault.

* `Cursor.cut` — a cursor in a text without its last characters;
* `Cursor.skipWhile_cut`, `Cursor.skip?_cut` — it passes the same, if this is not cut off;
* `integer_cut`, `directive_cut`, `words_cut`, `rule_cut`, `statement_cut` — and reads the same;
* `blankLength_rdrop`, `skipBlankLines_cut` — what is skipped before a statement;
* `StopsAt`, `exists_of_fault` — the fault of a file is that of a statement, and up to there the
  file is read without a fault.
-/

/-! ### Texts -/

section

variable {α : Type} {p : α → Bool} {x : α} {xs ys : List α} {k : Nat}

theorem rdrop_cons (h : k ≤ xs.length) (x : α) : (x :: xs).rdrop k = x :: xs.rdrop k := by
  rw [List.rdrop, List.rdrop, List.length_cons, Nat.succ_sub h, List.take_succ_cons]

theorem rdrop_append (h : k ≤ ys.length) (xs : List α) :
    (xs ++ ys).rdrop k = xs ++ ys.rdrop k := by
  induction xs with
  | nil => rfl
  | cons x xs ih =>
    rw [List.cons_append, rdrop_cons (by rw [List.length_append]; omega), ih, List.cons_append]

/-- If something is left, it starts with the same element. -/
theorem head?_rdrop (k : Nat) (xs : List α) : ∀ x ∈ (xs.rdrop k).head?, x ∈ xs.head? := by
  intro x hx
  rw [List.rdrop, List.head?_take] at hx
  split at hx
  · contradiction
  · exact hx

theorem takeWhile_rdrop (h : k ≤ (xs.dropWhile p).length) :
    (xs.rdrop k).takeWhile p = xs.takeWhile p := by
  induction xs with
  | nil => rw [List.rdrop_nil]
  | cons x xs ih =>
    by_cases hx : p x = true
    · rw [List.dropWhile_cons_of_pos hx] at h
      have hle : k ≤ xs.length := Nat.le_trans h (List.dropWhile_sublist p).length_le
      rw [rdrop_cons hle, List.takeWhile_cons_of_pos hx, List.takeWhile_cons_of_pos hx, ih h]
    · have hfirst := head?_rdrop k (x :: xs)
      cases hcut : (x :: xs).rdrop k with
      | nil => rw [List.takeWhile_nil, List.takeWhile_cons_of_neg hx]
      | cons y ys =>
        rw [hcut] at hfirst
        obtain rfl := Option.some.inj (hfirst y rfl)
        rw [List.takeWhile_cons_of_neg hx, List.takeWhile_cons_of_neg hx]

end

namespace Cursor

variable {c d : Cursor} {p : Char → Bool} {keyword : String} {k n : Nat}

/-- The cursor at the same place of the text without its last `k` characters. -/
def cut (c : Cursor) (k : Nat) : Cursor := { c with ahead := c.ahead.rdrop k }

theorem ahead_cut (c : Cursor) (k : Nat) : (c.cut k).ahead = c.ahead.rdrop k := rfl

theorem advanceBy_cut (h : n + k ≤ c.ahead.length) :
    (c.cut k).advanceBy n = (c.advanceBy n).cut k := by
  have hle : n ≤ c.ahead.length - k := by omega
  have hlength : c.ahead.length - k - n = c.ahead.length - n - k := by omega
  simp only [advanceBy, cut, List.rdrop, List.take_take, Nat.min_eq_left hle, List.drop_take,
    List.length_drop, hlength]

theorem skipWhile_cut (h : k ≤ (c.skipWhile p).ahead.length) :
    (c.cut k).skipWhile p = (c.skipWhile p).cut k := by
  have hle : (c.ahead.takeWhile p).length + k ≤ c.ahead.length := by
    have hsplit := congrArg List.length (c.ahead.takeWhile_append_dropWhile (p := p))
    rw [List.length_append] at hsplit
    rw [ahead_skipWhile] at h
    omega
  rw [ahead_skipWhile] at h
  rw [skipWhile, ahead_cut, takeWhile_rdrop h, advanceBy_cut hle, skipWhile]

theorem skip?_cut (hskip : c.skip? keyword = some d) (h : k ≤ d.ahead.length) :
    (c.cut k).skip? keyword = some (d.cut k) := by
  have hahead := ahead_eq_of_skip? hskip
  obtain ⟨-, hd⟩ := eq_advanceBy_of_skip? hskip
  have hcontinues : (c.cut k).continues keyword = true := by
    rw [continues, List.isPrefixOf_iff_prefix, ahead_cut, hahead, rdrop_append h]
    exact List.prefix_append _ _
  have hle : keyword.toList.length + k ≤ c.ahead.length := by
    rw [hahead, List.length_append]
    omega
  rw [skip?, if_pos hcontinues, advanceBy_cut hle, ← hd]

/-- What is not next is not next in a part of the text. -/
theorem skip?_cut_eq_none (hskip : c.skip? keyword = none) (k : Nat) :
    (c.cut k).skip? keyword = none := by
  cases hcut : (c.cut k).skip? keyword with
  | none => rfl
  | some d =>
    have hahead := ahead_eq_of_skip? hcut
    have hprefix : keyword.toList <+: c.ahead :=
      (List.prefix_append keyword.toList d.ahead).trans (hahead ▸ List.take_prefix _ c.ahead)
    have hcontinues := not_continues_of_skip? hskip
    rw [continues, List.isPrefixOf_iff_prefix.2 hprefix] at hcontinues
    contradiction

end Cursor

namespace RuleFile.Plain

variable {draft draft' : Draft} {c c' : Cursor} {k : Nat}

/-! ### Parts of statements -/

theorem wordAhead_cut (h : k ≤ (c.skipWhile isWordChar).ahead.length) :
    wordAhead (c.cut k) = wordAhead c := by
  rw [Cursor.ahead_skipWhile] at h
  rw [wordAhead, Cursor.ahead_cut, takeWhile_rdrop h, wordAhead]

theorem integer_cut {key : OrderKey} (hread : integer c = .ok (key, c'))
    (h : k ≤ c'.ahead.length) : integer (c.cut k) = .ok (key, c'.cut k) := by
  obtain ⟨hdigits, hval, rfl⟩ := integer_eq_ok_iff.1 hread
  have hle := Nat.le_trans h (Cursor.length_ahead_skipWhile _ Char.isDigit)
  -- The minus is passed in both texts, or in none of them.
  have hminus : (c.cut k).continues "-" = c.continues "-" ∧
      ((c.cut k).skip? "-").getD (c.cut k) = ((c.skip? "-").getD c).cut k := by
    rw [← Cursor.isSome_skip?, ← Cursor.isSome_skip?]
    cases hskip : c.skip? "-" with
    | none =>
      rw [Cursor.skip?_cut_eq_none hskip]
      exact ⟨rfl, rfl⟩
    | some d =>
      rw [hskip, Option.getD_some] at hle
      rw [Cursor.skip?_cut hskip hle]
      exact ⟨rfl, rfl⟩
  obtain ⟨hcontinues, hstart⟩ := hminus
  have htake := h
  rw [Cursor.ahead_skipWhile] at htake
  rw [integer_eq_ok_iff, hcontinues, hstart, Cursor.ahead_cut, takeWhile_rdrop htake,
    Cursor.skipWhile_cut h]
  exact ⟨hdigits, hval, rfl⟩

theorem argument_cut {start : Nat} {word : String}
    (hread : argument draft start word c = .ok (draft', c')) (h : k ≤ c'.ahead.length) :
    argument draft start word (c.cut k) = .ok (draft', c'.cut k) := by
  rw [argument_eq_ok_iff] at hread ⊢
  rcases hread with ⟨hword, key, hkey, hdraft⟩ | ⟨hword, rfl, hdraft⟩ |
    ⟨hword, hempty, key, hkey, hdraft⟩
  · exact .inl ⟨hword, key, integer_cut hkey h, hdraft⟩
  · exact .inr (.inl ⟨hword, rfl, hdraft⟩)
  · exact .inr (.inr ⟨hword, hempty, key, integer_cut hkey h, hdraft⟩)

theorem atLineEnd_cut (hend : atLineEnd c = true) (k : Nat) : atLineEnd (c.cut k) = true := by
  unfold atLineEnd at *
  cases hget : (c.cut k).get? with
  | none => rfl
  | some ch =>
    have hsame : c.get? = some ch := head?_rdrop k c.ahead ch hget
    rwa [hsame] at hend

theorem directive_cut {start : Nat} (hread : directive draft start c = .ok (draft', c'))
    (h : k ≤ c'.ahead.length) :
    directive draft start (c.cut k) = .ok (draft', c'.cut k) := by
  obtain ⟨rest, hargument, rfl, hend⟩ := directive_eq_ok_iff.1 hread
  have hrest := Nat.le_trans h (Cursor.length_ahead_skipWhile rest isBlank)
  have hblanks := Nat.le_trans hrest (argument_progress hargument)
  have hword := Nat.le_trans hblanks (Cursor.length_ahead_skipWhile _ isBlank)
  refine directive_eq_ok_iff.2 ⟨rest.cut k, ?_, (Cursor.skipWhile_cut h).symm, atLineEnd_cut hend k⟩
  rw [wordAhead_cut hword, Cursor.skipWhile_cut hword, Cursor.skipWhile_cut hblanks]
  exact argument_cut hargument hrest

theorem words_cut {found ws : List Word} (hread : words found c = .ok (ws, c'))
    (h : k ≤ c'.ahead.length) : words found (c.cut k) = .ok (ws, c'.cut k) := by
  -- Induction along the words: each of them is read whole, since `::=` comes behind it.
  fun_induction words found c with
  | case1 found c d rest hskip =>
    obtain ⟨rfl, rfl⟩ := Prod.mk.inj (Except.ok.inj hread)
    have hd : k ≤ d.ahead.length := by
      have := length_skip? hskip
      omega
    refine words_of_skip? ?_
    rw [Cursor.skipWhile_cut hd]
    exact Cursor.skip?_cut hskip h
  | case2 => contradiction
  | case3 found c d hskip length hlength ih =>
    have hbehind : k ≤ (d.skipWhile isWordChar).ahead.length :=
      Nat.le_trans h (Nat.le_of_lt (words_progress hread))
    have hd : k ≤ d.ahead.length :=
      Nat.le_trans hbehind (Cursor.length_ahead_skipWhile d isWordChar)
    have hblanks : (c.cut k).skipWhile isBlank = d.cut k := Cursor.skipWhile_cut hd
    have hword : (d.cut k).ahead.takeWhile isWordChar = d.ahead.takeWhile isWordChar := by
      rw [Cursor.ahead_skipWhile] at hbehind
      exact takeWhile_rdrop hbehind
    rw [words_of_word (by rw [hblanks]; exact Cursor.skip?_cut_eq_none hskip k)
      (by rw [hblanks, hword]; exact List.ne_nil_of_length_pos (Nat.pos_of_ne_zero hlength)),
      hblanks, wordAhead_cut hbehind, Cursor.skipWhile_cut hbehind]
    exact ih hread

theorem pattern_cut {m : Modifiers} {name : String} {r : Rule}
    (hread : pattern m name c = .ok (r, c')) (h : k ≤ c'.ahead.length) :
    pattern m name (c.cut k) = .ok (r, c'.cut k) := by
  obtain ⟨hne, hrule, rfl⟩ := pattern_eq_ok_iff.1 hread
  have htake := h
  rw [Cursor.ahead_skipWhile] at htake
  rw [pattern_eq_ok_iff, Cursor.ahead_cut, takeWhile_rdrop htake]
  exact ⟨hne, hrule, (Cursor.skipWhile_cut h).symm⟩

theorem rule_cut (hread : rule draft c = .ok (draft', c')) (h : k ≤ c'.ahead.length) :
    rule draft (c.cut k) = .ok (draft', c'.cut k) := by
  obtain ⟨name, modifiers, rest, m, r, set, hwords, hmodifiers, hpattern, hinsert, hdraft⟩ :=
    rule_eq_ok_iff.1 hread
  have hblanks := Nat.le_trans h (pattern_progress hpattern)
  have hrest := Nat.le_trans hblanks (Cursor.length_ahead_skipWhile rest isBlank)
  refine rule_eq_ok_iff.2 ⟨name, modifiers, rest.cut k, m, r, set, words_cut hwords hrest,
    hmodifiers, ?_, hinsert, hdraft⟩
  rw [Cursor.skipWhile_cut hblanks]
  exact pattern_cut hpattern h

/-- **Statement.** What a statement says does not depend on what stands behind it. -/
theorem statement_cut (hread : statement draft c = .ok (draft', c')) (h : k ≤ c'.ahead.length) :
    statement draft (c.cut k) = .ok (draft', c'.cut k) := by
  rw [statement_eq_ok_iff] at hread ⊢
  rcases hread with ⟨rest, hskip, hdirective⟩ | ⟨hskip, hrule⟩
  · have hrest := Nat.le_trans h (directive_progress hdirective)
    exact .inl ⟨rest.cut k, Cursor.skip?_cut hskip hrest, directive_cut hdirective h⟩
  · exact .inr ⟨Cursor.skip?_cut_eq_none hskip k, rule_cut hrule h⟩

/-! ### What is skipped -/

theorem blankLength_rdrop {comment : Bool} {text : List Char}
    (h : blankLength comment text + k ≤ text.length) :
    blankLength comment (text.rdrop k) = blankLength comment text := by
  induction text generalizing comment with
  | nil => rw [List.rdrop_nil]
  | cons ch text ih =>
    rcases blankLength_cons comment ch with ⟨comment', -, hcons⟩ | hcons
    · rw [hcons, List.length_cons] at h
      rw [rdrop_cons (by omega), hcons, hcons, ih (by omega)]
    · have hfirst := head?_rdrop k (ch :: text)
      cases hcut : (ch :: text).rdrop k with
      | nil => rw [blankLength, hcons]
      | cons x rest =>
        rw [hcut] at hfirst
        obtain rfl := Option.some.inj (hfirst x rfl)
        rw [hcons, hcons]

theorem length_ahead_skipBlankLines (c : Cursor) :
    (skipBlankLines c).ahead.length ≤ c.ahead.length := by
  rw [ahead_skipBlankLines, List.length_drop]
  exact Nat.sub_le _ _

theorem skipBlankLines_cut (h : k ≤ (skipBlankLines c).ahead.length) :
    skipBlankLines (c.cut k) = (skipBlankLines c).cut k := by
  have hlength : blankLength false c.ahead + k ≤ c.ahead.length := by
    have hle := blankLength_le false c.ahead
    rw [ahead_skipBlankLines, List.length_drop] at h
    omega
  rw [skipBlankLines, Cursor.ahead_cut, blankLength_rdrop hlength, Cursor.advanceBy_cut hlength,
    skipBlankLines]

/-! ### The statement at fault -/

/-- A statement that is read leads on in its text. -/
theorem exists_advanceBy_of_statement (h : statement draft c = .ok (draft', c')) :
    ∃ n, c' = c.advanceBy n := by
  have halike := statement_alike draft (Eq.refl (saidAhead c))
  rw [h] at halike
  cases halike with
  | ok hsame =>
    obtain ⟨-, hbehind⟩ := hsame
    obtain ⟨n, -, hn, -⟩ := hbehind.exists_advanceBy rfl
    exact ⟨n, hn⟩

/-- From `c` on, the statement at `b` is reached with `last`, and is at fault. -/
structure StopsAt (draft : Draft) (c : Cursor) (last : Draft) (b : Cursor) (fault : Fault) :
    Prop where
  origin_eq : b.origin = c.origin
  text_eq : b.text = c.text
  ahead_ne_nil : b.ahead ≠ []
  head : ∀ ch ∈ b.ahead.head?, Unicode.isWhitespace ch = false ∧ ch ≠ '#'
  length_le : b.ahead.length ≤ c.ahead.length
  /-- If the text is cut there, all of it is read. -/
  accepted : statements draft (c.cut b.ahead.length) = (last, none)
  at_fault : statement last b = .error fault

/-- Of a text that is cut where a statement starts, nothing is left but what is skipped. -/
theorem statements_cut_skipBlankLines (draft : Draft) (c : Cursor) :
    statements draft (c.cut (skipBlankLines c).ahead.length) = (draft, none) := by
  refine statements_of_nil ?_
  rw [skipBlankLines_cut (Nat.le_refl _), Cursor.ahead_cut, List.rdrop, Nat.sub_self,
    List.take_zero]

/-- **Step.** A statement that is read comes before the one that is at fault. -/
theorem StopsAt.of_statement {next last : Draft} {rest b : Cursor} {fault : Fault}
    (hread : statement draft (skipBlankLines c) = .ok (next, rest))
    (h : StopsAt next rest last b fault) : StopsAt draft c last b fault := by
  obtain ⟨n, rfl⟩ := exists_advanceBy_of_statement hread
  have hlt := statement_progress hread
  have hskip := length_ahead_skipBlankLines c
  have hle := h.length_le
  refine ⟨h.origin_eq, ?_, h.ahead_ne_nil, h.head, by omega, ?_, h.at_fault⟩
  · rw [h.text_eq, Cursor.text_advanceBy]
    exact c.text_advanceBy _
  · have hcut := skipBlankLines_cut (c := c) (k := b.ahead.length) (by omega)
    have hread' := statement_cut hread hle
    rw [← hcut] at hread'
    have hne : (skipBlankLines (c.cut b.ahead.length)).ahead ≠ [] :=
      List.ne_nil_of_length_pos (Nat.lt_of_le_of_lt (Nat.zero_le _) (statement_progress hread'))
    exact (statements_of_ok hne hread').trans h.accepted

/-- **Run.** The fault of a file is that of a statement in it, up to which the file is read. -/
theorem exists_of_fault {last : Draft} {fault : Fault}
    (h : statements draft c = (last, some fault)) : ∃ b, StopsAt draft c last b fault := by
  -- Induction along the statements: the last one is at fault, and the cut goes back before each.
  fun_induction statements draft c with
  | case1 draft c c' hend => simp at h
  | case2 draft c c' hend next rest hread ih =>
    obtain ⟨b, hb⟩ := ih h
    exact ⟨b, hb.of_statement hread⟩
  | case3 draft c c' hend fault' hread =>
    obtain ⟨rfl, hfault⟩ := Prod.mk.inj h
    rw [← Option.some.inj hfault]
    exact ⟨c', rfl, c.text_advanceBy _, by simpa [Cursor.isExhausted] using hend,
      head?_drop c.ahead false, length_ahead_skipBlankLines c,
      statements_cut_skipBlankLines draft c, hread⟩

end RuleFile.Plain
end OrderedLexer
