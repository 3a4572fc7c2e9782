import OrderedLexer.Proofs.Source.PlaceOrder
import OrderedLexer.Source.Cursor
import Mathlib.Data.List.TakeWhile
import Mathlib.Logic.Function.Iterate

namespace OrderedLexer

open Text (byteLength dropBytes?)

/-!
# Movements of cursors

A cursor moves character by character or by bytes, and both ways agree: bytes that end between two
characters are as many steps as there are characters in them. Counting bytes alone, one comes to the
position of the cursor.

* `text_advanceBy`, `pos_advanceBy`, `advanceBy_advanceBy` — passing characters;
* `exists_skip?`, `skip?_eq_none` — keywords;
* `isBoundary_pos`, `dropBytes?_pos` — a cursor stands between characters;
* `iterate_advance` — passing them one by one;
* `moveTo_byteLength`, `moveTo_of_le` — going to a position;
* `shift_byteLength`, `shift_of_le`, `pos_shift_of_wrap` — passing bytes;
* `Movement.land`, `pos_run` — positions told by counting bytes alone;
* `cursor_laws` — all of it, for any text and any movements;
* `cursor_laws_wrap` — a sum that wraps, at the end of a text.
-/

namespace Cursor

variable {c c' : Cursor} {front back rest : List Char} {keyword : String} {n : Nat}

/-! ### Passing characters -/

theorem advanceBy_zero (c : Cursor) : c.advanceBy 0 = c := by simp [advanceBy]

/-- Two movements are one. -/
theorem advanceBy_advanceBy (c : Cursor) (m n : Nat) :
    (c.advanceBy m).advanceBy n = c.advanceBy (m + n) := by
  simp [advanceBy, List.take_add]

/-- The whole text stays as it is. -/
@[simp] theorem text_advanceBy (c : Cursor) (n : Nat) : (c.advanceBy n).text = c.text := by
  unfold advanceBy text
  rw [List.reverse_append, List.reverse_reverse, List.append_assoc, List.take_append_drop]

@[simp] theorem text_skipWhile (c : Cursor) (p : Char → Bool) : (c.skipWhile p).text = c.text :=
  c.text_advanceBy _

/-- A keyword is passed whole. -/
theorem eq_advanceBy_of_skip? (h : c.skip? keyword = some c') :
    keyword.toList.length ≤ c.ahead.length ∧ c' = c.advanceBy keyword.toList.length := by
  have hahead := ahead_eq_of_skip? h
  unfold skip? at h
  split at h
  · refine ⟨?_, (Option.some.inj h).symm⟩
    rw [hahead, List.length_append]
    omega
  · contradiction

theorem text_of_skip? (h : c.skip? keyword = some c') : c'.text = c.text := by
  rw [(eq_advanceBy_of_skip? h).2, text_advanceBy]

theorem length_passed_advanceBy (h : n ≤ c.ahead.length) :
    (c.advanceBy n).passed.length = c.passed.length + n := by
  rw [advanceBy, List.length_append, List.length_reverse, List.length_take, Nat.min_eq_left h,
    Nat.add_comm]

/-- The position of a cursor behind the start of a text. -/
theorem pos_of_text {passed : List Char} (h : c.text = passed ++ c.ahead) :
    c.pos = Text.byteLength passed := by
  have hpassed : c.passed.reverse = passed := List.append_cancel_right h
  rw [pos, ← hpassed, Text.byteLength_reverse]

theorem pos_advanceBy (c : Cursor) (n : Nat) :
    (c.advanceBy n).pos = c.pos + Text.byteLength (c.ahead.take n) := by
  simp [pos, advanceBy, Nat.add_comm]

theorem pos_skipWhile (c : Cursor) (p : Char → Bool) :
    (c.skipWhile p).pos = c.pos + Text.byteLength (c.ahead.takeWhile p) := by
  rw [skipWhile, pos_advanceBy, ← List.prefix_iff_eq_take.1 (List.takeWhile_prefix p)]

/-- No movement goes back. -/
theorem pos_le_advanceBy (c : Cursor) (n : Nat) : c.pos ≤ (c.advanceBy n).pos := by
  rw [pos_advanceBy]
  omega

theorem pos_le_skipWhile (c : Cursor) (p : Char → Bool) : c.pos ≤ (c.skipWhile p).pos :=
  c.pos_le_advanceBy _

theorem pos_le_of_skip? (h : c.skip? keyword = some c') : c.pos ≤ c'.pos := by
  rw [(eq_advanceBy_of_skip? h).2]
  exact c.pos_le_advanceBy _

/-- What is passed has bytes. -/
theorem pos_lt_advanceBy (hpos : 0 < n) (h : n ≤ c.ahead.length) :
    c.pos < (c.advanceBy n).pos := by
  obtain ⟨ch, rest, hahead⟩ := List.exists_cons_of_length_pos (Nat.lt_of_lt_of_le hpos h)
  obtain ⟨m, rfl⟩ : ∃ m, n = m + 1 := ⟨n - 1, by omega⟩
  have hch := Char.utf8Size_pos ch
  rw [pos_advanceBy, hahead, List.take_succ_cons, Text.byteLength_cons]
  omega

/-! ### Keywords -/

theorem isSome_skip? (c : Cursor) (keyword : String) :
    (c.skip? keyword).isSome = c.continues keyword := by
  unfold skip?
  cases c.continues keyword <;> rfl

theorem continues_of_skip? (h : c.skip? keyword = some c') :
    c.continues keyword = true := by
  rw [← isSome_skip?, h]
  rfl

theorem not_continues_of_skip? (h : c.skip? keyword = none) : c.continues keyword = false := by
  rw [← isSome_skip?, h]
  rfl

/-- A keyword that is next is passed. -/
theorem exists_skip? (keyword : String) (h : c.ahead = keyword.toList ++ rest) :
    ∃ c', c.skip? keyword = some c' ∧ c'.ahead = rest := by
  have hcontinues : c.continues keyword = true := by
    unfold continues
    rw [List.isPrefixOf_iff_prefix, h]
    exact List.prefix_append _ _
  refine ⟨c.advanceBy keyword.toList.length, by rw [skip?, if_pos hcontinues], ?_⟩
  rw [ahead_advanceBy, h, List.drop_left]

/-- A keyword is not passed if another character is next than its first one. -/
theorem skip?_eq_none {k : Char} {ks : List Char} (hkeyword : keyword.toList = k :: ks)
    (h : c.ahead.head? ≠ some k) : c.skip? keyword = none := by
  cases hskip : c.skip? keyword with
  | none => rfl
  | some c' =>
    rw [ahead_eq_of_skip? hskip, hkeyword] at h
    exact absurd rfl h

/-! ### Positions of cursors -/

/-- Cursors stand between characters. -/
theorem isBoundary_pos (c : Cursor) : Text.IsBoundary c.text c.pos :=
  Text.isBoundary_iff.2 ⟨c.passed.reverse, c.ahead, rfl, Text.byteLength_reverse _⟩

/-- What is ahead of a cursor is its text, cut at its position. -/
theorem dropBytes?_pos (c : Cursor) : dropBytes? c.pos c.text = some c.ahead := by
  rw [Cursor.pos, ← Text.byteLength_reverse]
  exact Text.dropBytes?_append _ _

/-- The text is as long as what is passed and what is ahead. -/
theorem byteLength_text (c : Cursor) : byteLength c.text = c.pos + byteLength c.ahead := by
  rw [text, Text.byteLength_append, Text.byteLength_reverse, pos]

theorem isExhausted_iff : c.isExhausted = true ↔ c.pos = byteLength c.text := by
  rw [isExhausted, List.isEmpty_iff, byteLength_text, ← Text.byteLength_eq_zero]
  omega

theorem get?_eq_none_iff : c.get? = none ↔ c.isExhausted = true := by
  rw [get?, List.head?_eq_none_iff, isExhausted, List.isEmpty_iff]

/-! ### One by one -/

theorem iterate_advance (c : Cursor) (n : Nat) : advance^[n] c = c.advanceBy n := by
  induction n with
  | zero => exact c.advanceBy_zero.symm
  | succ n ih => rw [Function.iterate_succ_apply', ih, advance, advanceBy_advanceBy]

/-- At the end, nothing is passed. -/
theorem advance_of_isExhausted (h : c.isExhausted = true) : c.advance = c := by
  have hahead : c.ahead = [] := List.isEmpty_iff.1 h
  rw [advance, advanceBy, hahead]
  cases c
  simp_all

theorem pos_advance (c : Cursor) :
    c.advance.pos = c.pos + (c.get?.map Char.utf8Size).getD 0 := by
  rw [advance, pos_advanceBy, get?]
  cases c.ahead <;> rfl

/-! ### Passing bytes -/

/-- The first characters of a text are told by their bytes. -/
theorem charsWithin_append (front back : List Char) :
    charsWithin (byteLength front) (front ++ back) = front.length := by
  induction front with
  | nil => cases back <;> rfl
  | cons ch front ih =>
    have hch := Char.utf8Size_pos ch
    obtain ⟨n, hn⟩ : ∃ n, byteLength (ch :: front) = n + 1 :=
      ⟨byteLength (ch :: front) - 1, by rw [Text.byteLength_cons]; omega⟩
    have hrest : n + 1 - ch.utf8Size = byteLength front := by
      rw [← hn, Text.byteLength_cons]
      omega
    rw [hn, List.cons_append, charsWithin, hrest, ih, List.length_cons]

/-- All characters of a text start before its end. -/
theorem charsWithin_of_le {text : List Char} (h : byteLength text ≤ n) :
    charsWithin n text = text.length := by
  induction text generalizing n with
  | nil => cases n <;> rfl
  | cons ch text ih =>
    have hch := Char.utf8Size_pos ch
    rw [Text.byteLength_cons] at h
    obtain ⟨n, rfl⟩ : ∃ m, n = m + 1 := ⟨n - 1, by omega⟩
    rw [charsWithin, ih (by omega), List.length_cons]

/-- From the start, the steps before the cursor and those behind it are counted one after the
    other. -/
theorem advanceBy_of_text (c : Cursor) (n : Nat) :
    advanceBy ⟨c.origin, [], c.text⟩ (c.passed.length + n) = c.advanceBy n := by
  have hcut : (c.text.take c.passed.length, c.text.drop c.passed.length) =
      (c.passed.reverse, c.ahead) := by
    rw [text, ← List.length_reverse, List.take_left, List.drop_left]
  obtain ⟨htake, hdrop⟩ := Prod.mk.inj hcut
  rw [← advanceBy_advanceBy]
  unfold advanceBy
  dsimp only
  rw [htake, hdrop, List.reverse_reverse, List.append_nil]

theorem text_moveTo (c : Cursor) (pos : Nat) :
    (c.moveTo pos).text = c.text ∧ (c.moveTo pos).origin = c.origin :=
  ⟨by rw [moveTo, text_advanceBy, text, List.reverse_nil, List.nil_append], rfl⟩

/-- The end of some characters ahead is as many steps away. -/
theorem moveTo_byteLength (h : c.ahead = front ++ back) :
    c.moveTo (c.pos + byteLength front) = c.advanceBy front.length := by
  have htext : c.text = (c.passed.reverse ++ front) ++ back := by
    rw [text, h, List.append_assoc]
  have hpos : c.pos + byteLength front = byteLength (c.passed.reverse ++ front) := by
    rw [Text.byteLength_append, Text.byteLength_reverse, pos]
  rw [moveTo, hpos, htext, charsWithin_append, ← htext, List.length_append, List.length_reverse,
    advanceBy_of_text]

/-- The end of the text is as many steps away as characters are left. -/
theorem moveTo_of_le (h : byteLength c.text ≤ n) : c.moveTo n = c.advanceBy c.ahead.length := by
  have hlength : c.text.length = c.passed.length + c.ahead.length := by
    rw [text, List.length_append, List.length_reverse]
  rw [moveTo, charsWithin_of_le h, hlength, advanceBy_of_text]

/-- The bytes of some characters are as many steps. -/
theorem shift_byteLength (h : c.ahead = front ++ back)
    (hword : c.pos + byteLength front < wordSize) :
    c.shift (byteLength front) = c.advanceBy front.length := by
  rw [shift, Nat.mod_eq_of_lt hword, moveTo_byteLength h]

/-- More bytes than are left are as many steps as there are characters. -/
theorem shift_of_le (h : byteLength c.ahead ≤ n) (hword : c.pos + n < wordSize) :
    c.shift n = c.advanceBy c.ahead.length := by
  rw [shift, Nat.mod_eq_of_lt hword, moveTo_of_le (by rw [byteLength_text]; omega)]

/-- A movement passes the bytes of its characters. -/
theorem advanceBy_eq_shift (c : Cursor) (n : Nat)
    (hword : c.pos + byteLength (c.ahead.take n) < wordSize) :
    c.advanceBy n = c.shift (byteLength (c.ahead.take n)) := by
  rw [shift_byteLength (List.take_append_drop n c.ahead).symm hword, List.length_take,
    Cursor.advanceBy, Cursor.advanceBy, ← List.take_eq_take_min, ← List.drop_eq_drop_min]

open LineIndex (Locatable)

/-- A boundary is the position; behind the end, it is the end. -/
theorem pos_moveTo (h : Locatable c.text n) :
    (c.moveTo n).pos = min n (byteLength c.text) := by
  rcases h with h | h
  · obtain ⟨upTo, behind, htext, rfl⟩ := Text.isBoundary_iff.1 h
    rw [moveTo, pos_advanceBy, htext, charsWithin_append, List.take_left, Text.byteLength_append,
      Nat.min_eq_left (Nat.le_add_right _ _)]
    exact Nat.zero_add _
  · rw [moveTo, pos_advanceBy, charsWithin_of_le h, List.take_length, Nat.min_eq_right h]
    exact Nat.zero_add _

theorem pos_shift (h : Locatable c.text ((c.pos + n) % wordSize)) :
    (c.shift n).pos = min ((c.pos + n) % wordSize) (byteLength c.text) := pos_moveTo h

/-- A sum that does not fit in a machine word leads back. -/
theorem pos_shift_of_wrap (hn : n < wordSize) (hwrap : wordSize ≤ c.pos + n)
    (h : Text.IsBoundary c.text ((c.pos + n) % wordSize)) :
    (c.shift n).pos = (c.pos + n) % wordSize ∧ (c.shift n).pos < c.pos := by
  have hback : (c.pos + n) % wordSize < c.pos := by
    have hmod := Nat.mod_lt (c.pos + n) (show 0 < wordSize by decide)
    by_cases hpos : c.pos < wordSize
    · rw [Nat.mod_eq_sub_mod hwrap, Nat.mod_eq_of_lt (by omega)]
      omega
    · omega
  have htext := c.byteLength_text
  rw [pos_shift (.inl h), Nat.min_eq_left (by omega)]
  exact ⟨rfl, hback⟩

/-! ### Any movements -/

/-- A movement of a cursor. -/
inductive Movement where
  /-- Pass one character. -/
  | advance
  /-- Pass `n` bytes. -/
  | shift (n : Nat)
deriving DecidableEq

/-- A movement from a position, counted in bytes alone. -/
def Movement.land (text : List Char) (pos : Nat) : Movement → Nat
  | .advance => pos + (((dropBytes? pos text).bind List.head?).map Char.utf8Size).getD 0
  | .shift n => min ((pos + n) % wordSize) (byteLength text)

/-- A movement by bytes must lead to a boundary, or behind the end. -/
def Movement.Allowed (text : List Char) (pos : Nat) : Movement → Prop
  | .advance => True
  | .shift n => Locatable text ((pos + n) % wordSize)

instance (text : List Char) (pos : Nat) : (m : Movement) → Decidable (m.Allowed text pos)
  | .advance => .isTrue trivial
  | .shift n =>
    inferInstanceAs (Decidable (Text.IsBoundary text ((pos + n) % wordSize) ∨
      byteLength text ≤ (pos + n) % wordSize))

/-- From a position on, each movement is allowed. -/
def AllAllowed (text : List Char) : Nat → List Movement → Prop
  | _, [] => True
  | pos, m :: ms => m.Allowed text pos ∧ AllAllowed text (m.land text pos) ms

instance (text : List Char) : (pos : Nat) → (ms : List Movement) →
    Decidable (AllAllowed text pos ms)
  | _, [] => .isTrue trivial
  | pos, m :: ms =>
    have := instDecidableAllAllowed text (m.land text pos) ms
    inferInstanceAs (Decidable (m.Allowed text pos ∧ AllAllowed text (m.land text pos) ms))

def Movement.apply (c : Cursor) : Movement → Cursor
  | .advance => c.advance
  | .shift n => c.shift n

/-- The cursor after some movements. -/
def run (c : Cursor) (ms : List Movement) : Cursor := ms.foldl Movement.apply c

/-- No movement changes the text or its name. -/
theorem text_apply (c : Cursor) (m : Movement) :
    (m.apply c).text = c.text ∧ (m.apply c).origin = c.origin := by
  cases m with
  | advance => exact ⟨c.text_advanceBy 1, rfl⟩
  | shift n => exact c.text_moveTo _

theorem pos_apply {m : Movement} (h : m.Allowed c.text c.pos) :
    (m.apply c).pos = m.land c.text c.pos := by
  cases m with
  | advance =>
    rw [Movement.land, dropBytes?_pos]
    exact c.pos_advance
  | shift n => exact pos_shift h

theorem text_run (c : Cursor) (ms : List Movement) :
    (c.run ms).text = c.text ∧ (c.run ms).origin = c.origin := by
  induction ms generalizing c with
  | nil => exact ⟨rfl, rfl⟩
  | cons m ms ih =>
    obtain ⟨htext, horigin⟩ := c.text_apply m
    obtain ⟨htext', horigin'⟩ := ih (m.apply c)
    exact ⟨htext'.trans htext, horigin'.trans horigin⟩

/-- **Run.** Counting bytes alone, one comes to the position of the cursor. -/
theorem pos_run {ms : List Movement} (h : AllAllowed c.text c.pos ms) :
    (c.run ms).pos = ms.foldl (Movement.land c.text) c.pos := by
  induction ms generalizing c with
  | nil => rfl
  | cons m ms ih =>
    obtain ⟨hm, hms⟩ := h
    have htext := (c.text_apply m).1
    rw [← pos_apply hm, ← htext] at hms
    rw [List.foldl_cons, ← pos_apply hm, ← htext]
    exact ih hms

/-! ### Strings -/

theorem utf8ByteSize_eq (text : String) : text.utf8ByteSize = byteLength text.toList := by
  have h : ∀ cs : List Char, (String.ofList cs).utf8ByteSize = byteLength cs := by
    intro cs
    induction cs with
    | nil => rfl
    | cons c cs ih =>
      rw [String.ofList_cons, String.utf8ByteSize_append, String.utf8ByteSize_singleton, ih,
        Text.byteLength_cons]
  rw [← h, String.ofList_toList]

theorem toList_peek (c : Cursor) : c.peek.toList = c.ahead := String.toList_ofList

/-- The text is what is passed and what is ahead. -/
theorem exists_front_peek {text : String} (h : c.text = text.toList) :
    ∃ front, text = front ++ c.peek ∧ c.pos = front.utf8ByteSize := by
  refine ⟨String.ofList c.passed.reverse, ?_, ?_⟩
  · rw [peek, ← String.ofList_append, ← String.ofList_toList (s := text), ← h, Cursor.text]
  · rw [utf8ByteSize_eq, String.toList_ofList, Text.byteLength_reverse, pos]

end Cursor

open Cursor in
/-- **Cursors.** Take any text, and any movements from its start, those by bytes each to a boundary
    or behind the end.

    * Text and name stay as they are, and the position is told by counting bytes alone.
    * The text is cut at the position, and behind the cut it is what is ahead. Its first character
      is the next one. There is none exactly at the end, where one more step changes nothing.
    * The bytes of some characters ahead are as many steps. If there are more bytes than are left,
      they are as many steps as characters are left. Both need that the sum of position and bytes
      is a machine word.
    * If the sum is larger, it wraps: the cursor goes back.
    * Step by step from the start, one gets all characters in sequence, and then none. -/
theorem cursor_laws (origin text : String) {movements : List Movement}
    (h : AllAllowed text.toList 0 movements) :
    let start := ofText origin text
    let c := start.run movements
    (c.text = text.toList ∧ c.origin = origin) ∧
    c.pos = movements.foldl (Movement.land text.toList) 0 ∧
    (∃ front, text = front ++ c.peek ∧ c.pos = front.utf8ByteSize) ∧
    c.get? = c.peek.toList.head? ∧
    (c.get? = none ↔ c.isExhausted = true) ∧
    (c.isExhausted = true ↔ c.pos = text.utf8ByteSize) ∧
    (c.isExhausted = true → c.advance = c) ∧
    (∀ front back, c.peek = front ++ back → c.pos + front.utf8ByteSize < wordSize →
      c.shift front.utf8ByteSize = advance^[front.length] c) ∧
    (∀ n, c.peek.utf8ByteSize ≤ n → c.pos + n < wordSize →
      c.shift n = advance^[c.peek.length] c) ∧
    (∀ n < wordSize, wordSize ≤ c.pos + n →
      Text.IsBoundary text.toList ((c.pos + n) % wordSize) →
        (c.shift n).pos = (c.pos + n) % wordSize ∧ (c.shift n).pos < c.pos) ∧
    ∀ i, (advance^[i] start).get? = text.toList[i]? := by
  intro start c
  obtain ⟨htext, horigin⟩ := start.text_run movements
  have hstart : start.text = text.toList := rfl
  rw [← hstart] at h
  refine ⟨⟨htext, horigin⟩, pos_run h, exists_front_peek htext, ?_, get?_eq_none_iff, ?_,
    advance_of_isExhausted, ?_, ?_, ?_, ?_⟩
  · rw [toList_peek]
    rfl
  · rw [isExhausted_iff, htext, utf8ByteSize_eq]
    rfl
  · intro front back hpeek hword
    have hahead : c.ahead = front.toList ++ back.toList := by
      rw [← toList_peek, hpeek, String.toList_append]
    rw [utf8ByteSize_eq] at hword ⊢
    rw [shift_byteLength hahead hword, iterate_advance, String.length_toList]
  · intro n hn hword
    rw [utf8ByteSize_eq, toList_peek] at hn
    rw [shift_of_le hn hword, iterate_advance, ← String.length_toList, toList_peek]
  · intro n hn hwrap hboundary
    rw [← hstart, ← htext] at hboundary
    exact pos_shift_of_wrap hn hwrap hboundary
  · intro i
    rw [iterate_advance, get?, ahead_advanceBy, List.head?_drop]
    rfl

/-- Over characters of one to three bytes, on behind the end, and back to the start by a sum that
    wraps. -/
theorem cursor_laws_euro :
    let movements : List Cursor.Movement := [.shift 3, .advance, .shift 9]
    Cursor.AllAllowed "aé€\nb".toList 0 movements ∧
      ((Cursor.ofText "t" "aé€\nb").run [.shift 3, .advance]).pos = 6 ∧
      ((Cursor.ofText "t" "aé€\nb").run movements).pos = "aé€\nb".utf8ByteSize ∧
      ((Cursor.ofText "t" "aé€\nb").run movements).isExhausted = true ∧
      (((Cursor.ofText "t" "aé€\nb").run movements).shift (Cursor.wordSize - 8)).pos = 0 := by
  intro movements
  have hallowed : Cursor.AllAllowed "aé€\nb".toList 0 movements := by decide
  have htwo : Cursor.AllAllowed "aé€\nb".toList 0 [.shift 3, .advance] := by decide
  obtain ⟨-, hpos, -⟩ := cursor_laws "t" "aé€\nb" htwo
  obtain ⟨-, hend, -, -, -, hexhausted, -, -, -, hwraps, -⟩ := cursor_laws "t" "aé€\nb" hallowed
  have hwrap := hwraps (Cursor.wordSize - 8)
  have hsize : movements.foldl (Cursor.Movement.land "aé€\nb".toList) 0 =
      "aé€\nb".utf8ByteSize := by decide
  have hstart : (8 + (Cursor.wordSize - 8)) % Cursor.wordSize = 0 := by decide
  have hsum : ((Cursor.ofText "t" "aé€\nb").run movements).pos = 8 := hend.trans (by decide)
  rw [hsum, hstart] at hwrap
  exact ⟨hallowed, hpos, hend.trans hsize, hexhausted.2 (hend.trans hsize),
    (hwrap (by decide) (by decide) (by decide)).1⟩

/-- At the end of a text, more bytes than are left may lead back to its start. -/
theorem cursor_laws_wrap :
    let c := (Cursor.ofText "t" "a").advance
    c.isExhausted = true ∧
      ¬ (∀ n < Cursor.wordSize, c.peek.utf8ByteSize ≤ n →
        c.shift n = Cursor.advance^[c.peek.length] c) ∧
      c.shift (Cursor.wordSize - 1) = Cursor.ofText "t" "a" := by
  intro c
  have hback : c.shift (Cursor.wordSize - 1) = Cursor.ofText "t" "a" := by decide +kernel
  refine ⟨by decide, fun h => ?_, hback⟩
  have hstay := h (Cursor.wordSize - 1) (by decide) (by decide)
  rw [hback] at hstay
  exact absurd hstay (by decide)

end OrderedLexer
