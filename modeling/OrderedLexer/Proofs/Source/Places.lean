import OrderedLexer.Source.Location
import Mathlib.Data.List.Induction

namespace OrderedLexer

open Text (byteLength dropBytes? charCount?)

/-!
# Places are found by walking

The place of a byte position is found by binary search over the line feeds of the text. It is the
place that a walk over the text from its start comes to.

* `Walker.walk` — the walk, character by character up to a byte position;
* `LineIndex.place?` — the search, with every index and every difference checked;
* `Splits` — the text is cut behind whole lines and inside a line, at the last cut before a
  position;
* `lowerBound?_append` — binary search finds where the entries below a number end;
* `Splits.place?_eq`, `walk_of_splits` — search and walk come to the same place;
* `place_of_position` — what place this is.
-/

/-! ### Walking -/

/-- Where a walk stands: the place, and the bytes passed since the start of the line. -/
structure Walker where
  place : Place
  bytes : Nat

namespace Walker

def start : Walker := ⟨⟨0, 0⟩, 0⟩

/-- Pass a character. A line feed ends its line. -/
def step (w : Walker) (c : Char) : Walker :=
  if c = '\n' then ⟨⟨w.place.line + 1, 0⟩, 0⟩
  else ⟨⟨w.place.line, w.place.column + 1⟩, w.bytes + c.utf8Size⟩

/-- Walk over a text up to a byte position, or to the end. Inside a character the column counts
    bytes. -/
def walk (w : Walker) : Nat → List Char → Place
  | 0, _ => w.place
  | _ + 1, [] => w.place
  | pos + 1, c :: cs =>
    if pos + 1 < c.utf8Size then ⟨w.place.line, w.bytes + (pos + 1)⟩
    else (w.step c).walk (pos + 1 - c.utf8Size) cs

@[simp] theorem walk_zero (w : Walker) (text : List Char) : w.walk 0 text = w.place := by
  cases text <;> rfl

end Walker

/-! ### Counting characters -/

/-- Whole characters are counted, and then those behind them. -/
theorem Text.charCount?_append (front back : List Char) (n : Nat) :
    charCount? (byteLength front + n) (front ++ back) =
      (charCount? n back).map (· + front.length) := by
  induction front with
  | nil => simp
  | cons c front ih =>
    have hc := Char.utf8Size_pos c
    obtain ⟨m, hm⟩ : ∃ m, byteLength (c :: front) + n = m + 1 :=
      ⟨byteLength (c :: front) + n - 1, by rw [byteLength_cons]; omega⟩
    have hle : c.utf8Size ≤ m + 1 := by
      rw [← hm, byteLength_cons]
      omega
    have hrest : m + 1 - c.utf8Size = byteLength front + n := by
      rw [← hm, byteLength_cons]
      omega
    rw [hm, List.cons_append, charCount?, if_pos hle, hrest, ih, Option.map_map, List.length_cons]
    rfl

/-- Inside a character nothing is counted. -/
theorem Text.charCount?_eq_none {n : Nat} {c : Char} (hpos : 0 < n) (h : n < c.utf8Size)
    (cs : List Char) : charCount? n (c :: cs) = none := by
  cases n with
  | zero => contradiction
  | succ n => rw [charCount?, if_neg (Nat.not_le.2 h)]

/-! ### Searching with checks -/

namespace LineIndex

/-- A difference that is not negative. -/
def sub? (a b : Nat) : Option Nat := if b ≤ a then some (a - b) else none

/-- As `lowerBound`; `none` if an entry is looked up that there is not. -/
def lowerBound? (a : Array Nat) (x lo hi : Nat) : Option Nat :=
  if lo < hi then
    let mid := (lo + hi) / 2
    a[mid]?.bind fun y => if y < x then lowerBound? a x (mid + 1) hi else lowerBound? a x lo mid
  else some lo
termination_by hi - lo

/-- The byte position at which a line starts, by the line feed that ends the line before it. -/
def lineStart? (ix : LineIndex) (line : Nat) : Option Nat :=
  if line = 0 then some 0 else (sub? line 1).bind fun i => ix.lineFeeds[i]?.map (· + 1)

/-- As `place`; `none` if an entry is looked up that there is not, or a difference is negative. -/
def place? (ix : LineIndex) (pos : Nat) : Option Place := do
  let pos := min pos (byteLength ix.text)
  let line ← lowerBound? ix.lineFeeds pos 0 ix.lineFeeds.size
  let lineStart ← ix.lineStart? line
  let bytes ← sub? pos lineStart
  return ⟨line, ((dropBytes? lineStart ix.text).bind (charCount? bytes)).getD bytes⟩

/-- What a checked search finds is what a search finds. -/
theorem lowerBound_eq_of_lowerBound? {a : Array Nat} {x lo hi n : Nat}
    (h : lowerBound? a x lo hi = some n) : lowerBound a x lo hi = n := by
  fun_induction lowerBound? a x lo hi with
  | case1 lo hi hlt mid ihUpper ihLower =>
    obtain ⟨y, hy, hn⟩ := Option.bind_eq_some_iff.1 h
    have hmid : a.getD mid 0 = y := by
      rw [Array.getD_eq_getD_getElem?, hy, Option.getD_some]
    rw [lowerBound, if_pos hlt]
    show (if a.getD mid 0 < x then lowerBound a x (mid + 1) hi else lowerBound a x lo mid) = n
    rw [hmid]
    by_cases hyx : y < x
    · rw [if_pos hyx] at hn ⊢
      exact ihUpper hn
    · rw [if_neg hyx] at hn ⊢
      exact ihLower hn
  | case2 lo hi hlt =>
    rw [lowerBound, if_neg hlt]
    exact Option.some.inj h

theorem sub?_eq_some_iff {a b n : Nat} : sub? a b = some n ↔ b ≤ a ∧ a - b = n := by
  unfold sub?
  split
  · simp [*]
  · simp [*]

/-- A line that has a start with checks has it without them. -/
theorem lineStart_eq_of_lineStart? {ix : LineIndex} {line n : Nat}
    (h : ix.lineStart? line = some n) :
    (if line = 0 then 0 else ix.lineFeeds.getD (line - 1) 0 + 1) = n := by
  unfold lineStart? at h
  by_cases hzero : line = 0
  · rw [if_pos hzero] at h ⊢
    exact Option.some.inj h
  · rw [if_neg hzero] at h ⊢
    obtain ⟨i, hi, h⟩ := Option.bind_eq_some_iff.1 h
    obtain ⟨-, rfl⟩ := sub?_eq_some_iff.1 hi
    obtain ⟨feed, hfeed, rfl⟩ := Option.map_eq_some_iff.1 h
    rw [Array.getD_eq_getD_getElem?, hfeed, Option.getD_some]

/-- What is found with checks is found without them. -/
theorem place_eq_of_place? {ix : LineIndex} {pos : Nat} {p : Place} (h : ix.place? pos = some p) :
    ix.place pos = p := by
  unfold place? at h
  obtain ⟨line, hline, h⟩ := Option.bind_eq_some_iff.1 h
  obtain ⟨lineStart, hstart, h⟩ := Option.bind_eq_some_iff.1 h
  obtain ⟨bytes, hbytes, h⟩ := Option.bind_eq_some_iff.1 h
  have hlower := lowerBound_eq_of_lowerBound? hline
  have hlineStart := lineStart_eq_of_lineStart? hstart
  obtain ⟨-, hsub⟩ := sub?_eq_some_iff.1 hbytes
  unfold place
  simp only [hlower, hlineStart, hsub]
  exact Option.some.inj h

/-! ### The positions of line feeds -/

variable {text front back lines part rest : List Char} {pos q : Nat}

theorem lineFeedsFrom_append (pos : Nat) (front back : List Char) :
    lineFeedsFrom pos (front ++ back) =
      lineFeedsFrom pos front ++ lineFeedsFrom (pos + byteLength front) back := by
  induction front generalizing pos with
  | nil => rfl
  | cons c front ih =>
    simp only [List.cons_append, lineFeedsFrom, Text.byteLength_cons, ih, Nat.add_assoc]
    split <;> rfl

/-- Each line feed stands inside the text. -/
theorem mem_lineFeedsFrom {x : Nat} (h : x ∈ lineFeedsFrom pos text) :
    pos ≤ x ∧ x < pos + byteLength text := by
  induction text generalizing pos with
  | nil => cases h
  | cons c text ih =>
    have hc := Char.utf8Size_pos c
    rw [Text.byteLength_cons]
    have hrest : x ∈ lineFeedsFrom (pos + c.utf8Size) text →
        pos ≤ x ∧ x < pos + (c.utf8Size + byteLength text) := by
      intro hx
      have := ih hx
      omega
    rw [lineFeedsFrom] at h
    split at h
    · rcases List.mem_cons.1 h with rfl | hx
      · omega
      · exact hrest hx
    · exact hrest h

theorem length_lineFeedsFrom (pos : Nat) (text : List Char) :
    (lineFeedsFrom pos text).length = text.count '\n' := by
  induction text generalizing pos with
  | nil => rfl
  | cons c text ih =>
    rw [lineFeedsFrom]
    by_cases hfeed : c = '\n'
    · simp [hfeed, ih]
    · simp [hfeed, ih]

/-- Inside a line there are none. -/
theorem lineFeedsFrom_eq_nil (pos : Nat) (h : '\n' ∉ text) : lineFeedsFrom pos text = [] := by
  rw [← List.length_eq_zero_iff, length_lineFeedsFrom]
  exact List.count_eq_zero_of_not_mem h

/-- **Search.** Binary search finds where the entries below a number end. -/
theorem lowerBound?_append {below above : List Nat} {x lo hi : Nat}
    (hbelow : ∀ y ∈ below, y < x) (habove : ∀ y ∈ above, x ≤ y)
    (hlo : lo ≤ below.length) (hhi : below.length ≤ hi) (hsize : hi ≤ (below ++ above).length) :
    lowerBound? (below ++ above).toArray x lo hi = some below.length := by
  -- The end of the entries below stays between the two bounds.
  fun_induction lowerBound? (below ++ above).toArray x lo hi with
  | case1 lo hi hlt mid ihUpper ihLower =>
    have hmid : lo ≤ mid ∧ mid < hi := by omega
    have hentry : (below ++ above).toArray[mid]? = some (below ++ above)[mid] := by
      rw [List.getElem?_toArray]
      exact List.getElem?_eq_getElem (by omega)
    rw [hentry, Option.bind_some]
    by_cases hleft : mid < below.length
    · have hy : (below ++ above)[mid] < x := by
        rw [List.getElem_append_left hleft]
        exact hbelow _ (List.getElem_mem _)
      rw [if_pos hy]
      exact ihUpper hleft hhi hsize
    · have hy : ¬ (below ++ above)[mid] < x := by
        rw [List.getElem_append_right (by omega)]
        exact Nat.not_lt.2 (habove _ (List.getElem_mem _))
      rw [if_neg hy]
      exact ihLower hlo (by omega) (by omega)
  | case2 lo hi hlt =>
    congr 1
    omega

/-! ### Cuts before a position -/

/-- A text is cut behind whole lines and inside a line, at the last such cut that is not behind a
    byte position. -/
structure Splits (text : List Char) (pos : Nat) (lines part rest : List Char) : Prop where
  eq_append : text = lines ++ part ++ rest
  /-- The part starts its line. -/
  ended : ∀ c ∈ lines.getLast?, c = '\n'
  inLine : '\n' ∉ part
  reached : byteLength (lines ++ part) ≤ pos
  last : ∀ c ∈ rest.head?, pos < byteLength (lines ++ part) + c.utf8Size

/-- A text is cut behind its last line feed. -/
theorem exists_lines_part (front : List Char) :
    ∃ lines part, front = lines ++ part ∧ (∀ c ∈ lines.getLast?, c = '\n') ∧ '\n' ∉ part := by
  induction front using List.reverseRecOn with
  | nil => exact ⟨[], [], rfl, by simp, by simp⟩
  | append_singleton front c ih =>
    by_cases hfeed : c = '\n'
    · refine ⟨front ++ [c], [], by simp, ?_, by simp⟩
      simp [hfeed]
    · obtain ⟨lines, part, rfl, hended, hline⟩ := ih
      refine ⟨lines, part ++ [c], by simp, hended, ?_⟩
      simp [hline, Ne.symm hfeed]

/-- A text is cut at the last character boundary that is not behind a byte position. -/
theorem exists_front_rest (text : List Char) (pos : Nat) :
    ∃ front rest, text = front ++ rest ∧ byteLength front ≤ pos ∧
      ∀ c ∈ rest.head?, pos < byteLength front + c.utf8Size := by
  induction text generalizing pos with
  | nil => exact ⟨[], [], rfl, Nat.zero_le pos, by simp⟩
  | cons c text ih =>
    by_cases hc : pos < c.utf8Size
    · exact ⟨[], c :: text, rfl, Nat.zero_le pos, by simpa using hc⟩
    · obtain ⟨front, rest, rfl, hreached, hlast⟩ := ih (pos - c.utf8Size)
      refine ⟨c :: front, rest, rfl, ?_, fun ch hch => ?_⟩
      · rw [Text.byteLength_cons]
        omega
      · have := hlast ch hch
        rw [Text.byteLength_cons]
        omega

theorem exists_splits (text : List Char) (pos : Nat) :
    ∃ lines part rest, Splits text pos lines part rest := by
  obtain ⟨front, rest, rfl, hreached, hlast⟩ := exists_front_rest text pos
  obtain ⟨lines, part, rfl, hended, hline⟩ := exists_lines_part front
  exact ⟨lines, part, rest, rfl, hended, hline, hreached, hlast⟩

/-- Inside the text, a position that is not at the cut lies inside the character behind it. -/
theorem Splits.cases (h : Splits text pos lines part rest) (hpos : pos ≤ byteLength text) :
    pos = byteLength (lines ++ part) ∨
      ∃ c cs, rest = c :: cs ∧ byteLength (lines ++ part) < pos ∧
        pos < byteLength (lines ++ part) + c.utf8Size := by
  rcases Nat.eq_or_lt_of_le h.reached with heq | hlt
  · exact .inl heq.symm
  · cases rest with
    | nil =>
      -- Nothing stands behind the cut, so the position is not behind it.
      rw [h.eq_append, List.append_nil] at hpos
      omega
    | cons c cs => exact .inr ⟨c, cs, rfl, hlt, h.last c rfl⟩

/-- The column at a position: the characters of the part before it, or inside a character the bytes
    since the start of the line. -/
def columnAt (lines part : List Char) (pos : Nat) : Nat :=
  if pos = byteLength (lines ++ part) then part.length else pos - byteLength lines

/-! ### The search finds the place -/

/-- The line feeds before the position are those of the lines. -/
theorem Splits.lowerBound?_eq (h : Splits text pos lines part rest) (file : String) :
    let feeds := (ofText file text).lineFeeds
    lowerBound? feeds pos 0 feeds.size = some (lines.count '\n') := by
  have hfeeds : lineFeedsFrom 0 text =
      lineFeedsFrom 0 lines ++ lineFeedsFrom (byteLength (lines ++ part)) rest := by
    rw [h.eq_append, lineFeedsFrom_append, lineFeedsFrom_append, lineFeedsFrom_eq_nil _ h.inLine,
      List.append_nil, Nat.zero_add]
  have hreached := h.reached
  rw [Text.byteLength_append] at hreached
  have hbelow : ∀ y ∈ lineFeedsFrom 0 lines, y < pos := by
    intro y hy
    have := mem_lineFeedsFrom hy
    omega
  have habove : ∀ y ∈ lineFeedsFrom (byteLength (lines ++ part)) rest, pos ≤ y := by
    intro y hy
    cases rest with
    | nil => cases hy
    | cons c cs =>
      have hlast : pos < byteLength (lines ++ part) + c.utf8Size := h.last c rfl
      by_cases hfeed : c = '\n'
      · -- A line feed takes one byte, so the position is right before it.
        subst hfeed
        have hsize : '\n'.utf8Size = 1 := rfl
        have := (mem_lineFeedsFrom hy).1
        omega
      · simp only [lineFeedsFrom, hfeed, if_false] at hy
        have := (mem_lineFeedsFrom hy).1
        omega
  show LineIndex.lowerBound? (lineFeedsFrom 0 text).toArray pos 0
    (lineFeedsFrom 0 text).toArray.size = _
  rw [List.size_toArray, hfeeds, ← length_lineFeedsFrom 0 lines]
  exact lowerBound?_append hbelow habove (Nat.zero_le _)
    (by rw [List.length_append]; omega) (Nat.le_refl _)

/-- The line starts behind the lines. -/
theorem Splits.lineStart?_eq (h : Splits text pos lines part rest) (file : String) :
    (ofText file text).lineStart? (lines.count '\n') = some (byteLength lines) := by
  cases hlast : lines.getLast? with
  | none =>
    rw [List.getLast?_eq_none_iff.1 hlast]
    rfl
  | some c =>
    obtain rfl : c = '\n' := h.ended c hlast
    obtain ⟨before, rfl⟩ := List.getLast?_eq_some_iff.1 hlast
    have hfeeds : (ofText file text).lineFeeds[before.count '\n']? = some (byteLength before) := by
      show (lineFeedsFrom 0 text).toArray[before.count '\n']? = _
      rw [List.getElem?_toArray, h.eq_append, List.append_assoc, List.append_assoc,
        lineFeedsFrom_append, ← length_lineFeedsFrom 0 before, List.getElem?_append_right
          (Nat.le_refl _), Nat.sub_self, Nat.zero_add]
      simp [lineFeedsFrom]
    have hcount : (before ++ ['\n']).count '\n' = before.count '\n' + 1 := by simp
    rw [hcount, LineIndex.lineStart?, if_neg (Nat.succ_ne_zero _), sub?, if_pos (by omega),
      Option.bind_some, Nat.add_sub_cancel, hfeeds]
    rw [Text.byteLength_append]
    rfl

/-- Behind the start of the line, the characters of the part are counted, or the bytes up to the
    position. -/
theorem Splits.columnAt_eq (h : Splits text pos lines part rest) (hpos : pos ≤ byteLength text) :
    (charCount? (pos - byteLength lines) (part ++ rest)).getD (pos - byteLength lines) =
      columnAt lines part pos := by
  obtain ⟨n, hn⟩ := Nat.exists_eq_add_of_le h.reached
  rw [Text.byteLength_append] at hn
  have hbytes : pos - byteLength lines = byteLength part + n := by omega
  rw [hbytes, Text.charCount?_append, columnAt, Text.byteLength_append, hbytes]
  rcases h.cases hpos with heq | ⟨c, cs, rfl, hlt, hlast⟩
  · rw [Text.byteLength_append] at heq
    obtain rfl : n = 0 := by omega
    rw [if_pos heq]
    simp [charCount?]
  · rw [Text.byteLength_append] at hlt hlast
    rw [Text.charCount?_eq_none (by omega) (by omega), if_neg (by omega)]
    rfl

/-- **Search.** No index and no difference is out of range, and the place is found by its line and
    the part of the line before it. -/
theorem Splits.place?_eq (h : Splits text (min pos (byteLength text)) lines part rest)
    (file : String) : (ofText file text).place? pos =
      some ⟨lines.count '\n', columnAt lines part (min pos (byteLength text))⟩ := by
  have hline := h.lowerBound?_eq file
  have hstart := h.lineStart?_eq file
  have hcolumn := h.columnAt_eq (Nat.min_le_right pos _)
  have hdrop : dropBytes? (byteLength lines) text = some (part ++ rest) := by
    conv => lhs; rw [h.eq_append, List.append_assoc]
    exact Text.dropBytes?_append lines (part ++ rest)
  have hsub : sub? (min pos (byteLength text)) (byteLength lines) =
      some (min pos (byteLength text) - byteLength lines) := by
    have hreached := h.reached
    rw [Text.byteLength_append] at hreached
    exact sub?_eq_some_iff.2 ⟨by omega, rfl⟩
  have hfile : (ofText file text).text = text := rfl
  rw [LineIndex.place?, hfile, hline]
  show ((ofText file text).lineStart? _).bind _ = _
  rw [hstart, Option.bind_some, hsub]
  show some _ = _
  rw [hdrop, Option.bind_some, hcolumn]

end LineIndex

/-! ### The walk comes to the place -/

namespace Walker

open LineIndex (Splits columnAt)

variable {w : Walker} {text lines part rest : List Char} {pos : Nat}

/-- A walk over whole characters passes them one by one. -/
theorem walk_append (w : Walker) (front back : List Char) (n : Nat) :
    w.walk (byteLength front + n) (front ++ back) = (front.foldl step w).walk n back := by
  induction front generalizing w with
  | nil => simp
  | cons c front ih =>
    have hc := Char.utf8Size_pos c
    obtain ⟨m, hm⟩ : ∃ m, byteLength (c :: front) + n = m + 1 :=
      ⟨byteLength (c :: front) + n - 1, by rw [Text.byteLength_cons]; omega⟩
    rw [Text.byteLength_cons] at hm
    have hrest : m + 1 - c.utf8Size = byteLength front + n := by omega
    rw [Text.byteLength_cons, hm, List.cons_append, walk, if_neg (by omega), hrest, ih]
    rfl

/-- A walk does not go on behind the end. -/
theorem walk_min (w : Walker) (pos : Nat) (text : List Char) :
    w.walk (min pos (byteLength text)) text = w.walk pos text := by
  rcases Nat.le_total pos (byteLength text) with hle | hle
  · rw [Nat.min_eq_left hle]
  · obtain ⟨n, rfl⟩ := Nat.exists_eq_add_of_le hle
    have hend := walk_append w text [] n
    have hstop := walk_append w text [] 0
    rw [List.append_nil] at hend hstop
    rw [Nat.min_eq_right hle, hend, ← Nat.add_zero (byteLength text), hstop, walk_zero]
    cases n <;> rfl

/-- Each line feed is a new line. -/
theorem line_foldl (w : Walker) (front : List Char) :
    (front.foldl step w).place.line = w.place.line + front.count '\n' := by
  induction front generalizing w with
  | nil => rfl
  | cons c front ih =>
    rw [List.foldl_cons, ih]
    by_cases hfeed : c = '\n'
    · simp [step, hfeed]
      omega
    · simp [step, hfeed]

/-- Behind whole lines a line starts. -/
theorem foldl_lines (hended : ∀ c ∈ lines.getLast?, c = '\n') :
    lines.foldl step start = ⟨⟨lines.count '\n', 0⟩, 0⟩ := by
  cases hlast : lines.getLast? with
  | none =>
    rw [List.getLast?_eq_none_iff.1 hlast]
    rfl
  | some c =>
    obtain rfl : c = '\n' := hended c hlast
    obtain ⟨before, rfl⟩ := List.getLast?_eq_some_iff.1 hlast
    have hline : (before.foldl step start).place.line = 0 + before.count '\n' :=
      line_foldl start before
    rw [List.foldl_append, List.foldl_cons, List.foldl_nil, step, if_pos rfl, hline]
    simp

/-- Inside a line each character is a column. -/
theorem foldl_part (w : Walker) (hline : '\n' ∉ part) :
    part.foldl step w =
      ⟨⟨w.place.line, w.place.column + part.length⟩, w.bytes + byteLength part⟩ := by
  induction part generalizing w with
  | nil => rfl
  | cons c part ih =>
    obtain ⟨hc, hpart⟩ := List.ne_and_not_mem_of_not_mem_cons hline
    rw [List.foldl_cons, ih _ hpart, step, if_neg (Ne.symm hc), Text.byteLength_cons,
      List.length_cons]
    simp only [Nat.add_assoc, Nat.add_comm 1]

/-- **Walk.** The walk comes to the line and the part of the line before the position. -/
theorem walk_of_splits (h : Splits text (min pos (byteLength text)) lines part rest) :
    start.walk pos text =
      ⟨lines.count '\n', columnAt lines part (min pos (byteLength text))⟩ := by
  have hle := Nat.min_le_right pos (byteLength text)
  have hpassed : (lines ++ part).foldl step start =
      ⟨⟨lines.count '\n', part.length⟩, byteLength part⟩ := by
    rw [List.foldl_append, foldl_lines h.ended, foldl_part _ h.inLine]
    simp
  rw [← walk_min]
  generalize min pos (byteLength text) = q at *
  obtain ⟨n, rfl⟩ := Nat.exists_eq_add_of_le h.reached
  have hcases := h.cases hle
  rw [h.eq_append, walk_append, hpassed, columnAt]
  rcases hcases with heq | ⟨c, cs, rfl, hlt, hlast⟩
  · obtain rfl : n = 0 := by omega
    rw [if_pos (Nat.add_zero _), walk_zero]
  · -- The character behind the cut is not passed.
    obtain ⟨m, rfl⟩ : ∃ m, n = m + 1 := ⟨n - 1, by omega⟩
    have hbytes : byteLength (lines ++ part) + (m + 1) - byteLength lines =
        byteLength part + (m + 1) := by
      rw [Text.byteLength_append]
      omega
    rw [walk, if_pos (by omega), if_neg (by omega), hbytes]

end Walker

/-- **Places.** Take any text, and any byte position; behind the end of the text it counts as the
    end. No index and no difference on the way to its place is out of range, and its place, at which
    locations start or stop, is the one that a walk over the text from its start comes to. This is
    told by the text before the position: whole lines, and a part of the line behind them.

    * The line is the number of line feeds before the position.
    * If the position is right behind the part, the column is the number of its characters.
    * Otherwise the position is inside the character behind the part, and the column is the number
      of bytes since the start of the line. -/
theorem place_of_position (file : String) (text : List Char) (pos : Nat) :
    let ix := LineIndex.ofText file text
    let clamped := min pos (byteLength text)
    let place := Walker.start.walk pos text
    ix.place? pos = some place ∧
    (∀ stop, ix.span pos stop = ⟨file, place, Walker.start.walk stop text⟩) ∧
    ix.point pos = ⟨file, place, place⟩ ∧
    ∃ lines part rest, text = lines ++ part ++ rest ∧ (∀ c ∈ lines.getLast?, c = '\n') ∧
      '\n' ∉ part ∧ place.line = lines.count '\n' ∧
      ((clamped = byteLength (lines ++ part) ∧ place.column = part.length) ∨
        ∃ c cs, rest = c :: cs ∧ byteLength (lines ++ part) < clamped ∧
          clamped < byteLength (lines ++ part) + c.utf8Size ∧
          place.column = clamped - byteLength lines) := by
  intro ix clamped place
  have hplace? : ∀ pos, ix.place? pos = some (Walker.start.walk pos text) := by
    intro pos
    obtain ⟨lines, part, rest, h⟩ := LineIndex.exists_splits text (min pos (byteLength text))
    rw [h.place?_eq file, Walker.walk_of_splits h]
  have hplace : ∀ pos, ix.place pos = Walker.start.walk pos text :=
    fun pos => LineIndex.place_eq_of_place? (hplace? pos)
  have hspan : ∀ stop, ix.span pos stop = ⟨file, place, Walker.start.walk stop text⟩ := by
    intro stop
    show (⟨file, ix.place pos, ix.place stop⟩ : Location) = _
    rw [hplace pos, hplace stop]
  refine ⟨hplace? pos, hspan, hspan pos, ?_⟩
  obtain ⟨lines, part, rest, h⟩ := LineIndex.exists_splits text clamped
  have hwalk : place = ⟨lines.count '\n', LineIndex.columnAt lines part clamped⟩ :=
    Walker.walk_of_splits h
  refine ⟨lines, part, rest, h.eq_append, h.ended, h.inLine, by rw [hwalk], ?_⟩
  rw [hwalk, LineIndex.columnAt]
  rcases h.cases (Nat.min_le_right pos _) with heq | ⟨c, cs, hrest, hlt, hlast⟩
  · exact .inl ⟨heq, if_pos heq⟩
  · exact .inr ⟨c, cs, hrest, hlt, hlast, if_neg (Nat.ne_of_gt hlt)⟩

/-- A position inside a character of three bytes, in the second line. -/
example : (LineIndex.ofText "t" ['a', '\n', 'é', '€', '\n']).place 6 = ⟨1, 4⟩ := by decide +kernel

end OrderedLexer
