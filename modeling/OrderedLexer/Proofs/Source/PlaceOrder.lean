import OrderedLexer.Proofs.Source.Places

namespace OrderedLexer

open Text (byteLength dropBytes?)

/-!
# Places ascend with positions

Places are told line by line, and inside a line column by column. The farther a position lies in a
text, the later is its place, so no two positions share one, and the text leads back from a place to
its position.

* `Walker.lt_foldl` — every character that a walk passes leads to a later place;
* `LineIndex.place_byteLength` — a position between two characters is where a walk stands;
* `LineIndex.place_of_part` — its line and column are those of the text before it;
* `LineIndex.span?` — locations, with the order of their ends checked, too;
* `position?_eq_some_iff` — the position that a place leads back to;
* `places_ascend` — all of it, for any two positions.
-/

/-! ### The order of places -/

namespace Place

/-- Later in the same line, or in a later line. -/
instance : LT Place := ⟨fun a b => a.line < b.line ∨ a.line = b.line ∧ a.column < b.column⟩

/-- Not earlier in the same line, or in a later line. -/
instance : LE Place := ⟨fun a b => a.line < b.line ∨ a.line = b.line ∧ a.column ≤ b.column⟩

instance (a b : Place) : Decidable (a ≤ b) :=
  inferInstanceAs (Decidable (a.line < b.line ∨ a.line = b.line ∧ a.column ≤ b.column))

variable {a b c : Place}

theorem lt_def : a < b ↔ a.line < b.line ∨ a.line = b.line ∧ a.column < b.column := Iff.rfl
theorem le_def : a ≤ b ↔ a.line < b.line ∨ a.line = b.line ∧ a.column ≤ b.column := Iff.rfl

theorem le_refl (a : Place) : a ≤ a := .inr ⟨rfl, Nat.le_refl _⟩

theorem le_of_lt (h : a < b) : a ≤ b := by
  rw [lt_def] at h
  rw [le_def]
  omega

theorem lt_trans (hab : a < b) (hbc : b < c) : a < c := by
  rw [lt_def] at hab hbc ⊢
  omega

theorem ne_of_lt (h : a < b) : a ≠ b := by
  rintro rfl
  rw [lt_def] at h
  omega

end Place

/-! ### Positions between characters -/

/-- A position is no boundary if it lies inside a character or behind the end of the text. -/
def Text.IsBoundary (text : List Char) (pos : Nat) : Prop := (dropBytes? pos text).isSome = true

instance (text : List Char) (pos : Nat) : Decidable (Text.IsBoundary text pos) :=
  inferInstanceAs (Decidable ((dropBytes? pos text).isSome = true))

/-- The boundaries are the positions behind whole characters. -/
theorem Text.isBoundary_iff {text : List Char} {pos : Nat} :
    IsBoundary text pos ↔ ∃ front back, text = front ++ back ∧ byteLength front = pos := by
  unfold IsBoundary
  constructor
  · intro h
    obtain ⟨back, hback⟩ := Option.isSome_iff_exists.1 h
    obtain ⟨front, htext, hpos⟩ := dropBytes?_eq_some hback
    exact ⟨front, back, htext, hpos⟩
  · rintro ⟨front, back, rfl, rfl⟩
    rw [dropBytes?_append]
    rfl

/-- Of two boundaries, the later one lies behind some more characters. -/
theorem Text.exists_between {text : List Char} {p q : Nat} (hp : IsBoundary text p)
    (hq : IsBoundary text q) (hpq : p < q) :
    ∃ front middle back, text = front ++ (middle ++ back) ∧ middle ≠ [] ∧ byteLength front = p ∧
      byteLength (front ++ middle) = q := by
  obtain ⟨front, behind, hfront, rfl⟩ := isBoundary_iff.1 hp
  obtain ⟨front', back, htext, rfl⟩ := isBoundary_iff.1 hq
  rw [hfront] at htext
  -- One of the two beginnings starts with the other, and the first one is the shorter.
  rcases List.append_eq_append_iff.1 htext with ⟨middle, rfl, rfl⟩ | ⟨middle, rfl, -⟩
  · refine ⟨front, middle, back, hfront, ?_, rfl, rfl⟩
    rintro rfl
    simp at hpq
  · rw [byteLength_append] at hpq
    omega

/-! ### Walks ascend -/

namespace Walker

/-- Each character leads to a later place: in the same line, or at the start of the next one. -/
theorem lt_step (w : Walker) (c : Char) : w.place < (w.step c).place := by
  unfold step
  by_cases hfeed : c = '\n'
  · rw [if_pos hfeed]
    exact .inl (Nat.lt_succ_self _)
  · rw [if_neg hfeed]
    exact .inr ⟨rfl, Nat.lt_succ_self _⟩

/-- **Walk.** So do any characters, if there are some. -/
theorem lt_foldl (w : Walker) {text : List Char} (hne : text ≠ []) :
    w.place < (text.foldl step w).place := by
  induction text generalizing w with
  | nil => contradiction
  | cons c text ih =>
    rw [List.foldl_cons]
    by_cases htext : text = []
    · subst htext
      exact w.lt_step c
    · exact Place.lt_trans (w.lt_step c) (ih (w.step c) htext)

end Walker

namespace LineIndex

variable {file : String} {text : List Char} {p q : Nat}

/-- The search, with its checks, comes to where the walk comes. -/
theorem place?_eq_walk (file : String) (text : List Char) (pos : Nat) :
    (ofText file text).place? pos = some (Walker.start.walk pos text) := by
  obtain ⟨lines, part, rest, h⟩ := exists_splits text (min pos (byteLength text))
  rw [h.place?_eq file, Walker.walk_of_splits h]

theorem place_eq_walk (file : String) (text : List Char) (pos : Nat) :
    (ofText file text).place pos = Walker.start.walk pos text :=
  place_eq_of_place? (place?_eq_walk file text pos)

/-- Between two characters, the place is told by the characters before. -/
theorem place_byteLength (file : String) (front back : List Char) :
    (ofText file (front ++ back)).place (byteLength front) =
      (front.foldl Walker.step Walker.start).place := by
  have hwalk := Walker.walk_append Walker.start front back 0
  rw [Nat.add_zero, Walker.walk_zero] at hwalk
  rw [place_eq_walk, hwalk]

/-- Behind whole lines and a part of a line, the line is told by the lines and the column by the
    part. -/
theorem place_of_part (file : String) {lines part : List Char} (rest : List Char)
    (hended : ∀ c ∈ lines.getLast?, c = '\n') (hline : '\n' ∉ part) :
    (ofText file (lines ++ part ++ rest)).place (byteLength (lines ++ part)) =
      ⟨lines.count '\n', part.length⟩ := by
  rw [place_byteLength, List.foldl_append, Walker.foldl_lines hended, Walker.foldl_part _ hline]
  simp

/-- Behind the end of the text, the place is that of the end. -/
theorem place_of_le (file : String) (h : byteLength text ≤ p) :
    (ofText file text).place p = (ofText file text).place (byteLength text) := by
  rw [place_eq_walk, place_eq_walk, ← Walker.walk_min, Nat.min_eq_right h]

/-- **Ascent.** Of two boundaries, the later one has the later place. -/
theorem place_lt (hp : Text.IsBoundary text p) (hq : Text.IsBoundary text q) (hpq : p < q) :
    (ofText file text).place p < (ofText file text).place q := by
  obtain ⟨front, middle, back, rfl, hne, rfl, rfl⟩ := Text.exists_between hp hq hpq
  rw [place_byteLength, ← List.append_assoc, place_byteLength, List.foldl_append]
  exact Walker.lt_foldl _ hne

theorem place_injective (hp : Text.IsBoundary text p) (hq : Text.IsBoundary text q)
    (h : (ofText file text).place p = (ofText file text).place q) : p = q := by
  by_contra hne
  rcases Nat.lt_or_gt_of_ne hne with hlt | hlt
  · exact Place.ne_of_lt (place_lt hp hq hlt) h
  · exact Place.ne_of_lt (place_lt hq hp hlt) h.symm

/-- A position from which a location may start or stop: a boundary, or any position behind the
    end. -/
def Locatable (text : List Char) (pos : Nat) : Prop :=
  Text.IsBoundary text pos ∨ byteLength text ≤ pos

/-- Behind the end a position counts as the end, which is a boundary. -/
theorem Locatable.exists_boundary (h : Locatable text p) (file : String) :
    Text.IsBoundary text (min p (byteLength text)) ∧
      (ofText file text).place p = (ofText file text).place (min p (byteLength text)) := by
  have hend : Text.IsBoundary text (byteLength text) :=
    Text.isBoundary_iff.2 ⟨text, [], by simp, rfl⟩
  rcases h with hp | hle
  · obtain ⟨front, back, rfl, rfl⟩ := Text.isBoundary_iff.1 hp
    rw [Nat.min_eq_left (by simp)]
    exact ⟨hp, rfl⟩
  · rw [Nat.min_eq_right hle]
    exact ⟨hend, place_of_le file hle⟩

/-- What lies not before a position has not an earlier place. -/
theorem place_le (hp : Locatable text p) (hq : Locatable text q) (hpq : p ≤ q) :
    (ofText file text).place p ≤ (ofText file text).place q := by
  obtain ⟨hp', hplace⟩ := hp.exists_boundary file
  obtain ⟨hq', hplace'⟩ := hq.exists_boundary file
  rw [hplace, hplace']
  rcases Nat.eq_or_lt_of_le (show min p (byteLength text) ≤ min q (byteLength text) by omega) with
    heq | hlt
  · rw [heq]
    exact Place.le_refl _
  · exact Place.le_of_lt (place_lt hp' hq' hlt)

end LineIndex

/-! ### Locations with checks -/

/-- The location between two places; `none` if the first one is the later. -/
def Location.new? (file : String) (start stop : Place) : Option Location :=
  if start ≤ stop then some ⟨file, start, stop⟩ else none

/-- As `span`; `none` if a place is not found, or the first one is the later. -/
def LineIndex.span? (ix : LineIndex) (start stop : Nat) : Option Location := do
  Location.new? ix.file (← ix.place? start) (← ix.place? stop)

/-- All checks are passed from a position to one that does not lie before it. -/
theorem LineIndex.span?_eq (file : String) {text : List Char} {start stop : Nat}
    (hstart : Locatable text start) (hstop : Locatable text stop) (hle : start ≤ stop) :
    (ofText file text).span? start stop = some ((ofText file text).span start stop) := by
  have hplace : ∀ pos, (ofText file text).place? pos = some ((ofText file text).place pos) := by
    intro pos
    rw [place?_eq_walk, place_eq_walk]
  unfold span?
  rw [hplace start, hplace stop]
  show Location.new? _ _ _ = _
  rw [Location.new?, if_pos (place_le hstart hstop hle)]
  rfl

/-! ### From places back to positions -/

/-- The byte position of a place, by its line and its column, if the text has such a place. Line
    feeds lead on to the line, and characters inside the line to the column. -/
def position? : Nat → Nat → List Char → Option Nat
  | 0, 0, _ => some 0
  | 0, _ + 1, [] => none
  | 0, column + 1, c :: cs =>
    if c = '\n' then none else (position? 0 column cs).map (c.utf8Size + ·)
  | _ + 1, _, [] => none
  | line + 1, column, c :: cs =>
    (position? (if c = '\n' then line else line + 1) column cs).map (c.utf8Size + ·)

namespace Walker

variable {w : Walker} {c : Char} {text : List Char} {place : Place} {line column pos : Nat}

/-- A walk over a text comes to a place between two characters, at a byte position. -/
def ComesTo (w : Walker) (text : List Char) (pos : Nat) (place : Place) : Prop :=
  ∃ front back, text = front ++ back ∧ byteLength front = pos ∧ (front.foldl step w).place = place

theorem comesTo_nil_iff : w.ComesTo [] pos place ↔ pos = 0 ∧ w.place = place := by
  constructor
  · rintro ⟨front, back, htext, rfl, rfl⟩
    obtain ⟨rfl, rfl⟩ := List.append_eq_nil_iff.1 htext.symm
    exact ⟨rfl, rfl⟩
  · rintro ⟨rfl, rfl⟩
    exact ⟨[], [], rfl, rfl, rfl⟩

/-- Where the walk stands it comes to without a step, and it does not come back there. -/
theorem comesTo_place_iff : w.ComesTo text pos w.place ↔ pos = 0 := by
  constructor
  · rintro ⟨front, back, rfl, rfl, hplace⟩
    by_cases hfront : front = []
    · subst hfront
      rfl
    · exact absurd hplace.symm (Place.ne_of_lt (w.lt_foldl hfront))
  · rintro rfl
    exact ⟨[], text, rfl, rfl, rfl⟩

/-- To any other place it goes on with the first character. -/
theorem comesTo_cons_iff (hne : w.place ≠ place) :
    w.ComesTo (c :: text) pos place ↔
      ∃ rest, (w.step c).ComesTo text rest place ∧ c.utf8Size + rest = pos := by
  constructor
  · rintro ⟨front, back, htext, rfl, hplace⟩
    cases front with
    | nil => exact absurd hplace hne
    | cons x front =>
      obtain ⟨rfl, rfl⟩ := List.cons.inj htext
      exact ⟨byteLength front, ⟨front, back, rfl, rfl, hplace⟩, rfl⟩
  · rintro ⟨_, ⟨front, back, rfl, rfl, hplace⟩, rfl⟩
    exact ⟨c :: front, back, rfl, rfl, hplace⟩

/-- It comes to no earlier place. -/
theorem ComesTo.le (h : w.ComesTo text pos place) : w.place ≤ place := by
  obtain ⟨front, back, -, -, rfl⟩ := h
  by_cases hfront : front = []
  · subst hfront
    exact Place.le_refl _
  · exact Place.le_of_lt (w.lt_foldl hfront)

/-- The place some lines and columns on. The columns count from where the walk stands if it stays in
    its line, and from the start of the line if not. -/
def onward (w : Walker) (line column : Nat) : Place :=
  ⟨w.place.line + line, if line = 0 then w.place.column + column else column⟩

/-- A line feed is one of the lines, and any other character one of the columns, if the line is
    reached. -/
theorem onward_step_feed (w : Walker) (line column : Nat) :
    (w.step '\n').onward line column = w.onward (line + 1) column := by
  simp [onward, step, Nat.add_assoc, Nat.add_comm 1]

theorem onward_step_column (w : Walker) (hc : c ≠ '\n') (column : Nat) :
    (w.step c).onward 0 column = w.onward 0 (column + 1) := by
  simp [onward, step, hc, Nat.add_assoc, Nat.add_comm 1]

theorem onward_step_line (w : Walker) (hc : c ≠ '\n') (line column : Nat) :
    (w.step c).onward (line + 1) column = w.onward (line + 1) column := by
  simp [onward, step, hc]

/-- **Back.** The position of a place is found exactly where a walk comes to the place. -/
theorem position?_eq_some_iff (w : Walker) :
    position? line column text = some pos ↔ w.ComesTo text pos (w.onward line column) := by
  have hcolumn : ∀ (w : Walker) column, w.place ≠ w.onward 0 (column + 1) :=
    fun w column => Place.ne_of_lt (.inr ⟨rfl, by simp [onward]⟩)
  have hline : ∀ (w : Walker) line column, w.place ≠ w.onward (line + 1) column :=
    fun w line column => Place.ne_of_lt (.inl (by simp [onward]))
  -- Each character that is passed is a step of the walk, and the place ahead stays the same.
  fun_induction position? line column text generalizing w pos with
  | case1 text =>
    have hstay : w.onward 0 0 = w.place := by simp [onward]
    rw [hstay, comesTo_place_iff, Option.some.injEq, eq_comm]
  | case2 column => simp [comesTo_nil_iff, hcolumn]
  | case3 column text =>
    -- Behind the line feed the walk is past the place.
    rw [comesTo_cons_iff (hcolumn w column)]
    constructor
    · intro h
      contradiction
    · rintro ⟨rest, h, -⟩
      have hle := Place.le_def.1 h.le
      simp only [step, onward, if_true] at hle
      omega
  | case4 column c text hc ih =>
    rw [comesTo_cons_iff (hcolumn w column), Option.map_eq_some_iff]
    simp only [ih (w.step c), w.onward_step_column hc]
  | case5 line column => simp [comesTo_nil_iff, hline]
  | case6 line column c text ih =>
    rw [comesTo_cons_iff (hline w line column), Option.map_eq_some_iff]
    by_cases hc : c = '\n'
    · subst hc
      simp only [if_true] at ih ⊢
      simp only [ih (w.step '\n'), w.onward_step_feed]
    · simp only [hc, if_false] at ih ⊢
      simp only [ih (w.step c), w.onward_step_line hc]

end Walker

/-- The position of a place is the boundary whose place it is. -/
theorem position?_eq_some_iff_place (file : String) {text : List Char} {line column pos : Nat} :
    position? line column text = some pos ↔
      Text.IsBoundary text pos ∧ (LineIndex.ofText file text).place pos = ⟨line, column⟩ := by
  have honward : Walker.start.onward line column = ⟨line, column⟩ := by
    simp [Walker.onward, Walker.start]
  rw [Walker.start.position?_eq_some_iff, honward, Text.isBoundary_iff]
  constructor
  · rintro ⟨front, back, rfl, rfl, hplace⟩
    exact ⟨⟨front, back, rfl, rfl⟩, by rw [LineIndex.place_byteLength, hplace]⟩
  · rintro ⟨⟨front, back, rfl, rfl⟩, hplace⟩
    rw [LineIndex.place_byteLength] at hplace
    exact ⟨front, back, rfl, rfl, hplace⟩

/-- **Places.** Take any text. Its boundaries are the positions between two characters, before the
    first one and behind the last.

    * Of two boundaries, the earlier one has the earlier place: an earlier line, or the same line
      and an earlier column.
    * A location from a boundary to one that is not before it passes all checks, the one on the
      order of its ends included, and so it does if its ends lie behind the text.
    * Between different boundaries lie different locations.
    * The position of a place is found from its line, its column and the text: it is the boundary
      with this place. -/
theorem places_ascend (file : String) (text : List Char) :
    let ix := LineIndex.ofText file text
    (∀ p q, Text.IsBoundary text p → Text.IsBoundary text q → p < q → ix.place p < ix.place q) ∧
    (∀ start stop, LineIndex.Locatable text start → LineIndex.Locatable text stop → start ≤ stop →
      ix.span? start stop = some (ix.span start stop)) ∧
    (∀ p q p' q', Text.IsBoundary text p → Text.IsBoundary text q → Text.IsBoundary text p' →
      Text.IsBoundary text q' → ix.span p q = ix.span p' q' → p = p' ∧ q = q') ∧
    ∀ line column p, position? line column text = some p ↔
      Text.IsBoundary text p ∧ ix.place p = ⟨line, column⟩ := by
  refine ⟨fun p q hp hq hpq => LineIndex.place_lt hp hq hpq, fun start stop hstart hstop hle =>
    LineIndex.span?_eq file hstart hstop hle, fun p q p' q' hp hq hp' hq' h => ?_,
    fun line column p => position?_eq_some_iff_place file⟩
  obtain ⟨-, hstart, hstop⟩ := Location.mk.inj h
  exact ⟨LineIndex.place_injective hp hp' hstart, LineIndex.place_injective hq hq' hstop⟩

/-- Before a line feed and behind it, with a character of two bytes before them. -/
theorem places_ascend_line_feed :
    let text := ['é', '\n', '€', 'a']
    let ix := LineIndex.ofText "t" text
    Text.IsBoundary text 2 ∧ Text.IsBoundary text 3 ∧ ix.place 2 = ⟨0, 1⟩ ∧ ix.place 3 = ⟨1, 0⟩ ∧
      ix.place 2 < ix.place 3 ∧ ix.span? 2 90 = some (ix.span 2 90) ∧
      position? 1 1 text = some 6 := by
  intro text ix
  have hp : Text.IsBoundary text 2 := by decide +kernel
  have hq : Text.IsBoundary text 3 := by decide +kernel
  obtain ⟨hlt, hspan, -, hback⟩ := places_ascend "t" text
  refine ⟨hp, hq, by decide +kernel, by decide +kernel, hlt 2 3 hp hq (by decide),
    hspan 2 90 (.inl hp) (.inr (by decide +kernel)) (by decide), ?_⟩
  exact (hback 1 1 6).2 ⟨by decide +kernel, by decide +kernel⟩

end OrderedLexer
