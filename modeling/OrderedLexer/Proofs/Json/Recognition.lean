import OrderedLexer.Proofs.Json.Values

namespace OrderedLexer.Json

open Reader

/-!
# What readers of JSON recognize

A reader recognizes a way of writing values if it reads the texts that are written in this way, and
no others.

* `Recognizes` — both directions; `Recognizes.whole_eq_ok_iff` carries them to whole texts;
* `recognizes_string`, `recognizes_boolean`, `recognizes_null`, `recognizes_orderKey` — single
  values;
* `Recognizes.optional`, `Recognizes.list` — values that may be absent, and lists.
-/

variable {α β : Type} {x : Reader α} {P : List Char → α → Prop} {text rest ws ws' : List Char}
  {a : α} {c : Char} {first b : Bool} {u : Unit}

/-- A reader finds a value exactly where it is written in a certain way, behind any blanks. -/
structure Recognizes (x : Reader α) (P : List Char → α → Prop) : Prop where
  spells : ∀ {text a}, P text a → Spells x text a
  written : ∀ {text a rest}, Reads x text a rest →
    ∃ ws found, Blanks ws ∧ P found a ∧ text = ws ++ found ++ rest

theorem Recognizes.congr {Q : List Char → α → Prop} (h : Recognizes x P)
    (hiff : ∀ text a, P text a ↔ Q text a) : Recognizes x Q :=
  (funext₂ fun text a => propext (hiff text a) : P = Q) ▸ h

/-- **Whole texts.** A text is read if it holds a value with nothing but blanks around it. -/
theorem Recognizes.whole_eq_ok_iff (h : Recognizes x P) :
    whole x text = .ok a ↔
      ∃ ws found ws', Blanks ws ∧ P found a ∧ Blanks ws' ∧ text = ws ++ found ++ ws' := by
  constructor
  · intro hwhole
    unfold whole at hwhole
    cases hrun : x.run text with
    | error fault =>
      rw [hrun] at hwhole
      cases hwhole
    | ok read =>
      obtain ⟨a', ws'⟩ := read
      rw [hrun] at hwhole
      change (if (ws'.dropWhile isBlank).isEmpty then pure a' else _) = _ at hwhole
      split at hwhole
      · next hend =>
        obtain rfl := Except.ok.inj hwhole
        obtain ⟨ws, found, hws, hfound, rfl⟩ := h.written hrun
        exact ⟨ws, found, ws', hws, hfound, List.dropWhile_eq_nil_iff.1 (List.isEmpty_iff.1 hend),
          rfl⟩
      · cases hwhole
  · rintro ⟨ws, found, ws', hws, hfound, hws', rfl⟩
    exact (h.spells hfound).whole hws hws'

/-! ### Single values -/

/-- No value is read where another is expected. -/
theorem not_reads_refuse (c : Char) (expected : String) :
    ¬ Reads (refuse c expected : Reader α) text a rest := by
  unfold refuse
  split <;> simp [reads_bind_iff, reads_ite_iff, not_reads_throw]

/-- **Strings.** A string is read in all ways to write it. -/
theorem recognizes_string (expected : String) : Recognizes (string expected) StringText where
  spells h := Spells.string h expected
  written := by
    intro text s rest h
    simp only [string, reads_bind_iff, reads_upcoming_iff] at h
    obtain ⟨c, _, ⟨-, ws, tail, hws, rfl, rfl⟩, h⟩ := h
    split at h
    · next hquote =>
      subst hquote
      simp only [reads_bind_iff, reads_advance_iff] at h
      obtain ⟨_, _, rfl, h⟩ := h
      obtain ⟨body, htail, hbody⟩ := restOfString_text h
      refine ⟨ws, _, hws, hbody, ?_⟩
      rw [List.append_assoc, List.cons_append, ← htail]
    · exact absurd h (not_reads_refuse _ _)

/-- The way to write a truth value. -/
def BooleanText (text : List Char) (b : Bool) : Prop := text = (toString b).toList

/-- Truth values are words. -/
theorem recognizes_boolean : Recognizes boolean BooleanText where
  spells := by
    rintro _ b rfl
    exact spells_boolean b
  written := by
    intro text b rest h
    simp only [boolean, reads_bind_iff, reads_upcoming_iff] at h
    obtain ⟨c, _, ⟨-, ws, tail, hws, rfl, rfl⟩, h⟩ := h
    split at h
    · simp only [reads_bind_iff, reads_word_iff, reads_pure_iff] at h
      obtain ⟨_, _, hword, rfl, rfl⟩ := h
      exact ⟨ws, _, hws, rfl, by rw [hword, List.append_assoc]; rfl⟩
    · simp only [reads_bind_iff, reads_word_iff, reads_pure_iff] at h
      obtain ⟨_, _, hword, rfl, rfl⟩ := h
      exact ⟨ws, _, hws, rfl, by rw [hword, List.append_assoc]; rfl⟩
    · exact absurd h (not_reads_refuse _ _)

/-- So is `null`. -/
theorem recognizes_null : Recognizes null (fun text _ => text = "null".toList) where
  spells := by
    rintro _ _ rfl
    refine ⟨⟨'n', _, rfl, by decide, by decide⟩, fun ws rest hws _ => ?_⟩
    unfold null
    rw [List.append_assoc]
    refine (reads_upcoming _ hws (by decide)).bind ?_
    exact reads_word "null".toList rest
  written := by
    intro text _ rest h
    simp only [null, reads_bind_iff, reads_upcoming_iff] at h
    obtain ⟨c, _, ⟨-, ws, tail, hws, rfl, rfl⟩, h⟩ := h
    split at h
    · rw [reads_word_iff.1 h, ← List.append_assoc]
      exact ⟨ws, _, hws, rfl, rfl⟩
    · exact absurd h (not_reads_refuse _ _)

/-- The way to write the key of an order: its digits, behind a minus if it is negative. -/
def OrderKeyText (text : List Char) (k : OrderKey) : Prop := text = (toString k.val).toList

/-- **Order keys.** An integer of 32 bits is read as it is printed. -/
theorem recognizes_orderKey : Recognizes orderKey OrderKeyText where
  spells := by
    rintro _ k rfl
    exact spells_orderKey k
  written := by
    intro text k rest h
    simp only [orderKey, reads_bind_iff, reads_upcoming_iff] at h
    obtain ⟨c, _, ⟨-, ws, tail, hws, rfl, rfl⟩, h⟩ := h
    split at h
    · obtain ⟨number, rest', hnumber, h⟩ := reads_bind_iff.1 h
      split at h
      · next n =>
        split at h
        · next k hk =>
          obtain ⟨rfl, rfl⟩ := reads_pure_iff.1 h
          have hval : k.val = n := by
            unfold OrderKey.ofInt? at hk
            split at hk
            · rw [← Option.some.inj hk]
            · contradiction
          rw [signedNumber_text hnumber, ← List.append_assoc, ← hval]
          exact ⟨ws, _, hws, rfl, rfl⟩
        · exact absurd h (not_reads_throw _)
      · exact absurd h (not_reads_throw _)
    · exact absurd h (not_reads_refuse _ _)

/-! ### Values that may be absent -/

/-- The ways to write a value that may be absent, given the ways to write it. -/
inductive NullableText (P : List Char → α → Prop) : List Char → Option α → Prop
  | null : NullableText P "null".toList none
  | some {text : List Char} {a : α} : P text a → NullableText P text (some a)

/-- **Values that may be absent** are told from `null` by their first letter. -/
theorem Recognizes.optional (h : Recognizes x P) (hn : ∀ text a, P text a → text.head? ≠ some 'n') :
    Recognizes (optional x) (NullableText P) where
  spells := by
    rintro text _ (_ | ⟨htext⟩)
    · refine ⟨⟨'n', _, rfl, by decide, by decide⟩, fun ws rest hws _ => ?_⟩
      unfold Reader.optional
      rw [List.append_assoc]
      refine (reads_blanks hws (by decide)).bind ?_
      refine (reads_peek _).bind ?_
      refine (reads_word "null".toList rest).bind ?_
      exact reads_pure none rest
    · exact (h.spells htext).optional (hn _ _ htext)
  written := by
    intro text a? rest h
    simp only [Reader.optional, reads_bind_iff, reads_blanks_iff, reads_peek_iff] at h
    obtain ⟨_, _, rfl, _, _, ⟨rfl, rfl⟩, h⟩ := h
    obtain ⟨ws, hws, hsplit⟩ : ∃ ws, Blanks ws ∧ text = ws ++ text.dropWhile isBlank :=
      ⟨text.takeWhile isBlank, fun c hc => List.mem_takeWhile_imp hc,
        List.takeWhile_append_dropWhile.symm⟩
    split at h
    · simp only [reads_bind_iff, reads_word_iff, reads_pure_iff] at h
      obtain ⟨_, _, hword, rfl, rfl⟩ := h
      rw [hword, ← List.append_assoc] at hsplit
      exact ⟨ws, _, hws, .null, hsplit⟩
    · simp only [reads_bind_iff, reads_pure_iff] at h
      obtain ⟨a, _, hread, rfl, rfl⟩ := h
      obtain ⟨ws', found, hws', hfound, htext⟩ := h.written hread
      refine ⟨ws ++ ws', found, hws.append hws', .some hfound, hsplit.trans ?_⟩
      rw [htext]
      simp

/-! ### Lists -/

variable {lead : List Char}

theorem Lead.append_blanks (h : Lead first lead) (hws : Blanks ws) : Lead first (lead ++ ws) := by
  cases h with
  | first hlead => exact .first (hlead.append hws)
  | next hlead hlead' =>
    rw [List.append_assoc, List.cons_append]
    exact .next hlead (hlead'.append hws)

/-- Either another element follows behind what leads to it, or the bracket that closes the list. -/
theorem moreElements_written (h : Reads (moreElements first) text b rest) :
    (b = true ∧ ∃ lead, Lead first lead ∧ text = lead ++ rest) ∨
      b = false ∧ ∃ ws tail, Blanks ws ∧ text = ws ++ rest ∧ rest = ']' :: tail := by
  simp only [moreElements, reads_bind_iff, reads_upcoming_iff] at h
  obtain ⟨c, _, ⟨-, ws, tail, hws, rfl, rfl⟩, h⟩ := h
  split at h
  · next hclose =>
    obtain ⟨rfl, rfl⟩ := reads_pure_iff.1 h
    exact .inr ⟨rfl, ws, tail, hws, rfl, by rw [hclose]⟩
  · split at h
    · next hfirst =>
      obtain ⟨rfl, rfl⟩ := reads_pure_iff.1 h
      rw [hfirst]
      exact .inl ⟨rfl, ws, .first hws, rfl⟩
    · next hfirst =>
      split at h
      · next hcomma =>
        simp only [reads_bind_iff, reads_advance_iff, reads_upcoming_iff, reads_guard_iff,
          reads_pure_iff] at h
        obtain ⟨_, _, rfl, _, _, ⟨-, ws', tail', hws', htail, rfl⟩, -, rfl, rfl⟩ := h
        rw [Bool.not_eq_true] at hfirst
        rw [hfirst]
        refine .inl ⟨rfl, ws ++ ',' :: ws', .next hws hws', ?_⟩
        rw [hcomma, List.append_assoc, List.cons_append, ← htail]
      · exact absurd h (not_reads_throw _)

/-- A list is closed by its bracket. -/
theorem closeList_written (h : Reads closeList text u rest) :
    ∃ ws, Blanks ws ∧ text = ws ++ ']' :: rest := by
  simp only [closeList, reads_bind_iff, reads_upcoming_iff] at h
  obtain ⟨c, _, ⟨-, ws, tail, hws, rfl, rfl⟩, h⟩ := h
  split at h
  · next hclose =>
    rw [reads_advance_iff] at h
    rw [h, hclose]
    exact ⟨ws, hws, rfl⟩
  · split at h
    · simp [reads_bind_iff, reads_ite_iff, not_reads_throw] at h
    · exact absurd h (not_reads_throw _)

/-- The elements that are read stand one after the other, before the closing bracket. -/
theorem elements_written (hx : Recognizes x P) {fuel : Nat} {as : List α}
    (h : Reads (elements x fuel first) text as rest) :
    ∃ body ws, Separated P first body as ∧ Blanks ws ∧ text = body ++ ws ++ rest := by
  induction fuel generalizing first text as with
  | zero => exact absurd h (not_reads_throw _)
  | succ fuel ih =>
    simp only [elements, reads_bind_iff] at h
    obtain ⟨more, text', hmore, h⟩ := h
    rcases moreElements_written hmore with ⟨rfl, lead, hlead, rfl⟩ | ⟨rfl, ws, tail, hws, rfl, rfl⟩
    · simp only [if_true, reads_bind_iff, reads_pure_iff] at h
      obtain ⟨a, _, ha, as, _, has, rfl, rfl⟩ := h
      obtain ⟨ws, found, hws, hfound, rfl⟩ := hx.written ha
      obtain ⟨body, ws', hbody, hws', rfl⟩ := ih has
      refine ⟨lead ++ ws ++ found ++ body, ws', .cons (hlead.append_blanks hws) hfound hbody, hws',
        ?_⟩
      simp
    · obtain ⟨rfl, rfl⟩ := reads_pure_iff.1 h
      exact ⟨[], ws, .nil first, hws, rfl⟩

/-- **Lists.** A list is recognized if its elements are. -/
theorem Recognizes.list (hx : Recognizes x P) : Recognizes (list x) (ListText P) where
  spells h := h.spells fun _ _ ha => hx.spells ha
  written := by
    intro text as rest h
    simp only [Reader.list, reads_bind_iff, reads_upcoming_iff] at h
    obtain ⟨c, _, ⟨-, ws, tail, hws, rfl, rfl⟩, h⟩ := h
    split at h
    · next hopen =>
      simp only [reads_bind_iff, reads_advance_iff, reads_remaining_iff, reads_pure_iff] at h
      obtain ⟨_, _, rfl, _, _, ⟨rfl, rfl⟩, as, _, has, _, _, hclose, rfl, rfl⟩ := h
      obtain ⟨body, ws', hbody, hws', htail⟩ := elements_written hx has
      obtain ⟨ws'', hws'', rfl⟩ := closeList_written hclose
      refine ⟨ws, _, hws, ⟨body, ws' ++ ws'', hbody, hws'.append hws'', rfl⟩, ?_⟩
      rw [hopen, htail]
      simp
    · exact absurd h (not_reads_refuse _ _)

end OrderedLexer.Json
