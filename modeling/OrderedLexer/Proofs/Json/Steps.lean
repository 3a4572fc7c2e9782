import OrderedLexer.Json.Reader
import Mathlib.Data.List.TakeWhile

namespace OrderedLexer.Json.Reader

/-!
# The steps of a reader of JSON

A reader is followed through a text step by step. `Reads x text a rest` says that the reader `x`
consumes `text` down to `rest` and gives `a`.

* `Reads.bind` — what follows a step goes on where it left the text;
* `reads_upcoming` — the next character behind blanks is looked at and not consumed;
* `reads_word` — a word is consumed letter by letter;
* `reads_colon` — a colon is consumed with the blanks before it.

Each comes with its inverse: `reads_bind_iff`, `reads_upcoming_iff`, `reads_word_iff` and
`reads_colon_iff` tell what stood where a step was taken.
-/

variable {α β : Type} {x : Reader α} {text rest ws : List Char} {a : α} {c : Char}
  {fault : Fault} {u : Unit}

/-- The reader consumes a text down to the rest and gives a value. -/
def Reads (x : Reader α) (text : List Char) (a : α) (rest : List Char) : Prop :=
  x.run text = .ok (a, rest)

/-- A reader gives one value and leaves one rest. -/
theorem Reads.unique {b : α} {rest' : List Char} (h : Reads x text a rest)
    (h' : Reads x text b rest') : a = b ∧ rest = rest' :=
  Prod.mk.inj (Except.ok.inj (h.symm.trans h'))

/-- What follows a step goes on where it left the text. -/
theorem Reads.bind {f : α → Reader β} {b : β} {text' : List Char} (h : Reads x text a text')
    (hf : Reads (f a) text' b rest) : Reads (x >>= f) text b rest := by
  rw [Reads, StateT.run_bind, h]
  exact hf

/-- What follows both branches of a step goes on where the branch taken left the text. -/
theorem Reads.ite_bind {p : Prop} [Decidable p] {y : Reader α} {f : α → Reader β} {b : β}
    {text' : List Char} (h : Reads (if p then x else y) text a text')
    (hf : Reads (f a) text' b rest) :
    Reads (if p then x >>= f else y >>= f) text b rest := by
  by_cases hp : p
  · rw [if_pos hp] at h ⊢
    exact h.bind hf
  · rw [if_neg hp] at h ⊢
    exact h.bind hf

theorem reads_pure (a : α) (text : List Char) : Reads (pure a) text a text := rfl

theorem reads_peek (text : List Char) : Reads peek text text.head? text := rfl

theorem reads_advance (c : Char) (rest : List Char) : Reads advance (c :: rest) () rest := rfl

theorem reads_take (fault : Fault) (c : Char) (rest : List Char) :
    Reads (take fault) (c :: rest) c rest := rfl

theorem reads_remaining (text : List Char) : Reads remaining text text.length text := rfl

/-- A step and what follows it are taken one after the other. -/
theorem reads_bind_iff {f : α → Reader β} {b : β} :
    Reads (x >>= f) text b rest ↔ ∃ a text', Reads x text a text' ∧ Reads (f a) text' b rest := by
  constructor
  · intro h
    rw [Reads, StateT.run_bind] at h
    cases hx : x.run text with
    | error fault =>
      rw [hx] at h
      contradiction
    | ok found =>
      rw [hx] at h
      exact ⟨found.1, found.2, hx, h⟩
  · rintro ⟨a, text', hx, hf⟩
    exact hx.bind hf

/-- What follows both branches of a step is taken behind either. -/
theorem reads_ite_bind_iff {p : Prop} [Decidable p] {y : Reader α} {f : α → Reader β} {b : β} :
    Reads (if p then x >>= f else y >>= f) text b rest ↔
      ∃ a text', Reads (if p then x else y) text a text' ∧ Reads (f a) text' b rest := by
  by_cases hp : p
  · simp only [hp, if_true, reads_bind_iff]
  · simp only [hp, if_false, reads_bind_iff]

theorem reads_pure_iff {b : α} : Reads (pure a) text b rest ↔ a = b ∧ text = rest := by
  constructor
  · intro h
    exact Prod.mk.inj (Except.ok.inj h)
  · rintro ⟨rfl, rfl⟩
    rfl

/-- Nothing is read where a fault is found. -/
theorem not_reads_throw (fault : Fault) : ¬ Reads (throw fault : Reader α) text a rest := by
  intro h
  contradiction

/-- What follows a fault is not read either. -/
theorem not_reads_throw_bind (fault : Fault) (f : α → Reader β) {b : β} :
    ¬ Reads (throw fault >>= f) text b rest := by
  intro h
  contradiction

/-- A step is taken if nothing speaks against it. -/
theorem reads_guard_iff {p : Prop} [Decidable p] {f : β → Reader α} :
    Reads (if p then throw fault >>= f else x) text a rest ↔ ¬ p ∧ Reads x text a rest := by
  by_cases hp : p
  · simp [hp, not_reads_throw_bind]
  · simp [hp]

/-- A step is taken if its condition holds. -/
theorem reads_unless_iff {p : Prop} [Decidable p] :
    Reads (if p then x else throw fault) text a rest ↔ p ∧ Reads x text a rest := by
  by_cases hp : p
  · simp [hp]
  · simp [hp, not_reads_throw]

theorem reads_ite_iff {p : Prop} [Decidable p] {y : Reader α} :
    Reads (if p then x else y) text a rest ↔
      p ∧ Reads x text a rest ∨ ¬ p ∧ Reads y text a rest := by
  by_cases hp : p
  · simp [hp]
  · simp [hp]

theorem reads_get_iff {cs : List Char} :
    Reads (get : Reader (List Char)) text cs rest ↔ cs = text ∧ rest = text := by
  constructor
  · intro h
    obtain ⟨rfl, rfl⟩ := Prod.mk.inj (Except.ok.inj h)
    exact ⟨rfl, rfl⟩
  · rintro ⟨rfl, rfl⟩
    rfl

theorem reads_set_iff {cs : List Char} {u : PUnit} :
    Reads (set cs : Reader PUnit) text u rest ↔ rest = cs := by
  constructor
  · intro h
    exact (Prod.mk.inj (Except.ok.inj h)).2.symm
  · rintro rfl
    rfl

theorem reads_peek_iff {c? : Option Char} :
    Reads peek text c? rest ↔ c? = text.head? ∧ rest = text := by
  constructor
  · intro h
    obtain ⟨rfl, rfl⟩ := Prod.mk.inj (Except.ok.inj h)
    exact ⟨rfl, rfl⟩
  · rintro ⟨rfl, rfl⟩
    rfl

theorem reads_advance_iff : Reads advance text u rest ↔ rest = text.drop 1 := by
  constructor
  · intro h
    exact (Prod.mk.inj (Except.ok.inj h)).2.symm
  · rintro rfl
    rfl

theorem reads_take_iff : Reads (take fault) text c rest ↔ text = c :: rest := by
  cases text with
  | nil =>
    constructor
    · intro h
      cases h
    · intro h
      cases h
  | cons d text =>
    constructor
    · intro h
      obtain ⟨rfl, rfl⟩ := Prod.mk.inj (Except.ok.inj h)
      rfl
    · intro h
      obtain ⟨rfl, rfl⟩ := List.cons.inj h
      rfl

theorem reads_remaining_iff {n : Nat} :
    Reads remaining text n rest ↔ n = text.length ∧ rest = text := by
  constructor
  · intro h
    obtain ⟨rfl, rfl⟩ := Prod.mk.inj (Except.ok.inj h)
    exact ⟨rfl, rfl⟩
  · rintro ⟨rfl, rfl⟩
    rfl

/-! ### Blanks -/

/-- Nothing but blanks. -/
def Blanks (ws : List Char) : Prop := ∀ c ∈ ws, isBlank c = true

theorem blanks_nil : Blanks [] := by
  intro c hc
  cases hc

theorem Blanks.append {ws' : List Char} (h : Blanks ws) (h' : Blanks ws') : Blanks (ws ++ ws') :=
  fun c hc => (List.mem_append.1 hc).elim (h c) (h' c)

/-- Blanks are dropped up to the first character that is none. -/
theorem dropWhile_blanks (hws : Blanks ws) (hc : isBlank c = false) (rest : List Char) :
    (ws ++ c :: rest).dropWhile isBlank = c :: rest := by
  rw [List.dropWhile_append_of_pos hws, List.dropWhile_cons_of_neg (by simp [hc])]

theorem reads_blanks (hws : Blanks ws) (hc : isBlank c = false) :
    Reads blanks (ws ++ c :: rest) () (c :: rest) := by
  rw [Reads, blanks, StateT.run_modify, dropWhile_blanks hws hc]
  rfl

/-- The next character behind blanks is looked at and not consumed. -/
theorem reads_upcoming (fault : Fault) (hws : Blanks ws) (hc : isBlank c = false) :
    Reads (upcoming fault) (ws ++ c :: rest) c (c :: rest) := by
  unfold upcoming
  refine (reads_blanks hws hc).bind ?_
  refine (reads_peek _).bind ?_
  exact reads_pure c (c :: rest)

theorem reads_blanks_iff :
    Reads blanks text u rest ↔ rest = text.dropWhile isBlank := by
  constructor
  · intro h
    exact (Prod.mk.inj (Except.ok.inj h)).2.symm
  · rintro rfl
    rfl

/-- The character that is looked at stands behind blanks, and is none. -/
theorem reads_upcoming_iff :
    Reads (upcoming fault) text c rest ↔
      isBlank c = false ∧ ∃ ws tail, Blanks ws ∧ text = ws ++ c :: tail ∧ rest = c :: tail := by
  constructor
  · unfold upcoming
    simp only [reads_bind_iff, reads_blanks_iff, reads_peek_iff]
    rintro ⟨_, _, rfl, _, _, ⟨rfl, rfl⟩, h⟩
    have hsplit := text.takeWhile_append_dropWhile (p := isBlank)
    have hblank := List.head?_dropWhile_not isBlank text
    cases hahead : text.dropWhile isBlank with
    | nil =>
      rw [hahead] at h
      exact absurd h (not_reads_throw fault)
    | cons d tail =>
      rw [hahead] at h hsplit hblank
      obtain ⟨rfl, rfl⟩ := reads_pure_iff.1 h
      exact ⟨by simpa using hblank, _, tail, fun c hc => List.mem_takeWhile_imp hc, hsplit.symm,
        rfl⟩
  · rintro ⟨hc, ws, tail, hws, rfl, rfl⟩
    exact reads_upcoming fault hws hc

/-! ### Words -/

/-- A word is consumed letter by letter. -/
theorem reads_word (letters rest : List Char) : Reads (word letters) (letters ++ rest) () rest := by
  induction letters with
  | nil => exact reads_pure () rest
  | cons c letters ih =>
    unfold word
    refine (reads_take _ c (letters ++ rest)).bind ?_
    simpa using ih

theorem reads_word_iff {letters : List Char} :
    Reads (word letters) text u rest ↔ text = letters ++ rest := by
  constructor
  · intro h
    induction letters generalizing text with
    | nil => exact (reads_pure_iff.1 h).2
    | cons c letters ih =>
      simp only [word, reads_bind_iff, reads_take_iff, reads_guard_iff] at h
      obtain ⟨d, text', rfl, hd, h⟩ := h
      obtain rfl : d = c := by simpa using hd
      rw [ih h, List.cons_append]
  · rintro rfl
    exact reads_word letters rest

theorem reads_colon (hws : Blanks ws) (rest : List Char) :
    Reads colon (ws ++ ':' :: rest) () rest := by
  unfold colon
  refine (reads_upcoming _ hws (by decide)).bind ?_
  exact reads_advance ':' rest

theorem reads_colon_iff :
    Reads colon text u rest ↔ ∃ ws, Blanks ws ∧ text = ws ++ ':' :: rest := by
  constructor
  · unfold colon
    intro h
    simp only [reads_bind_iff, reads_upcoming_iff, reads_unless_iff, reads_advance_iff] at h
    obtain ⟨_, _, ⟨-, ws, tail, hws, rfl, rfl⟩, rfl, rfl⟩ := h
    exact ⟨ws, hws, rfl⟩
  · rintro ⟨ws, hws, rfl⟩
    exact reads_colon hws rest

end OrderedLexer.Json.Reader
