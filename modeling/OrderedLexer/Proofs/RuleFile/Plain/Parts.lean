import OrderedLexer.Proofs.RuleFile.Plain.Grammar
import OrderedLexer.Proofs.Source.Movements
import Mathlib.Data.List.TakeWhile

namespace OrderedLexer

/-!
# The parts of a statement

Words, numbers and modifiers are read exactly where the grammar has them. Each part comes with two
lemmas: what is read is such a part, and such a part is read.

* `integer_text`, `exists_integer` — keys of orders;
* `words_at`, `words_text`, `exists_words` — the words of a rule up to `::=`, and where they start;
* `modifiers_text`, `exists_modifiers` — what the words before the name say.
-/

/-- The key with a given value. -/
theorem OrderKey.ofInt?_eq_some_iff {n : Int} {key : OrderKey} :
    ofInt? n = some key ↔ key.val = n := by
  unfold ofInt?
  constructor
  · intro h
    split at h
    · rw [← Option.some.inj h]
    · contradiction
  · rintro rfl
    rw [dif_pos key.inRange]

namespace RuleFile.Plain

variable {c c' : Cursor} {rest text : List Char}

/-! ### Kinds of characters -/

/-- A class of characters that no blank belongs to. -/
theorem not_isBlank_of_class {p : Char → Bool} (hp : p ' ' = false ∧ p '\t' = false) {ch : Char}
    (h : p ch = true) : isBlank ch = false := by
  rw [← Bool.not_eq_true]
  intro hblank
  simp only [isBlank, Bool.or_eq_true, decide_eq_true_eq] at hblank
  rcases hblank with rfl | rfl
  · rw [hp.1] at h
    contradiction
  · rw [hp.2] at h
    contradiction

theorem not_isBlank_of_isWordChar {ch : Char} (h : isWordChar ch = true) : isBlank ch = false :=
  not_isBlank_of_class (by decide) h

theorem not_isBlank_of_isDigit {ch : Char} (h : ch.isDigit = true) : isBlank ch = false :=
  not_isBlank_of_class (by decide) h

/-- The longest start of a text that satisfies `p`, and what stands behind it. -/
theorem takeWhile_dropWhile_append {p : Char → Bool} (htext : ∀ ch ∈ text, p ch = true)
    (hrest : ∀ ch ∈ rest.head?, p ch = false) :
    (text ++ rest).takeWhile p = text ∧ (text ++ rest).dropWhile p = rest := by
  rw [List.takeWhile_append_of_pos htext, List.dropWhile_append_of_pos htext]
  cases rest with
  | nil => simp
  | cons ch rest =>
    have hch := hrest ch rfl
    simp [hch]

/-- What a text starts with, a longer one starts with. -/
theorem mem_head?_append {ch : Char} (h : ch ∈ text.head?) (rest : List Char) :
    ch ∈ (text ++ rest).head? := by
  rw [List.head?_append, Option.mem_def.1 h]
  rfl

/-- What stands behind the longest start that satisfies `p` does not start so. -/
theorem head?_dropWhile (p : Char → Bool) (text : List Char) :
    ∀ ch ∈ (text.dropWhile p).head?, p ch = false := by
  intro ch hch
  have := List.head?_dropWhile_not p text
  rw [Option.mem_def.1 hch] at this
  simpa using this

/-! ### Numbers -/

/-- The number of digits is added up from the left. -/
theorem foldl_digits {digits : List Char} (n : Nat) (h : ∀ d ∈ digits, d.isDigit = true) :
    digits.foldl (fun n d => n * 10 + ((d.toNat : Int) - 48)) (n : Int) =
      (Nat.ofDigitChars 10 digits n : Int) := by
  induction digits generalizing n with
  | nil => rw [Nat.ofDigitChars_nil]; rfl
  | cons d ds ih =>
    have hd : 48 ≤ d.toNat := (Char.isDigit_iff_toNat.1 (h d List.mem_cons_self)).1
    have hds : ∀ d ∈ ds, d.isDigit = true := fun d hd => h d (List.mem_cons_of_mem _ hd)
    have hnext :
        (n : Int) * 10 + ((d.toNat : Int) - 48) = ((10 * n + (d.toNat - 48) : Nat) : Int) := by
      omega
    rw [List.foldl_cons, hnext, ih _ hds, Nat.ofDigitChars_cons]
    rfl

/-- When a key is read: there are digits, and their number is in range. -/
theorem integer_eq_ok_iff {key : OrderKey} :
    integer c = .ok (key, c') ↔
      ((c.skip? "-").getD c).ahead.takeWhile Char.isDigit ≠ [] ∧
      key.val = (if c.continues "-" then
          -(Nat.ofDigitChars 10 (((c.skip? "-").getD c).ahead.takeWhile Char.isDigit) 0 : Int)
        else Nat.ofDigitChars 10 (((c.skip? "-").getD c).ahead.takeWhile Char.isDigit) 0) ∧
      c' = ((c.skip? "-").getD c).skipWhile Char.isDigit := by
  have hdigits : ∀ d ∈ ((c.skip? "-").getD c).ahead.takeWhile Char.isDigit, d.isDigit = true :=
    fun d hd => List.mem_takeWhile_imp hd
  unfold integer
  dsimp only
  generalize ((c.skip? "-").getD c).ahead.takeWhile Char.isDigit = digits at hdigits ⊢
  have hsize := foldl_digits 0 hdigits
  rw [hsize]
  by_cases hempty : digits = []
  · subst hempty
    simp
  · rw [if_neg (by simpa using hempty), ← OrderKey.ofInt?_eq_some_iff]
    split
    · next found hfound =>
      rw [hfound]
      simp only [Except.ok.injEq, Prod.mk.injEq, Option.some.injEq]
      simp [hempty, eq_comm]
    · next hnone =>
      rw [hnone]
      simp

/-- A key that is read is spelled by what was ahead of it. -/
theorem integer_text {key : OrderKey} (h : integer c = .ok (key, c')) :
    ∃ number, IntegerText number key ∧ c.ahead = number ++ c'.ahead ∧
      ∀ ch ∈ number, ch = '-' ∨ ch.isDigit = true := by
  obtain ⟨hne, hval, rfl⟩ := integer_eq_ok_iff.1 h
  have hdigits : ∀ text : List Char, ∀ d ∈ text.takeWhile Char.isDigit, d.isDigit = true :=
    fun text d hd => List.mem_takeWhile_imp hd
  rw [Cursor.ahead_skipWhile]
  cases hskip : c.skip? "-" with
  | none =>
    have hcontinues := Cursor.not_continues_of_skip? hskip
    rw [hskip, Option.getD_none] at hne hval
    rw [hcontinues, if_neg Bool.false_ne_true] at hval
    refine ⟨_, .plain hne (hdigits _) hval, ?_, fun ch hch => .inr (hdigits _ ch hch)⟩
    rw [Option.getD_none, List.takeWhile_append_dropWhile]
  | some d =>
    have hcontinues := Cursor.continues_of_skip? hskip
    rw [hskip, Option.getD_some] at hne hval
    rw [hcontinues, if_pos rfl] at hval
    refine ⟨_, .negative hne (hdigits _) hval, ?_, ?_⟩
    · rw [Cursor.ahead_eq_of_skip? hskip, Option.getD_some, List.cons_append,
        List.takeWhile_append_dropWhile]
      rfl
    · intro ch hch
      rcases List.mem_cons.1 hch with rfl | hch
      · exact .inl rfl
      · exact .inr (hdigits _ ch hch)

theorem text_of_integer {key : OrderKey} (h : integer c = .ok (key, c')) : c'.text = c.text := by
  obtain ⟨-, -, rfl⟩ := integer_eq_ok_iff.1 h
  rw [Cursor.text_skipWhile]
  cases hskip : c.skip? "-" with
  | none => rfl
  | some d => exact Cursor.text_of_skip? hskip

/-- A spelled key is read. -/
theorem exists_integer {number : List Char} {key : OrderKey} (h : IntegerText number key)
    (hc : c.ahead = number ++ rest) (hrest : ∀ ch ∈ rest.head?, ch.isDigit = false) :
    ∃ c', integer c = .ok (key, c') ∧ c'.ahead = rest := by
  cases h with
  | @plain digits key hne hdigits hval =>
    obtain ⟨htake, hdrop⟩ := takeWhile_dropWhile_append hdigits hrest
    -- A number without a minus starts with a digit.
    have hskip : c.skip? "-" = none := by
      refine Cursor.skip?_eq_none (k := '-') rfl ?_
      obtain ⟨d, ds, rfl⟩ := List.exists_cons_of_ne_nil hne
      rw [hc, List.cons_append, List.head?_cons]
      intro heq
      have hd := hdigits d List.mem_cons_self
      rw [Option.some.inj heq] at hd
      contradiction
    have hcontinues := Cursor.not_continues_of_skip? hskip
    refine ⟨c.skipWhile Char.isDigit, integer_eq_ok_iff.2 ?_, ?_⟩
    · rw [hskip, Option.getD_none, hc, htake, hcontinues, if_neg Bool.false_ne_true]
      exact ⟨hne, hval, rfl⟩
    · rw [Cursor.ahead_skipWhile, hc, hdrop]
  | @negative digits key hne hdigits hval =>
    obtain ⟨htake, hdrop⟩ := takeWhile_dropWhile_append hdigits hrest
    have hminus : c.ahead = "-".toList ++ (digits ++ rest) := hc
    obtain ⟨d, hskip, hd⟩ := Cursor.exists_skip? "-" hminus
    have hcontinues := Cursor.continues_of_skip? hskip
    refine ⟨d.skipWhile Char.isDigit, integer_eq_ok_iff.2 ?_, ?_⟩
    · rw [hskip, Option.getD_some, hd, htake, hcontinues, if_pos rfl]
      exact ⟨hne, hval, rfl⟩
    · rw [Cursor.ahead_skipWhile, hd, hdrop]

/-! ### Words -/

/-- Words where they start, in a text that starts at byte position `first`. -/
inductive WordsAt : Nat → List Char → List Word → Prop
  | nil {first : Nat} {ws : List Char} : Blanks ws → WordsAt first ws []
  | cons {first : Nat} {ws word rest : List Char} {words : List Word} : Blanks ws → word ≠ [] →
      (∀ ch ∈ word, isWordChar ch = true) → WordEnds rest →
      WordsAt (first + Text.byteLength (ws ++ word)) rest words →
      WordsAt first (ws ++ word ++ rest) (⟨String.ofList word, first + Text.byteLength ws⟩ :: words)

/-- Wherever they start, words are spelled the same. -/
theorem WordsAt.wordsText {first : Nat} {words : List Word} (h : WordsAt first text words) :
    WordsText text (words.map Word.text) := by
  induction h with
  | nil hws => exact .nil hws
  | cons hws hne hword hends _ ih => exact .cons hws hne hword hends ih

/-- The words that are read are spelled by what was ahead of `::=`, and start where they say. -/
theorem words_at {found ws : List Word} (h : words found c = .ok (ws, c')) :
    ∃ (head : List Char) (read : List Word), WordsAt c.pos head read ∧
      ws = read.reverse ++ found ∧ c.ahead = head ++ "::=".toList ++ c'.ahead := by
  -- Induction along the words, with those found before them in the reverse sequence.
  fun_induction words found c with
  | case1 found c d rest hskip =>
    obtain ⟨rfl, rfl⟩ := Prod.mk.inj (Except.ok.inj h)
    refine ⟨c.ahead.takeWhile isBlank, [], .nil fun ch hch => List.mem_takeWhile_imp hch, rfl, ?_⟩
    have hd := Cursor.ahead_eq_of_skip? hskip
    rw [Cursor.ahead_skipWhile] at hd
    rw [List.append_assoc, ← hd, List.takeWhile_append_dropWhile]
  | case2 => contradiction
  | case3 found c d hskip length hlength ih =>
    obtain ⟨head, read, hwords, rfl, hahead⟩ := ih h
    have hd : d.ahead = c.ahead.dropWhile isBlank := Cursor.ahead_skipWhile c isBlank
    have hrest : (d.advanceBy length).ahead = d.ahead.dropWhile isWordChar :=
      Cursor.ahead_skipWhile d isWordChar
    have hstart : d.pos = c.pos + Text.byteLength (c.ahead.takeWhile isBlank) :=
      c.pos_skipWhile isBlank
    have hbehind : (d.advanceBy length).pos = c.pos +
        Text.byteLength (c.ahead.takeWhile isBlank ++ d.ahead.takeWhile isWordChar) := by
      rw [Text.byteLength_append, ← Nat.add_assoc, ← hstart]
      exact d.pos_skipWhile isWordChar
    rw [hbehind] at hwords
    refine ⟨c.ahead.takeWhile isBlank ++ d.ahead.takeWhile isWordChar ++ head,
      ⟨wordAhead d, d.pos⟩ :: read, ?_, by simp, ?_⟩
    · rw [hstart]
      refine .cons ?_ ?_ ?_ ?_ hwords
      · exact fun ch hch => List.mem_takeWhile_imp hch
      · exact fun hnil => hlength (by simp [length, hnil])
      · exact fun ch hch => List.mem_takeWhile_imp hch
      · -- The word was read as far as it goes.
        intro ch hch
        refine head?_dropWhile isWordChar d.ahead ch ?_
        rw [← hrest, hahead, List.append_assoc]
        exact mem_head?_append hch _
    · simp only [List.append_assoc] at hahead ⊢
      rw [← hahead, hrest, List.takeWhile_append_dropWhile, hd, List.takeWhile_append_dropWhile]

theorem words_text {found ws : List Word} (h : words found c = .ok (ws, c')) :
    ∃ (head : List Char) (read : List Word), WordsText head (read.map Word.text) ∧
      ws = read.reverse ++ found ∧ c.ahead = head ++ "::=".toList ++ c'.ahead := by
  obtain ⟨head, read, hwords, hread⟩ := words_at h
  exact ⟨head, read, hwords.wordsText, hread⟩

theorem text_of_words {found ws : List Word} (h : words found c = .ok (ws, c')) :
    c'.text = c.text := by
  fun_induction words found c with
  | case1 found c d rest hskip =>
    obtain ⟨-, rfl⟩ := Prod.mk.inj (Except.ok.inj h)
    rw [Cursor.text_of_skip? hskip, Cursor.text_skipWhile]
  | case2 => contradiction
  | case3 found c d hskip length hlength ih =>
    rw [ih h, Cursor.text_advanceBy, Cursor.text_skipWhile]

/-- Spelled words are read up to `::=`. -/
theorem exists_words {head : List Char} {names : List String} (h : WordsText head names)
    (hc : c.ahead = head ++ "::=".toList ++ rest) (found : List Word) :
    ∃ (read : List Word) (c' : Cursor), words found c = .ok (read.reverse ++ found, c') ∧
      read.map Word.text = names ∧ c'.ahead = rest := by
  induction h generalizing c found with
  | @nil ws hws =>
    have hcolon : ∀ ch ∈ ("::=".toList ++ rest).head?, isBlank ch = false := by
      intro ch hch
      rw [← Option.some.inj hch]
      rfl
    have hblank : (c.skipWhile isBlank).ahead = "::=".toList ++ rest := by
      rw [Cursor.ahead_skipWhile, hc, List.append_assoc]
      exact (takeWhile_dropWhile_append hws hcolon).2
    obtain ⟨c', hskip, hrest⟩ := Cursor.exists_skip? "::=" hblank
    refine ⟨[], c', ?_, rfl, hrest⟩
    unfold words
    simp only [hskip]
    rfl
  | @cons ws word tail names hws hne hword hends _ ih =>
    obtain ⟨w, ws', rfl⟩ := List.exists_cons_of_ne_nil hne
    have hw := hword w List.mem_cons_self
    have hblank : (c.skipWhile isBlank).ahead = w :: ws' ++ (tail ++ "::=".toList ++ rest) := by
      rw [Cursor.ahead_skipWhile, hc]
      simp only [List.append_assoc]
      refine (takeWhile_dropWhile_append hws ?_).2
      intro ch hch
      rw [← Option.some.inj hch]
      exact not_isBlank_of_isWordChar hw
    -- A word is next, so `::=` is not.
    have hskip : (c.skipWhile isBlank).skip? "::=" = none := by
      refine Cursor.skip?_eq_none (k := ':') rfl ?_
      rw [hblank, List.cons_append, List.head?_cons]
      intro heq
      rw [Option.some.inj heq] at hw
      exact absurd hw (by decide)
    -- Another word comes behind a blank, and the last one ends at `::=`.
    have hend : ∀ ch ∈ (tail ++ "::=".toList ++ rest).head?, isWordChar ch = false := by
      intro ch hch
      cases tail with
      | nil =>
        rw [← Option.some.inj hch]
        decide
      | cons x tail => exact hends ch hch
    obtain ⟨htake, hdrop⟩ := takeWhile_dropWhile_append hword hend
    rw [← hblank] at htake hdrop
    have hahead : ((c.skipWhile isBlank).advanceBy (w :: ws').length).ahead =
        tail ++ "::=".toList ++ rest := by
      rw [Cursor.ahead_advanceBy, hblank, List.drop_left]
    obtain ⟨read, c', hwords, hread, hc'⟩ :=
      ih hahead (⟨wordAhead (c.skipWhile isBlank), (c.skipWhile isBlank).pos⟩ :: found)
    refine ⟨⟨wordAhead (c.skipWhile isBlank), (c.skipWhile isBlank).pos⟩ :: read, c', ?_, ?_, hc'⟩
    · unfold words
      simp only [hskip, htake]
      rw [if_neg (by simp), hwords]
      simp
    · rw [List.map_cons, hread, wordAhead, htake]

/-! ### Modifiers -/

theorem ofName?_eq_some_iff {word : String} {p : Priority} :
    Priority.ofName? word = some p ↔ word = p.name := by
  constructor
  · intro h
    unfold Priority.ofName? at h
    have hname := List.find?_some h
    exact (of_decide_eq_true hname).symm
  · rintro rfl
    cases p <;> rfl

/-- No priority has the name `ignore`. -/
theorem name_ne_ignore (p : Priority) : p.name ≠ "ignore" := by
  cases p <;> decide

/-- A modifier is added if it is `ignore` for the first time, or the first name of a priority. -/
theorem add_eq_ok_iff {stop : Nat} {m m' : Modifiers} {w : Word} :
    m.add stop w = .ok m' ↔
      (w.text = "ignore" ∧ m.ignore = false ∧ m' = { m with ignore := true }) ∨
      (m.priority = none ∧
        ∃ p : Priority, w.text = p.name ∧ m' = { m with priority := some p }) := by
  unfold Modifiers.add
  by_cases hignore : w.text = "ignore"
  · rw [if_pos hignore]
    constructor
    · intro h
      split at h
      · contradiction
      · next hm => exact .inl ⟨hignore, by simpa using hm, (Except.ok.inj h).symm⟩
    · rintro (⟨-, hm, rfl⟩ | ⟨-, p, hp, -⟩)
      · rw [if_neg (by simp [hm])]
      · exact absurd (hp.symm.trans hignore) (name_ne_ignore p)
  · rw [if_neg hignore]
    constructor
    · intro h
      split at h
      · contradiction
      · next hm =>
        split at h
        · next p hp =>
          exact .inr ⟨by simpa using hm, p, ofName?_eq_some_iff.1 hp, (Except.ok.inj h).symm⟩
        · contradiction
    · rintro (⟨hw, -⟩ | ⟨hm, p, hp, rfl⟩)
      · exact absurd hw hignore
      · rw [if_neg (by simp [hm]), ofName?_eq_some_iff.2 hp]

/-- Behind `ignore` and a priority no modifier is added. -/
theorem add_full {stop : Nat} {p : Priority} {m : Modifiers} {w : Word} :
    (⟨true, some p⟩ : Modifiers).add stop w ≠ .ok m := by
  intro h
  rcases add_eq_ok_iff.1 h with ⟨-, hfalse, -⟩ | ⟨hnone, -⟩
  · contradiction
  · contradiction

/-- The words before a name are spelled modifiers if they are read. -/
theorem modifiers_text {stop : Nat} {ws : List Word} {m : Modifiers}
    (h : ws.foldlM (Modifiers.add stop) {} = .ok m) :
    ModifiersText (ws.map Word.text) m.ignore m.priority := by
  have hstep : ∀ {w : Word} {ws : List Word} {m₁ : Modifiers},
      (w :: ws).foldlM (Modifiers.add stop) m₁ = .ok m →
        ∃ m₂, m₁.add stop w = .ok m₂ ∧ ws.foldlM (Modifiers.add stop) m₂ = .ok m := by
    intro w ws m₁ h
    rw [List.foldlM_cons] at h
    cases hadd : m₁.add stop w with
    | error fault =>
      rw [hadd] at h
      contradiction
    | ok m₂ =>
      rw [hadd] at h
      exact ⟨m₂, rfl, h⟩
  -- There is room for one `ignore` and one priority, so for two words at most.
  cases ws with
  | nil =>
    obtain rfl := Except.ok.inj h
    exact .none
  | cons w₁ ws =>
    obtain ⟨m₁, hadd₁, h⟩ := hstep h
    cases ws with
    | nil =>
      obtain rfl := Except.ok.inj h
      rcases add_eq_ok_iff.1 hadd₁ with ⟨hw₁, -, rfl⟩ | ⟨-, p, hw₁, rfl⟩
      · rw [List.map_cons, hw₁]
        exact .ignore
      · rw [List.map_cons, hw₁]
        exact .priority p
    | cons w₂ ws =>
      obtain ⟨m₂, hadd₂, h⟩ := hstep h
      have hlast : ∀ p, m₂ = ⟨true, some p⟩ → ws = [] ∧ m = m₂ := by
        rintro p rfl
        cases ws with
        | nil => exact ⟨rfl, (Except.ok.inj h).symm⟩
        | cons w₃ ws =>
          obtain ⟨m₃, hadd₃, -⟩ := hstep h
          exact absurd hadd₃ add_full
      rcases add_eq_ok_iff.1 hadd₁ with ⟨hw₁, -, rfl⟩ | ⟨-, p, hw₁, rfl⟩
      · rcases add_eq_ok_iff.1 hadd₂ with ⟨-, hfalse, -⟩ | ⟨-, p, hw₂, rfl⟩
        · contradiction
        · obtain ⟨rfl, rfl⟩ := hlast p rfl
          rw [List.map_cons, List.map_cons, hw₁, hw₂]
          exact .ignoreFirst p
      · rcases add_eq_ok_iff.1 hadd₂ with ⟨hw₂, -, rfl⟩ | ⟨hnone, -⟩
        · obtain ⟨rfl, rfl⟩ := hlast p rfl
          rw [List.map_cons, List.map_cons, hw₁, hw₂]
          exact .ignoreLast p
        · contradiction

/-- Spelled modifiers are read. -/
theorem exists_modifiers {ws : List Word} {ignore : Bool} {priority : Option Priority}
    (h : ModifiersText (ws.map Word.text) ignore priority) (stop : Nat) :
    ws.foldlM (Modifiers.add stop) {} = .ok ⟨ignore, priority⟩ := by
  have hignore : ∀ {w : Word} (priority : Option Priority), w.text = "ignore" →
      (⟨false, priority⟩ : Modifiers).add stop w = .ok ⟨true, priority⟩ :=
    fun _ hw => add_eq_ok_iff.2 (.inl ⟨hw, rfl, rfl⟩)
  have hpriority : ∀ {w : Word} {p : Priority} (ignore : Bool), w.text = p.name →
      (⟨ignore, none⟩ : Modifiers).add stop w = .ok ⟨ignore, some p⟩ :=
    fun _ hw => add_eq_ok_iff.2 (.inr ⟨rfl, _, hw, rfl⟩)
  generalize hnames : ws.map Word.text = names at h
  cases h with
  | none =>
    rw [List.map_eq_nil_iff.1 hnames]
    rfl
  | ignore =>
    obtain ⟨w, rfl, hw⟩ := List.map_eq_singleton_iff.1 hnames
    rw [List.foldlM_cons, hignore none hw]
    rfl
  | priority p =>
    obtain ⟨w, rfl, hw⟩ := List.map_eq_singleton_iff.1 hnames
    rw [List.foldlM_cons, hpriority false hw]
    rfl
  | ignoreFirst p =>
    obtain ⟨w₁, ws, rfl, hw₁, hws⟩ := List.map_eq_cons_iff.1 hnames
    obtain ⟨w₂, rfl, hw₂⟩ := List.map_eq_singleton_iff.1 hws
    rw [List.foldlM_cons, hignore none hw₁]
    show [w₂].foldlM (Modifiers.add stop) ⟨true, none⟩ = _
    rw [List.foldlM_cons, hpriority true hw₂]
    rfl
  | ignoreLast p =>
    obtain ⟨w₁, ws, rfl, hw₁, hws⟩ := List.map_eq_cons_iff.1 hnames
    obtain ⟨w₂, rfl, hw₂⟩ := List.map_eq_singleton_iff.1 hws
    rw [List.foldlM_cons, hpriority false hw₁]
    show [w₂].foldlM (Modifiers.add stop) ⟨false, some p⟩ = _
    rw [List.foldlM_cons, hignore (some p) hw₂]
    rfl

end RuleFile.Plain
end OrderedLexer
