import OrderedLexer.Proofs.RuleFile.Plain.LineByLine
import Mathlib.Data.List.Forall2

namespace OrderedLexer

/-!
# Lines that are read alike

A statement sees no more than the line it stands in, without the carriage return at its end. Two
readers of lines that say the same therefore go side by side, wherever these lines stand.

* `saidAhead` — what the line ahead of a cursor says;
* `InStep`, `Abreast` — two cursors that have passed as much of such lines;
* `ReadAlike`, `ReadAlike.bind` — results that are related, or faults of one cause between such
  cursors;
* `words_alike`, `pattern_alike`, `directive_alike`, `rule_alike` — the parts of a statement;
* `statement_alike` — statements of lines that say the same are read alike.
-/

namespace RuleFile.Plain

/-! ### What a line says -/

/-- What the line ahead says: the line without a carriage return at its end. -/
def saidAhead (c : Cursor) : List Char := trimReturn (c.ahead.takeWhile notLineFeed)

/-- What stands behind it starts with a line break, if anything does. -/
theorem ahead_eq_said (c : Cursor) :
    ∃ tail, c.ahead = saidAhead c ++ tail ∧ ∀ ch ∈ tail.head?, notBreak ch = false := by
  obtain ⟨cr, hcr, hreturn⟩ := exists_trimReturn_append (c.ahead.takeWhile notLineFeed)
  refine ⟨cr ++ c.ahead.dropWhile notLineFeed, ?_, ?_⟩
  · rw [saidAhead, ← List.append_assoc, ← hcr, List.takeWhile_append_dropWhile]
  · intro ch hch
    rcases hreturn with rfl | rfl
    · have hfeed := head?_dropWhile notLineFeed c.ahead ch hch
      simp [notBreak, show (ch != '\n') = false from hfeed]
    · simp only [List.cons_append, List.head?_cons, Option.mem_def, Option.some.injEq] at hch
      simp [notBreak, ← hch]

/-- Inside a line, no character is looked at behind it. -/
theorem takeWhile_append_break {p : Char → Bool} (hp : ∀ ch, p ch = true → notBreak ch = true)
    {tail : List Char} (htail : ∀ ch ∈ tail.head?, notBreak ch = false) (line : List Char) :
    (line ++ tail).takeWhile p = line.takeWhile p := by
  have hstop : tail.takeWhile p = [] := by
    cases tail with
    | nil => rfl
    | cons ch tail => simp [head?_of_break hp htail ch rfl]
  rw [List.takeWhile_append, hstop]
  split
  · next hall =>
    rw [List.append_nil]
    exact (List.IsPrefix.eq_of_length (List.takeWhile_prefix p) hall).symm
  · rfl

/-- A keyword is told by the line alone, too. -/
theorem isPrefixOf_append_break {keyword : List Char} (hkeyword : ∀ ch ∈ keyword, notBreak ch = true)
    {tail : List Char} (htail : ∀ ch ∈ tail.head?, notBreak ch = false) (line : List Char) :
    keyword.isPrefixOf (line ++ tail) = keyword.isPrefixOf line := by
  rw [Bool.eq_iff_iff, List.isPrefixOf_iff_prefix, List.isPrefixOf_iff_prefix]
  constructor
  · intro h
    rcases List.prefix_or_prefix_of_prefix h (List.prefix_append line tail) with hline | hlong
    · exact hline
    · -- The keyword would go on behind the line, with a line break.
      obtain ⟨more, rfl⟩ := hlong
      cases more with
      | nil => simp
      | cons ch more =>
        obtain ⟨rest, hrest⟩ := h
        rw [List.append_assoc, List.append_cancel_left_eq] at hrest
        have hbreak := htail ch (by simp [← hrest])
        rw [hkeyword ch (by simp)] at hbreak
        contradiction
  · intro h
    exact h.trans (List.prefix_append line tail)

/-! ### Side by side -/

variable {b₁ b₂ c₁ c₂ d₁ d₂ : Cursor}

/-- Two cursors have passed as many characters of the lines ahead of `b₁` and `b₂`, which say the
    same. -/
structure InStep (b₁ b₂ c₁ c₂ : Cursor) : Prop where
  said_eq : saidAhead b₁ = saidAhead b₂
  passed : ∃ n ≤ (saidAhead b₁).length, c₁ = b₁.advanceBy n ∧ c₂ = b₂.advanceBy n

namespace InStep

theorem refl (h : saidAhead b₁ = saidAhead b₂) : InStep b₁ b₂ b₁ b₂ :=
  ⟨h, 0, Nat.zero_le _, b₁.advanceBy_zero.symm, b₂.advanceBy_zero.symm⟩

/-- What the lines say is left for both, and they stay in step inside it. -/
theorem exists_line (h : InStep b₁ b₂ c₁ c₂) :
    ∃ line tail₁ tail₂, c₁.ahead = line ++ tail₁ ∧ c₂.ahead = line ++ tail₂ ∧
      (∀ ch ∈ tail₁.head?, notBreak ch = false) ∧ (∀ ch ∈ tail₂.head?, notBreak ch = false) ∧
      ∀ n ≤ line.length, InStep b₁ b₂ (c₁.advanceBy n) (c₂.advanceBy n) := by
  obtain ⟨hsaid, n, hn, rfl, rfl⟩ := h
  obtain ⟨tail₁, hahead₁, htail₁⟩ := ahead_eq_said b₁
  obtain ⟨tail₂, hahead₂, htail₂⟩ := ahead_eq_said b₂
  refine ⟨(saidAhead b₁).drop n, tail₁, tail₂, ?_, ?_, htail₁, htail₂, fun m hm => ?_⟩
  · rw [Cursor.ahead_advanceBy, hahead₁, List.drop_append_of_le_length hn]
  · rw [Cursor.ahead_advanceBy, hahead₂, ← hsaid, List.drop_append_of_le_length hn]
  · rw [List.length_drop] at hm
    refine ⟨hsaid, n + m, by omega, ?_, ?_⟩
    · rw [Cursor.advanceBy_advanceBy]
    · rw [Cursor.advanceBy_advanceBy]

/-- Both find the same characters of a class ahead, and pass them. -/
theorem skipWhile (h : InStep b₁ b₂ c₁ c₂) {p : Char → Bool}
    (hp : ∀ ch, p ch = true → notBreak ch = true) :
    c₁.ahead.takeWhile p = c₂.ahead.takeWhile p ∧
      InStep b₁ b₂ (c₁.skipWhile p) (c₂.skipWhile p) := by
  obtain ⟨line, tail₁, tail₂, hahead₁, hahead₂, htail₁, htail₂, hstep⟩ := h.exists_line
  -- Behind the line stands a line break or nothing, and no line break is of the class.
  have htake₁ : c₁.ahead.takeWhile p = line.takeWhile p := by
    rw [hahead₁, takeWhile_append_break hp htail₁]
  have htake₂ : c₂.ahead.takeWhile p = line.takeWhile p := by
    rw [hahead₂, takeWhile_append_break hp htail₂]
  refine ⟨htake₁.trans htake₂.symm, ?_⟩
  unfold Cursor.skipWhile
  rw [htake₁, htake₂]
  exact hstep _ (List.takeWhile_sublist p).length_le

/-- Both find the same keyword ahead. -/
theorem continues_eq (h : InStep b₁ b₂ c₁ c₂) {keyword : String}
    (hkeyword : ∀ ch ∈ keyword.toList, notBreak ch = true) :
    c₁.continues keyword = c₂.continues keyword := by
  obtain ⟨line, tail₁, tail₂, hahead₁, hahead₂, htail₁, htail₂, -⟩ := h.exists_line
  rw [Cursor.continues, Cursor.continues, hahead₁, hahead₂, isPrefixOf_append_break hkeyword htail₁,
    isPrefixOf_append_break hkeyword htail₂]

/-- A keyword that the one passes the other passes, too. -/
theorem of_skip? (h : InStep b₁ b₂ c₁ c₂) {keyword : String}
    (hkeyword : ∀ ch ∈ keyword.toList, notBreak ch = true) (hskip : c₁.skip? keyword = some d₁) :
    ∃ d₂, c₂.skip? keyword = some d₂ ∧ InStep b₁ b₂ d₁ d₂ := by
  obtain ⟨line, tail₁, tail₂, hahead₁, hahead₂, htail₁, htail₂, hstep⟩ := h.exists_line
  have hnext := Cursor.continues_of_skip? hskip
  have hprefix : keyword.toList <+: line := by
    rw [Cursor.continues, hahead₁, isPrefixOf_append_break hkeyword htail₁] at hnext
    exact List.isPrefixOf_iff_prefix.1 hnext
  refine ⟨c₂.advanceBy keyword.toList.length, ?_, ?_⟩
  · rw [Cursor.skip?, ← h.continues_eq hkeyword, if_pos hnext]
  · rw [Cursor.skip?, if_pos hnext] at hskip
    rw [← Option.some.inj hskip]
    exact hstep _ hprefix.length_le

theorem of_skip?_none (h : InStep b₁ b₂ c₁ c₂) {keyword : String}
    (hkeyword : ∀ ch ∈ keyword.toList, notBreak ch = true) (hskip : c₁.skip? keyword = none) :
    c₂.skip? keyword = none := by
  rw [← Option.not_isSome_iff_eq_none, Cursor.isSome_skip?, ← h.continues_eq hkeyword,
    Cursor.not_continues_of_skip? hskip]
  exact Bool.false_ne_true

/-- For both a directive may end here, or for none. -/
theorem atLineEnd_eq (h : InStep b₁ b₂ c₁ c₂) : atLineEnd c₁ = atLineEnd c₂ := by
  obtain ⟨line, tail₁, tail₂, hahead₁, hahead₂, htail₁, htail₂, -⟩ := h.exists_line
  rw [Bool.eq_iff_iff, atLineEnd_iff, atLineEnd_iff, hahead₁, hahead₂]
  cases line with
  | nil => exact iff_of_true htail₁ htail₂
  | cons ch line => simp

end InStep

/-- Two cursors are in step, or both at the ends of the lines. -/
inductive Abreast (b₁ b₂ : Cursor) : Cursor → Cursor → Prop
  | inStep {c₁ c₂ : Cursor} : InStep b₁ b₂ c₁ c₂ → Abreast b₁ b₂ c₁ c₂
  | atEnds : saidAhead b₁ = saidAhead b₂ →
      Abreast b₁ b₂ (b₁.skipWhile notLineFeed) (b₂.skipWhile notLineFeed)

/-- Behind the first characters of a class, the others of them are ahead. -/
theorem takeWhile_drop {p : Char → Bool} {text : List Char} {n : Nat}
    (hn : n ≤ (text.takeWhile p).length) :
    (text.drop n).takeWhile p = (text.takeWhile p).drop n := by
  have hsplit := text.takeWhile_append_dropWhile (p := p)
  have hfront : ∀ ch ∈ (text.takeWhile p).drop n, p ch = true :=
    fun ch hch => List.mem_takeWhile_imp (List.mem_of_mem_drop hch)
  conv => lhs; rw [← hsplit, List.drop_append_of_le_length hn]
  exact (takeWhile_dropWhile_append hfront (head?_dropWhile p text)).1

/-- What is passed for as long as the characters satisfy `p` may be passed in two steps. -/
theorem skipWhile_advanceBy {c : Cursor} {p : Char → Bool} {n : Nat}
    (hn : n ≤ (c.ahead.takeWhile p).length) : (c.advanceBy n).skipWhile p = c.skipWhile p := by
  unfold Cursor.skipWhile
  rw [Cursor.ahead_advanceBy, takeWhile_drop hn, List.length_drop, Cursor.advanceBy_advanceBy,
    Nat.add_sub_cancel' hn]

/-- What a line says is no longer than the line. -/
theorem le_length_line {b : Cursor} {n : Nat} (hn : n ≤ (saidAhead b).length) :
    n ≤ (b.ahead.takeWhile notLineFeed).length := by
  obtain ⟨cr, hcr, -⟩ := exists_trimReturn_append (b.ahead.takeWhile notLineFeed)
  rw [hcr, List.length_append]
  exact Nat.le_add_right_of_le hn

/-- Inside a line, the rest of what it says is ahead. -/
theorem saidAhead_advanceBy {b : Cursor} {n : Nat} (hn : n ≤ (saidAhead b).length) :
    saidAhead (b.advanceBy n) = (saidAhead b).drop n := by
  obtain ⟨cr, hcr, -⟩ := exists_trimReturn_append (b.ahead.takeWhile notLineFeed)
  have hline : (b.ahead.takeWhile notLineFeed).drop n = (saidAhead b).drop n ++ cr := by
    conv => lhs; rw [hcr]
    exact List.drop_append_of_le_length hn
  have hsplit : b.ahead.takeWhile notLineFeed =
      (saidAhead b).take n ++ ((saidAhead b).drop n ++ cr) := by
    rw [← List.append_assoc, List.take_append_drop]
    exact hcr
  rw [saidAhead, Cursor.ahead_advanceBy, takeWhile_drop (le_length_line hn), hline]
  by_cases hnil : (saidAhead b).drop n ++ cr = []
  · rw [hnil, (List.append_eq_nil_iff.1 hnil).1]
    rfl
  · -- The carriage return is the same one, seen from the start of the line or from here.
    have htrim := trimReturn_append ((saidAhead b).take n) hnil
    rw [← hsplit] at htrim
    have hsaid : (saidAhead b).take n ++ (saidAhead b).drop n =
        (saidAhead b).take n ++ trimReturn ((saidAhead b).drop n ++ cr) := by
      rw [List.take_append_drop]
      exact htrim
    exact (List.append_cancel_left hsaid).symm

theorem InStep.saidAhead_eq (h : InStep b₁ b₂ c₁ c₂) : saidAhead c₁ = saidAhead c₂ := by
  obtain ⟨hsaid, n, hn, rfl, rfl⟩ := h
  rw [saidAhead_advanceBy hn, saidAhead_advanceBy (hsaid ▸ hn), hsaid]

/-- The end of a line is the same from anywhere in it. -/
theorem InStep.skipWhile_notLineFeed (h : InStep b₁ b₂ c₁ c₂) :
    c₁.skipWhile notLineFeed = b₁.skipWhile notLineFeed ∧
      c₂.skipWhile notLineFeed = b₂.skipWhile notLineFeed := by
  obtain ⟨hsaid, n, hn, rfl, rfl⟩ := h
  exact ⟨skipWhile_advanceBy (le_length_line hn), skipWhile_advanceBy (le_length_line (hsaid ▸ hn))⟩

/-! ### Results that are alike -/

variable {α β : Type}

/-- Faults of one cause, from as far in the one line as in the other and up to as far. -/
inductive FaultsAlike (b₁ b₂ : Cursor) : Fault → Fault → Prop
  | mk (cause : Cause) {s₁ s₂ e₁ e₂ : Cursor} : Abreast b₁ b₂ s₁ s₂ → Abreast b₁ b₂ e₁ e₂ →
      s₁.pos ≤ e₁.pos → FaultsAlike b₁ b₂ ⟨cause, s₁.pos, e₁.pos⟩ ⟨cause, s₂.pos, e₂.pos⟩

/-- Results that are related, or faults that are alike. -/
inductive ReadAlike (b₁ b₂ : Cursor) (R : α → α → Prop) : Except Fault α → Except Fault α → Prop
  | ok {x y : α} : R x y → ReadAlike b₁ b₂ R (.ok x) (.ok y)
  | error {f g : Fault} : FaultsAlike b₁ b₂ f g → ReadAlike b₁ b₂ R (.error f) (.error g)

namespace ReadAlike

variable {R : α → α → Prop} {S : β → β → Prop} {x y : Except Fault α}

/-- **Sequence.** What goes on alike behind results that are related is read alike. -/
theorem bind {f g : α → Except Fault β} (h : ReadAlike b₁ b₂ R x y)
    (hfg : ∀ a b, R a b → ReadAlike b₁ b₂ S (f a) (g b)) :
    ReadAlike b₁ b₂ S (x >>= f) (y >>= g) := by
  cases h with
  | ok hR => exact hfg _ _ hR
  | error hfault => exact .error hfault

theorem imp {S : α → α → Prop} (h : ReadAlike b₁ b₂ R x y) (hRS : ∀ a b, R a b → S a b) :
    ReadAlike b₁ b₂ S x y := by
  cases h with
  | ok hR => exact .ok (hRS _ _ hR)
  | error hfault => exact .error hfault

theorem exists_error {f : Fault} (h : ReadAlike b₁ b₂ R (.error f) y) :
    ∃ g, y = .error g ∧ FaultsAlike b₁ b₂ f g := by
  cases h with
  | error hfault => exact ⟨_, rfl, hfault⟩

theorem map {f g : α → β} (h : ReadAlike b₁ b₂ R x y) (hfg : ∀ a b, R a b → S (f a) (g b)) :
    ReadAlike b₁ b₂ S (x.map f) (y.map g) := by
  cases h with
  | ok hR => exact .ok (hfg _ _ hR)
  | error hfault => exact .error hfault

end ReadAlike

/-- One value, and two cursors in step. -/
def SameInStep (b₁ b₂ : Cursor) (x y : α × Cursor) : Prop := x.1 = y.1 ∧ InStep b₁ b₂ x.2 y.2

/-- One value, and two cursors in step or at the ends of the lines. -/
def SameAbreast (b₁ b₂ : Cursor) (x y : α × Cursor) : Prop := x.1 = y.1 ∧ Abreast b₁ b₂ x.2 y.2

/-- Faults at cursors in step are alike. -/
theorem InStep.faultAt (h : InStep b₁ b₂ c₁ c₂) (cause : Cause) :
    FaultsAlike b₁ b₂ (faultAt cause c₁) (faultAt cause c₂) :=
  .mk cause (.inStep h) (.inStep h) (Nat.le_refl _)

/-! ### Parts of a statement -/

theorem integer_alike (h : InStep b₁ b₂ c₁ c₂) :
    ReadAlike b₁ b₂ (SameInStep b₁ b₂) (integer c₁) (integer c₂) := by
  have hkeyword : ∀ ch ∈ "-".toList, notBreak ch = true := List.all_eq_true.1 (by decide)
  -- Both pass a minus, or none of them does.
  have hstart : InStep b₁ b₂ ((c₁.skip? "-").getD c₁) ((c₂.skip? "-").getD c₂) ∧
      c₁.pos ≤ ((c₁.skip? "-").getD c₁).pos := by
    cases hskip : c₁.skip? "-" with
    | none =>
      rw [h.of_skip?_none hkeyword hskip]
      exact ⟨h, Nat.le_refl _⟩
    | some d₁ =>
      obtain ⟨d₂, hskip₂, hstep⟩ := h.of_skip? hkeyword hskip
      rw [hskip₂]
      exact ⟨hstep, Cursor.pos_le_of_skip? hskip⟩
  obtain ⟨hdigits, hrest⟩ := hstart.1.skipWhile (p := Char.isDigit) fun ch => notBreak_of_isDigit
  have hle := Nat.le_trans hstart.2 (Cursor.pos_le_skipWhile _ Char.isDigit)
  unfold integer
  dsimp only
  rw [h.continues_eq hkeyword, hdigits]
  split
  · exact .ok ⟨rfl, hrest⟩
  · exact .error (.mk _ (.inStep h) (.inStep hrest) hle)

theorem argument_alike (draft : Draft) {s₁ s₂ : Cursor} (word : String)
    (hs : InStep b₁ b₂ s₁ s₂) (h : InStep b₁ b₂ c₁ c₂) (hle : s₁.pos ≤ c₁.pos) :
    ReadAlike b₁ b₂ (SameInStep b₁ b₂) (argument draft s₁.pos word c₁)
      (argument draft s₂.pos word c₂) := by
  -- A number is put into the draft, whatever it is for.
  have hnumber : ∀ set : OrderKey → Draft, ReadAlike b₁ b₂ (SameInStep b₁ b₂)
      ((integer c₁).map fun x => (set x.1, x.2)) ((integer c₂).map fun x => (set x.1, x.2)) :=
    fun set => (integer_alike h).map fun _ _ hsame => ⟨congrArg set hsame.1, hsame.2⟩
  unfold argument
  split
  · exact hnumber fun key => { draft with order := key }
  · exact .ok ⟨rfl, h⟩
  · split
    · exact .error (.mk _ (.inStep hs) (.inStep h) hle)
    · exact hnumber fun key => { draft with set := RuleSet.startingAt key, order := key }
  · exact .error (.mk _ (.inStep hs) (.inStep h) hle)

theorem directive_alike (draft : Draft) {s₁ s₂ : Cursor} (hs : InStep b₁ b₂ s₁ s₂)
    (h : InStep b₁ b₂ c₁ c₂) (hle : s₁.pos ≤ c₁.pos) :
    ReadAlike b₁ b₂ (SameInStep b₁ b₂) (directive draft s₁.pos c₁)
      (directive draft s₂.pos c₂) := by
  obtain ⟨htext, hword⟩ := h.skipWhile (p := isWordChar) fun ch => notBreak_of_isWordChar
  obtain ⟨-, hblank⟩ := hword.skipWhile (p := isBlank) fun ch => notBreak_of_isBlank
  have hsame : wordAhead c₁ = wordAhead c₂ := by rw [wordAhead, wordAhead, htext]
  have hbehind : s₁.pos ≤ ((c₁.skipWhile isWordChar).skipWhile isBlank).pos :=
    Nat.le_trans hle (Nat.le_trans (c₁.pos_le_skipWhile _) (Cursor.pos_le_skipWhile _ _))
  unfold directive
  dsimp only
  rw [hsame]
  split
  · exact .error (h.faultAt _)
  · refine (argument_alike draft _ hs hblank hbehind).bind fun x y hsame => ?_
    obtain ⟨hdraft, hstep⟩ := hsame
    obtain ⟨-, hend⟩ := hstep.skipWhile (p := isBlank) fun ch => notBreak_of_isBlank
    rw [hend.atLineEnd_eq]
    split
    · exact .ok ⟨hdraft, hend⟩
    · exact .error (hend.faultAt _)

/-- Words with the same texts, from as far in the one line as in the other. None starts behind byte
    position `stop` of the first text. -/
def WordsAlike (b₁ b₂ : Cursor) (stop : Nat) : List Word → List Word → Prop :=
  List.Forall₂ fun w₁ w₂ => w₁.text = w₂.text ∧
    ∃ s₁ s₂, InStep b₁ b₂ s₁ s₂ ∧ w₁.start = s₁.pos ∧ w₂.start = s₂.pos ∧ s₁.pos ≤ stop

theorem WordsAlike.mono {ws₁ ws₂ : List Word} {stop stop' : Nat}
    (h : WordsAlike b₁ b₂ stop ws₁ ws₂) (hle : stop ≤ stop') : WordsAlike b₁ b₂ stop' ws₁ ws₂ := by
  refine List.Forall₂.imp (fun w₁ w₂ hw => ?_) h
  obtain ⟨htext, s₁, s₂, hs, h₁, h₂, hstop⟩ := hw
  exact ⟨htext, s₁, s₂, hs, h₁, h₂, Nat.le_trans hstop hle⟩

/-- Where `::=` is next, there are no more words. -/
theorem words_of_skip? {found : List Word} {c rest : Cursor}
    (h : (c.skipWhile isBlank).skip? "::=" = some rest) : words found c = .ok (found, rest) := by
  rw [words]
  simp only [h]

/-- Where neither `::=` nor a word is next, the words end too early. -/
theorem words_of_nil {found : List Word} {c : Cursor}
    (h : (c.skipWhile isBlank).skip? "::=" = none)
    (hword : (c.skipWhile isBlank).ahead.takeWhile isWordChar = []) :
    words found c = .error (faultAt
      (if found.isEmpty then .expectedIdentifier else .expectedDefinition)
      (c.skipWhile isBlank)) := by
  rw [words]
  simp only [h, hword]
  rfl

/-- A word that is next is one of them. -/
theorem words_of_word {found : List Word} {c : Cursor}
    (h : (c.skipWhile isBlank).skip? "::=" = none)
    (hword : (c.skipWhile isBlank).ahead.takeWhile isWordChar ≠ []) :
    words found c =
      words (⟨wordAhead (c.skipWhile isBlank), (c.skipWhile isBlank).pos⟩ :: found)
        ((c.skipWhile isBlank).skipWhile isWordChar) := by
  have hlength : ((c.skipWhile isBlank).ahead.takeWhile isWordChar).length ≠ 0 := by
    simpa using hword
  conv => lhs; rw [words]
  simp only [h]
  rw [if_neg hlength]
  rfl

theorem words_alike {found₁ found₂ : List Word} (h : InStep b₁ b₂ c₁ c₂)
    (hfound : WordsAlike b₁ b₂ c₁.pos found₁ found₂) :
    ReadAlike b₁ b₂ (fun x y => InStep b₁ b₂ x.2 y.2 ∧ WordsAlike b₁ b₂ x.2.pos x.1 y.1)
      (words found₁ c₁) (words found₂ c₂) := by
  -- Induction along the words: each is passed by both, and behind it they are in step again.
  fun_induction words found₁ c₁ generalizing c₂ found₂ with
  | case1 found₁ c₁ d₁ rest =>
    rename_i hskip
    obtain ⟨-, hblank⟩ := h.skipWhile (p := isBlank) fun ch => notBreak_of_isBlank
    obtain ⟨rest₂, hskip₂, hstep⟩ := hblank.of_skip? (List.all_eq_true.1 (by decide)) hskip
    rw [words_of_skip? hskip₂]
    refine .ok ⟨hstep, hfound.mono ?_⟩
    exact Nat.le_trans (c₁.pos_le_skipWhile _) (Cursor.pos_le_of_skip? hskip)
  | case2 found₁ c₁ d₁ hskip =>
    rename_i hlength
    obtain ⟨-, hblank⟩ := h.skipWhile (p := isBlank) fun ch => notBreak_of_isBlank
    obtain ⟨htext, -⟩ := hblank.skipWhile (p := isWordChar) fun ch => notBreak_of_isWordChar
    have hskip₂ := hblank.of_skip?_none (List.all_eq_true.1 (by decide)) hskip
    have hempty : found₁.isEmpty = found₂.isEmpty := by
      cases hfound <;> rfl
    rw [words_of_nil hskip₂ (htext ▸ List.length_eq_zero_iff.1 hlength), hempty]
    exact .error (hblank.faultAt _)
  | case3 found₁ c₁ d₁ hskip =>
    rename_i hlength ih
    obtain ⟨-, hblank⟩ := h.skipWhile (p := isBlank) fun ch => notBreak_of_isBlank
    obtain ⟨htext, hword⟩ := hblank.skipWhile (p := isWordChar) fun ch => notBreak_of_isWordChar
    have hskip₂ := hblank.of_skip?_none (List.all_eq_true.1 (by decide)) hskip
    have hne : (c₂.skipWhile isBlank).ahead.takeWhile isWordChar ≠ [] := by
      rw [← htext]
      exact fun hnil => hlength (List.length_eq_zero_iff.2 hnil)
    rw [words_of_word hskip₂ hne]
    refine ih hword (.cons ⟨?_, _, _, hblank, rfl, rfl, ?_⟩ (hfound.mono ?_))
    · rw [wordAhead, wordAhead, htext]
    · exact Cursor.pos_le_skipWhile _ _
    · exact Nat.le_trans (c₁.pos_le_skipWhile _) (Cursor.pos_le_skipWhile _ _)

/-- The modifiers are added up alike, and a fault runs from its word up to as far in both lines. -/
theorem modifiers_alike {ws₁ ws₂ : List Word} (h : InStep b₁ b₂ c₁ c₂)
    (hwords : WordsAlike b₁ b₂ c₁.pos ws₁ ws₂) (m : Modifiers) :
    ReadAlike b₁ b₂ Eq (ws₁.foldlM (Modifiers.add c₁.pos) m)
      (ws₂.foldlM (Modifiers.add c₂.pos) m) := by
  have hadd : ∀ (m : Modifiers) {w₁ w₂ : Word} {s₁ s₂ : Cursor}, w₁.text = w₂.text →
      InStep b₁ b₂ s₁ s₂ → w₁.start = s₁.pos → w₂.start = s₂.pos → s₁.pos ≤ c₁.pos →
      ReadAlike b₁ b₂ Eq (m.add c₁.pos w₁) (m.add c₂.pos w₂) := by
    intro m w₁ w₂ s₁ s₂ htext hs hstart₁ hstart₂ hle
    have hfault : ∀ cause, FaultsAlike b₁ b₂ ⟨cause, w₁.start, c₁.pos⟩ ⟨cause, w₂.start, c₂.pos⟩ := by
      intro cause
      rw [hstart₁, hstart₂]
      exact .mk cause (.inStep hs) (.inStep h) hle
    unfold Modifiers.add
    rw [htext]
    split
    · split
      · exact .error (hfault _)
      · exact .ok rfl
    · split
      · exact .error (hfault _)
      · split
        · exact .ok rfl
        · exact .error (hfault _)
  induction hwords generalizing m with
  | nil => exact .ok rfl
  | @cons w₁ w₂ ws₁ ws₂ hw _ ih =>
    obtain ⟨htext, s₁, s₂, hs, hstart₁, hstart₂, hle⟩ := hw
    rw [List.foldlM_cons, List.foldlM_cons]
    refine (hadd m htext hs hstart₁ hstart₂ hle).bind ?_
    rintro next _ rfl
    exact ih next

theorem pattern_alike (m : Modifiers) (name : String) (h : InStep b₁ b₂ c₁ c₂) :
    ReadAlike b₁ b₂ (fun x y => x.1 = y.1 ∧ x.2 = b₁.skipWhile notLineFeed ∧
      y.2 = b₂.skipWhile notLineFeed) (pattern m name c₁) (pattern m name c₂) := by
  obtain ⟨hend₁, hend₂⟩ := h.skipWhile_notLineFeed
  have hends : Abreast b₁ b₂ (c₁.skipWhile notLineFeed) (c₂.skipWhile notLineFeed) := by
    rw [hend₁, hend₂]
    exact .atEnds h.said_eq
  have hsaid : trimReturn (c₁.ahead.takeWhile notLineFeed) =
      trimReturn (c₂.ahead.takeWhile notLineFeed) := h.saidAhead_eq
  unfold pattern
  rw [hsaid]
  dsimp only
  split
  · exact .error (.mk _ hends hends (Nat.le_refl _))
  · split
    · exact .ok ⟨rfl, hend₁, hend₂⟩
    · exact .error (.mk _ (.inStep h) hends (c₁.pos_le_skipWhile _))

/-- Rules are read and inserted alike. -/
theorem rule_alike (draft : Draft) (h : saidAhead b₁ = saidAhead b₂) :
    ReadAlike b₁ b₂ (SameAbreast b₁ b₂) (rule draft b₁) (rule draft b₂) := by
  unfold rule
  refine (words_alike (.refl h) .nil).bind ?_
  rintro ⟨ws₁, rest₁⟩ ⟨ws₂, rest₂⟩ ⟨hstep, hwords⟩
  cases hwords with
  | nil => exact .error (hstep.faultAt _)
  | @cons name₁ name₂ modifiers₁ modifiers₂ hname hmodifiers =>
    -- The last word read is the name, and those before it are the modifiers in reverse.
    obtain ⟨-, hblank⟩ := hstep.skipWhile (p := isBlank) fun ch => notBreak_of_isBlank
    refine (modifiers_alike hstep (List.rel_reverse hmodifiers) {}).bind ?_
    rintro m _ rfl
    show ReadAlike b₁ b₂ _ (pattern m name₁.text _ >>= _) (pattern m name₂.text _ >>= _)
    rw [hname.1]
    refine (pattern_alike m name₂.text hblank).bind ?_
    rintro ⟨r, end₁⟩ ⟨_, end₂⟩ ⟨hr, hend₁, hend₂⟩
    obtain rfl : r = _ := hr
    obtain rfl : end₁ = _ := hend₁
    obtain rfl : end₂ = _ := hend₂
    dsimp only
    split
    · exact .ok ⟨rfl, .atEnds h⟩
    · exact .error (.mk _ (.inStep (.refl h)) (.atEnds h) (b₁.pos_le_skipWhile _))

/-- **Statement.** In lines that say the same, statements do the same to a draft and pass as much,
    or they are refused for one cause between as much. -/
theorem statement_alike (draft : Draft) (h : saidAhead b₁ = saidAhead b₂) :
    ReadAlike b₁ b₂ (SameAbreast b₁ b₂) (statement draft b₁) (statement draft b₂) := by
  have hkeyword : ∀ ch ∈ "@".toList, notBreak ch = true := List.all_eq_true.1 (by decide)
  unfold statement
  cases hskip : b₁.skip? "@" with
  | none =>
    rw [(InStep.refl h).of_skip?_none hkeyword hskip]
    exact rule_alike draft h
  | some c₁ =>
    obtain ⟨c₂, hskip₂, hstep⟩ := (InStep.refl h).of_skip? hkeyword hskip
    have hle := Cursor.pos_le_of_skip? hskip
    rw [hskip₂]
    exact (directive_alike draft (.refl h) hstep hle).imp fun _ _ hsame =>
      ⟨hsame.1, .inStep hsame.2⟩

end RuleFile.Plain
end OrderedLexer
