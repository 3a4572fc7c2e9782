import OrderedLexer.Proofs.RuleFile.Plain.Runs

namespace OrderedLexer.RuleFile.Plain

/-!
# Reading step by step

The reader as a machine. Its states are the heads of its loops; a step is a pass of a loop over
characters, or what comes between two loops. Whatever the state, it is settled what the reading will
come to, and no step changes that. So the machine stops with what `read` tells.

* `Scan`, `State`, `State.next` — the loops and the steps;
* `State.outcome` — what the reading comes to from a state on;
* `outcome_leave`, `outcome_next` — no step changes it.
-/

/-! ### Loops -/

/-- The loops that pass one character at a time, with what has to be known when they are left. -/
inductive Scan where
  /-- A comment, up to the end of its line. -/
  | comment
  /-- The word of a directive, whose `@` stands at byte position `start`. -/
  | directiveWord (start : Nat)
  /-- The blanks behind the word of a directive. -/
  | argumentBlanks (start : Nat) (word : String)
  /-- The digits of a key that is to be the floor, too, or only the order of the rules that follow.
      Number and minus start at byte position `first`. -/
  | digits (floor : Bool) (first : Nat) (negative : Bool)
  /-- The blanks at the end of a directive, and the draft behind it. -/
  | endBlanks (next : Draft)
  /-- The blanks before a word of a rule, which starts at byte position `start`. -/
  | wordBlanks (start : Nat) (found : List Word)
  /-- A word of a rule, from byte position `first` on. -/
  | ruleWord (start : Nat) (found : List Word) (first : Nat)
  /-- The blanks before a pattern. -/
  | patternBlanks (start : Nat) (m : Modifiers) (name : String)
  /-- A pattern, from byte position `first` on. -/
  | pattern (start : Nat) (m : Modifiers) (name : String) (first : Nat)

/-- The characters that a loop passes. -/
def Scan.passes : Scan → Char → Bool
  | .comment | .pattern .. => notLineFeed
  | .directiveWord _ | .ruleWord .. => isWordChar
  | .digits .. => Char.isDigit
  | .argumentBlanks .. | .endBlanks _ | .wordBlanks .. | .patternBlanks .. => isBlank

/-- Where the reader is. -/
inductive State where
  /-- At the head of the loop over what comes before a statement. -/
  | blankLines (draft : Draft) (c : Cursor)
  /-- At the head of the loop over statements. -/
  | statements (draft : Draft) (c : Cursor)
  /-- At the head of the loop over the words of a rule. -/
  | words (start : Nat) (found : List Word) (draft : Draft) (c : Cursor)
  /-- At the head of a loop over characters, some of which are passed, the last one first. -/
  | scan (s : Scan) (passed : List Char) (draft : Draft) (c : Cursor)
  /-- At the end of the reading, with a fault if there is one. -/
  | stopped (draft : Draft) (fault? : Option Fault) (c : Cursor)

namespace State

def cursor : State → Cursor
  | .blankLines _ c | .statements _ c | .words _ _ _ c | .scan _ _ _ c | .stopped _ _ c => c

/-! ### Steps -/

/-- Go on with a result, or stop at its fault. -/
def proceed {α : Type} (draft : Draft) (c : Cursor) (go : α → State) : Except Fault α → State
  | .ok a => go a
  | .error fault => .stopped draft (some fault) c

/-- Start to read a number. -/
def startNumber (floor : Bool) (draft : Draft) (c : Cursor) : State :=
  match c.skip? "-" with
  | some rest => .scan (.digits floor c.pos true) [] draft rest
  | none => .scan (.digits floor c.pos false) [] draft c

end State

/-- The key told by some digits. -/
def key? (negative : Bool) (digits : List Char) : Option OrderKey :=
  let size : Int := digits.foldl (fun n d => n * 10 + (d.toNat - 48)) (0 : Nat)
  if digits.isEmpty then none else OrderKey.ofInt? (if negative then -size else size)

/-- The key told by the digits between byte positions, or a fault there. -/
def keyOf (first stop : Nat) (negative : Bool) (digits : List Char) : Except Fault OrderKey :=
  match key? negative digits with
  | some key => .ok key
  | none => .error ⟨.expectedInteger, first, stop⟩

/-- The draft behind a directive with a key. -/
def withKey (floor : Bool) (draft : Draft) (key : OrderKey) : Draft :=
  if floor then { draft with set := RuleSet.startingAt key, order := key }
  else { draft with order := key }

/-- The name of a rule and its modifiers, from the words before `::=`, the last one first. -/
def nameAndModifiers (rest : Cursor) : List Word → Except Fault (String × Modifiers)
  | [] => .error (faultAt .expectedIdentifier rest)
  | name :: modifiers =>
    (modifiers.reverse.foldlM (Modifiers.add rest.pos) {}).map fun m => (name.text, m)

/-- The rule with a pattern that stands between byte positions. -/
def ruleOf (m : Modifiers) (name : String) (first : Nat) (line : List Char) (rest : Cursor) :
    Except Fault Rule :=
  let text := trimReturn line
  if text.isEmpty then .error (faultAt .expectedPattern rest)
  else match Rule.ofPattern (String.ofList text) (m.priority.getD .natural) (!m.ignore)
      (some name) with
    | .ok rule => .ok rule
    | .error e => .error ⟨.invalidPattern e, first, rest.pos⟩

/-- The draft with a rule inserted. -/
def withRule (start : Nat) (draft : Draft) (rest : Cursor) (rule : Rule) : Except Fault Draft :=
  match draft.set.insert? draft.order rule with
  | .ok set => .ok { draft with set, inserted := (draft.order, rule) :: draft.inserted }
  | .error e => .error ⟨.invalidOrder e, start, rest.pos⟩

/-- What comes when a loop is left: `text` is what it has passed. -/
def Scan.leave (text : List Char) (draft : Draft) (c : Cursor) : Scan → State
  | .comment => .blankLines draft c
  | .directiveWord start =>
    if text.isEmpty then .stopped draft (some (faultAt .expectedIdentifier c)) c
    else .scan (.argumentBlanks start (String.ofList text)) [] draft c
  | .argumentBlanks start word =>
    match word with
    | "order" => .startNumber false draft c
    | "next" => .scan (.endBlanks { draft with order := draft.order.next }) [] draft c
    | "start" =>
      if !draft.set.isEmpty then .stopped draft (some ⟨.startAfterRule, start, c.pos⟩) c
      else .startNumber true draft c
    | word => .stopped draft (some ⟨.unknownDirective word, start, c.pos⟩) c
  | .digits floor first negative =>
    .proceed draft c (fun key => .scan (.endBlanks (withKey floor draft key)) [] draft c)
      (keyOf first c.pos negative text)
  | .endBlanks next =>
    if atLineEnd c then .blankLines next c
    else .stopped draft (some (faultAt .expectedLineEnd c)) c
  | .wordBlanks start found =>
    match c.skip? "::=" with
    | some rest =>
      .proceed draft rest (fun (name, m) => .scan (.patternBlanks start m name) [] draft rest)
        (nameAndModifiers rest found)
    | none => .scan (.ruleWord start found c.pos) [] draft c
  | .ruleWord start found first =>
    if text.isEmpty then
      .stopped draft
        (some (faultAt (if found.isEmpty then .expectedIdentifier else .expectedDefinition) c)) c
    else .words start (⟨String.ofList text, first⟩ :: found) draft c
  | .patternBlanks start m name => .scan (.pattern start m name c.pos) [] draft c
  | .pattern start m name first =>
    .proceed draft c (fun next => .blankLines next c)
      (ruleOf m name first text c >>= withRule start draft c)

/-- One step of the reader. -/
def State.next : State → State
  | .blankLines draft c =>
    match c.get? with
    | some ch =>
      if ch = '#' then .scan .comment [] draft c
      else if Unicode.isWhitespace ch then .blankLines draft c.advance
      else .statements draft c
    | none => .statements draft c
  | .statements draft c =>
    if c.isExhausted then .stopped draft none c
    else match c.skip? "@" with
      | some rest => .scan (.directiveWord c.pos) [] draft rest
      | none => .words c.pos [] draft c
  | .words start found draft c => .scan (.wordBlanks start found) [] draft c
  | .scan s passed draft c =>
    match c.get? with
    | some ch =>
      if s.passes ch then .scan s (ch :: passed) draft c.advance else s.leave passed.reverse draft c
    | none => s.leave passed.reverse draft c
  | .stopped draft fault? c => .stopped draft fault? c

/-! ### Outcomes -/

/-- What the reading comes to from a result on. -/
def resume {α : Type} (draft : Draft) (go : α → Draft × Option Fault) :
    Except Fault α → Draft × Option Fault
  | .ok a => go a
  | .error fault => (draft, some fault)

/-- What the reading comes to from the end of a directive on. -/
def outcomeAtEnd (draft next : Draft) (c : Cursor) : Draft × Option Fault :=
  if atLineEnd c then Plain.statements next c else (draft, some (faultAt .expectedLineEnd c))

/-- What the reading comes to from the pattern of a rule on. -/
def outcomeAtPattern (start : Nat) (m : Modifiers) (name : String) (draft : Draft) (c : Cursor) :
    Draft × Option Fault :=
  resume draft (fun (rule, rest) =>
    resume draft (fun next => Plain.statements next rest) (withRule start draft rest rule))
    (pattern m name c)

/-- What the reading comes to behind the words of a rule. -/
def outcomeBehindWords (start : Nat) (draft : Draft) :
    Except Fault (List Word × Cursor) → Draft × Option Fault :=
  resume draft fun (found, rest) =>
    resume draft (fun (name, m) =>
      outcomeAtPattern start m name draft (rest.skipWhile isBlank)) (nameAndModifiers rest found)

/-- What is read of the words of a rule from a word on, which may be missing. -/
def wordsFrom (found : List Word) (first : Nat) (word : List Char) (rest : Cursor) :
    Except Fault (List Word × Cursor) :=
  if word.isEmpty then
    .error (faultAt (if found.isEmpty then .expectedIdentifier else .expectedDefinition) rest)
  else Plain.words (⟨String.ofList word, first⟩ :: found) rest

/-- What the reading comes to when a loop is left. -/
def Scan.outcome (text : List Char) (draft : Draft) (c : Cursor) : Scan → Draft × Option Fault
  | .comment => Plain.statements draft c
  | .directiveWord start =>
    if text.isEmpty then (draft, some (faultAt .expectedIdentifier c))
    else resume draft (fun (next, rest) => outcomeAtEnd draft next (rest.skipWhile isBlank))
      (argument draft start (String.ofList text) (c.skipWhile isBlank))
  | .argumentBlanks start word =>
    resume draft (fun (next, rest) => outcomeAtEnd draft next (rest.skipWhile isBlank))
      (argument draft start word c)
  | .digits floor first negative =>
    resume draft (fun key =>
      outcomeAtEnd draft (withKey floor draft key) (c.skipWhile isBlank))
      (keyOf first c.pos negative text)
  | .endBlanks next => outcomeAtEnd draft next c
  | .wordBlanks start found =>
    outcomeBehindWords start draft <| match c.skip? "::=" with
      | some rest => .ok (found, rest)
      | none =>
        wordsFrom found c.pos (c.ahead.takeWhile isWordChar) (c.skipWhile isWordChar)
  | .ruleWord start found first =>
    outcomeBehindWords start draft (wordsFrom found first text c)
  | .patternBlanks start m name => outcomeAtPattern start m name draft c
  | .pattern start m name first =>
    resume draft (fun next => Plain.statements next c)
      (ruleOf m name first text c >>= withRule start draft c)

/-- What the reading comes to from a state on. -/
def State.outcome : State → Draft × Option Fault
  | .blankLines draft c => Plain.statements draft c
  | .statements draft c =>
    if c.isExhausted then (draft, none)
    else resume draft (fun (next, rest) => Plain.statements next rest) (statement draft c)
  | .words start found draft c => outcomeBehindWords start draft (Plain.words found c)
  | .scan s passed draft c =>
    s.outcome (passed.reverse ++ c.ahead.takeWhile s.passes) draft (c.skipWhile s.passes)
  | .stopped draft fault? _ => (draft, fault?)

/-! ### Steps and outcomes -/

variable {draft : Draft} {c : Cursor} {ch : Char}

theorem skipWhile_advance {p : Char → Bool} (hnext : c.get? = some ch) (hp : p ch = true) :
    c.ahead.takeWhile p = ch :: c.advance.ahead.takeWhile p ∧
      c.advance.skipWhile p = c.skipWhile p := by
  obtain ⟨rest, hahead⟩ := List.head?_eq_some_iff.1 hnext
  have hadvance : c.advance.ahead = rest := by
    rw [Cursor.advance, Cursor.ahead_advanceBy, hahead, List.drop_one, List.tail_cons]
  have htake : c.ahead.takeWhile p = ch :: rest.takeWhile p := by
    rw [hahead, List.takeWhile_cons_of_pos hp]
  refine ⟨by rw [hadvance, htake], ?_⟩
  rw [Cursor.skipWhile, Cursor.skipWhile, hadvance, htake, Cursor.advance,
    Cursor.advanceBy_advanceBy, List.length_cons, Nat.add_comm]

theorem skipWhile_of_nil {p : Char → Bool} (h : c.ahead.takeWhile p = []) : c.skipWhile p = c := by
  rw [Cursor.skipWhile, h]
  exact c.advanceBy_zero

theorem skipWhile_of_not {p : Char → Bool} (hnext : ∀ ch ∈ c.get?, p ch = false) :
    c.ahead.takeWhile p = [] ∧ c.skipWhile p = c := by
  have htake : c.ahead.takeWhile p = [] := by
    cases hahead : c.ahead with
    | nil => rfl
    | cons ch rest =>
      have hch := hnext ch (by rw [Cursor.get?, hahead]; rfl)
      rw [List.takeWhile_cons_of_neg (by simp [hch])]
  exact ⟨htake, skipWhile_of_nil htake⟩

theorem outcome_proceed {α : Type} (go : α → State) (x : Except Fault α) :
    (State.proceed draft c go x).outcome = resume draft (fun a => (go a).outcome) x := by
  cases x <;> rfl

theorem resume_map {α β : Type} (go : β → Draft × Option Fault) (f : α → β) (x : Except Fault α) :
    resume draft go (x.map f) = resume draft (fun a => go (f a)) x := by
  cases x <;> rfl

theorem resume_bind {α β : Type} (go : β → Draft × Option Fault) (f : α → Except Fault β)
    (x : Except Fault α) :
    resume draft go (x >>= f) = resume draft (fun a => resume draft go (f a)) x := by
  cases x <;> rfl

/-- A number is read from its minus on. -/
theorem integer_eq (c : Cursor) :
    let digits := (c.skip? "-").getD c
    let rest := digits.skipWhile Char.isDigit
    integer c = (keyOf c.pos rest.pos (c.continues "-")
      (digits.ahead.takeWhile Char.isDigit)).map (·, rest) := by
  intro digits rest
  have hread : integer c =
      match key? (c.continues "-") (digits.ahead.takeWhile Char.isDigit) with
      | some key => .ok (key, rest)
      | none => .error ⟨.expectedInteger, c.pos, rest.pos⟩ := rfl
  rw [hread, keyOf]
  cases key? (c.continues "-") (digits.ahead.takeWhile Char.isDigit) <;> rfl

theorem outcome_startNumber (floor : Bool) (draft : Draft) (c : Cursor) :
    (State.startNumber floor draft c).outcome =
      resume draft (fun (next, rest) => outcomeAtEnd draft next (rest.skipWhile isBlank))
        ((integer c).map fun (key, rest) => (withKey floor draft key, rest)) := by
  have hcontinues := c.isSome_skip? "-"
  rw [integer_eq]
  unfold State.startNumber
  cases hskip : c.skip? "-" with
  | none =>
    rw [hskip] at hcontinues
    simp only [resume_map, ← hcontinues, Option.getD_none]
    rfl
  | some rest =>
    rw [hskip] at hcontinues
    simp only [resume_map, ← hcontinues, Option.getD_some]
    rfl

/-- The name of a directive decides how it is read. -/
theorem outcome_argument (start : Nat) (word : String) (draft : Draft) (c : Cursor) :
    ((Scan.argumentBlanks start word).leave [] draft c).outcome =
      resume draft (fun (next, rest) => outcomeAtEnd draft next (rest.skipWhile isBlank))
        (argument draft start word c) := by
  simp only [Scan.leave]
  split
  · exact outcome_startNumber false draft c
  · rfl
  · by_cases hrules : (!draft.set.isEmpty) = true
    · simp only [argument, if_pos hrules]
      rfl
    · simp only [argument, if_neg hrules]
      exact outcome_startNumber true draft c
  · next horder hnext hstart =>
    have hunknown : argument draft start word c =
        .error ⟨.unknownDirective word, start, c.pos⟩ := by
      -- The other names are excluded.
      unfold argument
      split <;> first | contradiction | rfl
    rw [hunknown]
    rfl

/-- A pattern is read, and the rule with it is inserted. -/
theorem outcomeAtPattern_eq (start : Nat) (m : Modifiers) (name : String) (draft : Draft)
    (c : Cursor) :
    outcomeAtPattern start m name draft c =
      (Scan.pattern start m name c.pos).outcome (c.ahead.takeWhile notLineFeed) draft
        (c.skipWhile notLineFeed) := by
  simp only [Scan.outcome, resume_bind, outcomeAtPattern]
  unfold pattern ruleOf
  dsimp only
  split
  · rfl
  · cases Rule.ofPattern (String.ofList (trimReturn (c.ahead.takeWhile notLineFeed)))
      (m.priority.getD .natural) (!m.ignore) (some name) <;> rfl

/-- When a loop is left, it is settled what the reading will come to. -/
theorem outcome_leave (s : Scan) (text : List Char) (draft : Draft) (c : Cursor) :
    (s.leave text draft c).outcome = s.outcome text draft c := by
  cases s with
  | comment => rfl
  | directiveWord start =>
    simp only [Scan.leave, Scan.outcome]
    split <;> rfl
  | argumentBlanks start word => exact outcome_argument start word draft c
  | digits floor first negative => exact outcome_proceed _ _
  | endBlanks next =>
    simp only [Scan.leave, Scan.outcome, outcomeAtEnd]
    split <;> rfl
  | wordBlanks start found =>
    -- Either `::=` follows or another word; both sides look for it.
    simp only [Scan.leave, Scan.outcome]
    split
    · next rest hskip =>
      rw [outcome_proceed]
      rfl
    · rfl
  | ruleWord start found first =>
    simp only [Scan.leave, Scan.outcome, wordsFrom]
    split <;> rfl
  | patternBlanks start m name =>
    exact (outcomeAtPattern_eq start m name draft c).symm
  | pattern start m name first => exact outcome_proceed _ _

/-! ### What is skipped -/

theorem blankLength_inComment (text : List Char) :
    blankLength true text = (text.takeWhile notLineFeed).length +
      blankLength false (text.dropWhile notLineFeed) := by
  induction text with
  | nil => rfl
  | cons ch text ih =>
    by_cases hfeed : ch = '\n'
    · subst hfeed
      rw [List.takeWhile_cons_of_neg (by decide), List.dropWhile_cons_of_neg (by decide),
        blankLength, blankLength, if_neg (by decide), if_pos (by decide), List.length_nil,
        Nat.zero_add]
      rfl
    · have hline : notLineFeed ch = true := by simpa [notLineFeed] using hfeed
      rw [List.takeWhile_cons_of_pos hline, List.dropWhile_cons_of_pos hline, blankLength,
        show (ch != '\n') = true from hline, ih, List.length_cons]
      omega

/-- A comment may be passed before. -/
theorem statements_comment (draft : Draft) (hnext : c.get? = some '#') :
    Plain.statements draft (c.skipWhile notLineFeed) = Plain.statements draft c := by
  obtain ⟨rest, hahead⟩ := List.head?_eq_some_iff.1 hnext
  refine statements_eq_of_skip ?_
  unfold skipBlankLines
  rw [Cursor.ahead_skipWhile, Cursor.skipWhile, Cursor.advanceBy_advanceBy, hahead]
  congr 1
  rw [blankLength, if_pos rfl, blankLength_inComment, List.takeWhile_cons_of_pos (by decide),
    List.dropWhile_cons_of_pos (by decide), List.length_cons]
  omega

/-- A blank may be passed before. -/
theorem statements_advance (draft : Draft) (hnext : c.get? = some ch) (hcomment : ch ≠ '#')
    (hspace : Unicode.isWhitespace ch = true) :
    Plain.statements draft c.advance = Plain.statements draft c := by
  obtain ⟨rest, hahead⟩ := List.head?_eq_some_iff.1 hnext
  refine statements_eq_of_skip ?_
  unfold skipBlankLines
  rw [Cursor.advance, Cursor.ahead_advanceBy, Cursor.advanceBy_advanceBy, hahead]
  congr 1
  rw [blankLength, if_neg hcomment, if_pos hspace, List.drop_one, List.tail_cons]
  omega

/-- Where nothing is skipped, a statement is read, unless the text ends. -/
theorem statements_of_blankLength (draft : Draft) (h : blankLength false c.ahead = 0) :
    Plain.statements draft c = (State.statements draft c).outcome := by
  have hhere : skipBlankLines c = c := by rw [skipBlankLines, h, c.advanceBy_zero]
  show _ = if c.isExhausted then _ else _
  by_cases hend : c.ahead = []
  · rw [statements_of_nil (by rw [hhere, hend]), if_pos (by simp [Cursor.isExhausted, hend])]
  · rw [if_neg (by simpa [Cursor.isExhausted] using hend)]
    cases hread : statement draft c with
    | ok x => exact statements_of_ok (by rwa [hhere]) (by rwa [hhere])
    | error fault => exact statements_of_error (by rwa [hhere]) (by rwa [hhere])

/-! ### Statements -/

/-- A directive is read from its word on. -/
theorem outcome_directive (start : Nat) (draft : Draft) (c : Cursor) :
    (State.scan (.directiveWord start) [] draft c).outcome =
      resume draft (fun (next, rest) => Plain.statements next rest) (directive draft start c) := by
  have hempty : (wordAhead c).isEmpty = (c.ahead.takeWhile isWordChar).isEmpty := by
    rw [Bool.eq_iff_iff, wordAhead, String.isEmpty_iff, ← String.toList_eq_nil_iff,
      String.toList_ofList, List.isEmpty_iff]
  show (if (c.ahead.takeWhile isWordChar).isEmpty then _ else _) = _
  unfold directive
  dsimp only
  rw [hempty]
  split
  · next hword =>
    -- The fault is told at the cursor, which has not moved.
    have hhere : c.skipWhile isWordChar = c := skipWhile_of_nil (List.isEmpty_iff.1 hword)
    exact congrArg (fun d => (draft, some (faultAt .expectedIdentifier d))) hhere
  · rw [resume_bind]
    congr 1
    funext x
    obtain ⟨next, rest⟩ := x
    unfold outcomeAtEnd
    dsimp only
    split <;> rfl

/-- A rule is read from its words on. -/
theorem outcome_rule (draft : Draft) (c : Cursor) :
    (State.words c.pos [] draft c).outcome =
      resume draft (fun (next, rest) => Plain.statements next rest) (rule draft c) := by
  simp only [State.outcome, outcomeBehindWords, rule, resume_bind]
  congr 1
  funext x
  obtain ⟨found, rest⟩ := x
  cases found with
  | nil => rfl
  | cons name modifiers =>
    simp only [nameAndModifiers, resume_map, resume_bind, outcomeAtPattern]
    congr 1
    funext m
    congr 1
    funext x
    obtain ⟨rule, rest⟩ := x
    unfold withRule
    dsimp only
    cases draft.set.insert? draft.order rule <;> rfl

/-- The words of a rule are read one by one. -/
theorem words_eq (found : List Word) (c : Cursor) :
    Plain.words found c = (match (c.skipWhile isBlank).skip? "::=" with
      | some rest => .ok (found, rest)
      | none => wordsFrom found (c.skipWhile isBlank).pos
          ((c.skipWhile isBlank).ahead.takeWhile isWordChar)
          ((c.skipWhile isBlank).skipWhile isWordChar)) := by
  split
  · next rest hskip => exact words_of_skip? hskip
  · next hskip =>
    unfold wordsFrom
    split
    · next hword =>
      have hnil := List.isEmpty_iff.1 hword
      rw [words_of_nil hskip hnil, skipWhile_of_nil hnil]
    · next hword => exact words_of_word hskip (by simpa using hword)

/-- **Step.** No step changes what the reading will come to. -/
theorem outcome_next (s : State) : s.next.outcome = s.outcome := by
  -- The steps are smaller than those of `read`, which skips and reads whole runs of characters.
  cases s with
  | blankLines draft c =>
    simp only [State.next]
    split
    · next ch hnext =>
      split
      · next hcomment =>
        subst hcomment
        exact statements_comment draft hnext
      · next hcomment =>
        split
        · next hspace => exact statements_advance draft hnext hcomment hspace
        · next hspace =>
          obtain ⟨rest, hahead⟩ := List.head?_eq_some_iff.1 hnext
          refine (statements_of_blankLength draft ?_).symm
          rw [hahead, blankLength, if_neg hcomment, if_neg hspace]
    · next hnext =>
      refine (statements_of_blankLength draft ?_).symm
      rw [List.head?_eq_none_iff.1 hnext, blankLength]
  | statements draft c =>
    have hstatement : c.isExhausted = false → (State.statements draft c).outcome =
        resume draft (fun (next, rest) => Plain.statements next rest) (statement draft c) := by
      intro hend
      exact if_neg (by simp [hend])
    simp only [State.next]
    split
    · next hend => exact (if_pos hend).symm
    · next hend =>
      rw [hstatement (by simpa using hend), statement]
      cases c.skip? "@" with
      | some rest => exact outcome_directive c.pos draft rest
      | none => exact outcome_rule draft c
  | words start found draft c =>
    simp only [State.next, State.outcome, Scan.outcome, Scan.passes, words_eq found c]
  | scan s passed draft c =>
    have hpass : ∀ ch, c.get? = some ch → s.passes ch = true →
        (State.scan s (ch :: passed) draft c.advance).outcome =
          (State.scan s passed draft c).outcome := by
      intro ch hnext hch
      obtain ⟨htake, hskip⟩ := skipWhile_advance hnext hch
      simp only [State.outcome, List.reverse_cons, htake, hskip, List.append_assoc,
        List.singleton_append]
    have hleave : (∀ ch ∈ c.get?, s.passes ch = false) →
        (s.leave passed.reverse draft c).outcome = (State.scan s passed draft c).outcome := by
      intro hnext
      obtain ⟨htake, hskip⟩ := skipWhile_of_not hnext
      rw [outcome_leave]
      simp only [State.outcome, htake, hskip, List.append_nil]
    simp only [State.next]
    split
    · next ch hnext =>
      split
      · next hch => exact hpass ch hnext hch
      · next hch =>
        refine hleave fun x hx => ?_
        rw [hnext] at hx
        rw [← Option.some.inj hx]
        simpa using hch
    · next hnext => exact hleave (by simp [hnext])
  | stopped => rfl

end OrderedLexer.RuleFile.Plain
