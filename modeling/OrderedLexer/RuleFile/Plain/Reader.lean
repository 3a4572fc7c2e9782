import OrderedLexer.RuleFile.Plain.Fault
import OrderedLexer.Source.Cursor
import OrderedLexer.Unicode.Letter

/-!
# Plain rule files

A plain rule file holds directives and rules, one a line. The directives are `@start N`, which sets
the floor and comes before any rule, `@order N` and `@next`; they choose the order of the rules that
follow. A rule is `ignore`, a priority, both or neither, then a name, `::=`, and a pattern, which
runs to the end of its line. Lines that start with `#` are comments.

* `statement` reads a directive or a rule.
* `statement_progress`: a statement that is read is not empty.
* `read` reads statements up to the end of the text or the first fault.
-/

namespace OrderedLexer.RuleFile.Plain

/-! ### Parts of a line -/

/-- The blanks inside a line. -/
def isBlank (c : Char) : Bool := c = ' ' || c = '\t'

/-- The characters of words. -/
def isWordChar (c : Char) : Bool := Unicode.isAlphanumeric c || c = '_'

def notLineFeed (c : Char) : Bool := c != '\n'

/-- The number of characters at the start of a text that belong to blank lines, comments, and blanks
    before a statement; the flag tells whether the text starts inside a comment. -/
def blankLength : Bool → List Char → Nat
  | _, [] => 0
  | true, c :: cs => blankLength (c != '\n') cs + 1
  | false, c :: cs =>
    if c = '#' then blankLength true cs + 1
    else if Unicode.isWhitespace c then blankLength false cs + 1
    else 0

/-- Pass over what comes before the next statement. -/
def skipBlankLines (c : Cursor) : Cursor := c.advanceBy (blankLength false c.ahead)

/-- A word with the byte position where it starts. -/
structure Word where
  text : String
  start : Nat
deriving DecidableEq

/-- The word ahead; it may be empty. -/
def wordAhead (c : Cursor) : String := String.ofList (c.ahead.takeWhile isWordChar)

/-- A fault at the position of a cursor. -/
def faultAt (cause : Cause) (c : Cursor) : Fault := ⟨cause, c.pos, c.pos⟩

/-- Read the key of an order: digits, with a minus in front if it is negative. -/
def integer (c : Cursor) : Except Fault (OrderKey × Cursor) :=
  let digitsStart := (c.skip? "-").getD c
  let digits := digitsStart.ahead.takeWhile Char.isDigit
  let rest := digitsStart.skipWhile Char.isDigit
  let size : Int := digits.foldl (fun n d => n * 10 + (d.toNat - 48)) (0 : Nat)
  let key? := OrderKey.ofInt? (if c.continues "-" then -size else size)
  match if digits.isEmpty then none else key? with
  | some key => .ok (key, rest)
  | none => .error ⟨.expectedInteger, c.pos, rest.pos⟩

/-! ### Statements -/

/-- What has been read of a rule file. -/
structure Draft where
  set : RuleSet := RuleSet.new
  /-- The order of the rules that follow. -/
  order : OrderKey := OrderKey.zero
  /-- The rules with their orders, the last one first. -/
  inserted : List (OrderKey × Rule) := []

/-- Read what follows the word of a directive. The directive starts at byte position `start`. -/
def argument (draft : Draft) (start : Nat) (word : String) (c : Cursor) :
    Except Fault (Draft × Cursor) :=
  match word with
  | "order" => (integer c).map fun (key, c) => ({ draft with order := key }, c)
  | "next" => .ok ({ draft with order := draft.order.next }, c)
  | "start" =>
    if !draft.set.isEmpty then .error ⟨.startAfterRule, start, c.pos⟩
    else (integer c).map fun (key, c) =>
      ({ draft with set := RuleSet.startingAt key, order := key }, c)
  | word => .error ⟨.unknownDirective word, start, c.pos⟩

/-- Whether a directive may end here. -/
def atLineEnd (c : Cursor) : Bool := c.get?.all fun ch => ch = '\n' || ch = '\r'

/-- Read a directive after its `@`, which stands at byte position `start`. -/
def directive (draft : Draft) (start : Nat) (c : Cursor) : Except Fault (Draft × Cursor) := do
  let word := wordAhead c
  let afterWord := c.skipWhile isWordChar
  if word.isEmpty then .error (faultAt .expectedIdentifier c)
  else
    let (draft, c) ← argument draft start word (afterWord.skipWhile isBlank)
    let c := c.skipWhile isBlank
    if atLineEnd c then .ok (draft, c) else .error (faultAt .expectedLineEnd c)

/-- Read words up to `::=` and pass over it. The last word read comes first, before those in
    `found`. -/
def words (found : List Word) (c : Cursor) : Except Fault (List Word × Cursor) :=
  let c' := c.skipWhile isBlank
  match c'.skip? "::=" with
  | some rest => .ok (found, rest)
  | none =>
    let length := (c'.ahead.takeWhile isWordChar).length
    if length = 0 then
      .error (faultAt (if found.isEmpty then .expectedIdentifier else .expectedDefinition) c')
    else words (⟨wordAhead c', c'.pos⟩ :: found) (c'.advanceBy length)
termination_by c.ahead.length
decreasing_by
  have hle := Cursor.length_ahead_skipWhile c isBlank
  have hword : length ≤ c'.ahead.length := (List.takeWhile_sublist isWordChar).length_le
  have hpos : 0 < length := Nat.pos_of_ne_zero ‹_›
  simp only [Cursor.ahead_advanceBy, List.length_drop]
  exact Nat.lt_of_lt_of_le (Nat.sub_lt (Nat.lt_of_lt_of_le hpos hword) hpos) hle

/-- The modifiers of a rule. -/
structure Modifiers where
  ignore : Bool := false
  priority : Option Priority := none

/-- Add a modifier. Its fault runs to byte position `stop`. -/
def Modifiers.add (stop : Nat) (m : Modifiers) (w : Word) : Except Fault Modifiers :=
  if w.text = "ignore" then
    if m.ignore then .error ⟨.ignoreTwice, w.start, stop⟩ else .ok { m with ignore := true }
  else if m.priority.isSome then .error ⟨.priorityTwice, w.start, stop⟩
  else match Priority.ofName? w.text with
    | some priority => .ok { m with priority := priority }
    | none => .error ⟨.unknownPriority w.text, w.start, stop⟩

/-- A line without the carriage return at its end. -/
def trimReturn (line : List Char) : List Char :=
  if line.getLast? = some '\r' then line.dropLast else line

/-- Read a pattern up to the end of its line and make the rule. -/
def pattern (m : Modifiers) (name : String) (c : Cursor) : Except Fault (Rule × Cursor) :=
  let text := trimReturn (c.ahead.takeWhile notLineFeed)
  let rest := c.skipWhile notLineFeed
  if text.isEmpty then .error (faultAt .expectedPattern rest)
  else
    let priority := m.priority.getD .natural
    match Rule.ofPattern (String.ofList text) priority (!m.ignore) (some name) with
    | .ok rule => .ok (rule, rest)
    | .error e => .error ⟨.invalidPattern e, c.pos, rest.pos⟩

/-- Read a rule and insert it into the order chosen. -/
def rule (draft : Draft) (c : Cursor) : Except Fault (Draft × Cursor) := do
  match ← words [] c with
  | ([], rest) => .error (faultAt .expectedIdentifier rest)
  | (name :: modifiers, rest) =>
    let m ← modifiers.reverse.foldlM (Modifiers.add rest.pos) {}
    let (rule, rest) ← pattern m name.text (rest.skipWhile isBlank)
    match draft.set.insert? draft.order rule with
    | .ok set => .ok ({ draft with set, inserted := (draft.order, rule) :: draft.inserted }, rest)
    | .error e => .error ⟨.invalidOrder e, c.pos, rest.pos⟩

/-- Read a directive or a rule. -/
def statement (draft : Draft) (c : Cursor) : Except Fault (Draft × Cursor) :=
  match c.skip? "@" with
  | some rest => directive draft c.pos rest
  | none => rule draft c

/-! ### Progress -/

theorem length_skip? {c c' : Cursor} {keyword : String} (h : c.skip? keyword = some c') :
    c'.ahead.length + keyword.toList.length = c.ahead.length := by
  rw [Cursor.ahead_eq_of_skip? h, List.length_append, Nat.add_comm]

theorem integer_progress {c c' : Cursor} {key : OrderKey} (h : integer c = .ok (key, c')) :
    c'.ahead.length ≤ c.ahead.length := by
  simp only [integer] at h
  split at h
  · have hrest := congrArg Prod.snd (Except.ok.inj h)
    subst hrest
    refine Nat.le_trans (Cursor.length_ahead_skipWhile _ _) ?_
    cases hs : c.skip? "-" with
    | none => simp
    | some d => have := length_skip? hs; simp; omega
  · contradiction

theorem argument_progress {draft draft' : Draft} {start : Nat} {word : String} {c c' : Cursor}
    (h : argument draft start word c = .ok (draft', c')) : c'.ahead.length ≤ c.ahead.length := by
  have key {f : OrderKey × Cursor → Draft × Cursor} (hf : ∀ x, (f x).2 = x.2)
      (h : (integer c).map f = .ok (draft', c')) : c'.ahead.length ≤ c.ahead.length := by
    cases hi : integer c with
    | error e => simp [hi, Except.map] at h
    | ok x =>
      have hx : f x = (draft', c') := by simpa [hi, Except.map] using h
      have : x.2 = c' := by rw [← hf x, hx]
      exact integer_progress (show integer c = .ok (x.1, c') by rw [hi, ← this])
  unfold argument at h
  split at h
  · exact key (fun _ => rfl) h
  · simp_all
  · split at h
    · contradiction
    · exact key (fun _ => rfl) h
  · contradiction

theorem directive_progress {draft draft' : Draft} {start : Nat} {c c' : Cursor}
    (h : directive draft start c = .ok (draft', c')) : c'.ahead.length ≤ c.ahead.length := by
  simp only [directive] at h
  split at h
  · contradiction
  · cases ha : argument draft start (wordAhead c) ((c.skipWhile isWordChar).skipWhile isBlank) with
    | error e => simp [ha, bind, Except.bind] at h
    | ok x =>
      have hx : x.2.ahead.length ≤ _ := argument_progress ha
      simp only [ha, bind, Except.bind] at h
      split at h
      · have hc : x.2.skipWhile isBlank = c' := congrArg Prod.snd (Except.ok.inj h)
        have := Cursor.length_ahead_skipWhile x.2 isBlank
        have := Cursor.length_ahead_skipWhile (c.skipWhile isWordChar) isBlank
        have := Cursor.length_ahead_skipWhile c isWordChar
        rw [← hc]
        omega
      · contradiction

theorem words_progress {found ws : List Word} {c c' : Cursor}
    (h : words found c = .ok (ws, c')) : c'.ahead.length < c.ahead.length := by
  fun_induction words found c with
  | case1 found c d rest hs =>
    have hc : rest = c' := congrArg Prod.snd (Except.ok.inj h)
    have hle : d.ahead.length ≤ c.ahead.length := Cursor.length_ahead_skipWhile c isBlank
    have hlt := length_skip? hs
    have : "::=".toList.length = 3 := rfl
    rw [← hc]
    omega
  | case2 => contradiction
  | case3 found c d hs length hl ih =>
    have hle : d.ahead.length ≤ c.ahead.length := Cursor.length_ahead_skipWhile c isBlank
    have hlt := ih h
    simp only [Cursor.ahead_advanceBy, List.length_drop] at hlt
    omega

theorem pattern_progress {m : Modifiers} {name : String} {c c' : Cursor} {r : Rule}
    (h : pattern m name c = .ok (r, c')) : c'.ahead.length ≤ c.ahead.length := by
  simp only [pattern] at h
  split at h
  · contradiction
  · split at h
    · have hc : c.skipWhile notLineFeed = c' := congrArg Prod.snd (Except.ok.inj h)
      rw [← hc]
      exact Cursor.length_ahead_skipWhile _ _
    · contradiction

theorem rule_progress {draft draft' : Draft} {c c' : Cursor}
    (h : rule draft c = .ok (draft', c')) : c'.ahead.length < c.ahead.length := by
  simp only [rule, bind, Except.bind] at h
  split at h
  · contradiction
  · next ws hw =>
    split at h
    · contradiction
    · next name modifiers rest =>
      split at h
      · contradiction
      · next m _ =>
        split at h
        · contradiction
        · next x hx =>
          have hwords := words_progress hw
          have hpattern : x.2.ahead.length ≤ _ := pattern_progress hx
          have hblank := Cursor.length_ahead_skipWhile rest isBlank
          split at h
          · have hc : x.2 = c' := congrArg Prod.snd (Except.ok.inj h)
            rw [← hc]
            omega
          · contradiction

/-- A statement that is read is not empty. -/
theorem statement_progress {draft draft' : Draft} {c c' : Cursor}
    (h : statement draft c = .ok (draft', c')) : c'.ahead.length < c.ahead.length := by
  unfold statement at h
  split at h
  · next rest hs =>
    have := directive_progress h
    have := length_skip? hs
    have : "@".toList.length = 1 := rfl
    omega
  · exact rule_progress h

/-! ### Files -/

/-- Read statements up to the end of the text or the first fault. -/
def statements (draft : Draft) (c : Cursor) : Draft × Option Fault :=
  let c' := skipBlankLines c
  if c'.isExhausted then (draft, none)
  else match _h : statement draft c' with
    | .ok (draft, rest) => statements draft rest
    | .error fault => (draft, some fault)
termination_by c.ahead.length
decreasing_by
  have hle : c'.ahead.length ≤ c.ahead.length := by simp [c', skipBlankLines]
  exact Nat.lt_of_lt_of_le (statement_progress _h) hle

/-- What is read of a plain rule file, and the fault at which the reading stops. -/
def read (c : Cursor) : Draft × Option Fault := statements {} c

end OrderedLexer.RuleFile.Plain
