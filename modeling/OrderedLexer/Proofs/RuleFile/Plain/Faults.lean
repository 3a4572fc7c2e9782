import OrderedLexer.Proofs.RuleFile.Plain.Fronts
import OrderedLexer.Proofs.RuleFile.Plain.Meaning

namespace OrderedLexer

open Text (byteLength dropBytes?)
open Cursor (isBoundary_pos advanceBy_eq_shift dropBytes?_pos)

/-!
# Where plain rule files are at fault

The fault of a plain rule file is that of a statement in one line, and what comes before it is
accepted. It starts at the modifier that is not accepted, or at the rule that is refused, if that is
its cause.

* `Cause.kind` — what a cause is about;
* `OnFault`, `OnFault.bind` — what holds of the fault of a result, if it is one;
* `modifiers_fault` — the modifier at fault stands behind those that are added;
* `PointsOut`, `statement_pointsOut` — where the fault of a statement starts;
* `statement_between`, `InLine`, `StopsAt.inLine` — the fault of a statement lies in its line;
* `exists_of_inLine` — the lines before it are accepted;
* `ofPlain_error_inLine` — the error of a file, with its location.
-/

namespace RuleFile.Plain

variable {α β : Type} {draft draft' : Draft} {b c c' : Cursor} {fault : Fault}

/-! ### What a cause is about -/

/-- What a cause is about. -/
inductive Cause.Kind where
  | modifier
  | order
  | other
deriving DecidableEq

def Cause.kind : Cause → Cause.Kind
  | .ignoreTwice => .modifier
  | .priorityTwice => .modifier
  | .unknownPriority _ => .modifier
  | .invalidOrder _ => .order
  | _ => .other

/-- The fault of a result satisfies `P`, if the result is a fault. -/
def OnFault (P : Fault → Prop) (x : Except Fault α) : Prop := ∀ fault, x = .error fault → P fault

namespace OnFault

variable {P : Fault → Prop} {x : Except Fault α}

theorem ok (P : Fault → Prop) (a : α) : OnFault P (.ok a) := by
  intro fault h
  contradiction

theorem error (h : P fault) : OnFault P (.error fault : Except Fault α) := by
  intro fault' h'
  rwa [← Except.error.inj h']

/-- **Sequence.** A fault comes from the first part, or from the second one behind the result of the
    first. -/
theorem bind {f : α → Except Fault β} (hx : OnFault P x)
    (hf : ∀ a, x = .ok a → OnFault P (f a)) : OnFault P (x >>= f) := by
  cases x with
  | ok a => exact hf a rfl
  | error fault => exact error (hx fault rfl)

theorem map {f : α → β} (hx : OnFault P x) : OnFault P (x.map f) := by
  cases x with
  | ok a => exact ok P (f a)
  | error fault => exact error (hx fault rfl)

end OnFault

/-- Not about a modifier or an order. -/
def OfOther (fault : Fault) : Prop := fault.cause.kind = .other

theorem integer_onFault (c : Cursor) : OnFault OfOther (integer c) := by
  unfold integer
  dsimp only
  split
  · exact .ok _ _
  · exact .error rfl

theorem argument_onFault (draft : Draft) (start : Nat) (word : String) (c : Cursor) :
    OnFault OfOther (argument draft start word c) := by
  unfold argument
  split
  · exact (integer_onFault c).map
  · exact .ok _ _
  · split
    · exact .error rfl
    · exact (integer_onFault c).map
  · exact .error rfl

theorem directive_onFault (draft : Draft) (start : Nat) (c : Cursor) :
    OnFault OfOther (directive draft start c) := by
  unfold directive
  dsimp only
  split
  · exact .error rfl
  · refine (argument_onFault draft start _ _).bind fun x _ => ?_
    split
    · exact .ok _ _
    · exact .error rfl

theorem words_onFault (found : List Word) (c : Cursor) : OnFault OfOther (words found c) := by
  intro fault h
  fun_induction words found c with
  | case1 => contradiction
  | case2 found c d hskip hlength =>
    rw [← Except.error.inj h]
    show Cause.kind _ = _
    split <;> rfl
  | case3 found c d hskip hlength length ih => exact ih h

theorem pattern_onFault (m : Modifiers) (name : String) (c : Cursor) :
    OnFault OfOther (pattern m name c) := by
  unfold pattern
  dsimp only
  split
  · exact .error rfl
  · split
    · exact .ok _ _
    · exact .error rfl

/-! ### Modifiers -/

/-- A modifier that cannot be added behind others, and the cause of its fault. -/
inductive Misplaced (earlier : List String) : String → Cause → Prop
  | ignoreTwice : "ignore" ∈ earlier → Misplaced earlier "ignore" .ignoreTwice
  | priorityTwice {word : String} {p : Priority} : word ≠ "ignore" → p.name ∈ earlier →
      Misplaced earlier word .priorityTwice
  | unknownPriority {word : String} : word ≠ "ignore" → (∀ p : Priority, word ≠ p.name) →
      Misplaced earlier word (.unknownPriority word)

/-- The modifiers are all told by some words. -/
structure ToldBy (earlier : List String) (m : Modifiers) : Prop where
  ignore : m.ignore = true → "ignore" ∈ earlier
  priority {p : Priority} : m.priority = some p → p.name ∈ earlier

/-- A word is added to the modifiers, and then they are told by it, too; or it is misplaced, and the
    fault starts there. -/
theorem add_cases {earlier : List String} {m : Modifiers} (h : ToldBy earlier m) (stop : Nat)
    (w : Word) :
    (∃ m', m.add stop w = .ok m' ∧ ToldBy (earlier ++ [w.text]) m') ∨
    ∃ cause, m.add stop w = .error ⟨cause, w.start, stop⟩ ∧ Misplaced earlier w.text cause := by
  unfold Modifiers.add
  split
  · next hignore =>
    rw [hignore]
    split
    · next hm => exact .inr ⟨_, rfl, .ignoreTwice (h.ignore hm)⟩
    · refine .inl ⟨_, rfl, fun _ => by simp, fun hp => ?_⟩
      exact List.mem_append_left _ (h.priority hp)
  · next hignore =>
    split
    · next hm =>
      obtain ⟨p, hp⟩ := Option.isSome_iff_exists.1 hm
      exact .inr ⟨_, rfl, .priorityTwice hignore (h.priority hp)⟩
    · split
      · next p hp =>
        refine .inl ⟨_, rfl, fun hm => List.mem_append_left _ (h.ignore hm), fun hq => ?_⟩
        rw [← Option.some.inj hq, ← ofName?_eq_some_iff.1 hp]
        simp
      · next hp =>
        refine .inr ⟨_, rfl, .unknownPriority hignore fun p hword => ?_⟩
        rw [ofName?_eq_some_iff.2 hword] at hp
        contradiction

/-- **Modifiers.** The fault of some modifiers starts at the first of them that is misplaced behind
    those before it. -/
theorem modifiers_fault {stop : Nat} {ws : List Word} {m : Modifiers} {earlier : List String}
    (hm : ToldBy earlier m) (h : ws.foldlM (Modifiers.add stop) m = .error fault) :
    ∃ front w back cause, ws = front ++ w :: back ∧ fault = ⟨cause, w.start, stop⟩ ∧
      Misplaced (earlier ++ front.map Word.text) w.text cause := by
  induction ws generalizing m earlier with
  | nil => contradiction
  | cons w ws ih =>
    rw [List.foldlM_cons] at h
    rcases add_cases hm stop w with ⟨m', hadd, hm'⟩ | ⟨cause, hadd, hmisplaced⟩
    · rw [hadd] at h
      obtain ⟨front, w', back, cause, rfl, hfault, hmisplaced⟩ := ih hm' h
      refine ⟨w :: front, w', back, cause, rfl, hfault, ?_⟩
      simpa using hmisplaced
    · rw [hadd] at h
      refine ⟨[], w, ws, cause, rfl, (Except.error.inj h).symm, ?_⟩
      simpa using hmisplaced

/-! ### Statements -/

/-- Where the fault of a statement starts, if it is about a modifier or an order. The statement is
    read with `draft`. From its first character, at byte position `first`, the rest of its line is
    `line`. -/
inductive PointsOut (draft : Draft) (first : Nat) (line : List Char) : Fault → Prop
  /-- The modifier is the first word that is misplaced behind those before it. -/
  | modifier {head tail : List Char} {earlier later : List Word} {w : Word} {cause : Cause} :
      line = head ++ "::=".toList ++ tail → WordsAt first head (earlier ++ w :: later) →
      later ≠ [] → Misplaced (earlier.map Word.text) w.text cause →
      PointsOut draft first line ⟨cause, w.start, first + byteLength (head ++ "::=".toList)⟩
  /-- The line spells the rule that is refused, in an order below the floor. -/
  | order {r : Rule} {e : InvalidOrder} : RuleText (trimReturn line) r →
      draft.set.insert? draft.order r = .error e → e.order < e.floor →
      PointsOut draft first line ⟨.invalidOrder e, first, first + byteLength line⟩
  | other {fault : Fault} : OfOther fault → PointsOut draft first line fault

/-- Behind some more characters of the same text, a cursor is as far on as they are long. -/
theorem pos_of_ahead {text : List Char} (htext : c'.text = c.text)
    (h : c.ahead = text ++ c'.ahead) : c'.pos = c.pos + byteLength text := by
  have hc : c'.text = c.passed.reverse ++ text ++ c'.ahead := by
    rw [htext, Cursor.text, h, List.append_assoc]
  rw [Cursor.pos_of_text hc, Text.byteLength_append, Text.byteLength_reverse, Cursor.pos]

section

variable {name : Word} {modifiers : List Word} {m : Modifiers} {rest behind : Cursor} {r : Rule}

/-- **Modifiers.** A modifier at fault is one of the words of the line. -/
theorem modifiers_pointsOut (draft : Draft)
    (hwords : words [] b = .ok (name :: modifiers, rest)) :
    OnFault (PointsOut draft b.pos (b.ahead.takeWhile notLineFeed))
      (modifiers.reverse.foldlM (Modifiers.add rest.pos) {}) := by
  intro fault h
  obtain ⟨head, read, hat, hread, hahead⟩ := words_at hwords
  have hstop := pos_of_ahead (text_of_words hwords) hahead
  have htold : ToldBy [] {} := ⟨fun h => by contradiction, fun h => by contradiction⟩
  obtain ⟨front, w, back, cause, hmodifiers, rfl, hmisplaced⟩ := modifiers_fault htold h
  -- Behind the modifier at fault comes the name, if no other modifier.
  have hsplit : read = front ++ w :: (back ++ [name]) := by
    rw [List.append_nil] at hread
    rw [← List.reverse_reverse read, ← hread, List.reverse_cons, hmodifiers, List.append_assoc,
      List.cons_append]
  have hline : ∀ ch ∈ head ++ "::=".toList, notLineFeed ch = true := by
    intro ch hch
    have hbreak := notBreak_of_head hat.wordsText blanks_nil ch (by simpa using hch)
    exact (Bool.and_eq_true_iff.1 hbreak).1
  rw [hstop, hahead, List.takeWhile_append_of_pos hline]
  exact .modifier rfl (hsplit ▸ hat) (by simp) hmisplaced

theorem Step.inserted_eq (h : Step draft (.rule r) draft') :
    draft'.inserted = (draft.order, r) :: draft.inserted := by
  cases h
  rfl

/-- **Orders.** A rule that is refused is spelled by the whole line. -/
theorem order_pointsOut {e : InvalidOrder} (hwords : words [] b = .ok (name :: modifiers, rest))
    (hmodifiers : modifiers.reverse.foldlM (Modifiers.add rest.pos) {} = .ok m)
    (hpattern : pattern m name.text (rest.skipWhile isBlank) = .ok (r, behind))
    (hrefused : draft.set.insert? draft.order r = .error e) :
    PointsOut draft b.pos (b.ahead.takeWhile notLineFeed)
      ⟨.invalidOrder e, b.pos, behind.pos⟩ := by
  -- A draft without a floor takes any rule, so the line spells this one.
  have hrule : rule {} b = .ok (⟨RuleSet.new.insertAt OrderKey.zero r, OrderKey.zero,
      [(OrderKey.zero, r)]⟩, behind) :=
    rule_eq_ok_iff.2 ⟨name, modifiers, rest, m, r, _, hwords, hmodifiers, hpattern, rfl, rfl⟩
  obtain ⟨r', htext, hstep, hbehind⟩ := rule_line hrule
  obtain rfl : r = r' := by simpa using hstep.inserted_eq
  obtain ⟨floor, -, hlt, he⟩ := RuleSet.insert?_eq_error_iff.1 hrefused
  have hend : behind.pos = b.pos + byteLength (b.ahead.takeWhile notLineFeed) := by
    refine pos_of_ahead ?_ ?_
    · obtain ⟨-, -, rfl⟩ := pattern_eq_ok_iff.1 hpattern
      rw [Cursor.text_skipWhile, Cursor.text_skipWhile, text_of_words hwords]
    · rw [hbehind, List.takeWhile_append_dropWhile]
  rw [hend]
  exact .order htext hrefused (he ▸ hlt)

end

theorem rule_pointsOut (draft : Draft) (b : Cursor) :
    OnFault (PointsOut draft b.pos (b.ahead.takeWhile notLineFeed)) (rule draft b) := by
  unfold rule
  refine OnFault.bind (fun fault h => .other (words_onFault [] b fault h)) ?_
  rintro ⟨found, rest⟩ hwords
  cases found with
  | nil => exact .error (.other rfl)
  | cons name modifiers =>
    refine (modifiers_pointsOut draft hwords).bind fun m hmodifiers => ?_
    refine OnFault.bind (fun fault h => .other (pattern_onFault m _ _ fault h)) ?_
    rintro ⟨r, behind⟩ hpattern
    dsimp only
    split
    · exact .ok _ _
    · next e hrefused => exact .error (order_pointsOut hwords hmodifiers hpattern hrefused)

/-- **Statement.** The fault of a statement starts at the modifier or the order that it is about. -/
theorem statement_pointsOut (draft : Draft) (b : Cursor) :
    OnFault (PointsOut draft b.pos (b.ahead.takeWhile notLineFeed)) (statement draft b) := by
  unfold statement
  split
  · exact fun fault h => .other (directive_onFault draft _ _ fault h)
  · exact rule_pointsOut draft b

/-! ### The line at fault -/

/-- The fault of a text is that of a statement, and lies in its line: the statement starts behind
    `indent`, and is read with `draft`. -/
structure InLine (origin : String) (text : List Char) (fault : Fault) (draft : Draft)
    (before indent line behind : List Char) : Prop where
  text_eq : text = before ++ (indent ++ line) ++ behind
  ended : ∀ ch ∈ before.getLast?, ch = '\n'
  one_line : '\n' ∉ indent ++ line
  behind_head : ∀ ch ∈ behind.head?, ch = '\n'
  /-- The line goes on with the first character of a statement. -/
  line_head : ∃ ch cs, line = ch :: cs ∧ Unicode.isWhitespace ch = false ∧ ch ≠ '#'
  /-- All that stands before the statement is accepted. -/
  accepted : read (Cursor.ofText origin (String.ofList (before ++ indent))) = (draft, none)
  /-- The statement is at fault. -/
  at_fault : statement draft ⟨origin, (before ++ indent).reverse, line ++ behind⟩ = .error fault
  before_le : byteLength before ≤ fault.start
  start_le : fault.start ≤ fault.stop
  stop_le : fault.stop ≤ byteLength (before ++ (indent ++ line))
  start_boundary : Text.IsBoundary text fault.start
  stop_boundary : Text.IsBoundary text fault.stop
  pointsOut : PointsOut draft (byteLength (before ++ indent)) line fault

/-- The fault of a statement lies between two characters of the line, and stops where it starts or
    behind. -/
theorem statement_between (h : statement draft b = .error fault) :
    b.pos ≤ fault.start ∧ fault.start ≤ fault.stop ∧
      fault.stop ≤ b.pos + byteLength (b.ahead.takeWhile notLineFeed) ∧
      Text.IsBoundary b.text fault.start ∧ Text.IsBoundary b.text fault.stop := by
  have hboundary : ∀ n, Text.IsBoundary b.text (b.advanceBy n).pos := by
    intro n
    have := isBoundary_pos (b.advanceBy n)
    rwa [Cursor.text_advanceBy] at this
  -- The line says the same as itself, so the fault is told by two cursors in it.
  have halike := statement_alike draft (Eq.refl (saidAhead b))
  rw [h] at halike
  obtain ⟨g, -, hfault⟩ := halike.exists_error
  obtain ⟨cause, hstart, hstop, hle⟩ := hfault
  obtain ⟨m, -, rfl, -⟩ := hstart.exists_advanceBy rfl
  obtain ⟨n, hn, rfl, -⟩ := hstop.exists_advanceBy rfl
  have hline := Cursor.pos_le_skipWhile (b.advanceBy n) notLineFeed
  rw [skipWhile_advanceBy hn, Cursor.pos_skipWhile] at hline
  exact ⟨b.pos_le_advanceBy m, hle, hline, hboundary m, hboundary n⟩

theorem ofText_ofList (origin : String) (text : List Char) :
    Cursor.ofText origin (String.ofList text) = ⟨origin, [], text⟩ := by
  rw [Cursor.ofText, String.toList_ofList]

/-- A text that is cut at a cursor is what the cursor has passed. -/
theorem cut_ofText {origin : String} {text : List Char} (h : b.text = text) :
    Cursor.cut ⟨origin, [], text⟩ b.ahead.length = ⟨origin, [], b.passed.reverse⟩ := by
  rw [Cursor.cut, ← h, Cursor.text, rdrop_append (Nat.le_refl _), List.rdrop, Nat.sub_self,
    List.take_zero, List.append_nil]

/-- **Statement.** The fault of a statement lies in the line that the statement starts. -/
theorem StopsAt.inLine {origin : String} {text : List Char} {last : Draft}
    (h : StopsAt {} ⟨origin, [], text⟩ last b fault) :
    ∃ before indent line behind, InLine origin text fault last before indent line behind := by
  have htext : b.text = text := h.text_eq
  have hsplit := b.ahead.takeWhile_append_dropWhile (p := notLineFeed)
  obtain ⟨before, indent, hpassed, hended, hindent⟩ :=
    LineIndex.exists_lines_part b.passed.reverse
  have hpos : b.pos = byteLength (before ++ indent) := by
    rw [← hpassed, Text.byteLength_reverse, Cursor.pos]
  have hplace : (⟨origin, (before ++ indent).reverse, b.ahead⟩ : Cursor) = b := by
    have horigin : b.origin = origin := h.origin_eq
    rw [← hpassed, List.reverse_reverse, ← horigin]
  have hpoints := statement_pointsOut last b fault h.at_fault
  obtain ⟨hfirst, hle, hlast, hstartBoundary, hstopBoundary⟩ := statement_between h.at_fault
  rw [hpos] at hpoints hfirst hlast
  rw [htext] at hstartBoundary hstopBoundary
  refine ⟨before, indent, b.ahead.takeWhile notLineFeed, b.ahead.dropWhile notLineFeed, {
    text_eq := ?_, ended := hended, one_line := ?_, behind_head := ?_, line_head := ?_,
    accepted := ?_, at_fault := ?_, before_le := ?_, start_le := hle, stop_le := ?_,
    start_boundary := hstartBoundary, stop_boundary := hstopBoundary, pointsOut := hpoints }⟩
  · rw [← List.append_assoc, ← hpassed, List.append_assoc, hsplit, ← htext, Cursor.text]
  · rw [List.mem_append, not_or]
    exact ⟨hindent, fun hfeed => absurd (List.mem_takeWhile_imp hfeed) (by decide)⟩
  · intro ch hch
    simpa [notLineFeed] using head?_dropWhile notLineFeed b.ahead ch hch
  · obtain ⟨ch, rest, hrest⟩ := List.exists_cons_of_ne_nil h.ahead_ne_nil
    obtain ⟨hspace, hcomment⟩ := h.head ch (by rw [hrest]; rfl)
    have hch : notLineFeed ch = true :=
      (Bool.and_eq_true_iff.1 (notBreak_of_not_isWhitespace hspace)).1
    exact ⟨ch, _, by rw [hrest, List.takeWhile_cons_of_pos hch], hspace, hcomment⟩
  · have haccepted := h.accepted
    rwa [cut_ofText htext, hpassed, ← ofText_ofList] at haccepted
  · rw [hsplit, hplace]
    exact h.at_fault
  · rw [Text.byteLength_append] at hfirst
    omega
  · rwa [← Text.byteLength_append, List.append_assoc] at hlast

/-! ### Files -/

theorem ofPlain_of_fault {origin : String} {text : List Char} {last : Draft}
    (h : statements {} ⟨origin, [], text⟩ = (last, some fault)) :
    RuleSet.ofPlain ⟨origin, [], text⟩ =
      .error (.plain fault.cause ((LineIndex.ofText origin text).span fault.start fault.stop)) :=
  ofPlain_eq_error_iff_statements.2 ⟨last, fault, h, rfl⟩

/-- **Run.** The fault of a file lies in one of its lines. -/
theorem statements_inLine {origin : String} {text : List Char} {last : Draft}
    (h : statements {} ⟨origin, [], text⟩ = (last, some fault)) :
    ∃ before indent line behind, InLine origin text fault last before indent line behind := by
  obtain ⟨b, hb⟩ := exists_of_fault h
  exact hb.inLine

/-- In whole lines, a fault lies before the line feed at their end. -/
theorem InLine.stop_lt {origin : String} {text before indent line behind : List Char}
    (h : InLine origin text fault draft before indent line behind)
    (hended : ∀ ch ∈ text.getLast?, ch = '\n') :
    fault.stop < byteLength text := by
  have hstop := h.stop_le
  rw [h.text_eq] at hended ⊢
  cases behind with
  | nil =>
    -- The last character would be a line feed inside the line.
    obtain ⟨ch, cs, rfl, -⟩ := h.line_head
    rw [List.append_nil] at hended
    have hfeed := mem_of_ended (fun x hx => hended x (mem_getLast?_append hx before))
      (List.append_ne_nil_of_right_ne_nil indent (List.cons_ne_nil ch cs))
    exact absurd hfeed h.one_line
  | cons ch behind =>
    have hch := Char.utf8Size_pos ch
    rw [Text.byteLength_append, Text.byteLength_cons]
    omega

/-- **Run.** The lines before the line at fault are read without a fault. -/
theorem exists_of_inLine {origin : String} {last : Draft}
    {text before indent line behind : List Char}
    (h : InLine origin text fault draft before indent line behind)
    (hread : statements {} ⟨origin, [], text⟩ = (last, some fault)) :
    ∃ last, statements {} ⟨origin, [], before⟩ = (last, none) := by
  rcases statements_append (c := ⟨origin, [], before⟩) {} h.ended (indent ++ line ++ behind) with
    ⟨last, hbefore, -⟩ | ⟨last', fault', hbefore, hread'⟩
  · exact ⟨last, hbefore⟩
  · -- Otherwise the fault would lie in one of them.
    have htext : before ++ (indent ++ line ++ behind) = text := by
      rw [h.text_eq, List.append_assoc before]
    obtain ⟨-, hsame⟩ := Prod.mk.inj (hread.symm.trans (htext ▸ hread'))
    obtain rfl := Option.some.inj hsame
    obtain ⟨_, _, _, _, h'⟩ := statements_inLine hbefore
    have hlt : fault.stop < byteLength before := h'.stop_lt h.ended
    have hstart := h.before_le
    have hle := h.start_le
    omega

/-- A statement that is read leads on in its text. -/
theorem pos_le_of_statement (h : statement draft c = .ok (draft', c')) : c.pos ≤ c'.pos := by
  obtain ⟨n, rfl⟩ := exists_advanceBy_of_statement h
  exact c.pos_le_advanceBy n

/-- **Faults.** Take any text.

    * A cursor in it stands between two characters, and so it does when it has passed as many bytes
      as some characters have, if all positions in the text are machine words.
    * From the start of a statement to its end leads a location that passes all checks.
    * If the text is no plain rule file, the error is a fault with a location in the text. All
      checks on the location are passed, and it starts and stops in one line; all lines before it
      are accepted. It is the fault of a statement in this line, and what stands before the
      statement is accepted. If the cause is a refused order, the location starts at the first
      character of this statement, which is the rule that is refused; if the cause is a modifier,
      at this word. -/
theorem ofPlain_error_inLine (origin content : String) :
    let text := content.toList
    let ix := LineIndex.ofText origin text
    (∀ c : Cursor, c.text = text → dropBytes? c.pos text = some c.ahead ∧
      ∀ n, (c.advanceBy n).text = text ∧
        (byteLength text < Cursor.wordSize →
          c.advanceBy n = c.shift (byteLength (c.ahead.take n)))) ∧
    (∀ draft c draft' c', c.text = text → statement draft c = .ok (draft', c') →
      c'.text = text ∧ ix.span? c.pos c'.pos = some (ix.span c.pos c'.pos)) ∧
    ∀ error, RuleSet.ofPlain (Cursor.ofText origin content) = .error error →
      ∃ fault location draft before indent line behind,
        error = .plain fault.cause location ∧
        location = ⟨origin, ix.place fault.start, ix.place fault.stop⟩ ∧
        ix.span? fault.start fault.stop = some location ∧
        InLine origin text fault draft before indent line behind ∧
        ∃ set, RuleSet.ofPlain (Cursor.ofText origin (String.ofList before)) = .ok set := by
  intro text ix
  refine ⟨fun c hc => ⟨?_, fun n => ⟨?_, fun hword => ?_⟩⟩, fun draft c draft' c' hc h => ?_,
    fun error h => ?_⟩
  · rw [← hc]
    exact dropBytes?_pos c
  · rw [Cursor.text_advanceBy, hc]
  · refine advanceBy_eq_shift c n (Nat.lt_of_le_of_lt ?_ hword)
    have hlength := (c.advanceBy n).byteLength_text
    rw [Cursor.text_advanceBy, hc, Cursor.pos_advanceBy] at hlength
    omega
  · have hc' := (text_of_statement h).trans hc
    have hstart := isBoundary_pos c
    have hstop := isBoundary_pos c'
    rw [hc] at hstart
    rw [hc'] at hstop
    exact ⟨hc', LineIndex.span?_eq origin (.inl hstart) (.inl hstop) (pos_le_of_statement h)⟩
  · obtain ⟨last, fault, hread, rfl⟩ := ofPlain_eq_error_iff_statements.1 h
    obtain ⟨before, indent, line, behind, hline⟩ := statements_inLine hread
    obtain ⟨last', hbefore⟩ := exists_of_inLine hline hread
    refine ⟨fault, _, last, before, indent, line, behind, rfl, rfl, ?_, hline, ?_⟩
    · exact LineIndex.span?_eq origin (.inl hline.start_boundary) (.inl hline.stop_boundary)
        hline.start_le
    · rw [ofText_ofList]
      exact ⟨last'.set, ofPlain_eq_ok_iff_statements.2 ⟨last', hbefore, rfl⟩⟩

/-- A second priority behind a comment, and behind a character of two bytes. The positions are
    machine words. -/
theorem ofPlain_error_inLine_priority :
    let content := "# é\n end end B ::= b"
    RuleSet.ofPlain (Cursor.ofText "t" content) =
        .error (.plain .priorityTwice ⟨"t", ⟨1, 5⟩, ⟨1, 14⟩⟩) ∧
      (Cursor.ofText "t" content).advanceBy 3 = (Cursor.ofText "t" content).shift 4 ∧
      ∃ fault draft before indent line behind, fault.cause = .priorityTwice ∧
        InLine "t" content.toList fault draft before indent line behind := by
  intro content
  have hfault : (statements {} (Cursor.ofText "t" content)).2 = some ⟨.priorityTwice, 10, 19⟩ := by
    decide +kernel
  have hspan : (Cursor.ofText "t" content).lineIndex.span 10 19 = ⟨"t", ⟨1, 5⟩, ⟨1, 14⟩⟩ := by
    decide +kernel
  have herror : RuleSet.ofPlain (Cursor.ofText "t" content) =
      .error (.plain .priorityTwice ⟨"t", ⟨1, 5⟩, ⟨1, 14⟩⟩) :=
    ofPlain_eq_error_iff_statements.2 ⟨_, _, Prod.ext rfl hfault, by rw [hspan]⟩
  obtain ⟨hcursor, -, hlocated⟩ := ofPlain_error_inLine "t" content
  obtain ⟨-, hpassing⟩ := hcursor (Cursor.ofText "t" content) rfl
  obtain ⟨fault, location, draft, before, indent, line, behind, hsame, -, -, hline, -⟩ :=
    hlocated _ herror
  have hthree : byteLength ((Cursor.ofText "t" content).ahead.take 3) = 4 := by decide
  have hshift := (hpassing 3).2 (by decide)
  rw [hthree] at hshift
  exact ⟨herror, hshift, fault, draft, before, indent, line, behind,
    (LoadError.plain.inj hsame).1.symm, hline⟩

end RuleFile.Plain
end OrderedLexer
