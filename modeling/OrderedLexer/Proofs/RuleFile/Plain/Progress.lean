import OrderedLexer.Proofs.RuleFile.Plain.Meaning
import OrderedLexer.Proofs.RuleFile.Plain.Stages
import Mathlib.Data.Nat.Find
import Mathlib.Order.Monotone.Basic

namespace OrderedLexer.RuleFile.Plain

/-!
# The reader makes progress

Each step of the reader passes characters, or comes to a state of a lower rank. So every pass of a
loop leads on in the text, the reader stops, and each character is passed once.

* `State.rank`, `Progresses` — ranks, and what a step does;
* `leave_progresses`, `next_progresses`, `run_progresses` — one step, and any number of them;
* `potential_next`, `exists_stopped` — the reader stops;
* `isDone_next`, `isExhausted_run` — without a fault, it stops at the end of the text only;
* `Loop`, `pos_lt_of_pass` — a pass of a loop leads on in the text;
* `PassEnds`, `exists_passEnds`, `pos_lt_of_passEnds` — and it comes to an end;
* `reading_progresses` — all of it, for any text.
-/

variable {draft : Draft} {c : Cursor} {r : Nat} {s t : State}

/-! ### Ranks -/

/-- Whether a loop over characters goes on. -/
def Scan.goesOn (s : Scan) (c : Cursor) : Bool := c.get?.any s.passes

/-- The rank of a loop over characters: the loops that follow on it at the same place have lower
    ones. A comment that goes on comes behind the loop over blank lines, and one that ends before
    it. A word of a rule leads back to the loop over words, unless it is empty. -/
def Scan.rank (goesOn : Bool) (text : List Char) : Scan → Nat
  | .directiveWord _ => 9
  | .argumentBlanks .. => 8
  | .digits .. | .patternBlanks .. => 7
  | .endBlanks _ | .pattern .. => 6
  | .comment => if goesOn then 4 else 6
  | .ruleWord .. => if text.isEmpty then 1 else 4
  | .wordBlanks .. => 2

def State.rank : State → Nat
  | .blankLines _ _ => 5
  | .statements _ _ => 4
  | .words .. => 3
  | .scan s passed _ c => s.rank (s.goesOn c) passed
  | .stopped .. => 0

def State.isStopped : State → Bool
  | .stopped .. => true
  | _ => false

theorem rank_le (s : State) : s.rank ≤ 9 := by
  cases s with
  | scan s passed draft c =>
    unfold State.rank Scan.rank
    cases s with
    | comment =>
      dsimp only
      split <;> omega
    | ruleWord =>
      dsimp only
      split <;> omega
    | _ =>
      dsimp only
      omega
  | _ =>
    unfold State.rank
    dsimp only
    omega

/-! ### Steps -/

/-- A loop over characters goes on behind the next one, or is left in front of it. -/
theorem next_scan (s : Scan) (passed : List Char) (draft : Draft) (c : Cursor) :
    (s.goesOn c = true ∧ ∃ ch, c.get? = some ch ∧
      (State.scan s passed draft c).next = .scan s (ch :: passed) draft c.advance) ∨
    (s.goesOn c = false ∧
      (State.scan s passed draft c).next = s.leave passed.reverse draft c) := by
  unfold Scan.goesOn
  cases hnext : c.get? with
  | none =>
    refine .inr ⟨rfl, ?_⟩
    simp only [State.next, hnext]
  | some ch =>
    cases hch : s.passes ch with
    | true =>
      refine .inl ⟨hch, ch, rfl, ?_⟩
      simp only [State.next, hnext, hch, if_true]
    | false =>
      refine .inr ⟨hch, ?_⟩
      simp only [State.next, hnext, hch, Bool.false_eq_true, if_false]

/-- A state is farther on in the text than a cursor, or stands there with a rank below `r`. -/
def Progresses (c : Cursor) (r : Nat) (t : State) : Prop :=
  (∃ n, 0 < n ∧ n ≤ c.ahead.length ∧ t.cursor = c.advanceBy n) ∨ (t.cursor = c ∧ t.rank < r)

namespace Progresses

/-- A loop over characters starts at the same place. -/
theorem scan {s : Scan} (h : s.rank (s.goesOn c) [] < r) : Progresses c r (.scan s [] draft c) :=
  .inr ⟨rfl, h⟩

theorem stopped (h : 0 < r) (draft : Draft) (fault? : Option Fault) :
    Progresses c r (.stopped draft fault? c) := .inr ⟨rfl, h⟩

/-- Behind a keyword, all is farther on. -/
theorem of_skip? {rest : Cursor} {keyword : String} (h : c.skip? keyword = some rest)
    (hkeyword : 0 < keyword.toList.length) (hcursor : t.cursor = rest) : Progresses c r t := by
  obtain ⟨hle, hrest⟩ := Cursor.eq_advanceBy_of_skip? h
  exact .inl ⟨_, hkeyword, hle, hcursor.trans hrest⟩

theorem advance {ch : Char} (h : c.get? = some ch) (hcursor : t.cursor = c.advance) :
    Progresses c r t := by
  obtain ⟨rest, hahead⟩ := List.head?_eq_some_iff.1 h
  refine .inl ⟨1, Nat.one_pos, ?_, hcursor⟩
  rw [hahead, List.length_cons]
  omega

theorem proceed {α : Type} {go : α → State} {x : Except Fault α} (h : 0 < r)
    (hgo : ∀ a, Progresses c r (go a)) : Progresses c r (.proceed draft c go x) := by
  cases x with
  | ok a => exact hgo a
  | error fault => exact stopped h draft _

theorem trans (h : Progresses c r s) (h' : Progresses s.cursor s.rank t) : Progresses c r t := by
  rcases h with ⟨n, hpos, hle, hs⟩ | ⟨hs, hrank⟩
  · rw [hs] at h'
    rcases h' with ⟨m, hpos', hle', ht⟩ | ⟨ht, -⟩
    · rw [Cursor.ahead_advanceBy, List.length_drop] at hle'
      rw [Cursor.advanceBy_advanceBy] at ht
      exact .inl ⟨n + m, by omega, by omega, ht⟩
    · exact .inl ⟨n, hpos, hle, ht⟩
  · rw [hs] at h'
    rcases h' with h' | ⟨ht, hrank'⟩
    · exact .inl h'
    · exact .inr ⟨ht, by omega⟩

end Progresses

theorem startNumber_progresses (floor : Bool) (draft : Draft) (c : Cursor) :
    Progresses c 8 (.startNumber floor draft c) := by
  unfold State.startNumber
  split
  · next rest hskip => exact .of_skip? hskip (by decide) rfl
  · exact .scan (show 7 < 8 by omega)

/-- **Step.** When a loop is left, a loop of a lower rank comes next, or characters are passed. -/
theorem leave_progresses (s : Scan) (text : List Char) (draft : Draft) (c : Cursor) :
    Progresses c (s.rank false text) (s.leave text draft c) := by
  cases s with
  | comment => exact .inr ⟨rfl, show 5 < 6 by omega⟩
  | directiveWord start =>
    simp only [Scan.leave, Scan.rank]
    split
    · exact .stopped (by omega) _ _
    · exact .scan (show 8 < 9 by omega)
  | argumentBlanks start word =>
    simp only [Scan.leave, Scan.rank]
    split
    · exact startNumber_progresses _ _ _
    · exact .scan (show 6 < 8 by omega)
    · split
      · exact .stopped (by omega) _ _
      · exact startNumber_progresses _ _ _
    · exact .stopped (by omega) _ _
  | digits floor first negative =>
    exact .proceed (show 0 < 7 by omega) fun key => .scan (show 6 < 7 by omega)
  | endBlanks next =>
    simp only [Scan.leave, Scan.rank]
    split
    · exact .inr ⟨rfl, show 5 < 6 by omega⟩
    · exact .stopped (by omega) _ _
  | wordBlanks start found =>
    simp only [Scan.leave, Scan.rank]
    split
    · next rest hskip =>
      -- Whether the words make sense or not, `::=` is passed.
      refine .of_skip? hskip (by decide) ?_
      cases nameAndModifiers rest found <;> rfl
    · exact .scan (show 1 < 2 by omega)
  | ruleWord start found first =>
    -- Without a character in the word, there is no way back to the loop over words.
    simp only [Scan.leave, Scan.rank]
    split
    · exact .stopped (by omega) _ _
    · exact .inr ⟨rfl, show 3 < 4 by omega⟩
  | patternBlanks start m name => exact .scan (show 6 < 7 by omega)
  | pattern start m name first =>
    exact .proceed (show 0 < 6 by omega) fun next => .inr ⟨rfl, show 5 < 6 by omega⟩

/-- **Step.** Each step passes characters or lowers the rank. -/
theorem next_progresses (h : s.isStopped = false) : Progresses s.cursor s.rank s.next := by
  cases s with
  | blankLines draft c =>
    show Progresses c 5 _
    simp only [State.next]
    split
    · next ch hnext =>
      split
      · next hcomment =>
        -- The loop over a comment goes on at its first character.
        have hgoes : Scan.comment.goesOn c = true := by
          rw [Scan.goesOn, hnext, hcomment]
          rfl
        refine .scan ?_
        rw [hgoes]
        show 4 < 5
        omega
      · split
        · exact .advance hnext rfl
        · exact .inr ⟨rfl, show 4 < 5 by omega⟩
    · exact .inr ⟨rfl, show 4 < 5 by omega⟩
  | statements draft c =>
    show Progresses c 4 _
    simp only [State.next]
    split
    · exact .stopped (by omega) _ _
    · split
      · next rest hskip => exact .of_skip? hskip (by decide) rfl
      · exact .inr ⟨rfl, show 3 < 4 by omega⟩
  | words start found draft c => exact .scan (show 2 < 3 by omega)
  | scan s passed draft c =>
    show Progresses c _ _
    rcases next_scan s passed draft c with ⟨-, ch, hnext, hstep⟩ | ⟨hgoes, hstep⟩
    · rw [hstep]
      exact .advance hnext rfl
    · -- The rank only asks whether something is passed, not in which direction it is kept.
      have hrank : (State.scan s passed draft c).rank = s.rank false passed.reverse := by
        rw [State.rank, hgoes]
        cases s <;> simp [Scan.rank]
      rw [hstep, hrank]
      exact leave_progresses s _ draft c
  | stopped => contradiction

/-! ### Runs -/

theorem next_of_isStopped (h : s.isStopped = true) : s.next = s := by
  cases s with
  | stopped => rfl
  | _ => contradiction

/-- **Run.** Any number of steps passes characters or lowers the rank. -/
theorem run_progresses (h : s.isStopped = false) (k : Nat) :
    Progresses s.cursor s.rank (State.next^[k + 1] s) := by
  -- Induction on the number of steps. A stopped state stays as it is.
  induction k with
  | zero => exact next_progresses h
  | succ k ih =>
    rw [Function.iterate_succ_apply']
    cases hstopped : (State.next^[k + 1] s).isStopped with
    | true => rwa [next_of_isStopped hstopped]
    | false => exact ih.trans (next_progresses hstopped)

theorem exists_cursor_run (s : State) (k : Nat) :
    ∃ n, n ≤ s.cursor.ahead.length ∧ (State.next^[k] s).cursor = s.cursor.advanceBy n := by
  induction k with
  | zero => exact ⟨0, Nat.zero_le _, (Cursor.advanceBy_zero _).symm⟩
  | succ k ih =>
    cases h : s.isStopped with
    | true =>
      rw [Function.iterate_succ_apply, next_of_isStopped h]
      exact ih
    | false =>
      rcases run_progresses h k with ⟨n, -, hle, hcursor⟩ | ⟨hcursor, -⟩
      · exact ⟨n, hle, hcursor⟩
      · exact ⟨0, Nat.zero_le _, by rw [hcursor, Cursor.advanceBy_zero]⟩

theorem outcome_run (s : State) (k : Nat) : (State.next^[k] s).outcome = s.outcome := by
  induction k generalizing s with
  | zero => rfl
  | succ k ih => rw [Function.iterate_succ_apply, ih, outcome_next]

/-! ### The end -/

/-- A bound for the number of steps to the end. -/
def State.potential (s : State) : Nat := 10 * s.cursor.ahead.length + s.rank

theorem potential_next (h : s.isStopped = false) : s.next.potential < s.potential := by
  have hrank := rank_le s.next
  unfold State.potential
  rcases next_progresses h with ⟨n, hpos, hle, hcursor⟩ | ⟨hcursor, hlt⟩
  · rw [hcursor, Cursor.ahead_advanceBy, List.length_drop]
    omega
  · rw [hcursor]
    omega

/-- If each of some states, none of them stopped, leads to another one or out of them, then each
    leads out of them at last. -/
theorem exists_reaches {P Q : State → Prop} (hP : ∀ s, P s → s.isStopped = false)
    (hstep : ∀ s, P s → P s.next ∨ Q s.next) (h : P s) :
    ∃ k < s.potential, Q (State.next^[k + 1] s) := by
  -- Strong induction on the potential, which each step lowers.
  induction hn : s.potential using Nat.strong_induction_on generalizing s with
  | h n ih =>
    have hlt := potential_next (hP s h)
    rcases hstep s h with hnext | hnext
    · obtain ⟨k, hk, hreached⟩ := ih _ (hn ▸ hlt) hnext rfl
      exact ⟨k + 1, by omega, hreached⟩
    · exact ⟨0, by omega, hnext⟩

theorem exists_stopped (h : s.isStopped = false) :
    ∃ k < s.potential, (State.next^[k + 1] s).isStopped = true := by
  refine exists_reaches (P := fun s => s.isStopped = false) (Q := fun s => s.isStopped = true)
    (fun _ h => h) (fun s _ => ?_) h
  cases s.next.isStopped with
  | true => exact .inr rfl
  | false => exact .inl rfl

/-- A state at which reading stops without a fault. -/
def State.isDone : State → Bool
  | .stopped _ none _ => true
  | _ => false

theorem isStopped_of_isDone (h : s.isDone = true) : s.isStopped = true := by
  cases s with
  | stopped => rfl
  | _ => contradiction

theorem isDone_proceed {α : Type} {go : α → State} (h : ∀ a, (go a).isDone = false)
    (x : Except Fault α) : (State.proceed draft c go x).isDone = false := by
  cases x with
  | ok a => exact h a
  | error fault => rfl

theorem isDone_startNumber (floor : Bool) (draft : Draft) (c : Cursor) :
    (State.startNumber floor draft c).isDone = false := by
  unfold State.startNumber
  split <;> rfl

theorem isDone_leave (s : Scan) (text : List Char) (draft : Draft) (c : Cursor) :
    (s.leave text draft c).isDone = false := by
  cases s with
  | comment => rfl
  | directiveWord start =>
    simp only [Scan.leave]
    split <;> rfl
  | argumentBlanks start word =>
    simp only [Scan.leave]
    split
    · exact isDone_startNumber _ _ _
    · rfl
    · split
      · rfl
      · exact isDone_startNumber _ _ _
    · rfl
  | digits floor first negative => exact isDone_proceed (fun _ => rfl) _
  | endBlanks next =>
    simp only [Scan.leave]
    split <;> rfl
  | wordBlanks start found =>
    simp only [Scan.leave]
    split
    · exact isDone_proceed (fun _ => rfl) _
    · rfl
  | ruleWord start found first =>
    simp only [Scan.leave]
    split <;> rfl
  | patternBlanks start m name => rfl
  | pattern start m name first => exact isDone_proceed (fun _ => rfl) _

/-- **Step.** Reading stops without a fault only at the head of the loop over statements, at the end
    of the text. -/
theorem isDone_next (h : s.next.isDone = true) :
    s.isDone = true ∨ ∃ draft c, s = .statements draft c ∧ c.isExhausted = true := by
  cases s with
  | blankLines draft c =>
    simp only [State.next] at h
    split at h
    · split at h
      · contradiction
      · split at h <;> contradiction
    · contradiction
  | statements draft c =>
    simp only [State.next] at h
    split at h
    · next hend => exact .inr ⟨draft, c, rfl, hend⟩
    · split at h <;> contradiction
  | words start found draft c => contradiction
  | scan s passed draft c =>
    rcases next_scan s passed draft c with ⟨-, ch, -, hstep⟩ | ⟨-, hstep⟩
    · rw [hstep] at h
      contradiction
    · rw [hstep, isDone_leave] at h
      contradiction
  | stopped draft fault? c => exact .inl h

/-- **Run.** Where reading stops without a fault, the text is at its end. -/
theorem isExhausted_run (k : Nat) (hstart : s.isDone = false)
    (h : (State.next^[k] s).isDone = true) : (State.next^[k] s).cursor.isExhausted = true := by
  induction k with
  | zero => rw [Function.iterate_zero_apply, hstart] at h; contradiction
  | succ k ih =>
    rw [Function.iterate_succ_apply'] at h ⊢
    rcases isDone_next h with hdone | ⟨draft, c, hhead, hend⟩
    · rw [next_of_isStopped (isStopped_of_isDone hdone)]
      exact ih hdone
    · rw [hhead, State.next, if_pos hend]
      exact hend

/-! ### Loops -/

/-- The loops of the reader. -/
inductive Loop where
  | statements | blankLines | comment
  | directiveWord | argumentBlanks | digits | endBlanks
  | words | wordBlanks | ruleWord | patternBlanks | pattern
deriving DecidableEq

def Scan.loop : Scan → Loop
  | .comment => .comment
  | .directiveWord _ => .directiveWord
  | .argumentBlanks .. => .argumentBlanks
  | .digits .. => .digits
  | .endBlanks _ => .endBlanks
  | .wordBlanks .. => .wordBlanks
  | .ruleWord .. => .ruleWord
  | .patternBlanks .. => .patternBlanks
  | .pattern .. => .pattern

/-- The loop at whose head the reader is. -/
def State.loop? : State → Option Loop
  | .blankLines _ _ => some .blankLines
  | .statements _ _ => some .statements
  | .words .. => some .words
  | .scan s _ _ _ => some s.loop
  | .stopped .. => none

/-- Whether a pass of the loop starts here. -/
def State.goesOn : State → Bool
  | .blankLines _ c => c.get?.any fun ch => ch = '#' || Unicode.isWhitespace ch
  | .statements _ c => !c.isExhausted
  | .words .. => true
  | .scan s _ _ c => s.goesOn c
  | .stopped .. => false

variable {ℓ : Loop}

/-- Stopped states are at the head of no loop. -/
theorem isStopped_of_loop (h : s.loop? = some ℓ) : s.isStopped = false := by
  cases s with
  | stopped => contradiction
  | _ => rfl

/-- At the head of most loops, the rank is always the same. -/
theorem rank_of_loop (h : t.loop? = some ℓ) :
    (ℓ = .blankLines → t.rank = 5) ∧ (ℓ = .statements → t.rank = 4) ∧ (ℓ = .words → t.rank = 3) ∧
      (ℓ = .patternBlanks → t.rank = 7) := by
  cases t with
  | scan s passed draft c =>
    obtain rfl := Option.some.inj h
    cases s <;> simp [Scan.loop, State.rank, Scan.rank]
  | stopped => contradiction
  | _ =>
    obtain rfl := Option.some.inj h
    simp [State.rank]

/-- A state that comes later and has no lower rank is farther on. -/
theorem pos_lt_of_rank_le (h : s.isStopped = false) {k : Nat}
    (hrank : s.rank ≤ (State.next^[k + 1] s).rank) :
    s.cursor.pos < (State.next^[k + 1] s).cursor.pos := by
  rcases run_progresses h k with ⟨n, hpos, hle, hcursor⟩ | ⟨-, hlt⟩
  · rw [hcursor]
    exact Cursor.pos_lt_advanceBy hpos hle
  · omega

/-- A loop over characters that goes on is farther on from then on. -/
theorem pos_lt_of_goesOn {scan : Scan} {passed : List Char} (h : scan.goesOn c = true) (k : Nat) :
    c.pos < (State.next^[k + 1] (.scan scan passed draft c)).cursor.pos := by
  rcases next_scan scan passed draft c with ⟨-, ch, hnext, hstep⟩ | ⟨hnot, -⟩
  · obtain ⟨rest, hahead⟩ := List.head?_eq_some_iff.1 hnext
    obtain ⟨n, -, hcursor⟩ := exists_cursor_run (.scan scan (ch :: passed) draft c.advance) k
    rw [Function.iterate_succ_apply, hstep, hcursor]
    refine Nat.lt_of_lt_of_le ?_ (Cursor.pos_le_advanceBy _ n)
    exact Cursor.pos_lt_advanceBy Nat.one_pos (by rw [hahead, List.length_cons]; omega)
  · rw [h] at hnot
    contradiction

/-- **Loops.** Whenever the head of a loop is reached again after a pass, it is farther on in the
    text. -/
theorem pos_lt_of_pass (hgoes : s.goesOn = true) (hs : s.loop? = some ℓ) {k : Nat}
    (ht : (State.next^[k + 1] s).loop? = some ℓ) :
    s.cursor.pos < (State.next^[k + 1] s).cursor.pos := by
  have hstopped := isStopped_of_loop hs
  obtain ⟨hblank, hstatements, hwords, -⟩ := rank_of_loop ht
  cases s with
  | blankLines => exact pos_lt_of_rank_le hstopped (hblank (Option.some.inj hs).symm).ge
  | statements => exact pos_lt_of_rank_le hstopped (hstatements (Option.some.inj hs).symm).ge
  | words => exact pos_lt_of_rank_le hstopped (hwords (Option.some.inj hs).symm).ge
  | scan scan passed draft c => exact pos_lt_of_goesOn hgoes k
  | stopped => contradiction

/-- What can come when a pass of a loop is over: the head of the loop again, behind the words of a
    rule its pattern, and a fault in a statement or its words. -/
inductive PassEnds : Loop → State → Prop where
  | again {ℓ : Loop} {t : State} (h : t.loop? = some ℓ) : PassEnds ℓ t
  | defined {t : State} (h : t.loop? = some .patternBlanks) : PassEnds .words t
  | fault {ℓ : Loop} (draft : Draft) (fault : Fault) (c : Cursor)
      (h : ℓ = .statements ∨ ℓ = .words) : PassEnds ℓ (.stopped draft (some fault) c)

/-- Within a pass over a word of a rule. -/
def State.inWord (s : State) : Prop := s.loop? = some .wordBlanks ∨ s.loop? = some .ruleWord

/-- **Step.** A pass over a word goes on, or comes to an end. -/
theorem next_word (h : s.inWord) : s.next.inWord ∨ PassEnds .words s.next := by
  cases s with
  | scan s passed draft c =>
    rcases next_scan s passed draft c with ⟨-, ch, -, hstep⟩ | ⟨-, hstep⟩
    · rw [hstep]
      exact .inl h
    · rw [hstep]
      cases s with
      | wordBlanks start found =>
        simp only [Scan.leave]
        split
        · next rest hskip =>
          cases nameAndModifiers rest found with
          | ok x => exact .inr (.defined rfl)
          | error fault => exact .inr (.fault draft fault rest (.inr rfl))
        · exact .inl (.inr rfl)
      | ruleWord start found first =>
        simp only [Scan.leave]
        split
        · exact .inr (.fault draft _ c (.inr rfl))
        · exact .inr (.again rfl)
      | _ => simp [State.inWord, State.loop?, Scan.loop] at h
  | _ => simp [State.inWord, State.loop?] at h

/-- **Step.** A comment goes on, or hands back to the loop over blank lines. -/
theorem next_comment (h : s.loop? = some .comment) :
    s.next.loop? = some .comment ∨ PassEnds .blankLines s.next := by
  cases s with
  | scan s passed draft c =>
    rcases next_scan s passed draft c with ⟨-, ch, -, hstep⟩ | ⟨-, hstep⟩
    · rw [hstep]
      exact .inl h
    · rw [hstep]
      cases s with
      | comment => exact .inr (.again rfl)
      | _ => simp [State.loop?, Scan.loop] at h
  | _ => simp [State.loop?] at h

/-- Within a pass over a statement. -/
def State.inStatement (s : State) : Prop := s.isStopped = false ∧ s.loop? ≠ some .statements

/-- **Step.** A pass over a statement goes on, or comes to an end. -/
theorem next_statement (hstopped : s.isStopped = false)
    (hgoes : s.loop? = some .statements → s.goesOn = true) :
    s.next.inStatement ∨ PassEnds .statements s.next := by
  by_cases hhead : s.next.loop? = some .statements
  · exact .inr (.again hhead)
  cases hnext : s.next with
  | stopped draft fault? c =>
    cases fault? with
    | some fault => exact .inr (.fault draft fault c (.inl rfl))
    | none =>
      -- Without a fault, reading stops only where no pass starts.
      rcases isDone_next (by rw [hnext]; rfl) with hdone | ⟨draft', c', rfl, hend⟩
      · rw [isStopped_of_isDone hdone] at hstopped
        contradiction
      · have hnot := hgoes rfl
        rw [State.goesOn, hend] at hnot
        contradiction
  | _ =>
    rw [hnext] at hhead
    exact .inl ⟨rfl, hhead⟩

/-- A pass that goes on or comes to an end with each step does come to an end. -/
theorem exists_passEnds_of_next {P : State → Prop} (hP : ∀ s, P s → s.isStopped = false)
    (hstep : ∀ s, P s → P s.next ∨ PassEnds ℓ s.next) (h : P s.next ∨ PassEnds ℓ s.next) :
    ∃ k, PassEnds ℓ (State.next^[k + 1] s) := by
  rcases h with h | h
  · obtain ⟨k, -, hk⟩ := exists_reaches hP hstep h
    exact ⟨k + 1, hk⟩
  · exact ⟨0, h⟩

/-- **Loops.** Each pass of a loop comes to an end. -/
theorem exists_passEnds (hgoes : s.goesOn = true) (hs : s.loop? = some ℓ) :
    ∃ k, PassEnds ℓ (State.next^[k + 1] s) := by
  cases s with
  | blankLines draft c =>
    obtain rfl := Option.some.inj hs
    refine exists_passEnds_of_next (P := fun t => t.loop? = some .comment)
      (fun t => isStopped_of_loop) (fun t => next_comment) ?_
    rw [State.goesOn] at hgoes
    simp only [State.next]
    split
    · next ch hnext =>
      rw [hnext] at hgoes
      split
      · exact .inl rfl
      · next hcomment =>
        rw [if_pos (by simpa [hcomment] using hgoes)]
        exact .inr (.again rfl)
    · next hnext =>
      rw [hnext] at hgoes
      contradiction
  | statements draft c =>
    obtain rfl := Option.some.inj hs
    exact exists_passEnds_of_next (P := State.inStatement) (fun t ht => ht.1)
      (fun t ht => next_statement ht.1 fun hhead => absurd hhead ht.2)
      (next_statement rfl fun _ => hgoes)
  | words start found draft c =>
    obtain rfl := Option.some.inj hs
    exact exists_passEnds_of_next (P := State.inWord)
      (fun t ht => ht.elim isStopped_of_loop isStopped_of_loop) (fun t => next_word)
      (.inl (.inl rfl))
  | scan s passed draft c =>
    rcases next_scan s passed draft c with ⟨-, ch, -, hstep⟩ | ⟨hnot, -⟩
    · refine ⟨0, .again ?_⟩
      rw [Function.iterate_one, hstep]
      exact hs
    · rw [State.goesOn, hnot] at hgoes
      contradiction
  | stopped => contradiction

/-- **Loops.** A pass of a loop ends farther on in the text, unless in a fault. -/
theorem pos_lt_of_passEnds (hgoes : s.goesOn = true) (hs : s.loop? = some ℓ) {k : Nat}
    (hends : PassEnds ℓ (State.next^[k + 1] s))
    (hstopped : (State.next^[k + 1] s).isStopped = false) :
    s.cursor.pos < (State.next^[k + 1] s).cursor.pos := by
  generalize ht : State.next^[k + 1] s = t at hends hstopped ⊢
  cases hends with
  | again h =>
    rw [← ht] at h ⊢
    exact pos_lt_of_pass hgoes hs h
  | defined h =>
    rw [← ht] at h ⊢
    refine pos_lt_of_rank_le (isStopped_of_loop hs) ?_
    rw [(rank_of_loop hs).2.2.1 rfl, (rank_of_loop h).2.2.2 rfl]
    omega
  | fault => contradiction

/-! ### Any text -/

/-- The states of the reader, from the start of a text. -/
def states (source : Cursor) (i : Nat) : State := State.next^[i] (.blankLines {} source)

theorem states_add (source : Cursor) (i k : Nat) :
    states source (i + k) = State.next^[k] (states source i) := by
  rw [states, Nat.add_comm, Function.iterate_add_apply]
  rfl

theorem exists_states_add (source : Cursor) (i k : Nat) :
    ∃ n, n ≤ (states source i).cursor.ahead.length ∧
      (states source (i + k)).cursor = (states source i).cursor.advanceBy n := by
  rw [states_add]
  exact exists_cursor_run _ k

theorem text_states (source : Cursor) (i : Nat) : (states source i).cursor.text = source.text := by
  obtain ⟨n, -, hcursor⟩ := exists_cursor_run (.blankLines {} source) i
  rw [states, hcursor, Cursor.text_advanceBy]
  rfl

theorem length_passed_mono (source : Cursor) :
    Monotone fun i => (states source i).cursor.passed.length := by
  refine monotone_nat_of_le_succ fun i => ?_
  obtain ⟨n, hle, hcursor⟩ := exists_states_add source i 1
  rw [hcursor, Cursor.length_passed_advanceBy hle]
  omega

theorem pos_states_le (source : Cursor) (i : Nat) :
    (states source i).cursor.pos ≤ (states source (i + 1)).cursor.pos := by
  obtain ⟨n, -, hcursor⟩ := exists_states_add source i 1
  rw [hcursor]
  exact Cursor.pos_le_advanceBy _ n

/-- What is passed at last is passed in exactly one step. -/
theorem existsUnique_passes {source : Cursor} (hstart : source.passed = []) {n k : Nat}
    (h : k < (states source n).cursor.passed.length) :
    ∃! i, (states source i).cursor.passed.length ≤ k ∧
      k < (states source (i + 1)).cursor.passed.length := by
  have hmono := length_passed_mono source
  -- The step is the one to the first state that is farther on than `k` characters.
  have hex : ∃ m, k < (states source m).cursor.passed.length := ⟨n, h⟩
  have hfirst := Nat.find_spec hex
  obtain ⟨i, hi⟩ : ∃ i, Nat.find hex = i + 1 := by
    refine Nat.exists_eq_succ_of_ne_zero fun hzero => ?_
    rw [hzero] at hfirst
    have hlength : (states source 0).cursor.passed.length = 0 := by
      show source.passed.length = 0
      rw [hstart, List.length_nil]
    omega
  rw [hi] at hfirst
  refine ⟨i, ⟨Nat.not_lt.1 (Nat.find_min hex (by omega)), hfirst⟩, ?_⟩
  rintro j ⟨hle, hlt⟩
  -- Two such steps would be one behind the other.
  rcases Nat.lt_trichotomy j i with hji | hji | hij
  · exact absurd hlt (Nat.find_min hex (by omega))
  · exact hji
  · have hpassed : (states source (i + 1)).cursor.passed.length ≤
        (states source j).cursor.passed.length := hmono hij
    omega

theorem exists_states_stopped (source : Cursor) :
    ∃ n ≤ 10 * source.ahead.length + 5, (states source n).isStopped = true := by
  obtain ⟨k, hk, hstopped⟩ := exists_stopped (s := .blankLines {} source) rfl
  exact ⟨k + 1, hk, hstopped⟩

/-- Reading stops with what `read` tells, at the end of the text if there is no fault. -/
theorem read_of_stopped {source last : Cursor} {n : Nat} {fault? : Option Fault}
    (h : states source n = .stopped draft fault? last) :
    read source = (draft, fault?) ∧ (fault? = none → last.isExhausted = true) := by
  have houtcome : (states source n).outcome = read source := outcome_run _ n
  have hend : (states source n).isDone = true → (states source n).cursor.isExhausted = true :=
    isExhausted_run n rfl
  rw [h] at houtcome hend
  refine ⟨houtcome.symm, ?_⟩
  rintro rfl
  exact hend rfl

/-- **Reading.** Take any text, well-formed or not, and the steps in which it is read.

    * The cursor stays in the text and on a boundary, and it never goes back.
    * Each pass of a loop comes to an end: in a fault, or farther on in the text. If the pass is one
      over a statement, this is at the head of the loop. Whenever the head of a loop is reached
      again after a pass, it is farther on.
    * Reading stops, after a bounded number of steps. Where it stops with a fault, this is the
      error. Where it stops without one, the rule set is returned, the text is at its end, and each
      character of it was passed in exactly one step. -/
theorem reading_progresses (origin content : String) :
    let source := Cursor.ofText origin content
    (∀ i, (states source i).cursor.text = content.toList ∧
      Text.IsBoundary content.toList (states source i).cursor.pos ∧
      (states source i).cursor.pos ≤ content.utf8ByteSize ∧
      (states source i).cursor.pos ≤ (states source (i + 1)).cursor.pos) ∧
    (∀ i ℓ, (states source i).goesOn = true → (states source i).loop? = some ℓ →
      (∃ j, i < j ∧ PassEnds ℓ (states source j) ∧ ((states source j).isStopped = false →
        (states source i).cursor.pos < (states source j).cursor.pos)) ∧
      ∀ j, i < j → (states source j).loop? = some ℓ →
        (states source i).cursor.pos < (states source j).cursor.pos) ∧
    (∃ n ≤ 10 * content.length + 5, (states source n).isStopped = true) ∧
    ∀ n draft fault? last, states source n = .stopped draft fault? last →
      match fault? with
      | some fault => RuleSet.ofPlain source =
          .error (.plain fault.cause (source.lineIndex.span fault.start fault.stop))
      | none => RuleSet.ofPlain source = .ok draft.set ∧ last.isExhausted = true ∧
          ∀ k < content.length, ∃! i, (states source i).cursor.passed.length ≤ k ∧
            k < (states source (i + 1)).cursor.passed.length := by
  intro source
  have htext : ∀ i, (states source i).cursor.text = content.toList := text_states source
  refine ⟨fun i => ⟨htext i, ?_, ?_, pos_states_le source i⟩, fun i ℓ hgoes hloop => ⟨?_, ?_⟩, ?_,
    fun n draft fault? last hlast => ?_⟩
  · rw [← htext i]
    exact (states source i).cursor.isBoundary_pos
  · rw [Cursor.utf8ByteSize_eq, ← htext i, Cursor.byteLength_text]
    exact Nat.le_add_right _ _
  · obtain ⟨k, hends⟩ := exists_passEnds hgoes hloop
    refine ⟨i + (k + 1), by omega, ?_⟩
    rw [states_add]
    exact ⟨hends, pos_lt_of_passEnds hgoes hloop hends⟩
  · intro j hij hhead
    obtain ⟨k, rfl⟩ := Nat.exists_eq_add_of_lt hij
    rw [Nat.add_assoc, states_add] at hhead ⊢
    exact pos_lt_of_pass hgoes hloop hhead
  · obtain ⟨n, hn, hstopped⟩ := exists_states_stopped source
    have hlength : source.ahead.length = content.length := String.length_toList
    exact ⟨n, by rwa [hlength] at hn, hstopped⟩
  · obtain ⟨hread, hend⟩ := read_of_stopped hlast
    cases fault? with
    | some fault => exact ofPlain_eq_error_iff_statements.2 ⟨draft, fault, hread, rfl⟩
    | none =>
      refine ⟨ofPlain_eq_ok_iff_statements.2 ⟨draft, hread, rfl⟩, hend rfl, fun k hk => ?_⟩
      have hlasttext : last.text = content.toList := by rw [← htext n, hlast]; rfl
      have hahead : last.ahead = [] := List.isEmpty_iff.1 (hend rfl)
      have hpassed : last.passed.length = content.length := by
        rw [← String.length_toList, ← hlasttext, Cursor.text, hahead, List.append_nil,
          List.length_reverse]
      refine existsUnique_passes rfl (n := n) ?_
      rw [hlast]
      exact hk.trans_eq hpassed.symm

/-- The loop over a comment hands back in front of the line feed, farther on by four bytes. -/
theorem reading_progresses_comment :
    let source := Cursor.ofText "rules.olx" "# é\nA ::= a"
    (states source 0).goesOn = true ∧ (states source 0).loop? = some .blankLines ∧
      (states source 5).loop? = some .blankLines ∧ (states source 5).cursor.pos = 4 ∧
      (states source 0).cursor.pos < (states source 5).cursor.pos := by
  intro source
  have hgoes : (states source 0).goesOn = true := by decide
  have hloop : (states source 0).loop? = some .blankLines := by decide
  have hagain : (states source 5).loop? = some .blankLines := by decide
  obtain ⟨-, hpasses, -⟩ := reading_progresses "rules.olx" "# é\nA ::= a"
  exact ⟨hgoes, hloop, hagain, by decide, (hpasses 0 _ hgoes hloop).2 5 (by omega) hagain⟩

end OrderedLexer.RuleFile.Plain
