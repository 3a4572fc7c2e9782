import OrderedLexer.Proofs.Scan.FirstMatch
import OrderedLexer.Scan.Tokens

namespace OrderedLexer

open Text (dropBytes? byteLength)

/-!
# Texts cut into first matches

A scan moves from cut to cut, and what it passes are pieces of the text.

* `RuleSet.Cuts` — pieces that stand for a beginning of a text, each the first match where it
  starts;
* `RuleSet.Cuts.boundary` — such pieces end on a character boundary;
* `RuleSet.Cuts.prefix_of_le` — of two cuts of one text, the shorter is a beginning of the longer;
* `RuleSet.Halts` — why no further piece can be cut off;
* `RuleSet.exists_course_eq` and `RuleSet.course_eq_of_halts` — a scan cuts until it halts, and
  wherever cutting comes to a halt is where the scan halts.
-/

/-! ### Pieces -/

namespace Token

/-- The pieces follow one another without a gap from one byte offset to another. -/
def Contiguous : Nat → List Token → Nat → Prop
  | start, [], stop => start = stop
  | start, t :: ts, stop => t.offset = start ∧ Contiguous t.stop ts stop

/-- The texts of the pieces, put together. -/
def joined (pieces : List Token) : List Char := pieces.flatMap (·.text.toList)

@[simp] theorem joined_nil : joined [] = [] := rfl

@[simp] theorem joined_cons (t : Token) (ts : List Token) :
    joined (t :: ts) = t.text.toList ++ joined ts := rfl

@[simp] theorem joined_append (ps qs : List Token) : joined (ps ++ qs) = joined ps ++ joined qs :=
  List.flatMap_append

theorem contiguous_append {start stop : Nat} {ps qs : List Token} :
    Contiguous start (ps ++ qs) stop ↔
      ∃ middle, Contiguous start ps middle ∧ Contiguous middle qs stop := by
  induction ps generalizing start with
  | nil => simp [Contiguous]
  | cons t ts ih => simp [Contiguous, ih, and_assoc]

/-- What follows without a gap stops behind all its bytes. -/
theorem Contiguous.stop_eq {start stop : Nat} {ps : List Token} (h : Contiguous start ps stop) :
    stop = start + byteLength (joined ps) := by
  induction ps generalizing start with
  | nil => simpa [Contiguous] using h.symm
  | cons t ts ih =>
    obtain ⟨hoffset, hrest⟩ := h
    rw [ih hrest, Token.stop, hoffset, joined_cons, Text.byteLength_append]
    exact Nat.add_assoc _ _ _

end Token

/-- A position moves on by what stands there. -/
theorem Text.dropBytes?_add {pos : Nat} {text front back : List Char}
    (h : dropBytes? pos text = some (front ++ back)) :
    dropBytes? (pos + byteLength front) text = some back := by
  obtain ⟨passed, rfl, rfl⟩ := dropBytes?_eq_some h
  rw [← byteLength_append, ← List.append_assoc]
  exact dropBytes?_append _ _

/-- A text can be cut at its end, and nothing is left there. -/
theorem Text.dropBytes?_eq_nil_iff {pos : Nat} {text rest : List Char}
    (h : dropBytes? pos text = some rest) : rest = [] ↔ pos = byteLength text := by
  obtain ⟨passed, rfl, rfl⟩ := dropBytes?_eq_some h
  rw [← byteLength_eq_zero, byteLength_append]
  omega

/-- Where something is left of a text, it does not end. -/
theorem Text.lt_byteLength {pos : Nat} {text rest : List Char}
    (h : dropBytes? pos text = some rest) (hne : rest ≠ []) : pos < byteLength text := by
  have hpos := mt (dropBytes?_eq_nil_iff h).2 hne
  obtain ⟨passed, rfl, rfl⟩ := dropBytes?_eq_some h
  rw [byteLength_append] at hpos ⊢
  omega

namespace RuleSet

variable {set : RuleSet} {text rest : List Char} {ps qs : List Token} {p q : Nat} {r : Rule}

/-- The pieces cut off the text up to a byte offset: they follow one another from byte 0, none is
    empty, together they are what the text begins with, and each is the first match where it
    starts. -/
structure Cuts (set : RuleSet) (text : List Char) (pieces : List Token) (stop : Nat) : Prop where
  contiguous : Token.Contiguous 0 pieces stop
  nonempty : ∀ t ∈ pieces, t.text ≠ ""
  begins : Token.joined pieces <+: text
  first : ∀ t ∈ pieces, set.IsFirstMatch text t.offset t.text.toList t.rule

/-- Nothing is cut off at first. -/
theorem Cuts.zero (set : RuleSet) (text : List Char) : set.Cuts text [] 0 where
  contiguous := rfl
  nonempty := by simp
  begins := List.nil_prefix
  first := by simp

/-- What is cut off ends on a character boundary, and the rest of the text stands there. -/
theorem Cuts.boundary (h : set.Cuts text ps p) :
    ∃ rest, dropBytes? p text = some rest ∧ text = Token.joined ps ++ rest := by
  obtain ⟨rest, hrest⟩ := h.begins
  refine ⟨rest, ?_, hrest.symm⟩
  rw [h.contiguous.stop_eq, Nat.zero_add, ← hrest]
  exact Text.dropBytes?_append _ _

/-- **Step.** Another first match that is not empty is another piece. -/
theorem Cuts.step {matched : List Char} (h : set.Cuts text ps p)
    (hfirst : set.IsFirstMatch text p matched r) (hne : matched ≠ [])
    (hrest : dropBytes? p text = some (matched ++ rest)) :
    set.Cuts text (ps ++ [⟨String.ofList matched, r, p⟩]) (p + byteLength matched) where
  contiguous := by
    refine Token.contiguous_append.2 ⟨p, h.contiguous, rfl, ?_⟩
    show p + byteLength (String.ofList matched).toList = p + byteLength matched
    rw [String.toList_ofList]
  nonempty := by
    intro t ht
    rcases List.mem_append.1 ht with ht | ht
    · exact h.nonempty t ht
    · rw [List.mem_singleton.1 ht]
      intro hempty
      exact hne (by simpa using congrArg String.toList hempty)
  begins := by
    obtain ⟨rest', hrest', htext⟩ := h.boundary
    obtain rfl : rest' = matched ++ rest := Option.some.inj (hrest'.symm.trans hrest)
    refine ⟨rest, ?_⟩
    rw [htext]
    simp
  first := by
    intro t ht
    rcases List.mem_append.1 ht with ht | ht
    · exact h.first t ht
    · rw [List.mem_singleton.1 ht, String.toList_ofList]
      exact hfirst

/-- Each piece takes at least one character, so there are no more pieces than characters. -/
theorem Cuts.length_le (h : set.Cuts text ps p) : ps.length ≤ text.length := by
  have hjoined : ∀ qs : List Token, (∀ t ∈ qs, t.text ≠ "") →
      qs.length ≤ (Token.joined qs).length := by
    intro qs hqs
    induction qs with
    | nil => simp
    | cons t ts ih =>
      have ht : t.text.toList ≠ [] := by simpa using hqs t List.mem_cons_self
      have := List.length_pos_iff.2 ht
      have := ih fun s hs => hqs s (List.mem_cons_of_mem _ hs)
      rw [Token.joined_cons, List.length_append, List.length_cons]
      omega
  exact Nat.le_trans (hjoined ps h.nonempty) h.begins.length_le

/-- Pieces cut off one text from one offset on agree for as long as both go on. -/
theorem prefix_of_contiguous {start : Nat} (hps : Token.Contiguous start ps p)
    (hqs : Token.Contiguous start qs q)
    (hpne : ∀ t ∈ ps, t.text ≠ "")
    (hpfirst : ∀ t ∈ ps, set.IsFirstMatch text t.offset t.text.toList t.rule)
    (hqfirst : ∀ t ∈ qs, set.IsFirstMatch text t.offset t.text.toList t.rule)
    (hle : p ≤ q) : ps <+: qs := by
  -- Both go on at one offset, where there is one first match only.
  induction ps generalizing start qs with
  | nil => exact List.nil_prefix
  | cons t ts ih =>
    obtain ⟨htoffset, hts⟩ := hps
    cases qs with
    | nil =>
      -- `t` would have to end where it starts.
      have hstart : start = q := hqs
      have hstop := hts.stop_eq
      have ht : byteLength t.text.toList ≠ 0 := by
        rw [Ne, Text.byteLength_eq_zero]
        simpa using hpne t List.mem_cons_self
      rw [Token.stop] at hstop
      omega
    | cons s ss =>
      obtain ⟨hsoffset, hss⟩ := hqs
      have hoffset : t.offset = s.offset := htoffset.trans hsoffset.symm
      have hs := hqfirst s List.mem_cons_self
      rw [← hoffset] at hs
      obtain ⟨htext, hrule⟩ := (hpfirst t List.mem_cons_self).unique hs
      obtain rfl : t = s := by
        cases t
        cases s
        simp_all [String.toList_inj]
      rw [List.cons_prefix_cons]
      refine ⟨rfl, ih hts hss ?_ ?_ ?_⟩
      · exact fun t' ht' => hpne t' (List.mem_cons_of_mem _ ht')
      · exact fun t' ht' => hpfirst t' (List.mem_cons_of_mem _ ht')
      · exact fun t' ht' => hqfirst t' (List.mem_cons_of_mem _ ht')

/-- **Uniqueness.** Of two cuts of one text, the shorter is a beginning of the longer. -/
theorem Cuts.prefix_of_le (hp : set.Cuts text ps p) (hq : set.Cuts text qs q) (hle : p ≤ q) :
    ps <+: qs :=
  prefix_of_contiguous hp.contiguous hq.contiguous hp.nonempty hp.first hq.first hle

/-- The pieces up to an offset are determined. -/
theorem Cuts.unique (hp : set.Cuts text ps p) (hq : set.Cuts text qs p) : ps = qs :=
  (hp.prefix_of_le hq (Nat.le_refl p)).eq_of_length_le
    (hq.prefix_of_le hp (Nat.le_refl p)).length_le

/-! ### Halts -/

/-- Why nothing more is cut off at a byte offset: the text ends there, or no rule matches, or the
    first rule that matches takes nothing. -/
inductive Halts (set : RuleSet) (text : List Char) (pos : Nat) : Halt → Prop
  | finished : pos = byteLength text → Halts set text pos .finished
  | noMatch : pos < byteLength text → set.NoMatchAt text pos → Halts set text pos .noMatch
  | emptyMatch {r : Rule} : pos < byteLength text → set.IsFirstMatch text pos [] r →
      Halts set text pos (.emptyMatch r)

/-- Where cutting halts, no match takes anything. -/
theorem Halts.eq_nil {halt : Halt} {matched : List Char} (h : set.Halts text p halt)
    (hfirst : set.IsFirstMatch text p matched r) : matched = [] := by
  cases h with
  | finished hend =>
    -- Behind the whole text there is nothing to take.
    have hrest : dropBytes? p text = some [] := by
      rw [hend]
      simpa using Text.dropBytes?_append text []
    have hmatch := nextMatch?_eq_some_iff.2 hfirst
    rw [nextMatch?_of_dropBytes? hrest] at hmatch
    exact (List.append_eq_nil_iff.1 (eq_append_of_firstMatch? hmatch).symm).1
  | noMatch _ hno => exact absurd hno hfirst.not_noMatchAt
  | emptyMatch _ hempty => exact (hfirst.unique hempty).1

/-- Cutting halts at an offset for one reason only. -/
theorem Halts.unique {halt halt' : Halt} (h : set.Halts text p halt)
    (h' : set.Halts text p halt') : halt = halt' := by
  cases h with
  | finished hend =>
    cases h' with
    | finished _ => rfl
    | noMatch hlt _ => omega
    | emptyMatch hlt _ => omega
  | noMatch hlt hno =>
    cases h' with
    | finished hend => omega
    | noMatch _ _ => rfl
    | emptyMatch _ hempty => exact absurd hno hempty.not_noMatchAt
  | emptyMatch hlt hempty =>
    cases h' with
    | finished hend => omega
    | noMatch _ hno => exact absurd hno hempty.not_noMatchAt
    | emptyMatch _ hempty' => rw [(hempty.unique hempty').2]

/-- Nothing is cut off behind an offset where cutting halts. -/
theorem Halts.stop_le {halt : Halt} (h : set.Halts text p halt) (hp : set.Cuts text ps p)
    (hq : set.Cuts text qs q) : q ≤ p := by
  -- Otherwise the next piece would start where no match takes anything.
  refine Nat.le_of_not_lt fun hlt => ?_
  obtain ⟨more, rfl⟩ := hp.prefix_of_le hq (Nat.le_of_lt hlt)
  obtain ⟨middle, hps, hmore⟩ := Token.contiguous_append.1 hq.contiguous
  obtain rfl : middle = p := hps.stop_eq.trans hp.contiguous.stop_eq.symm
  cases more with
  | nil => exact Nat.lt_irrefl _ (Nat.lt_of_lt_of_eq hlt hmore.symm)
  | cons t ts =>
    have ht : t ∈ ps ++ t :: ts := by simp
    have hfirst := hq.first t ht
    rw [hmore.1] at hfirst
    exact hq.nonempty t ht (by simpa using h.eq_nil hfirst)

/-- **Run.** A scan that goes on from a cut cuts until it halts. -/
theorem courseFrom_halts (hcuts : set.Cuts text ps p) (hrest : dropBytes? p text = some rest) :
    let course := courseFrom set.rules p rest
    set.Cuts text (ps ++ course.found) course.offset ∧
      dropBytes? course.offset text = some course.rest ∧
      set.Halts text course.offset course.halt := by
  -- Induction along the scan; the pieces cut off so far grow with it.
  fun_induction courseFrom set.rules p rest generalizing ps with
  | case1 p =>
    have hend := (Text.dropBytes?_eq_nil_iff hrest).1 rfl
    exact ⟨by simpa using hcuts, hrest, .finished hend⟩
  | case2 p rest hne hnone =>
    have hlt := Text.lt_byteLength hrest hne
    rw [← nextMatch?_of_dropBytes? hrest] at hnone
    exact ⟨by simpa using hcuts, hrest, .noMatch hlt (nextMatch?_eq_none_iff.1 hnone)⟩
  | case3 p rest hne r hsome =>
    have hlt := Text.lt_byteLength hrest hne
    rw [← nextMatch?_of_dropBytes? hrest] at hsome
    exact ⟨by simpa using hcuts, hrest, .emptyMatch hlt (nextMatch?_eq_some_iff.1 hsome)⟩
  | case4 p rest hne matched r hsome hmatched course =>
    rename_i ih
    have hsplit := eq_append_of_firstMatch? hsome
    rw [← nextMatch?_of_dropBytes? hrest] at hsome
    rw [hsplit] at hrest
    have hstep := hcuts.step (nextMatch?_eq_some_iff.1 hsome) hmatched hrest
    have hrun := ih hstep (Text.dropBytes?_add hrest)
    simpa using hrun

/-- A scan cuts a text from its start until it halts. -/
theorem exists_course_eq (set : RuleSet) (text : List Char) :
    ∃ ps halt p rest, set.course text = ⟨ps, halt, p, rest⟩ ∧ set.Cuts text ps p ∧
      dropBytes? p text = some rest ∧ set.Halts text p halt :=
  ⟨_, _, _, _, rfl, courseFrom_halts (Cuts.zero set text) (by simp)⟩

/-- Wherever cutting comes to a halt is where the scan halts. -/
theorem course_eq_of_halts {halt : Halt} (hcuts : set.Cuts text ps p)
    (hrest : dropBytes? p text = some rest) (hhalts : set.Halts text p halt) :
    set.course text = ⟨ps, halt, p, rest⟩ := by
  obtain ⟨qs, halt', q, rest', hcourse, hqs, hrest', hhalts'⟩ := exists_course_eq set text
  -- Neither goes on behind the other.
  obtain rfl : q = p := Nat.le_antisymm (hhalts.stop_le hcuts hqs) (hhalts'.stop_le hqs hcuts)
  obtain rfl : rest' = rest := Option.some.inj (hrest'.symm.trans hrest)
  rw [hcourse, hqs.unique hcuts, hhalts'.unique hhalts]

end RuleSet
end OrderedLexer
