import OrderedLexer.Proofs.Scan.Cuts
import OrderedLexer.Scan.Tokens

namespace OrderedLexer

open Text (dropBytes? byteLength)

/-!
# Scans start again behind a match

No pattern sees the text before the position at which it is tried. So a scan of what is left behind
one of the matches goes on just as the scan of the whole text does.

* `Token.since`, `Course.since` — matches and courses with their offsets counted from a position;
* `RuleSet.courseFrom_eq_since` — the offset at which a text starts only counts for the offsets;
* `RuleSet.Cuts.course_eq` — a course goes on from any of its cuts;
* `RuleSet.Cuts.course_rest` — the course of what is left is what is left of the course;
* `RuleSet.scan_restart` — so are the tokens, and the error at which the scan stops.
-/

/-! ### Offsets counted from a position -/

/-- The token with its offset counted from a position before it. -/
def Token.since (start : Nat) (t : Token) : Token := { t with offset := t.offset - start }

/-- What happens from a position on, with the offsets counted from there. -/
def Course.since (start : Nat) (c : Course) : Course where
  found := (c.found.filter (start ≤ ·.offset)).map (Token.since start)
  halt := c.halt
  offset := c.offset - start
  rest := c.rest

/-- The tokens kept from a position on are those of all kept tokens that do not lie before it. -/
theorem Course.kept_since (start : Nat) (c : Course) :
    (c.since start).kept = (c.kept.filter (start ≤ ·.offset)).map (Token.since start) := by
  have hcaptures : (fun t : Token => t.rule.captures) ∘ Token.since start =
      fun t => t.rule.captures := rfl
  rw [kept, kept, since, List.filter_map, List.filter_filter, List.filter_filter, hcaptures]
  simp only [Bool.and_comm]

namespace Token

variable {start stop : Nat} {ps : List Token} {t : Token}

/-- What follows without a gap lies between its ends. -/
theorem Contiguous.stop_le (h : Contiguous start ps stop) (ht : t ∈ ps) : t.stop ≤ stop := by
  obtain ⟨front, back, rfl⟩ := List.append_of_mem ht
  obtain ⟨middle, -, -, hback⟩ := contiguous_append.1 h
  rw [hback.stop_eq]
  exact Nat.le_add_right _ _

end Token

namespace RuleSet

variable {set : RuleSet} {text rest : List Char} {ps qs : List Token} {p q : Nat}

/-! ### Courses go on from their cuts -/

/-- A piece that is not empty starts before the offset up to which pieces are cut off. -/
theorem Cuts.offset_lt (h : set.Cuts text ps p) {t : Token} (ht : t ∈ ps) : t.offset < p := by
  have hstop : t.offset + byteLength t.text.toList ≤ p := h.contiguous.stop_le ht
  have hlength : byteLength t.text.toList ≠ 0 := by
    rw [Ne, Text.byteLength_eq_zero]
    simpa using h.nonempty t ht
  omega

/-- The first of some pieces are pieces of the text, too. -/
theorem Cuts.of_append (h : set.Cuts text (ps ++ qs) q) :
    ∃ p, set.Cuts text ps p ∧ Token.Contiguous p qs q := by
  obtain ⟨p, hps, hqs⟩ := Token.contiguous_append.1 h.contiguous
  refine ⟨p, ⟨hps, fun t ht => ?_, ?_, fun t ht => ?_⟩, hqs⟩
  · exact h.nonempty t (List.mem_append_left qs ht)
  · have hbegins := h.begins
    rw [Token.joined_append] at hbegins
    exact (List.prefix_append _ _).trans hbegins
  · exact h.first t (List.mem_append_left qs ht)

/-- **Shift.** The offset at which a text starts only counts for the offsets in the course. -/
theorem courseFrom_eq_since (rules : List Rule) (start offset : Nat) (text : List Char) :
    courseFrom rules offset text = (courseFrom rules (start + offset) text).since start := by
  fun_induction courseFrom rules offset text with
  | case1 offset =>
    rw [courseFrom, if_pos rfl]
    simp [Course.since]
  | case2 offset text hne hnone =>
    rw [courseFrom, if_neg hne, hnone]
    simp [Course.since]
  | case3 offset text hne r hsome =>
    rw [courseFrom, if_neg hne, hsome]
    simp [Course.since]
  | case4 offset text hne matched r hsome hmatched course ih =>
    rw [courseFrom, if_neg hne, hsome]
    simp only [if_neg hmatched]
    have hcourse : course = (courseFrom rules (start + offset + byteLength matched)
        (text.drop matched.length)).since start := by
      rw [Nat.add_assoc]
      exact ih
    rw [hcourse]
    -- The match stands at or behind `start`, as all that follow it do.
    simp [Course.since, Token.since]

/-- A course goes on from any of its cuts. -/
theorem Cuts.course_eq (h : set.Cuts text ps p) (hrest : dropBytes? p text = some rest) :
    set.course text = { courseFrom set.rules p rest with
      found := ps ++ (courseFrom set.rules p rest).found } := by
  obtain ⟨hcuts, hdrop, hhalts⟩ := courseFrom_halts h hrest
  exact course_eq_of_halts hcuts hdrop hhalts

/-- A scan does not halt before a cut. -/
theorem Cuts.le_offset (h : set.Cuts text ps p) : p ≤ (set.course text).offset := by
  obtain ⟨rest, hrest, -⟩ := h.boundary
  obtain ⟨hcuts, -, -⟩ := courseFrom_halts h hrest
  rw [h.course_eq hrest]
  obtain ⟨middle, hps, hfound⟩ := Token.contiguous_append.1 hcuts.contiguous
  rw [hfound.stop_eq, hps.stop_eq, ← h.contiguous.stop_eq]
  exact Nat.le_add_right _ _

/-- **Restart.** The course of what is left behind a cut is what is left of the course. -/
theorem Cuts.course_rest (h : set.Cuts text ps p) (hrest : dropBytes? p text = some rest) :
    set.course rest = (set.course text).since p := by
  have hbefore : ps.filter (p ≤ ·.offset) = [] := by
    rw [List.filter_eq_nil_iff]
    intro t ht
    have := h.offset_lt ht
    simpa using this
  calc set.course rest = (courseFrom set.rules p rest).since p :=
        courseFrom_eq_since set.rules p 0 rest
    _ = (set.course text).since p := by
        rw [h.course_eq hrest]
        simp only [Course.since, List.filter_append, hbefore, List.nil_append]

/-! ### Scans -/

/-- The positions that a scan gets to: the start of the text and the end of each match, whether the
    match is kept or not. -/
def Reaches (set : RuleSet) (text : List Char) (p : Nat) : Prop :=
  p = 0 ∨ ∃ t ∈ (set.course text).found, t.stop = p

/-- Pieces end where a scan gets to. -/
theorem Reaches.exists_cuts (h : set.Reaches text p) : ∃ ps, set.Cuts text ps p := by
  rcases h with rfl | ⟨t, ht, rfl⟩
  · exact ⟨[], Cuts.zero set text⟩
  · obtain ⟨found, _, _, _, hcourse, hcuts, -, -⟩ := exists_course_eq set text
    rw [hcourse] at ht
    obtain ⟨front, back, rfl⟩ := List.append_of_mem ht
    rw [← List.singleton_append, ← List.append_assoc] at hcuts
    obtain ⟨p, hp, -⟩ := hcuts.of_append
    obtain ⟨_, -, -, hstop⟩ := Token.contiguous_append.1 hp.contiguous
    obtain rfl : t.stop = p := hstop
    exact ⟨_, hp⟩

/-- **Restart.** At each position that a scan gets to, a part of the text is left, and a scan of
    this part is what is left of the scan:

    * its matches, kept or not, are those from the position on, with the offsets counted from there;
    * if the scan gives tokens, it gives those from the position on;
    * if no rule matches at an offset, no rule matches there, and the same window is shown;
    * if an empty match is refused, that of the same pattern is refused at the same place of what is
      left. -/
theorem scan_restart (set : RuleSet) (text file : String) (size p : Nat)
    (h : set.Reaches text.toList p) :
    ∃ rest : String, dropBytes? p text.toList = some rest.toList ∧
      set.course rest.toList = (set.course text.toList).since p ∧
      (∀ tokens, set.scan text file size = .ok tokens →
        set.scan rest file size =
          .ok ((tokens.filter (p ≤ ·.offset)).map fun t => { t with offset := t.offset - p })) ∧
      (∀ offset window location,
        set.scan text file size = .error (.noMatch offset window location) →
          p ≤ offset ∧ set.scan rest file size = .error (.noMatch (offset - p) window
            ((LineIndex.ofText file rest.toList).point (offset - p)))) ∧
      (∀ pattern location, set.scan text file size = .error (.emptyMatch pattern location) →
        p ≤ (set.course text.toList).offset ∧
          location = (LineIndex.ofText file text.toList).point (set.course text.toList).offset ∧
          set.scan rest file size = .error (.emptyMatch pattern
            ((LineIndex.ofText file rest.toList).point
              ((set.course text.toList).offset - p)))) := by
  obtain ⟨ps, hcuts⟩ := h.exists_cuts
  obtain ⟨rest, hrest, -⟩ := hcuts.boundary
  have hle := hcuts.le_offset
  have hcourse := hcuts.course_rest hrest
  refine ⟨String.ofList rest, by rw [hrest, String.toList_ofList], ?_⟩
  unfold scan
  rw [String.toList_ofList, hcourse]
  generalize set.course text.toList = c at hle ⊢
  obtain ⟨found, halt, offset, ahead⟩ := c
  refine ⟨rfl, fun tokens hscan => ?_, fun o window location hscan => ?_,
    fun pattern location hscan => ?_⟩
  · cases halt with
    | finished =>
      obtain rfl := Except.ok.inj hscan
      exact congrArg Except.ok (Course.kept_since p _)
    | noMatch => cases hscan
    | emptyMatch r => cases hscan
  · cases halt with
    | finished => cases hscan
    | noMatch =>
      obtain ⟨rfl, rfl, rfl⟩ := ScanError.noMatch.inj (Except.error.inj hscan)
      exact ⟨hle, rfl⟩
    | emptyMatch r => cases hscan
  · cases halt with
    | finished => cases hscan
    | noMatch => cases hscan
    | emptyMatch r =>
      obtain ⟨rfl, rfl⟩ := ScanError.emptyMatch.inj (Except.error.inj hscan)
      exact ⟨hle, rfl, rfl⟩

/-- Behind the first match the start of the text holds, as it does in the text that is left. -/
theorem scan_restart_anchored : ∃ a b, Rule.ofPattern "a" .natural false = .ok a ∧
    Rule.ofPattern "^b" = .ok b ∧ (new.extendHere [a, b]).Reaches "ab".toList 1 ∧
    (new.extendHere [a, b]).scan "ab" = .ok [⟨"b", b, 1⟩] ∧
    (new.extendHere [a, b]).scan "b" = .ok [⟨"b", b, 0⟩] := by
  have hcompiles : (Regex.compile "a").isOk = true ∧ (Regex.compile "^b").isOk = true := by decide
  obtain ⟨a, ha⟩ := Rule.exists_ofPattern hcompiles.1 .natural false none
  obtain ⟨b, hb⟩ := Rule.exists_ofPattern hcompiles.2 .natural true none
  have heval : ((Rule.ofPattern "a" .natural false).toOption.bind fun a =>
      (Rule.ofPattern "^b").toOption.map fun b =>
        decide ((new.extendHere [a, b]).course "ab".toList =
            ⟨[⟨"a", a, 0⟩, ⟨"b", b, 1⟩], .finished, 2, []⟩ ∧
          a.captures = false ∧ b.captures = true)) = some true := by decide +kernel
  rw [ha, hb] at heval
  obtain ⟨hcourse, hdropped, hkept⟩ := of_decide_eq_true (Option.some.inj heval)
  have hscan : (new.extendHere [a, b]).scan "ab" = .ok [⟨"b", b, 1⟩] := by
    unfold scan
    rw [hcourse]
    simp [Course.tokens, Course.kept, hdropped, hkept]
  have hreaches : (new.extendHere [a, b]).Reaches "ab".toList 1 := by
    have hstop : 0 + byteLength "a".toList = 1 := by decide
    refine .inr ⟨⟨"a", a, 0⟩, ?_, hstop⟩
    rw [hcourse]
    exact List.mem_cons_self
  obtain ⟨rest, hrest, -, htokens, -⟩ := scan_restart _ "ab" "<input>" Course.windowSize 1 hreaches
  obtain rfl : "b" = rest := by
    rw [← String.toList_inj]
    exact Option.some.inj hrest
  exact ⟨a, b, ha, hb, hreaches, hscan, htokens _ hscan⟩

end RuleSet
end OrderedLexer
