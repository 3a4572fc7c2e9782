import OrderedLexer.Proofs.Scan.Cuts

namespace OrderedLexer.RuleSet

open Text (dropBytes? byteLength)

/-!
# What a scan comes to

The three results of `RuleSet.scan`, each told by the pieces that the text can be cut into.

* `scan_eq_ok_iff` — tokens, if the pieces stand for the whole text;
* `scan_eq_noMatch_iff` — an error where no rule matches behind the pieces;
* `scan_eq_emptyMatch_iff` — an error where the first rule that matches behind the pieces takes
  nothing;
* `scan_outcome` — all of it, with the uniqueness of the pieces and the bounds on where they end.
-/

variable {set : RuleSet} {text file : String} {size : Nat}

/-- **Success.** A scan gives tokens exactly if the whole text is cut into first matches. -/
theorem scan_eq_ok_iff {tokens : List Token} :
    set.scan text file size = .ok tokens ↔
      ∃ pieces, set.Cuts text.toList pieces (byteLength text.toList) ∧
        tokens = pieces.filter (·.rule.captures) := by
  constructor
  · intro hscan
    obtain ⟨_, _, _, _, hcourse, hcuts, hrest, hhalts⟩ := exists_course_eq set text.toList
    rw [scan, hcourse] at hscan
    cases hhalts with
    | finished hend => exact ⟨_, hend ▸ hcuts, (Except.ok.inj hscan).symm⟩
    | noMatch _ _ => contradiction
    | emptyMatch _ _ => contradiction
  · rintro ⟨pieces, hcuts, rfl⟩
    obtain ⟨rest, hrest, _⟩ := hcuts.boundary
    rw [scan, course_eq_of_halts hcuts hrest (.finished rfl)]
    rfl

/-- **No rule.** A scan stops for want of a rule exactly where pieces end and no rule matches. -/
theorem scan_eq_noMatch_iff {pos : Nat} {window : String} {location : Location} :
    set.scan text file size = .error (.noMatch pos window location) ↔
      ∃ pieces rest, set.Cuts text.toList pieces pos ∧ pos < byteLength text.toList ∧
        set.NoMatchAt text.toList pos ∧ dropBytes? pos text.toList = some rest ∧
        window = String.ofList (rest.take size) ∧
        location = (LineIndex.ofText file text.toList).point pos := by
  constructor
  · intro hscan
    obtain ⟨_, _, _, _, hcourse, hcuts, hrest, hhalts⟩ := exists_course_eq set text.toList
    rw [scan, hcourse] at hscan
    cases hhalts with
    | finished _ => contradiction
    | noMatch hlt hno =>
      obtain ⟨rfl, rfl, rfl⟩ := ScanError.noMatch.inj (Except.error.inj hscan)
      exact ⟨_, _, hcuts, hlt, hno, hrest, rfl, rfl⟩
    | emptyMatch _ _ => cases hscan
  · rintro ⟨pieces, rest, hcuts, hlt, hno, hrest, rfl, rfl⟩
    rw [scan, course_eq_of_halts hcuts hrest (.noMatch hlt hno)]
    rfl

/-- **Empty match.** A scan stops at an empty match exactly where pieces end and the first rule that
    matches takes nothing. -/
theorem scan_eq_emptyMatch_iff {pattern : String} {location : Location} :
    set.scan text file size = .error (.emptyMatch pattern location) ↔
      ∃ pieces pos r, set.Cuts text.toList pieces pos ∧ pos < byteLength text.toList ∧
        set.IsFirstMatch text.toList pos [] r ∧ pattern = r.pattern ∧
        location = (LineIndex.ofText file text.toList).point pos := by
  constructor
  · intro hscan
    obtain ⟨_, _, _, _, hcourse, hcuts, hrest, hhalts⟩ := exists_course_eq set text.toList
    rw [scan, hcourse] at hscan
    cases hhalts with
    | finished _ => contradiction
    | noMatch _ _ => cases hscan
    | emptyMatch hlt hempty =>
      obtain ⟨rfl, rfl⟩ := ScanError.emptyMatch.inj (Except.error.inj hscan)
      exact ⟨_, _, _, hcuts, hlt, hempty, rfl, rfl⟩
  · rintro ⟨pieces, pos, r, hcuts, hlt, hempty, rfl, rfl⟩
    obtain ⟨rest, hrest, _⟩ := hcuts.boundary
    rw [scan, course_eq_of_halts hcuts hrest (.emptyMatch hlt hempty)]
    rfl

/-- **What a scan comes to.** For every rule set, text, name and window size:

    * tokens are given exactly if first matches, none of them empty, follow one another from byte 0
      to the end of the text; they are those of the matches whose rule captures;
    * no rule matches at an offset inside the text exactly if such matches lead up to it and no rule
      of any order matches there; the window shows what stands there, at most `size` characters of
      it;
    * an empty match is refused exactly if such matches lead up to it and the first rule that
      matches there takes nothing;
    * the matches that lead up to an offset are determined by it, are no more than the text has
      characters, and end on a character boundary, with the rest of the text behind it.

    The results exclude one another, and a scan has one, so exactly one of the three conditions
    holds. -/
theorem scan_outcome (set : RuleSet) (text file : String) (size : Nat) :
    (∀ tokens, set.scan text file size = .ok tokens ↔
      ∃ pieces, set.Cuts text.toList pieces (byteLength text.toList) ∧
        Token.joined pieces = text.toList ∧ tokens = pieces.filter (·.rule.captures)) ∧
    (∀ pos window location, set.scan text file size = .error (.noMatch pos window location) ↔
      ∃ pieces rest, set.Cuts text.toList pieces pos ∧ pos < byteLength text.toList ∧
        set.NoMatchAt text.toList pos ∧ dropBytes? pos text.toList = some rest ∧
        window = String.ofList (rest.take size) ∧
        location = (LineIndex.ofText file text.toList).point pos) ∧
    (∀ pattern location, set.scan text file size = .error (.emptyMatch pattern location) ↔
      ∃ pieces pos r, set.Cuts text.toList pieces pos ∧ pos < byteLength text.toList ∧
        set.IsFirstMatch text.toList pos [] r ∧ pattern = r.pattern ∧
        location = (LineIndex.ofText file text.toList).point pos) ∧
    (∀ pieces pieces' pos, set.Cuts text.toList pieces pos → set.Cuts text.toList pieces' pos →
      pieces = pieces') ∧
    (∀ pieces pos, set.Cuts text.toList pieces pos → pieces.length ≤ text.toList.length ∧
      ∃ rest, dropBytes? pos text.toList = some rest ∧
        text.toList = Token.joined pieces ++ rest) := by
  refine ⟨fun tokens => ?_, fun _ _ _ => scan_eq_noMatch_iff, fun _ _ => scan_eq_emptyMatch_iff,
    fun _ _ _ h h' => h.unique h', fun _ _ h => ⟨h.length_le, h.boundary⟩⟩
  rw [scan_eq_ok_iff]
  constructor
  · rintro ⟨pieces, hcuts, htokens⟩
    obtain ⟨rest, hrest, htext⟩ := hcuts.boundary
    have hend := (Text.dropBytes?_eq_nil_iff hrest).2 rfl
    refine ⟨pieces, hcuts, ?_, htokens⟩
    rw [hend, List.append_nil] at htext
    exact htext.symm
  · rintro ⟨pieces, hcuts, _, htokens⟩
    exact ⟨pieces, hcuts, htokens⟩

end OrderedLexer.RuleSet
