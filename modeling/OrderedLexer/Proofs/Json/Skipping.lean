import OrderedLexer.Proofs.Json.Scalars

namespace OrderedLexer.Json

open Reader

/-!
# Values that are passed over

Any value is passed over in one loop, with a stack of the lists and objects that are open. Behind a
value, some of them are closed, and a comma and a key may lead to another value.

* `AnyText` — the ways to write any value, `AnyParts` — the parts of a list or an object;
* `Closes` — what may stand behind a value inside the lists and objects that are open;
* `afterValue_written`, `Closes.reads_afterValue` — one step behind a value;
* `skipWithin_step`, `reads_skipWithin_scalar`, `reads_skipWithin_opening` — one step at a value;
* `recognizes_skipValue` — any value is passed over, and nothing else.
-/

/-! ### The ways to write any value -/

/-- The bracket that opens a list or an object. -/
def Reader.Frame.opening : Frame → Char
  | .list => '['
  | .object => '\x7b'

/-- The bracket that closes a list or an object. -/
def Reader.Frame.closing : Frame → Char
  | .list => ']'
  | .object => '\x7d'

/-- What stands before a value in a list or an object: nothing, or any key with its colon. -/
inductive AnyKey : Frame → List Char → Prop
  | list : AnyKey .list []
  | object {key ws : List Char} : AnyString key → Blanks ws → AnyKey .object (key ++ ws ++ [':'])
mutual

/-- The ways to write any value. -/
inductive AnyText : List Char → Prop
  | scalar {text : List Char} : AnyScalar text → AnyText text
  | enclosed {frame : Frame} {body ws : List Char} : AnyParts frame true body → Blanks ws →
      AnyText (frame.opening :: body ++ ws ++ [frame.closing])

/-- The ways to write the parts of a list or an object; the flag tells whether the first of them
    comes first of all. -/
inductive AnyParts : Frame → Bool → List Char → Prop
  | nil (frame : Frame) (first : Bool) : AnyParts frame first []
  | cons {frame : Frame} {first : Bool} {lead key ws text texts : List Char} : Lead first lead →
      AnyKey frame key → Blanks ws → AnyText text → AnyParts frame false texts →
      AnyParts frame first (lead ++ key ++ ws ++ text ++ texts)

end

/-- What may stand behind a value inside the lists and objects that are open: their further parts
    and their brackets. The flag tells whether the innermost has no part yet. -/
inductive Closes : Bool → List Frame → List Char → Prop
  | nil (first : Bool) : Closes first [] []
  | cons {first : Bool} {frame : Frame} {outer : List Frame} {body ws tail : List Char} :
      AnyParts frame first body → Blanks ws → Closes false outer tail →
      Closes first (frame :: outer) (body ++ ws ++ frame.closing :: tail)

variable {text rest ws ws' : List Char} {c : Char} {u : Unit} {fuel : Nat} {frame : Frame}
  {frames : List Frame}
/-- A value starts with neither a blank nor a bracket that closes. -/
theorem AnyText.head (h : AnyText text) :
    ∃ c cs, text = c :: cs ∧ isBlank c = false ∧ c ≠ ']' := by
  cases h with
  | scalar hscalar => exact hscalar.head
  | @enclosed frame _ _ _ _ => exact ⟨frame.opening, _, rfl, by cases frame <;> decide⟩

/-! ### Keys -/

/-- What is passed over as a key is written as one. -/
theorem skipKey_written (h : Reads skipKey text u rest) :
    ∃ ws key, Blanks ws ∧ AnyKey .object key ∧ text = ws ++ key ++ rest := by
  simp only [skipKey, reads_bind_iff, reads_upcoming_iff, reads_guard_iff, reads_advance_iff,
    reads_remaining_iff, reads_colon_iff] at h
  obtain ⟨c, _, ⟨-, ws, tail, hws, rfl, rfl⟩, hc, _, _, rfl, _, _, ⟨rfl, rfl⟩, _, _, hstring,
    ws', hws', rfl⟩ := h
  obtain rfl : c = '"' := by simpa using hc
  obtain ⟨body, hbody, htail⟩ := skipString_written hstring
  refine ⟨ws, _, hws, .object (.mk hbody) hws', ?_⟩
  rw [htail]
  simp

/-- What leads to another value in a frame is the key that stands before it. -/
theorem leadingKey_written {outer frames' : List Frame}
    (h : Reads (do
      if frame = .object then skipKey
      return frame :: outer) text frames' rest) :
    frames' = frame :: outer ∧
      ∃ ws key, Blanks ws ∧ AnyKey frame key ∧ text = ws ++ key ++ rest := by
  cases frame with
  | list =>
    obtain ⟨rfl, rfl⟩ := reads_pure_iff.1 h
    exact ⟨rfl, [], [], blanks_nil, .list, rfl⟩
  | object =>
    obtain ⟨_, _, hkey, hread⟩ := reads_bind_iff.1 h
    obtain ⟨rfl, rfl⟩ := reads_pure_iff.1 hread
    exact ⟨rfl, skipKey_written hkey⟩

/-- A key is passed over. -/
theorem reads_skipKey {key : List Char} (h : AnyKey .object key) (hws : Blanks ws)
    (rest : List Char) : Reads skipKey (ws ++ key ++ rest) () rest := by
  cases h with
  | @object _ ws' hkey hws' =>
    cases hkey with
    | @mk body hbody =>
      unfold skipKey
      simp only [List.append_assoc, List.cons_append, List.nil_append]
      refine (reads_upcoming _ hws (by decide)).bind ?_
      rw [if_neg (by decide)]
      refine (reads_advance '"' _).bind ?_
      refine (reads_remaining _).bind ?_
      have hfuel : body.length < (body ++ '"' :: (ws' ++ ':' :: rest)).length + 1 := by
        rw [List.length_append]
        omega
      refine (reads_skipString hbody hfuel _).bind ?_
      exact reads_colon hws' rest

/-! ### What stands behind a value -/

/-- Behind a value, either the innermost frame is closed, or another value follows in it. -/
theorem afterValue_cons (fuel : Nat) (comma : Bool) (frame : Frame) (outer : List Frame) :
    ∃ unfinished expected, afterValue (fuel + 1) comma (frame :: outer) = (do
      let c ← upcoming unfinished
      if c = frame.closing then
        advance
        afterValue fuel true outer
      else if comma && c != ',' then throw expected
      else
        if comma then advance
        if frame = .object then skipKey
        return frame :: outer) := by
  cases frame <;> exact ⟨_, _, rfl⟩

/-- A part before what closes the frames belongs to the innermost of them. -/
theorem Closes.cons_part {first : Bool} {outer : List Frame} {lead key value tail : List Char}
    (h : Closes false (frame :: outer) tail) (hlead : Lead first lead) (hkey : AnyKey frame key)
    (hws : Blanks ws) (hvalue : AnyText value) :
    Closes first (frame :: outer) (lead ++ key ++ ws ++ value ++ tail) := by
  cases h with
  | cons hbody hws' htail =>
    have hcloses := Closes.cons (.cons hlead hkey hws hvalue hbody) hws' htail
    simpa using hcloses

/-- What is passed over behind a value: it closes all frames, or leads to another value in the
    frames that are left. -/
structure Passes (first : Bool) (frames : List Frame) (passed : List Char) (left : List Frame) :
    Prop where
  closes : left = [] → Closes first frames passed
  leads : left ≠ [] → ∀ {ws value tail}, Blanks ws → AnyText value → Closes false left tail →
    Closes first frames (passed ++ (ws ++ value ++ tail))

/-- Behind a value, frames are closed, or a comma and a key lead to another value. -/
theorem afterValue_written {comma : Bool} {left : List Frame}
    (h : Reads (afterValue fuel comma frames) text left rest) :
    ∃ passed, text = passed ++ rest ∧ Passes (!comma) frames passed left := by
  induction fuel generalizing comma frames text with
  | zero => exact absurd h (not_reads_throw _)
  | succ fuel ih =>
    cases frames with
    | nil =>
      obtain ⟨rfl, rfl⟩ := reads_pure_iff.1 h
      exact ⟨[], rfl, fun _ => .nil _, fun hne => absurd rfl hne⟩
    | cons frame outer =>
      obtain ⟨unfinished, expected, hcons⟩ := afterValue_cons fuel comma frame outer
      rw [hcons] at h
      simp only [reads_bind_iff, reads_upcoming_iff] at h
      obtain ⟨c, _, ⟨-, ws, tail, hws, rfl, rfl⟩, h⟩ := h
      split at h
      · next hclose =>
        obtain ⟨_, tail', hadvance, hread⟩ := reads_bind_iff.1 h
        obtain rfl : tail' = tail := reads_advance_iff.1 hadvance
        obtain ⟨passed, rfl, hpasses⟩ := ih hread
        rw [hclose]
        refine ⟨ws ++ frame.closing :: passed, by simp, fun hnil => ?_, fun hne => ?_⟩
        · exact .cons (.nil frame _) hws (hpasses.closes hnil)
        · intro ws' value tail hws' hvalue htail
          have hcloses := hpasses.leads hne hws' hvalue htail
          simpa using Closes.cons (.nil frame (!comma)) hws hcloses
      · -- Another value follows, behind a comma unless it is the first.
        have hpart : ∀ {lead tail}, Lead (!comma) lead → Reads (do
            if frame = .object then skipKey
            return frame :: outer) tail left rest →
            ∃ passed, lead ++ tail = passed ++ rest ∧
              Passes (!comma) (frame :: outer) passed left := by
          intro lead tail hlead hread
          obtain ⟨rfl, ws, key, hws, hkey, rfl⟩ := leadingKey_written hread
          refine ⟨lead ++ ws ++ key, by simp, fun hnil => (nomatch hnil), ?_⟩
          intro _ ws' value tail hws' hvalue htail
          simpa using htail.cons_part (hlead.append_blanks hws) hkey hws' hvalue
        rcases reads_ite_iff.1 h with ⟨-, hthrow⟩ | ⟨hcomma, hread⟩
        · exact absurd hthrow (not_reads_throw _)
        · cases comma with
          | false => exact hpart (.first hws) hread
          | true =>
            obtain ⟨_, tail', hadvance, hread⟩ := reads_bind_iff.1 hread
            obtain rfl : tail' = tail := reads_advance_iff.1 hadvance
            obtain rfl : c = ',' := by simpa using hcomma
            simpa using hpart (.next hws blanks_nil) hread

/-- What closes the frames delimits the value before it. -/
theorem Closes.delimited (h : Closes false frames text) (hrest : Delimited rest) :
    Delimited (text ++ rest) := by
  cases h with
  | nil => exact hrest
  | @cons _ frame _ body ws tail hbody hws _ =>
    have hclosing : Delimited (frame.closing :: (tail ++ rest)) := by
      cases frame <;> exact delimited_cons (by decide)
    cases hbody with
    | nil => simpa using hws.delimited hclosing
    | cons hlead _ _ _ _ =>
      cases hlead with
      | next hws _ =>
        simp only [List.append_assoc, List.cons_append]
        exact hws.delimited (delimited_cons (.inr (.inl rfl)))

/-- The key that stands before a value is passed over. -/
theorem reads_leadingKey {key : List Char} (hkey : AnyKey frame key) (hws : Blanks ws)
    (hws' : Blanks ws') (outer : List Frame) (rest : List Char) :
    ∃ ws'', Blanks ws'' ∧ Reads (do
      if frame = .object then skipKey
      return frame :: outer) (ws ++ key ++ ws' ++ rest) (frame :: outer) (ws'' ++ rest) := by
  cases frame with
  | list =>
    cases hkey
    rw [List.append_nil]
    exact ⟨ws ++ ws', hws.append hws', reads_pure _ _⟩
  | object =>
    refine ⟨ws', hws', ?_⟩
    rw [List.append_assoc _ ws']
    exact (reads_skipKey hkey hws _).bind (reads_pure _ _)

/-- The innermost frame is closed by its bracket. -/
theorem reads_afterValue_closing {comma : Bool} {outer left : List Frame} (hws : Blanks ws)
    (h : Reads (afterValue fuel true outer) text left rest) :
    Reads (afterValue (fuel + 1) comma (frame :: outer)) (ws ++ frame.closing :: text) left
      rest := by
  obtain ⟨unfinished, expected, hcons⟩ := afterValue_cons fuel comma frame outer
  have hblank : isBlank frame.closing = false := by cases frame <;> decide
  rw [hcons]
  refine (reads_upcoming _ hws hblank).bind ?_
  rw [if_pos rfl]
  exact (reads_advance _ _).bind h

/-- What leads to another value is passed over. -/
theorem reads_afterValue_part {first : Bool} {lead key value : List Char} (hlead : Lead first lead)
    (hkey : AnyKey frame key) (hws : Blanks ws) (hvalue : AnyText value) (fuel : Nat)
    (outer : List Frame) (rest : List Char) :
    ∃ ws', Blanks ws' ∧ Reads (afterValue (fuel + 1) (!first) (frame :: outer))
      (lead ++ key ++ ws ++ (value ++ rest)) (frame :: outer) (ws' ++ (value ++ rest)) := by
  obtain ⟨unfinished, expected, hcons⟩ := afterValue_cons fuel (!first) frame outer
  rw [hcons]
  cases hlead with
  | @next ws₁ ws₂ hws₁ hws₂ =>
    obtain ⟨ws', hws', hread⟩ := reads_leadingKey hkey hws₂ hws outer (value ++ rest)
    have hcomma : ',' ≠ frame.closing := by cases frame <;> decide
    refine ⟨ws', hws', ?_⟩
    simp only [List.append_assoc, List.cons_append] at hread ⊢
    refine (reads_upcoming _ hws₁ (by decide)).bind ?_
    rw [if_neg hcomma, if_neg (by decide)]
    exact (reads_advance ',' _).bind hread
  | @first lead hlead =>
    -- The first part starts with its key, or with its value.
    obtain ⟨ws₁, c, cs, hws₁, hblank, hclose, htext, ws', hws', hread⟩ :
        ∃ ws₁ c cs, Blanks ws₁ ∧ isBlank c = false ∧ c ≠ frame.closing ∧
          lead ++ key ++ ws ++ (value ++ rest) = ws₁ ++ c :: cs ∧ ∃ ws', Blanks ws' ∧ Reads (do
            if frame = .object then skipKey
            return frame :: outer) (c :: cs) (frame :: outer) (ws' ++ (value ++ rest)) := by
      cases hkey with
      | list =>
        obtain ⟨c, cs, rfl, hblank, hclose⟩ := hvalue.head
        exact ⟨lead ++ ws, c, cs ++ rest, hlead.append hws, hblank, hclose, by simp, [], blanks_nil,
          reads_pure _ _⟩
      | @object key ws₂ hstring hws₂ =>
        obtain ⟨ws', hws', hread⟩ :=
          reads_leadingKey (.object hstring hws₂) blanks_nil hws outer (value ++ rest)
        cases hstring
        refine ⟨lead, '"', _, hlead, by decide, by decide, ?_, ws', hws', hread⟩
        simp
    rw [htext]
    refine ⟨ws', hws', ?_⟩
    refine (reads_upcoming _ hws₁ hblank).bind ?_
    rw [if_neg hclose]
    exact hread

/-- **Behind a value**, all frames are closed, or another value is led to. -/
theorem Closes.reads_afterValue {first : Bool} (h : Closes first frames text)
    (hfuel : text.length < fuel) (rest : List Char) :
    Reads (afterValue fuel (!first) frames) (text ++ rest) [] rest ∨
    ∃ left ws value tail, left ≠ [] ∧ Blanks ws ∧ AnyText value ∧ Closes false left tail ∧
      (value ++ tail).length ≤ text.length ∧
      Reads (afterValue fuel (!first) frames) (text ++ rest) left
        (ws ++ value ++ tail ++ rest) := by
  induction h generalizing fuel with
  | nil first =>
    cases fuel with
    | zero => omega
    | succ fuel => exact .inl (reads_pure [] rest)
  | @cons first frame outer body ws tail hbody hws htail ih =>
    cases fuel with
    | zero => omega
    | succ fuel =>
      cases hbody with
      | nil =>
        have hlt : tail.length < fuel := by simp at hfuel; omega
        rw [List.nil_append, List.append_assoc, List.cons_append]
        rcases ih hlt with hread | ⟨left, ws', value, tail', hne, hws', hvalue, htail', hle, hread⟩
        · exact .inl (reads_afterValue_closing hws hread)
        · refine .inr ⟨left, ws', value, tail', hne, hws', hvalue, htail', ?_,
            reads_afterValue_closing hws hread⟩
          simp at hle ⊢
          omega
      | @cons _ _ lead key ws' value texts hlead hkey hws' hvalue hparts =>
        obtain ⟨ws'', hws'', hread⟩ := reads_afterValue_part hlead hkey hws' hvalue fuel outer
          (texts ++ ws ++ frame.closing :: tail ++ rest)
        refine .inr ⟨frame :: outer, ws'', value, texts ++ ws ++ frame.closing :: tail,
          List.cons_ne_nil _ _, hws'', hvalue, .cons hparts hws htail, ?_, ?_⟩
        · simp
          omega
        · simpa using hread

/-! ### Values -/

/-- What is done behind a value: go on in the frames that are left. -/
def goOn (fuel : Nat) (comma : Bool) (frames : List Frame) : Reader Unit := do
  let left ← afterValue ((← remaining) + 1) comma frames
  if left.isEmpty then return () else skipWithin fuel left

/-- A step at a value passes over a scalar, or over the bracket that opens a frame. -/
theorem skipWithin_step (h : Reads (skipWithin (fuel + 1) frames) text u rest) :
    ∃ ws, Blanks ws ∧
      ((∃ value tail, AnyScalar value ∧ text = ws ++ value ++ tail ∧
          Reads (goOn fuel true frames) tail u rest) ∨
        ∃ frame tail, text = ws ++ frame.opening :: tail ∧
          Reads (goOn fuel false (frame :: frames)) tail u rest) := by
  simp only [skipWithin, reads_bind_iff, reads_upcoming_iff] at h
  obtain ⟨c, _, ⟨-, ws, tail, hws, rfl, rfl⟩, h⟩ := h
  have hscalar : ∀ {value text}, AnyScalar value → c :: tail = value ++ text →
      Reads (goOn fuel true frames) text u rest →
      (∃ value tail', AnyScalar value ∧ ws ++ c :: tail = ws ++ value ++ tail' ∧
        Reads (goOn fuel true frames) tail' u rest) := by
    intro value text hvalue htext hread
    exact ⟨value, text, hvalue, by rw [htext, List.append_assoc], hread⟩
  refine ⟨ws, hws, ?_⟩
  split at h
  · obtain ⟨_, _, hword, hread⟩ := reads_bind_iff.1 h
    exact .inl (hscalar (.word (w := "null") (by decide)) (reads_word_iff.1 hword) hread)
  · obtain ⟨_, _, hword, hread⟩ := reads_bind_iff.1 h
    exact .inl (hscalar (.word (w := "true") (by decide)) (reads_word_iff.1 hword) hread)
  · obtain ⟨_, _, hword, hread⟩ := reads_bind_iff.1 h
    exact .inl (hscalar (.word (w := "false") (by decide)) (reads_word_iff.1 hword) hread)
  · obtain ⟨_, tail', hadvance, hbody⟩ := reads_bind_iff.1 h
    obtain rfl : tail' = tail := reads_advance_iff.1 hadvance
    obtain ⟨_, _, hremaining, hstring⟩ := reads_bind_iff.1 hbody
    obtain ⟨rfl, rfl⟩ := reads_remaining_iff.1 hremaining
    obtain ⟨_, _, hskip, hread⟩ := reads_bind_iff.1 hstring
    obtain ⟨body, hbody, htail⟩ := skipString_written hskip
    exact .inl (hscalar (.string (.mk hbody)) (by rw [htail]; simp) hread)
  · obtain ⟨_, tail', hadvance, hread⟩ := reads_bind_iff.1 h
    obtain rfl : tail' = tail := reads_advance_iff.1 hadvance
    exact .inr ⟨.list, tail', rfl, hread⟩
  · obtain ⟨_, tail', hadvance, hread⟩ := reads_bind_iff.1 h
    obtain rfl : tail' = tail := reads_advance_iff.1 hadvance
    exact .inr ⟨.object, tail', rfl, hread⟩
  · obtain ⟨_, tail', hadvance, hnumber⟩ := reads_bind_iff.1 h
    obtain rfl : tail' = tail := reads_advance_iff.1 hadvance
    obtain ⟨_, _, hskip, hread⟩ := reads_bind_iff.1 hnumber
    obtain ⟨number, hnumber, htext⟩ := skipNumber_written ['-'] (by simp) hskip
    exact .inl (hscalar (.number hnumber) htext hread)
  · split at h
    · obtain ⟨_, _, hskip, hread⟩ := reads_bind_iff.1 h
      obtain ⟨number, hnumber, htext⟩ := skipNumber_written [] (by simp) hskip
      exact .inl (hscalar (.number hnumber) htext hread)
    · exact absurd h (not_reads_throw_bind _ _)

/-- What is passed over as a value is written as one, and what closes the frames around it. -/
theorem skipWithin_written (h : Reads (skipWithin fuel frames) text u rest) :
    ∃ ws value tail, Blanks ws ∧ AnyText value ∧ Closes false frames tail ∧
      text = ws ++ value ++ tail ++ rest := by
  -- Each value takes one unit of fuel, and so does each bracket that opens.
  induction fuel generalizing frames text with
  | zero => exact absurd h (not_reads_throw _)
  | succ fuel ih =>
    have hgoOn : ∀ {comma frames text}, Reads (goOn fuel comma frames) text u rest →
        ∃ tail, text = tail ++ rest ∧ Closes (!comma) frames tail := by
      intro comma frames text h
      simp only [goOn, reads_bind_iff, reads_remaining_iff] at h
      obtain ⟨_, _, ⟨rfl, rfl⟩, left, _, hread, h⟩ := h
      obtain ⟨passed, rfl, hpasses⟩ := afterValue_written hread
      split at h
      · next hleft =>
        obtain ⟨-, rfl⟩ := reads_pure_iff.1 h
        exact ⟨passed, rfl, hpasses.closes (List.isEmpty_iff.1 hleft)⟩
      · next hleft =>
        obtain ⟨ws, value, tail, hws, hvalue, htail, rfl⟩ := ih h
        refine ⟨passed ++ (ws ++ value ++ tail), by simp, ?_⟩
        exact hpasses.leads (mt List.isEmpty_iff.2 hleft) hws hvalue htail
    obtain ⟨ws, hws, ⟨value, _, hvalue, rfl, hread⟩ | ⟨frame, _, rfl, hread⟩⟩ := skipWithin_step h
    · obtain ⟨tail, rfl, hcloses⟩ := hgoOn hread
      exact ⟨ws, value, tail, hws, .scalar hvalue, hcloses, by simp⟩
    · obtain ⟨passed, rfl, hcloses⟩ := hgoOn hread
      cases hcloses with
      | cons hbody hws' htail => exact ⟨ws, _, _, hws, .enclosed hbody hws', htail, by simp⟩

/-- A scalar is passed over. -/
theorem reads_skipWithin_scalar {value : List Char} (h : AnyScalar value) (hws : Blanks ws)
    (hdelimited : Delimited text) (hread : Reads (goOn fuel true frames) text () rest) :
    Reads (skipWithin (fuel + 1) frames) (ws ++ value ++ text) () rest := by
  unfold skipWithin
  rw [List.append_assoc]
  cases h with
  | word hw =>
    simp only [List.mem_cons, List.not_mem_nil, or_false] at hw
    rcases hw with rfl | rfl | rfl
    · refine (reads_upcoming _ hws (by decide)).bind ?_
      exact (reads_word "null".toList _).bind hread
    · refine (reads_upcoming _ hws (by decide)).bind ?_
      exact (reads_word "true".toList _).bind hread
    · refine (reads_upcoming _ hws (by decide)).bind ?_
      exact (reads_word "false".toList _).bind hread
  | string hstring =>
    cases hstring with
    | @mk body hbody =>
      simp only [List.append_assoc, List.cons_append, List.nil_append]
      refine (reads_upcoming _ hws (by decide)).bind ?_
      refine (reads_advance '"' _).bind ?_
      refine (reads_remaining _).bind ?_
      have hfuel : body.length < (body ++ '"' :: text).length + 1 := by
        rw [List.length_append]
        omega
      exact (reads_skipString hbody hfuel _).bind hread
  | number hnumber =>
    cases hnumber with
    | @mk sign ds fraction exponent hsign hds hzero hfraction hexponent =>
      have hskip : Reads (do skipNumber; goOn fuel true frames) _ () rest :=
        (reads_skipNumber hds hzero hfraction hexponent hdelimited).bind hread
      obtain ⟨d, ds', rfl, hd⟩ := hds.exists_eq_cons
      simp only [List.append_assoc, List.cons_append] at hskip ⊢
      simp only [List.mem_cons, List.not_mem_nil, or_false] at hsign
      rcases hsign with rfl | rfl
      · refine (reads_upcoming _ hws (first_of_integer (.inr hd)).1).bind ?_
        -- A digit is none of the other characters that start a value.
        split
        iterate 7
          · simp at hd
        · rw [if_pos hd]
          exact hskip
      · refine (reads_upcoming _ hws (by decide)).bind ?_
        exact (reads_advance '-' _).bind hskip

/-- So is the bracket that opens a frame. -/
theorem reads_skipWithin_opening (hws : Blanks ws)
    (hread : Reads (goOn fuel false (frame :: frames)) text () rest) :
    Reads (skipWithin (fuel + 1) frames) (ws ++ frame.opening :: text) () rest := by
  unfold skipWithin
  cases frame with
  | list =>
    refine (reads_upcoming _ hws (by decide)).bind ?_
    exact (reads_advance '[' _).bind hread
  | object =>
    refine (reads_upcoming _ hws (by decide)).bind ?_
    exact (reads_advance '\x7b' _).bind hread

/-- **Values** are passed over, with what closes the frames around them. -/
theorem reads_skipWithin {value tail : List Char} (hvalue : AnyText value)
    (htail : Closes false frames tail) (hfuel : (value ++ tail).length < fuel) (hws : Blanks ws)
    (hrest : Delimited rest) :
    Reads (skipWithin fuel frames) (ws ++ value ++ tail ++ rest) () rest := by
  induction fuel generalizing frames ws value tail with
  | zero => omega
  | succ fuel ih =>
    have hgoOn : ∀ {first frames tail}, Closes first frames tail → tail.length < fuel →
        Reads (goOn fuel (!first) frames) (tail ++ rest) () rest := by
      intro first frames tail htail hlt
      unfold goOn
      refine (reads_remaining _).bind ?_
      have hlt' : tail.length < (tail ++ rest).length + 1 := by
        rw [List.length_append]
        omega
      rcases htail.reads_afterValue hlt' rest with hread |
        ⟨left, ws, value, tail, hne, hws, hvalue, htail, hle, hread⟩
      · exact hread.bind (reads_pure () rest)
      · refine hread.bind ?_
        rw [if_neg (mt List.isEmpty_iff.1 hne)]
        exact ih hvalue htail (by omega) hws
    cases hvalue with
    | scalar hscalar =>
      obtain ⟨c, cs, hcs, -⟩ := hscalar.head
      have hlt : tail.length < fuel := by
        rw [hcs] at hfuel
        simp at hfuel
        omega
      have hread := hgoOn htail hlt
      rw [List.append_assoc]
      exact reads_skipWithin_scalar hscalar hws (htail.delimited hrest) hread
    | @enclosed frame body ws' hbody hws' =>
      have hread := hgoOn (.cons hbody hws' htail) (by simp at hfuel ⊢; omega)
      simpa using reads_skipWithin_opening hws hread

/-- **Any value** is passed over, and nothing else. -/
theorem recognizes_skipValue : Recognizes skipValue (fun text _ => AnyText text) where
  spells := by
    intro text _ h
    refine ⟨h.head, fun ws rest hws hrest => ?_⟩
    unfold skipValue
    refine (reads_remaining _).bind ?_
    have hfuel : (text ++ []).length < (ws ++ text ++ rest).length + 1 := by
      simp
      omega
    have hread := reads_skipWithin h (.nil false) hfuel hws hrest
    rwa [List.append_nil] at hread
  written := by
    intro text _ rest h
    simp only [skipValue, reads_bind_iff, reads_remaining_iff] at h
    obtain ⟨_, _, ⟨rfl, rfl⟩, h⟩ := h
    obtain ⟨ws, value, tail, hws, hvalue, htail, htext⟩ := skipWithin_written h
    cases htail
    exact ⟨ws, value, hws, hvalue, by rw [htext, List.append_nil]⟩

end OrderedLexer.Json
