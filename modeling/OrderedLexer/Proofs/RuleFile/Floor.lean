import OrderedLexer.Proofs.RuleFile.Plain.Returns
import OrderedLexer.Proofs.RuleFile.Reachable

namespace OrderedLexer

open RuleFile.Plain

/-!
# Floor and cursor

A rule set has its floor from where it was made, and keeps it. The cursor starts at the floor, or at
0, and moves on by one with each advance until it stops at the greatest key. So what is inserted at
the cursor needs no check against the floor.

* `RuleSet.Made` — how a rule set is made, with the floor it is given;
* `RuleSet.cursor_run` — where the cursor stands after a run;
* `RuleSet.not_below_opened` — it is moved to no key below the floor;
* `RuleSet.Made.exists_start` — a rule set is made by inserting into an empty one;
* `RuleSet.floor_and_cursor` — floor and cursor of every reachable rule set.
-/

/-- The greatest key is followed by itself. -/
theorem OrderKey.next_val (k : OrderKey) : k.next.val = min (k.val + 1) 0x7FFFFFFF := by
  have := k.inRange
  unfold next
  split
  · show k.val + 1 = _
    omega
  · omega

namespace RuleSet

variable {set : RuleSet} {key : OrderKey} {floor : Option OrderKey}

/-- How a rule set is made, with the floor it is given: by a constructor, or from a rule file that
    sets a floor or none. In a plain file the last `@start` sets it, in a file in JSON the start. -/
inductive Made : Option OrderKey → RuleSet → Prop
  | new : Made none new
  | startingAt (low : OrderKey) : Made (some low) (startingAt low)
  | skippingWhitespace {set : RuleSet} : skippingWhitespace = .ok set → Made none set
  | plain {source : Cursor} {lines : List Line} {set : RuleSet} : FileText source.ahead lines →
      ofPlain source = .ok set → Made (floorOf lines) set
  | json {source : Cursor} {file : RuleFile} {set : RuleSet} :
      RuleFile.ofJson? (String.ofList source.text) = .ok file →
      ofJson source = .ok set → Made file.start set

/-! ### The cursor -/

/-- Only advancing moves the cursor. -/
theorem cursor_apply_of_ne {c : Change} (h : c ≠ .advance) :
    (c.apply set).cursor = set.cursor := by
  rcases Change.apply_cases set c with ⟨happly, -⟩ | ⟨-, -, hopened⟩
  · rw [happly, insertAll_cursor]
  · cases c with
    | advance => exact absurd rfl h
    | _ => cases hopened

/-- The cursor after a run: each advance moves it on by one, up to the greatest key. -/
theorem cursor_run (set : RuleSet) (changes : List Change) :
    (set.run changes).cursor.val = min (set.cursor.val + changes.count .advance) 0x7FFFFFFF := by
  induction changes generalizing set with
  | nil =>
    have := set.cursor.inRange
    show set.cursor.val = min (set.cursor.val + (0 : Nat)) 0x7FFFFFFF
    omega
  | cons c rest ih =>
    have hrest : ((c.apply set).run rest).cursor.val = _ := ih (c.apply set)
    show ((c.apply set).run rest).cursor.val = _
    rw [hrest]
    by_cases hadvance : c = .advance
    · subst hadvance
      have hnext : (Change.advance.apply set).cursor.val = _ := set.cursor.next_val
      rw [hnext, List.count_cons_self]
      omega
    · rw [cursor_apply_of_ne hadvance, List.count_cons_of_ne hadvance]

/-- The cursor stays at or above the floor. -/
theorem not_below_cursor (h : ¬ set.Below set.cursor) (changes : List Change) :
    ¬ (set.run changes).Below (set.run changes).cursor := by
  induction changes generalizing set with
  | nil => exact h
  | cons c rest ih => exact ih (Change.not_below_cursor h c)

/-- The cursor is moved to no key below the floor. -/
theorem not_below_opened (h : ¬ set.Below set.cursor) {changes : List Change}
    (hkey : key ∈ set.opened changes) : ¬ set.Below key := by
  induction changes generalizing set with
  | nil => cases hkey
  | cons c rest ih =>
    rw [opened] at hkey
    rcases List.mem_append.1 hkey with hkey | hkey
    · have hcursor := Change.not_below_cursor h c
      cases c with
      | advance =>
        rw [List.mem_singleton.1 hkey]
        exact hcursor
      | _ => cases hkey
    · have hrest := ih (Change.not_below_cursor h c) hkey
      unfold Below at hrest ⊢
      rwa [floor_apply] at hrest

/-! ### Rule sets as they are made -/

/-- A rule set is made by inserting a list that its floor does not refuse into an empty one. -/
theorem Made.exists_start (h : Made floor set) :
    ∃ entries, (∀ e ∈ entries, ¬ (start floor).Below e.1) ∧
      set = (start floor).insertAll entries := by
  cases h with
  | new => exact ⟨[], by simp, rfl⟩
  | startingAt low => exact ⟨[], by simp, rfl⟩
  | skippingWhitespace hset =>
    unfold RuleSet.skippingWhitespace at hset
    cases hrule : Rule.ofPattern "\\s+" .immediate false with
    | error e =>
      rw [hrule] at hset
      contradiction
    | ok r =>
      rw [hrule] at hset
      refine ⟨[(OrderKey.zero, r)], fun e _ => ?_, (Except.ok.inj hset).symm⟩
      rintro ⟨low, hlow, -⟩
      cases hlow
  | plain htext hload =>
    obtain ⟨-, hentries, rfl⟩ := htext.ofPlain_iff.1 hload
    exact ⟨_, fun e he => (not_below_start_iff _ _).2 (hentries e he), rfl⟩
  | json hread hload =>
    obtain ⟨file, hread', hentries, rfl⟩ := ofJson_eq_ok_iff.1 hload
    obtain rfl := Except.ok.inj (hread.symm.trans hread')
    exact ⟨_, hentries, rfl⟩

/-- Every reachable rule set comes from one that was made. -/
theorem Reachable.exists_made (h : Reachable set) :
    ∃ floor made changes, Made floor made ∧ set = made.run changes := by
  induction h with
  | new => exact ⟨none, _, [], .new, rfl⟩
  | startingAt low => exact ⟨some low, _, [], .startingAt low, rfl⟩
  | skippingWhitespace hset => exact ⟨none, _, [], .skippingWhitespace hset, rfl⟩
  | loaded hloaded =>
    cases hloaded with
    | plain hload =>
      obtain ⟨lines, htext⟩ := exists_fileText_of_ofPlain hload
      exact ⟨_, _, [], .plain htext hload, rfl⟩
    | json hload =>
      obtain ⟨file, hread, -⟩ := ofJson_eq_ok_iff.1 hload
      exact ⟨file.start, _, [], .json hread hload, rfl⟩
  | change c _ ih =>
    obtain ⟨floor, made, changes, hmade, rfl⟩ := ih
    refine ⟨floor, made, changes ++ [c], hmade, ?_⟩
    rw [run, run, List.foldl_append]
    rfl

/-! ### Any run -/

/-- **Floor and cursor.** Every reachable rule set comes by some changes from one that was made. If
    this was given a floor or none, then after any changes

    * the floor is still the same;
    * the cursor is as many keys behind the floor as there were advances, or behind 0, but no
      further than the greatest key;
    * no order lies below the floor, and neither does the cursor;
    * what is inserted at the cursor would have passed the check against the floor;
    * without a floor, no insertion is refused. -/
theorem floor_and_cursor :
    (∀ set, Reachable set → ∃ floor made changes, Made floor made ∧ set = made.run changes) ∧
    ∀ floor made, Made floor made → ∀ changes : List Change,
      let set := made.run changes
      set.floor = floor ∧
      set.cursor.val =
        min ((floor.getD OrderKey.zero).val + changes.count .advance) 0x7FFFFFFF ∧
      (∀ low, floor = some low → (∀ key ∈ set.keys, low ≤ key) ∧ low ≤ set.cursor) ∧
      (∀ r, set.insert? set.cursor r = .ok (set.insertHere r)) ∧
      (floor = none → ∀ key r, set.insert? key r = .ok (set.insertAt key r)) := by
  refine ⟨fun set h => h.exists_made, fun floor made hmade changes => ?_⟩
  intro set
  obtain ⟨entries, hentries, rfl⟩ := hmade.exists_start
  have hfloor : set.floor = floor := by
    show (RuleSet.run _ changes).floor = floor
    rw [floor_run, insertAll_floor]
    rfl
  have hcursor : ¬ ((start floor).insertAll entries).Below
      ((start floor).insertAll entries).cursor := by
    unfold Below
    rw [insertAll_floor, insertAll_cursor]
    exact not_below_start floor
  have hbelow : ∀ key, ¬ set.Below key ↔ ∀ low ∈ floor, low ≤ key := by
    intro key
    rw [← not_below_start_iff, Below, hfloor]
    rfl
  have hset := not_below_cursor hcursor changes
  refine ⟨hfloor, ?_, fun low hlow => ⟨fun key hkey => ?_, ?_⟩, fun r => ?_, fun hnone key r => ?_⟩
  · have hrun := cursor_run ((start floor).insertAll entries) changes
    rwa [insertAll_cursor] at hrun
  · -- An order is there because rules are logged under its key, or the cursor was moved to it.
    have hrecords := ((records_start floor).insertAll entries).run changes
    rw [mem_keys_iff] at hkey
    refine (hbelow key).1 ?_ low hlow
    unfold Below
    rw [hfloor]
    show ¬ (start floor).Below key
    rcases (hrecords.isSome_iff key).1 hkey with hlogged | hopened
    · rw [List.map_append] at hlogged
      rcases List.mem_append.1 hlogged with hlogged | hlogged
      · obtain ⟨e, he, rfl⟩ := List.mem_map.1 hlogged
        exact hentries e he
      · obtain ⟨e, he, rfl⟩ := List.mem_map.1 hlogged
        have := not_below_log hcursor he
        unfold Below at this ⊢
        rwa [insertAll_floor] at this
    · have := not_below_opened hcursor hopened
      unfold Below at this ⊢
      rwa [insertAll_floor] at this
  · exact (hbelow _).1 hset low hlow
  · exact insert?_eq_ok_iff.2 ⟨hset, rfl⟩
  · refine insert?_eq_ok_iff.2 ⟨(hbelow key).2 fun low hlow => ?_, rfl⟩
    rw [hnone] at hlow
    cases hlow

/-- The cursor is held at the greatest key, and a rule is still inserted there. -/
theorem floor_and_cursor_at_greatest :
    ∃ low made r, Rule.ofPattern "a" = .ok r ∧ Made (some low) made ∧
      ofPlain (Cursor.ofText "rules.olx" "@start 2147483646") = .ok made ∧
      (made.run [.advance, .insert OrderKey.zero r, .advance, .insertHere r]).cursor.val =
        2147483647 ∧
      ∀ key ∈ (made.run [.advance, .insert OrderKey.zero r, .advance, .insertHere r]).keys,
        low ≤ key := by
  have hcompiles : (Regex.compile "a").isOk = true := by decide
  obtain ⟨r, hr⟩ := Rule.exists_ofPattern hcompiles .natural true none
  have hstart : DirectiveText ("@start".toList ++ [' '] ++ "2147483646".toList)
      (.start ⟨2147483646, by decide⟩) :=
    .start blanks_space (.plain (by decide) (List.all_eq_true.1 (by decide)) (by decide))
      (by simp [WordEnds, isWordChar]; decide)
  have htext : FileText (Cursor.ofText "rules.olx" "@start 2147483646").ahead
      [.start ⟨2147483646, by decide⟩] :=
    .directive hstart blanks_nil (by simp) .nil
  have hload : ofPlain (Cursor.ofText "rules.olx" "@start 2147483646") =
      .ok (startingAt ⟨2147483646, by decide⟩) := by
    refine htext.ofPlain_iff.2 ⟨List.pairwise_singleton _ _, ?_, rfl⟩
    intro e he
    cases he
  have hmade : Made (some ⟨2147483646, by decide⟩) (startingAt ⟨2147483646, by decide⟩) :=
    .plain htext hload
  obtain ⟨-, hcursor, hlow, -⟩ := floor_and_cursor.2 _ _ hmade
    [.advance, .insert OrderKey.zero r, .advance, .insertHere r]
  exact ⟨_, _, r, hr, hmade, hload, hcursor, (hlow _ rfl).1⟩

end RuleSet
end OrderedLexer
