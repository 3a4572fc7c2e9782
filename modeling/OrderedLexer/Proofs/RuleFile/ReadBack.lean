import OrderedLexer.Proofs.Json.Printing
import OrderedLexer.Proofs.RuleFile.Spelling
import OrderedLexer.RuleFile.Load
import OrderedLexer.RuleFile.Writer

namespace OrderedLexer

open Json Json.Reader

/-!
# Printed rule files are read back

Whatever the layout, the text printed for a rule file is one of the ways to write it.

* `recordText_printAt` — a printed object is a way to write a record;
* `Rule.compile_definition` — a rule compiles again from its pattern and attributes;
* `Rule.jsonText_toJson`, `RuleFile.Group.jsonText_toJson`, `RuleFile.jsonText_toJson` — rules,
  groups and files, each from the layer below;
* `RuleFile.ofJson?_print` — reading the text, with blanks around it, gives the rule file.
-/

variable {layout : Layout}

/-! ### Records -/

/-- A printed object is a way to write a record, if its keys are some of those of the record. -/
theorem recordText_printAt (h : layout.Blank) (depth : Nat) {keys : List String}
    {fs : List (String × Value)} (hkeys : List.Sublist (fs.map (·.1)) keys) (hnodup : keys.Nodup) :
    RecordText keys ((Value.object fs).printAt layout depth)
      (printedMembers layout (depth + 1) fs) := by
  have hmap : (printedMembers layout (depth + 1) fs).map (·.1) = fs.map (·.1) := by
    simp [printedMembers]
  refine .object (objectText_printAt h depth fs) ⟨fun key _ => ?_, fun m hm hkey => ?_⟩
  · rw [hmap]
    exact List.nodup_iff_count.1 (hkeys.nodup hnodup) key
  · have hmem : m.1 ∈ fs.map (·.1) := hmap ▸ List.mem_map_of_mem hm
    exact absurd (hkeys.subset hmem) hkey

/-! ### Rules -/

namespace Rule

/-- A rule compiles again from its pattern and attributes. -/
theorem compile_definition (r : Rule) :
    Definition.compile ⟨r.pattern, r.priority, r.captures, r.name⟩ = .ok r :=
  ofPattern_eq_ok_iff.2 ⟨rfl, rfl, rfl, rfl⟩

/-- **Rules.** A printed rule is a way to write the rule. -/
theorem jsonText_toJson (h : layout.Blank) (r : Rule) (depth : Nat) :
    JsonText (r.toJson.printAt layout depth) r := by
  refine ⟨⟨r.pattern, r.priority, r.captures, r.name⟩, ?_, r.compile_definition⟩
  have hpattern := stringText_printString r.pattern
  have hpriority := Priority.JsonText.name (stringText_printString r.priority.name)
  unfold toJson
  -- A rule without a name has no member for it.
  cases r.name with
  | none =>
    exact @Definition.JsonText.mk _ _ r.pattern (some r.priority) (some r.captures) none
      (recordText_printAt h depth (by simp) (by decide)) (.some hpattern) (.some hpriority)
      (.some rfl) .none
  | some name =>
    have hname := NullableText.some (stringText_printString name)
    exact @Definition.JsonText.mk _ _ r.pattern (some r.priority) (some r.captures)
      (some (some name)) (recordText_printAt h depth (by simp) (by decide)) (.some hpattern)
      (.some hpriority) (.some rfl) (.some hname)

end Rule

namespace RuleFile

/-! ### Groups and files -/

namespace Group

/-- **Groups.** A printed group is a way to write the group. -/
theorem jsonText_toJson (h : layout.Blank) (g : Group) (depth : Nat) :
    JsonText (g.toJson.printAt layout depth) g := by
  have hrules : ListText Rule.JsonText
      ((Value.list (g.rules.map Rule.toJson)).printAt layout (depth + 1)) g.rules :=
    (listText_printAt h Rule.toJson (depth + 1) g.rules).imp fun text r htext =>
      htext ▸ r.jsonText_toJson h (depth + 2)
  exact .mk (recordText_printAt h depth (by simp) (by decide)) (.some rfl) (.some hrules)

end Group

/-- **Files.** A printed rule file is a way to write the rule file. -/
theorem jsonText_toJson (h : layout.Blank) (file : RuleFile) (depth : Nat) :
    JsonText (file.toJson.printAt layout depth) file := by
  have hgroups : ListText Group.JsonText
      ((Value.list (file.groups.map Group.toJson)).printAt layout (depth + 1)) file.groups :=
    (listText_printAt h Group.toJson (depth + 1) file.groups).imp fun text g htext =>
      htext ▸ g.jsonText_toJson h (depth + 2)
  obtain ⟨start, groups⟩ := file
  -- Nor has a rule file without a floor.
  cases start with
  | none =>
    exact @JsonText.mk _ _ none (some groups) (recordText_printAt h depth (by simp) (by decide))
      .none (.some hgroups)
  | some start =>
    have hstart : NullableText OrderKeyText (toString start.val).toList (some start) := .some rfl
    exact @JsonText.mk _ _ (some (some start)) (some groups)
      (recordText_printAt h depth (by simp) (by decide)) (.some hstart) (.some hgroups)

/-- **Read back.** Whatever the layout, a printed rule file is read back, with blanks around it
    too. -/
theorem ofJson?_print (h : layout.Blank) (file : RuleFile) {ws ws' : List Char} (hws : Blanks ws)
    (hws' : Blanks ws') :
    ofJson? (String.ofList (ws ++ (file.toJson.print layout).toList ++ ws')) = .ok file := by
  refine ofJson?_eq_ok_iff.2 ⟨ws, _, ws', hws, file.jsonText_toJson h 0, hws', ?_⟩
  rw [String.toList_ofList, Value.print, String.toList_ofList]

end RuleFile
end OrderedLexer
