import OrderedLexer.Proofs.Json.Fields
import OrderedLexer.Proofs.RuleFile.Reachable
import OrderedLexer.Proofs.RuleFile.ReadBack

namespace OrderedLexer

open Json Json.Reader

/-!
# A rule file means the same however it is spelled

Rules, groups and rule files are told by their fields. Each of them is spelled as an object or as a
list, and may leave out the fields that have their default.

* `Rule.told`, `RuleFile.Group.told`, `RuleFile.told` — what is to be written of each;
* `Rule.spelled_told_iff`, `RuleFile.Group.spelled_told_iff`, `RuleFile.spelled_told_iff` — the
  spellings are the ways to write them, each from the layer below;
* `RuleFile.IsSpelling` — a text spells a rule file, with nothing but blanks around it;
* `RuleSet.ofJson_of_isSpelling` — every rule file has a spelling, and all of its spellings load
  the same.
-/

/-! ### Values and defaults -/

namespace Json

variable {α : Type} {P : List Char → α → Prop} {value? : Option (List Char)} {a default : α}

/-- A value that must be told is the one that is written. -/
theorem rel_some_iff :
    Option.Rel P value? (some a) ↔
      (∀ value, value? = some value → P value a) ∧ (value? = none → False) := by
  constructor
  · rintro (hvalue | _)
    simpa using hvalue
  · intro h
    cases value? with
    | none => exact (h.2 rfl).elim
    | some value => exact .some (h.1 value rfl)

/-- A value that need not be told is the one that is written, or else the default. -/
theorem exists_rel_getD_iff :
    (∃ a?, Option.Rel P value? a? ∧ a?.getD default = a) ↔
      (∀ value, value? = some value → P value a) ∧ (value? = none → a = default) := by
  constructor
  · rintro ⟨_, hvalue | _, rfl⟩
    · simpa using hvalue
    · simp
  · intro h
    cases value? with
    | none => exact ⟨none, .none, (h.2 rfl).symm⟩
    | some value => exact ⟨some a, .some (h.1 value rfl), rfl⟩

end Json

/-! ### Rules -/

namespace Rule

/-- What is to be written of a rule. All but the pattern may be left out. -/
def told (r : Rule) : List Field :=
  [⟨"pattern", (StringText · r.pattern), False⟩,
    ⟨"priority", (Priority.JsonText · r.priority), r.priority = .natural⟩,
    ⟨"capture", (BooleanText · r.captures), r.captures = true⟩,
    ⟨"name", (NullableText StringText · r.name), r.name = none⟩]

/-- **Rules.** The spellings of a rule are the ways to write it. -/
theorem spelled_told_iff {text : List Char} {r : Rule} : Spelled r.told text ↔ JsonText text r := by
  have hnodup : (r.told.map (·.key)).Nodup := by
    change ["pattern", "priority", "capture", "name"].Nodup
    decide
  rw [spelled_iff hnodup]
  simp only [told, List.forall_mem_cons, Field.ShownBy, ← rel_some_iff, ← exists_rel_getD_iff]
  constructor
  · rintro ⟨members, hrecord, hpattern, ⟨priority?, hpriority, hp⟩, ⟨captures?, hcaptures, hc⟩,
      ⟨name?, hname, hn⟩, -⟩
    have hdefinition := Definition.JsonText.mk hrecord hpattern hpriority hcaptures hname
    rw [hp, hc, hn] at hdefinition
    exact ⟨_, hdefinition, r.compile_definition⟩
  · rintro ⟨d, hdefinition, hcompile⟩
    cases hdefinition with
    | mk hrecord hpattern hpriority hcaptures hname =>
      obtain ⟨hp, hpriority', hcaptures', hname'⟩ := ofPattern_eq_ok_iff.1 hcompile
      dsimp only at hp
      rw [← hp] at hpattern
      exact ⟨_, hrecord, hpattern, ⟨_, hpriority, hpriority'.symm⟩, ⟨_, hcaptures, hcaptures'.symm⟩,
        ⟨_, hname, hname'.symm⟩, by simp⟩

end Rule

namespace RuleFile

/-! ### Groups -/

namespace Group

/-- What is to be written of a group. -/
def told (g : Group) : List Field :=
  [⟨"order", (OrderKeyText · g.order), False⟩,
    ⟨"rules", (ListText (fun text r => Spelled (Rule.told r) text) · g.rules), False⟩]

/-- **Groups.** The spellings of a group are the ways to write it. -/
theorem spelled_told_iff {text : List Char} {g : Group} :
    Spelled g.told text ↔ JsonText text g := by
  have hnodup : (g.told.map (·.key)).Nodup := by
    change ["order", "rules"].Nodup
    decide
  rw [spelled_iff hnodup]
  simp only [told, List.forall_mem_cons, Field.ShownBy, Rule.spelled_told_iff, ← rel_some_iff]
  constructor
  · rintro ⟨members, hrecord, horder, hrules, -⟩
    exact .mk hrecord horder hrules
  · rintro ⟨hrecord, horder, hrules⟩
    exact ⟨_, hrecord, horder, hrules, by simp⟩

end Group

/-! ### Rule files -/

/-- What is to be written of a rule file. Both fields may be left out. -/
def told (file : RuleFile) : List Field :=
  [⟨"start", (NullableText OrderKeyText · file.start), file.start = none⟩,
    ⟨"orders", (ListText (fun text g => Spelled (Group.told g) text) · file.groups),
      file.groups = []⟩]

/-- **Rule files.** The spellings of a rule file are the ways to write it. -/
theorem spelled_told_iff {text : List Char} {file : RuleFile} :
    Spelled file.told text ↔ JsonText text file := by
  have hnodup : (file.told.map (·.key)).Nodup := by
    change ["start", "orders"].Nodup
    decide
  rw [spelled_iff hnodup]
  simp only [told, List.forall_mem_cons, Field.ShownBy, Group.spelled_told_iff,
    ← exists_rel_getD_iff]
  constructor
  · rintro ⟨members, hrecord, ⟨start?, hstart, hs⟩, ⟨groups?, hgroups, hg⟩, -⟩
    have htext := JsonText.mk hrecord hstart hgroups
    rwa [hs, hg] at htext
  · rintro ⟨hrecord, hstart, hgroups⟩
    exact ⟨_, hrecord, ⟨_, hstart, rfl⟩, ⟨_, hgroups, rfl⟩, by simp⟩

/-- A text spells a rule file if nothing but blanks stands around a spelling of it. -/
def IsSpelling (text : String) (file : RuleFile) : Prop :=
  ∃ ws found ws', Blanks ws ∧ Spelled file.told found ∧ Blanks ws' ∧
    text.toList = ws ++ found ++ ws'

/-- A text spells the rule file that is read from it, and no other. -/
theorem ofJson?_eq_ok_iff_isSpelling {text : String} {file : RuleFile} :
    ofJson? text = .ok file ↔ IsSpelling text file := by
  unfold IsSpelling
  simp only [spelled_told_iff]
  exact ofJson?_eq_ok_iff

end RuleFile

/-! ### Loading -/

namespace RuleSet

/-- **One meaning.** Every rule file has a spelling. Whichever of its spellings is loaded, and
    wherever it comes from, its rules are inserted as they are listed; so the rule set is the same,
    or the order that is refused. -/
theorem ofJson_of_isSpelling (file : RuleFile) :
    (∃ text, RuleFile.IsSpelling text file) ∧
      (∀ text origin, RuleFile.IsSpelling text file →
        ofJson (Cursor.ofText origin text) = file.toRuleSet?.mapError .invalidOrder) ∧
      ∀ text text' origin origin', RuleFile.IsSpelling text file →
        RuleFile.IsSpelling text' file →
        ofJson (Cursor.ofText origin text) = ofJson (Cursor.ofText origin' text') := by
  have hload : ∀ text origin, RuleFile.IsSpelling text file →
      ofJson (Cursor.ofText origin text) = file.toRuleSet?.mapError .invalidOrder := by
    intro text origin h
    have hread := RuleFile.ofJson?_eq_ok_iff_isSpelling.2 h
    rw [← String.ofList_toList (s := text)] at hread
    exact ofJson_of_ok hread
  refine ⟨⟨_, RuleFile.ofJson?_eq_ok_iff_isSpelling.1
    (RuleFile.ofJson?_print blank_compact file blanks_nil blanks_nil)⟩, hload, ?_⟩
  intro text text' origin origin' h h'
  rw [hload text origin h, hload text' origin' h']

/-- A rule file is spelled with objects only, or with lists, an unknown field and escapes. -/
theorem ofJson_of_isSpelling_list :
    ∃ r text text', Rule.ofPattern "a" = .ok r ∧
      text = "\x7b\"start\":1,\"orders\":[\x7b\"order\":0,\"rules\":" ++
        "[\x7b\"pattern\":\"a\",\"name\":null\x7d]\x7d]\x7d" ∧
      text' = " [1,[\x7b\"more\":[\x7b\x7d,0.5],\"\\u0072ules\":[[\"\\u0061\"," ++
        "\x7b\"natural\":null\x7d]],\"order\":0\x7d]]\n" ∧
      RuleFile.IsSpelling text ⟨some OrderKey.zero.next, [⟨OrderKey.zero, [r]⟩]⟩ ∧
      RuleFile.IsSpelling text' ⟨some OrderKey.zero.next, [⟨OrderKey.zero, [r]⟩]⟩ ∧
      ofJson (Cursor.ofText "all.json" text) = ofJson (Cursor.ofText "few.json" text') := by
  have hcompiles : (Regex.compile "a").isOk = true := by decide
  obtain ⟨r, hr⟩ := Rule.exists_ofPattern hcompiles .natural true none
  have hspells : ∀ {text}, (RuleFile.ofJson? text).toOption =
      (Rule.ofPattern "a").toOption.map (fun r =>
        ⟨some OrderKey.zero.next, [⟨OrderKey.zero, [r]⟩]⟩) →
      RuleFile.IsSpelling text ⟨some OrderKey.zero.next, [⟨OrderKey.zero, [r]⟩]⟩ := by
    intro text h
    rw [hr] at h
    refine RuleFile.ofJson?_eq_ok_iff_isSpelling.1 ?_
    cases hread : RuleFile.ofJson? text with
    | error fault =>
      rw [hread] at h
      cases h
    | ok file =>
      rw [hread] at h
      exact congrArg Except.ok (Option.some.inj h)
  refine ⟨r, _, _, hr, rfl, rfl, hspells ?_, hspells ?_,
    (ofJson_of_isSpelling _).2.2 _ _ _ _ (hspells ?_) (hspells ?_)⟩
  all_goals decide +kernel

end RuleSet
end OrderedLexer
