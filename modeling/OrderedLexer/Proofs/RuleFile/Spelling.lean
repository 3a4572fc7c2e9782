import OrderedLexer.Proofs.Json.Records
import OrderedLexer.RuleFile.Reader

namespace OrderedLexer

open Json Json.Reader

/-!
# How rule files are spelled in JSON

Rules, groups and rule files are records. A text tells a rule file if it is a way to write one, with
nothing but blanks around it.

* `Priority.JsonText`, `Rule.JsonText`, `RuleFile.Group.JsonText`, `RuleFile.JsonText` — the ways to
  write priorities, rules, groups and rule files;
* `RuleFile.Tells` — a text holds a rule file and nothing else;
* `RuleFile.ofJson?_eq_ok_iff` — the rule file that is read is the one that the text tells;
* `RuleFile.Tells.unique` — there is no other.
-/

/-! ### Priorities -/

/-- The ways to write a priority: its name, or an object with the name as its only key. -/
inductive Priority.JsonText : List Char → Priority → Prop
  | name {text : List Char} {p : Priority} : StringText text p.name → JsonText text p
  | keyed {text : List Char} {p : Priority} : ObjectText text [(p.name, "null".toList)] →
      JsonText text p

theorem Priority.ofName?_eq_some_iff {name : String} {p : Priority} :
    Priority.ofName? name = some p ↔ name = p.name := by
  constructor
  · intro h
    have hfound := List.find?_some h
    exact (of_decide_eq_true hfound).symm
  · rintro rfl
    cases p <;> rfl

/-- The name of a priority is read whatever follows it. -/
theorem Priority.reads_nameReader {text ws : List Char} {p : Priority} (h : StringText text p.name)
    (hws : Blanks ws) (rest : List Char) : Reads nameReader (ws ++ text ++ rest) p rest := by
  refine (reads_string h _ hws rest).bind ?_
  rw [ofName?_eq_some_iff.2 rfl]
  exact reads_pure p rest

theorem Priority.nameReader_written {text rest : List Char} {p : Priority}
    (h : Reads nameReader text p rest) :
    ∃ ws found, Blanks ws ∧ StringText found p.name ∧ text = ws ++ found ++ rest := by
  obtain ⟨name, _, hname, hread⟩ := reads_bind_iff.1 h
  cases hof : ofName? name with
  | some p' =>
    rw [hof] at hread
    obtain ⟨rfl, rfl⟩ := reads_pure_iff.1 hread
    rw [← ofName?_eq_some_iff.1 hof]
    exact (recognizes_string _).written hname
  | none =>
    rw [hof] at hread
    exact absurd hread (not_reads_throw _)

/-- **Priorities** are read in both ways to write them. -/
theorem Priority.recognizes_reader : Recognizes Priority.reader Priority.JsonText where
  spells := by
    intro text p h
    cases h with
    | name h =>
      obtain ⟨body, rfl⟩ := h.exists_eq_cons
      refine ⟨⟨'"', body, rfl, by decide, by decide⟩, fun ws rest hws _ => ?_⟩
      unfold reader
      rw [List.append_assoc, List.cons_append]
      refine (reads_upcoming _ hws (by decide)).bind ?_
      exact reads_nameReader h blanks_nil rest
    | keyed h =>
      obtain ⟨ws₀, keyText, ws₁, ws₂, ws₃, hws₀, hkey, hws₁, hws₂, hws₃, rfl⟩ :=
        objectText_singleton_iff.1 h
      refine ⟨⟨'\x7b', _, rfl, by decide, by decide⟩, fun ws rest hws _ => ?_⟩
      have hbrace : Delimited (ws₃ ++ '\x7d' :: rest) :=
        hws₃.delimited (delimited_cons (.inr (.inr (.inr rfl))))
      have hname := reads_nameReader hkey hws₀ (ws₁ ++ ':' :: (ws₂ ++ "null".toList ++
        (ws₃ ++ '\x7d' :: rest)))
      have hnull := (recognizes_null.spells (a := ()) rfl).reads ws₂ _ hws₂ hbrace
      unfold reader
      simp only [List.append_assoc, List.cons_append, List.nil_append] at hname hnull ⊢
      refine (reads_upcoming _ hws (by decide)).bind ?_
      refine (reads_advance '\x7b' _).bind ?_
      refine hname.bind ?_
      refine (reads_colon hws₁ _).bind ?_
      refine hnull.bind ?_
      refine (reads_upcoming _ hws₃ (by decide)).bind ?_
      exact (reads_advance '\x7d' rest).bind (reads_pure p rest)
  written := by
    intro text p rest h
    obtain ⟨c, _, hupcoming, h⟩ := reads_bind_iff.1 h
    obtain ⟨-, ws, tail, hws, rfl, rfl⟩ := reads_upcoming_iff.1 hupcoming
    split at h
    · obtain ⟨ws', found, hws', hfound, htail⟩ := nameReader_written h
      refine ⟨ws ++ ws', found, hws.append hws', .name hfound, ?_⟩
      rw [htail]
      simp
    · obtain ⟨_, tail', hadvance, hkeyed⟩ := reads_bind_iff.1 h
      obtain rfl : tail' = tail := reads_advance_iff.1 hadvance
      obtain ⟨p, _, hname, hbehind⟩ := reads_bind_iff.1 hkeyed
      obtain ⟨ws₀, keyText, hws₀, hkey, rfl⟩ := nameReader_written hname
      obtain ⟨_, _, hcolon, hvalue⟩ := reads_bind_iff.1 hbehind
      obtain ⟨ws₁, hws₁, rfl⟩ := reads_colon_iff.1 hcolon
      obtain ⟨_, _, hnull, hclose⟩ := reads_bind_iff.1 hvalue
      obtain ⟨ws₂, _, hws₂, rfl, rfl⟩ := recognizes_null.written hnull
      obtain ⟨c, _, hahead, hbrace⟩ := reads_bind_iff.1 hclose
      obtain ⟨-, ws₃, tail, hws₃, rfl, rfl⟩ := reads_upcoming_iff.1 hahead
      dsimp only at hbrace
      obtain ⟨hc, hend⟩ := reads_guard_iff.1 hbrace
      obtain rfl : c = '\x7d' := by simpa using hc
      simp only [reads_bind_iff, reads_advance_iff, reads_pure_iff] at hend
      obtain ⟨_, _, rfl, rfl, rfl⟩ := hend
      have hobject : ObjectText _ [(p.name, "null".toList)] :=
        objectText_singleton_iff.2
          ⟨ws₀, keyText, ws₁, ws₂, ws₃, hws₀, hkey, hws₁, hws₂, hws₃, rfl⟩
      exact ⟨ws, _, hws, .keyed hobject, by simp⟩
    · exact absurd h (not_reads_throw _)

/-! ### Rules -/

namespace Rule

/-- The ways to write a rule that is not yet compiled. -/
inductive Definition.JsonText : List Char → Definition → Prop
  | mk {text : List Char} {members : List (String × List Char)} {pattern : String}
      {priority? : Option Priority} {captures? : Option Bool} {name? : Option (Option String)} :
      RecordText ["pattern", "priority", "capture", "name"] text members →
      Option.Rel StringText (members.lookup "pattern") (some pattern) →
      Option.Rel Priority.JsonText (members.lookup "priority") priority? →
      Option.Rel BooleanText (members.lookup "capture") captures? →
      Option.Rel (NullableText StringText) (members.lookup "name") name? →
      JsonText text
        ⟨pattern, priority?.getD .natural, captures?.getD true, name?.getD none⟩

/-- The ways to write a rule. Its pattern must compile. -/
def JsonText (text : List Char) (r : Rule) : Prop :=
  ∃ d, Definition.JsonText text d ∧ d.compile = .ok r

/-- The slots of the fields of a rule. -/
def Fields.slots : List (Slot Fields) :=
  [⟨"pattern", string, StringText, Fields.pattern, fun v s => { s with pattern := v }⟩,
    ⟨"priority", Priority.reader, Priority.JsonText, Fields.priority,
      fun v s => { s with priority := v }⟩,
    ⟨"capture", boolean, BooleanText, Fields.captures, fun v s => { s with captures := v }⟩,
    ⟨"name", optional string, NullableText StringText, Fields.name,
      fun v s => { s with name := v }⟩]

theorem Fields.slots_read : Slots slots {} Fields.read where
  recognizes := by
    simp only [slots, List.forall_mem_cons]
    refine ⟨recognizes_string _, Priority.recognizes_reader, recognizes_boolean, ?_, by simp⟩
    refine (recognizes_string _).optional fun text s h => ?_
    obtain ⟨body, rfl⟩ := h.exists_eq_cons
    simp
  get_set := by simp [slots]
  apart := by simp [slots, Slot.apart_iff]
  get_empty := by simp [slots]
  ext s s' h := by
    simp only [slots, List.forall_mem_cons] at h
    obtain ⟨hpattern, hpriority, hcaptures, hname, -⟩ := h
    cases s
    cases s'
    exact Fields.mk.injEq .. |>.mpr ⟨hpattern, hpriority, hcaptures, hname⟩
  field_of_mem := by
    simp only [slots, List.forall_mem_cons]
    exact ⟨fun _ => rfl, fun _ => rfl, fun _ => rfl, fun _ => rfl, by simp⟩
  field_of_not_mem key hkey s := by
    unfold read
    split
    iterate 4
      · simp [slots] at hkey
    · rfl

/-- A rule is completed from the fields that have been read. -/
def Fields.Completes (s : Fields) (d : Definition) : Prop :=
  ∃ pattern, s.pattern = some pattern ∧ d = ⟨pattern, s.priority.getD .natural,
    s.captures.getD true, s.name.getD none⟩

theorem Fields.reads_complete_iff {s : Fields} {text rest : List Char} {d : Definition} :
    Reads (complete s) text d rest ↔ s.Completes d ∧ text = rest := by
  unfold complete Completes
  cases s.pattern with
  | none =>
    constructor
    · intro h
      exact absurd h (not_reads_throw _)
    · rintro ⟨⟨pattern, hpattern, -⟩, -⟩
      cases hpattern
  | some pattern =>
    refine reads_pure_iff.trans (and_congr_left' ?_)
    simp [eq_comm]

theorem Fields.reads_readList_iff {text rest : List Char} {d : Definition} :
    Reads readList text d rest ↔
      ∃ s, Reads (readSlots slots 0 {}) text s rest ∧ s.Completes d := by
  constructor
  · intro h
    obtain ⟨pattern?, _, hpattern, h⟩ := reads_bind_iff.1 h
    cases pattern? with
    | none => exact absurd h (not_reads_throw _)
    | some pattern =>
      simp only [reads_bind_iff, reads_pure_iff] at h
      obtain ⟨priority, _, hpriority, captures, _, hcaptures, name, _, hname, rfl, rfl⟩ := h
      refine ⟨⟨some pattern, priority, captures, name⟩, ?_, pattern, rfl, rfl⟩
      exact hpattern.bind (hpriority.bind (hcaptures.bind (hname.bind (reads_pure _ _))))
  · rintro ⟨s, h, pattern, hs, rfl⟩
    simp only [slots, readSlots, reads_bind_iff, reads_pure_iff] at h
    obtain ⟨pattern?, _, hpattern, priority, _, hpriority, captures, _, hcaptures, name, _, hname,
      rfl, rfl⟩ := h
    obtain rfl : pattern? = some pattern := hs
    refine hpattern.bind ?_
    exact hpriority.bind (hcaptures.bind (hname.bind (reads_pure _ _)))

theorem recognizes_definition :
    Recognizes (record "struct RuleDefinition" {} Fields.read Fields.complete Fields.readList)
      Definition.JsonText := by
  refine (recognizes_record Fields.slots_read Fields.reads_complete_iff Fields.reads_readList_iff
    "struct RuleDefinition").congr fun text d => ?_
  constructor
  · rintro ⟨members, s, htext, hs, pattern, hpattern, rfl⟩
    simp only [Shows, Fields.slots, List.forall_mem_cons] at hs
    rw [hpattern] at hs
    obtain ⟨hpattern, hpriority, hcaptures, hname, -⟩ := hs
    exact .mk htext hpattern hpriority hcaptures hname
  · rintro ⟨htext, hpattern, hpriority, hcaptures, hname⟩
    refine ⟨_, ⟨some _, _, _, _⟩, htext, ?_, _, rfl, rfl⟩
    simp only [Shows, Fields.slots, List.forall_mem_cons]
    exact ⟨hpattern, hpriority, hcaptures, hname, by simp⟩

/-- **Rules.** A rule is read in all ways to write it. -/
theorem recognizes_reader : Recognizes reader JsonText where
  spells := by
    rintro text r ⟨d, hd, hcompile⟩
    refine (recognizes_definition.spells hd).bind fun rest => ?_
    rw [hcompile]
    exact reads_pure r rest
  written := by
    intro text r rest h
    obtain ⟨d, _, hd, hcompile⟩ := reads_bind_iff.1 h
    split at hcompile
    · next heq =>
      obtain ⟨rfl, rfl⟩ := reads_pure_iff.1 hcompile
      obtain ⟨ws, found, hws, hfound, htext⟩ := recognizes_definition.written hd
      exact ⟨ws, found, hws, ⟨d, hfound, heq⟩, htext⟩
    · exact absurd hcompile (not_reads_throw _)

end Rule

namespace RuleFile

/-! ### Groups -/

/-- The ways to write a group. -/
inductive Group.JsonText : List Char → Group → Prop
  | mk {text : List Char} {members : List (String × List Char)} {order : OrderKey}
      {rules : List Rule} : RecordText ["order", "rules"] text members →
      Option.Rel OrderKeyText (members.lookup "order") (some order) →
      Option.Rel (ListText Rule.JsonText) (members.lookup "rules") (some rules) →
      JsonText text ⟨order, rules⟩

namespace Group

/-- The slots of the fields of a group. -/
def slots : List (Slot (Option OrderKey × Option (List Rule))) :=
  [⟨"order", orderKey, OrderKeyText, Prod.fst, fun v s => (v, s.2)⟩,
    ⟨"rules", list Rule.reader, ListText Rule.JsonText, Prod.snd, fun v s => (s.1, v)⟩]

theorem slots_readField : Slots slots (none, none) readField where
  recognizes := by
    simp only [slots, List.forall_mem_cons]
    exact ⟨recognizes_orderKey, Rule.recognizes_reader.list, by simp⟩
  get_set := by simp [slots]
  apart := by simp [slots, Slot.apart_iff]
  get_empty := by simp [slots]
  ext s s' h := by
    simp only [slots, List.forall_mem_cons] at h
    exact Prod.ext h.1 h.2.1
  field_of_mem := by
    simp only [slots, List.forall_mem_cons]
    exact ⟨fun _ => rfl, fun _ => rfl, by simp⟩
  field_of_not_mem key hkey s := by
    unfold readField
    split
    iterate 2
      · simp [slots] at hkey
    · rfl

theorem reads_ofFields_iff {s : Option OrderKey × Option (List Rule)} {text rest : List Char}
    {g : Group} :
    Reads (ofFields s) text g rest ↔ s = (some g.order, some g.rules) ∧ text = rest := by
  match s with
  | (none, _) => exact ⟨fun h => absurd h (not_reads_throw _), fun h => by simp at h⟩
  | (some _, none) => exact ⟨fun h => absurd h (not_reads_throw _), fun h => by simp at h⟩
  | (some order, some rules) =>
    refine reads_pure_iff.trans (and_congr_left' ?_)
    constructor
    · rintro rfl
      rfl
    · intro h
      obtain ⟨horder, hrules⟩ := Prod.mk.inj h
      rw [Option.some.inj horder, Option.some.inj hrules]

theorem reads_readList_iff {text rest : List Char} {g : Group} :
    Reads readList text g rest ↔
      ∃ s, Reads (readSlots slots 0 (none, none)) text s rest ∧
        s = (some g.order, some g.rules) := by
  constructor
  · intro h
    obtain ⟨order?, _, horder, h⟩ := reads_bind_iff.1 h
    cases order? with
    | none => exact absurd h (not_reads_throw _)
    | some order =>
      obtain ⟨rules?, _, hrules, h⟩ := reads_bind_iff.1 h
      cases rules? with
      | none => exact absurd h (not_reads_throw _)
      | some rules =>
        obtain ⟨rfl, rfl⟩ := reads_pure_iff.1 h
        exact ⟨_, horder.bind (hrules.bind (reads_pure _ _)), rfl⟩
  · rintro ⟨s, h, rfl⟩
    simp only [slots, readSlots, reads_bind_iff, reads_pure_iff] at h
    obtain ⟨order?, _, horder, rules?, _, hrules, heq, rfl⟩ := h
    obtain ⟨rfl, rfl⟩ := Prod.mk.inj heq
    exact horder.bind (hrules.bind (reads_pure g _))

/-- **Groups.** A group is read in all ways to write it. -/
theorem recognizes_reader : Recognizes reader JsonText := by
  refine (recognizes_record slots_readField reads_ofFields_iff reads_readList_iff
    "struct OrderSchema").congr fun text g => ?_
  constructor
  · rintro ⟨members, s, htext, hs, rfl⟩
    simp only [Shows, slots, List.forall_mem_cons] at hs
    exact .mk htext hs.1 hs.2.1
  · rintro ⟨htext, horder, hrules⟩
    refine ⟨_, (some _, some _), htext, ?_, rfl⟩
    simp only [Shows, slots, List.forall_mem_cons]
    exact ⟨horder, hrules, by simp⟩

end Group

/-! ### Rule files -/

/-- The ways to write a rule file. -/
inductive JsonText : List Char → RuleFile → Prop
  | mk {text : List Char} {members : List (String × List Char)}
      {start? : Option (Option OrderKey)} {groups? : Option (List Group)} :
      RecordText ["start", "orders"] text members →
      Option.Rel (NullableText OrderKeyText) (members.lookup "start") start? →
      Option.Rel (ListText Group.JsonText) (members.lookup "orders") groups? →
      JsonText text ⟨start?.getD none, groups?.getD []⟩

/-- The slots of the fields of a rule file. -/
def slots : List (Slot (Option (Option OrderKey) × Option (List Group))) :=
  [⟨"start", optional orderKey, NullableText OrderKeyText, Prod.fst, fun v s => (v, s.2)⟩,
    ⟨"orders", list Group.reader, ListText Group.JsonText, Prod.snd, fun v s => (s.1, v)⟩]

theorem slots_readField : Slots slots (none, none) readField where
  recognizes := by
    simp only [slots, List.forall_mem_cons]
    refine ⟨recognizes_orderKey.optional ?_, Group.recognizes_reader.list, by simp⟩
    rintro _ k rfl
    exact head?_toString_ne k.val
  get_set := by simp [slots]
  apart := by simp [slots, Slot.apart_iff]
  get_empty := by simp [slots]
  ext s s' h := by
    simp only [slots, List.forall_mem_cons] at h
    exact Prod.ext h.1 h.2.1
  field_of_mem := by
    simp only [slots, List.forall_mem_cons]
    exact ⟨fun _ => rfl, fun _ => rfl, by simp⟩
  field_of_not_mem key hkey s := by
    unfold readField
    split
    iterate 2
      · simp [slots] at hkey
    · rfl

/-- **Rule files.** A rule file is read in all ways to write it. -/
theorem recognizes_reader : Recognizes reader JsonText := by
  have hof : ∀ {s text file rest}, Reads (pure (ofFields s) : Reader RuleFile) text file rest ↔
      ofFields s = file ∧ text = rest := reads_pure_iff
  have hlist : ∀ {text file rest}, Reads (do
      let start ← element? 0 (optional orderKey)
      let groups ← element? 1 (list Group.reader)
      return ofFields (start, groups)) text file rest ↔
      ∃ s, Reads (readSlots slots 0 (none, none)) text s rest ∧ ofFields s = file := by
    intro text file rest
    simp only [slots, readSlots, reads_bind_iff, reads_pure_iff]
    constructor
    · rintro ⟨start, _, hstart, groups, _, hgroups, hfile, hrest⟩
      exact ⟨_, ⟨start, _, hstart, groups, _, hgroups, rfl, hrest⟩, hfile⟩
    · rintro ⟨_, ⟨start, _, hstart, groups, _, hgroups, rfl, hrest⟩, hfile⟩
      exact ⟨start, _, hstart, groups, _, hgroups, hfile, hrest⟩
  refine (recognizes_record slots_readField hof hlist "struct RuleFileSchema").congr
    fun text file => ?_
  constructor
  · rintro ⟨members, s, htext, hs, rfl⟩
    simp only [Shows, slots, List.forall_mem_cons] at hs
    exact .mk htext hs.1 hs.2.1
  · rintro ⟨htext, hstart, hgroups⟩
    refine ⟨_, (_, _), htext, ?_, rfl⟩
    simp only [Shows, slots, List.forall_mem_cons]
    exact ⟨hstart, hgroups, by simp⟩

/-- A text tells a rule file if it holds one with nothing but blanks around it. -/
def Tells (text : String) (file : RuleFile) : Prop :=
  ∃ ws found ws', Blanks ws ∧ JsonText found file ∧ Blanks ws' ∧ text.toList = ws ++ found ++ ws'

/-- **Reading.** The rule file that is read is the one that the text tells. -/
theorem ofJson?_eq_ok_iff {text : String} {file : RuleFile} :
    ofJson? text = .ok file ↔ Tells text file :=
  recognizes_reader.whole_eq_ok_iff

/-- However a text is taken apart, it tells one rule file. -/
theorem Tells.unique {text : String} {file file' : RuleFile} (h : Tells text file)
    (h' : Tells text file') : file = file' := by
  rw [← ofJson?_eq_ok_iff] at h h'
  exact Except.ok.inj (h.symm.trans h')

end RuleFile
end OrderedLexer
