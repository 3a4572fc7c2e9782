import OrderedLexer.Proofs.Json.Skipping
import Mathlib.Data.List.Pairwise
import Mathlib.Tactic.MkIffOfInductiveProp

namespace OrderedLexer.Json

open Reader

/-!
# Records in JSON

A record is written as an object with its fields in any sequence and any further members between
them, or as the list of its values in the sequence of its fields. While it is read, each of its
fields has a slot in a state.

* `Fits`, `RecordText` — the ways to write a record, given its keys;
* `Slot`, `Shows`, `Slots` — the slots of a state, what they show of the members that are read, and
  what a reader does with them;
* `Slots.fields_written`, `Slots.collects` — members are read into the slots;
* `Lawful.readSlots_written`, `Lawful.reads_readSlots` — so are the values of a list;
* `recognizes_record` — the reader of a record recognizes the ways to write it.
-/

variable {α σ : Type} {text rest ws : List Char} {members : List (String × List Char)}

/-! ### The ways to write a record -/

/-- The members fit a record with these keys: none of the keys comes twice, and a member with
    another key has any value. -/
structure Fits (keys : List String) (members : List (String × List Char)) : Prop where
  once : ∀ key ∈ keys, (members.map (·.1)).count key ≤ 1
  other : ∀ m ∈ members, m.1 ∉ keys → AnyText m.2

/-- The ways to write a record with these keys, given the texts of its values. -/
inductive RecordText (keys : List String) : List Char → List (String × List Char) → Prop
  | object {text : List Char} {members : List (String × List Char)} : ObjectText text members →
      Fits keys members → RecordText keys text members
  | list {text : List Char} {values : List (List Char)} : ListText Eq text values →
      values.length ≤ keys.length → RecordText keys text (keys.zip values)

/-- An object with one member. -/
theorem objectText_singleton_iff {key : String} {value : List Char} :
    ObjectText text [(key, value)] ↔
      ∃ ws keyText ws₁ ws₂ ws₃, Blanks ws ∧ StringText keyText key ∧ Blanks ws₁ ∧ Blanks ws₂ ∧
        Blanks ws₃ ∧ text = '\x7b' :: (ws ++ keyText ++ ws₁ ++ ':' :: ws₂ ++ value ++ ws₃) ++
          ['\x7d'] := by
  constructor
  · rintro ⟨body, ws₃, hbody, hws₃, rfl⟩
    cases hbody with
    | cons hlead hmember hnil =>
      cases hnil
      cases hlead with
      | first hws =>
        cases hmember with
        | mk hkey hws₁ hws₂ => exact ⟨_, _, _, _, ws₃, hws, hkey, hws₁, hws₂, hws₃, by simp⟩
  · rintro ⟨ws, keyText, ws₁, ws₂, ws₃, hws, hkey, hws₁, hws₂, hws₃, rfl⟩
    exact ⟨_, ws₃, .cons (.first hws) (.mk hkey hws₁ hws₂) (.nil false), hws₃, by simp⟩

/-! ### Slots -/

/-- The place of a field in the state of a reader. -/
structure Slot (σ : Type) where
  {Value : Type}
  key : String
  value : Reader Value
  /-- The ways to write the value of the field. -/
  Text : List Char → Value → Prop
  get : σ → Option Value
  set : Option Value → σ → σ

/-- The slots of a state show what the members say about their fields. -/
def Shows (slots : List (Slot σ)) (members : List (String × List Char)) (s : σ) : Prop :=
  ∀ slot ∈ slots, Option.Rel slot.Text (members.lookup slot.key) (slot.get s)

/-- Two slots have keys of their own, and setting one does not change the other. -/
@[mk_iff]
structure Slot.Apart (slot slot' : Slot σ) : Prop where
  key_ne : slot.key ≠ slot'.key
  get_set : ∀ v s, slot.get (slot'.set v s) = slot.get s
  get_set' : ∀ v s, slot'.get (slot.set v s) = slot'.get s

/-- Each slot holds what is set, and is apart from the others. -/
structure Lawful (slots : List (Slot σ)) : Prop where
  recognizes : ∀ slot ∈ slots, Recognizes slot.value slot.Text
  get_set : ∀ slot ∈ slots, ∀ v s, slot.get (slot.set v s) = v
  apart : slots.Pairwise Slot.Apart

/-- The slots make up a state, and a reader of fields reads each field into its slot. -/
structure Slots (slots : List (Slot σ)) (empty : σ) (field : String → σ → Reader σ) : Prop
    extends Lawful slots where
  get_empty : ∀ slot ∈ slots, slot.get empty = none
  ext : ∀ s s', (∀ slot ∈ slots, slot.get s = slot.get s') → s = s'
  field_of_mem : ∀ slot ∈ slots, ∀ s, field slot.key s = do
    return slot.set (← once slot.key (slot.get s) slot.value) s
  field_of_not_mem : ∀ key ∉ slots.map (·.key), ∀ s, field key s = do
    colon
    skipValue
    return s

variable {slots : List (Slot σ)} {empty s s' : σ} {field : String → σ → Reader σ} {key : String}
  {value : List Char}

instance : Std.Symm (Slot.Apart (σ := σ)) := ⟨fun _ _ h => ⟨h.key_ne.symm, h.get_set', h.get_set⟩⟩

/-- Different slots are apart. -/
theorem Lawful.apart_of_mem (h : Lawful slots) {slot slot' : Slot σ} (hslot : slot ∈ slots)
    (hslot' : slot' ∈ slots) (hne : slot ≠ slot') : slot.Apart slot' :=
  h.apart.forall hslot hslot' hne

/-! ### What the slots show -/

theorem lookup_eq_none_iff : members.lookup key = none ↔ key ∉ members.map (·.1) := by
  simp only [List.lookup_eq_none_iff, bne_iff_ne, List.mem_map, not_exists, not_and]
  exact forall₂_congr fun m _ => ne_comm

theorem lookup_append_of_ne {key' : String} (hne : key ≠ key') (value : List Char) :
    (members ++ [(key', value)]).lookup key = members.lookup key := by
  have hbeq : (key == key') = false := beq_false_of_ne hne
  rw [List.lookup_append, List.lookup_cons, hbeq]
  exact Option.or_none

theorem lookup_append_self (h : key ∉ members.map (·.1)) (value : List Char) :
    (members ++ [(key, value)]).lookup key = some value := by
  rw [List.lookup_append, lookup_eq_none_iff.2 h, List.lookup_cons_self]
  rfl

/-- A slot is empty as long as its key has not come. -/
theorem Shows.get_eq_none_iff (hs : Shows slots members s) {slot : Slot σ} (hslot : slot ∈ slots) :
    slot.get s = none ↔ slot.key ∉ members.map (·.1) := by
  have hshown := hs slot hslot
  rw [← lookup_eq_none_iff]
  generalize members.lookup slot.key = value? at hshown
  generalize slot.get s = a? at hshown
  cases hshown <;> simp

/-- A member with another key shows in no slot. -/
theorem shows_append_of_not_mem (hkey : key ∉ slots.map (·.key)) (value : List Char) :
    Shows slots (members ++ [(key, value)]) s ↔ Shows slots members s := by
  refine forall₂_congr fun slot hslot => ?_
  have hne : slot.key ≠ key := fun h => hkey (h ▸ List.mem_map_of_mem hslot)
  rw [lookup_append_of_ne hne]

/-- A field that comes for the first time is set in its slot. -/
theorem Slots.shows_append_iff (h : Slots slots empty field) {slot : Slot σ} (hslot : slot ∈ slots)
    (hkey : slot.key ∉ members.map (·.1)) :
    Shows slots (members ++ [(slot.key, value)]) s' ↔
      ∃ s a, Shows slots members s ∧ slot.Text value a ∧ s' = slot.set (some a) s := by
  constructor
  · intro hs'
    obtain ⟨a, ha, htext⟩ : ∃ a, slot.get s' = some a ∧ slot.Text value a := by
      have hshown := hs' slot hslot
      rw [lookup_append_self hkey] at hshown
      generalize slot.get s' = a? at hshown
      cases hshown with
      | some htext => exact ⟨_, rfl, htext⟩
    refine ⟨slot.set none s', a, fun slot' hslot' => ?_, htext, h.ext _ _ fun slot' hslot' => ?_⟩
    · by_cases heq : slot' = slot
      · subst heq
        rw [h.get_set slot' hslot', lookup_eq_none_iff.2 hkey]
        exact .none
      · have hapart := h.apart_of_mem hslot' hslot heq
        have hshown := hs' slot' hslot'
        rwa [lookup_append_of_ne hapart.key_ne, ← hapart.get_set none s'] at hshown
    · by_cases heq : slot' = slot
      · subst heq
        rw [h.get_set slot' hslot', ha]
      · have hapart := h.apart_of_mem hslot' hslot heq
        rw [hapart.get_set, hapart.get_set]
  · rintro ⟨s, a, hs, htext, rfl⟩ slot' hslot'
    by_cases heq : slot' = slot
    · subst heq
      rw [lookup_append_self hkey, h.get_set slot' hslot']
      exact .some htext
    · have hapart := h.apart_of_mem hslot' hslot heq
      rw [lookup_append_of_ne hapart.key_ne, hapart.get_set]
      exact hs slot' hslot'

/-- A member that is added fits if its key has not come yet, or if it has another key and any
    value. -/
theorem fits_append_iff {keys : List String} :
    Fits keys (members ++ [(key, value)]) ↔
      Fits keys members ∧ (key ∈ keys → key ∉ members.map (·.1)) ∧
        (key ∉ keys → AnyText value) := by
  have hcount : ∀ key', ((members ++ [(key, value)]).map (·.1)).count key' =
      (members.map (·.1)).count key' + if key = key' then 1 else 0 := by
    intro key'
    simp only [List.map_append, List.map_cons, List.map_nil, List.count_append, List.count_cons,
      List.count_nil, Nat.zero_add, beq_iff_eq]
  constructor
  · intro h
    refine ⟨⟨fun key' hkey' => ?_, fun m hm => h.other m (List.mem_append_left _ hm)⟩,
      fun hkey hmem => ?_, h.other (key, value) (by simp)⟩
    · have hle := h.once key' hkey'
      rw [hcount] at hle
      omega
    · have hle := h.once key hkey
      have := List.count_pos_iff.2 hmem
      rw [hcount, if_pos rfl] at hle
      omega
  · rintro ⟨hfits, hknown, hother⟩
    refine ⟨fun key' hkey' => ?_, fun m hm hkey => ?_⟩
    · rw [hcount]
      by_cases heq : key = key'
      · subst heq
        rw [List.count_eq_zero.2 (hknown hkey'), if_pos rfl]
      · rw [if_neg heq]
        exact hfits.once key' hkey'
    · rcases List.mem_append.1 hm with hm | hm
      · exact hfits.other m hm hkey
      · obtain rfl := List.mem_singleton.1 hm
        exact hother hkey

/-! ### Members -/

/-- A field that is read once stands behind a colon. -/
theorem once_written {x : Reader α} {P : List Char → α → Prop} (hx : Recognizes x P)
    {a? a?' : Option α} (h : Reads (once key a? x) text a?' rest) :
    a? = none ∧ ∃ ws ws' value a, Blanks ws ∧ Blanks ws' ∧ P value a ∧ a?' = some a ∧
      text = ws ++ ':' :: ws' ++ value ++ rest := by
  simp only [once, reads_bind_iff, reads_guard_iff, reads_colon_iff, reads_pure_iff] at h
  obtain ⟨hnone, _, _, ⟨ws, hws, rfl⟩, a, _, ha, rfl, rfl⟩ := h
  obtain ⟨ws', value, hws', hvalue, rfl⟩ := hx.written ha
  refine ⟨by simpa using hnone, ws, ws', value, a, hws, hws', hvalue, rfl, ?_⟩
  simp

/-- A member that is read fits, and shows in the slots. -/
theorem Slots.field_written (h : Slots slots empty field)
    (hfits : Fits (slots.map (·.key)) members) (hs : Shows slots members s)
    (hread : Reads (field key s) text s' rest) :
    ∃ ws ws' value, Blanks ws ∧ Blanks ws' ∧ text = ws ++ ':' :: ws' ++ value ++ rest ∧
      Fits (slots.map (·.key)) (members ++ [(key, value)]) ∧
      Shows slots (members ++ [(key, value)]) s' := by
  by_cases hkey : key ∈ slots.map (·.key)
  · obtain ⟨slot, hslot, rfl⟩ := List.mem_map.1 hkey
    rw [h.field_of_mem slot hslot] at hread
    simp only [reads_bind_iff, reads_pure_iff] at hread
    obtain ⟨a?, _, honce, rfl, rfl⟩ := hread
    obtain ⟨hnone, ws, ws', value, a, hws, hws', hvalue, rfl, rfl⟩ :=
      once_written (h.recognizes slot hslot) honce
    have hnew := (hs.get_eq_none_iff hslot).1 hnone
    refine ⟨ws, ws', value, hws, hws', rfl, ?_, ?_⟩
    · exact fits_append_iff.2 ⟨hfits, fun _ => hnew, fun hother => absurd hkey hother⟩
    · exact (h.shows_append_iff hslot hnew).2 ⟨s, a, hs, hvalue, rfl⟩
  · rw [h.field_of_not_mem key hkey] at hread
    simp only [reads_bind_iff, reads_colon_iff, reads_pure_iff] at hread
    obtain ⟨_, _, ⟨ws, hws, rfl⟩, _, _, hskip, rfl, rfl⟩ := hread
    obtain ⟨ws', value, hws', hvalue, rfl⟩ := recognizes_skipValue.written hskip
    refine ⟨ws, ws', value, hws, hws', by simp, ?_, ?_⟩
    · exact fits_append_iff.2 ⟨hfits, fun hknown => absurd hknown hkey, fun _ => hvalue⟩
    · exact (shows_append_of_not_mem hkey value).2 hs

/-- The key of the next member stands behind what leads to it. -/
theorem nextKey?_written {first : Bool} {key? : Option String}
    (h : Reads (nextKey? first) text key? rest) :
    (∃ key lead keyText, key? = some key ∧ Lead first lead ∧ StringText keyText key ∧
        text = lead ++ keyText ++ rest) ∨
      key? = none ∧ ∃ ws tail, Blanks ws ∧ text = ws ++ rest ∧ rest = '\x7d' :: tail := by
  simp only [nextKey?, reads_bind_iff, reads_upcoming_iff] at h
  obtain ⟨c, _, ⟨-, ws, tail, hws, rfl, rfl⟩, h⟩ := h
  split at h
  · next hclose =>
    obtain ⟨rfl, rfl⟩ := reads_pure_iff.1 h
    exact .inr ⟨rfl, ws, tail, hws, rfl, by rw [hclose]⟩
  · -- Whatever leads to it, a key starts with its quote.
    have hkey : ∀ {lead c tail}, Lead first lead → Reads (do
        if c != '"' then throw .keyNotString
        advance
        return some (← restOfString)) (c :: tail) key? rest →
        ∃ key lead' keyText, key? = some key ∧ Lead first lead' ∧ StringText keyText key ∧
          lead ++ c :: tail = lead' ++ keyText ++ rest := by
      intro lead c tail hlead hread
      obtain ⟨hquote, hread⟩ := reads_guard_iff.1 hread
      obtain rfl : c = '"' := by simpa using hquote
      obtain ⟨_, tail', hadvance, hstring⟩ := reads_bind_iff.1 hread
      obtain rfl : tail' = tail := reads_advance_iff.1 hadvance
      obtain ⟨key, _, hrest, hpure⟩ := reads_bind_iff.1 hstring
      obtain ⟨rfl, rfl⟩ := reads_pure_iff.1 hpure
      obtain ⟨body, rfl, hbody⟩ := restOfString_text hrest
      exact ⟨key, lead, '"' :: body, rfl, hlead, hbody, by simp⟩
    refine .inl ?_
    split at h
    · next hfirst =>
      rw [hfirst] at hkey ⊢
      exact hkey (.first hws) h
    · next hfirst =>
      rw [Bool.not_eq_true] at hfirst
      rw [hfirst] at hkey ⊢
      split at h
      · next hcomma =>
        subst hcomma
        obtain ⟨_, tail', hadvance, hbehind⟩ := reads_bind_iff.1 h
        obtain rfl : tail' = tail := reads_advance_iff.1 hadvance
        obtain ⟨c, _, hupcoming, hchecked⟩ := reads_bind_iff.1 hbehind
        obtain ⟨-, ws', tail'', hws', rfl, rfl⟩ := reads_upcoming_iff.1 hupcoming
        obtain ⟨-, hread⟩ := reads_guard_iff.1 hchecked
        obtain ⟨key, lead, keyText, hkey?, hlead, hkeyText, htext⟩ :=
          hkey (.next hws hws') hread
        exact ⟨key, lead, keyText, hkey?, hlead, hkeyText, by rw [← htext]; simp⟩
      · exact absurd h (not_reads_throw_bind _ _)

/-- The members that are read stand one after the other, before the closing brace; they fit, and
    show in the slots. -/
theorem Slots.fields_written (h : Slots slots empty field) {fuel : Nat} {first : Bool}
    (hfits : Fits (slots.map (·.key)) members) (hs : Shows slots members s)
    (hread : Reads (fields field fuel first s) text s' rest) :
    ∃ body ws tail members', Separated MemberText first body members' ∧ Blanks ws ∧
      text = body ++ ws ++ rest ∧ rest = '\x7d' :: tail ∧
      Fits (slots.map (·.key)) (members ++ members') ∧ Shows slots (members ++ members') s' := by
  induction fuel generalizing first text members s with
  | zero => exact absurd hread (not_reads_throw _)
  | succ fuel ih =>
    simp only [fields, reads_bind_iff] at hread
    obtain ⟨key?, _, hkey, hread⟩ := hread
    rcases nextKey?_written hkey with ⟨key, lead, keyText, rfl, hlead, hkeyText, rfl⟩ |
      ⟨rfl, ws, tail, hws, rfl, rfl⟩
    · obtain ⟨s₁, _, hfield, hbehind⟩ := reads_bind_iff.1 hread
      obtain ⟨ws, ws', value, hws, hws', rfl, hfits, hs⟩ := h.field_written hfits hs hfield
      obtain ⟨body, ws'', tail, members', hbody, hws'', rfl, rfl, hfits, hs⟩ := ih hfits hs hbehind
      refine ⟨lead ++ (keyText ++ ws ++ ':' :: ws' ++ value) ++ body, ws'', tail,
        (key, value) :: members', .cons hlead (.mk hkeyText hws hws') hbody, hws'', by simp, rfl,
        ?_, ?_⟩
      · simpa using hfits
      · simpa using hs
    · obtain ⟨rfl, rfl⟩ := reads_pure_iff.1 hread
      refine ⟨[], ws, tail, [], .nil first, hws, rfl, rfl, ?_, ?_⟩
      · simpa using hfits
      · simpa using hs

/-- What is collected from members goes on with one more. -/
theorem Collects.append {s s' s'' : σ} (h : Collects field members s s')
    (hfield : TakesField field key value s' s'') :
    Collects field (members ++ [(key, value)]) s s'' := by
  induction h with
  | nil s => exact .cons hfield (.nil _)
  | cons hfirst _ ih => exact .cons hfirst (ih hfield)

/-- Members that fit are collected into the slots that show them. -/
theorem Slots.collects (h : Slots slots empty field) (hfits : Fits (slots.map (·.key)) members)
    (hs : Shows slots members s) : Collects field members empty s := by
  induction members using List.reverseRecOn generalizing s with
  | nil =>
    obtain rfl : empty = s := by
      refine h.ext _ _ fun slot hslot => ?_
      rw [h.get_empty slot hslot, (hs.get_eq_none_iff hslot).2 (by simp)]
    exact .nil _
  | append_singleton members member ih =>
    obtain ⟨key, value⟩ := member
    obtain ⟨hfront, hknown, hother⟩ := fits_append_iff.1 hfits
    by_cases hkey : key ∈ slots.map (·.key)
    · obtain ⟨slot, hslot, rfl⟩ := List.mem_map.1 hkey
      obtain ⟨s₀, a, hs₀, hvalue, rfl⟩ := (h.shows_append_iff hslot (hknown hkey)).1 hs
      have hnone := (hs₀.get_eq_none_iff hslot).2 (hknown hkey)
      have hspells := (h.recognizes slot hslot).spells hvalue
      have hfield := h.field_of_mem slot hslot s₀
      rw [hnone] at hfield
      exact (ih hfront hs₀).append (hspells.takesField hfield)
    · rw [shows_append_of_not_mem hkey] at hs
      refine (ih hfront hs).append fun ws ws' rest hws hws' hrest => ?_
      have hskip := (recognizes_skipValue.spells (a := ()) (hother hkey)).reads ws' rest hws' hrest
      have hread : Reads (do skipValue; return s) _ s rest := hskip.bind (reads_pure s rest)
      rw [h.field_of_not_mem key hkey]
      simp only [List.append_assoc, List.cons_append] at hread ⊢
      exact (reads_colon hws _).bind hread

/-! ### Values in a list -/

/-- Read the values of a list into the slots; those at the end may be missing. -/
def readSlots : List (Slot σ) → Nat → σ → Reader σ
  | [], _, s => return s
  | slot :: slots, i, s => do
    readSlots slots (i + 1) (slot.set (← element? i slot.value) s)

/-- Either an element is read behind what leads to it, or the bracket is ahead. -/
theorem element?_written {x : Reader α} {P : List Char → α → Prop} (hx : Recognizes x P) {i : Nat}
    {a? : Option α} (h : Reads (element? i x) text a? rest) :
    (∃ lead value a, a? = some a ∧ Lead (i = 0) lead ∧ P value a ∧ text = lead ++ value ++ rest) ∨
      a? = none ∧ ∃ ws tail, Blanks ws ∧ text = ws ++ rest ∧ rest = ']' :: tail := by
  obtain ⟨more, _, hmore, hread⟩ := reads_bind_iff.1 h
  rcases moreElements_written hmore with ⟨rfl, lead, hlead, rfl⟩ | ⟨rfl, ws, tail, hws, rfl, rfl⟩
  · obtain ⟨a, _, ha, hpure⟩ := reads_bind_iff.1 hread
    obtain ⟨rfl, rfl⟩ := reads_pure_iff.1 hpure
    obtain ⟨ws, value, hws, hvalue, rfl⟩ := hx.written ha
    exact .inl ⟨lead ++ ws, value, a, rfl, hlead.append_blanks hws, hvalue, by simp⟩
  · obtain ⟨rfl, rfl⟩ := reads_pure_iff.1 hread
    exact .inr ⟨rfl, ws, tail, hws, rfl, rfl⟩

/-- No further part stands where a bracket is ahead. -/
theorem Separated.eq_nil_of_bracket {P : List Char → α → Prop} {body tail : List Char}
    {as : List α} (h : Separated P false body as) (htext : body ++ ws ++ rest = ']' :: tail) :
    as = [] := by
  cases h with
  | nil => rfl
  | cons hlead _ _ =>
    cases hlead with
    | @next ws₁ ws₂ hws₁ _ =>
      cases ws₁ with
      | nil => simp at htext
      | cons c ws₁ =>
        have hblank := hws₁ c List.mem_cons_self
        obtain rfl : c = ']' := by simpa using congrArg List.head? htext
        simp [isBlank] at hblank

theorem Lawful.tail {slot : Slot σ} (h : Lawful (slot :: slots)) : Lawful slots where
  recognizes slot' hslot' := h.recognizes slot' (List.mem_cons_of_mem _ hslot')
  get_set slot' hslot' := h.get_set slot' (List.mem_cons_of_mem _ hslot')
  apart := (List.pairwise_cons.1 h.apart).2

/-- The value of the first key shows in the first slot. -/
theorem Lawful.shows_cons_iff {slot : Slot σ} (h : Lawful (slot :: slots)) :
    Shows (slot :: slots) ((slot.key, value) :: members) s ↔
      (∃ a, slot.get s = some a ∧ slot.Text value a) ∧ Shows slots members s := by
  have hothers : Shows slots ((slot.key, value) :: members) s ↔ Shows slots members s := by
    refine forall₂_congr fun slot' hslot' => ?_
    have hne := ((List.pairwise_cons.1 h.apart).1 slot' hslot').key_ne.symm
    have hbeq : (slot'.key == slot.key) = false := beq_false_of_ne hne
    rw [List.lookup_cons, hbeq]
  refine List.forall_mem_cons.trans (and_congr ?_ hothers)
  rw [List.lookup_cons_self]
  constructor
  · intro hshown
    generalize slot.get s = a? at hshown
    cases hshown with
    | some hvalue => exact ⟨_, rfl, hvalue⟩
  · rintro ⟨a, ha, hvalue⟩
    rw [ha]
    exact .some hvalue

/-- Without members all slots are empty. -/
theorem shows_nil_iff : Shows slots [] s ↔ ∀ slot ∈ slots, slot.get s = none := by
  refine forall₂_congr fun slot _ => ?_
  rw [List.lookup_nil]
  generalize slot.get s = a?
  constructor
  · rintro ⟨⟩
    rfl
  · rintro rfl
    exact .none

/-- The values that are read stand one after the other, and show in the slots. Slots that are apart
    from these do not change. -/
theorem Lawful.readSlots_written (h : Lawful slots) {i : Nat}
    (hread : Reads (readSlots slots i s) text s' rest) :
    ∃ body ws values, Separated Eq (i = 0) body values ∧ Blanks ws ∧ text = body ++ ws ++ rest ∧
      values.length ≤ slots.length ∧ Shows slots ((slots.map (·.key)).zip values) s' ∧
      ∀ slot, (∀ slot' ∈ slots, Slot.Apart slot slot') → slot.get s' = slot.get s := by
  induction slots generalizing i s text with
  | nil =>
    obtain ⟨rfl, rfl⟩ := reads_pure_iff.1 hread
    exact ⟨[], [], [], .nil _, blanks_nil, rfl, Nat.le_refl _, fun _ h => (nomatch h),
      fun _ _ => rfl⟩
  | cons slot slots ih =>
    obtain ⟨a?, _, helement, hbehind⟩ := reads_bind_iff.1 hread
    obtain ⟨body, ws, values, hbody, hws, rfl, hlength, hs, hframe⟩ := ih h.tail hbehind
    have hget : slot.get s' = a? := by
      rw [hframe slot (List.pairwise_cons.1 h.apart).1, h.get_set slot List.mem_cons_self]
    have hframe' : ∀ slot', (∀ slot'' ∈ slot :: slots, Slot.Apart slot' slot'') →
        slot'.get s' = slot'.get s := by
      intro slot' hslot'
      obtain ⟨hfirst, hothers⟩ := List.forall_mem_cons.1 hslot'
      rw [hframe slot' hothers, hfirst.get_set]
    rcases element?_written (h.recognizes slot List.mem_cons_self) helement with
      ⟨lead, value, a, rfl, hlead, hvalue, rfl⟩ | ⟨rfl, ws', tail, hws', rfl, htail⟩
    · have hbody : Separated Eq false body values := by simpa using hbody
      refine ⟨lead ++ value ++ body, ws, value :: values, .cons hlead rfl hbody, hws, by simp, ?_,
        h.shows_cons_iff.2 ⟨⟨a, hget, hvalue⟩, hs⟩, hframe'⟩
      simpa using hlength
    · have hbody : Separated Eq false body values := by simpa using hbody
      obtain rfl := hbody.eq_nil_of_bracket htail
      cases hbody
      refine ⟨[], ws' ++ ws, [], .nil _, hws'.append hws, by simp, Nat.zero_le _, ?_, hframe'⟩
      rw [List.zip_nil_right, shows_nil_iff] at hs ⊢
      exact List.forall_mem_cons.2 ⟨hget, hs⟩

/-- An element is read if one stands ahead. -/
theorem Spells.element? {x : Reader α} {a : α} (h : Spells x value a) {i : Nat} {lead : List Char}
    (hlead : Lead (i = 0) lead) (hrest : Delimited rest) :
    Reads (element? i x) (lead ++ value ++ rest) (some a) rest := by
  obtain ⟨c, cs, rfl, hblank, hclose⟩ := h.head
  have hread := h.reads [] rest blanks_nil hrest
  unfold Reader.element?
  rw [List.append_assoc]
  refine (reads_moreElements hlead hblank hclose).bind ?_
  rw [if_pos rfl]
  exact hread.bind (reads_pure (some a) rest)

/-- Values are read into the slots that show them. Slots that are apart from these do not change. -/
theorem Lawful.reads_readSlots (h : Lawful slots) {i : Nat} {body : List Char}
    {values : List (List Char)} (hbody : Separated Eq (i = 0) body values)
    (hlength : values.length ≤ slots.length) (hws : Blanks ws)
    (hs' : Shows slots ((slots.map (·.key)).zip values) s') (s : σ) (rest : List Char) :
    ∃ ws' s'', Blanks ws' ∧
      Reads (readSlots slots i s) (body ++ ws ++ ']' :: rest) s'' (ws' ++ ']' :: rest) ∧
      (∀ slot ∈ slots, slot.get s'' = slot.get s') ∧
      ∀ slot, (∀ slot' ∈ slots, Slot.Apart slot slot') → slot.get s'' = slot.get s := by
  induction slots generalizing i s body values ws with
  | nil =>
    obtain rfl : values = [] := List.length_eq_zero_iff.1 (Nat.le_zero.1 hlength)
    cases hbody
    exact ⟨ws, s, hws, reads_pure s _, fun _ h => (nomatch h), fun _ _ => rfl⟩
  | cons slot slots ih =>
    have hbracket : Delimited (']' :: rest) := delimited_cons (.inr (.inr (.inl rfl)))
    -- What is left of the values is read into the other slots.
    have hstep : ∀ {a? body' values' ws'}, Separated Eq false body' values' →
        values'.length ≤ slots.length → Blanks ws' →
        Shows slots ((slots.map (·.key)).zip values') s' → slot.get s' = a? →
        Reads (element? i slot.value) (body ++ ws ++ ']' :: rest) a? (body' ++ ws' ++ ']' :: rest) →
        ∃ ws'' s'', Blanks ws'' ∧ Reads (readSlots (slot :: slots) i s)
          (body ++ ws ++ ']' :: rest) s'' (ws'' ++ ']' :: rest) ∧
          (∀ slot' ∈ slot :: slots, slot'.get s'' = slot'.get s') ∧
          ∀ slot', (∀ slot'' ∈ slot :: slots, Slot.Apart slot' slot'') →
            slot'.get s'' = slot'.get s := by
      intro a? body' values' ws' hbody' hlength' hws' hs' hget helement
      obtain ⟨ws'', s'', hws'', hread, hshown, hframe⟩ :=
        ih h.tail (i := i + 1) (by simpa using hbody') hlength' hws' hs' (slot.set a? s)
      refine ⟨ws'', s'', hws'', helement.bind hread, List.forall_mem_cons.2 ⟨?_, hshown⟩, ?_⟩
      · rw [hframe slot (List.pairwise_cons.1 h.apart).1, h.get_set slot List.mem_cons_self, hget]
      · intro slot' hslot'
        obtain ⟨hfirst, hothers⟩ := List.forall_mem_cons.1 hslot'
        rw [hframe slot' hothers, hfirst.get_set]
    cases hbody with
    | nil =>
      rw [List.zip_nil_right, shows_nil_iff, List.forall_mem_cons] at hs'
      refine hstep (.nil false) (Nat.zero_le _) blanks_nil ?_ hs'.1 ?_
      · rw [List.zip_nil_right]
        exact shows_nil_iff.2 hs'.2
      · exact (reads_moreElements_end _ hws rest).bind (reads_pure none _)
    | @cons _ lead _ texts value values hlead heq hvalues =>
      subst heq
      obtain ⟨⟨a, hget, hvalue⟩, hothers⟩ := h.shows_cons_iff.1 hs'
      refine hstep hvalues (by simpa using hlength) hws hothers hget ?_
      have hspells := (h.recognizes slot List.mem_cons_self).spells hvalue
      have hread := hspells.element? hlead (hvalues.delimited (hws.delimited hbracket))
      simpa using hread

/-! ### Records -/

/-- **Records.** The reader of a record recognizes the ways to write it. Its fields are read from an
    object or a list into the slots of a state, and the record is completed from this state. -/
theorem recognizes_record (h : Slots slots empty field) {complete : σ → α → Prop}
    {ofFields : σ → Reader α} {ofList : Reader α}
    (hof : ∀ {s text a rest}, Reads (ofFields s) text a rest ↔ complete s a ∧ text = rest)
    (hlist : ∀ {text a rest}, Reads ofList text a rest ↔
      ∃ s, Reads (readSlots slots 0 empty) text s rest ∧ complete s a) (expected : String) :
    Recognizes (record expected empty field ofFields ofList) (fun text a =>
      ∃ members s, RecordText (slots.map (·.key)) text members ∧ Shows slots members s ∧
        complete s a) where
  spells := by
    rintro text a ⟨members, s, htext, hs, hcomplete⟩
    cases htext with
    | object hobject hfits =>
      have hcompletes : ∀ rest, Reads (ofFields s) rest a rest := fun rest => hof.2 ⟨hcomplete, rfl⟩
      exact hobject.spells (h.collects hfits hs) hcompletes expected ofList
    | list hvalues hlength =>
      obtain ⟨body, ws', hbody, hws', rfl⟩ := hvalues
      refine ⟨⟨'[', _, rfl, by decide, by decide⟩, fun ws rest hws _ => ?_⟩
      rw [List.length_map] at hlength
      obtain ⟨ws'', s'', hws'', hread, hget, -⟩ :=
        h.reads_readSlots (i := 0) hbody hlength hws' hs empty rest
      obtain rfl : s'' = s := h.ext _ _ hget
      unfold record
      simp only [List.append_assoc, List.cons_append, List.nil_append] at hread ⊢
      refine (reads_upcoming _ hws (by decide)).bind ?_
      rw [if_pos rfl]
      refine (reads_advance '[' _).bind ?_
      refine (hlist.2 ⟨s'', hread, hcomplete⟩).bind ?_
      exact (reads_closeList hws'' rest).bind (reads_pure a rest)
  written := by
    intro text a rest hread
    simp only [record, reads_bind_iff, reads_upcoming_iff] at hread
    obtain ⟨c, _, ⟨-, ws, tail, hws, rfl, rfl⟩, hread⟩ := hread
    split at hread
    · next hopen =>
      simp only [reads_bind_iff, reads_advance_iff, reads_pure_iff] at hread
      obtain ⟨_, _, rfl, a, _, hvalues, _, _, hclose, rfl, rfl⟩ := hread
      obtain ⟨s, hread, hcomplete⟩ := hlist.1 hvalues
      obtain ⟨body, ws', values, hbody, hws', htail, hlength, hs, -⟩ := h.readSlots_written hread
      obtain ⟨ws'', hws'', rfl⟩ := closeList_written hclose
      have hlist : ListText Eq ('[' :: body ++ (ws' ++ ws'') ++ [']']) values :=
        ⟨body, ws' ++ ws'', hbody, hws'.append hws'', rfl⟩
      refine ⟨ws, _, hws, ⟨_, s, .list hlist ?_, hs, hcomplete⟩, ?_⟩
      · rwa [List.length_map]
      · rw [hopen, htail]
        simp
    · split at hread
      · next hopen =>
        simp only [reads_bind_iff, reads_advance_iff, reads_remaining_iff] at hread
        obtain ⟨_, _, rfl, _, _, ⟨rfl, rfl⟩, s, _, hfields, a, _, hcomplete, c, _, hclose, hread⟩ :=
          hread
        have hnone : Fits (slots.map (·.key)) [] :=
          ⟨fun _ _ => Nat.zero_le _, fun _ h => (nomatch h)⟩
        obtain ⟨body, ws', tail, members, hbody, hws', htail, rfl, hfits, hs⟩ :=
          h.fields_written hnone (shows_nil_iff.2 h.get_empty) hfields
        obtain ⟨hcompletes, rfl⟩ := hof.1 hcomplete
        obtain ⟨rfl, rfl⟩ := hclose.unique (reads_upcoming _ blanks_nil (by decide))
        simp only [if_true, reads_bind_iff, reads_advance_iff, reads_pure_iff] at hread
        obtain ⟨_, _, rfl, rfl, rfl⟩ := hread
        have hobject : ObjectText ('\x7b' :: body ++ ws' ++ ['\x7d']) members :=
          ⟨body, ws', hbody, hws', rfl⟩
        refine ⟨ws, _, hws, ⟨members, s, .object hobject hfits, hs, hcompletes⟩, ?_⟩
        rw [hopen, htail]
        simp
      · exact absurd hread (not_reads_refuse _ _)

end OrderedLexer.Json
