import OrderedLexer.Proofs.Json.Records
import Mathlib.Data.List.Nodup

namespace OrderedLexer.Json

/-!
# The fields of a record, as they are spelled

A record is told by its fields: their keys, the ways to write their values, and which of them have
the value that the record has without them. Such a field may be left out.

* `Written` — the fields as members of an object, `Listed` — as the values of a list;
* `Spelled` — a record is spelled as an object with its members in any sequence, and unknown ones
  between them, or as a list;
* `Field.ShownBy` — what members say about a field, wherever they stand;
* `spelled_iff` — a record is spelled exactly by the ways to write one whose members show its
  fields.
-/

/-- What is to be written of a field. -/
structure Field where
  key : String
  /-- The ways to write its value. -/
  Text : List Char → Prop
  /-- The record has the same value without the field. -/
  IsDefault : Prop

variable {f : Field} {fields : List Field} {text value : List Char} {values : List (List Char)}
  {members members' known unknown : List (String × List Char)} {key : String}

/-- The members for fields, in their sequence. A field with its default may be left out. -/
inductive Written : List Field → List (String × List Char) → Prop
  | nil : Written [] []
  | write {f : Field} {fields : List Field} {value : List Char}
      {members : List (String × List Char)} : f.Text value → Written fields members →
      Written (f :: fields) ((f.key, value) :: members)
  | leave {f : Field} {fields : List Field} {members : List (String × List Char)} : f.IsDefault →
      Written fields members → Written (f :: fields) members

/-- The values of fields, in their sequence. Those at the end may be left out if all of them have
    their default. -/
inductive Listed : List Field → List (List Char) → Prop
  | stop {fields : List Field} : (∀ f ∈ fields, f.IsDefault) → Listed fields []
  | write {f : Field} {fields : List Field} {value : List Char} {values : List (List Char)} :
      f.Text value → Listed fields values → Listed (f :: fields) (value :: values)

/-- The spellings of a record. In an object its members come in any sequence, between members with
    other keys and any values. -/
inductive Spelled (fields : List Field) : List Char → Prop
  | object {text : List Char} {members known unknown : List (String × List Char)} :
      Written fields known → (∀ m ∈ unknown, m.1 ∉ fields.map (·.key) ∧ AnyText m.2) →
      members.Perm (known ++ unknown) → ObjectText text members → Spelled fields text
  | list {text : List Char} {values : List (List Char)} : Listed fields values →
      ListText Eq text values → Spelled fields text

/-- The members tell the value of a field, or leave it out if it is the default. -/
def Field.ShownBy (f : Field) (members : List (String × List Char)) : Prop :=
  (∀ value, members.lookup f.key = some value → f.Text value) ∧
    (members.lookup f.key = none → f.IsDefault)

/-! ### Looking up a key that comes once -/

theorem lookup_cons_of_ne {key' : String} (h : key ≠ key') (value : List Char) :
    ((key', value) :: members).lookup key = members.lookup key := by
  have hbeq : (key == key') = false := beq_false_of_ne h
  rw [List.lookup_cons, hbeq]

/-- What is found for a key is what stands with it, if it comes once. -/
theorem lookup_eq_some_iff (h : (members.map (·.1)).count key ≤ 1) :
    members.lookup key = some value ↔ (key, value) ∈ members := by
  induction members with
  | nil => simp
  | cons m members ih =>
    obtain ⟨key', value'⟩ := m
    rw [List.map_cons, List.count_cons] at h
    by_cases hkey : key = key'
    · subst hkey
      have hnew : (key, value) ∉ members := by
        have hcount : (members.map (·.1)).count key = 0 := by simpa using h
        exact fun hmem => List.count_eq_zero.1 hcount (List.mem_map_of_mem hmem)
      rw [List.lookup_cons_self, List.mem_cons, or_iff_left hnew]
      simp [eq_comm]
    · rw [lookup_cons_of_ne hkey, ih (by omega), List.mem_cons, Prod.mk.injEq]
      simp [hkey]

/-- It does not depend on the sequence of the members. -/
theorem lookup_eq_of_perm (hperm : members.Perm members')
    (h : (members.map (·.1)).count key ≤ 1) : members.lookup key = members'.lookup key := by
  have h' : (members'.map (·.1)).count key ≤ 1 := ((hperm.map _).count_eq key) ▸ h
  refine Option.ext fun value => ?_
  rw [lookup_eq_some_iff h, lookup_eq_some_iff h', hperm.mem_iff]

/-! ### Members of an object -/

theorem key_ne_of_nodup {f' : Field} (hnodup : ((f :: fields).map (·.key)).Nodup)
    (hf' : f' ∈ fields) : f'.key ≠ f.key := by
  rw [List.map_cons, List.nodup_cons] at hnodup
  exact fun heq => hnodup.1 (heq ▸ List.mem_map_of_mem hf')

theorem Field.shownBy_cons_self : f.ShownBy ((f.key, value) :: members) ↔ f.Text value := by
  unfold ShownBy
  rw [List.lookup_cons_self]
  simp

theorem Field.shownBy_cons_of_ne {f' : Field} (h : f.key ≠ f'.key) :
    f.ShownBy ((f'.key, value) :: members) ↔ f.ShownBy members := by
  unfold ShownBy
  rw [lookup_cons_of_ne h]

theorem Field.shownBy_of_not_mem (h : f.key ∉ members.map (·.1)) :
    f.ShownBy members ↔ f.IsDefault := by
  unfold ShownBy
  rw [lookup_eq_none_iff.2 h]
  simp

/-- The members for fields come in the sequence of the fields. -/
theorem Written.sublist (h : Written fields members) :
    (members.map (·.1)).Sublist (fields.map (·.key)) := by
  induction h with
  | nil => exact .slnil
  | write _ _ ih => exact ih.cons_cons _
  | leave _ _ ih => exact ih.cons _

/-- The members for fields show them. -/
theorem Written.shownBy (h : Written fields members) (hnodup : (fields.map (·.key)).Nodup) :
    ∀ f ∈ fields, f.ShownBy members := by
  induction h with
  | nil => simp
  | @write f fields value members hvalue _ ih =>
    refine List.forall_mem_cons.2 ⟨Field.shownBy_cons_self.2 hvalue, fun f' hf' => ?_⟩
    exact (Field.shownBy_cons_of_ne (key_ne_of_nodup hnodup hf')).2
      (ih (List.nodup_cons.1 hnodup).2 f' hf')
  | @leave f fields members hdefault hrest ih =>
    obtain ⟨hnew, hnodup⟩ := List.nodup_cons.1 hnodup
    have hleft : f.key ∉ members.map (·.1) := fun hmem => hnew (hrest.sublist.subset hmem)
    exact List.forall_mem_cons.2 ⟨(Field.shownBy_of_not_mem hleft).2 hdefault, ih hnodup⟩

/-- The members that are found for fields. -/
def found (fields : List Field) (members : List (String × List Char)) :
    List (String × List Char) :=
  fields.filterMap fun f => (members.lookup f.key).map (f.key, ·)

/-- Members that show fields hold the members for them. -/
theorem written_found (h : ∀ f ∈ fields, f.ShownBy members) :
    Written fields (found fields members) := by
  unfold found
  induction fields with
  | nil => exact .nil
  | cons f fields ih =>
    obtain ⟨⟨htext, hdefault⟩, hrest⟩ := List.forall_mem_cons.1 h
    rw [List.filterMap_cons]
    cases hvalue : members.lookup f.key with
    | none => exact .leave (hdefault hvalue) (ih hrest)
    | some value => exact .write (htext value hvalue) (ih hrest)

/-- Members that fit a record are those for its fields and those with other keys. -/
theorem Fits.perm_found (h : Fits (fields.map (·.key)) members)
    (hnodup : (fields.map (·.key)).Nodup) (hshown : ∀ f ∈ fields, f.ShownBy members) :
    members.Perm
      (found fields members ++ members.filter fun m => !decide (m.1 ∈ fields.map (·.key))) := by
  have hsplit := List.filter_append_perm (fun m => decide (m.1 ∈ fields.map (·.key))) members
  refine hsplit.symm.trans (List.Perm.append_right _ ?_)
  -- Both lists hold no member twice, and the same members.
  have hkeys : ((members.filter fun m => decide (m.1 ∈ fields.map (·.key))).map (·.1)).Nodup := by
    rw [List.nodup_iff_count]
    intro key
    by_cases hkey : key ∈ fields.map (·.key)
    · exact ((List.filter_sublist.map _).count_le key).trans (h.once key hkey)
    · refine (List.count_eq_zero.2 fun hmem => ?_).le.trans (Nat.zero_le 1)
      obtain ⟨m, hm, rfl⟩ := List.mem_map.1 hmem
      exact hkey (of_decide_eq_true (List.mem_filter.1 hm).2)
  have hfound := (written_found hshown).sublist.nodup hnodup
  refine (List.perm_ext_iff_of_nodup (.of_map _ hkeys) (.of_map _ hfound)).2 fun m => ?_
  obtain ⟨key, value⟩ := m
  unfold found
  simp only [List.mem_filter, List.mem_filterMap, List.mem_map, decide_eq_true_eq,
    Option.map_eq_some_iff, Prod.mk.injEq]
  constructor
  · rintro ⟨hmem, f, hf, rfl⟩
    have hlookup := (lookup_eq_some_iff (h.once _ (List.mem_map_of_mem hf))).2 hmem
    exact ⟨f, hf, value, hlookup, rfl, rfl⟩
  · rintro ⟨f, hf, _, hlookup, rfl, rfl⟩
    exact ⟨(lookup_eq_some_iff (h.once _ (List.mem_map_of_mem hf))).1 hlookup, f, hf, rfl⟩

/-- Members for the fields of a record fit it in any sequence, and with any unknown ones. -/
theorem Written.fits (h : Written fields known) (hnodup : (fields.map (·.key)).Nodup)
    (hunknown : ∀ m ∈ unknown, m.1 ∉ fields.map (·.key) ∧ AnyText m.2)
    (hperm : members.Perm (known ++ unknown)) : Fits (fields.map (·.key)) members where
  once key hkey := by
    have hnone : (unknown.map (·.1)).count key = 0 := by
      refine List.count_eq_zero.2 fun hmem => ?_
      obtain ⟨m, hm, rfl⟩ := List.mem_map.1 hmem
      exact (hunknown m hm).1 hkey
    rw [(hperm.map _).count_eq key, List.map_append, List.count_append, hnone, Nat.add_zero]
    exact List.nodup_iff_count.1 (h.sublist.nodup hnodup) key
  other m hm hkey := by
    rcases List.mem_append.1 (hperm.subset hm) with hm | hm
    · exact absurd (h.sublist.subset (List.mem_map_of_mem hm)) hkey
    · exact (hunknown m hm).2

/-! ### Values of a list -/

/-- The values of fields show them. -/
theorem listed_iff (hnodup : (fields.map (·.key)).Nodup) :
    Listed fields values ↔ values.length ≤ fields.length ∧
      ∀ f ∈ fields, f.ShownBy ((fields.map (·.key)).zip values) := by
  induction fields generalizing values with
  | nil =>
    constructor
    · rintro ⟨⟩
      simp
    · rintro ⟨hlength, -⟩
      rw [List.length_eq_zero_iff.1 (Nat.le_zero.1 hlength)]
      exact .stop (by simp)
  | cons f fields ih =>
    cases values with
    | nil =>
      have hstop : Listed (f :: fields) [] ↔ ∀ f' ∈ f :: fields, f'.IsDefault :=
        ⟨fun | .stop h => h, .stop⟩
      rw [List.zip_nil_right, hstop]
      simp [Field.shownBy_of_not_mem]
    | cons value values =>
      have hwrite : Listed (f :: fields) (value :: values) ↔ f.Text value ∧ Listed fields values :=
        ⟨fun | .write hvalue hvalues => ⟨hvalue, hvalues⟩, fun h => .write h.1 h.2⟩
      have hothers : (∀ f' ∈ fields, f'.ShownBy ((f.key, value) ::
          (fields.map (·.key)).zip values)) ↔
          ∀ f' ∈ fields, f'.ShownBy ((fields.map (·.key)).zip values) :=
        forall₂_congr fun f' hf' => Field.shownBy_cons_of_ne (key_ne_of_nodup hnodup hf')
      rw [hwrite, ih (List.nodup_cons.1 hnodup).2, List.map_cons, List.zip_cons_cons,
        List.forall_mem_cons, Field.shownBy_cons_self, hothers, List.length_cons, List.length_cons,
        Nat.add_le_add_iff_right]
      exact and_left_comm

/-! ### Records -/

/-- **Spellings.** A record is spelled exactly by the ways to write one whose members show its
    fields. -/
theorem spelled_iff (hnodup : (fields.map (·.key)).Nodup) :
    Spelled fields text ↔
      ∃ members, RecordText (fields.map (·.key)) text members ∧
        ∀ f ∈ fields, f.ShownBy members := by
  constructor
  · intro h
    cases h with
    | @object members known unknown hknown hunknown hperm hobject =>
      have hfits := hknown.fits hnodup hunknown hperm
      refine ⟨members, .object hobject hfits, fun f hf => ?_⟩
      have hkey : f.key ∈ fields.map (·.key) := List.mem_map_of_mem hf
      have hother : unknown.lookup f.key = none := by
        refine lookup_eq_none_iff.2 fun hmem => ?_
        obtain ⟨m, hm, heq⟩ := List.mem_map.1 hmem
        exact (hunknown m hm).1 (heq ▸ hkey)
      have hlookup : members.lookup f.key = known.lookup f.key := by
        rw [lookup_eq_of_perm hperm (hfits.once _ hkey), List.lookup_append, hother, Option.or_none]
      unfold Field.ShownBy
      rw [hlookup]
      exact hknown.shownBy hnodup f hf
    | list hlisted hlist =>
      obtain ⟨hlength, hshown⟩ := (listed_iff hnodup).1 hlisted
      exact ⟨_, .list hlist (by rwa [List.length_map]), hshown⟩
  · rintro ⟨members, hrecord, hshown⟩
    cases hrecord with
    | object hobject hfits =>
      refine .object (written_found hshown) (fun m hm => ?_) (hfits.perm_found hnodup hshown)
        hobject
      obtain ⟨hmem, hkey⟩ := List.mem_filter.1 hm
      have hother : m.1 ∉ fields.map (·.key) := by simpa using hkey
      exact ⟨hother, hfits.other m hmem hother⟩
    | list hlist hlength =>
      rw [List.length_map] at hlength
      exact .list ((listed_iff hnodup).2 ⟨hlength, hshown⟩) hlist

end OrderedLexer.Json
