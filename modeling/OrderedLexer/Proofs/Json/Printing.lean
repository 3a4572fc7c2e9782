import OrderedLexer.Proofs.Json.Values

namespace OrderedLexer.Json

open Reader

/-!
# Printed lists and objects

The layouts put nothing but blanks between the parts of a value. So a printed list is one of the
ways to write it, and so is a printed object.

* `Layout.Blank` — what stands between the parts is blanks, `blank_compact`, `blank_indented`;
* `listText_printAt`, `objectText_printAt` — printed lists and objects.
-/

variable {α : Type} {layout : Layout}

/-- Nothing but blanks stands between the parts of a value, apart from the colon behind a key. -/
structure Layout.Blank (layout : Layout) : Prop where
  lineBreak : ∀ depth, Blanks (layout.lineBreak depth)
  colon : ∃ ws, Blanks ws ∧ layout.colon = ':' :: ws

theorem blank_compact : Layout.compact.Blank where
  lineBreak _ := blanks_nil
  colon := ⟨[], blanks_nil, rfl⟩

theorem blank_indented : Layout.indented.Blank where
  lineBreak depth := by
    intro c hc
    rcases List.mem_cons.1 hc with rfl | hc
    · rfl
    · rw [List.eq_of_mem_replicate hc]
      rfl
  colon := by
    refine ⟨[' '], ?_, rfl⟩
    intro c hc
    rw [List.mem_singleton.1 hc]
    rfl

/-! ### Lists -/

/-- The elements after the first stand behind a comma each. -/
theorem separated_printElements (h : layout.Blank) (f : α → Value) (depth : Nat) (as : List α) :
    Separated (fun text a => text = (f a).printAt layout depth) false
      (Value.printElements layout depth (as.map f)) as := by
  induction as with
  | nil =>
    rw [List.map_nil, Value.printElements]
    exact .nil false
  | cons a as ih =>
    rw [List.map_cons, Value.printElements]
    exact .cons (.next blanks_nil (h.lineBreak depth)) rfl ih

/-- **Lists.** A printed list is one of the ways to write it. -/
theorem listText_printAt (h : layout.Blank) (f : α → Value) (depth : Nat) (as : List α) :
    ListText (fun text a => text = (f a).printAt layout (depth + 1))
      ((Value.list (as.map f)).printAt layout depth) as := by
  cases as with
  | nil =>
    rw [List.map_nil, Value.printAt]
    exact ⟨[], [], .nil true, blanks_nil, rfl⟩
  | cons a as =>
    rw [List.map_cons, Value.printAt]
    refine ⟨_, layout.lineBreak depth, .cons (.first (h.lineBreak (depth + 1))) rfl
      (separated_printElements h f (depth + 1) as), h.lineBreak depth, ?_⟩
    simp only [List.cons_append]

/-! ### Objects -/

/-- The keys of an object with the texts of their values, as they are printed. -/
def printedMembers (layout : Layout) (depth : Nat) (fs : List (String × Value)) :
    List (String × List Char) :=
  fs.map fun f => (f.1, f.2.printAt layout depth)

@[simp] theorem printedMembers_nil (layout : Layout) (depth : Nat) :
    printedMembers layout depth [] = [] := rfl

@[simp] theorem printedMembers_cons (layout : Layout) (depth : Nat) (f : String × Value)
    (fs : List (String × Value)) :
    printedMembers layout depth (f :: fs) =
      (f.1, f.2.printAt layout depth) :: printedMembers layout depth fs := rfl

/-- A printed member is one of the ways to write it. -/
theorem memberText_print (h : layout.Blank) (key : String) (text : List Char) :
    MemberText (printString key ++ layout.colon ++ text) (key, text) := by
  obtain ⟨ws, hws, hcolon⟩ := h.colon
  rw [hcolon]
  have hmember : MemberText (printString key ++ [] ++ ':' :: ws ++ text) (key, text) :=
    .mk (stringText_printString key) blanks_nil hws
  rwa [List.append_nil] at hmember

/-- The members after the first stand behind a comma each. -/
theorem separated_printFields (h : layout.Blank) (depth : Nat) (fs : List (String × Value)) :
    Separated MemberText false (Value.printFields layout depth fs)
      (printedMembers layout depth fs) := by
  induction fs with
  | nil =>
    rw [Value.printFields]
    exact .nil false
  | cons f fs ih =>
    obtain ⟨key, v⟩ := f
    rw [Value.printFields]
    have hcons := Separated.cons (.next blanks_nil (h.lineBreak depth))
      (memberText_print h key (v.printAt layout depth)) ih
    simpa only [List.nil_append, List.append_assoc, printedMembers_cons] using hcons

/-- **Objects.** A printed object is one of the ways to write it. -/
theorem objectText_printAt (h : layout.Blank) (depth : Nat) (fs : List (String × Value)) :
    ObjectText ((Value.object fs).printAt layout depth) (printedMembers layout (depth + 1) fs) := by
  cases fs with
  | nil =>
    rw [Value.printAt]
    exact ⟨[], [], .nil true, blanks_nil, rfl⟩
  | cons f fs =>
    obtain ⟨key, v⟩ := f
    rw [Value.printAt]
    refine ⟨_, layout.lineBreak depth, .cons (.first (h.lineBreak (depth + 1)))
      (memberText_print h key (v.printAt layout (depth + 1)))
      (separated_printFields h (depth + 1) fs), h.lineBreak depth, ?_⟩
    simp only [List.cons_append, List.append_assoc]

end OrderedLexer.Json
