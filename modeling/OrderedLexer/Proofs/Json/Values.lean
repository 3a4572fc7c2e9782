import OrderedLexer.Proofs.Json.Numbers
import OrderedLexer.Proofs.Json.Strings
import Mathlib.Data.List.TakeWhile

namespace OrderedLexer.Json

open Reader

/-!
# Values, lists and objects in JSON

A text spells a value for a reader if the reader finds the value there, behind any blanks and before
any delimiter. Lists and objects are spelled by their parts, with blanks around each.

* `Spells.string`, `spells_boolean`, `spells_orderKey`, `Spells.optional` — single values;
* `Separated` — parts with commas between them, `ListText`, `ObjectText` — the brackets around them;
* `ListText.spells` — a list is spelled if its elements are;
* `ObjectText.spells` — a record is spelled by an object if its fields are collected from the
  members.
-/

variable {α σ : Type} {x : Reader α} {text rest ws ws' : List Char} {a : α}

/-- A text from which a reader gets a value, behind any blanks and before any delimiter. -/
structure Spells (x : Reader α) (text : List Char) (a : α) : Prop where
  head : ∃ c cs, text = c :: cs ∧ isBlank c = false ∧ c ≠ ']'
  reads : ∀ ws rest, Blanks ws → Delimited rest → Reads x (ws ++ text ++ rest) a rest

/-- What is done with a value changes nothing in how it is spelled. -/
theorem Spells.bind {β : Type} {f : α → Reader β} {b : β} (h : Spells x text a)
    (hf : ∀ rest, Reads (f a) rest b rest) : Spells (x >>= f) text b :=
  ⟨h.head, fun ws rest hws hrest => (h.reads ws rest hws hrest).bind (hf rest)⟩

/-- A text that spells a value is read if nothing but blanks stands around it. -/
theorem Spells.whole (h : Spells x text a) (hws : Blanks ws) (hws' : Blanks ws') :
    whole x (ws ++ text ++ ws') = .ok a := by
  have hend : Delimited ws' := by
    have hnil : Delimited [] := fun c hc => nomatch hc
    have := hws'.delimited hnil
    rwa [List.append_nil] at this
  have hread : x.run (ws ++ text ++ ws') = .ok (a, ws') := h.reads ws ws' hws hend
  have hdrop : ws'.dropWhile isBlank = [] := List.dropWhile_eq_nil_iff.2 hws'
  rw [Reader.whole, hread]
  show (if (ws'.dropWhile isBlank).isEmpty then _ else _) = _
  rw [hdrop]
  rfl

/-! ### Single values -/

/-- A string is read whatever follows it. -/
theorem reads_string {s : String} (h : StringText text s) (expected : String) (hws : Blanks ws)
    (rest : List Char) : Reads (Reader.string expected) (ws ++ text ++ rest) s rest := by
  obtain ⟨body, rfl⟩ := h.exists_eq_cons
  unfold Reader.string
  rw [List.append_assoc, List.cons_append]
  refine (reads_upcoming _ hws (by decide)).bind ?_
  rw [if_pos rfl]
  refine (reads_advance '"' _).bind ?_
  exact reads_restOfString h rest

/-- A string is spelled in each of the ways to write it. -/
theorem Spells.string {s : String} (h : StringText text s) (expected : String) :
    Spells (string expected) text s := by
  obtain ⟨body, hbody⟩ := h.exists_eq_cons
  exact ⟨⟨'"', body, hbody, by decide, by decide⟩, fun ws rest hws _ =>
    reads_string h expected hws rest⟩

theorem spells_boolean (b : Bool) : Spells boolean (toString b).toList b := by
  cases b with
  | true =>
    refine ⟨⟨'t', _, rfl, by decide, by decide⟩, fun ws rest hws _ => ?_⟩
    unfold boolean
    rw [List.append_assoc]
    refine (reads_upcoming _ hws (by decide)).bind ?_
    refine (reads_word "true".toList rest).bind ?_
    exact reads_pure true rest
  | false =>
    refine ⟨⟨'f', _, rfl, by decide, by decide⟩, fun ws rest hws _ => ?_⟩
    unfold boolean
    rw [List.append_assoc]
    refine (reads_upcoming _ hws (by decide)).bind ?_
    refine (reads_word "false".toList rest).bind ?_
    exact reads_pure false rest

theorem spells_orderKey (k : OrderKey) : Spells orderKey (toString k.val).toList k := by
  obtain ⟨c, cs, hcs, hc⟩ := exists_toString_eq_cons k.val
  have hrange := k.inRange
  have hfirst : c = '-' ∨ c.isDigit = true := hc.imp (·.2) (·.2)
  obtain ⟨hblank, hclose, -⟩ := first_of_integer hfirst
  refine ⟨⟨c, cs, hcs, hblank, hclose⟩, fun ws rest hws hrest => ?_⟩
  unfold orderKey
  rw [hcs, List.append_assoc, List.cons_append]
  refine (reads_upcoming _ hws hblank).bind ?_
  rw [if_pos (by simpa using hfirst), ← List.cons_append, ← hcs]
  refine (reads_signedNumber (by omega) (by omega) hrest).bind ?_
  have hkey : OrderKey.ofInt? k.val = some k := by
    rw [OrderKey.ofInt?, dif_pos hrange]
  simp only [hkey]
  exact reads_pure k rest

/-- A value that does not start as `null` does is spelled where it may be absent. -/
theorem Spells.optional (h : Spells x text a) (hn : text.head? ≠ some 'n') :
    Spells (optional x) text (some a) := by
  refine ⟨h.head, fun ws rest hws hrest => ?_⟩
  obtain ⟨c, cs, rfl, hblank, -⟩ := h.head
  unfold Reader.optional
  rw [List.append_assoc, List.cons_append]
  refine (reads_blanks hws hblank).bind ?_
  refine (reads_peek _).bind ?_
  rw [List.head?_cons] at hn ⊢
  rw [if_neg hn]
  refine (h.reads [] rest blanks_nil hrest).bind ?_
  exact reads_pure (some a) rest

/-! ### Parts with commas between them -/

/-- What stands before a part: blanks, and a comma among them unless the part is the first. -/
inductive Lead : Bool → List Char → Prop
  | first {ws : List Char} : Blanks ws → Lead true ws
  | next {ws ws' : List Char} : Blanks ws → Blanks ws' → Lead false (ws ++ ',' :: ws')

/-- Parts with commas between them; the flag tells whether the first part comes first of all. -/
inductive Separated (P : List Char → α → Prop) : Bool → List Char → List α → Prop
  | nil (first : Bool) : Separated P first [] []
  | cons {first : Bool} {lead text texts : List Char} {a : α} {as : List α} :
      Lead first lead → P text a → Separated P false texts as →
      Separated P first (lead ++ text ++ texts) (a :: as)

/-- Parts between two brackets. -/
def Enclosed (opening closing : Char) (P : List Char → α → Prop) (text : List Char) (as : List α) :
    Prop :=
  ∃ body ws, Separated P true body as ∧ Blanks ws ∧ text = opening :: body ++ ws ++ [closing]

/-- The ways to write a list, given the ways to write its elements. -/
def ListText (P : List Char → α → Prop) : List Char → List α → Prop := Enclosed '[' ']' P

variable {P : List Char → α → Prop} {as : List α} {first : Bool} {lead texts : List Char} {c : Char}

/-- A part is delimited by the next one. -/
theorem Separated.delimited (h : Separated P false texts as) (hrest : Delimited rest) :
    Delimited (texts ++ rest) := by
  cases h with
  | nil => exact hrest
  | cons hlead _ _ =>
    cases hlead with
    | next hws _ =>
      simp only [List.append_assoc, List.cons_append]
      exact hws.delimited (delimited_cons (.inr (.inl rfl)))

/-- Parts that are written in one way are written in another if each part is. -/
theorem Separated.imp {Q : List Char → α → Prop} (h : Separated P first texts as)
    (hPQ : ∀ text a, P text a → Q text a) : Separated Q first texts as := by
  induction h with
  | nil first => exact .nil first
  | cons hlead ha _ ih => exact .cons hlead (hPQ _ _ ha) ih

theorem ListText.imp {Q : List Char → α → Prop} (h : ListText P text as)
    (hPQ : ∀ text a, P text a → Q text a) : ListText Q text as := by
  obtain ⟨body, ws, hbody, hws, rfl⟩ := h
  exact ⟨body, ws, hbody.imp hPQ, hws, rfl⟩

/-- There are at most as many parts as characters. -/
theorem Separated.length_le (h : Separated P first texts as)
    (hP : ∀ text a, P text a → text ≠ []) : as.length ≤ texts.length := by
  induction h with
  | nil => exact Nat.le_refl _
  | @cons first lead text texts a as _ ha _ ih =>
    have := List.length_pos_iff.2 (hP text a ha)
    simp only [List.length_cons, List.length_append]
    omega

theorem Spells.ne_nil (h : Spells x text a) : text ≠ [] := by
  obtain ⟨c, cs, rfl, -⟩ := h.head
  exact List.cons_ne_nil c cs

/-! ### Lists -/

/-- Another element follows if one stands behind what leads to it. -/
theorem reads_moreElements (h : Lead first lead) (hblank : isBlank c = false) (hclose : c ≠ ']') :
    Reads (moreElements first) (lead ++ c :: rest) true (c :: rest) := by
  unfold moreElements
  cases h with
  | first hws =>
    refine (reads_upcoming _ hws hblank).bind ?_
    rw [if_neg hclose, if_pos rfl]
    exact reads_pure true _
  | @next ws ws' hws hws' =>
    rw [List.append_assoc, List.cons_append]
    refine (reads_upcoming _ hws (by decide)).bind ?_
    rw [if_neg (by decide), if_neg (by decide), if_pos rfl]
    refine (reads_advance ',' _).bind ?_
    refine (reads_upcoming _ hws' hblank).bind ?_
    rw [if_neg hclose]
    exact reads_pure true _

/-- No further element follows before the closing bracket. -/
theorem reads_moreElements_end (first : Bool) (hws : Blanks ws) (rest : List Char) :
    Reads (moreElements first) (ws ++ ']' :: rest) false (']' :: rest) := by
  unfold moreElements
  refine (reads_upcoming _ hws (by decide)).bind ?_
  rw [if_pos rfl]
  exact reads_pure false _

/-- The bracket that closes a list is read. -/
theorem reads_closeList (hws : Blanks ws) (rest : List Char) :
    Reads closeList (ws ++ ']' :: rest) () rest := by
  unfold closeList
  refine (reads_upcoming _ hws (by decide)).bind ?_
  rw [if_pos rfl]
  exact reads_advance ']' rest

/-- The elements of a list are read one after the other. -/
theorem Separated.reads_elements (h : Separated P first text as)
    (hP : ∀ text a, P text a → Spells x text a) {fuel : Nat} (hfuel : as.length < fuel)
    (hws : Blanks ws) (rest : List Char) :
    Reads (elements x fuel first) (text ++ ws ++ ']' :: rest) as (']' :: rest) := by
  -- Induction along the elements; each takes one unit of fuel, and so does the end.
  induction h generalizing fuel with
  | nil first =>
    cases fuel with
    | zero => omega
    | succ fuel =>
      unfold elements
      refine (reads_moreElements_end first hws rest).bind ?_
      exact reads_pure [] _
  | @cons first lead text texts a as hlead ha htail ih =>
    rw [List.length_cons] at hfuel
    cases fuel with
    | zero => omega
    | succ fuel =>
      -- The comma before the next element, or the bracket, delimits this one.
      have helement := hP text a ha
      obtain ⟨c, cs, rfl, hblank, hclose⟩ := helement.head
      have hend : Delimited (ws ++ ']' :: rest) :=
        hws.delimited (delimited_cons (.inr (.inr (.inl rfl))))
      have htexts := ih (show as.length < fuel by omega)
      unfold elements
      simp only [List.append_assoc, List.cons_append] at htexts ⊢
      refine (reads_moreElements hlead hblank hclose).bind ?_
      refine (helement.reads [] _ blanks_nil (htail.delimited hend)).bind ?_
      refine htexts.bind ?_
      exact reads_pure (a :: as) _

/-- **Lists.** A list is spelled if its elements are. -/
theorem ListText.spells (h : ListText P text as) (hP : ∀ text a, P text a → Spells x text a) :
    Spells (list x) text as := by
  obtain ⟨body, ws', hbody, hws', rfl⟩ := h
  refine ⟨⟨'[', _, rfl, by decide, by decide⟩, fun ws rest hws _ => ?_⟩
  unfold list
  simp only [List.append_assoc, List.cons_append, List.nil_append]
  refine (reads_upcoming _ hws (by decide)).bind ?_
  rw [if_pos rfl]
  refine (reads_advance '[' _).bind ?_
  refine (reads_remaining _).bind ?_
  have hlength := hbody.length_le fun text a ha => (hP text a ha).ne_nil
  have hfuel : as.length < (body ++ (ws' ++ ']' :: rest)).length + 1 := by
    rw [List.length_append]
    omega
  have hread := hbody.reads_elements hP hfuel hws' rest
  rw [List.append_assoc] at hread
  refine hread.bind ?_
  refine (reads_closeList blanks_nil rest).bind ?_
  exact reads_pure as rest

/-! ### Objects -/

/-- The ways to write a member of an object, given the text of its value. -/
inductive MemberText : List Char → String × List Char → Prop
  | mk {keyText ws ws' value : List Char} {key : String} : StringText keyText key → Blanks ws →
      Blanks ws' → MemberText (keyText ++ ws ++ ':' :: ws' ++ value) (key, value)

/-- The ways to write an object, given its keys and the texts of their values. -/
def ObjectText : List Char → List (String × List Char) → Prop := Enclosed '\x7b' '\x7d' MemberText

/-- A reader of fields goes from one state to the next by the value under a key. -/
def TakesField (field : String → σ → Reader σ) (key : String) (value : List Char) (s s' : σ) :
    Prop :=
  ∀ ws ws' rest, Blanks ws → Blanks ws' → Delimited rest →
    Reads (field key s) (ws ++ ':' :: ws' ++ value ++ rest) s' rest

/-- A reader of fields goes from one state to another by the members of an object. -/
inductive Collects (field : String → σ → Reader σ) : List (String × List Char) → σ → σ → Prop
  | nil (s : σ) : Collects field [] s s
  | cons {key : String} {value : List Char} {members : List (String × List Char)} {s s' s'' : σ} :
      TakesField field key value s s' → Collects field members s' s'' →
      Collects field ((key, value) :: members) s s''

variable {field : String → σ → Reader σ} {members : List (String × List Char)} {s s' : σ}

/-- A field that occurs for the first time is read behind its colon. -/
theorem Spells.once (h : Spells x text a) (key : String) (hws : Blanks ws) (hws' : Blanks ws')
    (hrest : Delimited rest) :
    Reads (once key none x) (ws ++ ':' :: ws' ++ text ++ rest) (some a) rest := by
  unfold Reader.once
  rw [if_neg (by simp)]
  simp only [List.append_assoc, List.cons_append]
  refine (reads_colon hws _).bind ?_
  have hread := h.reads ws' rest hws' hrest
  rw [List.append_assoc] at hread
  refine hread.bind ?_
  exact reads_pure (some a) rest

/-- A field is taken over from the text of its value, if it is read as one that occurs once. -/
theorem Spells.takesField (h : Spells x text a) {key : String} {update : Option α → σ}
    (hfield : field key s = Reader.once key none x >>= fun value => pure (update value)) :
    TakesField field key text s (update (some a)) := by
  intro ws ws' rest hws hws' hrest
  rw [hfield]
  refine (h.once key hws hws' hrest).bind ?_
  exact reads_pure (update (some a)) rest

/-- The key of the next member is read. -/
theorem reads_nextKey? {keyText : List Char} {key : String} (h : Lead first lead)
    (hkey : StringText keyText key) (rest : List Char) :
    Reads (nextKey? first) (lead ++ keyText ++ rest) (some key) rest := by
  obtain ⟨body, rfl⟩ := hkey.exists_eq_cons
  have hend :
      Reads (do advance; return some (← restOfString)) ('"' :: body ++ rest) (some key) rest := by
    refine (reads_advance '"' _).bind ?_
    refine (reads_restOfString hkey rest).bind ?_
    exact reads_pure (some key) rest
  unfold nextKey?
  cases h with
  | first hws =>
    rw [List.append_assoc, List.cons_append]
    refine (reads_upcoming _ hws (by decide)).bind ?_
    rw [if_neg (by decide), if_pos rfl]
    refine (reads_pure '"' _).bind ?_
    exact hend
  | @next ws ws' hws hws' =>
    simp only [List.append_assoc, List.cons_append]
    refine (reads_upcoming _ hws (by decide)).bind ?_
    rw [if_neg (by decide), if_neg (by decide), if_pos rfl]
    refine (reads_advance ',' _).bind ?_
    refine (reads_upcoming _ hws' (by decide)).bind ?_
    rw [if_neg (by decide)]
    refine (reads_pure '"' _).bind ?_
    exact hend

/-- The members of an object are collected one after the other. -/
theorem Separated.reads_fields (h : Separated MemberText first text members)
    (hfields : Collects field members s s') {fuel : Nat} (hfuel : members.length < fuel)
    (hws : Blanks ws) (rest : List Char) :
    Reads (fields field fuel first s) (text ++ ws ++ '\x7d' :: rest) s' ('\x7d' :: rest) := by
  -- Induction along the members; each takes one unit of fuel, and so does the end.
  induction h generalizing fuel s with
  | nil first =>
    cases hfields
    cases fuel with
    | zero => omega
    | succ fuel =>
      have hend : Reads (nextKey? first) (ws ++ '\x7d' :: rest) none ('\x7d' :: rest) := by
        unfold nextKey?
        refine (reads_upcoming _ hws (by decide)).bind ?_
        rw [if_pos rfl]
        exact reads_pure none _
      unfold fields
      refine hend.bind ?_
      exact reads_pure _ _
  | @cons first lead text texts member members hlead hmember htail ih =>
    rw [List.length_cons] at hfuel
    cases fuel with
    | zero => omega
    | succ fuel =>
      cases hmember with
      | @mk keyText ws₁ ws₂ value key hkey hws₁ hws₂ =>
        cases hfields with
        | cons hfield hfields =>
          have hend : Delimited (ws ++ '\x7d' :: rest) :=
            hws.delimited (delimited_cons (.inr (.inr (.inr rfl))))
          have htexts := ih hfields (show members.length < fuel by omega)
          have hread := reads_nextKey? hlead hkey
            (ws₁ ++ ':' :: ws₂ ++ value ++ (texts ++ (ws ++ '\x7d' :: rest)))
          have hvalue := hfield ws₁ ws₂ _ hws₁ hws₂ (htail.delimited hend)
          unfold fields
          simp only [List.append_assoc, List.cons_append] at htexts hread hvalue ⊢
          refine hread.bind ?_
          refine hvalue.bind ?_
          exact htexts

/-- **Records.** A record is spelled by an object if its fields are collected from the members. -/
theorem ObjectText.spells (h : ObjectText text members) {empty : σ} {ofFields : σ → Reader α}
    (hfields : Collects field members empty s) (hof : ∀ rest, Reads (ofFields s) rest a rest)
    (expected : String) (ofList : Reader α) :
    Spells (record expected empty field ofFields ofList) text a := by
  obtain ⟨body, ws', hbody, hws', rfl⟩ := h
  refine ⟨⟨'\x7b', _, rfl, by decide, by decide⟩, fun ws rest hws _ => ?_⟩
  unfold record
  simp only [List.append_assoc, List.cons_append, List.nil_append]
  refine (reads_upcoming _ hws (by decide)).bind ?_
  rw [if_neg (by decide), if_pos rfl]
  refine (reads_advance '\x7b' _).bind ?_
  refine (reads_remaining _).bind ?_
  have hlength := hbody.length_le fun text member hmember => by
    cases hmember with
    | mk hkey _ _ =>
      obtain ⟨body, rfl⟩ := hkey.exists_eq_cons
      exact List.cons_ne_nil _ _
  have hfuel : members.length < (body ++ (ws' ++ '\x7d' :: rest)).length + 1 := by
    rw [List.length_append]
    omega
  have hread := hbody.reads_fields hfields hfuel hws' rest
  rw [List.append_assoc] at hread
  refine hread.bind ?_
  refine (hof _).bind ?_
  refine (reads_upcoming _ blanks_nil (by decide)).bind ?_
  rw [if_pos rfl]
  refine (reads_advance '\x7d' _).bind ?_
  exact reads_pure a rest

end OrderedLexer.Json
