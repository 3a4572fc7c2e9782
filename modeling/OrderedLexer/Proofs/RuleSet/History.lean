import OrderedLexer.Proofs.RuleSet.Insertion

namespace OrderedLexer.RuleSet

/-!
# What becomes of a rule set under changes

A `Change` is one call that changes a rule set. From a run of changes the log of the accepted
insertions is read, and the keys that were opened by advancing; these alone determine the orders.

* `insert?_eq_error_iff` — when an insertion is refused;
* `Change.apply_cases` — a change inserts its entries, or it advances;
* `Records` — the orders of a rule set, told by a log and the opened keys;
* `Records.apply` — a change keeps this up, if its entries are added to the log;
* `Records.run` — so a run does;
* `run_history` — the rule set after any run.
-/

variable {set : RuleSet} {key : OrderKey} {r : Rule}

/-! ### Changes and their log -/

/-- A change of a rule set. -/
inductive Change where
  | insert (key : OrderKey) (r : Rule)
  | insertHere (r : Rule)
  | extendHere (rules : List Rule)
  | advance
deriving DecidableEq

namespace Change

/-- The rule set after a change. A refused insertion changes nothing. -/
def apply (set : RuleSet) : Change → RuleSet
  | .insert key r =>
    match set.insert? key r with
    | .ok changed => changed
    | .error _ => set
  | .insertHere r => set.insertHere r
  | .extendHere rules => set.extendHere rules
  | .advance => set.advance

/-- The insertions that are accepted, each with the key of its order. -/
def entries (set : RuleSet) : Change → List (OrderKey × Rule)
  | .insert key r =>
    match set.insert? key r with
    | .ok _ => [(key, r)]
    | .error _ => []
  | .insertHere r => [(set.cursor, r)]
  | .extendHere rules => rules.map (set.cursor, ·)
  | .advance => []

/-- The key that the cursor is moved to. -/
def opened (set : RuleSet) : Change → List OrderKey
  | .advance => [set.advance.cursor]
  | _ => []

end Change

/-- The rule set after a run of changes. -/
def run (set : RuleSet) (changes : List Change) : RuleSet := changes.foldl Change.apply set

/-- The insertions that are accepted in a run, in the order of the calls. -/
def log (set : RuleSet) : List Change → List (OrderKey × Rule)
  | [] => []
  | c :: rest => c.entries set ++ (c.apply set).log rest

/-- The keys that the cursor is moved to in a run. -/
def opened (set : RuleSet) : List Change → List OrderKey
  | [] => []
  | c :: rest => c.opened set ++ (c.apply set).opened rest

/-- The rules that are logged under a key. -/
def logged (key : OrderKey) (entries : List (OrderKey × Rule)) : List Rule :=
  (entries.filter (·.1 = key)).map (·.2)

@[simp] theorem logged_nil (key : OrderKey) : logged key [] = [] := rfl

@[simp] theorem logged_append (key : OrderKey) (es es' : List (OrderKey × Rule)) :
    logged key (es ++ es') = logged key es ++ logged key es' := by
  simp [logged]

@[simp] theorem logged_self (key : OrderKey) (r : Rule) : logged key [(key, r)] = [r] := by
  simp [logged]

/-- A key is logged exactly if rules are logged under it. -/
theorem logged_ne_nil_iff {entries : List (OrderKey × Rule)} :
    logged key entries ≠ [] ↔ key ∈ entries.map (·.1) := by
  unfold logged
  rw [Ne, List.map_eq_nil_iff, List.filter_eq_nil_iff]
  simp

theorem logged_of_ne {other : OrderKey} (h : other ≠ key) (r : Rule) :
    logged other [(key, r)] = [] := by
  simp [logged, Ne.symm h]

/-! ### Refusal -/

/-- **Refusal.** An insertion is refused exactly below the floor, and the refusal tells both. -/
theorem insert?_eq_error_iff {e : InvalidOrder} :
    set.insert? key r = .error e ↔
      ∃ floor, set.floor = some floor ∧ key < floor ∧ e = ⟨key, floor⟩ := by
  unfold insert? refusal?
  cases hfloor : set.floor with
  | none => simp
  | some floor =>
    by_cases hlt : key < floor
    · simp [hlt, eq_comm]
    · simp [hlt]

/-- The floor refuses a key. -/
def Below (set : RuleSet) (key : OrderKey) : Prop := ∃ floor, set.floor = some floor ∧ key < floor

/-- An insertion succeeds exactly if the floor does not refuse its order. -/
theorem insert?_eq_ok_iff {r : Rule} :
    set.insert? key r = .ok changed ↔ ¬ set.Below key ∧ changed = set.insertAt key r := by
  unfold insert? refusal? Below
  cases hfloor : set.floor with
  | none => simp [eq_comm]
  | some floor =>
    by_cases hlt : key < floor
    · simp [hlt]
    · simp [hlt, eq_comm]

/-- What is accepted is inserted whatever the floor. -/
theorem eq_insertAt_of_insert? {changed : RuleSet} (h : set.insert? key r = .ok changed) :
    changed = set.insertAt key r := by
  unfold insert? at h
  split at h
  · contradiction
  · exact (Except.ok.inj h).symm

@[simp] theorem insertAt_floor : (set.insertAt key r).floor = set.floor := rfl
@[simp] theorem insertAt_cursor : (set.insertAt key r).cursor = set.cursor := rfl
@[simp] theorem advance_floor : set.advance.floor = set.floor := rfl

/-! ### Lists of insertions -/

/-- Insert rules, each into its order, whatever the floor. -/
def insertAll (set : RuleSet) (entries : List (OrderKey × Rule)) : RuleSet :=
  entries.foldl (fun set e => set.insertAt e.1 e.2) set

@[simp] theorem insertAll_nil (set : RuleSet) : set.insertAll [] = set := rfl

@[simp] theorem insertAll_cons (set : RuleSet) (e : OrderKey × Rule)
    (entries : List (OrderKey × Rule)) :
    set.insertAll (e :: entries) = (set.insertAt e.1 e.2).insertAll entries := rfl

theorem insertAll_append (set : RuleSet) (es es' : List (OrderKey × Rule)) :
    set.insertAll (es ++ es') = (set.insertAll es).insertAll es' := by
  simp [insertAll]

theorem insertAll_cursor (set : RuleSet) (entries : List (OrderKey × Rule)) :
    (set.insertAll entries).cursor = set.cursor := by
  induction entries generalizing set with
  | nil => rfl
  | cons e entries ih => exact ih (set.insertAt e.1 e.2)

theorem insertAll_floor (set : RuleSet) (entries : List (OrderKey × Rule)) :
    (set.insertAll entries).floor = set.floor := by
  induction entries generalizing set with
  | nil => rfl
  | cons e entries ih => exact ih (set.insertAt e.1 e.2)

/-- Rules inserted at the cursor are inserted into its order, one after the other. -/
theorem extendHere_eq_insertAll (set : RuleSet) (rules : List Rule) :
    set.extendHere rules = set.insertAll (rules.map (set.cursor, ·)) := by
  unfold extendHere
  induction rules generalizing set with
  | nil => rfl
  | cons r rest ih => exact ih (set.insertAt set.cursor r)

/-- **Changes.** A change inserts its entries, or it advances and has none. -/
theorem Change.apply_cases (set : RuleSet) (c : Change) :
    (c.apply set = set.insertAll (c.entries set) ∧ c.opened set = []) ∨
    (c.apply set = set.advance ∧ c.entries set = [] ∧ c.opened set = [set.advance.cursor]) := by
  cases c with
  | insert key r =>
    refine .inl ⟨?_, rfl⟩
    simp only [apply, entries]
    cases hins : set.insert? key r with
    | error e => rfl
    | ok changed => exact eq_insertAt_of_insert? hins
  | insertHere r => exact .inl ⟨rfl, rfl⟩
  | extendHere rules => exact .inl ⟨extendHere_eq_insertAll set rules, rfl⟩
  | advance => exact .inr ⟨rfl, rfl, rfl⟩

/-! ### Orders and logs -/

/-- The orders are those of a log: an order exists if its key is logged or opened, and it holds the
    tiers of the rules logged under its key. -/
structure Records (set : RuleSet) (entries : List (OrderKey × Rule)) (opened : List OrderKey) :
    Prop where
  isSome_iff : ∀ key, (set.order? key).isSome ↔ key ∈ entries.map (·.1) ∨ key ∈ opened
  getD_eq : ∀ key, (set.order? key).getD [] = tiers (logged key entries)

variable {entries : List (OrderKey × Rule)} {opened : List OrderKey}

/-- Nothing is recorded at first. -/
theorem records_start (floor : Option OrderKey) : (start floor).Records [] [] where
  isSome_iff := by simp [start, order?]
  getD_eq := by simp [start, order?, tiers, tier]

/-- The order that is inserted into. -/
theorem order?_insertAt_self (set : RuleSet) (key : OrderKey) (r : Rule) :
    (set.insertAt key r).order? key = some (insertByPriority r ((set.order? key).getD [])) :=
  Orders.lookup_atKey_self set.orders key (insertByPriority r) set.ascending

/-- The other orders stay as they are. -/
theorem order?_insertAt_of_ne {other : OrderKey} (h : other ≠ key) :
    (set.insertAt key r).order? other = set.order? other :=
  Orders.lookup_atKey_of_ne set.orders (insertByPriority r) h

/-- The order that is advanced to. -/
theorem order?_advance_self (set : RuleSet) :
    set.advance.order? set.advance.cursor = some ((set.order? set.advance.cursor).getD []) :=
  Orders.lookup_atKey_self set.orders set.cursor.next id set.ascending

/-- The other orders stay as they are. -/
theorem order?_advance_of_ne (h : key ≠ set.advance.cursor) :
    set.advance.order? key = set.order? key :=
  Orders.lookup_atKey_of_ne set.orders id h

/-- **Step.** An insertion is recorded by adding it to the log. -/
theorem Records.insertAt (h : set.Records entries opened) (key : OrderKey) (r : Rule) :
    (set.insertAt key r).Records (entries ++ [(key, r)]) opened where
  isSome_iff other := by
    by_cases heq : other = key
    · subst heq
      simp [order?_insertAt_self]
    · rw [order?_insertAt_of_ne heq, h.isSome_iff]
      simp [heq]
  getD_eq other := by
    by_cases heq : other = key
    · subst heq
      rw [order?_insertAt_self, Option.getD_some, h.getD_eq, insertByPriority_tiers, logged_append,
        logged_self]
    · rw [order?_insertAt_of_ne heq, h.getD_eq, logged_append, logged_of_ne heq, List.append_nil]

/-- **Step.** Advancing is recorded by adding the new cursor to the opened keys. -/
theorem Records.advance (h : set.Records entries opened) :
    set.advance.Records entries (opened ++ [set.advance.cursor]) where
  isSome_iff key := by
    by_cases heq : key = set.advance.cursor
    · subst heq
      simp [order?_advance_self]
    · rw [order?_advance_of_ne heq, h.isSome_iff]
      simp [heq]
  getD_eq key := by
    by_cases heq : key = set.advance.cursor
    · subst heq
      rw [order?_advance_self, Option.getD_some, h.getD_eq]
    · rw [order?_advance_of_ne heq, h.getD_eq]

/-- What is inserted one after the other is recorded. -/
theorem Records.insertAll (h : set.Records entries opened) (more : List (OrderKey × Rule)) :
    (set.insertAll more).Records (entries ++ more) opened := by
  induction more generalizing set entries with
  | nil =>
    rw [List.append_nil]
    exact h
  | cons e more ih =>
    have hrest := ih (h.insertAt e.1 e.2)
    rw [List.append_assoc] at hrest
    exact hrest

/-- **Step.** A change is recorded by its entries and the key that it opens. -/
theorem Records.apply (h : set.Records entries opened) (c : Change) :
    (c.apply set).Records (entries ++ c.entries set) (opened ++ c.opened set) := by
  rcases Change.apply_cases set c with ⟨happly, hopened⟩ | ⟨happly, hentries, hopened⟩
  · rw [happly, hopened, List.append_nil]
    exact h.insertAll (c.entries set)
  · rw [happly, hentries, hopened, List.append_nil]
    exact h.advance

/-- **Run.** A run is recorded by its log and the keys that it opens. -/
theorem Records.run (h : set.Records entries opened) (changes : List Change) :
    (set.run changes).Records (entries ++ set.log changes) (opened ++ set.opened changes) := by
  -- Induction along the run; what is recorded before the first change grows with it.
  induction changes generalizing set entries opened with
  | nil => simpa [RuleSet.run, RuleSet.log, RuleSet.opened] using h
  | cons c rest ih =>
    have hrest := ih (h.apply c)
    simpa only [RuleSet.run, RuleSet.log, RuleSet.opened, List.foldl_cons, List.append_assoc]
      using hrest

/-- Without opened keys the orders are those that are logged. -/
theorem Records.order?_eq_some_iff {rules : List Rule} (h : set.Records entries []) :
    set.order? key = some rules ↔ rules = tiers (logged key entries) ∧ rules ≠ [] := by
  have hisSome := h.isSome_iff key
  have hgetD := h.getD_eq key
  -- A key is logged exactly if its tiers are not empty, and these are its order.
  rw [← logged_ne_nil_iff, Ne, ← tiers_eq_nil_iff, ← hgetD] at hisSome
  rw [← hgetD]
  cases hfound : set.order? key with
  | none => simp
  | some found =>
    rw [hfound] at hisSome
    have hne : found ≠ [] := by simpa using hisSome
    simp only [Option.getD_some, Option.some.injEq]
    constructor
    · rintro rfl
      exact ⟨rfl, hne⟩
    · rintro ⟨rfl, -⟩
      rfl

/-! ### The number of rules -/

/-- Changing one order changes the number of rules by what it changes there. -/
theorem perm_flatMap_atKey (orders : Orders) (key : OrderKey) (r : Rule) :
    ((orders.atKey key (insertByPriority r)).flatMap (·.2)).Perm (r :: orders.flatMap (·.2)) := by
  induction orders with
  | nil => exact List.Perm.refl _
  | cons o rest ih =>
    obtain ⟨k, rules⟩ := o
    rw [Orders.atKey]
    split
    · exact List.Perm.refl _
    · split
      · exact (insertByPriority_perm r rules).append_right _
      · exact (ih.append_left rules).trans List.perm_middle

/-- An insertion adds one rule. -/
theorem size_insertAt (set : RuleSet) (key : OrderKey) (r : Rule) :
    (set.insertAt key r).size = set.size + 1 :=
  (perm_flatMap_atKey set.orders key r).length_eq

/-- Creating an order adds no rule. -/
theorem rules_advance (set : RuleSet) : set.advance.rules = set.rules := by
  have hatKey : ∀ orders : Orders,
      (orders.atKey set.cursor.next id).flatMap (·.2) = orders.flatMap (·.2) := by
    intro orders
    induction orders with
    | nil => rfl
    | cons o rest ih =>
      obtain ⟨k, rules⟩ := o
      rw [Orders.atKey]
      split
      · rfl
      · split
        · rfl
        · rw [List.flatMap_cons, List.flatMap_cons, ih]
  exact hatKey set.orders

/-- A list of insertions adds as many rules as it is long. -/
theorem size_insertAll (set : RuleSet) (entries : List (OrderKey × Rule)) :
    (set.insertAll entries).size = set.size + entries.length := by
  induction entries generalizing set with
  | nil => rfl
  | cons e entries ih =>
    rw [insertAll_cons, ih, size_insertAt, List.length_cons]
    omega

/-- A change adds as many rules as it has entries. -/
theorem size_apply (set : RuleSet) (c : Change) :
    (c.apply set).size = set.size + (c.entries set).length := by
  rcases Change.apply_cases set c with ⟨happly, -⟩ | ⟨happly, hentries, -⟩
  · rw [happly]
    exact size_insertAll set (c.entries set)
  · rw [happly, hentries]
    exact congrArg List.length (rules_advance set)

/-- A run adds as many rules as it logs. -/
theorem size_run (set : RuleSet) (changes : List Change) :
    (set.run changes).size = set.size + (set.log changes).length := by
  induction changes generalizing set with
  | nil => rfl
  | cons c rest ih =>
    have hrest : ((c.apply set).run rest).size = _ := ih _
    rw [size_apply] at hrest
    show ((c.apply set).run rest).size = _
    rw [hrest, log, List.length_append]
    omega

/-! ### The floor and the cursor -/

variable {e : OrderKey × Rule}

/-- No change moves the floor. -/
theorem floor_apply (set : RuleSet) (c : Change) : (c.apply set).floor = set.floor := by
  rcases Change.apply_cases set c with ⟨happly, -⟩ | ⟨happly, -⟩
  · rw [happly, insertAll_floor]
  · rw [happly]
    rfl

/-- No run moves the floor. -/
theorem floor_run (set : RuleSet) (changes : List Change) :
    (set.run changes).floor = set.floor := by
  induction changes generalizing set with
  | nil => rfl
  | cons c rest ih => exact (ih (c.apply set)).trans (floor_apply set c)

/-- The cursor does not get below the floor. -/
theorem Change.not_below_cursor (h : ¬ set.Below set.cursor) (c : Change) :
    ¬ (c.apply set).Below (c.apply set).cursor := by
  have hle : set.cursor ≤ (c.apply set).cursor := by
    rcases apply_cases set c with ⟨happly, -⟩ | ⟨happly, -⟩
    · rw [happly, insertAll_cursor]
      exact Int.le_refl _
    · rw [happly]
      exact OrderKey.le_next set.cursor
  rintro ⟨floor, hfloor, hlt⟩
  rw [floor_apply] at hfloor
  exact h ⟨floor, hfloor, Int.lt_of_le_of_lt hle hlt⟩

/-- What a change inserts does not lie below the floor. -/
theorem Change.not_below_entries (h : ¬ set.Below set.cursor) {c : Change}
    (he : e ∈ c.entries set) : ¬ set.Below e.1 := by
  cases c with
  | insert key r =>
    simp only [Change.entries] at he
    cases hins : set.insert? key r with
    | error refused =>
      rw [hins] at he
      cases he
    | ok changed =>
      rw [hins] at he
      rw [List.mem_singleton.1 he]
      exact (insert?_eq_ok_iff.1 hins).1
  | insertHere r =>
    rw [List.mem_singleton.1 he]
    exact h
  | extendHere rules =>
    obtain ⟨r, -, rfl⟩ := List.mem_map.1 he
    exact h
  | advance => cases he

/-- What a run inserts does not lie below the floor, if the cursor does not at first. -/
theorem not_below_log (h : ¬ set.Below set.cursor) {changes : List Change}
    (he : e ∈ set.log changes) : ¬ set.Below e.1 := by
  induction changes generalizing set with
  | nil => cases he
  | cons c rest ih =>
    rw [log] at he
    rcases List.mem_append.1 he with he | he
    · exact Change.not_below_entries h he
    · have hrest := ih (Change.not_below_cursor h c) he
      unfold Below at hrest ⊢
      rwa [floor_apply] at hrest

/-- The cursor starts at the floor. -/
theorem not_below_start (floor : Option OrderKey) : ¬ (start floor).Below (start floor).cursor := by
  rintro ⟨low, hfloor, hlt⟩
  obtain rfl : floor = some low := hfloor
  exact Int.lt_irrefl _ hlt

/-! ### Any run -/

/-- **History.** After any run from an empty rule set, with a floor or without:

    * an order holds the rules logged under its key, the immediate ones first, then the natural
      ones, then the last ones, each tier in the order of the log;
    * an order exists exactly if its key is logged or the cursor was moved to it;
    * the orders are viewed with strictly ascending keys, the walk over all rules is the orders put
      together in this sequence, and there are as many rules as log entries;
    * the floor stays; an insertion is refused exactly if its order lies below it, and the refusal
      tells both and leaves the rule set as it was. -/
theorem run_history (floor : Option OrderKey) (changes : List Change) :
    let set := (start floor).run changes
    let log := (start floor).log changes
    (∀ key, (set.order? key).getD [] = tier .immediate (logged key log) ++
      tier .natural (logged key log) ++ tier .last (logged key log)) ∧
    (∀ key, (set.order? key).isSome ↔
      key ∈ log.map (·.1) ∨ key ∈ (start floor).opened changes) ∧
    set.keys.Pairwise (· < ·) ∧
    set.orders = set.keys.map (fun key => (key, (set.order? key).getD [])) ∧
    set.rules = set.keys.flatMap (fun key => (set.order? key).getD []) ∧
    set.size = log.length ∧
    set.floor = floor ∧
    (∀ key r e, set.insert? key r = .error e ↔
      ∃ low, floor = some low ∧ key < low ∧ e = ⟨key, low⟩) ∧
    (∀ key r e, set.insert? key r = .error e → (Change.insert key r).apply set = set) := by
  intro set log
  have hrecords : set.Records log ((start floor).opened changes) :=
    (records_start floor).run changes
  have hfloor : set.floor = floor := floor_run (start floor) changes
  have hsize : set.size = log.length := by
    have := size_run (start floor) changes
    rwa [show (start floor).size = 0 from rfl, Nat.zero_add] at this
  refine ⟨hrecords.getD_eq, hrecords.isSome_iff, set.keys_ascending, set.orders_eq_map_keys,
    set.rules_eq_flatMap_keys, hsize, hfloor, fun key r e => ?_, fun key r e he => ?_⟩
  · rw [insert?_eq_error_iff, hfloor]
  · simp only [Change.apply, he]

end OrderedLexer.RuleSet
