import OrderedLexer.Proofs.RuleSet.History

namespace OrderedLexer

/-!
# Batches of rules

Between two advances the cursor stays in its order, so what is inserted there forms a batch. An
advance opens a greater order for the next batch, unless the cursor is at the greatest key.

* `OrderKey.lt_next_iff_of_le` — which keys lie below the next one;
* `RuleSet.rulesWhere_run` — which rules stand in some of the orders after a run;
* `RuleSet.rules_eq_append` — the walk is cut at a key;
* `RuleSet.exists_cut_insertAll` — so two rules in different orders stand on either side of a cut;
* `RuleSet.le_of_mem_log`, `RuleSet.log_le` — in which orders a run inserts;
* `RuleSet.run_batches` — an advance cuts the walk between the batches before it and those behind
  it.
-/

namespace OrderKey

/-- The greatest key, which is followed by itself. -/
def greatest : OrderKey := ⟨0x7FFFFFFF, by decide⟩

/-- What follows a key lies above all keys up to it, except for the greatest one. -/
theorem lt_next_iff_of_le {j k : OrderKey} (h : j ≤ k) : j < k.next ↔ j ≠ greatest := by
  have hj := j.inRange
  have hk := k.inRange
  have hle : j.val ≤ k.val := h
  rw [lt_def, Ne, OrderKey.ext_iff]
  unfold next
  split
  · show j.val < k.val + 1 ↔ j.val ≠ 0x7FFFFFFF
    omega
  · show j.val < k.val ↔ j.val ≠ 0x7FFFFFFF
    omega

end OrderKey

namespace RuleSet

variable {set : RuleSet} {key low high : OrderKey} {changes : List Change} {p : OrderKey → Bool}

/-! ### Some of the orders -/

/-- The rules of the orders whose keys pass a test, as they are tried. -/
def rulesWhere (set : RuleSet) (p : OrderKey → Bool) : List Rule :=
  (set.orders.filter (p ·.1)).flatMap (·.2)

/-- The rules that are logged under the keys that pass a test. -/
def loggedWhere (p : OrderKey → Bool) (entries : List (OrderKey × Rule)) : List Rule :=
  (entries.filter (p ·.1)).map (·.2)

@[simp] theorem loggedWhere_nil (p : OrderKey → Bool) : loggedWhere p [] = [] := rfl

@[simp] theorem loggedWhere_append (p : OrderKey → Bool) (es es' : List (OrderKey × Rule)) :
    loggedWhere p (es ++ es') = loggedWhere p es ++ loggedWhere p es' := by
  simp [loggedWhere]

theorem loggedWhere_cons_of_pos {e : OrderKey × Rule} (h : p e.1 = true)
    (es : List (OrderKey × Rule)) : loggedWhere p (e :: es) = e.2 :: loggedWhere p es := by
  simp [loggedWhere, h]

theorem loggedWhere_cons_of_neg {e : OrderKey × Rule} (h : p e.1 = false)
    (es : List (OrderKey × Rule)) : loggedWhere p (e :: es) = loggedWhere p es := by
  simp [loggedWhere, h]

theorem loggedWhere_congr {q : OrderKey → Bool} {es : List (OrderKey × Rule)}
    (h : ∀ e ∈ es, p e.1 = q e.1) : loggedWhere p es = loggedWhere q es :=
  congrArg (List.map _) (List.filter_congr h)

/-- The rules below a key and the others are all rules that are logged. -/
theorem loggedWhere_lt_append_le (key : OrderKey) (es : List (OrderKey × Rule)) :
    (loggedWhere (· < key) es ++ loggedWhere (key ≤ ·) es).Perm (es.map (·.2)) := by
  have hnot : ∀ e : OrderKey × Rule, decide (key ≤ e.1) = !decide (e.1 < key) := by
    intro e
    rw [← decide_not]
    exact decide_eq_decide.2 Int.not_lt.symm
  rw [loggedWhere, loggedWhere, ← List.map_append]
  simp only [hnot]
  exact (List.filter_append_perm _ _).map _

/-- Changing one order changes the orders that pass by what it changes there, if its key passes. -/
theorem perm_filter_atKey (p : OrderKey → Bool) (orders : Orders) (key : OrderKey)
    (f : List Rule → List Rule) (more : List Rule) (hf : ∀ rules, (f rules).Perm (rules ++ more)) :
    (((orders.atKey key f).filter (p ·.1)).flatMap (·.2)).Perm
      ((orders.filter (p ·.1)).flatMap (·.2) ++ if p key then more else []) := by
  induction orders with
  | nil =>
    cases hp : p key with
    | false => simp [Orders.atKey, hp]
    | true => simpa [Orders.atKey, hp] using hf []
  | cons o rest ih =>
    obtain ⟨k, rules⟩ := o
    rw [Orders.atKey]
    split
    · -- A new order stands in front of all others.
      cases hp : p key with
      | false => simp [hp]
      | true =>
        rw [List.filter_cons_of_pos (by exact hp), List.flatMap_cons, if_pos rfl]
        exact ((hf []).append_right _).trans List.perm_append_comm
    · split
      · next heq =>
        subst heq
        cases hp : p key with
        | false => simp [hp]
        | true =>
          rw [List.filter_cons_of_pos (by exact hp), List.filter_cons_of_pos (by exact hp),
            List.flatMap_cons, List.flatMap_cons, if_pos rfl]
          refine ((hf rules).append_right _).trans ?_
          rw [List.append_assoc, List.append_assoc]
          exact List.perm_append_comm.append_left rules
      · cases hk : p k with
        | false =>
          rw [List.filter_cons_of_neg (by simp [hk]), List.filter_cons_of_neg (by simp [hk])]
          exact ih
        | true =>
          rw [List.filter_cons_of_pos (by exact hk), List.filter_cons_of_pos (by exact hk),
            List.flatMap_cons, List.flatMap_cons, List.append_assoc]
          exact ih.append_left rules

/-- **Step.** An insertion adds its rule to the orders that pass if its key does. -/
theorem rulesWhere_insertAt (set : RuleSet) (key : OrderKey) (r : Rule) (p : OrderKey → Bool) :
    ((set.insertAt key r).rulesWhere p).Perm (set.rulesWhere p ++ loggedWhere p [(key, r)]) := by
  have hperm := perm_filter_atKey p set.orders key (insertByPriority r) [r]
    fun rules => (insertByPriority_perm r rules).trans (List.perm_append_singleton r rules).symm
  cases hp : p key with
  | false =>
    rw [loggedWhere_cons_of_neg (by exact hp)]
    rwa [hp] at hperm
  | true =>
    rw [loggedWhere_cons_of_pos (by exact hp)]
    rwa [hp] at hperm

/-- **Step.** Advancing adds no rule. -/
theorem rulesWhere_advance (set : RuleSet) (p : OrderKey → Bool) :
    (set.advance.rulesWhere p).Perm (set.rulesWhere p) := by
  have hperm := perm_filter_atKey p set.orders set.cursor.next id [] fun rules => by simp
  rwa [ite_self, List.append_nil] at hperm

/-- What is inserted one after the other is added. -/
theorem rulesWhere_insertAll (set : RuleSet) (entries : List (OrderKey × Rule))
    (p : OrderKey → Bool) :
    ((set.insertAll entries).rulesWhere p).Perm (set.rulesWhere p ++ loggedWhere p entries) := by
  induction entries generalizing set with
  | nil => simp
  | cons e entries ih =>
    refine (ih (set.insertAt e.1 e.2)).trans ?_
    refine ((rulesWhere_insertAt set e.1 e.2 p).append_right _).trans ?_
    rw [List.append_assoc, ← loggedWhere_append]
    exact List.Perm.refl _

/-- **Run.** The orders that pass hold what they held before the run, and what is logged there. -/
theorem rulesWhere_run (set : RuleSet) (changes : List Change) (p : OrderKey → Bool) :
    ((set.run changes).rulesWhere p).Perm
      (set.rulesWhere p ++ loggedWhere p (set.log changes)) := by
  induction changes generalizing set with
  | nil => simp [run, log]
  | cons c rest ih =>
    have hstep : ((c.apply set).rulesWhere p).Perm
        (set.rulesWhere p ++ loggedWhere p (c.entries set)) := by
      rcases Change.apply_cases set c with ⟨happly, -⟩ | ⟨happly, hentries, -⟩
      · rw [happly]
        exact rulesWhere_insertAll set (c.entries set) p
      · rw [happly, hentries, loggedWhere_nil, List.append_nil]
        exact rulesWhere_advance set p
    rw [log, loggedWhere_append, ← List.append_assoc]
    exact (ih (c.apply set)).trans (hstep.append_right _)

/-- **Cut.** The walk goes through the orders below a key, and then through the others. -/
theorem rules_eq_append (set : RuleSet) (key : OrderKey) :
    set.rules = set.rulesWhere (· < key) ++ set.rulesWhere (key ≤ ·) := by
  have hcut : ∀ orders : Orders, orders.Ascending →
      orders = orders.filter (·.1 < key) ++ orders.filter (key ≤ ·.1) := by
    intro orders hascending
    induction orders with
    | nil => rfl
    | cons o rest ih =>
      obtain ⟨ho, hrest⟩ := List.pairwise_cons.1 hascending
      by_cases hlt : o.1 < key
      · have hnle : ¬ key ≤ o.1 := Int.not_le.2 hlt
        rw [List.filter_cons_of_pos (by simpa using hlt),
          List.filter_cons_of_neg (by simpa using hnle), List.cons_append, ← ih hrest]
      · -- From here on no order lies below the key.
        have hle : ∀ q ∈ o :: rest, key ≤ q.1 := by
          refine List.forall_mem_cons.2 ⟨Int.not_lt.1 hlt, fun q hq => ?_⟩
          exact Int.le_trans (Int.not_lt.1 hlt) (Int.le_of_lt (ho q hq))
        have hnone : (o :: rest).filter (·.1 < key) = [] := by
          refine List.filter_eq_nil_iff.2 fun q hq => ?_
          rw [decide_eq_true_eq]
          exact Int.not_lt.2 (hle q hq)
        have hall : (o :: rest).filter (key ≤ ·.1) = o :: rest :=
          List.filter_eq_self.2 fun q hq => decide_eq_true (hle q hq)
        rw [hnone, hall, List.nil_append]
  rw [rules, rulesWhere, rulesWhere, ← List.flatMap_append, ← hcut set.orders set.ascending]

/-- Of two rules that are inserted among others, the one with the lower order stands ahead of a cut
    in the walk, and the other one behind it. -/
theorem exists_cut_insertAll (floor : Option OrderKey) {r s : Rule} (hlt : low < high)
    (es es' es'' : List (OrderKey × Rule)) :
    ∃ ahead behind others others',
      ((start floor).insertAll (es ++ (low, r) :: (es' ++ (high, s) :: es''))).rules =
        ahead ++ behind ∧
      ahead.Perm (r :: others) ∧ behind.Perm (s :: others') ∧
      (others ++ others').Perm ((es ++ (es' ++ es'')).map (·.2)) := by
  have hrules : ∀ p,
      (((start floor).insertAll (es ++ (low, r) :: (es' ++ (high, s) :: es''))).rulesWhere p).Perm
        (loggedWhere p (es ++ (low, r) :: (es' ++ (high, s) :: es''))) :=
    rulesWhere_insertAll (start floor) _
  refine ⟨_, _, loggedWhere (· < high) (es ++ (es' ++ es'')),
    loggedWhere (high ≤ ·) (es ++ (es' ++ es'')), rules_eq_append _ high, ?_, ?_,
    loggedWhere_lt_append_le high _⟩
  · refine (hrules _).trans ?_
    have hr : decide (low < high) = true := decide_eq_true hlt
    have hs : decide (high < high) = false := decide_eq_false (Int.lt_irrefl _)
    rw [loggedWhere_append, loggedWhere_cons_of_pos (by exact hr), loggedWhere_append,
      loggedWhere_cons_of_neg (by exact hs), loggedWhere_append, loggedWhere_append]
    exact List.perm_middle
  · refine (hrules _).trans ?_
    have hr : decide (high ≤ low) = false := decide_eq_false (Int.not_le.2 hlt)
    have hs : decide (high ≤ high) = true := decide_eq_true (Int.le_refl _)
    rw [loggedWhere_append, loggedWhere_cons_of_neg (by exact hr), loggedWhere_append,
      loggedWhere_cons_of_pos (by exact hs), loggedWhere_append, loggedWhere_append,
      ← List.append_assoc, ← List.append_assoc]
    exact List.perm_middle

/-! ### The orders that a run gets to -/

/-- A change does not move the cursor down. -/
theorem Change.cursor_le (set : RuleSet) (c : Change) : set.cursor ≤ (c.apply set).cursor := by
  rcases apply_cases set c with ⟨happly, -⟩ | ⟨happly, -⟩
  · rw [happly, insertAll_cursor]
    exact Int.le_refl _
  · rw [happly]
    exact OrderKey.le_next set.cursor

/-- A run does not move the cursor down. -/
theorem cursor_le_run (set : RuleSet) (changes : List Change) :
    set.cursor ≤ (set.run changes).cursor := by
  induction changes generalizing set with
  | nil => exact Int.le_refl _
  | cons c rest ih => exact Int.le_trans (c.cursor_le set) (ih (c.apply set))

/-- Where a change inserts: into the order that it names, or into that of the cursor. -/
theorem Change.mem_entries {c : Change} {e : OrderKey × Rule} (he : e ∈ c.entries set) :
    c = .insert e.1 e.2 ∨ e.1 = set.cursor := by
  cases c with
  | insert key r =>
    simp only [entries] at he
    split at he
    · obtain rfl := List.mem_singleton.1 he
      exact .inl rfl
    · cases he
  | insertHere r => exact .inr (congrArg Prod.fst (List.mem_singleton.1 he))
  | extendHere rules =>
    obtain ⟨r, -, rfl⟩ := List.mem_map.1 he
    exact .inr rfl
  | advance => cases he

/-- A run from a cursor at or above a key inserts into no order below the key, if it names none. -/
theorem le_of_mem_log (hcursor : low ≤ set.cursor)
    (hnamed : ∀ key r, Change.insert key r ∈ changes → low ≤ key) {e : OrderKey × Rule}
    (he : e ∈ set.log changes) : low ≤ e.1 := by
  induction changes generalizing set with
  | nil => cases he
  | cons c rest ih =>
    rcases List.mem_append.1 he with he | he
    · rcases Change.mem_entries he with rfl | heq
      · exact hnamed e.1 e.2 List.mem_cons_self
      · rw [heq]
        exact hcursor
    · exact ih (Int.le_trans hcursor (c.cursor_le set))
        (fun key r h => hnamed key r (List.mem_cons_of_mem c h)) he

/-- A run opens no order below the cursor. -/
theorem cursor_le_of_mem_opened (h : key ∈ set.opened changes) : set.cursor ≤ key := by
  induction changes generalizing set with
  | nil => cases h
  | cons c rest ih =>
    rcases List.mem_append.1 h with h | h
    · cases c with
      | advance =>
        rw [List.mem_singleton.1 h]
        exact OrderKey.le_next set.cursor
      | _ => cases h
    · exact Int.le_trans (c.cursor_le set) (ih h)

/-- A run to a cursor at or below a key inserts into no order above the key, if it names none. -/
theorem log_le (hcursor : (set.run changes).cursor ≤ high)
    (hnamed : ∀ key r, Change.insert key r ∈ changes → key ≤ high) {e : OrderKey × Rule}
    (he : e ∈ set.log changes) : e.1 ≤ high := by
  induction changes generalizing set with
  | nil => cases he
  | cons c rest ih =>
    rcases List.mem_append.1 he with he | he
    · rcases Change.mem_entries he with rfl | heq
      · exact hnamed e.1 e.2 List.mem_cons_self
      · rw [heq]
        exact Int.le_trans (cursor_le_run set (c :: rest)) hcursor
    · exact ih hcursor (fun key r h => hnamed key r (List.mem_cons_of_mem c h)) he

/-! ### Batches -/

/-- The change names no order: it inserts at the cursor, or it advances. -/
def Change.AtCursor : Change → Prop
  | .insert _ _ => False
  | _ => True

theorem not_mem_of_atCursor (h : ∀ c ∈ changes, c.AtCursor) (key : OrderKey) (r : Rule) :
    Change.insert key r ∉ changes := fun hmem => h _ hmem

theorem log_append (set : RuleSet) (first second : List Change) :
    set.log (first ++ second) = set.log first ++ (set.run first).log second := by
  induction first generalizing set with
  | nil => rfl
  | cons c rest ih =>
    rw [List.cons_append, log, log, ih, List.append_assoc]
    rfl

/-- **Batches.** An advance cuts the walk in two. Ahead of the cut stand the rules of the lower
    orders and all rules inserted at the cursor before the advance, except those inserted at the
    greatest key; behind it stand all others, with the rules inserted at the cursor after the
    advance. -/
theorem run_batches (set : RuleSet) {first second : List Change}
    (hfirst : ∀ c ∈ first, c.AtCursor) (hsecond : ∀ c ∈ second, c.AtCursor) :
    let opened := (set.run first).advance.cursor
    ∃ ahead behind, (set.run (first ++ .advance :: second)).rules = ahead ++ behind ∧
      ahead.Perm (set.rulesWhere (· < opened) ++
        loggedWhere (· ≠ OrderKey.greatest) (set.log first)) ∧
      behind.Perm (set.rulesWhere (opened ≤ ·) ++
        loggedWhere (· = OrderKey.greatest) (set.log first) ++
        ((set.run first).advance.log second).map (·.2)) := by
  intro opened
  have hlog : set.log (first ++ .advance :: second) =
      set.log first ++ (set.run first).advance.log second := log_append set first _
  -- Only the greatest key is not below the order that is opened behind it.
  have hbefore : ∀ e ∈ set.log first, e.1 < opened ↔ e.1 ≠ OrderKey.greatest := by
    intro e he
    exact OrderKey.lt_next_iff_of_le
      (log_le (Int.le_refl _) (fun key r h => absurd h (not_mem_of_atCursor hfirst key r)) he)
  have hafter : ∀ e ∈ (set.run first).advance.log second, opened ≤ e.1 := by
    intro e he
    exact le_of_mem_log (Int.le_refl _)
      (fun key r h => absurd h (not_mem_of_atCursor hsecond key r)) he
  refine ⟨_, _, rules_eq_append _ opened, ?_, ?_⟩
  · refine (rulesWhere_run set _ _).trans ?_
    have hfront : loggedWhere (· < opened) (set.log first) =
        loggedWhere (· ≠ OrderKey.greatest) (set.log first) :=
      loggedWhere_congr fun e he => decide_eq_decide.2 (hbefore e he)
    have hback : loggedWhere (· < opened) ((set.run first).advance.log second) = [] := by
      refine List.map_eq_nil_iff.2 (List.filter_eq_nil_iff.2 fun e he => ?_)
      rw [decide_eq_true_eq]
      exact Int.not_lt.2 (hafter e he)
    rw [hlog, loggedWhere_append, hfront, hback, List.append_nil]
  · refine (rulesWhere_run set _ _).trans ?_
    have hfront : loggedWhere (opened ≤ ·) (set.log first) =
        loggedWhere (· = OrderKey.greatest) (set.log first) := by
      refine loggedWhere_congr fun e he => decide_eq_decide.2 ?_
      have hlt := hbefore e he
      rw [← not_iff_not, ← Ne, ← hlt]
      exact Int.not_le
    have hback : loggedWhere (opened ≤ ·) ((set.run first).advance.log second) =
        ((set.run first).advance.log second).map (·.2) :=
      congrArg (List.map _) (List.filter_eq_self.2 fun e he => decide_eq_true (hafter e he))
    rw [hlog, loggedWhere_append, hfront, hback, List.append_assoc]

end RuleSet
end OrderedLexer
