import OrderedLexer.Proofs.RuleFile.Reachable
import OrderedLexer.Proofs.RuleSet.Landing
import OrderedLexer.Proofs.Scan.FirstMatch

namespace OrderedLexer.RuleSet

/-!
# One insertion and the first match

A rule that is inserted is the first match where it matches and no rule that stands before it does.
Everywhere else the first match stays what it was.

* `winner?` — the place in the walk of the first rule that matches;
* `nextMatch?_eq_winner` — the first match is that of the rule at this place;
* `Prevails` — an inserted rule matches, and no rule that beats it does;
* `nextMatch?_insert` — what an insertion does to the first match.
-/

variable {set : RuleSet} {key : OrderKey} {r : Rule} {text : List Char} {pos : Nat}

/-- The place in the walk of the first rule that matches at a byte position. -/
def winner? (set : RuleSet) (text : List Char) (pos : Nat) : Option Nat :=
  set.rules.findIdx? fun s => (s.matchAt? text pos).isSome

/-- The first match is that of the rule at the winning place. -/
theorem nextMatch?_eq_winner (set : RuleSet) (text : List Char) (pos : Nat) :
    set.nextMatch? text pos = (set.winner? text pos).bind fun place =>
      set.rules[place]?.bind fun s => (s.matchAt? text pos).map (·, s) := by
  unfold nextMatch? winner?
  induction set.rules with
  | nil => rfl
  | cons s rest ih =>
    rw [List.findSome?_cons, List.findIdx?_cons]
    cases hs : s.matchAt? text pos with
    | some matched => simp [hs]
    | none =>
      simp only [Option.map_none, Option.isSome_none, Bool.false_eq_true, if_false, ih,
        Option.bind_map]
      rfl

/-- A rule that is inserted into the order `key` matches at a byte position, and no rule that stands
    before it matches there. -/
def Prevails (set : RuleSet) (key : OrderKey) (r : Rule) (text : List Char) (pos : Nat) : Prop :=
  (r.matchAt? text pos).isSome ∧ ∀ s, set.Beats s key r → s.matchAt? text pos = none

section Landing

variable {changed : RuleSet} {ahead behind : List Rule}

/-- The inserted rule wins exactly where it prevails. -/
theorem winner?_of_landing (hchanged : changed.rules = ahead ++ r :: behind)
    (hahead : ∀ s, s ∈ ahead ↔ set.Beats s key r) :
    changed.winner? text pos = some ahead.length ↔ set.Prevails key r text pos := by
  rw [winner?, hchanged, List.findIdx?_eq_some_iff_getElem]
  constructor
  · rintro ⟨hlt, hmatch, hbefore⟩
    refine ⟨by simpa using hmatch, fun s hs => ?_⟩
    obtain ⟨i, hi, rfl⟩ := List.getElem_of_mem ((hahead s).2 hs)
    have hi' := hbefore i hi
    rw [List.getElem_append_left hi] at hi'
    simpa using hi'
  · rintro ⟨hmatch, hbefore⟩
    refine ⟨by simp, by simpa using hmatch, fun i hi => ?_⟩
    rw [List.getElem_append_left hi, hbefore _ ((hahead _).1 (List.getElem_mem hi))]
    simp

/-- The inserted rule is asked between the rules that stand before it and all others, so the first
    match is its own where it prevails, and the old one elsewhere. -/
theorem nextMatch?_of_landing (hrules : set.rules = ahead ++ behind)
    (hchanged : changed.rules = ahead ++ r :: behind)
    (hahead : ∀ s, s ∈ ahead ↔ set.Beats s key r) :
    (set.Prevails key r text pos →
      changed.nextMatch? text pos = (r.matchAt? text pos).map (·, r)) ∧
    (¬ set.Prevails key r text pos → changed.nextMatch? text pos = set.nextMatch? text pos) := by
  let attempt (s : Rule) : Option (List Char × Rule) := (s.matchAt? text pos).map (·, s)
  have hold : set.nextMatch? text pos =
      (ahead.findSome? attempt).or (behind.findSome? attempt) := by
    unfold nextMatch?
    rw [hrules, List.findSome?_append]
  have hnew : changed.nextMatch? text pos =
      (ahead.findSome? attempt).or ((attempt r).or (behind.findSome? attempt)) := by
    unfold nextMatch?
    rw [hchanged, ← List.singleton_append, List.findSome?_append, List.findSome?_append,
      List.findSome?_singleton]
  have hnone : ahead.findSome? attempt = none ↔
      ∀ s, set.Beats s key r → s.matchAt? text pos = none := by
    simp only [List.findSome?_eq_none_iff, hahead]
    exact forall₂_congr fun s _ => Option.map_eq_none_iff
  constructor
  · rintro ⟨hmatch, hno⟩
    obtain ⟨matched, hmatched⟩ := Option.isSome_iff_exists.1 hmatch
    have hr : attempt r = some (matched, r) := Option.map_eq_some_iff.2 ⟨matched, hmatched, rfl⟩
    rw [hnew, hnone.2 hno, Option.none_or, hr, hmatched]
    rfl
  · intro h
    rw [hold, hnew]
    cases hfound : ahead.findSome? attempt with
    | some found => rfl
    | none =>
      -- No rule that stands before it matches, so the inserted rule does not match either.
      have hr : attempt r = none := by
        refine Option.map_eq_none_iff.2 ?_
        by_contra hmatch
        exact h ⟨Option.isSome_iff_ne_none.2 hmatch, hnone.1 hfound⟩
      rw [hr, Option.none_or]

end Landing

/-- **Insertion.** A rule that the floor does not refuse is inserted into a reachable rule set, at
    some place of the walk. For every text and byte position, the first match is that of the rule at
    the winning place, and

    * the inserted rule has the winning place exactly if it matches, and neither a rule of a lower
      order does nor a rule of its own order with at least its priority;
    * then the first match is its own, and otherwise the first match is the same as before. -/
theorem nextMatch?_insert (h : Reachable set) (hfloor : ¬ set.Below key) (r : Rule) :
    ∃ changed place, set.insert? key r = .ok changed ∧ changed.rules[place]? = some r ∧
      changed.rules.eraseIdx place = set.rules ∧
      ∀ text pos,
        changed.nextMatch? text pos = (changed.winner? text pos).bind (fun place =>
          changed.rules[place]?.bind fun s => (s.matchAt? text pos).map (·, s)) ∧
        (changed.winner? text pos = some place ↔ set.Prevails key r text pos) ∧
        (set.Prevails key r text pos →
          changed.nextMatch? text pos = (r.matchAt? text pos).map (·, r)) ∧
        (¬ set.Prevails key r text pos →
          changed.nextMatch? text pos = set.nextMatch? text pos) := by
  obtain ⟨ahead, behind, hrules, hchanged, hahead⟩ := exists_landing (fun rules => h.sorted) r
  refine ⟨set.insertAt key r, ahead.length, insert?_eq_ok_iff.2 ⟨hfloor, rfl⟩, ?_, ?_,
    fun text pos => ⟨nextMatch?_eq_winner _ text pos, winner?_of_landing hchanged hahead,
      nextMatch?_of_landing hrules hchanged hahead⟩⟩
  · rw [hchanged]
    simp
  · rw [hchanged, hrules, List.eraseIdx_append_of_length_le (Nat.le_refl _), Nat.sub_self]
    rfl

/-- An immediate rule takes over from a natural one of its order where both match. -/
theorem nextMatch?_insert_immediate : ∃ a b, Rule.ofPattern "a" = .ok a ∧
    Rule.ofPattern "ab" .immediate = .ok b ∧ Reachable (new.insertHere a) ∧
    ¬ (new.insertHere a).Below OrderKey.zero ∧
    (new.insertHere a).nextMatch? "cab".toList 1 = some (['a'], a) ∧
    ∃ changed, (new.insertHere a).insert? OrderKey.zero b = .ok changed ∧
      changed.nextMatch? "cab".toList 1 = some (['a', 'b'], b) := by
  have hcompiles : (Regex.compile "a").isOk = true ∧ (Regex.compile "ab").isOk = true := by decide
  obtain ⟨a, ha⟩ := Rule.exists_ofPattern hcompiles.1 .natural true none
  obtain ⟨b, hb⟩ := Rule.exists_ofPattern hcompiles.2 .immediate true none
  have heval : ((Rule.ofPattern "a").toOption.bind fun a =>
      (Rule.ofPattern "ab" .immediate).toOption.map fun b =>
        decide (a.matchAt? "cab".toList 1 = some ['a'] ∧
          b.matchAt? "cab".toList 1 = some ['a', 'b'] ∧ ¬ b.priority ≤ a.priority)) =
      some true := by decide +kernel
  rw [ha, hb] at heval
  obtain ⟨hmatchA, hmatchB, hpriority⟩ := of_decide_eq_true (Option.some.inj heval)
  have hreachable := Reachable.new.change (.insertHere a)
  have hfloor : ¬ (new.insertHere a).Below OrderKey.zero := by
    rintro ⟨low, hlow, -⟩
    cases hlow
  have horder : ∀ key rules, (new.insertHere a).order? key = some rules →
      key = OrderKey.zero ∧ rules = [a] := by
    intro key rules h
    exact Prod.mk.inj (List.mem_singleton.1 (order?_eq_some_iff.1 h))
  have hprevails : (new.insertHere a).Prevails OrderKey.zero b "cab".toList 1 := by
    refine ⟨by rw [hmatchB]; rfl, ?_⟩
    rintro s (⟨lower, rules, hlt, hrules, -⟩ | ⟨rules, hrules, hs, hle⟩)
    · rw [(horder lower rules hrules).1] at hlt
      exact absurd hlt (Int.lt_irrefl _)
    · rw [(horder _ rules hrules).2] at hs
      rw [List.mem_singleton.1 hs] at hle
      exact absurd hle hpriority
  have hbefore : (new.insertHere a).nextMatch? "cab".toList 1 = some (['a'], a) := by
    show [a].findSome? _ = _
    rw [List.findSome?_singleton, hmatchA]
    rfl
  obtain ⟨changed, place, hins, -, -, hnext⟩ := nextMatch?_insert hreachable hfloor b
  have htaken := (hnext "cab".toList 1).2.2.1 hprevails
  rw [hmatchB] at htaken
  exact ⟨a, b, ha, hb, hreachable, hfloor, hbefore, changed, hins, htaken⟩

end OrderedLexer.RuleSet
