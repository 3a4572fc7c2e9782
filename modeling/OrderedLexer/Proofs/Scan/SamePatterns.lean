import OrderedLexer.Proofs.RuleSet.Orders
import OrderedLexer.Scan.Tokens

namespace OrderedLexer

/-!
# Patterns alone decide what is matched

Of all that belongs to a rule, only its pattern decides where it matches and what it takes. Two rule
sets with the same patterns at the same places cut every text into the same matches. They differ in
which of these they keep, and under which names.

* `Match` — a match that names the place of its rule in the walk, and so belongs to no rule set;
* `RuleSet.firstMatch?_of_patterns` — the first match is found at the same place;
* `RuleSet.Alike`, `RuleSet.courseFrom_alike` — two scans in lockstep find the same;
* `RuleSet.found_mute`, `RuleSet.kept_mute` — rules that are muted find the same as before;
* `RuleSet.scan_of_samePatterns` — what this comes to for the tokens and the errors.
-/

/-- What a rule matches depends on its pattern alone. -/
theorem Rule.matchStart?_of_pattern {r s : Rule} (h : r.pattern = s.pattern) (text : List Char) :
    r.matchStart? text = s.matchStart? text := by
  have hregex : r.regex = s.regex := by
    have hr := r.compiles
    rw [h, s.compiles] at hr
    exact (Except.ok.inj hr).symm
  rw [matchStart?, matchStart?, hregex]

/-! ### Matches without rules -/

/-- A match at a byte offset, with the place of its rule in the walk. -/
structure Match where
  text : String
  place : Nat
  offset : Nat

namespace Match

/-- The match as it is told with some rules; there must be one at its place. -/
def token? (rules : List Rule) (m : Match) : Option Token :=
  rules[m.place]?.map fun r => ⟨m.text, r, m.offset⟩

/-- The tokens of some matches: those of which the rule captures. -/
def kept (rules : List Rule) (ms : List Match) : List Token :=
  (ms.filterMap (token? rules)).filter (·.rule.captures)

/-- Matches that tell what is found in a course tell what is kept of it. -/
theorem kept_eq {rules : List Rule} {ms : List Match} {c : Course}
    (h : ms.map (token? rules) = c.found.map some) : kept rules ms = c.kept := by
  have hfound : ms.filterMap (token? rules) = c.found := by
    have hid : (ms.map (token? rules)).filterMap id = ms.filterMap (token? rules) := by
      rw [List.filterMap_map, Function.id_comp]
    rw [← hid, h, List.filterMap_map]
    exact List.filterMap_some
  rw [kept, hfound, Course.kept]

end Match

namespace RuleSet

variable {set set' : RuleSet} {rules rules' : List Rule}

/-! ### Two scans in lockstep -/

/-- **Step.** Where the patterns are the same, the first match is found at the same place, or none
    is found at all. -/
theorem firstMatch?_of_patterns (h : rules.map (·.pattern) = rules'.map (·.pattern))
    (text : List Char) :
    (firstMatch? rules text = none ∧ firstMatch? rules' text = none) ∨
    ∃ (matched : List Char) (place : Nat) (r r' : Rule),
      rules[place]? = some r ∧ rules'[place]? = some r' ∧ r.pattern = r'.pattern ∧
      firstMatch? rules text = some (matched, r) ∧
      firstMatch? rules' text = some (matched, r') := by
  induction rules generalizing rules' with
  | nil =>
    obtain rfl : rules' = [] := List.map_eq_nil_iff.1 h.symm
    exact .inl ⟨rfl, rfl⟩
  | cons r rest ih =>
    obtain ⟨r', rest', rfl, hpattern, hrest⟩ := List.map_eq_cons_iff.1 h.symm
    have hmatch := Rule.matchStart?_of_pattern hpattern text
    simp only [firstMatch?, List.findSome?_cons]
    rw [hmatch]
    cases r.matchStart? text with
    | some matched => exact .inr ⟨matched, 0, r, r', rfl, rfl, hpattern.symm, rfl, rfl⟩
    | none =>
      rcases ih hrest.symm with hnone | ⟨matched, place, s, s', hs, hs', hsame, hfirst, hfirst'⟩
      · exact .inl hnone
      · exact .inr ⟨matched, place + 1, s, s', hs, hs', hsame, hfirst, hfirst'⟩

/-- Two scans halt alike: for the same reason, and at an empty match of the same pattern. -/
inductive HaltsAlike : Halt → Halt → Prop
  | finished : HaltsAlike .finished .finished
  | noMatch : HaltsAlike .noMatch .noMatch
  | emptyMatch {r r' : Rule} : r.pattern = r'.pattern →
      HaltsAlike (.emptyMatch r) (.emptyMatch r')

/-- Two courses are alike: they find the same matches, told with the rules of each, and halt alike
    at the same place. -/
structure Alike (rules rules' : List Rule) (c c' : Course) : Prop where
  found : ∃ ms : List Match, ms.map (Match.token? rules) = c.found.map some ∧
    ms.map (Match.token? rules') = c'.found.map some
  halt : HaltsAlike c.halt c'.halt
  offset : c.offset = c'.offset
  rest : c.rest = c'.rest

/-- **Run.** With the same patterns, two scans find the same matches and halt alike. -/
theorem courseFrom_alike (h : rules.map (·.pattern) = rules'.map (·.pattern)) (offset : Nat)
    (text : List Char) :
    Alike rules rules' (courseFrom rules offset text) (courseFrom rules' offset text) := by
  fun_induction courseFrom rules offset text with
  | case1 offset =>
    rw [courseFrom, if_pos rfl]
    exact ⟨⟨[], rfl, rfl⟩, .finished, rfl, rfl⟩
  | case2 offset text hne hnone =>
    rcases firstMatch?_of_patterns h text with ⟨-, hnone'⟩ | ⟨_, _, _, _, -, -, -, hsome, -⟩
    · rw [courseFrom, if_neg hne, hnone']
      exact ⟨⟨[], rfl, rfl⟩, .noMatch, rfl, rfl⟩
    · rw [hnone] at hsome
      cases hsome
  | case3 offset text hne r hsome =>
    rcases firstMatch?_of_patterns h text with ⟨hnone, -⟩ | ⟨matched, _, s, r', -, -, hpattern,
      hfirst, hfirst'⟩
    · rw [hsome] at hnone
      cases hnone
    · obtain ⟨rfl, rfl⟩ := Prod.mk.inj (Option.some.inj (hsome.symm.trans hfirst))
      rw [courseFrom, if_neg hne, hfirst']
      exact ⟨⟨[], rfl, rfl⟩, .emptyMatch hpattern, rfl, rfl⟩
  | case4 offset text hne matched r hsome hmatched course ih =>
    rcases firstMatch?_of_patterns h text with ⟨hnone, -⟩ | ⟨_, place, s, r', hr, hr', -, hfirst,
      hfirst'⟩
    · rw [hsome] at hnone
      cases hnone
    · obtain ⟨rfl, rfl⟩ := Prod.mk.inj (Option.some.inj (hsome.symm.trans hfirst))
      obtain ⟨⟨ms, hfound, hfound'⟩, hhalt, hoffset, hrest⟩ := ih
      rw [courseFrom.eq_def rules' offset text, if_neg hne, hfirst']
      simp only [if_neg hmatched]
      refine ⟨⟨⟨String.ofList matched, place, offset⟩ :: ms, ?_, ?_⟩, hhalt, hoffset, hrest⟩
      · rw [List.map_cons, hfound, Match.token?, hr]
        rfl
      · rw [List.map_cons, hfound', Match.token?, hr']
        rfl

/-- Scans that are alike both keep what they keep, or stop with the same error. -/
theorem Alike.tokens {c c' : Course} (h : Alike rules rules' c c') (ix : LineIndex) (size : Nat) :
    (c.tokens ix size = .ok c.kept ∧ c'.tokens ix size = .ok c'.kept) ∨
    ∃ e, c.tokens ix size = .error e ∧ c'.tokens ix size = .error e := by
  obtain ⟨-, hhalt, hoffset, hrest⟩ := h
  have hwindow : c.window size = c'.window size := by rw [Course.window, Course.window, hrest]
  unfold Course.tokens
  rw [hwindow, hoffset]
  generalize c.halt = halt at hhalt
  generalize c'.halt = halt' at hhalt
  cases hhalt with
  | finished => exact .inl ⟨rfl, rfl⟩
  | noMatch => exact .inr ⟨_, rfl, rfl⟩
  | emptyMatch hpattern => exact .inr ⟨_, rfl, by rw [hpattern]⟩

/-! ### Sets with the same patterns -/

/-- Two rule sets have the same patterns: their keys are the same, and the orders under each key
    have the same patterns, one by one. -/
structure SamePatterns (set set' : RuleSet) : Prop where
  keys : set.keys = set'.keys
  patterns : ∀ key, ((set.order? key).getD []).map (·.pattern) =
    ((set'.order? key).getD []).map (·.pattern)

/-- The walks have the same patterns. -/
theorem SamePatterns.walk (h : set.SamePatterns set') :
    set.rules.map (·.pattern) = set'.rules.map (·.pattern) := by
  rw [rules_eq_flatMap_keys, rules_eq_flatMap_keys, List.map_flatMap, List.map_flatMap, h.keys]
  simp only [h.patterns]

/-! ### Muted rules -/

end RuleSet

/-- The rule; it does not capture if it is one of those to mute. -/
def Rule.mute (p : Rule → Bool) (r : Rule) : Rule :=
  if p r then { r with captures := false } else r

@[simp] theorem Rule.mute_pattern (p : Rule → Bool) (r : Rule) :
    (r.mute p).pattern = r.pattern := by
  unfold mute
  split <;> rfl

@[simp] theorem Rule.mute_captures (p : Rule → Bool) (r : Rule) :
    (r.mute p).captures = (r.captures && !p r) := by
  unfold mute
  cases p r <;> simp

theorem Rule.mute_of_not {p : Rule → Bool} {r : Rule} (h : p r = false) : r.mute p = r := by
  simp [mute, h]

namespace RuleSet

/-- The rule set in which the rules to mute do not capture. -/
def mute (set : RuleSet) (p : Rule → Bool) : RuleSet where
  orders := set.orders.map fun o => (o.1, o.2.map (Rule.mute p))
  ascending := by simpa only [Orders.Ascending, List.pairwise_map] using set.ascending
  cursor := set.cursor
  floor := set.floor

theorem rules_mute (set : RuleSet) (p : Rule → Bool) :
    (set.mute p).rules = set.rules.map (Rule.mute p) := by
  rw [rules, rules, mute, List.flatMap_map, List.map_flatMap]

/-- The scans of a rule set and of the muted one are alike. -/
theorem alike_mute (set : RuleSet) (p : Rule → Bool) (text : List Char) :
    Alike set.rules (set.mute p).rules (set.course text) ((set.mute p).course text) := by
  have hpatterns : set.rules.map (·.pattern) = (set.mute p).rules.map (·.pattern) := by
    rw [rules_mute, List.map_map]
    exact List.map_congr_left fun r _ => (r.mute_pattern p).symm
  exact courseFrom_alike hpatterns 0 text

/-- A muted rule set finds the same matches, each of the muted rule. -/
theorem found_mute (set : RuleSet) (p : Rule → Bool) (text : List Char) :
    ((set.mute p).course text).found =
      (set.course text).found.map fun t => { t with rule := t.rule.mute p } := by
  obtain ⟨ms, hfound, hfound'⟩ := (set.alike_mute p text).found
  have hsome : ((set.mute p).course text).found.map some =
      ((set.course text).found.map some).map
        (Option.map fun t => { t with rule := t.rule.mute p }) := by
    rw [← hfound, ← hfound', List.map_map, rules_mute]
    refine List.map_congr_left fun m _ => ?_
    simp [Match.token?, Option.map_map, Function.comp_def]
  refine (List.map_inj_right fun _ _ => Option.some.inj).1 ?_
  rw [hsome, List.map_map, List.map_map]
  rfl

/-- **Muting.** A muted rule set keeps the same matches but those of muted rules. -/
theorem kept_mute (set : RuleSet) (p : Rule → Bool) (text : List Char) :
    ((set.mute p).course text).kept = (set.course text).kept.filter fun t => !p t.rule := by
  rw [Course.kept, Course.kept, set.found_mute, List.filter_map, List.filter_filter]
  have hcaptures : ∀ t ∈ (set.course text).found,
      ((fun t : Token => t.rule.captures) ∘ fun t => { t with rule := t.rule.mute p }) t =
        (!p t.rule && t.rule.captures) := by
    intro t _
    simp [Bool.and_comm]
  rw [List.filter_congr hcaptures]
  -- What is kept is of rules that are not muted.
  refine (List.map_congr_left fun t ht => ?_).trans (List.map_id _)
  have hkept := (List.mem_filter.1 ht).2
  have hp : p t.rule = false := by simpa using (Bool.and_eq_true_iff.1 hkept).1
  rw [Rule.mute_of_not hp]
  rfl

/-- Muting takes tokens away, and changes no error. -/
theorem scan_mute (set : RuleSet) (p : Rule → Bool) (text file : String) (size : Nat) :
    (set.mute p).scan text file size =
      (set.scan text file size).map (List.filter fun t => !p t.rule) := by
  unfold scan
  rcases (set.alike_mute p text.toList).tokens (LineIndex.ofText file text.toList) size with
    ⟨hok, hok'⟩ | ⟨e, he, he'⟩
  · rw [hok, hok', kept_mute]
    rfl
  · rw [he, he']
    rfl

/-- **Patterns alone decide what is matched.** Two rule sets with the same patterns both succeed or
    both fail with the same error. If they succeed, there is one sequence of matches, and each keeps
    of it the matches of which its own rule captures. Rules that are made not to capture only have
    their tokens taken away. -/
theorem scan_of_samePatterns {set set' : RuleSet} (h : set.SamePatterns set')
    (text file : String) (size : Nat) :
    ((∃ ms : List Match,
        ms.map (Match.token? set.rules) = (set.course text.toList).found.map some ∧
        ms.map (Match.token? set'.rules) = (set'.course text.toList).found.map some ∧
        set.scan text file size = .ok (Match.kept set.rules ms) ∧
        set'.scan text file size = .ok (Match.kept set'.rules ms)) ∨
      ∃ e, set.scan text file size = .error e ∧ set'.scan text file size = .error e) ∧
    ∀ p : Rule → Bool, (set.mute p).scan text file size =
      (set.scan text file size).map (List.filter fun t => !p t.rule) := by
  have halike : Alike set.rules set'.rules (set.course text.toList) (set'.course text.toList) :=
    courseFrom_alike h.walk 0 text.toList
  refine ⟨?_, fun p => set.scan_mute p text file size⟩
  rcases halike.tokens (LineIndex.ofText file text.toList) size with ⟨hok, hok'⟩ | herror
  · obtain ⟨ms, hfound, hfound'⟩ := halike.found
    rw [← Match.kept_eq hfound] at hok
    rw [← Match.kept_eq hfound'] at hok'
    exact .inl ⟨ms, hfound, hfound', hok, hok'⟩
  · exact .inr herror

/-- Where one set keeps a match and names it and the other does not, the matches are the same. -/
theorem scan_of_samePatterns_named : ∃ a a' : Rule, Rule.ofPattern "a" = .ok a ∧
    Rule.ofPattern "a" .last false (some "letter") = .ok a' ∧
    (new.insertHere a).SamePatterns (new.insertHere a') ∧
    (new.insertHere a).scan "aa" = .ok [⟨"a", a, 0⟩, ⟨"a", a, 1⟩] ∧
    (new.insertHere a').scan "aa" = .ok [] ∧
    ∃ e, (new.insertHere a).scan "ab" = .error e ∧ (new.insertHere a').scan "ab" = .error e := by
  have hcompiles : (Regex.compile "a").isOk = true := by decide
  obtain ⟨a, ha⟩ := Rule.exists_ofPattern hcompiles .natural true none
  obtain ⟨a', ha'⟩ := Rule.exists_ofPattern hcompiles .last false (some "letter")
  have heval : ((Rule.ofPattern "a").toOption.bind fun a =>
      (Rule.ofPattern "a" .last false (some "letter")).toOption.map fun a' =>
        decide (a.pattern = a'.pattern ∧ a.captures = true ∧ a'.captures = false ∧
          (new.insertHere a).course "aa".toList =
            ⟨[⟨"a", a, 0⟩, ⟨"a", a, 1⟩], .finished, 2, []⟩ ∧
          (new.insertHere a').course "aa".toList =
            ⟨[⟨"a", a', 0⟩, ⟨"a", a', 1⟩], .finished, 2, []⟩ ∧
          (new.insertHere a).course "ab".toList = ⟨[⟨"a", a, 0⟩], .noMatch, 1, ['b']⟩)) =
      some true := by decide +kernel
  rw [ha, ha'] at heval
  obtain ⟨hpattern, hkept, hdropped, haa, haa', hab⟩ := of_decide_eq_true (Option.some.inj heval)
  have hsame : (new.insertHere a).SamePatterns (new.insertHere a') := by
    refine ⟨rfl, fun key => ?_⟩
    by_cases hkey : key = OrderKey.zero
    · subst hkey
      exact congrArg (fun pattern => [pattern]) hpattern
    · have hnone : ∀ r, (new.insertHere r).order? key = none := fun r =>
        by simp [order?, insertHere, insertAt, new, start, Orders.atKey, hkey]
      rw [hnone, hnone]
  have hscan : (new.insertHere a).scan "aa" = .ok [⟨"a", a, 0⟩, ⟨"a", a, 1⟩] := by
    unfold scan
    rw [haa]
    simp [Course.tokens, Course.kept, hkept]
  have hscan' : (new.insertHere a').scan "aa" = .ok [] := by
    unfold scan
    rw [haa']
    simp [Course.tokens, Course.kept, hdropped]
  refine ⟨a, a', ha, ha', hsame, hscan, hscan', ?_⟩
  rcases (scan_of_samePatterns hsame "ab" "<input>" Course.windowSize).1 with
    ⟨_, -, -, hok, -⟩ | herror
  · unfold scan at hok
    rw [hab] at hok
    cases hok
  · exact herror

end RuleSet
end OrderedLexer
