import OrderedLexer.Proofs.Json.Recognition

namespace OrderedLexer.Json

open Reader

/-!
# Words, strings and numbers that are passed over

The value of an unknown field may be any JSON value. Its strings need not pair their surrogates, and
its numbers may be of any size.

* `AnyString`, `AnyNumber`, `AnyScalar` — the ways to write them;
* `skipString_written`, `reads_skipString` — strings are passed over;
* `skipNumber_written`, `reads_skipNumber` — so are numbers.
-/

/-! ### The ways to write them -/

/-- The ways to write a character inside any string. Surrogates need not be paired. -/
inductive AnyChar : List Char → Prop
  | plain {c : Char} : c ≠ '"' → c ≠ '\\' → 0x20 ≤ c.toNat → AnyChar [c]
  | short {e c : Char} : shortEscape? e = some c → AnyChar ['\\', e]
  | code {digits : List Char} {n : Nat} : hexValue? digits = some n →
      AnyChar ('\\' :: 'u' :: digits)

/-- The ways to write characters one after the other. -/
inductive AnyChars : List Char → Prop
  | nil : AnyChars []
  | cons {text texts : List Char} : AnyChar text → AnyChars texts → AnyChars (text ++ texts)

/-- The ways to write any string. -/
inductive AnyString : List Char → Prop
  | mk {body : List Char} : AnyChars body → AnyString ('"' :: body ++ ['"'])

/-- One digit or more. -/
def Digits (ds : List Char) : Prop := ds ≠ [] ∧ ∀ d ∈ ds, d.isDigit = true

/-- The ways to write the fraction of a number. -/
inductive FractionText : List Char → Prop
  | none : FractionText []
  | some {ds : List Char} : Digits ds → FractionText ('.' :: ds)

/-- The ways to write the exponent of a number. -/
inductive ExponentText : List Char → Prop
  | none : ExponentText []
  | some {e : Char} {sign ds : List Char} : e = 'e' ∨ e = 'E' → sign ∈ [[], ['+'], ['-']] →
      Digits ds → ExponentText (e :: sign ++ ds)

/-- The ways to write any number. -/
inductive AnyNumber : List Char → Prop
  | mk {sign ds fraction exponent : List Char} : sign ∈ [[], ['-']] → Digits ds →
      (ds.head? = some '0' → ds = ['0']) → FractionText fraction → ExponentText exponent →
      AnyNumber (sign ++ ds ++ fraction ++ exponent)

/-- The ways to write a value that is neither a list nor an object. -/
inductive AnyScalar : List Char → Prop
  | word {w : String} : w ∈ ["null", "true", "false"] → AnyScalar w.toList
  | string {text : List Char} : AnyString text → AnyScalar text
  | number {text : List Char} : AnyNumber text → AnyScalar text

variable {text rest : List Char} {c : Char} {u : Unit} {fuel : Nat}

/-! ### Strings -/

/-- What is passed over of a string, up to the quote behind it, is written there. -/
theorem skipString_written (h : Reads (skipString fuel) text u rest) :
    ∃ body, AnyChars body ∧ text = body ++ '"' :: rest := by
  induction fuel generalizing text with
  | zero => exact absurd h (not_reads_throw _)
  | succ fuel ih =>
    simp only [skipString, reads_bind_iff, reads_take_iff] at h
    obtain ⟨c, tail, rfl, h⟩ := h
    -- Whichever way the first character is written, those behind it are passed over alike.
    have hnext : ∀ {front tail}, AnyChar front → Reads (skipString fuel) tail u rest →
        ∃ body, AnyChars body ∧ front ++ tail = body ++ '"' :: rest := by
      intro front tail hfront hread
      obtain ⟨body, hbody, rfl⟩ := ih hread
      exact ⟨front ++ body, .cons hfront hbody, by simp⟩
    split at h
    · next hquote =>
      obtain ⟨-, rfl⟩ := reads_pure_iff.1 h
      exact ⟨[], .nil, by rw [hquote]; rfl⟩
    · next hquote =>
      split at h
      · next hslash =>
        subst hslash
        simp only [reads_bind_iff, reads_take_iff] at h
        obtain ⟨e, tail, rfl, h⟩ := h
        split at h
        · next hu =>
          subst hu
          obtain ⟨n, _, hhex, hread⟩ := reads_bind_iff.1 h
          obtain ⟨digits, rfl, hdigits⟩ := hexEscape_text hhex
          exact hnext (.code hdigits) hread
        · obtain ⟨hshort, hread⟩ := reads_guard_iff.1 h
          obtain ⟨c, hc⟩ : ∃ c, shortEscape? e = some c := by
            simpa [Option.isNone_iff_eq_none, Option.ne_none_iff_exists'] using hshort
          exact hnext (.short hc) hread
      · next hslash =>
        split at h
        · exact absurd h (not_reads_throw _)
        · exact hnext (.plain hquote hslash (by omega)) h

/-- Any string is passed over behind its first quote. -/
theorem reads_skipString {body : List Char} (h : AnyChars body) (hfuel : body.length < fuel)
    (rest : List Char) : Reads (skipString fuel) (body ++ '"' :: rest) () rest := by
  -- Induction along the characters; each takes one unit of fuel and at least one letter.
  induction h generalizing fuel with
  | nil =>
    cases fuel with
    | zero => omega
    | succ fuel =>
      rw [skipString]
      exact (reads_take _ '"' rest).bind (reads_pure () rest)
  | @cons text texts hc _ ih =>
    rw [List.length_append] at hfuel
    cases fuel with
    | zero => omega
    | succ fuel =>
      rw [skipString, List.append_assoc]
      cases hc with
      | @plain c hquote hslash hcontrol =>
        refine (reads_take _ c _).bind ?_
        rw [if_neg hquote, if_neg hslash, if_neg (by omega)]
        exact ih (by simp at hfuel; omega)
      | @short e c hshort =>
        refine (reads_take _ '\\' _).bind ?_
        refine (reads_take _ e _).bind ?_
        have hu : e ≠ 'u' := by
          rintro rfl
          cases hshort
        rw [if_neg hu, if_neg (by simp [hshort])]
        exact ih (by simp at hfuel; omega)
      | @code digits n hdigits =>
        refine (reads_take _ '\\' _).bind ?_
        refine (reads_take _ 'u' _).bind ?_
        refine (reads_hexEscape hdigits _).bind ?_
        exact ih (by simp at hfuel; omega)

/-! ### Numbers -/

theorem Digits.exists_eq_cons {ds : List Char} (h : Digits ds) :
    ∃ d ds', ds = d :: ds' ∧ d.isDigit = true := by
  obtain ⟨d, ds', rfl⟩ := List.exists_cons_of_ne_nil h.1
  exact ⟨d, ds', rfl, h.2 d List.mem_cons_self⟩

/-- Digits that are taken, and checked to be some, stand there. -/
theorem digits_written {ds : List Char} (h : Reads takeDigits text ds rest)
    (hne : ¬ ds.isEmpty = true) : Digits ds ∧ text = ds ++ rest := by
  obtain ⟨rfl, hds, -⟩ := takeDigits_text h
  exact ⟨⟨fun h => hne (List.isEmpty_iff.2 h), hds⟩, rfl⟩

/-- What is passed over as an exponent is written as one. -/
theorem skipExponent_written (hc : c = 'e' ∨ c = 'E')
    (h : Reads skipExponent (c :: text) u rest) :
    ∃ exponent, ExponentText exponent ∧ c :: text = exponent ++ rest := by
  simp only [skipExponent, reads_bind_iff, reads_advance_iff, reads_peek_iff] at h
  obtain ⟨_, _, htail, _, tail, ⟨rfl, rfl⟩, h⟩ := h
  obtain rfl : tail = text := htail
  split at h
  · next hsign =>
    simp only [reads_bind_iff, reads_advance_iff, reads_ite_iff, not_reads_throw, and_false,
      false_or, reads_pure_iff] at h
    obtain ⟨_, _, rfl, ds, _, hread, hne, -, rfl⟩ := h
    obtain ⟨hds, htail⟩ := digits_written hread hne
    cases tail with
    | nil => simp at hsign
    | cons sign tail =>
      obtain rfl : tail = ds ++ _ := htail
      refine ⟨c :: [sign] ++ ds, .some hc ?_ hds, by simp⟩
      simpa using hsign
  · simp only [reads_bind_iff, reads_ite_iff, not_reads_throw, and_false, false_or,
      reads_pure_iff] at h
    obtain ⟨ds, _, hread, hne, -, rfl⟩ := h
    obtain ⟨hds, rfl⟩ := digits_written hread hne
    exact ⟨c :: [] ++ ds, .some hc (by simp) hds, by simp⟩

/-- What is done behind the digits of a number and its fraction. -/
def skipMaybeExponent : Reader Unit := do
  match ← peek with
  | some 'e' | some 'E' => skipExponent
  | _ => return ()

/-- What is done behind the digits of a number. -/
def skipFraction : Reader Unit := do
  if (← peek) = some '.' then
    advance
    if (← takeDigits).isEmpty then throw .invalidNumber
  skipMaybeExponent

theorem skipMaybeExponent_written (h : Reads skipMaybeExponent text u rest) :
    ∃ exponent, ExponentText exponent ∧ text = exponent ++ rest := by
  simp only [skipMaybeExponent, reads_bind_iff, reads_peek_iff] at h
  obtain ⟨_, _, ⟨rfl, rfl⟩, h⟩ := h
  split at h
  · next he =>
    obtain ⟨tail, rfl⟩ := List.head?_eq_some_iff.1 he
    exact skipExponent_written (.inl rfl) h
  · next he =>
    obtain ⟨tail, rfl⟩ := List.head?_eq_some_iff.1 he
    exact skipExponent_written (.inr rfl) h
  · obtain ⟨-, rfl⟩ := reads_pure_iff.1 h
    exact ⟨[], .none, rfl⟩

/-- What is passed over of a number behind its digits is a fraction and an exponent. -/
theorem skipFraction_written (h : Reads skipFraction text u rest) :
    ∃ fraction exponent, FractionText fraction ∧ ExponentText exponent ∧
      text = fraction ++ exponent ++ rest := by
  obtain ⟨_, _, hpeek, hread⟩ := reads_bind_iff.1 h
  obtain ⟨rfl, rfl⟩ := reads_peek_iff.1 hpeek
  dsimp only at hread
  split at hread
  · next hpoint =>
    obtain ⟨tail, rfl⟩ := List.head?_eq_some_iff.1 hpoint
    obtain ⟨_, tail', hadvance, hfraction⟩ := reads_bind_iff.1 hread
    obtain rfl : tail' = tail := reads_advance_iff.1 hadvance
    obtain ⟨ds, _, hdigits, hchecked⟩ := reads_bind_iff.1 hfraction
    obtain ⟨hne, hbehind⟩ := reads_guard_iff.1 hchecked
    obtain ⟨hds, rfl⟩ := digits_written hdigits hne
    obtain ⟨exponent, hexp, rfl⟩ := skipMaybeExponent_written hbehind
    exact ⟨'.' :: ds, exponent, .some hds, hexp, by simp⟩
  · obtain ⟨exponent, hexp, htext⟩ := skipMaybeExponent_written hread
    exact ⟨[], exponent, .none, hexp, htext⟩

/-- What is passed over as a number behind its sign is written as one. -/
theorem skipNumber_written (sign : List Char) (hsign : sign ∈ [[], ['-']])
    (h : Reads skipNumber text u rest) :
    ∃ number, AnyNumber number ∧ sign ++ text = number ++ rest := by
  simp only [skipNumber, reads_bind_iff, reads_take_iff, reads_guard_iff] at h
  obtain ⟨first, tail, rfl, hfirst, h⟩ := h
  rw [Bool.not_eq_true, Bool.not_eq_false'] at hfirst
  split at h
  · next hzero =>
    obtain ⟨_, _, hpeek, hchecked⟩ := reads_bind_iff.1 h
    obtain ⟨rfl, rfl⟩ := reads_peek_iff.1 hpeek
    obtain ⟨-, hread⟩ := reads_guard_iff.1 hchecked
    obtain ⟨fraction, exponent, hfraction, hexponent, rfl⟩ := skipFraction_written hread
    have hds : Digits [first] := ⟨List.cons_ne_nil _ _, by simpa using hfirst⟩
    refine ⟨_, .mk hsign hds (fun _ => by rw [hzero]) hfraction hexponent, ?_⟩
    simp
  · next hzero =>
    obtain ⟨ds, _, hdigits, hread⟩ := reads_bind_iff.1 h
    obtain ⟨fraction, exponent, hfraction, hexponent, rfl⟩ := skipFraction_written hread
    obtain ⟨rfl, hds, -⟩ := takeDigits_text hdigits
    have hds : Digits (first :: ds) :=
      ⟨List.cons_ne_nil _ _, List.forall_mem_cons.2 ⟨hfirst, hds⟩⟩
    refine ⟨_, .mk hsign hds (fun h => absurd (Option.some.inj h) hzero) hfraction hexponent, ?_⟩
    simp

/-- Neither a digit nor a point follows where an exponent may stand. -/
theorem ExponentText.head? {exponent : List Char} (h : ExponentText exponent)
    (hrest : Delimited rest) :
    ∀ c ∈ (exponent ++ rest).head?, c.isDigit = false ∧ c ≠ '.' := by
  intro c hc
  cases h with
  | none => exact ⟨(hrest.head? c hc).1, (hrest.head? c hc).2.1⟩
  | some he _ _ =>
    obtain rfl := Option.some.inj hc
    rcases he with rfl | rfl <;> decide

/-- An exponent is passed over. -/
theorem reads_skipExponent {e : Char} {sign ds : List Char} (hsign : sign ∈ [[], ['+'], ['-']])
    (hds : Digits ds) (hrest : ∀ c ∈ rest.head?, c.isDigit = false) :
    Reads skipExponent (e :: sign ++ ds ++ rest) () rest := by
  have hdigits : Reads (do if (← takeDigits).isEmpty then throw .invalidNumber) (ds ++ rest) ()
      rest := by
    refine (reads_takeDigits hds.2 hrest).bind ?_
    rw [if_neg (by simpa using hds.1)]
    exact reads_pure () rest
  obtain ⟨d, ds', rfl, hd⟩ := hds.exists_eq_cons
  unfold skipExponent
  refine (reads_advance e _).bind ?_
  refine (reads_peek _).bind ?_
  simp only [List.mem_cons, List.not_mem_nil, or_false] at hsign
  rcases hsign with rfl | rfl | rfl
  · have hne : ∀ c : Char, c.isDigit = false → d ≠ c := by
      rintro c hc rfl
      rw [hc] at hd
      contradiction
    rw [if_neg (by simp [hne '+' rfl, hne '-' rfl])]
    exact hdigits
  · exact (reads_advance '+' _).bind hdigits
  · exact (reads_advance '-' _).bind hdigits

theorem reads_skipMaybeExponent {exponent : List Char} (h : ExponentText exponent)
    (hrest : Delimited rest) : Reads skipMaybeExponent (exponent ++ rest) () rest := by
  refine (reads_peek _).bind ?_
  cases h with
  | none =>
    split
    · next he => exact absurd rfl (hrest.head? 'e' he).2.2.1
    · next he => exact absurd rfl (hrest.head? 'E' he).2.2.2
    · exact reads_pure () rest
  | some he hsign hds =>
    have hdigit : ∀ c ∈ rest.head?, c.isDigit = false := fun c hc => (hrest.head? c hc).1
    rcases he with rfl | rfl
    · exact reads_skipExponent hsign hds hdigit
    · exact reads_skipExponent hsign hds hdigit

/-- A fraction and an exponent are passed over. -/
theorem reads_skipFraction {fraction exponent : List Char} (hfraction : FractionText fraction)
    (hexponent : ExponentText exponent) (hrest : Delimited rest) :
    Reads skipFraction (fraction ++ exponent ++ rest) () rest := by
  have hbehind := reads_skipMaybeExponent hexponent hrest
  have hhead := hexponent.head? hrest
  refine (reads_peek _).bind ?_
  cases hfraction with
  | none =>
    have hpoint : ¬ (exponent ++ rest).head? = some '.' := fun h => (hhead '.' h).2 rfl
    exact (if_neg hpoint).symm ▸ hbehind
  | @some ds hds =>
    have hpoint : ('.' :: ds ++ exponent ++ rest).head? = some '.' := rfl
    dsimp only
    rw [if_pos hpoint]
    refine (reads_advance '.' (ds ++ exponent ++ rest)).bind ?_
    rw [List.append_assoc]
    refine (reads_takeDigits hds.2 fun c hc => (hhead c hc).1).bind ?_
    rw [if_neg (by simpa using hds.1)]
    exact hbehind

/-- A number is passed over behind its sign. -/
theorem reads_skipNumber {ds fraction exponent : List Char} (hds : Digits ds)
    (hzero : ds.head? = some '0' → ds = ['0']) (hfraction : FractionText fraction)
    (hexponent : ExponentText exponent) (hrest : Delimited rest) :
    Reads skipNumber (ds ++ fraction ++ exponent ++ rest) () rest := by
  have hbehind := reads_skipFraction hfraction hexponent hrest
  have hhead : ∀ c ∈ (fraction ++ exponent ++ rest).head?, c.isDigit = false := by
    intro c hc
    cases hfraction with
    | none => exact (hexponent.head? hrest c hc).1
    | some _ =>
      obtain rfl := Option.some.inj hc
      rfl
  obtain ⟨d, ds', rfl, hd⟩ := hds.exists_eq_cons
  have hds' : ∀ c ∈ ds', c.isDigit = true := fun c hc => hds.2 c (List.mem_cons_of_mem _ hc)
  rw [List.append_assoc, List.append_assoc, ← List.append_assoc fraction]
  unfold skipNumber
  refine (reads_take _ d _).bind ?_
  rw [if_neg (by simp [hd])]
  by_cases hfirst : d = '0'
  · subst hfirst
    obtain rfl : ds' = [] := by simpa using hzero rfl
    rw [if_pos rfl]
    refine (reads_peek _).bind ?_
    have hnext : ¬ (fraction ++ exponent ++ rest).head?.any Char.isDigit = true := by
      cases hc : (fraction ++ exponent ++ rest).head? with
      | none => simp
      | some c => simp [hhead c hc]
    exact (if_neg hnext).symm ▸ hbehind
  · rw [if_neg hfirst]
    refine (reads_takeDigits hds' hhead).bind ?_
    exact hbehind

/-! ### Words, strings and numbers -/

/-- A scalar starts with neither a blank nor a bracket that closes. -/
theorem AnyScalar.head (h : AnyScalar text) :
    ∃ c cs, text = c :: cs ∧ isBlank c = false ∧ c ≠ ']' := by
  cases h with
  | word hw =>
    simp only [List.mem_cons, List.not_mem_nil, or_false] at hw
    rcases hw with rfl | rfl | rfl <;> exact ⟨_, _, rfl, by decide, by decide⟩
  | string hstring =>
    cases hstring
    exact ⟨_, _, rfl, by decide, by decide⟩
  | number hnumber =>
    cases hnumber with
    | @mk sign ds _ _ hsign hds =>
      obtain ⟨d, ds', rfl, hd⟩ := hds.exists_eq_cons
      obtain ⟨c, cs, hcs, hc⟩ : ∃ c cs, sign ++ d :: ds' = c :: cs ∧
          (c = '-' ∨ c.isDigit = true) := by
        simp only [List.mem_cons, List.not_mem_nil, or_false] at hsign
        rcases hsign with rfl | rfl
        · exact ⟨d, ds', rfl, .inr hd⟩
        · exact ⟨'-', d :: ds', rfl, .inl rfl⟩
      obtain ⟨hblank, hclose, -⟩ := first_of_integer hc
      exact ⟨c, _, by rw [hcs, List.append_assoc, List.cons_append], hblank, hclose⟩

end OrderedLexer.Json
