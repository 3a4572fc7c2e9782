import OrderedLexer.Proofs.Json.Steps
import Mathlib.Data.List.Induction
import Mathlib.Data.List.TakeDrop

namespace OrderedLexer.Json.Reader

/-!
# Integers in JSON

An integer has no end of its own: it is read up to the first character that cannot belong to it.
Inside a text, a blank, a comma or a closing bracket follows a value.

* `Delimited` — what may follow a value;
* `accumulate_eq` — digits are taken together as long as their number fits 64 bits;
* `reads_number` — the digits of a number are read back, after a minus too;
* `reads_signedNumber` — so is an integer of 64 bits;
* `signedNumber_text` — an integer that is read stands there as it is printed.
-/

variable {rest ws : List Char}

/-- The text ahead is at its end, or starts with a blank, a comma or a closing bracket. -/
def Delimited (rest : List Char) : Prop :=
  ∀ c ∈ rest.head?, isBlank c = true ∨ c = ',' ∨ c = ']' ∨ c = '\x7d'

theorem delimited_cons {c : Char} (h : isBlank c = true ∨ c = ',' ∨ c = ']' ∨ c = '\x7d') :
    Delimited (c :: rest) := by
  intro d hd
  rwa [← Option.some.inj hd]

/-- Blanks delimit a value, and so does what delimits it behind them. -/
theorem Blanks.delimited (hws : Blanks ws) (h : Delimited rest) : Delimited (ws ++ rest) := by
  cases ws with
  | nil => exact h
  | cons c ws => exact delimited_cons (.inl (hws c List.mem_cons_self))

/-- A delimiter continues no number. -/
theorem Delimited.head? (h : Delimited rest) : ∀ c ∈ rest.head?,
    c.isDigit = false ∧ c ≠ '.' ∧ c ≠ 'e' ∧ c ≠ 'E' := by
  intro c hc
  have hcases := h c hc
  simp only [isBlank, Bool.or_eq_true, decide_eq_true_eq] at hcases
  rcases hcases with (((rfl | rfl) | rfl) | rfl) | rfl | rfl | rfl <;> decide

/-! ### Digits -/

/-- Digits are taken together as long as their number fits 64 bits. -/
theorem accumulate_eq {ds : List Char} (significand added : Nat)
    (hfit : Nat.ofDigitChars 10 ds significand < 0x10000000000000000) :
    accumulate significand added ds =
      (Nat.ofDigitChars 10 ds significand, added + ds.length, true) := by
  induction ds generalizing significand added with
  | nil => rw [Nat.ofDigitChars_nil]; rfl
  | cons d ds ih =>
    have hnext : 10 * significand + (d.toNat - '0'.toNat) = significand * 10 + (d.toNat - 48) := by
      rw [Nat.mul_comm]
      rfl
    rw [Nat.ofDigitChars_cons, hnext] at hfit ⊢
    -- The number only grows by further digits.
    have hle : significand * 10 + (d.toNat - 48) ≤
        Nat.ofDigitChars 10 ds (significand * 10 + (d.toNat - 48)) := by
      have hpos : 0 < 10 ^ ds.length := Nat.pow_pos (by decide)
      have := Nat.le_mul_of_pos_left (significand * 10 + (d.toNat - 48)) hpos
      rw [Nat.ofDigitChars_eq_ofDigitChars_zero]
      omega
    rw [accumulate, if_pos (by omega), ih _ _ hfit, List.length_cons]
    congr 2
    omega

/-- A number above zero is written without a leading zero. -/
theorem head?_toDigits_ne_zero {n : Nat} (h : 0 < n) : (Nat.toDigits 10 n).head? ≠ some '0' := by
  -- The last digit is split off; the first one stands in what is left.
  induction n using Nat.strongRecOn with
  | ind n ih =>
    by_cases hlt : n < 10
    · rw [Nat.toDigits_of_lt_base hlt]
      have : ∀ n < 10, 0 < n → [Nat.digitChar n].head? ≠ some '0' := by decide
      exact this n hlt h
    · have hhead := ih (n / 10) (by omega) (by omega)
      rw [Nat.toDigits_of_base_le (by decide) (by omega), List.head?_append]
      cases hd : (Nat.toDigits 10 (n / 10)).head? with
      | none => exact absurd (List.head?_eq_none_iff.1 hd) Nat.toDigits_ne_nil
      | some d =>
        rw [hd] at hhead
        exact hhead

theorem reads_takeDigits {ds : List Char} (hds : ∀ d ∈ ds, d.isDigit = true)
    (h : ∀ c ∈ rest.head?, c.isDigit = false) : Reads takeDigits (ds ++ rest) ds rest := by
  have hspan : (ds ++ rest).span Char.isDigit = (ds, rest) := by
    rw [List.span_eq_takeWhile_dropWhile, List.takeWhile_append_of_pos hds,
      List.dropWhile_append_of_pos hds]
    cases rest with
    | nil => simp
    | cons c rest =>
      have hc := h c rfl
      simp [hc]
  simp only [Reads, takeDigits, StateT.run_bind, StateT.run_get]
  show StateT.run (do set ((ds ++ rest).span Char.isDigit).2
                      return ((ds ++ rest).span Char.isDigit).1 : Reader _) _ = _
  rw [hspan]
  rfl

/-! ### Integers -/

/-- The digits of a number are read back. -/
theorem reads_number (negative : Bool) (n : Nat) (hpos : negative = true → 0 < n)
    (hfit : n < 0x8000000000000000) (h : Delimited rest) :
    Reads (number negative) (Nat.toDigits 10 n ++ rest)
      (.integer (if negative then -n else n)) rest := by
  obtain ⟨first, more, hds⟩ := List.exists_cons_of_ne_nil (Nat.toDigits_ne_nil (n := n) (b := 10))
  have hdigit : ∀ d ∈ first :: more, d.isDigit = true := by
    intro d hd
    rw [← hds] at hd
    exact Nat.isDigit_of_mem_toDigits (by decide) (by decide) hd
  have hmore : ∀ d ∈ more, d.isDigit = true := fun d hd => hdigit d (List.mem_cons_of_mem _ hd)
  have hvalue : Nat.ofDigitChars 10 (first :: more) 0 = n := by
    rw [← hds]
    exact Nat.ofDigitChars_ten_toDigits
  have hall : accumulate 0 0 (first :: more) = (n, more.length + 1, true) := by
    rw [accumulate_eq 0 0 (by omega), hvalue, List.length_cons, Nat.zero_add]
  -- A leading zero stands alone.
  have hzero : first = '0' → more = [] := by
    intro hfirst
    rcases Nat.eq_zero_or_pos n with hn | hn
    · rw [hn, Nat.toDigits_zero] at hds
      exact (List.cons.inj hds).2.symm
    · have hhead := head?_toDigits_ne_zero hn
      rw [hds, hfirst] at hhead
      exact absurd rfl hhead
  unfold number
  rw [hds, List.cons_append]
  refine (reads_take _ first _).bind ?_
  rw [if_neg (by simp [hdigit first List.mem_cons_self])]
  have hdigits : Reads (if first = '0' then pure [] else takeDigits) (more ++ rest) more rest := by
    by_cases hfirst : first = '0'
    · rw [if_pos hfirst, hzero hfirst]
      exact reads_pure [] rest
    · rw [if_neg hfirst]
      exact reads_takeDigits hmore fun c hc => (h.head? c hc).1
  refine hdigits.ite_bind ?_
  refine (reads_peek rest).bind ?_
  have hnext : rest.head?.any Char.isDigit = false := by
    cases hc : rest.head? with
    | none => rfl
    | some c => exact (h.head? c hc).1
  rw [if_neg (by simp [hnext]), hall]
  refine (reads_peek rest).bind ?_
  -- What follows is neither a fraction nor an exponent.
  split
  · next hc => exact absurd rfl (h.head? '.' hc).2.1
  · next hc => exact absurd rfl (h.head? 'e' hc).2.2.1
  · next hc => exact absurd rfl (h.head? 'E' hc).2.2.2
  · have hint : ¬ (negative = true ∧ (n = 0 ∨ 0x8000000000000000 < n)) := by
      rintro ⟨hneg, hcases⟩
      have := hpos hneg
      omega
    rw [if_neg (by simpa using hint)]
    exact reads_pure _ rest

/-- An integer starts with a minus or a digit. -/
theorem exists_toString_eq_cons (n : Int) :
    ∃ c cs, (toString n).toList = c :: cs ∧ (n < 0 ∧ c = '-' ∨ 0 ≤ n ∧ c.isDigit = true) := by
  rw [Int.toString_eq_repr, Int.repr_eq_if]
  by_cases hneg : 0 ≤ n
  · obtain ⟨c, cs, hds⟩ := List.exists_cons_of_ne_nil (Nat.toDigits_ne_nil (n := n.toNat) (b := 10))
    refine ⟨c, cs, ?_, .inr ⟨hneg, ?_⟩⟩
    · rw [if_pos hneg, Nat.toList_repr, hds]
    · exact Nat.isDigit_of_mem_toDigits (by decide) (by decide) (hds ▸ List.mem_cons_self)
  · refine ⟨'-', (-n).toNat.repr.toList, ?_, .inl ⟨by omega, rfl⟩⟩
    rw [if_neg hneg, String.toList_append]
    rfl

/-- The first character of an integer is no blank, closes no list and starts no word. -/
theorem first_of_integer {c : Char} (h : c = '-' ∨ c.isDigit = true) :
    isBlank c = false ∧ c ≠ ']' ∧ c ≠ 'n' := by
  rcases h with rfl | hdigit
  · decide
  · have hne : ∀ d : Char, d.isDigit = false → c ≠ d := by
      rintro d hd rfl
      rw [hd] at hdigit
      contradiction
    have hblank : isBlank c = false := by
      simp only [isBlank, hne ' ' rfl, hne '\n' rfl, hne '\t' rfl, hne '\r' rfl]
      rfl
    exact ⟨hblank, hne ']' rfl, hne 'n' rfl⟩

/-- An integer does not start as `null` does. -/
theorem head?_toString_ne (n : Int) : (toString n).toList.head? ≠ some 'n' := by
  obtain ⟨c, cs, hcs, hc⟩ := exists_toString_eq_cons n
  rw [hcs, List.head?_cons]
  intro heq
  exact (first_of_integer (hc.imp (·.2) (·.2))).2.2 (Option.some.inj heq)

/-- An integer of 64 bits is read back. -/
theorem reads_signedNumber {n : Int} (hlow : -0x8000000000000000 < n)
    (hhigh : n < 0x8000000000000000) (h : Delimited rest) :
    Reads signedNumber ((toString n).toList ++ rest) (.integer n) rest := by
  obtain ⟨c, cs, hcs, hc⟩ := exists_toString_eq_cons n
  unfold signedNumber
  refine (reads_peek _).bind ?_
  rw [hcs, List.cons_append, List.head?_cons]
  rw [Int.toString_eq_repr, Int.repr_eq_if] at hcs
  -- The sign is what `number` is told; behind it, the digits are those of the absolute value.
  rcases hc with ⟨hneg, rfl⟩ | ⟨hpos, hdigit⟩
  · rw [if_neg (by omega), String.toList_append, Nat.toList_repr] at hcs
    rw [if_pos rfl, ← (List.cons.inj hcs).2]
    refine (reads_advance '-' _).bind ?_
    have hnum := reads_number true (-n).toNat (by omega) (by omega) h
    simpa [Int.toNat_of_nonneg (show 0 ≤ -n by omega)] using hnum
  · rw [if_pos hpos, Nat.toList_repr] at hcs
    have hne : some c ≠ some '-' := by
      intro heq
      rw [Option.some.inj heq] at hdigit
      contradiction
    rw [if_neg hne, ← List.cons_append, ← hcs]
    have hnum := reads_number false n.toNat (by simp) (by omega) h
    simpa [Int.toNat_of_nonneg hpos] using hnum

/-! ### What was read -/

/-- Digits are taken as far as they go. -/
theorem takeDigits_text {text ds : List Char} (h : Reads takeDigits text ds rest) :
    text = ds ++ rest ∧ (∀ d ∈ ds, d.isDigit = true) ∧ ∀ c ∈ rest.head?, c.isDigit = false := by
  have hspan : text.span Char.isDigit = (ds, rest) := by
    simp only [takeDigits, reads_bind_iff, reads_get_iff, reads_set_iff, reads_pure_iff] at h
    obtain ⟨_, _, ⟨rfl, rfl⟩, _, _, rfl, rfl, rfl⟩ := h
    rfl
  rw [List.span_eq_takeWhile_dropWhile] at hspan
  obtain ⟨rfl, rfl⟩ := Prod.mk.inj hspan
  refine ⟨(List.takeWhile_append_dropWhile).symm, fun d hd => List.mem_takeWhile_imp hd, ?_⟩
  intro c hc
  have := List.head?_dropWhile_not Char.isDigit text
  rw [Option.mem_def.1 hc] at this
  simpa using this

/-- If all digits are taken together, they are those of the number. -/
theorem ofDigitChars_of_accumulate {ds : List Char} {significand added n added' : Nat}
    (h : accumulate significand added ds = (n, added', true)) :
    n = Nat.ofDigitChars 10 ds significand := by
  induction ds generalizing significand added with
  | nil =>
    rw [Nat.ofDigitChars_nil]
    exact (Prod.mk.inj h).1.symm
  | cons d ds ih =>
    unfold accumulate at h
    dsimp only at h
    split at h
    · rw [Nat.ofDigitChars_cons, Nat.mul_comm]
      exact ih h
    · cases (Prod.mk.inj (Prod.mk.inj h).2).2

/-- Digits without a leading zero are those of their number. -/
theorem toDigits_ofDigitChars {ds : List Char} (hne : ds ≠ [])
    (hdigits : ∀ d ∈ ds, d.isDigit = true) (hzero : ds.head? = some '0' → ds = ['0']) :
    Nat.toDigits 10 (Nat.ofDigitChars 10 ds 0) = ds := by
  -- The last digit is split off, as it is when the digits of a number are written.
  induction ds using List.reverseRecOn with
  | nil => exact absurd rfl hne
  | append_singleton front d ih =>
    have hd := Char.isDigit_iff_toNat.1 (hdigits d (by simp))
    have hlast : Nat.toDigits 10 (d.toNat - '0'.toNat) = [d] := by
      have h9 : '9'.toNat = 57 := rfl
      have h0 : '0'.toNat = 48 := rfl
      rw [Nat.toDigits_of_lt_base (by omega)]
      refine congrArg ([·]) (Char.toNat_inj.1 ?_)
      rw [Nat.toNat_digitChar_of_lt_ten (by omega)]
      omega
    rw [Nat.ofDigitChars_append, Nat.ofDigitChars_cons, Nat.ofDigitChars_nil]
    cases front with
    | nil =>
      rw [Nat.ofDigitChars_nil, Nat.mul_zero, Nat.zero_add]
      exact hlast
    | cons c front =>
      have hhead : c ≠ '0' := by
        rintro rfl
        have := congrArg List.length (hzero rfl)
        simp at this
      have hfront := ih (List.cons_ne_nil c front)
        (fun d hd => hdigits d (List.mem_append_left _ hd))
        (fun h => absurd (Option.some.inj h) hhead)
      have hpos : 0 < Nat.ofDigitChars 10 (c :: front) 0 := by
        refine Nat.pos_of_ne_zero fun hnil => ?_
        rw [hnil, Nat.toDigits_zero] at hfront
        exact hhead (List.cons.inj hfront).1.symm
      have h9 : '9'.toNat = 57 := rfl
      have h0 : '0'.toNat = 48 := rfl
      rw [← Nat.toDigits_append_toDigits (by decide) hpos (by omega), hfront, hlast]

/-- A number with a fraction or an exponent is no integer. -/
theorem not_reads_floating (negative : Bool) (significand : Nat) (e : Int) {text : List Char}
    {n : Int} : ¬ Reads (floating negative significand e) text (.integer n) rest := by
  unfold floating
  split
  · simp [reads_pure_iff]
  · exact not_reads_throw _

theorem not_reads_exponent (negative : Bool) (significand : Nat) (start : Int) {text : List Char}
    {n : Int} : ¬ Reads (exponent negative significand start) text (.integer n) rest := by
  simp [exponent, reads_bind_iff, reads_ite_iff, not_reads_throw, not_reads_floating,
    reads_pure_iff]

theorem not_reads_fraction (negative : Bool) (significand : Nat) (start : Int) {text : List Char}
    {n : Int} : ¬ Reads (fraction negative significand start) text (.integer n) rest := by
  intro h
  simp only [fraction, maybeExponent, reads_bind_iff] at h
  obtain ⟨_, _, -, ds, _, -, h⟩ := h
  split at h
  · obtain ⟨_, _, -, h⟩ := reads_bind_iff.1 h
    split at h
    · exact absurd h (not_reads_throw_bind _ _)
    · exact absurd h (not_reads_throw_bind _ _)
  · obtain ⟨_, _, -, h⟩ := reads_bind_iff.1 h
    split at h
    · exact absurd h (not_reads_exponent _ _ _)
    · exact absurd h (not_reads_exponent _ _ _)
    · exact absurd h (not_reads_floating _ _ _)

/-- The digits of an integer that is read are those of its absolute value. -/
theorem number_text {negative : Bool} {text : List Char} {n : Int}
    (h : Reads (number negative) text (.integer n) rest) :
    ∃ m : Nat, text = Nat.toDigits 10 m ++ rest ∧ (n = if negative then -(m : Int) else m) ∧
      (negative = true → 0 < m) := by
  simp only [number, reads_bind_iff, reads_take_iff, reads_guard_iff] at h
  obtain ⟨first, tail, rfl, hfirst, h⟩ := h
  obtain ⟨more, _, hmore, h⟩ := reads_ite_bind_iff.1 h
  simp only [reads_bind_iff, reads_guard_iff, reads_peek_iff] at h
  obtain ⟨_, _, ⟨rfl, rfl⟩, hzero, _, tail', ⟨rfl, rfl⟩, h⟩ := h
  -- What follows the digits is neither a fraction nor an exponent.
  split at h
  · exact absurd h (not_reads_fraction _ _ _)
  · exact absurd h (not_reads_exponent _ _ _)
  · exact absurd h (not_reads_exponent _ _ _)
  · split at h
    · exact absurd h (not_reads_floating _ _ _)
    · next hinteger =>
      obtain ⟨hn, rfl⟩ := reads_pure_iff.1 h
      simp only [Bool.or_eq_true, Bool.and_eq_true, Bool.not_eq_true', decide_eq_true_eq, not_or,
        not_and, Bool.not_eq_false] at hinteger
      have hvalue := ofDigitChars_of_accumulate
        (Prod.ext rfl (Prod.ext rfl hinteger.1) : accumulate 0 0 (first :: more) = (_, _, true))
      -- A zero in front stands alone; other digits go as far as they can.
      have hdigits : tail = more ++ tail' ∧ (∀ d ∈ more, d.isDigit = true) ∧
          (first = '0' → more = []) := by
        rcases reads_ite_iff.1 hmore with ⟨hfirst, hmore⟩ | ⟨hfirst, hmore⟩
        · obtain ⟨rfl, rfl⟩ := reads_pure_iff.1 hmore
          exact ⟨rfl, fun d hd => (nomatch hd), fun _ => rfl⟩
        · obtain ⟨rfl, hmore, -⟩ := takeDigits_text hmore
          exact ⟨rfl, hmore, fun h => absurd h hfirst⟩
      obtain ⟨rfl, hmore, hzero⟩ := hdigits
      have hwritten := toDigits_ofDigitChars (List.cons_ne_nil first more)
        (List.forall_mem_cons.2 ⟨by simpa using hfirst, hmore⟩) fun h => by
          obtain rfl := Option.some.inj h
          rw [hzero rfl]
      rw [← hvalue] at hwritten
      refine ⟨_, by rw [hwritten]; rfl, (Number.integer.inj hn).symm, fun hnegative => ?_⟩
      have := (hinteger.2 hnegative).1
      omega

/-- **Integers.** An integer that is read is written there. -/
theorem signedNumber_text {text : List Char} {n : Int}
    (h : Reads signedNumber text (.integer n) rest) : text = (toString n).toList ++ rest := by
  simp only [signedNumber, reads_bind_iff, reads_peek_iff] at h
  obtain ⟨_, _, ⟨rfl, rfl⟩, h⟩ := h
  rw [Int.toString_eq_repr, Int.repr_eq_if]
  split at h
  · next hminus =>
    obtain ⟨cs, rfl⟩ := List.head?_eq_some_iff.1 hminus
    simp only [reads_bind_iff, reads_advance_iff] at h
    obtain ⟨_, _, rfl, h⟩ := h
    obtain ⟨m, hm, rfl, hpos⟩ := number_text h
    have := hpos rfl
    rw [if_neg (by simp; omega), String.toList_append, Nat.toList_repr]
    simpa using hm
  · obtain ⟨m, rfl, rfl, -⟩ := number_text h
    rw [if_pos (by simp), Nat.toList_repr]
    simp

end OrderedLexer.Json.Reader
