import OrderedLexer.Text.Quoted

namespace OrderedLexer.Text

/-!
# Undoing escapes

A text with escapes says which text it comes from: each escape begins with a backslash, no other
character is written with one, and a code stands between braces.

* `unescape` — a text without its escapes, read from left to right;
* `unescapeFrom_escapeChar` — the escape of a character is undone, whatever follows;
* `unescape_escape` — so a text is got back from its escapes;
* `not_mem_escape` — line feeds and tabs do not stand in a text with escapes.
-/

/-! ### Hexadecimal digits -/

/-- The value of a lower-case hexadecimal digit. -/
def hexDigitValue (c : Char) : Nat := if c.isDigit then c.toNat - 48 else c.toNat - 87

/-- Go on with a number by further digits. -/
def hexValueFrom (n : Nat) (digits : List Char) : Nat :=
  digits.foldl (fun n d => n * 16 + hexDigitValue d) n

theorem hexDigitValue_digitChar : ∀ d < 16, hexDigitValue (Nat.digitChar d) = d := by decide

/-- **Digits.** The digits of a number are digits, and they give the number back. -/
theorem hexValueFrom_hexDigits (n : Nat) :
    hexValueFrom 0 (hexDigits n) = n ∧ ∀ d ∈ hexDigits n, ∃ m < 16, d = m.digitChar := by
  induction n using Nat.strongRecOn with
  | ind n ih =>
    unfold hexDigits at ih ⊢
    by_cases hlt : n < 16
    · rw [Nat.toDigits_of_lt_base hlt]
      refine ⟨?_, fun d hd => ⟨n, hlt, List.mem_singleton.1 hd⟩⟩
      show 0 * 16 + hexDigitValue n.digitChar = n
      rw [hexDigitValue_digitChar n hlt]
      omega
    · obtain ⟨hvalue, hdigits⟩ := ih (n / 16) (by omega)
      have hlast : n % 16 < 16 := Nat.mod_lt n (by decide)
      rw [Nat.toDigits_of_base_le (by decide) (by omega)]
      refine ⟨?_, fun d hd => ?_⟩
      · rw [hexValueFrom, List.foldl_append]
        show hexValueFrom 0 (Nat.toDigits 16 (n / 16)) * 16 + hexDigitValue (n % 16).digitChar = n
        rw [hvalue, hexDigitValue_digitChar _ hlast]
        omega
      · rcases List.mem_append.1 hd with hd | hd
        · exact hdigits d hd
        · exact ⟨n % 16, hlast, List.mem_singleton.1 hd⟩

/-- Digits are no braces, line feeds or tabs. -/
theorem ne_of_mem_hexDigits {n : Nat} {d : Char} (h : d ∈ hexDigits n) :
    d ≠ '\x7d' ∧ d ≠ '\n' ∧ d ≠ '\t' := by
  have hdigits : ∀ m < 16, Nat.digitChar m ≠ '\x7d' ∧ Nat.digitChar m ≠ '\n' ∧
      Nat.digitChar m ≠ '\t' := by decide
  obtain ⟨m, hm, rfl⟩ := (hexValueFrom_hexDigits n).2 d h
  exact hdigits m hm

/-! ### Texts without their escapes -/

/-- Where a text with escapes is read: outside of an escape, behind its backslash, behind its letter
    `u`, or behind digits of a code. -/
inductive EscapePlace where
  | outside
  | backslash
  | letter
  | code (n : Nat)

/-- The character for the one behind a backslash. -/
def unescapeChar : Char → Char
  | '0' => '\x00'
  | 't' => '\t'
  | 'r' => '\r'
  | 'n' => '\n'
  | c => c

/-- Read a text with escapes from a place on. -/
def unescapeFrom : EscapePlace → List Char → List Char
  | _, [] => []
  | .outside, c :: cs =>
    if c = '\\' then unescapeFrom .backslash cs else c :: unescapeFrom .outside cs
  | .backslash, c :: cs =>
    if c = 'u' then unescapeFrom .letter cs else unescapeChar c :: unescapeFrom .outside cs
  | .letter, _ :: cs => unescapeFrom (.code 0) cs
  | .code n, c :: cs =>
    if c = '\x7d' then Char.ofNat n :: unescapeFrom .outside cs
    else unescapeFrom (.code (n * 16 + hexDigitValue c)) cs

/-- A text without its escapes. -/
def unescape (text : List Char) : List Char := unescapeFrom .outside text

variable {c : Char} {rest digits : List Char}

/-- The digits of a code are read to the brace behind them. -/
theorem unescapeFrom_code (hdigits : ∀ d ∈ digits, d ≠ '\x7d') (n : Nat) (rest : List Char) :
    unescapeFrom (.code n) (digits ++ '\x7d' :: rest) =
      Char.ofNat (hexValueFrom n digits) :: unescapeFrom .outside rest := by
  induction digits generalizing n with
  | nil => simp [unescapeFrom, hexValueFrom]
  | cons d digits ih =>
    obtain ⟨hd, hdigits⟩ := List.forall_mem_cons.1 hdigits
    rw [List.cons_append, unescapeFrom, if_neg hd, ih hdigits]
    rfl

/-- The escape of a character by its code is undone. -/
theorem unescapeFrom_escapeCode (c : Char) (rest : List Char) :
    unescapeFrom .outside (escapeCode c ++ rest) = c :: unescapeFrom .outside rest := by
  have hdigits : ∀ d ∈ hexDigits c.toNat, d ≠ '\x7d' := fun d hd => (ne_of_mem_hexDigits hd).1
  have hcode := unescapeFrom_code hdigits 0 rest
  rw [(hexValueFrom_hexDigits c.toNat).1, Char.ofNat_toNat] at hcode
  rw [← hcode, escapeCode]
  simp [unescapeFrom]

/-- **Step.** The escape of a character is undone, whatever follows. -/
theorem unescapeFrom_escapeChar (singleQuote extending : Bool) (c : Char) (rest : List Char) :
    unescapeFrom .outside (escapeChar singleQuote extending c ++ rest) =
      c :: unescapeFrom .outside rest := by
  unfold escapeChar
  split
  case h_7 => cases singleQuote <;> rfl
  case h_8 hbackslash _ _ =>
    -- No other character is a backslash.
    split
    · exact unescapeFrom_escapeCode c rest
    · split
      · rw [List.singleton_append, unescapeFrom, if_neg hbackslash]
      · exact unescapeFrom_escapeCode c rest
  all_goals rfl

/-- **Escapes.** A text is got back from its escapes. -/
theorem unescape_escape (text : List Char) : unescape (escape text) = text := by
  have hflat : ∀ cs : List Char,
      unescapeFrom .outside (cs.flatMap (escapeChar true false)) = cs := by
    intro cs
    induction cs with
    | nil => rfl
    | cons c cs ih => rw [List.flatMap_cons, unescapeFrom_escapeChar, ih]
  cases text with
  | nil => rfl
  | cons c cs => rw [unescape, escape, unescapeFrom_escapeChar, hflat]

/-! ### Line feeds and tabs -/

/-- The escape of a character is on one line, and without tabs. -/
theorem ne_of_mem_escapeChar {singleQuote extending : Bool} {d : Char}
    (h : d ∈ escapeChar singleQuote extending c) : d ≠ '\n' ∧ d ≠ '\t' := by
  have hcode : d ∈ escapeCode c → d ≠ '\n' ∧ d ≠ '\t' := by
    intro h
    simp only [escapeCode, List.cons_append, List.mem_cons, List.mem_append, List.not_mem_nil,
      or_false] at h
    rcases h with rfl | rfl | rfl | h | rfl
    · decide
    · decide
    · decide
    · exact (ne_of_mem_hexDigits h).2
    · decide
  unfold escapeChar at h
  split at h
  case h_7 =>
    have hquote : ∀ d ∈ (if singleQuote then ['\\', '\''] else ['\'']), d ≠ '\n' ∧ d ≠ '\t' := by
      cases singleQuote <;> simp
    exact hquote d h
  case h_8 htab _ hfeed _ _ _ =>
    split at h
    · exact hcode h
    · split at h
      · rw [List.mem_singleton.1 h]
        exact ⟨hfeed, htab⟩
      · exact hcode h
  all_goals
    simp only [List.mem_cons, List.not_mem_nil, or_false] at h
    rcases h with rfl | rfl <;> decide

/-- Neither line feeds nor tabs stand in a text with escapes. -/
theorem not_mem_escape (text : List Char) : '\n' ∉ escape text ∧ '\t' ∉ escape text := by
  have hescape : ∀ d ∈ escape text, d ≠ '\n' ∧ d ≠ '\t' := by
    intro d hd
    cases text with
    | nil => cases hd
    | cons c cs =>
      rcases List.mem_append.1 hd with hd | hd
      · exact ne_of_mem_escapeChar hd
      · obtain ⟨c, -, hd⟩ := List.mem_flatMap.1 hd
        exact ne_of_mem_escapeChar hd
  exact ⟨fun h => (hescape _ h).1 rfl, fun h => (hescape _ h).2 rfl⟩

end OrderedLexer.Text
