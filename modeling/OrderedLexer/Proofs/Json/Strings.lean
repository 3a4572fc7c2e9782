import OrderedLexer.Json.Value
import OrderedLexer.Proofs.Json.Steps

namespace OrderedLexer.Json

/-!
# Strings in JSON

A string may be written in many ways: each character as itself, by a letter behind a backslash, by
the four digits of its code, or by two surrogates.

* `CharText`, `BodyText`, `StringText` — the ways to write a character, characters, and a string;
* `Reader.reads_restOfString` — whichever way is taken, the string is read;
* `Reader.restOfString_text` — a string that is read is written in one of these ways;
* `stringText_printString` — a printed string is written in one of these ways.
-/

/-- The number that four hexadecimal digits stand for. -/
def hexValue? : List Char → Option Nat
  | [a, b, c, d] =>
    match Reader.hexDigit? a, Reader.hexDigit? b, Reader.hexDigit? c, Reader.hexDigit? d with
    | some a, some b, some c, some d => some (((a * 16 + b) * 16 + c) * 16 + d)
    | _, _, _, _ => none
  | _ => none

/-- The ways to write a character inside a string. -/
inductive CharText : List Char → Char → Prop
  | plain {c : Char} : c ≠ '"' → c ≠ '\\' → 0x20 ≤ c.toNat → CharText [c] c
  | short {e c : Char} : Reader.shortEscape? e = some c → CharText ['\\', e] c
  | code {digits : List Char} {c : Char} : hexValue? digits = some c.toNat →
      CharText ('\\' :: 'u' :: digits) c
  | surrogates {high low : List Char} {m n : Nat} : hexValue? high = some (0xD800 + m) →
      hexValue? low = some (0xDC00 + n) → m < 0x400 → n < 0x400 →
      CharText ('\\' :: 'u' :: (high ++ '\\' :: 'u' :: low)) (Char.ofNat (m * 0x400 + n + 0x10000))

/-- The ways to write characters one after the other. -/
inductive BodyText : List Char → List Char → Prop
  | nil : BodyText [] []
  | cons {text texts : List Char} {c : Char} {cs : List Char} :
      CharText text c → BodyText texts cs → BodyText (text ++ texts) (c :: cs)

/-- The ways to write a string. -/
inductive StringText : List Char → String → Prop
  | mk {body : List Char} {s : String} :
      BodyText body s.toList → StringText ('"' :: body ++ ['"']) s

/-- A string starts with a quote. -/
theorem StringText.exists_eq_cons {text : List Char} {s : String} (h : StringText text s) :
    ∃ body, text = '"' :: body := by
  cases h
  exact ⟨_, rfl⟩

/-! ### Reading -/

namespace Reader

variable {text rest : List Char} {c : Char}

/-- Four digits are read as the number that they stand for. -/
theorem reads_hexEscape {digits : List Char} {n : Nat} (h : hexValue? digits = some n)
    (rest : List Char) : Reads hexEscape (digits ++ rest) n rest := by
  unfold hexValue? at h
  split at h
  · next a b c d =>
    have hlen : ¬ Text.byteLength ([a, b, c, d] ++ rest) < 4 := by
      have := Char.utf8Size_pos a
      have := Char.utf8Size_pos b
      have := Char.utf8Size_pos c
      have := Char.utf8Size_pos d
      simp only [List.cons_append, Text.byteLength_cons]
      omega
    split at h
    · next a' b' c' d' ha hb hc hd =>
      obtain rfl := Option.some.inj h
      simp only [Reads, hexEscape, StateT.run_bind, StateT.run_get]
      show (if _ then _ else _ : Reader Nat).run _ = _
      rw [if_neg hlen]
      simp only [List.cons_append, List.nil_append, ha, hb, hc, hd]
      rfl
    · contradiction
  · contradiction

/-- The code of a character is no surrogate. -/
theorem not_surrogate (c : Char) : ¬ (0xD800 ≤ c.toNat ∧ c.toNat ≤ 0xDFFF) := by
  have hvalid : c.toNat < 0xD800 ∨ 0xDFFF < c.toNat ∧ c.toNat < 0x110000 := c.valid
  omega

/-- An escape is read as the character that it stands for. -/
theorem reads_escaped (h : CharText ('\\' :: text) c) (rest : List Char) :
    Reads escaped (text ++ rest) c rest := by
  cases h with
  | plain hquote hslash _ => exact absurd rfl hslash
  | @short e c he =>
    unfold escaped
    refine (reads_take _ e rest).bind ?_
    rw [he]
    exact reads_pure c rest
  | @code digits c hdigits =>
    unfold escaped unicodeEscape
    refine (reads_take _ 'u' (digits ++ rest)).bind ?_
    refine (reads_hexEscape hdigits rest).bind ?_
    -- Neither half of a pair: the code is the character.
    have := not_surrogate c
    rw [if_neg (by simp; omega), if_neg (by simp; omega), Char.ofNat_toNat]
    exact reads_pure c rest
  | @surrogates high low m n hhigh hlow hm hn =>
    unfold escaped unicodeEscape
    rw [List.cons_append, List.append_assoc]
    refine (reads_take _ 'u' _).bind ?_
    refine (reads_hexEscape hhigh _).bind ?_
    rw [if_neg (by simp; omega), if_pos (by simp; omega)]
    have hsecond : Reads secondSurrogate ('\\' :: 'u' :: low ++ rest) (0xDC00 + n) rest := by
      unfold secondSurrogate
      refine (reads_take _ '\\' _).bind ?_
      refine (reads_take _ 'u' _).bind ?_
      refine (reads_hexEscape hlow rest).bind ?_
      rw [if_pos (by simp; omega)]
      exact reads_pure _ rest
    refine hsecond.bind ?_
    rw [Nat.add_sub_cancel_left, Nat.add_sub_cancel_left]
    exact reads_pure _ rest

/-- Characters are read up to the quote behind them; those read before come first. -/
theorem reads_stringBody {cs : List Char} (h : BodyText text cs) {fuel : Nat}
    (hfuel : text.length < fuel) (before rest : List Char) :
    Reads (stringBody fuel before) (text ++ '"' :: rest) (before.reverse ++ cs) rest := by
  -- Induction along the characters; each takes one unit of fuel and at least one letter.
  induction h generalizing fuel before with
  | nil =>
    cases fuel with
    | zero => omega
    | succ fuel =>
      rw [stringBody]
      refine (reads_take _ '"' rest).bind ?_
      rw [List.append_nil]
      exact reads_pure _ rest
  | @cons text texts c cs hc _ ih =>
    rw [List.length_append] at hfuel
    cases fuel with
    | zero => omega
    | succ fuel =>
      -- What is read behind the first character, in whichever way that is written.
      have hnext : 0 < text.length →
          Reads (stringBody fuel (c :: before)) (texts ++ '"' :: rest)
            (before.reverse ++ c :: cs) rest := by
        intro hpos
        have := ih (show texts.length < fuel by omega) (c :: before)
        rwa [List.reverse_cons, List.append_assoc] at this
      rw [stringBody, List.append_assoc]
      cases hc with
      | plain hquote hslash hcontrol =>
        refine (reads_take _ c _).bind ?_
        rw [if_neg hquote, if_neg hslash, if_neg (by omega)]
        exact hnext (by simp)
      | short he =>
        refine (reads_take _ '\\' _).bind ?_
        exact (reads_escaped (.short he) _).bind (hnext (by simp))
      | code hdigits =>
        refine (reads_take _ '\\' _).bind ?_
        exact (reads_escaped (.code hdigits) _).bind (hnext (by simp))
      | surrogates hhigh hlow hm hn =>
        refine (reads_take _ '\\' _).bind ?_
        exact (reads_escaped (.surrogates hhigh hlow hm hn) _).bind (hnext (by simp))

/-- **Strings.** Behind its first quote, a string is read in whichever way it is written. -/
theorem reads_restOfString {s : String} (h : StringText ('"' :: text) s) (rest : List Char) :
    Reads restOfString (text ++ rest) s rest := by
  obtain ⟨body, hbody, htext⟩ : ∃ body, BodyText body s.toList ∧ text = body ++ ['"'] := by
    cases h with
    | mk hbody => exact ⟨_, hbody, rfl⟩
  subst htext
  unfold restOfString
  rw [List.append_assoc]
  refine (reads_remaining _).bind ?_
  have hfuel : body.length < (body ++ (['"'] ++ rest)).length + 1 := by
    rw [List.length_append]
    omega
  refine (reads_stringBody hbody hfuel [] rest).bind ?_
  rw [List.reverse_nil, List.nil_append, String.ofList_toList]
  exact reads_pure s rest

/-! ### What was read -/

/-- A hexadecimal digit is below 16. -/
theorem hexDigit?_lt {c : Char} {n : Nat} (h : hexDigit? c = some n) : n < 16 := by
  unfold hexDigit? at h
  split at h
  · next hc =>
    have := Char.isDigit_iff_toNat.1 hc
    have h9 : '9'.toNat = 57 := rfl
    have := Option.some.inj h
    omega
  · split at h
    · next hc =>
      simp only [Bool.and_eq_true, decide_eq_true_eq, Char.le_def, UInt32.le_iff_toNat_le] at hc
      have hf : 'f'.val.toNat = 102 := rfl
      have := Option.some.inj h
      have : c.toNat = c.val.toNat := rfl
      omega
    · split at h
      · next hc =>
        simp only [Bool.and_eq_true, decide_eq_true_eq, Char.le_def, UInt32.le_iff_toNat_le] at hc
        have hF : 'F'.val.toNat = 70 := rfl
        have := Option.some.inj h
        have : c.toNat = c.val.toNat := rfl
        omega
      · cases h

/-- Four hexadecimal digits stand for a number below 65536. -/
theorem hexValue?_lt {digits : List Char} {n : Nat} (h : hexValue? digits = some n) :
    n < 0x10000 := by
  unfold hexValue? at h
  split at h
  · split at h
    · next a b c d ha hb hc hd =>
      have := hexDigit?_lt ha
      have := hexDigit?_lt hb
      have := hexDigit?_lt hc
      have := hexDigit?_lt hd
      have := Option.some.inj h
      omega
    · cases h
  · cases h

/-- A number that is read from an escape is spelled by four digits. -/
theorem hexEscape_text {n : Nat} (h : Reads hexEscape text n rest) :
    ∃ digits, text = digits ++ rest ∧ hexValue? digits = some n := by
  simp only [hexEscape, reads_bind_iff, reads_get_iff, reads_guard_iff] at h
  obtain ⟨_, _, ⟨rfl, rfl⟩, -, h⟩ := h
  split at h
  · next a b c d tail =>
    split at h
    · next a' b' c' d' ha hb hc hd =>
      simp only [reads_bind_iff, reads_set_iff, reads_pure_iff] at h
      obtain ⟨_, _, rfl, rfl, rfl⟩ := h
      exact ⟨[a, b, c, d], rfl, by simp only [hexValue?, ha, hb, hc, hd]⟩
    · exact absurd h (not_reads_throw _)
  · exact absurd h (not_reads_throw _)

/-- The second half of a surrogate pair is spelled by an escape of its own. -/
theorem secondSurrogate_text {n : Nat} (h : Reads secondSurrogate text n rest) :
    ∃ low, text = '\\' :: 'u' :: low ++ rest ∧ hexValue? low = some n ∧
      0xDC00 ≤ n ∧ n ≤ 0xDFFF := by
  simp only [secondSurrogate, reads_bind_iff, reads_take_iff, reads_guard_iff, reads_unless_iff,
    reads_pure_iff] at h
  obtain ⟨slash, _, rfl, hslash, u, _, rfl, hu, n, _, hhex, hrange, rfl, rfl⟩ := h
  obtain rfl : slash = '\\' := by simpa using hslash
  obtain rfl : u = 'u' := by simpa using hu
  obtain ⟨low, rfl, hlow⟩ := hexEscape_text hhex
  refine ⟨low, rfl, hlow, ?_⟩
  simpa using hrange

/-- A character that is read from an escape with digits is spelled by it. -/
theorem unicodeEscape_text (h : Reads unicodeEscape text c rest) :
    ∃ escape, text = escape ++ rest ∧ CharText ('\\' :: 'u' :: escape) c := by
  simp only [unicodeEscape, reads_bind_iff, reads_guard_iff] at h
  obtain ⟨n, _, hhex, hlow, h⟩ := h
  obtain ⟨digits, rfl, hdigits⟩ := hexEscape_text hhex
  have hlt := hexValue?_lt hdigits
  split at h
  · next hhigh =>
    simp only [reads_bind_iff, reads_pure_iff] at h
    obtain ⟨m, _, hsecond, rfl, rfl⟩ := h
    obtain ⟨low, rfl, hlow, hm⟩ := secondSurrogate_text hsecond
    simp only [Bool.and_eq_true, decide_eq_true_eq] at hhigh
    refine ⟨digits ++ '\\' :: 'u' :: low, by simp, .surrogates ?_ ?_ ?_ ?_⟩
    · rw [hdigits, Nat.add_sub_cancel' hhigh.1]
    · rw [hlow, Nat.add_sub_cancel' hm.1]
    · omega
    · omega
  · next hhigh =>
    obtain ⟨rfl, rfl⟩ := reads_pure_iff.1 h
    -- Neither half of a pair, so the code is that of a character.
    have hvalid : n.isValidChar := by
      simp only [Bool.and_eq_true, decide_eq_true_eq] at hlow hhigh
      unfold Nat.isValidChar
      omega
    refine ⟨digits, rfl, .code ?_⟩
    rw [hdigits, Char.ofNat, dif_pos hvalid]
    rfl

/-- A character that is read from an escape is spelled by it. -/
theorem escaped_text (h : Reads escaped text c rest) :
    ∃ escape, text = escape ++ rest ∧ CharText ('\\' :: escape) c := by
  simp only [escaped, reads_bind_iff, reads_take_iff] at h
  obtain ⟨e, tail, rfl, h⟩ := h
  cases hshort : shortEscape? e with
  | some short =>
    rw [hshort] at h
    obtain ⟨rfl, rfl⟩ := reads_pure_iff.1 h
    exact ⟨[e], rfl, .short hshort⟩
  | none =>
    rw [hshort] at h
    obtain ⟨rfl, hread⟩ := reads_unless_iff.1 h
    obtain ⟨escape, rfl, hescape⟩ := unicodeEscape_text hread
    exact ⟨'u' :: escape, rfl, hescape⟩

/-- What is read of a string, up to the quote behind it, is spelled by what stood there. -/
theorem stringBody_text {fuel : Nat} {before cs : List Char}
    (h : Reads (stringBody fuel before) text cs rest) :
    ∃ body cs', BodyText body cs' ∧ text = body ++ '"' :: rest ∧ cs = before.reverse ++ cs' := by
  -- Induction along the fuel, of which each character takes one unit.
  induction fuel generalizing before text with
  | zero => exact absurd h (not_reads_throw _)
  | succ fuel ih =>
    simp only [stringBody, reads_bind_iff, reads_take_iff, reads_ite_iff, reads_pure_iff] at h
    obtain ⟨c, tail, rfl, hcases⟩ := h
    -- Whichever way the first character is written, those behind it are read in the same way.
    have hnext : ∀ {front c tail}, CharText front c →
        Reads (stringBody fuel (c :: before)) tail cs rest →
        ∃ body cs', BodyText body cs' ∧ front ++ tail = body ++ '"' :: rest ∧
          cs = before.reverse ++ cs' := by
      intro front c tail hfront hread
      obtain ⟨body, cs', hbody, rfl, rfl⟩ := ih hread
      exact ⟨front ++ body, c :: cs', .cons hfront hbody, by simp, by simp⟩
    rcases hcases with ⟨rfl, rfl, rfl⟩ | ⟨hquote, hcases⟩
    · exact ⟨[], [], .nil, rfl, by simp⟩
    · rcases hcases with ⟨rfl, d, _, hescaped, hread⟩ | ⟨hslash, hcases⟩
      · obtain ⟨escape, rfl, hescape⟩ := escaped_text hescaped
        exact hnext hescape hread
      · rcases hcases with ⟨-, hthrow⟩ | ⟨hcontrol, hread⟩
        · exact absurd hthrow (not_reads_throw _)
        · exact hnext (.plain hquote hslash (by omega)) hread

/-- **Strings.** A string that is read behind its first quote is written there. -/
theorem restOfString_text {s : String} (h : Reads restOfString text s rest) :
    ∃ body, text = body ++ rest ∧ StringText ('"' :: body) s := by
  simp only [restOfString, reads_bind_iff, reads_remaining_iff, reads_pure_iff] at h
  obtain ⟨_, _, ⟨rfl, rfl⟩, cs, _, hbody, rfl, rfl⟩ := h
  obtain ⟨body, cs', hcs', rfl, rfl⟩ := stringBody_text hbody
  refine ⟨body ++ ['"'], by simp, ?_⟩
  rw [← List.cons_append]
  exact .mk (by simpa using hcs')

end Reader

/-! ### Printing -/

/-- The digits below 16 are read back. -/
theorem hexDigit?_hexDigit : ∀ n < 16, Reader.hexDigit? (hexDigit n) = some n := by decide

/-- A printed character is written in one of the ways. -/
theorem charText_escapeChar (c : Char) : CharText (escapeChar c) c := by
  unfold escapeChar
  split
  · exact .short rfl
  · exact .short rfl
  · exact .short rfl
  · exact .short rfl
  · exact .short rfl
  · exact .short rfl
  · exact .short rfl
  · next hquote hslash _ _ _ _ _ =>
    split
    · next hcontrol =>
      -- Below U+0020 the code has two leading zeros.
      refine .code ?_
      have hzero : Reader.hexDigit? '0' = some 0 := by decide
      have hhigh := hexDigit?_hexDigit (c.toNat / 16) (by omega)
      have hlow := hexDigit?_hexDigit (c.toNat % 16) (by omega)
      simp only [hexValue?, hzero, hhigh, hlow]
      congr 1
      omega
    · next hcontrol =>
      refine .plain ?_ ?_ (by omega)
      · intro heq
        exact hquote heq
      · intro heq
        exact hslash heq

/-- **Printing.** A printed string is written in one of the ways. -/
theorem stringText_printString (s : String) : StringText (printString s) s := by
  have hbody : ∀ cs : List Char, BodyText (cs.flatMap escapeChar) cs := by
    intro cs
    induction cs with
    | nil => exact .nil
    | cons c cs ih => exact .cons (charText_escapeChar c) ih
  exact .mk (hbody s.toList)

end OrderedLexer.Json
