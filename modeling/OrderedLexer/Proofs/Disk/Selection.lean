import OrderedLexer.RuleFile.Load
import Mathlib.Data.List.Basic

namespace OrderedLexer

/-!
# The file that is selected

Among the files that a path may stand for, the one that was changed last is selected, whether it can
be opened or not, and it is the one that is read.

* `Timed` — what stands on a disk has a time;
* `Path.withExtension?_eq` — the candidates of a path without an extension;
* `FirstLatest`, `latest?_eq_some_iff` — the first one of the latest candidates;
* `Selects`, `select_eq_iff` — what is selected, rule by rule;
* `load_eq_of_select`, `load_congr` — the file selected is read, and no other one;
* `select_latest` — all of it.
-/

namespace Disk

variable {α : Type} {disk : Disk} {path : String} {formats : List (String × α)}

/-! ### Times -/

/-- Whatever stands on the disk has a time. -/
def Timed (disk : Disk) : Prop :=
  ∀ path, disk.stands path = true → (disk.modified? path).isSome

/-- Only what stands has a time. -/
theorem stands_of_modified? {time : Int} (h : disk.modified? path = some time) :
    disk.stands path = true := by
  unfold modified? at h
  unfold stands
  cases hentry : disk.entry? path with
  | error fault => simp [hentry, Except.toOption] at h
  | ok entry => rfl

theorem Timed.exists_time (h : disk.Timed) (hstands : disk.stands path = true) :
    ∃ time, disk.modified? path = some time := Option.isSome_iff_exists.1 (h path hstands)

/-- On a disk by its list, it is enough to look at the list. -/
theorem timed_ofEntries {entries : List (String × Except Fault Entry)}
    (h : ∀ e ∈ entries, ∀ entry ∈ e.2.toOption, entry.modified?.isSome) :
    (ofEntries entries).Timed := by
  intro path hstands
  unfold modified? stands ofEntries at *
  dsimp only at *
  cases hlookup : entries.lookup path with
  | none => simp [hlookup, Except.isOk, Except.toBool] at hstands
  | some e =>
    obtain ⟨before, after, rfl, -⟩ := List.lookup_eq_some_iff.1 hlookup
    rw [hlookup] at hstands
    cases e with
    | error fault => simp [Except.isOk, Except.toBool] at hstands
    | ok entry => exact h (path, .ok entry) (by simp) entry rfl

/-! ### Candidates -/

/-- A path without the slashes, and the points between slashes, at its end. -/
def Path.trimmed (path : String) : String := String.ofList (trimEnd path.toList.reverse).reverse

/-- A path that ends in another character is not changed. -/
theorem Path.trimmed_eq (h : ∀ c ∈ path.toList.getLast?, c ≠ '/' ∧ c ≠ '.') :
    trimmed path = path := by
  have hend : trimEnd path.toList.reverse = path.toList.reverse := by
    rw [← List.head?_reverse] at h
    cases hrev : path.toList.reverse with
    | nil => rfl
    | cons c cs =>
      obtain ⟨hslash, hpoint⟩ := h c (by rw [hrev]; rfl)
      unfold trimEnd
      split
      · next heq => exact absurd (List.cons.inj heq).1 hslash
      · next heq => exact absurd (List.cons.inj heq).1 hpoint
      · rfl
  rw [trimmed, hend, List.reverse_reverse, String.ofList_toList]

/-- A file name without an extension is followed by a point and the extension. -/
theorem Path.withExtension?_eq (hname : (fileName? path).isSome) (hext : extension? path = none)
    {ext : String} (hslash : '/' ∉ ext.toList) :
    withExtension? path ext =
      some (if ext = "" then trimmed path else trimmed path ++ "." ++ ext) := by
  obtain ⟨⟨name, upToName⟩, hfile⟩ := Option.isSome_iff_exists.1 hname
  have hupTo : String.ofList upToName = trimmed path := by
    unfold fileName? at hfile
    dsimp only at hfile
    split at hfile
    · contradiction
    · rw [← (Prod.mk.inj (Option.some.inj hfile)).2]
      rfl
  have hwhole : (splitName name).1 = name := by
    rw [extension?, hfile, Option.bind_some, Option.map_eq_none_iff] at hext
    unfold splitName at hext ⊢
    dsimp only at hext ⊢
    split at hext
    · next hstem => rw [if_pos hstem]
    · contradiction
  have hno : ext.toList.contains '/' = false := by
    rwa [← Bool.not_eq_true, List.contains_iff_mem]
  simp only [withExtension?, hno, hfile, hwhole, Nat.sub_self, Nat.sub_zero, List.take_length,
    hupTo, String.isEmpty_iff, Bool.false_eq_true, if_false]

/-! ### The latest candidate -/

/-- The time of a candidate, where it is known. -/
def Candidate.time (c : Candidate α) : Int := c.modified?.getD 0

theorem Candidate.later_eq {a b : Candidate α} (ha : a.modified?.isSome)
    (hb : b.modified?.isSome) : a.later b = if a.time < b.time then b else a := by
  obtain ⟨old, hold⟩ := Option.isSome_iff_exists.1 ha
  obtain ⟨new, hnew⟩ := Option.isSome_iff_exists.1 hb
  simp only [later, time, hold, hnew, Option.getD_some]

/-- The first one of the latest candidates: those before it are earlier, those behind it are not
    later. -/
def FirstLatest (cs : List (Candidate α)) (c : Candidate α) : Prop :=
  ∃ before after, cs = before ++ c :: after ∧ (∀ b ∈ before, b.time < c.time) ∧
    ∀ b ∈ after, b.time ≤ c.time

namespace FirstLatest

variable {cs : List (Candidate α)} {a b c d : Candidate α}

theorem le_of_mem (h : FirstLatest cs c) (hb : b ∈ cs) : b.time ≤ c.time := by
  obtain ⟨before, after, rfl, hbefore, hafter⟩ := h
  rcases List.mem_append.1 hb with hb | hb
  · exact Int.le_of_lt (hbefore b hb)
  · rcases List.mem_cons.1 hb with rfl | hb
    · exact Int.le_refl _
    · exact hafter b hb

/-- A candidate in front that is earlier changes nothing. -/
theorem cons (h : FirstLatest cs c) (hb : b.time < c.time) : FirstLatest (b :: cs) c := by
  obtain ⟨before, after, rfl, hbefore, hafter⟩ := h
  exact ⟨b :: before, after, rfl, List.forall_mem_cons.2 ⟨hb, hbefore⟩, hafter⟩

/-- Nor does a candidate that is not later than the one before it. -/
theorem insert (h : FirstLatest (a :: cs) c) (hb : b.time ≤ a.time) :
    FirstLatest (a :: b :: cs) c := by
  obtain ⟨before, after, heq, hbefore, hafter⟩ := h
  cases before with
  | nil =>
    obtain ⟨rfl, rfl⟩ := List.cons.inj heq
    exact ⟨[], b :: cs, rfl, nofun, List.forall_mem_cons.2 ⟨hb, hafter⟩⟩
  | cons x before =>
    obtain ⟨rfl, rfl⟩ := List.cons.inj heq
    obtain ⟨ha, hrest⟩ := List.forall_mem_cons.1 hbefore
    refine ⟨a :: b :: before, after, rfl, ?_, hafter⟩
    exact List.forall_mem_cons.2 ⟨ha, List.forall_mem_cons.2 ⟨Int.lt_of_le_of_lt hb ha, hrest⟩⟩

theorem unique (hc : FirstLatest cs c) (hd : FirstLatest cs d) : c = d := by
  have key : ∀ {middle after after' : List (Candidate α)} {x y : Candidate α},
      x :: after = middle ++ y :: after' → (∀ b ∈ middle, b.time < y.time) →
        (∀ b ∈ after, b.time ≤ x.time) → x = y := by
    intro middle after after' x y heq hmiddle hafter
    cases middle with
    | nil => exact (List.cons.inj heq).1
    | cons z middle =>
      -- Otherwise each of the two would be later than the other.
      obtain ⟨rfl, rfl⟩ := List.cons.inj heq
      have hlt := hmiddle x List.mem_cons_self
      have hle := hafter y (List.mem_append_right _ List.mem_cons_self)
      omega
  obtain ⟨before, after, rfl, hbefore, hafter⟩ := hc
  obtain ⟨before', after', heq, hbefore', hafter'⟩ := hd
  rcases List.append_eq_append_iff.1 heq with ⟨middle, rfl, hrest⟩ | ⟨middle, rfl, hrest⟩
  · exact key hrest (List.forall_mem_append.1 hbefore').2 hafter
  · exact (key hrest (List.forall_mem_append.1 hbefore).2 hafter').symm

end FirstLatest

/-- **Fold.** The later one of two is kept all the way. -/
theorem firstLatest_foldl {cs : List (Candidate α)} {c : Candidate α}
    (h : ∀ b ∈ c :: cs, b.modified?.isSome) :
    FirstLatest (c :: cs) (cs.foldl Candidate.later c) := by
  induction cs generalizing c with
  | nil => exact ⟨[], [], rfl, nofun, nofun⟩
  | cons b cs ih =>
    obtain ⟨hc, hb, hcs⟩ := (List.forall_mem_cons.1 h).imp_right List.forall_mem_cons.1
    rw [List.foldl_cons, Candidate.later_eq hc hb]
    split
    · next hlater =>
      have hrest := ih (List.forall_mem_cons.2 ⟨hb, hcs⟩)
      exact hrest.cons (Int.lt_of_lt_of_le hlater (hrest.le_of_mem List.mem_cons_self))
    · next hlater =>
      exact (ih (List.forall_mem_cons.2 ⟨hc, hcs⟩)).insert (Int.not_lt.1 hlater)

theorem latest?_eq_some_iff {cs : List (Candidate α)} {c : Candidate α}
    (h : ∀ b ∈ cs, b.modified?.isSome) : latest? cs = some c ↔ FirstLatest cs c := by
  cases cs with
  | nil =>
    refine ⟨nofun, ?_⟩
    rintro ⟨before, after, heq, -⟩
    exact absurd heq (by simp)
  | cons b cs =>
    have hfold := firstLatest_foldl h
    constructor
    · intro hlatest
      rwa [← Option.some.inj hlatest]
    · exact fun hfirst => congrArg some (hfold.unique hfirst)

theorem latest?_eq_none_iff {cs : List (Candidate α)} : latest? cs = none ↔ cs = [] := by
  cases cs <;> simp [latest?]

/-- The candidate of an extension with its format, if the file stands. -/
def candidate? (disk : Disk) (path : String) (e : String × α) : Option (Candidate α) :=
  (Path.withExtension? path e.1).bind fun file =>
    if disk.stands file then some ⟨file, e.2, disk.modified? file⟩ else none

theorem candidates_eq (disk : Disk) (path : String) (formats : List (String × α)) :
    disk.candidates path formats = formats.filterMap (disk.candidate? path) := rfl

theorem candidate?_eq_some_iff {e : String × α} {c : Candidate α} :
    disk.candidate? path e = some c ↔ Path.withExtension? path e.1 = some c.path ∧
      disk.stands c.path = true ∧ c.format = e.2 ∧ c.modified? = disk.modified? c.path := by
  unfold candidate?
  rw [Option.bind_eq_some_iff]
  constructor
  · rintro ⟨file, hfile, hsome⟩
    split at hsome
    · next hstands =>
      obtain rfl := Option.some.inj hsome
      exact ⟨hfile, hstands, rfl, rfl⟩
    · contradiction
  · rintro ⟨hfile, hstands, hformat, htime⟩
    refine ⟨c.path, hfile, ?_⟩
    rw [if_pos hstands, ← hformat, ← htime]

theorem candidate?_eq_none_iff {e : String × α} :
    disk.candidate? path e = none ↔
      ∀ file ∈ Path.withExtension? path e.1, disk.stands file = false := by
  unfold candidate?
  rw [Option.bind_eq_none_iff]
  simp

/-- If what stands has a time, so have the candidates. -/
theorem Timed.candidates (h : disk.Timed) :
    ∀ c ∈ disk.candidates path formats, c.modified?.isSome := by
  intro c hc
  rw [candidates_eq] at hc
  obtain ⟨e, -, hsome⟩ := List.mem_filterMap.1 hc
  obtain ⟨-, hstands, -, htime⟩ := candidate?_eq_some_iff.1 hsome
  rw [htime]
  exact h c.path hstands

/-- What holds of the times of all candidates holds of the files that stand. -/
theorem Timed.forall_candidates_iff (h : disk.Timed) {P : Int → Prop} :
    (∀ c ∈ disk.candidates path formats, P c.time) ↔
      ∀ e ∈ formats, ∀ file ∈ Path.withExtension? path e.1, ∀ t ∈ disk.modified? file, P t := by
  rw [candidates_eq]
  constructor
  · intro hall e he file hfile t ht
    have hcandidate : disk.candidate? path e = some ⟨file, e.2, some t⟩ :=
      candidate?_eq_some_iff.2 ⟨hfile, stands_of_modified? ht, rfl, ht.symm⟩
    exact hall _ (List.mem_filterMap.2 ⟨e, he, hcandidate⟩)
  · intro hall c hc
    obtain ⟨e, he, hsome⟩ := List.mem_filterMap.1 hc
    obtain ⟨hfile, hstands, -, htime⟩ := candidate?_eq_some_iff.1 hsome
    obtain ⟨t, ht⟩ := h.exists_time hstands
    rw [Candidate.time, htime, ht]
    exact hall e he c.path hfile t ht

/-- The candidates are the files that stand, in the sequence of the extensions. -/
theorem Timed.firstLatest_candidates_iff (h : disk.Timed) {c : Candidate α} :
    FirstLatest (disk.candidates path formats) c ↔
      ∃ before ext after, formats = before ++ (ext, c.format) :: after ∧
        Path.withExtension? path ext = some c.path ∧ disk.stands c.path = true ∧
        c.modified? = disk.modified? c.path ∧
        (∀ e ∈ before, ∀ file ∈ Path.withExtension? path e.1, ∀ t ∈ disk.modified? file,
          t < c.time) ∧
        ∀ e ∈ after, ∀ file ∈ Path.withExtension? path e.1, ∀ t ∈ disk.modified? file,
          t ≤ c.time := by
  constructor
  · rintro ⟨earlier, rest, heq, hearlier, hrest⟩
    rw [candidates_eq] at heq
    obtain ⟨front, back, rfl, rfl, hback⟩ := List.filterMap_eq_append_iff.1 heq
    obtain ⟨absent, ⟨ext, format⟩, after, rfl, hnone, hsome, rfl⟩ :=
      List.filterMap_eq_cons_iff.1 hback
    obtain ⟨hpath, hstands, hformat, htime⟩ := candidate?_eq_some_iff.1 hsome
    refine ⟨front ++ absent, ext, after, by rw [hformat, List.append_assoc], hpath, hstands,
      htime, ?_, h.forall_candidates_iff.1 hrest⟩
    refine List.forall_mem_append.2
      ⟨h.forall_candidates_iff.1 hearlier, fun e he file hfile t ht => ?_⟩
    have habsent := candidate?_eq_none_iff.1 (hnone e he) file hfile
    rw [stands_of_modified? ht] at habsent
    contradiction
  · rintro ⟨before, ext, after, rfl, hpath, hstands, htime, hbefore, hafter⟩
    have hsome : disk.candidate? path (ext, c.format) = some c :=
      candidate?_eq_some_iff.2 ⟨hpath, hstands, rfl, htime⟩
    refine ⟨disk.candidates path before, disk.candidates path after, ?_,
      h.forall_candidates_iff.2 hbefore, h.forall_candidates_iff.2 hafter⟩
    simp only [candidates_eq, List.filterMap_append, List.filterMap_cons, hsome]

/-! ### Selection -/

/-- What is selected for a path. -/
inductive Selects (disk : Disk) (path : String) (formats : List (String × α)) :
    Selection α → Prop
  /-- The first format that goes with the extension, whether there is a file or not. -/
  | bound {ext : String} {format : α} {before after : List (String × α)} :
      Path.extension? path = some ext → formats = before ++ (ext, format) :: after →
      (∀ e ∈ before, e.1 ≠ ext) → Selects disk path formats (.valid path format)
  /-- No format goes with the extension. -/
  | unbound {ext : String} : Path.extension? path = some ext → (∀ e ∈ formats, e.1 ≠ ext) →
      Selects disk path formats (.wrongExtension ext)
  /-- Without an extension, the first one of the files that were changed last, with its format. -/
  | latest {ext file : String} {format : α} {before after : List (String × α)} {time : Int} :
      Path.extension? path = none → formats = before ++ (ext, format) :: after →
      Path.withExtension? path ext = some file → disk.modified? file = some time →
      (∀ e ∈ before, ∀ file ∈ Path.withExtension? path e.1, ∀ t ∈ disk.modified? file,
        t < time) →
      (∀ e ∈ after, ∀ file ∈ Path.withExtension? path e.1, ∀ t ∈ disk.modified? file,
        t ≤ time) →
      Selects disk path formats (.valid file format)
  /-- Without an extension, none of the files stands. -/
  | missing : Path.extension? path = none →
      (∀ e ∈ formats, ∀ file ∈ Path.withExtension? path e.1, disk.stands file = false) →
      Selects disk path formats .nonExisting

/-- By an extension, the first format bound to it is selected. -/
theorem select_of_extension {ext : String} (hext : Path.extension? path = some ext) :
    disk.select path formats = match formats.lookup ext with
      | some format => .valid path format
      | none => .wrongExtension ext := by
  cases hformat : formats.lookup ext <;> simp only [select, hext, hformat]

/-- Without an extension, the first one of the latest candidates is selected. -/
theorem select_of_no_extension (hext : Path.extension? path = none) :
    disk.select path formats = match latest? (disk.candidates path formats) with
      | some c => .valid c.path c.format
      | none => .nonExisting := by
  cases hlatest : latest? (disk.candidates path formats) <;> simp only [select, hext, hlatest]

/-- The rules allow for what is selected. -/
theorem Timed.selects_select (h : disk.Timed) (path : String) (formats : List (String × α)) :
    Selects disk path formats (disk.select path formats) := by
  cases hext : Path.extension? path with
  | some ext =>
    rw [select_of_extension hext]
    cases hlookup : formats.lookup ext with
    | some format =>
      obtain ⟨before, after, heq, hbefore⟩ := List.lookup_eq_some_iff.1 hlookup
      exact .bound hext heq fun e he h => by simpa [h] using hbefore e he
    | none =>
      have hnone := List.lookup_eq_none_iff.1 hlookup
      exact .unbound hext fun e he h => by simpa [h] using hnone e he
  | none =>
    rw [select_of_no_extension hext]
    cases hlatest : latest? (disk.candidates path formats) with
    | some c =>
      obtain ⟨before, ext, after, heq, hfile, hstands, htime, hbefore, hafter⟩ :=
        h.firstLatest_candidates_iff.1 ((latest?_eq_some_iff h.candidates).1 hlatest)
      obtain ⟨time, hknown⟩ := h.exists_time hstands
      rw [Candidate.time, htime, hknown] at hbefore hafter
      exact .latest hext heq hfile hknown hbefore hafter
    | none =>
      have hnil := List.filterMap_eq_nil_iff.1 (latest?_eq_none_iff.1 hlatest)
      exact .missing hext fun e he => candidate?_eq_none_iff.1 (hnil e he)

/-- The rules allow for one selection only. -/
theorem Timed.select_eq_of_selects (h : disk.Timed) {s : Selection α}
    (hselects : Selects disk path formats s) : disk.select path formats = s := by
  cases hselects with
  | @bound ext format before after hext heq hbefore =>
    have hlookup : formats.lookup ext = some format :=
      List.lookup_eq_some_iff.2 ⟨before, after, heq, fun e he => by simpa using (hbefore e he).symm⟩
    rw [select_of_extension hext, hlookup]
  | @unbound ext hext hnone =>
    have hlookup : formats.lookup ext = none :=
      List.lookup_eq_none_iff.2 fun e he => by simpa using (hnone e he).symm
    rw [select_of_extension hext, hlookup]
  | @latest ext file format before after time hext heq hfile htime hbefore hafter =>
    have hfirst : FirstLatest (disk.candidates path formats) ⟨file, format, some time⟩ :=
      h.firstLatest_candidates_iff.2 ⟨before, ext, after, heq, hfile, stands_of_modified? htime,
        htime.symm, hbefore, hafter⟩
    rw [select_of_no_extension hext, (latest?_eq_some_iff h.candidates).2 hfirst]
  | missing hext hnone =>
    have hnil : disk.candidates path formats = [] :=
      List.filterMap_eq_nil_iff.2 fun e he => candidate?_eq_none_iff.2 (hnone e he)
    rw [select_of_no_extension hext, hnil]
    rfl

/-- What is selected is what the rules allow for. -/
theorem Timed.select_eq_iff (h : disk.Timed) {s : Selection α} :
    disk.select path formats = s ↔ Selects disk path formats s :=
  ⟨fun heq => heq ▸ h.selects_select path formats, h.select_eq_of_selects⟩

end Disk

/-! ### Loading -/

namespace RuleSet

open RuleFile (Format)

variable {disk disk' : Disk} {path : String}

/-- The rule set of a rule file of a format. -/
def ofFormat : Format → Cursor → Except LoadError RuleSet
  | .plain => ofPlain
  | .json => ofJson

/-- What comes of loading the file that a selection tells. -/
def ofSelection (disk : Disk) (path : String) :
    Disk.Selection Format → Except LoadError RuleSet
  | .valid file format =>
    match disk.readText? file with
    | .ok text => ofFormat format (Cursor.ofText file text)
    | .error fault => .error (.unreadable file fault)
  | .wrongExtension ext => .error (.unrecognisedExtension ext path)
  | .nonExisting => .error (.noRuleFile path)

/-- The file selected is read in its format. -/
theorem load_eq_of_select (disk : Disk) (path : String) :
    load disk path = ofSelection disk path (disk.select path Format.extensions) := by
  unfold load RuleFile.locate
  cases disk.select path Format.extensions with
  | valid file format =>
    simp only [ofSelection, bind, Except.bind, Cursor.ofFile]
    cases disk.readText? file with
    | ok text => cases format <;> rfl
    | error fault => rfl
  | wrongExtension ext => rfl
  | nonExisting => rfl

/-- What else is on the disk does not matter: files that are read alike are loaded alike, if as much
    is known of them as the selection looks at. -/
theorem load_congr
    (hseen : Disk.Path.extension? path = none → ∀ e ∈ Format.extensions,
      ∀ file ∈ Disk.Path.withExtension? path e.1,
        disk'.stands file = disk.stands file ∧ disk'.modified? file = disk.modified? file)
    (htext : ∀ file format, disk.select path Format.extensions = .valid file format →
      disk'.readText? file = disk.readText? file) :
    load disk' path = load disk path := by
  have hselect : disk'.select path Format.extensions = disk.select path Format.extensions := by
    cases hext : Disk.Path.extension? path with
    | some ext => rw [Disk.select_of_extension hext, Disk.select_of_extension hext]
    | none =>
      have hcandidates : disk'.candidates path Format.extensions =
          disk.candidates path Format.extensions :=
        List.filterMap_congr fun e he => Option.bind_congr fun file hfile => by
          simp only [hseen hext e he file hfile]
      rw [Disk.select_of_no_extension hext, Disk.select_of_no_extension hext, hcandidates]
  rw [load_eq_of_select, load_eq_of_select, hselect]
  cases hvalid : disk.select path Format.extensions with
  | valid file format => simp only [ofSelection, htext file format hvalid]
  | wrongExtension ext => rfl
  | nonExisting => rfl

end RuleSet

/-- **Selection.** Take any disk on which all that stands has a time, any path, and any list of
    extensions with their formats, none of them with a slash where the path has no extension.

    * The rules allow for one selection, which is what is selected: by an extension, the first
      format bound to it, or none; without an extension, the first one of the files changed last,
      with its own format, or nothing exactly if none of them stands. Whether they can be opened
      does not matter.
    * The files that a path without an extension may stand for are called by the path, less the
      slashes at its end, a point and an extension.
    * A rule set is loaded from the file that is selected, in its format; otherwise the path itself
      is told in the error.
    * Nothing else on the disk matters for this but which of these files stand, and their times. -/
theorem Disk.select_latest {α : Type} {disk : Disk} (htimes : disk.Timed) (path : String)
    {formats : List (String × α)}
    (hslash : Path.extension? path = none → ∀ e ∈ formats, '/' ∉ e.1.toList) :
    (∀ s, disk.select path formats = s ↔ Selects disk path formats s) ∧
    ((Path.fileName? path).isSome → Path.extension? path = none →
      (∀ e ∈ formats, Path.withExtension? path e.1 =
        some (if e.1 = "" then Path.trimmed path else Path.trimmed path ++ "." ++ e.1)) ∧
      ((∀ c ∈ path.toList.getLast?, c ≠ '/' ∧ c ≠ '.') → Path.trimmed path = path)) ∧
    (∀ s, Selects disk path RuleFile.Format.extensions s →
      RuleSet.load disk path = RuleSet.ofSelection disk path s) ∧
    ∀ disk' : Disk, (Path.extension? path = none → ∀ e ∈ RuleFile.Format.extensions,
        ∀ file ∈ Path.withExtension? path e.1,
          disk'.stands file = disk.stands file ∧ disk'.modified? file = disk.modified? file) →
      (∀ file format, Selects disk path RuleFile.Format.extensions (.valid file format) →
        disk'.readText? file = disk.readText? file) →
      RuleSet.load disk' path = RuleSet.load disk path := by
  refine ⟨fun s => htimes.select_eq_iff, fun hname hext => ⟨fun e he => ?_, Path.trimmed_eq⟩,
    fun s hs => ?_, fun disk' hseen htext => ?_⟩
  · exact Path.withExtension?_eq hname hext (hslash hext e he)
  · rw [RuleSet.load_eq_of_select, htimes.select_eq_of_selects hs]
  · exact RuleSet.load_congr hseen fun file format h =>
      htext file format (htimes.select_eq_iff.1 h)

/-- Of three files, the last two were changed at the same time, after the first one. Whatever the
    first one says, the second one is loaded. If the first one is the latest, it is selected,
    though it cannot be opened. -/
theorem Disk.select_latest_json :
    let json : Entry := .ofNode ⟨.file "\x7b\"start\":7\x7d".toUTF8, 2⟩
    let closed : Except Fault Content := .error (.other "Permission denied (os error 13)")
    let disk := Disk.ofEntries [("r.olx", .ok ⟨some 1, closed⟩), ("r.json", .ok json),
      ("r.txt", .ok ⟨some 2, .ok .directory⟩)]
    let disk' := Disk.ofEntries [("r.olx", .ok ⟨some 1, .ok .directory⟩), ("r.json", .ok json)]
    let later := Disk.ofEntries [("r.olx", .ok ⟨some 3, closed⟩), ("r.json", .ok json)]
    disk.select "r/." [("olx", 0), ("json", 1), ("txt", 2)] = .valid "r.json" 1 ∧
      Path.withExtension? "r/." "json" = some (Path.trimmed "r/." ++ "." ++ "json") ∧
      (RuleSet.load disk "r/.").toOption = some (RuleSet.startingAt ⟨7, by decide⟩) ∧
      RuleSet.load disk' "r/." = RuleSet.load disk "r/." ∧
      RuleSet.load later "r/." =
        .error (.unreadable "r.olx" (.other "Permission denied (os error 13)")) := by
  intro json closed disk disk' later
  have htimes : disk.Timed := timed_ofEntries (by decide +kernel)
  have htimes' : later.Timed := timed_ofEntries (by decide +kernel)
  have hext : Path.extension? "r/." = none := by decide +kernel
  obtain ⟨hselect, hnamed, -, -⟩ := select_latest htimes "r/."
    (show _ → ∀ e ∈ [("olx", 0), ("json", 1), ("txt", 2)], '/' ∉ e.1.toList from
      fun _ => by decide +kernel)
  have hslash : ∀ e ∈ RuleFile.Format.extensions, '/' ∉ e.1.toList := by decide +kernel
  obtain ⟨-, -, hload, hcongr⟩ := select_latest htimes "r/." fun _ => hslash
  obtain ⟨-, -, hload', -⟩ := select_latest htimes' "r/." fun _ => hslash
  have hjson : Selects disk "r/." RuleFile.Format.extensions (.valid "r.json" .json) :=
    .latest hext
      (show RuleFile.Format.extensions = [("olx", .plain)] ++ ("json", .json) :: [] from rfl)
      (by decide +kernel) (show _ = some 2 by decide +kernel) (by decide +kernel) nofun
  have holx : Selects later "r/." RuleFile.Format.extensions (.valid "r.olx" .plain) :=
    .latest hext (show RuleFile.Format.extensions = [] ++ ("olx", .plain) :: [("json", .json)]
      from rfl) (by decide +kernel) (show _ = some 3 by decide +kernel) nofun (by decide +kernel)
  refine ⟨(hselect _).2 ?_, (hnamed (by decide +kernel) hext).1 ("json", 1) (by decide), ?_,
    hcongr disk' ?_ ?_, hload' _ holx⟩
  · exact .latest hext (show _ = [("olx", 0)] ++ ("json", 1) :: [("txt", 2)] from rfl)
      (by decide +kernel) (show _ = some 2 by decide +kernel) (by decide +kernel)
      (by decide +kernel)
  · rw [hload _ hjson]
    decide +kernel
  · exact fun _ => by decide +kernel
  · intro file format hfile
    have hsame := (htimes.select_eq_of_selects hfile).symm.trans (htimes.select_eq_of_selects hjson)
    rw [(Selection.valid.inj hsame).1]
    rfl

end OrderedLexer
