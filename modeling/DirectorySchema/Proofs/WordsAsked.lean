import DirectorySchema.Proofs.WrittenTerms

/-!
# Words that are asked for

A text of white space alone has no first word, and whoever asks for one is stopped. Here a
description is read by a reader that asks for one word after the other and is stopped like that,
or by a fault of the text. Only faults stop it: whatever it asks for a word is empty or starts
with one, since each step leaves such a text or the next one strips what it has left. So reading
goes on, on shorter and shorter texts, until it is done or the text is refused.
-/

set_option autoImplicit false

namespace DirectorySchema

namespace Text

theorem firstWord?_of_trimLeft {s : Text} {c : Char} {r : Text} (h : trimLeft s = c :: r) :
    firstWord? s = some (wordFrom c r) := by
  have hne : s.isEmpty = false := by
    cases s with
    | nil => cases h
    | cons => rfl
  rw [firstWord?, hne, h]
  rfl

theorem firstWord?_eq_none_iff {s : Text} : firstWord? s = none ↔ s ≠ [] ∧ Blank s := by
  cases s with
  | nil => simp [firstWord?]
  | cons c s =>
    have hblank : trimLeft (c :: s) = [] ↔ Blank (c :: s) := by simp [trimLeft, Blank]
    rw [← hblank]
    cases hs : trimLeft (c :: s) with
    | nil => simp [firstWord?, hs]
    | cons d r => simp [firstWord?_of_trimLeft hs]

theorem exists_runs_of_isDotted {s : Text} (h : isDotted s = true) :
    ∃ runs : List Text, runs ≠ [] ∧ s = joinWith ['.'] runs ∧
      ∀ run ∈ runs, run ≠ [] ∧ ∀ c ∈ run, isAsciiDigit c = true := by
  refine ⟨s.splitOn '.', List.splitOn_ne_nil '.' s, (List.intercalate_splitOn '.').symm, ?_⟩
  intro run hrun
  have hdigits := List.all_eq_true.mp h run hrun
  rw [Bool.and_eq_true, List.all_eq_true] at hdigits
  exact ⟨by simpa using hdigits.1, hdigits.2⟩

end Text

namespace Description

open Text

/-- What stops a reader that asks for words: a fault of the text, or no word to be had. -/
inductive Stop where
  | fault (f : Fault)
  | noWord
  deriving DecidableEq, Repr

namespace Asking

def word (s : Text) : Except Stop (Text × Text) :=
  match firstWord? s with
  | none => .error .noWord
  | some p => .ok p

def reference (r : Reference) (s : Text) : Except Stop (Term × Text) := do
  let p ← word s
  if p.1.isEmpty then .error (.fault (.noValue r.keyword)) else .ok (.reference r p.1, p.2)

def term (k : Kind) (keyword rest : Text) : Except Stop (Term × Text) :=
  match k.references.find? (·.keyword == keyword) with
  | some r => reference r rest
  | none => (readTerm k keyword rest).mapError .fault

def round (k : Kind) (s : Text) : Except Stop (Option (Term × Text)) := do
  let p ← word (trimLeft s)
  if p.1.isEmpty then .ok none else (term k p.1 p.2).map some

section
variable {k : Kind} {s : Text}

theorem word_eq_noWord_iff : word s = .error .noWord ↔ s ≠ [] ∧ Blank s := by
  rw [← firstWord?_eq_none_iff, word]
  cases firstWord? s <;> simp

theorem word_of_cons {c : Char} {r : Text} (h : trimLeft s = c :: r) :
    word s = .ok (wordFrom c r) := by
  rw [word, firstWord?_of_trimLeft h]

theorem reference_eq (r : Reference) (hs : trimLeft s = s) :
    reference r s = (readReference r s).mapError .fault := by
  cases s with
  | nil => rfl
  | cons c q =>
    rw [reference, word_of_cons hs]
    rfl

theorem term_eq (k : Kind) (keyword : Text) (hs : trimLeft s = s) :
    term k keyword s = (readTerm k keyword s).mapError .fault := by
  rw [term]
  split
  · next r hr =>
    have hkeyword := List.find?_some hr
    rw [← eq_of_beq hkeyword, readTerm_reference s (List.mem_of_find?_eq_some hr),
      reference_eq r hs]
  · rfl

theorem round_of_nil (hs : trimLeft s = []) : round k s = .ok none := by
  rw [round, hs]
  rfl

/-- What stands behind a word is stripped already when the value of a reference is asked for. -/
theorem round_of_cons {c : Char} {r : Text} (hs : trimLeft s = c :: r) :
    round k s = ((readTerm k (wordFrom c r).1 (wordFrom c r).2).mapError .fault).map some := by
  have hcons : trimLeft (c :: r) = c :: r := trimLeft_cons (isBlank_of_trimLeft_eq hs) r
  have hbehind : trimLeft (wordFrom c r).2 = (wordFrom c r).2 := trimLeft_trimLeft _
  rw [round, hs, word_of_cons hcons, ← term_eq k _ hbehind]
  rfl

theorem round_ne_noWord (k : Kind) (s : Text) : round k s ≠ .error .noWord := by
  cases hs : trimLeft s with
  | nil => simp [round_of_nil hs]
  | cons c r =>
    rw [round_of_cons hs]
    cases readTerm k (wordFrom c r).1 (wordFrom c r).2 <;> simp [Except.map, Except.mapError]

theorem length_of_round {t : Term} {rest : Text} (h : round k s = .ok (some (t, rest))) :
    rest.length < s.length := by
  cases hs : trimLeft s with
  | nil => simp [round_of_nil hs] at h
  | cons c r =>
    rw [round_of_cons hs] at h
    obtain ⟨p, hp, heq⟩ := map_eq_ok_iff.mp h
    rw [mapError_eq_ok_iff] at hp
    cases heq
    have hterm := readTerm_length_le hp
    have hword := wordFrom_length_le c r
    have htrim := trimLeft_length_le s
    rw [hs, List.length_cons] at htrim
    omega

end

def terms (k : Kind) (s : Text) : Except Stop (List Term) :=
  match h : round k s with
  | .error e => .error e
  | .ok none => .ok []
  | .ok (some (t, rest)) =>
    have : rest.length < s.length := length_of_round h
    (terms k rest).map (t :: ·)
  termination_by s.length

def body (k : Kind) (s : Text) : Except Stop (Description k) := do
  let p ← word s
  if !isNumericOid p.1 then .error (.fault (.notNumeric p.1))
  else
    let ts := (← terms k p.2).foldl Terms.add {}
    (k.check ts).mapError .fault
    return ⟨p.1, ts⟩

def description (k : Kind) (s : Text) : Except Stop (Description k) :=
  match inParentheses? (trim s) with
  | none => .error (.fault .noParentheses)
  | some inner => body k (trim inner)

section
variable {k : Kind} {s : Text}

theorem terms_of_error {e : Stop} (h : round k s = .error e) : terms k s = .error e := by
  rw [terms.eq_def]
  split <;> simp_all

theorem terms_of_none (h : round k s = .ok none) : terms k s = .ok [] := by
  rw [terms.eq_def]
  split <;> simp_all

theorem terms_of_some {t : Term} {rest : Text} (h : round k s = .ok (some (t, rest))) :
    terms k s = (terms k rest).map (t :: ·) := by
  rw [terms.eq_def]
  split <;> simp_all

theorem terms_eq (k : Kind) (s : Text) : terms k s = (readTerms k s).mapError .fault := by
  fun_induction readTerms k s with
  | case1 s hs => rw [terms_of_none (round_of_nil hs), Except.mapError]
  | case2 s c r hs e he =>
    have hround : round k s = .error (.fault e) := by
      rw [round_of_cons hs, he]
      rfl
    rw [terms_of_error hround, Except.mapError]
  | case3 s c r hs t rest ht hlt ih =>
    have hround : round k s = .ok (some (t, rest)) := by
      rw [round_of_cons hs, ht]
      rfl
    rw [terms_of_some hround, ih]
    cases readTerms k rest <;> rfl

theorem body_eq (hs : Trimmed s) : body k s = (readBody k s).mapError .fault := by
  cases s with
  | nil => rfl
  | cons c r =>
    have hword : word (c :: r) = .ok (wordFrom c r) :=
      word_of_cons (trimLeft_cons (hs.front c rfl) r)
    rw [body, hword, readBody]
    change (if !isNumericOid (wordFrom c r).1 then _ else _) = _
    simp only [terms_eq]
    split
    · rfl
    · cases readTerms k (wordFrom c r).2 with
      | error e => rfl
      | ok ts =>
        cases hcheck : k.check (ts.foldl Terms.add {}) <;>
          simp [hcheck, Except.mapError, bind, Except.bind, pure, Except.pure]

theorem description_eq (k : Kind) (s : Text) :
    description k s = (parse k s).mapError fun e => .fault e.fault := by
  rw [description, parse]
  cases inParentheses? (trim s) with
  | none => rfl
  | some inner =>
    simp only [body_eq (trimmed_trim inner)]
    cases readBody k (trim inner) <;> rfl

theorem text_of_parse_eq_error {e : Malformed} (h : parse k s = .error e) : e = ⟨s, e.fault⟩ := by
  unfold parse at h
  split at h
  · cases h
    rfl
  · obtain ⟨f, -, rfl⟩ := mapError_eq_error_iff.mp h
    rfl

end

/-- A text is read or refused as malformed, and no word is asked for where white space alone
stands, which would have stopped the reader; each round leaves a shorter text for the next one,
of the terms as of the strings in a list; and the identifier of what was read is made up of runs
of digits with dots between them, and of nothing else. -/
theorem read_or_refused (k : Kind) (s : Text) :
    ((∃ d, description k s = .ok d ∧ parse k s = .ok d) ∨
      ∃ f, description k s = .error (.fault f) ∧ parse k s = .error ⟨s, f⟩) ∧
    ((∀ r, word r = .error .noWord ↔ r ≠ [] ∧ Blank r) ∧ ∀ r, round k r ≠ .error .noWord) ∧
    (∀ r t rest, round k r = .ok (some (t, rest)) →
      terms k r = (terms k rest).map (t :: ·) ∧ rest.length < r.length) ∧
    (∀ r v rest, readString r = .ok (v, rest) →
      readMembers r = (readMembers (trim rest)).map (v :: ·) ∧ (trim rest).length < r.length) ∧
    ∀ d, parse k s = .ok d → Solid d.oid ∧ ∃ runs : List Text, runs ≠ [] ∧
      d.oid = joinWith ['.'] runs ∧ ∀ run ∈ runs, run ≠ [] ∧ ∀ c ∈ run, isAsciiDigit c = true := by
  refine ⟨?_, ⟨fun r => word_eq_noWord_iff, round_ne_noWord k⟩, ?_, ?_, ?_⟩
  · rw [description_eq]
    cases hs : parse k s with
    | ok d => exact Or.inl ⟨d, rfl, rfl⟩
    | error e =>
      rw [text_of_parse_eq_error hs]
      exact Or.inr ⟨e.fault, rfl, rfl⟩
  · intro r t rest h
    exact ⟨terms_of_some h, length_of_round h⟩
  · intro r v rest h
    have htrim := trim_length_le rest
    have hstring := readString_length_lt h
    exact ⟨readMembers_of_readString h, by omega⟩
  · intro d hd
    have hread : d.WasRead := ⟨s, hd⟩
    exact ⟨hread.solid_oid, exists_runs_of_isDotted hread.dotted⟩

/-- A keyword with white space alone behind it, where the end of the description was stripped; a
line feed behind an identifier; and a text of which a round takes one term. -/
theorem sample_read_or_refused :
    let lacking : Text := "( 1.2.3 SUP \n\t)"
    let broken : Text := "(1.2.3\n\u2003SUP name\n)"
    let d : AttributeType := ⟨"1.2.3", { sup := some "name" }⟩
    (word " \t" = .error .noWord ∧ isNumericOid "1.2.3\n" = true) ∧
      (description .attributeType lacking = .error (.fault (.noValue "SUP")) ∧
        parse .attributeType lacking = .error ⟨lacking, .noValue "SUP"⟩) ∧
      (description .attributeType broken = .ok d ∧ parse .attributeType broken = .ok d ∧
        Solid d.oid) ∧
      (round .attributeType " SUP name OBSOLETE" = .ok (some (.reference .sup "name", "OBSOLETE")) ∧
        ("OBSOLETE" : Text).length < (" SUP name OBSOLETE" : Text).length) ∧
      (readString " 'a' 'b'" = .ok ("a", " 'b'") ∧
        readMembers " 'a' 'b'" = (readMembers "'b'").map (("a" : Text) :: ·)) := by
  intro lacking broken d
  obtain ⟨hlacking, ⟨hword, -⟩, hround, hmembers, -⟩ := read_or_refused .attributeType lacking
  obtain ⟨hbroken, -, -, -, hoid⟩ := read_or_refused .attributeType broken
  have hrefused : parse .attributeType lacking = .error ⟨lacking, .noValue "SUP"⟩ := by
    decide +kernel
  have hread : parse .attributeType broken = .ok d := by decide +kernel
  have hterm : round .attributeType " SUP name OBSOLETE" =
      .ok (some (.reference .sup "name", "OBSOLETE")) := by decide +kernel
  have hstring : readString " 'a' 'b'" = .ok ("a", " 'b'") := by decide +kernel
  rw [hrefused] at hlacking
  rw [hread] at hbroken
  refine ⟨⟨(hword _).mpr ⟨by decide, ?_⟩, by decide +kernel⟩, ⟨?_, hrefused⟩,
    ⟨?_, hread, (hoid d hread).1⟩, ⟨hterm, (hround _ _ _ hterm).2⟩,
    hstring, (hmembers _ _ _ hstring).1⟩
  · simp [Blank]
    decide
  · simpa using hlacking
  · simpa using hbroken

end Asking

end Description

end DirectorySchema
