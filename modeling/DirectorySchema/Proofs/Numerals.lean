import DirectorySchema.Text.Numeral
import DirectorySchema.Proofs.Texts
import Mathlib.Algebra.Group.Nat.Defs

/-!
# Numerals that are read and written

Writing an integer gives a numeral without white space that reads back as it, as long as its
digits stay within the limit. An integer that was read has no more digits than the numeral it
came from, so it can always be written and read again. White space may stand around what is
read and nowhere in it.
-/

set_option autoImplicit false

namespace DirectorySchema.Text

theorem isBlank_of_isAsciiDigit {c : Char} (h : isAsciiDigit c = true) : isBlank c = false := by
  simp only [isAsciiDigit, Bool.and_eq_true, decide_eq_true_eq] at h
  simp [isBlank]
  omega

theorem asciiNumeralChar_of_isAsciiDigit {c : Char} (h : isAsciiDigit c = true) :
    asciiNumeralChar c = c := by
  simp only [isAsciiDigit, Bool.and_eq_true, decide_eq_true_eq] at h
  rw [asciiNumeralChar, if_pos (by omega)]

theorem ne_of_isAsciiDigit {c d : Char} (hc : isAsciiDigit c = true) (hd : isAsciiDigit d = false) :
    c ≠ d := by
  rintro rfl
  rw [hc] at hd
  cases hd

def IsDigits (s : Text) : Prop := ∀ c ∈ s, isAsciiDigit c = true

theorem IsDigits.solid {s : Text} (h : IsDigits s) : Solid s :=
  fun c hc => isBlank_of_isAsciiDigit (h c hc)

theorem isDigits_ofNat (n : Nat) : IsDigits (ofNat n) := by
  intro c hc
  have hdigit := Nat.isDigit_of_mem_toDigits (by decide) (by decide) hc
  simpa [isAsciiDigit, Char.isDigit, UInt32.le_iff_toNat_le] using hdigit

theorem ofNat_ne_nil (n : Nat) : ofNat n ≠ [] := Nat.toDigits_ne_nil

theorem digitsValue_ofNat (n : Nat) : digitsValue (ofNat n) = n :=
  Nat.ofDigitChars_toDigits (by decide) (by decide)

theorem digitsValue_lt {s : Text} (h : IsDigits s) : digitsValue s < 10 ^ s.length := by
  have hfold : ∀ acc,
      s.foldl (fun n c => 10 * n + (c.toNat - 48)) acc < (acc + 1) * 10 ^ s.length := by
    induction s with
    | nil => simp
    | cons c s ih =>
      intro acc
      obtain ⟨hc, hs⟩ := List.forall_mem_cons.mp h
      simp only [isAsciiDigit, Bool.and_eq_true, decide_eq_true_eq] at hc
      have hstep : 10 * acc + (c.toNat - 48) + 1 ≤ (acc + 1) * 10 := by omega
      calc
        (c :: s).foldl (fun n c => 10 * n + (c.toNat - 48)) acc
            < (10 * acc + (c.toNat - 48) + 1) * 10 ^ s.length := ih hs _
        _ ≤ (acc + 1) * 10 * 10 ^ s.length := Nat.mul_le_mul_right _ hstep
        _ = (acc + 1) * 10 ^ (c :: s).length := by
          rw [List.length_cons, Nat.pow_succ, Nat.mul_assoc, Nat.mul_comm 10]
  rw [digitsValue]
  simpa using hfold 0

theorem underscoresOk_of_isDigits {s : Text} (h : IsDigits s) : underscoresOk s = true := by
  induction s with
  | nil => rfl
  | cons c s ih =>
    obtain ⟨hc, hs⟩ := List.forall_mem_cons.mp h
    have hne := ne_of_isAsciiDigit hc (d := '_') (by decide)
    rw [underscoresOk.eq_def]
    simp [hne, ih hs]

theorem readSign_of_isDigits {s : Text} (h : IsDigits s) : readSign s = (false, s) := by
  cases s with
  | nil => rfl
  | cons c s =>
    have hc := h c (by simp)
    have hplus := ne_of_isAsciiDigit hc (d := '+') (by decide)
    have hminus := ne_of_isAsciiDigit hc (d := '-') (by decide)
    simp [readSign, hplus, hminus]

theorem map_asciiNumeralChar {s : Text} (h : IsDigits s) : s.map asciiNumeralChar = s := by
  rw [List.map_congr_left (fun c hc => asciiNumeralChar_of_isAsciiDigit (h c hc)), List.map_id']

theorem dropWhile_isNumeralSpace {s : Text} (h : Solid s) : s.dropWhile isNumeralSpace = s := by
  cases s with
  | nil => rfl
  | cons c s =>
    have hc := h c (by simp)
    have hspace : isNumeralSpace c = false := by
      by_contra hspace
      simp only [isNumeralSpace, Bool.not_eq_false, Bool.or_eq_true, Bool.and_eq_true, beq_iff_eq,
        decide_eq_true_eq] at hspace
      rcases hspace with rfl | hrange
      · exact absurd hc (by decide)
      · simp [isBlank, hrange] at hc
    rw [List.dropWhile_cons_of_neg (by simp [hspace])]

theorem readInteger_of_sign {s ds : Text} {negative : Bool}
    (hsign : readSign ((s.map asciiNumeralChar).dropWhile isNumeralSpace) = (negative, ds))
    (h : IsDigits ds) (hne : ds ≠ []) (hlimit : ds.length ≤ digitLimit) :
    readInteger s = .ok (if negative then -(digitsValue ds : Int) else digitsValue ds) := by
  have hrun : ds.takeWhile (fun c => isAsciiDigit c || c == '_') = ds := by
    rw [List.takeWhile_eq_self_iff]
    intro c hc
    simp [h c hc]
  have hdigits : ds.filter isAsciiDigit = ds := List.filter_eq_self.mpr h
  have hhead : ds.head? ≠ some '_' := by
    intro hhead
    exact absurd (h '_' (List.mem_of_head? hhead)) (by decide)
  unfold readInteger
  simp only [hsign, hrun, hdigits]
  simp [hhead, underscoresOk_of_isDigits h, Nat.not_lt.mpr hlimit, hne]

theorem solid_ofInt (n : Int) : Solid (ofInt n) := by
  cases n with
  | ofNat n => exact (isDigits_ofNat n).solid
  | negSucc n =>
    exact List.forall_mem_cons.mpr ⟨by decide, (isDigits_ofNat (n + 1)).solid⟩

theorem readInteger_ofInt {n : Int} (h : (ofNat n.natAbs).length ≤ digitLimit) :
    readInteger (ofInt n) = .ok n := by
  cases n with
  | ofNat n =>
    have hdigits := isDigits_ofNat n
    have hsign : readSign (((ofInt (.ofNat n)).map asciiNumeralChar).dropWhile isNumeralSpace)
        = (false, ofNat n) := by
      rw [ofInt, map_asciiNumeralChar hdigits, dropWhile_isNumeralSpace hdigits.solid,
        readSign_of_isDigits hdigits]
    rw [readInteger_of_sign hsign hdigits (ofNat_ne_nil n) h, digitsValue_ofNat]
    rfl
  | negSucc n =>
    have hdigits := isDigits_ofNat (n + 1)
    have hsign : readSign (((ofInt (.negSucc n)).map asciiNumeralChar).dropWhile isNumeralSpace)
        = (true, ofNat (n + 1)) := by
      have hmap : (ofInt (.negSucc n)).map asciiNumeralChar = ofInt (.negSucc n) :=
        congrArg ('-' :: ·) (map_asciiNumeralChar hdigits)
      rw [hmap, dropWhile_isNumeralSpace (solid_ofInt (.negSucc n))]
      rfl
    rw [readInteger_of_sign hsign hdigits (ofNat_ne_nil (n + 1)) h, digitsValue_ofNat]
    rfl

theorem parts_of_readInteger {s : Text} {n : Int} (h : readInteger s = .ok n) :
    ∃ negative run rest,
      readSign ((s.map asciiNumeralChar).dropWhile isNumeralSpace) = (negative, run ++ rest) ∧
      (∀ c ∈ run, isAsciiDigit c = true ∨ c = '_') ∧
      (run.filter isAsciiDigit).length ≤ digitLimit ∧ (∀ c ∈ rest, isNumeralSpace c = true) ∧
      n = if negative then -(digitsValue (run.filter isAsciiDigit) : Int)
        else digitsValue (run.filter isAsciiDigit) := by
  rcases hsign : readSign ((s.map asciiNumeralChar).dropWhile isNumeralSpace) with ⟨negative, body⟩
  unfold readInteger at h
  simp only [hsign] at h
  split at h
  · cases h
  split at h
  · cases h
  next hlimit =>
  split at h
  · cases h
  next hrest =>
  rw [Bool.or_eq_true, not_or, Bool.not_eq_true', Bool.not_eq_false, List.all_eq_true] at hrest
  refine ⟨negative, body.takeWhile fun c => isAsciiDigit c || c == '_', _, ?_, ?_,
    Nat.not_lt.mp hlimit, hrest.2, (Except.ok.inj h).symm⟩
  · rw [List.prefix_iff_eq_append.mp (List.takeWhile_prefix _)]
  · intro c hc
    simpa using List.all_eq_true.mp List.all_takeWhile c hc

theorem natAbs_lt_of_readInteger {s : Text} {n : Int} (h : readInteger s = .ok n) :
    n.natAbs < 10 ^ digitLimit := by
  obtain ⟨negative, run, rest, -, -, hlimit, -, rfl⟩ := parts_of_readInteger h
  have hdigits : IsDigits (run.filter isAsciiDigit) := fun c hc => (List.mem_filter.mp hc).2
  have hvalue := (digitsValue_lt hdigits).trans_le (Nat.pow_le_pow_right (by decide) hlimit)
  split
  · rwa [Int.natAbs_neg, Int.natAbs_natCast]
  · rwa [Int.natAbs_natCast]

/-- What was read can be written and read again. -/
theorem readInteger_ofInt_of_read {s : Text} {n : Int} (h : readInteger s = .ok n) :
    readInteger (ofInt n) = .ok n := by
  apply readInteger_ofInt
  rw [ofNat, Nat.length_toDigits_le_iff (by decide) (by decide)]
  exact natAbs_lt_of_readInteger h

theorem decimalValue?_lt {c : Char} {d : Nat} (h : decimalValue? c = some d) : d < 10 := by
  obtain ⟨z, hz, rfl⟩ := Option.map_eq_some_iff.mp h
  have hrange := List.find?_some hz
  simp only [Bool.and_eq_true, decide_eq_true_eq] at hrange
  omega

theorem isBlank_of_isNumeralSpace {c : Char} (h : isNumeralSpace c = true) : isBlank c = true := by
  simp only [isNumeralSpace, Bool.or_eq_true, Bool.and_eq_true, beq_iff_eq,
    decide_eq_true_eq] at h
  rcases h with rfl | hrange
  · decide
  · simp [isBlank, hrange]

theorem isBlank_of_asciiNumeralChar {c : Char} (h : isNumeralSpace (asciiNumeralChar c) = true) :
    isBlank c = true := by
  unfold asciiNumeralChar at h
  split at h
  · exact isBlank_of_isNumeralSpace h
  split at h
  · assumption
  next hc hblank =>
  split at h
  · next d hd =>
    have hlt := decimalValue?_lt hd
    have hspace : ∀ n : Fin 10, isNumeralSpace (Char.ofNat (48 + n)) = false := by decide
    have hdigit := hspace ⟨d, hlt⟩
    rw [h] at hdigit
    cases hdigit
  · exact isBlank_of_isNumeralSpace h

theorem toNat_asciiNumeralChar_le {c : Char} (h : isBlank c = true) :
    (asciiNumeralChar c).toNat ≤ 32 := by
  unfold asciiNumeralChar
  split
  · simp [isBlank] at h
    omega
  · decide

theorem readSign_cases {s body : Text} {negative : Bool} (h : readSign s = (negative, body)) :
    ∃ sign, s = sign ++ body ∧ ∀ c ∈ sign, 32 < c.toNat := by
  unfold readSign at h
  split at h
  · exact ⟨['+'], by rw [(Prod.mk.inj h).2]; rfl, List.forall_mem_singleton.mpr (by decide)⟩
  · exact ⟨['-'], by rw [(Prod.mk.inj h).2]; rfl, List.forall_mem_singleton.mpr (by decide)⟩
  · exact ⟨[], (Prod.mk.inj h).2, by simp⟩

theorem exists_run_of_readInteger {s : Text} {n : Int} (h : readInteger s = .ok n) :
    ∃ run rest, (s.map asciiNumeralChar).dropWhile isNumeralSpace = run ++ rest ∧
      (∀ c ∈ run, 32 < c.toNat) ∧ ∀ c ∈ rest, isNumeralSpace c = true := by
  obtain ⟨negative, run, rest, hsign, hrun, -, hrest, -⟩ := parts_of_readInteger h
  obtain ⟨sign, hbody, hsolid⟩ := readSign_cases hsign
  refine ⟨sign ++ run, rest, by rw [hbody, List.append_assoc], ?_, hrest⟩
  refine List.forall_mem_append.mpr ⟨hsolid, fun c hc => ?_⟩
  rcases hrun c hc with hdigit | rfl
  · simp only [isAsciiDigit, Bool.and_eq_true, decide_eq_true_eq] at hdigit
    omega
  · decide

/-- A numeral that stands in no white space has none inside. -/
theorem solid_of_readInteger {s : Text} {n : Int} (hs : Trimmed s) (h : readInteger s = .ok n) :
    Solid s := by
  obtain ⟨run, rest, hsplit, hrun, hrest⟩ := exists_run_of_readInteger h
  have hfront : (s.map asciiNumeralChar).dropWhile isNumeralSpace = s.map asciiNumeralChar := by
    cases s with
    | nil => rfl
    | cons c s =>
      have hc : isNumeralSpace (asciiNumeralChar c) = false := by
        rw [← Bool.not_eq_true]
        intro hspace
        have hblank := isBlank_of_asciiNumeralChar hspace
        rw [hs.front c rfl] at hblank
        cases hblank
      rw [List.map_cons, List.dropWhile_cons_of_neg (by simp [hc])]
  rw [hfront] at hsplit
  have hnil : rest = [] := by
    by_contra hne
    have hlast : (s.map asciiNumeralChar).getLast? = some (rest.getLast hne) := by
      rw [hsplit, List.getLast?_append_of_ne_nil _ hne, List.getLast?_eq_some_getLast hne]
    rw [List.getLast?_map, Option.map_eq_some_iff] at hlast
    obtain ⟨c, hc, himage⟩ := hlast
    have hblank := isBlank_of_asciiNumeralChar (himage ▸ hrest _ (List.getLast_mem hne))
    rw [hs.back c hc] at hblank
    cases hblank
  intro c hc
  rw [← Bool.not_eq_true]
  intro hblank
  have hmem : asciiNumeralChar c ∈ run := by
    rw [hnil, List.append_nil] at hsplit
    exact hsplit ▸ List.mem_map_of_mem hc
  have hlow := toNat_asciiNumeralChar_le hblank
  have hhigh := hrun _ hmem
  omega

end DirectorySchema.Text
