import DirectorySchema.Proofs.CaseMappings
import DirectorySchema.Proofs.Identifiers

/-!
# Identifiers in lower case

Lower case leaves digits alone and makes none, so it does not change whether a text is taken
for a numeric identifier. The arcs of such an identifier are read as the numbers that their
digits stand for, zeros in front included.
-/

set_option autoImplicit false

namespace DirectorySchema.Text

def digitRuns : List CaseRun := digitRanges.map fun p => ⟨p.1, p.2, 1, p.1⟩

theorem isDigitLike_eq_any (c : Char) : isDigitLike c = digitRuns.any (·.covers c) := by
  simp [isDigitLike, inRanges, digitRuns, CaseRun.covers, List.any_map, Function.comp_def,
    Nat.mod_one]

theorem digitRuns_avoided : digitRuns.all lowerTable.avoids = true := by decide +kernel

theorem digitRuns_outside : (lowerTable.domain.all fun q =>
    digitRuns.all fun r => Nat.blt q.last r.first || Nat.blt r.last q.first) = true := by
  decide +kernel

theorem isDigitLike_of_mem_map {c d : Char} (hc : isDigitLike c = false)
    (hd : d ∈ lowerTable.map c) : isDigitLike d = false := by
  rw [isDigitLike_eq_any, List.any_eq_false] at hc ⊢
  intro r hr
  have havoids := List.all_eq_true.mp digitRuns_avoided r hr
  have hcovers := CaseTable.covers_eq_false_of_mem_map lowerTable_lands havoids
    (by simpa using hc r hr) hd
  simp [hcovers]

theorem map_of_isDigitLike {c : Char} (hc : isDigitLike c = true) : lowerTable.map c = [c] := by
  rw [isDigitLike_eq_any, List.any_eq_true] at hc
  obtain ⟨r, hr, hcovers⟩ := hc
  apply CaseTable.map_of_uncovered
  intro q hq
  have houtside := List.all_eq_true.mp (List.all_eq_true.mp digitRuns_outside q hq) r hr
  simp only [Bool.or_eq_true, Nat.blt_eq] at houtside
  simp only [CaseRun.covers, Bool.and_eq_true, decide_eq_true_eq] at hcovers
  rw [← Bool.not_eq_true]
  intro hq
  simp only [CaseRun.covers, Bool.and_eq_true, decide_eq_true_eq] at hq
  omega

theorem startsWithDigit_lower (s : Text) : startsWithDigit (lower s) = startsWithDigit s := by
  cases s with
  | nil => rfl
  | cons c s =>
    rw [lower, lowerAfter]
    cases hc : isDigitLike c with
    | true =>
      have hsigma : c ≠ 'Σ' := by
        rintro rfl
        exact absurd hc (by decide +kernel)
      rw [if_neg hsigma, lowerChar_eq_map, map_of_isDigitLike hc]
      rfl
    | false =>
      cases hplaced : (if c = 'Σ' then [if false && !startsCased s then 'ς' else 'σ']
          else lowerChar c) with
      | nil => exact absurd hplaced lowerPlaced_ne_nil
      | cons d ds =>
        have hd : isDigitLike d = false := by
          rcases mem_lowerPlaced (c := c) (d := d) (by rw [hplaced]; simp) with rfl | hmap
          · decide +kernel
          · exact isDigitLike_of_mem_map hc hmap
        exact hd.trans hc.symm

theorem isDigitLike_of_isAsciiDigit {c : Char} (h : isAsciiDigit c = true) :
    isDigitLike c = true :=
  startsWithDigit_of_isAsciiDigit h []

theorem lower_of_isDotted {s : Text} (h : isDotted s = true) : lower s = s := by
  apply lowerAfter_of_settled
  intro c hc
  rcases mem_of_isDotted h hc with hdigit | rfl
  · exact map_of_isDigitLike (isDigitLike_of_isAsciiDigit hdigit)
  · decide +kernel

def arcs (s : Text) : List Int := (s.splitOn '.').map fun arc => (digitsValue arc : Int)

theorem eq_digitsValue_of_readInteger {s : Text} (hs : IsDigits s) {n : Int}
    (h : readInteger s = .ok n) : n = digitsValue s := by
  obtain ⟨negative, run, rest, hsign, -, -, hrest, rfl⟩ := parts_of_readInteger h
  rw [map_asciiNumeralChar hs, dropWhile_isNumeralSpace hs.solid, readSign_of_isDigits hs,
    Prod.mk.injEq] at hsign
  obtain ⟨rfl, rfl⟩ := hsign
  have hnil : rest = [] := by
    rw [List.eq_nil_iff_forall_not_mem]
    intro c hc
    have hblank := isBlank_of_isNumeralSpace (hrest c hc)
    rw [hs.solid c (List.mem_append_right _ hc)] at hblank
    cases hblank
  rw [hnil, List.append_nil] at hs ⊢
  rw [List.filter_eq_self.mpr hs]
  rfl

theorem eq_arcs_of_read {s : Text} (hs : isDotted s = true) {ns : List Int}
    (h : (s.splitOn '.').mapM readInteger = .ok ns) : ns = arcs s := by
  have hdigits : ∀ arc ∈ s.splitOn '.', IsDigits arc := by
    intro arc harc
    have hall := List.all_eq_true.mp hs arc harc
    rw [Bool.and_eq_true, List.all_eq_true] at hall
    exact hall.2
  have hread := mapM_eq_ok_iff.mp h
  unfold arcs
  clear h hs
  generalize s.splitOn '.' = parts at hdigits hread
  induction hread with
  | nil => rfl
  | cons hn _ ih =>
    rw [List.forall_mem_cons] at hdigits
    rw [List.map_cons, ← eq_digitsValue_of_readInteger hdigits.1 hn, ← ih hdigits.2]

end DirectorySchema.Text
