import DirectorySchema.Proofs.ComparatorOrders
import DirectorySchema.Proofs.NameOrder
import DirectorySchema.Proofs.Sorting

/-!
# Names compared by their parts

The comparator for names takes two names as equal when, place by place, their relative names
have the same parts, each as often, whatever the order, the case and the spacing. Names that
are the same up to case have the same parts in that sense: white space has no case and tells
the letters beside it nothing, so it can be collapsed before or after a text is put into lower
case.
-/

set_option autoImplicit false

namespace DirectorySchema

namespace Text

theorem blanks_settled : (blankRuns.all fun r =>
    (List.range' r.first (r.last + 1 - r.first)).all fun n =>
      !isCased (Char.ofNat n) && !isCaseIgnorable (Char.ofNat n) &&
        lowerTable.map (Char.ofNat n) == [Char.ofNat n]) = true := by
  decide +kernel

theorem neutral_of_isBlank {c : Char} (hc : isBlank c = true) : Neutral c := by
  rw [isBlank_eq_any, List.any_eq_true] at hc
  obtain ⟨r, hr, hcovers⟩ := hc
  simp only [CaseRun.covers, Bool.and_eq_true, decide_eq_true_eq] at hcovers
  have hmem : c.toNat ∈ List.range' r.first (r.last + 1 - r.first) := by
    rw [List.mem_range'_1]
    omega
  have hsettled := List.all_eq_true.mp (List.all_eq_true.mp blanks_settled r hr) _ hmem
  simp only [Char.ofNat_toNat, Bool.and_eq_true, Bool.not_eq_true', beq_iff_eq] at hsettled
  exact ⟨hsettled.1.1, hsettled.1.2, hsettled.2⟩

theorem lower_cons_blank {c : Char} (hc : isBlank c = true) (s : Text) :
    lower (c :: s) = c :: lower s :=
  lowerAfter_cons_neutral (neutral_of_isBlank hc) false s

theorem lower_append_breaks (w : Text) {s : Text} (hs : Breaks s) :
    lower (w ++ s) = lower w ++ lower s := by
  cases s with
  | nil =>
    rw [List.append_nil]
    exact (List.append_nil _).symm
  | cons c s =>
    have hc := hs c rfl
    rw [lower_append_neutral (neutral_of_isBlank hc), lower_cons_blank hc]

theorem breaks_lower {s : Text} (hs : Breaks s) : Breaks (lower s) := by
  cases s with
  | nil => exact hs
  | cons c s =>
    rw [lower_cons_blank (hs c rfl)]
    exact fun d hd => hs d hd

theorem words_lower (s : Text) : words (lower s) = (words s).map lower := by
  induction hn : s.length using Nat.strong_induction_on generalizing s with
  | _ n ih =>
    by_cases hs : Breaks s
    · cases s with
      | nil => rfl
      | cons c s =>
        have hc := hs c rfl
        rw [lower_cons_blank hc, words_cons_blank hc, words_cons_blank hc]
        exact ih s.length (by simp [← hn]) s rfl
    · obtain ⟨w, r, rfl, hw, hr⟩ := exists_first_word hs
      have hlower := (respaced_lower w).isWord hw
      have hlength : r.length < n := by
        have hpos := List.length_pos_of_ne_nil hw.ne_nil
        rw [← hn, List.length_append]
        omega
      rw [lower_append_breaks w hr, words_append_breaks hlower (breaks_lower hr),
        words_append_breaks hw hr, ih r.length hlength r rfl, List.map_cons]

theorem lower_unwords (ws : List Text) : lower (unwords ws) = unwords (ws.map lower) := by
  induction ws with
  | nil => rfl
  | cons w ws ih =>
    cases ws with
    | nil => rw [List.map_singleton, unwords, unwords, joinWith_singleton, joinWith_singleton]
    | cons v ws =>
      have hspace := neutral_of_isBlank (c := ' ') (by decide)
      rw [unwords, joinWith_cons_cons, lower_append_neutral hspace, ← unwords, ih]
      exact (joinWith_cons_cons ' ' (lower w) (lower v) (ws.map lower)).symm

theorem deepTrim_lower (s : Text) : deepTrim (lower s) = lower (deepTrim s) := by
  rw [deepTrim, words_lower, ← lower_unwords, ← deepTrim]

theorem fold_lower (s : Text) : fold (lower s) = fold s := by
  rw [fold, deepTrim_lower, lower_lower, ← fold]

end Text

theorem Ava.folded_lowered (a : Ava) : a.lowered.folded = a.folded := by
  rw [folded, lowered, Text.lower_lower, Text.fold_lower, ← folded]

namespace Rdn

def SameParts (r s : Rdn) : Prop := (r.map Ava.folded).Perm (s.map Ava.folded)

instance (r s : Rdn) : Decidable (SameParts r s) := inferInstanceAs (Decidable (List.Perm _ _))

theorem sameParts_of_lowered {r s : Rdn} (h : r.map Ava.lowered = s.map Ava.lowered) :
    SameParts r s := by
  have hfolded : ∀ t : Rdn, t.map Ava.folded = (t.map Ava.lowered).map Ava.folded := by
    intro t
    rw [List.map_map]
    exact List.map_congr_left fun a _ => a.folded_lowered.symm
  rw [SameParts, hfolded r, hfolded s, h]

theorem map_folded_eq_iff {rs ss : List Rdn} :
    rs.map folded = ss.map folded ↔ List.Forall₂ SameParts rs ss := by
  have hsorted := map_mergeSort_cmp_eq_iff Ava.order (rs.map (List.map Ava.folded))
    (ss.map (List.map Ava.folded))
  rw [List.map_map, List.map_map, List.forall₂_map_left_iff, List.forall₂_map_right_iff] at hsorted
  exact hsorted

end Rdn

theorem Dn.sameParts_of_same {m n : Dn} (h : m.same n = true) :
    List.Forall₂ Rdn.SameParts m.rdns n.rdns := by
  have hlowered := congrArg Dn.rdns (same_iff.mp h)
  rw [← List.forall₂_eq_eq_eq, lowered, lowered, List.forall₂_map_left_iff,
    List.forall₂_map_right_iff] at hlowered
  exact hlowered.imp fun _ _ => Rdn.sameParts_of_lowered

namespace MatchingOrder

theorem prepare_of_ofValue {v : Value} {n : Dn} (h : Dn.ofValue v = .ok n) :
    distinguishedName.prepare v = .ok (.rdns (n.rdns.map Rdn.folded)) := by
  rw [prepare, h]
  rfl

theorem compare_names_eq_iff {v w : Value} {m n : Dn} (hm : Dn.ofValue v = .ok m)
    (hn : Dn.ofValue w = .ok n) :
    distinguishedName.compare v w = .ok .eq ↔ List.Forall₂ Rdn.SameParts m.rdns n.rdns := by
  rw [← Rdn.map_folded_eq_iff, compare_eq_ok_iff]
  simp [prepare_of_ofValue hm, prepare_of_ofValue hn, Key.compare?,
    Std.LawfulEqCmp.compare_eq_iff_eq]

/-- Names, or values that are read as names, are compared without an error, and they compare as
equal exactly when they have, place by place, the same parts up to case and spacing, in
whatever order. Names that are the same compare as equal. -/
theorem names_compared_by_parts :
    (∀ (v w : Value) (m n : Dn), Dn.ofValue v = .ok m → Dn.ofValue w = .ok n →
      (∃ x, distinguishedName.compare v w = .ok x) ∧
      (distinguishedName.compare v w = .ok .eq ↔ List.Forall₂ Rdn.SameParts m.rdns n.rdns)) ∧
    ∀ m n : Dn, m.same n = true → distinguishedName.compare (.name m) (.name n) = .ok .eq := by
  constructor
  · intro v w m n hm hn
    refine ⟨?_, compare_names_eq_iff hm hn⟩
    have hlaws := totalPreorder (o := distinguishedName) nofun
    exact hlaws.total v w ⟨_, prepare_of_ofValue hm⟩ ⟨_, prepare_of_ofValue hn⟩
  · intro m n h
    exact (compare_names_eq_iff rfl rfl).mpr (Dn.sameParts_of_same h)

/-- A text and a name with their parts in another order, and two names that are the same. The
sigma before a space is final on both sides. -/
theorem sample_names_compared :
    let v : Value := .text "CN= John  ΟΔΟΣ +OU=x, dc=Com"
    let m : Dn := ⟨[[⟨"CN", " John  ΟΔΟΣ "⟩, ⟨"OU", "x"⟩], [⟨"dc", "Com"⟩]]⟩
    let n : Dn := ⟨[[⟨"ou", "X"⟩, ⟨"cn", "john οδος"⟩], [⟨"DC", "com"⟩]]⟩
    let p : Dn := ⟨[[⟨"cn", " JOHN  ΟΔΟς "⟩, ⟨"ou", "X"⟩], [⟨"DC", "COM"⟩]]⟩
    (Dn.ofValue v = .ok m ∧ Dn.ofValue (.name n) = .ok n ∧
      distinguishedName.compare v (.name n) = .ok .eq) ∧
    m.same n = false ∧ m.same p = true ∧ distinguishedName.compare (.name m) (.name p) = .ok .eq := by
  intro v m n p
  have hv : Dn.ofValue v = .ok m := by decide +kernel
  have hparts : List.Forall₂ Rdn.SameParts m.rdns n.rdns := by
    refine .cons ?_ (.cons ?_ .nil)
    · decide +kernel
    · decide +kernel
  have hsame : m.same p = true := by decide +kernel
  obtain ⟨hdecides, hrefines⟩ := names_compared_by_parts
  exact ⟨⟨hv, rfl, (hdecides v (.name n) m n hv rfl).2.mpr hparts⟩, by decide +kernel, hsame,
    hrefines m p hsame⟩

end MatchingOrder

end DirectorySchema
