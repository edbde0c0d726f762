import DirectorySchema.Proofs.NameOrder
import Mathlib.Logic.Function.Iterate

/-!
# Containment of names

A name contains another when, in lower case, its relative names are the last ones of the
other. These are what is left after going up from the other, so the names that contain a name
are exactly the names above it, and containment is a partial order of names up to case, with
the root below everything.
-/

set_option autoImplicit false

namespace DirectorySchema.Dn

theorem startsFromRoot_iff {rs ss : List Rdn} :
    startsFromRoot rs ss = true ↔
      rs.map (List.map Ava.lowered) <+: ss.map (List.map Ava.lowered) := by
  induction rs generalizing ss with
  | nil => simp [startsFromRoot]
  | cons r rs ih =>
    cases ss with
    | nil => simp [startsFromRoot]
    | cons s ss => simp [startsFromRoot, Rdn.same_iff, ih, List.cons_prefix_cons]

theorem contains_iff_suffix {m n : Dn} :
    m.contains n = true ↔ m.lowered.rdns <:+ n.lowered.rdns := by
  rw [contains, startsFromRoot_iff, List.map_reverse, List.map_reverse, List.reverse_prefix]
  rfl

theorem rdns_iterate_up (k : Nat) (n : Dn) : (up^[k] n).rdns = n.rdns.drop k := by
  induction k with
  | zero => rfl
  | succ k ih => rw [Function.iterate_succ_apply', up, ih, List.tail_drop]

theorem lowered_iterate_up (k : Nat) (n : Dn) :
    (up^[k] n).lowered.rdns = n.lowered.rdns.drop k := by
  rw [lowered, rdns_iterate_up, List.map_drop]
  rfl

theorem contains_iff_iterate_up {m n : Dn} :
    m.contains n = true ↔ ∃ k, (up^[k] n).same m = true := by
  rw [contains_iff_suffix]
  constructor
  · intro h
    refine ⟨n.lowered.rdns.length - m.lowered.rdns.length, same_iff.mpr ?_⟩
    have hdrop := List.suffix_iff_eq_drop.mp h
    rw [← lowered_iterate_up] at hdrop
    exact congrArg Dn.mk hdrop.symm
  · rintro ⟨k, hk⟩
    rw [← same_iff.mp hk, lowered_iterate_up]
    exact List.drop_suffix k _

/-- The names that contain a name are the names above it. Up to case, containment is
reflexive, transitive and antisymmetric, it does not tell names apart that are the same, and
the root contains every name. -/
theorem contains_is_ancestry :
    (∀ m n : Dn, m.contains n = true ↔ ∃ k, (up^[k] n).same m = true) ∧
    (∀ m n : Dn, m.same n = true → m.contains n = true) ∧
    (∀ l m n : Dn, l.contains m = true → m.contains n = true → l.contains n = true) ∧
    (∀ m n : Dn, m.contains n = true → n.contains m = true → m.same n = true) ∧
    (∀ m m' n n' : Dn, m.same m' = true → n.same n' = true → m.contains n = m'.contains n') ∧
    ∀ m n : Dn, m.isRoot = true → m.contains n = true := by
  refine ⟨fun m n => contains_iff_iterate_up, ?_, ?_, ?_, ?_, ?_⟩
  · intro m n h
    exact contains_iff_suffix.mpr (same_iff.mp h ▸ List.suffix_rfl)
  · intro l m n hlm hmn
    rw [contains_iff_suffix] at hlm hmn ⊢
    exact hlm.trans hmn
  · intro m n hmn hnm
    rw [contains_iff_suffix] at hmn hnm
    have hlength := Nat.le_antisymm hmn.length_le hnm.length_le
    exact same_iff.mpr (congrArg Dn.mk (hmn.eq_of_length hlength))
  · intro m m' n n' hm hn
    rw [Bool.eq_iff_iff, contains_iff_suffix, contains_iff_suffix, same_iff.mp hm, same_iff.mp hn]
  · intro m n h
    rw [contains_iff_suffix, lowered, List.isEmpty_iff.mp h]
    exact List.nil_suffix

/-- A name two levels above another, in different case, and a name that ends before it. -/
theorem contains_two_levels_up :
    let m : Dn := ⟨[[⟨"DC", "Org"⟩]]⟩
    let n : Dn := ⟨[[⟨"cn", "a"⟩, ⟨"sn", "b"⟩], [⟨"ou", "c"⟩], [⟨"dc", "org"⟩]]⟩
    m.contains n = true ∧ n.contains m = false ∧ (up^[2] n).same m = true := by
  intro m n
  obtain ⟨hup, -, -, hantisymm, -, -⟩ := contains_is_ancestry
  have hsame : (up^[2] n).same m = true := by decide +kernel
  have hcontains := (hup m n).mpr ⟨2, hsame⟩
  refine ⟨hcontains, ?_, hsame⟩
  rw [← Bool.not_eq_true]
  intro hback
  exact absurd (hantisymm m n hcontains hback) (by decide +kernel)

end DirectorySchema.Dn
