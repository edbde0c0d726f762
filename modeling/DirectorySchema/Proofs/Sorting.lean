import Mathlib.Data.List.Forall2
import Mathlib.Data.List.Perm.Basic

/-!
# Sorting

Sorting by an order in which only equal elements are of one rank forgets how a list was
arranged and nothing else.
-/

set_option autoImplicit false

namespace DirectorySchema

variable {α : Type} (cmp : α → α → Ordering) [Std.TransCmp cmp]

theorem pairwise_mergeSort_cmp (l : List α) :
    (l.mergeSort fun a b => (cmp a b).isLE).Pairwise fun a b => (cmp a b).isLE = true := by
  apply List.pairwise_mergeSort
  · intro a b c
    exact Std.TransCmp.isLE_trans
  · intro a b
    have hswap : cmp b a = (cmp a b).swap := Std.OrientedCmp.eq_swap
    rw [hswap]
    cases cmp a b <;> rfl

theorem mergeSort_cmp_eq_iff [Std.LawfulEqCmp cmp] {l m : List α} :
    (l.mergeSort fun a b => (cmp a b).isLE) = (m.mergeSort fun a b => (cmp a b).isLE) ↔
      l.Perm m := by
  have hl := List.mergeSort_perm l fun a b => (cmp a b).isLE
  have hm := List.mergeSort_perm m fun a b => (cmp a b).isLE
  constructor
  · intro heq
    exact hl.symm.trans (heq ▸ hm)
  · intro hperm
    refine ((hl.trans hperm).trans hm.symm).eq_of_pairwise ?_ (pairwise_mergeSort_cmp cmp l)
      (pairwise_mergeSort_cmp cmp m)
    intro a b _ _ hab hba
    exact Std.LawfulEqCmp.eq_of_compare (Std.OrientedCmp.isLE_antisymm hab hba)

theorem map_mergeSort_cmp_eq_iff [Std.LawfulEqCmp cmp] (ls ms : List (List α)) :
    (ls.map fun l => l.mergeSort fun a b => (cmp a b).isLE) =
        (ms.map fun m => m.mergeSort fun a b => (cmp a b).isLE) ↔
      List.Forall₂ List.Perm ls ms := by
  rw [← List.forall₂_eq_eq_eq, List.forall₂_map_left_iff, List.forall₂_map_right_iff]
  simp only [mergeSort_cmp_eq_iff]

end DirectorySchema
