import DirectorySchema.Proofs.Consistency
import Mathlib.Data.List.Perm.Subperm
import Mathlib.Logic.Relation

/-!
# Chains of superior types

Where every reference leads somewhere and no chain of superior types comes back, following
superior types ends before it runs out of steps, for a chain visits each registered type
once at most. It ends with the rule of the first type that names one, or else at a type
without a superior one when none does.
-/

set_option autoImplicit false

namespace DirectorySchema

open Relation

/-- How types and rules are looked up, in catalogs or in the registries of a manager. -/
structure References where
  element : Text → Except Refusal AttributeType
  typeOf : Text → Except Refusal Text
  ruleOf : Text → Except Refusal Text

namespace References

def Superior (r : References) (oid above : Text) : Prop :=
  ∃ t sup, r.element oid = .ok t ∧ t.terms.sup = some sup ∧ r.typeOf sup = .ok above

structure Closed (r : References) : Prop where
  sup : ∀ oid t sup, r.element oid = .ok t → t.terms.sup = some sup →
    ∃ above, r.typeOf sup = .ok above
  equality : ∀ oid t name, r.element oid = .ok t → t.terms.equality = some name →
    ∃ rule, r.ruleOf name = .ok rule
  acyclic : ∀ oid, ¬ TransGen r.Superior oid oid

theorem Superior.right_unique {r : References} {oid a b : Text} (ha : r.Superior oid a)
    (hb : r.Superior oid b) : a = b := by
  obtain ⟨t, sup, ht, hsup, htype⟩ := ha
  obtain ⟨t', sup', ht', hsup', htype'⟩ := hb
  rw [ht, Except.ok.injEq] at ht'
  rw [← ht', hsup, Option.some.injEq] at hsup'
  rw [← hsup', htype, Except.ok.injEq] at htype'
  exact htype'

def Unruled (r : References) (oid : Text) : Prop :=
  ∀ above t, ReflTransGen r.Superior oid above → r.element above = .ok t → t.terms.equality = none

theorem unruled_of_top {r : References} {oid : Text} {t : AttributeType}
    (ht : r.element oid = .ok t) (he : t.terms.equality = none) (hs : t.terms.sup = none) :
    r.Unruled oid := by
  intro above u hpath hu
  rcases hpath.cases_head with rfl | ⟨next, hedge, -⟩
  · rw [ht, Except.ok.injEq] at hu
    rwa [← hu]
  · obtain ⟨t', sup, ht', hsup, -⟩ := hedge
    rw [ht, Except.ok.injEq] at ht'
    rw [← ht', hs] at hsup
    cases hsup

theorem unruled_iff_of_superior {r : References} {oid next : Text} {t : AttributeType}
    (ht : r.element oid = .ok t) (he : t.terms.equality = none) (hnext : r.Superior oid next) :
    r.Unruled oid ↔ r.Unruled next := by
  constructor
  · intro h above u hpath hu
    exact h above u (ReflTransGen.head hnext hpath) hu
  · intro h above u hpath hu
    rcases hpath.cases_head with rfl | ⟨b, hedge, hrest⟩
    · rw [ht, Except.ok.injEq] at hu
      rwa [← hu]
    · rw [hedge.right_unique hnext] at hrest
      exact h above u hrest hu

/-- A new node that no edge leads to leaves no cycle where there was none. -/
theorem acyclic_of_fresh {r r' : Text → Text → Prop} {x : Text}
    (hedge : ∀ a b, r' a b → b ≠ x ∧ (a ≠ x → r a b))
    (h : ∀ a, ¬ TransGen r a a) : ∀ a, ¬ TransGen r' a a := by
  have hold : ∀ a b, TransGen r' a b → b ≠ x ∧ (a ≠ x → TransGen r a b) := by
    intro a b hpath
    induction hpath with
    | single he => exact ⟨(hedge _ _ he).1, fun ha => .single ((hedge _ _ he).2 ha)⟩
    | tail _ he ih => exact ⟨(hedge _ _ he).1, fun ha => (ih.2 ha).tail ((hedge _ _ he).2 ih.1)⟩
  intro a hcycle
  obtain ⟨hfresh, hpath⟩ := hold a a hcycle
  exact h a (hpath hfresh)

theorem Closed.more_rules {r : References} (hr : r.Closed) {ruleOf : Text → Except Refusal Text}
    (h : ∀ x oid, r.ruleOf x = .ok oid → ruleOf x = .ok oid) :
    { r with ruleOf := ruleOf }.Closed := by
  constructor
  · exact hr.sup
  · intro oid t name ht hname
    obtain ⟨rule, hrule⟩ := hr.equality oid t name ht hname
    exact ⟨rule, h name rule hrule⟩
  · exact hr.acyclic

/-- One more type, under an identifier that nothing stood for, with references that lead
somewhere. -/
structure Extended (r r' : References) (d : AttributeType) : Prop where
  element : ∀ oid, r'.element oid = if d.oid = oid then .ok d else r.element oid
  typeOf : ∀ x oid, r.typeOf x = .ok oid → r'.typeOf x = .ok oid
  ruleOf : ∀ x oid, r.ruleOf x = .ok oid → r'.ruleOf x = .ok oid
  fresh : ∀ x, r.typeOf x ≠ .ok d.oid
  sup : ∀ sup, d.terms.sup = some sup → ∃ above, r.typeOf sup = .ok above
  equality : ∀ name, d.terms.equality = some name → ∃ rule, r.ruleOf name = .ok rule

theorem Extended.sup_found {r r' : References} {d : AttributeType} (h : r.Extended r' d)
    (hr : r.Closed) {oid sup : Text} {t : AttributeType} (ht : r'.element oid = .ok t)
    (hs : t.terms.sup = some sup) : ∃ above, r.typeOf sup = .ok above := by
  rw [h.element] at ht
  by_cases ho : d.oid = oid
  · rw [if_pos ho, Except.ok.injEq] at ht
    exact h.sup sup (by rwa [ht])
  · rw [if_neg ho] at ht
    exact hr.sup oid t sup ht hs

theorem Closed.extended {r r' : References} {d : AttributeType} (hr : r.Closed)
    (h : r.Extended r' d) : r'.Closed := by
  constructor
  · intro oid t sup ht hs
    obtain ⟨above, habove⟩ := h.sup_found hr ht hs
    exact ⟨above, h.typeOf sup above habove⟩
  · intro oid t name ht hn
    rw [h.element] at ht
    by_cases ho : d.oid = oid
    · rw [if_pos ho, Except.ok.injEq] at ht
      obtain ⟨rule, hrule⟩ := h.equality name (by rwa [ht])
      exact ⟨rule, h.ruleOf name rule hrule⟩
    · rw [if_neg ho] at ht
      obtain ⟨rule, hrule⟩ := hr.equality oid t name ht hn
      exact ⟨rule, h.ruleOf name rule hrule⟩
  · -- edges into the new type would need a reference that was resolved before it came
    apply acyclic_of_fresh (x := d.oid) _ hr.acyclic
    rintro a b ⟨t, sup, ht, hs, htype⟩
    obtain ⟨above, habove⟩ := h.sup_found hr ht hs
    have hsame : above = b := by
      have hlater := h.typeOf sup above habove
      rwa [htype, Except.ok.injEq, eq_comm] at hlater
    rw [← hsame]
    constructor
    · rintro rfl
      exact h.fresh sup habove
    · intro ha
      rw [h.element, if_neg (Ne.symm ha)] at ht
      exact ⟨t, sup, ht, hs, habove⟩

end References

def Catalogs.references (c : Catalogs) : References :=
  ⟨c.attributeTypes.element, c.attributeTypes.oidOf, c.matchingRules.oidOf⟩

namespace Manager

def references (m : Manager) : References :=
  ⟨m.attributeTypes.lookup, m.attributeTypes.oidOf, m.matchingRules.oidOf⟩

theorem references_ofCatalogs (config : ManagerConfig) (c : Catalogs) :
    (ofCatalogs config c).references = c.references := by
  simp only [references, Catalogs.references, ofCatalogs, Registry.lookup_ofCatalog,
    Registry.oidOf_ofCatalog]

theorem length_le_typeCount {m : Manager} {oids : List Text} (hnodup : oids.Nodup)
    (hsub : oids ⊆ m.attributeTypes.whole.oids) : oids.length ≤ m.typeCount := by
  have hle := (List.subperm_of_subset hnodup hsub).length_le
  simpa [Registry.whole, Layer.oids, typeCount] using hle

structure Followable (m : Manager) : Prop where
  sound : m.Sound
  closed : m.references.Closed
  trimmed : ∀ oid t sup, m.attributeTypes.lookup oid = .ok t → t.terms.sup = some sup →
    Text.trim sup = sup

namespace Followable

variable {m : Manager} (hm : m.Followable)
include hm

theorem oid_of_lookup {oid : Text} {t : AttributeType}
    (ht : m.attributeTypes.lookup oid = .ok t) : t.oid = oid :=
  Option.some.inj (hm.sound.consistent.types_described.own_oid oid t ht)

theorem lookup_of_oidOf {x oid : Text} (h : m.attributeTypes.oidOf x = .ok oid) :
    ∃ t, m.attributeTypes.lookup oid = .ok t := by
  obtain ⟨-, t, ht, -⟩ := hm.sound.consistent.types_described.resolved x oid h
  exact ⟨t, ht⟩

theorem superior_step {oid sup : Text} {t : AttributeType}
    (ht : m.attributeTypes.lookup oid = .ok t) (hs : t.terms.sup = some sup) :
    ∃ above u, m.references.Superior oid above ∧ m.getAttributeType sup = .ok u ∧
      m.attributeTypes.lookup above = .ok u := by
  obtain ⟨above, habove⟩ := hm.closed.sup oid t sup ht hs
  obtain ⟨u, hu⟩ := hm.lookup_of_oidOf habove
  have hget : m.getAttributeType sup = .ok u := by
    rw [getAttributeType, normalizeAttributeType, hm.trimmed oid t sup ht hs]
    exact bind_eq_ok_iff.mpr ⟨above, habove, hu⟩
  exact ⟨above, u, ⟨t, sup, ht, hs, habove⟩, hget, hu⟩

theorem mem_oids_of_lookup {oid : Text} {t : AttributeType}
    (ht : m.attributeTypes.lookup oid = .ok t) : oid ∈ m.attributeTypes.whole.oids := by
  obtain ⟨e, he, rfl, -⟩ := (Registry.Sound.lookup_iff hm.sound.attributeTypes).mp ht
  exact List.mem_map_of_mem he

/-- Steps are left at a registered type that lies behind all types seen so far, and what
follows from it decides. -/
theorem equalityRuleFrom_decided {steps : Nat} {seen : List Text} {oid : Text} {t : AttributeType}
    (ht : m.attributeTypes.lookup oid = .ok t) (hnodup : seen.Nodup)
    (hsub : seen ⊆ m.attributeTypes.whole.oids)
    (hbehind : ∀ s ∈ seen, TransGen m.references.Superior s oid)
    (hsteps : m.typeCount < steps + seen.length) :
    (¬ m.references.Unruled oid ∧ ∃ name rule, m.matchingRules.oidOf name = .ok rule ∧
      m.equalityRuleFrom steps seen t = .ok rule) ∨
    (m.references.Unruled oid ∧
      ∃ top, m.equalityRuleFrom steps seen t = .error (.noEqualityRule top)) := by
  induction steps generalizing seen oid t with
  | zero =>
    have hle := length_le_typeCount hnodup hsub
    omega
  | succ steps ih =>
    have hnew : oid ∉ seen := fun h => hm.closed.acyclic oid (hbehind oid h)
    have hoid : t.oid = oid := hm.oid_of_lookup ht
    unfold equalityRuleFrom
    cases he : t.terms.equality with
    | some name =>
      obtain ⟨rule, hrule⟩ := hm.closed.equality oid t name ht he
      have hruled : ¬ m.references.Unruled oid := by
        intro hnone
        rw [hnone oid t .refl ht] at he
        cases he
      exact Or.inl ⟨hruled, name, rule, hrule, hrule⟩
    | none =>
      cases hs : t.terms.sup with
      | none => exact Or.inr ⟨References.unruled_of_top ht he hs, t.oid, rfl⟩
      | some sup =>
        obtain ⟨above, u, hedge, hget, hu⟩ := hm.superior_step ht hs
        simp only [hoid, hget, List.contains_iff_mem, hnew, if_false]
        rw [References.unruled_iff_of_superior ht he hedge]
        apply ih hu (List.nodup_cons.mpr ⟨hnew, hnodup⟩)
        · exact List.cons_subset.mpr ⟨hm.mem_oids_of_lookup ht, hsub⟩
        · intro s hmem
          rcases List.mem_cons.mp hmem with rfl | hmem
          · exact .single hedge
          · exact (hbehind s hmem).tail hedge
        · rw [List.length_cons]
          omega

end Followable

end Manager

end DirectorySchema
