import DirectorySchema.Proofs.Loading
import DirectorySchema.Proofs.Runs
import DirectorySchema.Manager.Queries

/-!
# Managers stay consistent

Over loaded catalogs every registry of a manager is sound, and a run keeps it so, whatever
its operations do and wherever they fail. From this follows all that is expected of the
identifiers and the names that the registries hold: the layers share no identifier,
descriptions stand under their own, and a name leads to a registered description.
-/

set_option autoImplicit false

namespace DirectorySchema

namespace Registry

variable {α : Type}

structure Consistent (r : Registry α) : Prop where
  layers_apart : ∀ oid, ¬ (r.runtime.holds oid = true ∧ r.catalog.holds oid = true)
  stored : ∀ e ∈ r.runtime.entries, r.runtime.find? e.oid = some e

variable [SchemaElement α]

/-- Elements have the identifiers that they are found under, names tell them apart, and
whatever a text stands for is registered. -/
structure Described (r : Registry α) : Prop where
  own_oid : ∀ oid a, r.lookup oid = .ok a → SchemaElement.declaredOid? a = some oid
  names_apart : ∀ e ∈ r.runtime.entries ++ r.catalog.entries,
    ∀ f ∈ r.runtime.entries ++ r.catalog.entries, e.oid ≠ f.oid →
      ∀ n ∈ SchemaElement.names e.element, ∀ k ∈ SchemaElement.names f.element,
        Text.lower n ≠ Text.lower k
  resolved : ∀ x oid, r.oidOf x = .ok oid → r.holds oid = true ∧
    ∃ a, r.lookup oid = .ok a ∧ SchemaElement.declaredOid? a = some oid ∧
      (oid = x ∨ Text.lower x ∈ (SchemaElement.names a).map Text.lower)

section
variable {r : Registry α} (h : r.Sound)
include h

theorem Sound.consistent : r.Consistent := by
  have hnodup : (r.runtime.oids ++ r.catalog.oids).Nodup := by
    rw [Layer.oids, Layer.oids, ← List.map_append]
    exact h.oids_nodup
  constructor
  · rintro oid ⟨hruntime, hcatalog⟩
    obtain ⟨e, he, heo⟩ := Layer.holds_iff.mp hruntime
    obtain ⟨f, hf, hfo⟩ := Layer.holds_iff.mp hcatalog
    have hdisjoint := (List.nodup_append.mp hnodup).2.2
    exact hdisjoint e.oid (List.mem_map_of_mem he) f.oid (List.mem_map_of_mem hf)
      (heo.trans hfo.symm)
  · intro e he
    obtain ⟨f, hf⟩ := Option.isSome_iff_exists.mp (Layer.holds_iff.mpr ⟨e, he, rfl⟩)
    obtain ⟨hm, ho⟩ := Layer.mem_of_find? hf
    have hsame : f = e :=
      h.eq_of_oid (List.mem_append_left _ hm) (List.mem_append_left _ he) ho
    rw [hf, hsame]

theorem Sound.lookup_iff {oid : Text} {a : α} :
    r.lookup oid = .ok a ↔ ∃ e ∈ r.whole.entries, e.oid = oid ∧ e.element = a := by
  rw [lookup_eq_ok_iff]
  simp only [find?_eq_whole, h.find?_iff, and_assoc]

theorem Sound.described (hd : ∀ a : α, (SchemaElement.declaredOid? a).isSome) :
    r.Described := by
  have hdeclared : ∀ e ∈ r.whole.entries, SchemaElement.declaredOid? e.element = some e.oid := by
    intro e he
    obtain ⟨oid, ho⟩ := Option.isSome_iff_exists.mp (hd e.element)
    rw [ho, h.declared e he oid ho]
  constructor
  · intro oid a ha
    obtain ⟨e, he, rfl, rfl⟩ := (lookup_iff h).mp ha
    exact hdeclared e he
  · intro e he f hf hne n hn k hk heq
    have hbears : f.Bears n := by
      rw [Entry.Bears, heq]
      exact List.mem_map_of_mem hk
    exact hne (h.names_apart e he f hf n (Entry.bears_of_mem hn) hbears)
  · intro x oid ho
    obtain ⟨e, he, rfl, hx⟩ := h.resolve?_iff.mp (oidOf_eq_ok_iff.mp ho)
    refine ⟨holds_iff.mpr ⟨e, he, rfl⟩, e.element, (lookup_iff h).mpr ⟨e, he, rfl, rfl⟩,
      hdeclared e he, ?_⟩
    unfold Entry.AnswersTo at hx
    split at hx
    · exact Or.inl hx
    · exact Or.inr hx

end

end Registry

namespace Manager

structure Sound (m : Manager) : Prop where
  comparators : m.comparators.Sound
  normalizers : m.normalizers.Sound
  matchingRules : m.matchingRules.Sound
  attributeTypes : m.attributeTypes.Sound

theorem Advances.sound {m m' : Manager} (h : m.Advances m') (hm : m.Sound) : m'.Sound :=
  ⟨h.comparators.sound hm.comparators, h.normalizers.sound hm.normalizers,
    h.matchingRules.sound hm.matchingRules, h.attributeTypes.sound hm.attributeTypes⟩

theorem sound_ofCatalogs {c : Catalogs} (h : c.Loaded) (config : ManagerConfig) :
    (ofCatalogs config c).Sound :=
  ⟨Registry.sound_ofCatalog h.comparators, Registry.sound_ofCatalog h.normalizers,
    Registry.sound_ofCatalog h.matchingRules, Registry.sound_ofCatalog h.attributeTypes⟩

/-- What holds between the registries of a manager, their layers and their names. -/
structure Consistent (m : Manager) : Prop where
  comparators : m.comparators.Consistent
  normalizers : m.normalizers.Consistent
  matchingRules : m.matchingRules.Consistent
  attributeTypes : m.attributeTypes.Consistent
  rules_described : m.matchingRules.Described
  types_described : m.attributeTypes.Described
  found : ∀ x oid, m.normalizeAttributeType x = .ok oid →
    ∃ t, m.getAttributeType x = .ok t ∧ t.oid = oid

theorem Sound.consistent {m : Manager} (h : m.Sound) : m.Consistent := by
  have htypes : m.attributeTypes.Described :=
    h.attributeTypes.described fun _ => rfl
  refine ⟨h.comparators.consistent, h.normalizers.consistent, h.matchingRules.consistent,
    h.attributeTypes.consistent, h.matchingRules.described fun _ => rfl, htypes, ?_⟩
  intro x oid ho
  obtain ⟨-, t, ht, hoid, -⟩ := htypes.resolved _ oid ho
  exact ⟨t, bind_eq_ok_iff.mpr ⟨oid, ho, ht⟩, Option.some.inj hoid⟩

end Manager

namespace Operation

theorem keeps_sound (o : Operation) : o.Keeps Manager.Sound :=
  fun _ _ hs hadded => hadded.advances.sound hs

/-- Every manager over loaded catalogs is consistent in every state that a run reaches. -/
theorem reached_consistent {schemas : List (Text × SchemaDefinition)} {names : List Text}
    {c : Catalogs} (hc : Catalogs.load schemas names = .ok c) (config : ManagerConfig)
    (os : List (Host × Operation)) : (reached config c os).Consistent := by
  have hstart := Manager.sound_ofCatalogs (Catalogs.loaded_of_load hc) config
  have hreached : (reached config c os).Sound :=
    run_invariant (fun _ _ p _ => keeps_sound p) hstart
  exact hreached.consistent

section
open Catalogs.Sample

theorem sample_reached_consistent :
    Catalogs.load schemas ["people"] = .ok catalogs ∧
      (reached {} catalogs [(host, secondNameTaken)]).Consistent :=
  ⟨load_eq, reached_consistent load_eq _ _⟩

end

end Operation

end DirectorySchema
