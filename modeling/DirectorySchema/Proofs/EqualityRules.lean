import DirectorySchema.Proofs.Superiors

/-!
# Equality rules are decided

Over catalogs whose references lead somewhere and whose superior types form no cycle, a
manager that is added to by description alone stays that way: an attribute type comes in
after everything that it refers to, and a matching rule with what compares and normalizes
for it. So every attribute type has an equality rule that can be used, or no type on its
chain of superior types names one.
-/

set_option autoImplicit false

namespace DirectorySchema

open Relation

namespace Manager

structure Settled (m : Manager) : Prop where
  followable : m.Followable
  bundled : ∀ oid, m.matchingRules.holds oid = true →
    m.comparators.holds oid = true ∧ m.normalizers.holds oid = true

/-- What asking for the equality rule of a type leads to, the type being given by a text
that stands for an identifier. -/
structure EqualityDecided (m : Manager) (x oid : Text) : Prop where
  rule_or_none : (∃ rule, m.equalityRuleOf x = .ok rule ∧ m.matchingRules.holds rule = true) ∨
    ∃ e, m.equalityRuleOf x = .error e ∧ e.category = .inappropriateMatching
  none_iff : (∃ e, m.equalityRuleOf x = .error e ∧ e.category = .inappropriateMatching) ↔
    ∀ above t, ReflTransGen m.references.Superior oid above →
      m.attributeTypes.lookup above = .ok t → t.terms.equality = none
  never_notFound : ∀ e, m.equalityRuleOf x = .error e → e.category ≠ .notFound
  usable : ∀ rule, m.equalityRuleOf x = .ok rule →
    (∃ c, m.comparatorFor x = .ok c) ∧ ∃ n, m.normalizerFor x = .ok n

theorem Followable.equalityRuleOf_decided {m : Manager} (hm : m.Followable) {x oid : Text}
    (hx : m.normalizeAttributeType x = .ok oid) :
    (¬ m.references.Unruled oid ∧
      ∃ rule, m.equalityRuleOf x = .ok rule ∧ m.matchingRules.holds rule = true) ∨
    (m.references.Unruled oid ∧ ∃ top, m.equalityRuleOf x = .error (.noEqualityRule top)) := by
  obtain ⟨t, ht⟩ := hm.lookup_of_oidOf hx
  have hget : m.getAttributeType x = .ok t := bind_eq_ok_iff.mpr ⟨oid, hx, ht⟩
  have hfrom : m.equalityRuleOf x = m.equalityRuleFrom (m.typeCount + 1) [] t := by
    rw [equalityRuleOf, hget]
    rfl
  rw [hfrom]
  refine (hm.equalityRuleFrom_decided ht List.nodup_nil (List.nil_subset _) ?_ ?_).imp_left ?_
  · intro s hs
    cases hs
  · simp
  · rintro ⟨hruled, name, rule, hname, hrule⟩
    have hheld := (hm.sound.consistent.rules_described.resolved name rule hname).1
    exact ⟨hruled, rule, hrule, hheld⟩

theorem Settled.equalityDecided {m : Manager} (hm : m.Settled) {x oid : Text}
    (hx : m.normalizeAttributeType x = .ok oid) : m.EqualityDecided x oid := by
  rcases hm.followable.equalityRuleOf_decided hx with
    ⟨hruled, rule, hrule, hheld⟩ | ⟨hnone, top, htop⟩
  · have hno : ¬ ∃ e, m.equalityRuleOf x = .error e ∧ e.category = .inappropriateMatching := by
      simp [hrule]
    refine ⟨Or.inl ⟨rule, hrule, hheld⟩, iff_of_false hno hruled, ?_, ?_⟩
    · simp [hrule]
    · intro rule' hrule'
      rw [hrule, Except.ok.injEq] at hrule'
      subst hrule'
      obtain ⟨hcomparator, hnormalizer⟩ := hm.bundled rule hheld
      obtain ⟨c, hc⟩ := Registry.lookup_of_holds hcomparator
      obtain ⟨n, hn⟩ := Registry.lookup_of_holds hnormalizer
      exact ⟨⟨c, bind_eq_ok_iff.mpr ⟨rule, hrule, hc⟩⟩, n, bind_eq_ok_iff.mpr ⟨rule, hrule, hn⟩⟩
  · have herror : ∃ e, m.equalityRuleOf x = .error e ∧ e.category = .inappropriateMatching :=
      ⟨_, htop, rfl⟩
    refine ⟨Or.inr herror, iff_of_true herror hnone, ?_, ?_⟩
    · intro e he
      rw [htop, Except.error.injEq] at he
      rw [← he]
      simp [Refusal.category]
    · simp [htop]

end Manager

/-- A condition on a description that is handed over already read. -/
def Description.Source.Meets {k : Description.Kind} (P : Description k → Prop) :
    Description.Source k → Prop
  | .written _ => True
  | .parsed d => P d

theorem Description.Source.Meets.of_read {k : Description.Kind} {P : Description k → Prop}
    {a : Description.Source k} {d : Description k} (ha : a.Meets P)
    (hP : ∀ d : Description k, d.WasRead → P d) (h : a.read = .ok d) : P d := by
  cases a with
  | written s => exact hP d ⟨s, mapError_eq_ok_iff.mp h⟩
  | parsed d' =>
    cases h
    exact ha

def Description.TrimmedSuperior (d : AttributeType) : Prop :=
  ∀ sup, d.terms.sup = some sup → Text.trim sup = sup

theorem Description.WasRead.trimmedSuperior {d : AttributeType} (h : d.WasRead) :
    d.TrimmedSuperior := fun _ hsup => h.trim_reference (r := .sup) hsup

theorem SchemaFile.wasRead_of_attributeTypes {octets : List UInt8} {types : List AttributeType}
    (h : attributeTypes octets = .ok types) : ∀ d ∈ types, d.WasRead := by
  obtain ⟨definitions, -, h⟩ := bind_eq_ok_iff.mp h
  intro d hd
  obtain ⟨definition, -, hdefinition⟩ := exists_of_mem_mapM (mapError_eq_ok_iff.mp h) hd
  unfold attributeType at hdefinition
  split at hdefinition
  · exact ⟨_, hdefinition⟩
  · cases hdefinition

namespace Operation

def AddsDescriptions : Operation → Prop
  | addMatchingRule .. | loadSchemaFile .. => True
  | addAttributeType _ a => a.Meets Description.TrimmedSuperior
  | loadSchema _ _ types _ => ∀ a ∈ types, a.Meets Description.TrimmedSuperior
  | _ => False

theorem keeps_settled_rule (schemaName : Text) (a : RuleAddition) :
    (addMatchingRule schemaName a).Keeps Manager.Settled := by
  intro s s' hs hadded
  have hsound := hadded.advances.sound hs.followable.sound
  obtain ⟨d, -, hr, hc, hn, heq⟩ := hadded
  have htypes : s'.manager.attributeTypes = s.manager.attributeTypes := by rw [heq]
  have hreferences : s'.manager.references =
      { s.manager.references with ruleOf := s'.manager.matchingRules.oidOf } := by
    simp only [Manager.references, htypes]
  refine ⟨⟨hsound, ?_, ?_⟩, ?_⟩
  · rw [hreferences]
    exact hs.followable.closed.more_rules hr.advances.keeps.oidOf
  · rw [htypes]
    exact hs.followable.trimmed
  · intro oid ho
    rw [hr.eq_insert, Registry.holds_insert_iff hr.admitted] at ho
    rw [hc.eq_insert, hn.eq_insert, Registry.holds_insert_iff hc.admitted,
      Registry.holds_insert_iff hn.admitted]
    rcases ho with ho | ho
    · exact ⟨Or.inl ho, Or.inl ho⟩
    · exact (hs.bundled oid ho).imp Or.inr Or.inr

theorem keeps_settled_type {schemaName : Text} {a : TypeAddition}
    (ha : a.Meets Description.TrimmedSuperior) :
    (addAttributeType schemaName a).Keeps Manager.Settled := by
  intro s s' hs hadded
  have hsound := hadded.advances.sound hs.followable.sound
  obtain ⟨d, hread, hfinds, ht, heq⟩ := hadded
  have hlookup : ∀ oid, s'.manager.attributeTypes.lookup oid =
      if d.oid = oid then .ok d else s.manager.attributeTypes.lookup oid := by
    rw [ht.eq_insert]
    exact Registry.lookup_insert ht.admitted
  have hrules : s'.manager.matchingRules = s.manager.matchingRules := by rw [heq]
  have hcomparators : s'.manager.comparators = s.manager.comparators := by rw [heq]
  have hnormalizers : s'.manager.normalizers = s.manager.normalizers := by rw [heq]
  have hextended : s.manager.references.Extended s'.manager.references d := by
    refine ⟨hlookup, ht.advances.keeps.oidOf, ?_, ?_, hfinds.sup, hfinds.equality⟩
    · intro x oid ho
      simpa only [Manager.references, hrules] using ho
    · intro x hx
      have hheld := (hs.followable.sound.consistent.types_described.resolved x d.oid hx).1
      rw [ht.admitted.free] at hheld
      cases hheld
  refine ⟨⟨hsound, hs.followable.closed.extended hextended, ?_⟩, ?_⟩
  · intro oid t sup htoid hsup
    rw [hlookup] at htoid
    by_cases ho : d.oid = oid
    · rw [if_pos ho, Except.ok.injEq] at htoid
      exact ha.of_read (fun _ => Description.WasRead.trimmedSuperior) hread sup (by rwa [htoid])
    · rw [if_neg ho] at htoid
      exact hs.followable.trimmed oid t sup htoid hsup
  · rw [hrules, hcomparators, hnormalizers]
    exact hs.bundled

theorem parts_keep_settled {h : Host} {o : Operation} (ho : o.AddsDescriptions) :
    ∀ p ∈ o.parts h, p.Keeps Manager.Settled := by
  intro p hp
  cases hasPart_of_mem_parts hp with
  | single hsingle =>
    cases o with
    | addMatchingRule schemaName a => exact keeps_settled_rule schemaName a
    | addAttributeType schemaName a => exact keeps_settled_type ho
    | loadSchemaFile schemaName path onDuplicate => exact hsingle.elim
    | loadSchema schemaName rules types onDuplicate => exact hsingle.elim
    | _ => exact ho.elim
  | rule => exact keeps_settled_rule _ _
  | type ha => exact keeps_settled_type (ho _ ha)
  | defined htypes hd =>
    exact keeps_settled_type (SchemaFile.wasRead_of_attributeTypes htypes _ hd).trimmedSuperior

theorem settled_ofCatalogs {c : Catalogs} (h : c.Loaded) (hclosed : c.references.Closed)
    (config : ManagerConfig) : (Manager.ofCatalogs config c).Settled := by
  refine ⟨⟨Manager.sound_ofCatalogs h config, ?_, ?_⟩, ?_⟩
  · rwa [Manager.references_ofCatalogs]
  · intro oid t sup ht hsup
    obtain ⟨e, he, rfl⟩ := Registry.lookup_eq_ok_iff.mp ht
    have hm : e ∈ c.attributeTypes.entries := (Layer.mem_of_find? he).1
    exact (h.types_read e hm).trim_reference (r := .sup) hsup
  · intro oid ho
    have hmem : ∀ {α : Type} (l : Layer α), l.holds oid = true ↔ oid ∈ l.oids := by
      intro α l
      rw [Layer.holds_iff, Layer.oids, List.mem_map]
    have hrule : c.matchingRules.holds oid = true := ho
    rw [hmem] at hrule
    exact ⟨(hmem c.comparators).mpr (by rwa [h.comparators_oids]),
      (hmem c.normalizers).mpr (by rwa [h.normalizers_oids])⟩

/-- Additions by description keep references closed and superior types free of cycles, and
every attribute type that is found has an equality rule to be used, or none on its chain. -/
theorem equality_rules_decided {schemas : List (Text × SchemaDefinition)} {names : List Text}
    {c : Catalogs} (hc : Catalogs.load schemas names = .ok c) (hclosed : c.references.Closed)
    (config : ManagerConfig) {os : List (Host × Operation)}
    (hos : ∀ ho ∈ os, ho.2.AddsDescriptions) :
    (reached config c os).references.Closed ∧
    ∀ x oid, (reached config c os).normalizeAttributeType x = .ok oid →
      (reached config c os).EqualityDecided x oid := by
  have hstart := settled_ofCatalogs (Catalogs.loaded_of_load hc) hclosed config
  have hreached : (reached config c os).Settled :=
    run_invariant (fun ho hmem => parts_keep_settled (hos ho hmem)) hstart
  exact ⟨hreached.followable.closed, fun x oid hx => hreached.equalityDecided hx⟩

section
open Catalogs.Sample

theorem sample_element {oid : Text} {t : AttributeType}
    (h : catalogs.references.element oid = .ok t) :
    (oid = ("2.5.4.41" : Text) ∧ t = name) ∨ (oid = ("2.5.4.3" : Text) ∧ t = commonName) := by
  have hlookup : (Registry.ofCatalog catalogs.attributeTypes).lookup oid = .ok t := h
  obtain ⟨e, he, rfl⟩ := Registry.lookup_eq_ok_iff.mp hlookup
  obtain ⟨hm, rfl⟩ : e ∈ catalogs.attributeTypes.entries ∧ e.oid = oid := Layer.mem_of_find? he
  rcases List.mem_cons.mp hm with rfl | hm
  · exact Or.inl ⟨rfl, rfl⟩
  · rw [List.eq_of_mem_singleton hm]
    exact Or.inr ⟨rfl, rfl⟩

theorem sample_superior {a b : Text} (h : catalogs.references.Superior a b) :
    a = ("2.5.4.3" : Text) ∧ b = ("2.5.4.41" : Text) := by
  obtain ⟨t, sup, ht, hsup, htype⟩ := h
  rcases sample_element ht with ⟨-, rfl⟩ | ⟨rfl, rfl⟩
  · cases hsup
  · cases hsup
    have hname : catalogs.references.typeOf ("name" : Text) = .ok ("2.5.4.41" : Text) := by
      decide +kernel
    rw [hname, Except.ok.injEq] at htype
    exact ⟨rfl, htype.symm⟩

theorem sample_closed : catalogs.references.Closed := by
  refine ⟨?_, ?_, ?_⟩
  · intro oid t sup ht hsup
    rcases sample_element ht with ⟨-, rfl⟩ | ⟨-, rfl⟩
    · cases hsup
    · cases hsup
      exact ⟨("2.5.4.41" : Text), by decide +kernel⟩
  · intro oid t rule ht hrule
    rcases sample_element ht with ⟨-, rfl⟩ | ⟨-, rfl⟩
    · cases hrule
      exact ⟨("2.5.13.2" : Text), by decide +kernel⟩
    · cases hrule
  · intro oid hcycle
    obtain ⟨next, hfirst, -⟩ := TransGen.head'_iff.mp hcycle
    obtain ⟨last, -, hlast⟩ := TransGen.tail'_iff.mp hcycle
    have hends := (sample_superior hfirst).1.symm.trans (sample_superior hlast).2
    exact absurd hends (by decide)

theorem sample_equality_rules_decided :
    let os := [(host, addAttributeType "nis" (.written "( 1.1 NAME 'nick' SUP cn )"))]
    Catalogs.load schemas ["people"] = .ok catalogs ∧ catalogs.references.Closed ∧
      (∀ ho ∈ os, ho.2.AddsDescriptions) ∧
      (reached {} catalogs os).EqualityDecided "nick" "1.1" := by
  intro os
  have hos : ∀ ho ∈ os, ho.2.AddsDescriptions := by
    simp [os, AddsDescriptions, Description.Source.Meets]
  have hx : (reached {} catalogs os).normalizeAttributeType "nick" = .ok "1.1" := by
    decide +kernel
  exact ⟨load_eq, sample_closed, hos,
    (equality_rules_decided load_eq sample_closed {} hos).2 _ _ hx⟩

end

end Operation

end DirectorySchema
