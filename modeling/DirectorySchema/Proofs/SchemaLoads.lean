import DirectorySchema.Proofs.Atomicity
import DirectorySchema.Proofs.OrderedAdditions

/-!
# Schemas are loaded element by element

Loading a schema comes to its single additions in order, rules first. So what a failing load
leaves is what the additions before the failing one have made, and a load that returns gives
the identifiers that the registries have gained, with a record for every other element.
-/

set_option autoImplicit false

namespace DirectorySchema

namespace Action

section
variable {schemaName oid : Text} {s t : Session}

theorem harmless_checked {k : Description.Kind} {read : Except Failure (Description k)}
    {check : Manager → Description k → Except Refusal Unit}
    {put : Session → Description k → Session} : Harmless (checked read check put) :=
  fun _ _ _ h => (checked_eq_error_iff.mp h).1

theorem harmless_addMatchingRule (a : RuleAddition) : Harmless (addMatchingRule schemaName a) := by
  rw [addMatchingRule_eq]
  exact harmless_checked

theorem harmless_addAttributeType (a : TypeAddition) :
    Harmless (addAttributeType schemaName a) := by
  rw [addAttributeType_eq]
  exact harmless_checked

/-- What one added rule changes of the identifiers and of the records that are no debugging
aid. -/
structure RuleGained (s : Session) (oid : Text) (t : Session) : Prop where
  matchingRules : t.manager.matchingRules.oids = s.manager.matchingRules.oids ++ [oid]
  comparators : t.manager.comparators.oids = s.manager.comparators.oids ++ [oid]
  normalizers : t.manager.normalizers.oids = s.manager.normalizers.oids ++ [oid]
  attributeTypes : t.manager.attributeTypes = s.manager.attributeTypes
  records : t.log.filter (!·.debug) = s.log.filter (!·.debug)

structure TypeGained (s : Session) (oid : Text) (t : Session) : Prop where
  attributeTypes : t.manager.attributeTypes.oids = s.manager.attributeTypes.oids ++ [oid]
  matchingRules : t.manager.matchingRules = s.manager.matchingRules
  comparators : t.manager.comparators = s.manager.comparators
  normalizers : t.manager.normalizers = s.manager.normalizers
  records : t.log.filter (!·.debug) = s.log.filter (!·.debug)

theorem ruleGained {a : RuleAddition} (h : addMatchingRule schemaName a s = .ok oid t) :
    RuleGained s oid t := by
  rw [addMatchingRule_eq, checked_eq_ok_iff] at h
  obtain ⟨d, -, -, rfl, rfl⟩ := h
  constructor
  · exact Registry.oids_insert _ _
  · exact Registry.oids_insert _ _
  · exact Registry.oids_insert _ _
  · rfl
  · simp [Session.putRule, Session.put, Registry.registrationRecord]

theorem typeGained {a : TypeAddition} (h : addAttributeType schemaName a s = .ok oid t) :
    TypeGained s oid t := by
  rw [addAttributeType_eq, checked_eq_ok_iff] at h
  obtain ⟨d, -, -, rfl, rfl⟩ := h
  constructor
  · exact Registry.oids_insert _ _
  · rfl
  · rfl
  · rfl
  · simp [Session.put, Registry.registrationRecord]

end

def additions (schemaName : Text) (rules : List RuleAddition) (types : List TypeAddition) :
    List (Action Text) :=
  rules.map (addMatchingRule schemaName) ++ types.map (addAttributeType schemaName)

section
variable {h : Host} {schemaName : Text} {rules : List RuleAddition} {types : List TypeAddition}
  {onDuplicate : Option Text} {policy : DuplicatePolicy} {s t : Session} {oids : List Text}
  {skips : List Record}

theorem forall_mem_additions {P : Action Text → Prop} :
    (∀ add ∈ additions schemaName rules types, P add) ↔
      (∀ a ∈ rules, P (addMatchingRule schemaName a)) ∧
        ∀ a ∈ types, P (addAttributeType schemaName a) := by
  rw [additions, List.forall_mem_append, List.forall_mem_map, List.forall_mem_map]

theorem harmless_additions : ∀ add ∈ additions schemaName rules types, Harmless add :=
  forall_mem_additions.mpr
    ⟨fun a _ => harmless_addMatchingRule a, fun a _ => harmless_addAttributeType a⟩

theorem loadSchema_eq (hp : choosePolicy h s.manager onDuplicate = .ok policy) :
    loadSchema h schemaName rules types onDuplicate s =
      addAll policy schemaName (additions schemaName rules types) s := by
  unfold loadSchema
  rw [bind_of_ok _ (get_eq s), hp]
  rfl

/-- What a load gives is what the registries have gained, rules first, and every element that
it gives no identifier for has left a record. -/
structure LoadGained (s : Session) (elements : Nat) (oids : List Text) (skips : List Record)
    (t : Session) : Prop where
  parts : ∃ ruleOids typeOids, oids = ruleOids ++ typeOids ∧
    t.manager.matchingRules.oids = s.manager.matchingRules.oids ++ ruleOids ∧
    t.manager.comparators.oids = s.manager.comparators.oids ++ ruleOids ∧
    t.manager.normalizers.oids = s.manager.normalizers.oids ++ ruleOids ∧
    t.manager.attributeTypes.oids = s.manager.attributeTypes.oids ++ typeOids
  records : t.log.filter (!·.debug) = s.log.filter (!·.debug) ++ skips
  counted : oids.length + skips.length = elements

theorem Adds.loadGained
    (hadds : Adds policy schemaName (additions schemaName rules types) s oids skips t) :
    LoadGained s (rules.length + types.length) oids skips t := by
  refine ⟨?_, ?_, ?_⟩
  · obtain ⟨ruleOids, typeOids, _, _, u, rfl, -, hrules, htypes⟩ := append_iff.mp hadds
    have hrule : ∀ add ∈ rules.map (addMatchingRule schemaName), ∀ s oid t,
        add s = .ok oid t → RuleGained s oid t :=
      List.forall_mem_map.mpr fun a _ s oid t => ruleGained
    have htype : ∀ add ∈ types.map (addAttributeType schemaName), ∀ s oid t,
        add s = .ok oid t → TypeGained s oid t :=
      List.forall_mem_map.mpr fun a _ s oid t => typeGained
    refine ⟨ruleOids, typeOids, rfl, ?_, ?_, ?_, ?_⟩
    · rw [htypes.keeps (f := (·.matchingRules)) fun add hadd _ _ _ hok =>
        (htype add hadd _ _ _ hok).matchingRules]
      exact hrules.gains (f := (·.matchingRules.oids)) fun add hadd _ _ _ hok =>
        (hrule add hadd _ _ _ hok).matchingRules
    · rw [htypes.keeps (f := (·.comparators)) fun add hadd _ _ _ hok =>
        (htype add hadd _ _ _ hok).comparators]
      exact hrules.gains (f := (·.comparators.oids)) fun add hadd _ _ _ hok =>
        (hrule add hadd _ _ _ hok).comparators
    · rw [htypes.keeps (f := (·.normalizers)) fun add hadd _ _ _ hok =>
        (htype add hadd _ _ _ hok).normalizers]
      exact hrules.gains (f := (·.normalizers.oids)) fun add hadd _ _ _ hok =>
        (hrule add hadd _ _ _ hok).normalizers
    · rw [← hrules.keeps (f := (·.attributeTypes)) fun add hadd _ _ _ hok =>
        (hrule add hadd _ _ _ hok).attributeTypes]
      exact htypes.gains (f := (·.attributeTypes.oids)) fun add hadd _ _ _ hok =>
        (htype add hadd _ _ _ hok).attributeTypes
  · refine hadds.records (forall_mem_additions.mpr ⟨?_, ?_⟩)
    · exact fun a _ s oid t hok => (ruleGained hok).records
    · exact fun a _ s oid t hok => (typeGained hok).records
  · rw [hadds.length_add_length, additions, List.length_append, List.length_map, List.length_map]

end

/-- Loading a schema is making its additions in order. It fails where the first addition that
is not passed over fails, in the session that the additions before it have led to; it returns
when they are all made or passed over, and gives what was gained. Where nothing may be passed
over, exactly the additions before the failing one have been made, and a load that returns
comes to the same under the skipping policy. -/
theorem loads_in_order (h : Host) (schemaName : Text) (rules : List RuleAddition)
    (types : List TypeAddition) {onDuplicate : Option Text} {policy : DuplicatePolicy}
    {s : Session} (hp : choosePolicy h s.manager onDuplicate = .ok policy) :
    let load := loadSchema h schemaName rules types
    (∀ e t, load onDuplicate s = .error e t ↔
      ∃ before add after oids skips,
        additions schemaName rules types = before ++ add :: after ∧
        Adds policy schemaName before s oids skips t ∧ add t = .error e t ∧
        ¬ Forgiven policy e) ∧
    (∀ oids t, load onDuplicate s = .ok oids t ↔
      ∃ skips, Adds policy schemaName (additions schemaName rules types) s oids skips t ∧
        LoadGained s (rules.length + types.length) oids skips t) ∧
    (policy = .fail →
      (∀ e t, load onDuplicate s = .error e t → ∃ before add after oids,
        additions schemaName rules types = before ++ add :: after ∧
        Adds .fail schemaName before s oids [] t ∧ oids.length = before.length ∧
        add t = .error e t) ∧
      ∀ oids t, load onDuplicate s = .ok oids t →
        ∀ other, choosePolicy h s.manager other = .ok .skip → load other s = .ok oids t) := by
  intro load
  have hload : load onDuplicate s = addAll policy schemaName (additions schemaName rules types) s :=
    loadSchema_eq hp
  refine ⟨?_, ?_, ?_⟩
  · intro e t
    rw [hload]
    exact addAll_eq_error_iff harmless_additions
  · intro oids t
    rw [hload, addAll_eq_ok_iff harmless_additions]
    constructor
    · rintro ⟨skips, hadds⟩
      exact ⟨skips, hadds, hadds.loadGained⟩
    · rintro ⟨skips, hadds, -⟩
      exact ⟨skips, hadds⟩
  · rintro rfl
    rw [hload]
    refine ⟨?_, ?_⟩
    · intro e t herror
      obtain ⟨before, add, after, oids, skips, hsplit, hadds, hadd, -⟩ :=
        (addAll_eq_error_iff harmless_additions).mp herror
      obtain ⟨rfl, hsame⟩ := hadds.of_fail
      exact ⟨before, add, after, oids, hsplit, hadds, by simpa using hadds.length_add_length, hadd⟩
    · intro oids t hok other hother
      obtain ⟨skips, hadds⟩ := (addAll_eq_ok_iff harmless_additions).mp hok
      have hskip : load other s = addAll .skip schemaName (additions schemaName rules types) s :=
        loadSchema_eq hother
      rw [hskip]
      exact addAll_of_adds (hadds.of_fail.2 .skip)

section
open Catalogs.Sample Operation

def mixedRules : List RuleAddition :=
  [⟨.written "( 1.5 NAME 'ownMatch' SYNTAX 1.3 )", .order .integer, .form .integer⟩,
    ⟨.written "( 1.6 NAME 'CASEIGNOREMATCH' SYNTAX 1.3 )", .order .boolean, .form .boolean⟩]

def mixedTypes : List TypeAddition :=
  [.written "( 2.5.4.3 NAME 'other' SUP name )",
    .written "( 1.1 NAME 'nick' EQUALITY ownMatch SUP cn )"]

/-- Of two rules and two types, one has a name and one an identifier that is taken, and the
last type refers to the first rule. -/
theorem mixed_loads_in_order :
    choosePolicy host sampleSession.manager (some "skip") = .ok .skip ∧
    ∃ t skips, loadSchema host "nis" mixedRules mixedTypes (some "skip") sampleSession =
        .ok ["1.5", "1.1"] t ∧
      Adds .skip "nis" (additions "nis" mixedRules mixedTypes) sampleSession ["1.5", "1.1"] skips
        t ∧ skips.length = 2 := by
  have hpolicy : choosePolicy host sampleSession.manager (some "skip") = .ok .skip := rfl
  have hgiven : ((Operation.loadSchema "nis" mixedRules mixedTypes (some "skip")).outcome host
      sampleSession).1 = .ok ["1.5", "1.1"] := by decide +kernel
  obtain ⟨t, hload⟩ := exists_of_outcome_fst hgiven
  obtain ⟨skips, hadds, hgained⟩ :=
    ((loads_in_order host "nis" mixedRules mixedTypes hpolicy).2.1 _ t).mp hload
  have hcounted : 2 + skips.length = 4 := hgained.counted
  exact ⟨hpolicy, t, skips, hload, hadds, by omega⟩

end

end Action

end DirectorySchema
