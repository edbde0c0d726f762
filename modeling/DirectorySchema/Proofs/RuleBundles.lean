import DirectorySchema.Proofs.Loading
import DirectorySchema.Proofs.Runs

/-!
# Matching rules are whole

A matching rule is of use only with a comparator and a normalizer under its identifier. It
comes in with both of them, from one schema, or not at all; and since nothing that is held
is ever replaced, elements registered directly beside it cannot take their places. Without
direct registrations the three registries even stay in step.
-/

set_option autoImplicit false

namespace DirectorySchema

namespace Registry

variable {α β : Type}

def contributor? (r : Registry α) (oid : Text) : Option Text := (r.find? oid).map Entry.schemaName

theorem holds_iff_contributor? {r : Registry α} {oid : Text} :
    r.holds oid = true ↔ ∃ schemaName, r.contributor? oid = some schemaName := by
  rw [holds_eq_isSome, contributor?]
  cases r.find? oid <;> simp

theorem schemaNameOf_of_contributor? {r : Registry α} {oid schemaName : Text}
    (hoid : Text.startsWithDigit oid = true) (h : r.contributor? oid = some schemaName) :
    r.schemaNameOf oid = .ok schemaName :=
  schemaNameOf_eq_ok_iff.mpr ⟨hoid, Option.map_eq_some_iff.mp h⟩

def CoveredBy (r : Registry α) (q : Registry β) : Prop :=
  ∀ oid schemaName, r.contributor? oid = some schemaName → q.contributor? oid = some schemaName

structure InStep (r : Registry α) (q : Registry β) : Prop where
  catalog : r.catalog.oids = q.catalog.oids
  runtime : r.oids = q.oids

namespace Gains

variable [SchemaElement α] {r r' : Registry α} {e : Entry α} (h : r.Gains r' e)
include h

theorem contributor? (oid : Text) :
    r'.contributor? oid = if e.oid = oid then some e.schemaName else r.contributor? oid := by
  rw [h.eq_insert, Registry.contributor?, find?_insert h.admitted]
  split <;> rfl

theorem oids : r'.oids = r.oids ++ [e.oid] := by
  rw [Registry.oids, Layer.oids, h.entries, List.map_append]
  rfl

end Gains

variable {r r' : Registry α} {q q' : Registry β} {e : Entry α} {f : Entry β} [SchemaElement β]

theorem CoveredBy.gains_right (h : r.CoveredBy q) (hq : q.Gains q' f) : r.CoveredBy q' := by
  intro oid schemaName ho
  have hold := h oid schemaName ho
  rw [hq.contributor?, if_neg, hold]
  rintro rfl
  have hheld : q.holds f.oid = true := holds_iff_contributor?.mpr ⟨schemaName, hold⟩
  rw [hq.admitted.free] at hheld
  cases hheld

variable [SchemaElement α]

theorem CoveredBy.gains_both (h : r.CoveredBy q) (hr : r.Gains r' e) (hq : q.Gains q' f)
    (hoid : f.oid = e.oid) (hname : f.schemaName = e.schemaName) : r'.CoveredBy q' := by
  intro oid schemaName ho
  rw [hr.contributor?] at ho
  rw [hq.contributor?, hoid, hname]
  split at ho
  · next heq => rwa [if_pos heq]
  · next hne => rw [if_neg hne, h oid schemaName ho]

theorem InStep.gains (h : r.InStep q) (hr : r.Gains r' e) (hq : q.Gains q' f)
    (hoid : f.oid = e.oid) : r'.InStep q' := by
  constructor
  · rw [hr.catalog, hq.catalog, h.catalog]
  · rw [hr.oids, hq.oids, h.runtime, hoid]

end Registry

namespace Manager

structure RulesWhole (m : Manager) : Prop where
  comparators : m.matchingRules.CoveredBy m.comparators
  normalizers : m.matchingRules.CoveredBy m.normalizers

structure RulesInStep (m : Manager) : Prop where
  comparators : m.matchingRules.InStep m.comparators
  normalizers : m.matchingRules.InStep m.normalizers

end Manager

namespace Catalogs

theorem rules_of_load {schemas : List (Text × SchemaDefinition)} {names : List Text}
    {c : Catalogs} (h : load schemas names = .ok c) :
    ∃ rules : List Rule, c.matchingRules.entries = rules.map (fun r => r.entry r.description) ∧
      c.comparators.entries = rules.map (fun r => r.entry r.comparator) ∧
      c.normalizers.entries = rules.map (fun r => r.entry r.normalizer) := by
  obtain ⟨read, -, h⟩ := bind_eq_ok_iff.mp h
  obtain ⟨hcs, hns, hrs, -, -⟩ := build_eq_ok_iff.mp (mapError_eq_ok_iff.mp h)
  exact ⟨_, Layer.entries_of_ofEntries hrs, Layer.entries_of_ofEntries hcs,
    Layer.entries_of_ofEntries hns⟩

theorem contributor?_ofCatalog {α : Type} {rules : List Rule} {element : Rule → α} {l : Layer α}
    (h : l.entries = rules.map fun r => r.entry (element r)) (oid : Text) :
    (Registry.ofCatalog l).contributor? oid =
      (rules.find? fun r => r.description.oid == oid).map Rule.schemaName := by
  have hfind : (Registry.ofCatalog l).find? oid = l.find? oid := rfl
  rw [Registry.contributor?, hfind, Layer.find?, h, List.find?_map, Option.map_map]
  rfl

theorem rulesWhole_of_load {schemas : List (Text × SchemaDefinition)} {names : List Text}
    {c : Catalogs} (h : load schemas names = .ok c) (config : ManagerConfig) :
    (Manager.ofCatalogs config c).RulesWhole := by
  obtain ⟨rules, hrs, hcs, hns⟩ := rules_of_load h
  constructor
  · intro oid schemaName ho
    exact (contributor?_ofCatalog hcs oid).trans ((contributor?_ofCatalog hrs oid).symm.trans ho)
  · intro oid schemaName ho
    exact (contributor?_ofCatalog hns oid).trans ((contributor?_ofCatalog hrs oid).symm.trans ho)

theorem Loaded.rulesInStep {c : Catalogs} (h : c.Loaded) (config : ManagerConfig) :
    (Manager.ofCatalogs config c).RulesInStep :=
  ⟨⟨h.comparators_oids.symm, rfl⟩, ⟨h.normalizers_oids.symm, rfl⟩⟩

end Catalogs

namespace Operation

def registers? : Operation → Option ElementKind
  | registerComparator .. => some .comparator
  | registerNormalizer .. => some .normalizer
  | registerMatchingRule .. => some .matchingRule
  | registerAttributeType .. => some .attributeType
  | _ => none

theorem registers?_of_mem_parts {h : Host} {o p : Operation} (hp : p ∈ o.parts h) :
    p.registers? = o.registers? := by
  cases hasPart_of_mem_parts hp <;> rfl

theorem keeps_rulesWhole {o : Operation} (ho : o.registers? ≠ some .matchingRule) :
    o.Keeps Manager.RulesWhole := by
  intro s s' hs hadded
  cases o with
  | registerComparator schemaName oid c =>
    obtain ⟨hc, heq⟩ := hadded
    rw [heq]
    exact ⟨hs.comparators.gains_right hc, hs.normalizers⟩
  | registerNormalizer schemaName oid n =>
    obtain ⟨hn, heq⟩ := hadded
    rw [heq]
    exact ⟨hs.comparators, hs.normalizers.gains_right hn⟩
  | registerMatchingRule schemaName oid d => exact absurd rfl ho
  | registerAttributeType schemaName oid d =>
    rw [hadded.2]
    exact ⟨hs.comparators, hs.normalizers⟩
  | addMatchingRule schemaName a =>
    obtain ⟨d, -, hr, hc, hn, -⟩ := hadded
    exact ⟨hs.comparators.gains_both hr hc rfl rfl, hs.normalizers.gains_both hr hn rfl rfl⟩
  | addAttributeType schemaName a =>
    obtain ⟨d, -, -, -, heq⟩ := hadded
    rw [heq]
    exact ⟨hs.comparators, hs.normalizers⟩
  | loadSchema => exact hadded.elim
  | loadSchemaFile => exact hadded.elim

theorem keeps_rulesInStep {o : Operation} (ho : o.registers? = none) :
    o.Keeps Manager.RulesInStep := by
  intro s s' hs hadded
  cases o with
  | addMatchingRule schemaName a =>
    obtain ⟨d, -, hr, hc, hn, -⟩ := hadded
    exact ⟨hs.comparators.gains hr hc rfl, hs.normalizers.gains hr hn rfl⟩
  | addAttributeType schemaName a =>
    obtain ⟨d, -, -, -, heq⟩ := hadded
    rw [heq]
    exact ⟨hs.comparators, hs.normalizers⟩
  | loadSchema => exact hadded.elim
  | loadSchemaFile => exact hadded.elim
  | _ => cases ho

/-- Matching rules are never half present. As long as none is registered by itself, each has
its comparator and its normalizer beside it, all three from one schema, whatever else is
registered and wherever the run fails; and if nothing is registered by itself, the three
registries list the same identifiers in the same order, in the catalog and above it. -/
theorem rules_never_half_present {schemas : List (Text × SchemaDefinition)} {names : List Text}
    {c : Catalogs} (hc : Catalogs.load schemas names = .ok c) (config : ManagerConfig)
    (os : List (Host × Operation)) :
    let m := reached config c os
    ((∀ ho ∈ os, ho.2.registers? ≠ some .matchingRule) →
      ∀ oid, m.matchingRules.holds oid = true →
        m.comparators.holds oid = true ∧ m.normalizers.holds oid = true ∧
        ∃ schemaName, m.matchingRules.contributor? oid = some schemaName ∧
          m.comparators.contributor? oid = some schemaName ∧
          m.normalizers.contributor? oid = some schemaName ∧
          (Text.startsWithDigit oid = true →
            m.matchingRules.schemaNameOf oid = .ok schemaName ∧
            m.comparators.schemaNameOf oid = .ok schemaName ∧
            m.normalizers.schemaNameOf oid = .ok schemaName)) ∧
    ((∀ ho ∈ os, ho.2.registers? = none) →
      m.matchingRules.InStep m.comparators ∧ m.matchingRules.InStep m.normalizers) := by
  intro m
  constructor
  · intro hos oid hoid
    have hwhole : m.RulesWhole := by
      refine run_invariant (fun ho hmem p hp => keeps_rulesWhole ?_)
        (Catalogs.rulesWhole_of_load hc config)
      rw [registers?_of_mem_parts hp]
      exact hos ho hmem
    obtain ⟨schemaName, hr⟩ := Registry.holds_iff_contributor?.mp hoid
    have hcomparator := hwhole.comparators oid schemaName hr
    have hnormalizer := hwhole.normalizers oid schemaName hr
    refine ⟨Registry.holds_iff_contributor?.mpr ⟨_, hcomparator⟩,
      Registry.holds_iff_contributor?.mpr ⟨_, hnormalizer⟩, schemaName, hr, hcomparator,
      hnormalizer, ?_⟩
    intro hdigit
    exact ⟨Registry.schemaNameOf_of_contributor? hdigit hr,
      Registry.schemaNameOf_of_contributor? hdigit hcomparator,
      Registry.schemaNameOf_of_contributor? hdigit hnormalizer⟩
  · intro hos
    have hstep : m.RulesInStep := by
      refine run_invariant (fun ho hmem p hp => keeps_rulesInStep ?_)
        ((Catalogs.loaded_of_load hc).rulesInStep config)
      rw [registers?_of_mem_parts hp]
      exact hos ho hmem
    exact ⟨hstep.comparators, hstep.normalizers⟩

section
open Catalogs.Sample

def ruleWritten (description : Text) : Operation :=
  addMatchingRule "nis" ⟨.written description, .order .integer, .form .integer⟩

/-- A comparator is in the way of one matching rule, a normalizer of another, a name of the
third, and what comes too late of none. -/
def obstructed : List (Host × Operation) :=
  [(host, registerComparator "own" "1.1" (.order .boolean)),
    (host, ruleWritten "( 1.1 NAME 'first' SYNTAX 1.3 )"),
    (host, registerNormalizer "own" "1.2" (.form .boolean)),
    (host, ruleWritten "( 1.2 NAME 'second' SYNTAX 1.3 )"),
    (host, ruleWritten "( 1.3 NAME 'CASEIGNOREMATCH' SYNTAX 1.3 )"),
    (host, ruleWritten "( 1.4 NAME 'fourth' SYNTAX 1.3 )"),
    (host, registerNormalizer "own" "1.4" (.form .boolean))]

theorem obstructed_rules_whole :
    let m := reached {} catalogs obstructed
    let n := reached {} catalogs [(host, ruleWritten "( 1.1 NAME 'first' SYNTAX 1.3 )")]
    Catalogs.load schemas ["people"] = .ok catalogs ∧
      (∀ ho ∈ obstructed, ho.2.registers? ≠ some .matchingRule) ∧
      m.matchingRules.oids = [("1.4" : Text)] ∧
      m.comparators.schemaNameOf "1.4" = .ok "nis" ∧
      m.normalizers.schemaNameOf "1.4" = .ok "nis" ∧
      n.comparators.oids = [("1.1" : Text)] ∧ n.matchingRules.InStep n.comparators := by
  intro m n
  have hos : ∀ ho ∈ obstructed, ho.2.registers? ≠ some .matchingRule := by
    simp [obstructed, ruleWritten, registers?]
  have hheld : m.matchingRules.holds "1.4" = true := by decide +kernel
  have hname : m.matchingRules.schemaNameOf "1.4" = .ok "nis" := by decide +kernel
  obtain ⟨-, -, schemaName, -, -, -, hnames⟩ :=
    (rules_never_half_present load_eq {} obstructed).1 hos "1.4" hheld
  obtain ⟨hrule, hcomparator, hnormalizer⟩ := hnames (by decide)
  rw [hname, Except.ok.injEq] at hrule
  subst hrule
  have hstep : n.matchingRules.InStep n.comparators :=
    ((rules_never_half_present load_eq {} _).2 (by simp [ruleWritten, registers?])).1
  exact ⟨load_eq, hos, by decide +kernel, hcomparator, hnormalizer, by decide +kernel, hstep⟩

end

end Operation

end DirectorySchema
