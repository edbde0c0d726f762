import DirectorySchema.Proofs.Transparency

/-!
# Loading accepts the consistent schemas

Which lists of schemas can be loaded is said without the loader: every schema is defined,
every description can be read, and among the descriptions of one kind no identifier and no
name occurs twice. What is loaded then answers for exactly what the schemas list.
-/

set_option autoImplicit false

namespace DirectorySchema

namespace Layer

variable {α : Type} [SchemaElement α] {es : List (Entry α)} {l : Layer α} {r : Refusal}

/-- A layer gives out the entries: their identifiers in order, under each of them its element
and its schema, and their names. -/
structure Lists (l : Layer α) (es : List (Entry α)) : Prop where
  oids : l.oids = es.map Entry.oid
  element_iff : ∀ oid a, l.element oid = .ok a ↔ ∃ e ∈ es, e.oid = oid ∧ e.element = a
  schemaName_iff : ∀ oid s, l.schemaName oid = .ok s ↔ ∃ e ∈ es, e.oid = oid ∧ e.schemaName = s
  hasName_iff : ∀ n, l.hasName n = true ↔ ∃ e ∈ es, e.Bears n

theorem Sound.lists (hl : l.Sound) : l.Lists l.entries := by
  refine ⟨rfl, ?_, ?_, fun n => hl.hasName_iff⟩
  · intro oid a
    have hfind : l.element oid = .ok a ↔ ∃ e, l.find? oid = some e ∧ e.element = a := by
      rw [element]
      cases l.find? oid <;> simp
    simp only [hfind, hl.find?_iff, and_assoc]
  · intro oid s
    have hfind : l.schemaName oid = .ok s ↔ ∃ e, l.find? oid = some e ∧ e.schemaName = s := by
      rw [schemaName]
      cases l.find? oid <;> simp
    simp only [hfind, hl.find?_iff, and_assoc]

theorem category_of_claimOids {seen : List (Entry α)} (h : claimOids seen es = .error r) :
    r.category = .configuration := by
  induction es generalizing seen with
  | nil => cases h
  | cons e es ih =>
    rw [claimOids] at h
    cases hf : seen.find? (·.oid == e.oid) with
    | some first =>
      rw [hf] at h
      cases h
      rfl
    | none =>
      rw [hf] at h
      exact ih h

theorem category_of_claimNames {kind : ElementKind} {ps seen : List (Text × Text)}
    (h : claimNames kind seen ps = .error r) : r.category = .configuration := by
  induction ps generalizing seen with
  | nil => cases h
  | cons p ps ih =>
    obtain ⟨name, oid⟩ := p
    rw [claimNames] at h
    cases hk : seen.lookup (Text.lower name) with
    | some first =>
      rw [hk] at h
      cases h
      rfl
    | none =>
      rw [hk] at h
      exact ih h

theorem category_of_ofEntries (h : ofEntries es = .error r) : r.category = .configuration := by
  rcases bind_eq_error_iff.mp h with hoids | ⟨-, -, h⟩
  · exact category_of_claimOids hoids
  · rcases bind_eq_error_iff.mp h with hnames | ⟨-, -, h⟩
    · exact category_of_claimNames hnames
    · cases h

end Layer

namespace Catalogs

section
variable (schemas : List (Text × SchemaDefinition)) (names : List Text)

/-- What the named schemas list in one of their parts, each with the name of its schema. A
schema that is named twice lists everything twice. -/
def listed {β : Type} (part : SchemaDefinition → List β) : List (Text × β) :=
  names.flatMap fun name => ((schemas.lookup name).elim [] part).map fun b => (name, b)

def listedRules : List Rule :=
  (listed schemas names (·.matchingRules)).filterMap fun p =>
    (Description.parse .matchingRule p.2.description).toOption.map fun d =>
      ⟨p.1, d, p.2.comparator, p.2.normalizer⟩

def listedTypes : List (Entry AttributeType) :=
  (listed schemas names (·.attributeTypes)).filterMap fun p =>
    (Description.parse .attributeType p.2).toOption.map fun d => ⟨d.oid, p.1, d⟩

structure Legible : Prop where
  defined : ∀ name ∈ names, ∃ d, schemas.lookup name = some d
  rules_read : ∀ p ∈ listed schemas names (·.matchingRules),
    ∃ d, Description.parse .matchingRule p.2.description = .ok d
  types_read : ∀ p ∈ listed schemas names (·.attributeTypes),
    ∃ d, Description.parse .attributeType p.2 = .ok d

/-- Moreover no identifier occurs twice among the matching rules or among the attribute types,
and up to case no name does. -/
structure Consistent : Prop extends Legible schemas names where
  rule_oids : ((listedRules schemas names).map fun r => r.description.oid).Nodup
  rule_names :
    ((listedRules schemas names).flatMap fun r => r.description.names.map Text.lower).Nodup
  type_oids : ((listedTypes schemas names).map fun e => e.element.oid).Nodup
  type_names :
    ((listedTypes schemas names).flatMap fun e => e.element.names.map Text.lower).Nodup

end

section
variable {schemas : List (Text × SchemaDefinition)} {names : List Text} {name : Text}

theorem readRule_eq (name : Text) (d : RuleDefinition) :
    readRule name d =
      ((Description.parse .matchingRule d.description).mapError .malformed).map fun m =>
        ⟨name, m, d.comparator, d.normalizer⟩ := by
  unfold readRule
  cases Description.parse .matchingRule d.description <;> rfl

theorem readType_eq (name text : Text) :
    readType name text =
      ((Description.parse .attributeType text).mapError .malformed).map fun d =>
        ⟨d.oid, name, d⟩ := by
  unfold readType
  cases Description.parse .attributeType text <;> rfl

theorem exists_readSchema_iff :
    (∃ p, readSchema schemas name = .ok p) ↔ ∃ d, schemas.lookup name = some d ∧
      (∀ b ∈ d.matchingRules, ∃ m, Description.parse .matchingRule b.description = .ok m) ∧
      ∀ text ∈ d.attributeTypes, ∃ t, Description.parse .attributeType text = .ok t := by
  have hrule : ∀ b, (∃ m, Description.parse .matchingRule b.description = .ok m) ↔
      ∃ r, readRule name b = .ok r := by
    intro b
    simp [readRule_eq, map_eq_ok_iff, mapError_eq_ok_iff]
  have htype : ∀ text, (∃ t, Description.parse .attributeType text = .ok t) ↔
      ∃ e, readType name text = .ok e := by
    intro text
    simp [readType_eq, map_eq_ok_iff, mapError_eq_ok_iff]
  simp only [readSchema_eq_ok_iff, Prod.exists, hrule, htype, ← exists_mapM_eq_ok_iff]
  constructor
  · rintro ⟨rules, types, d, hd, hrules, htypes⟩
    exact ⟨d, hd, ⟨rules, hrules⟩, types, htypes⟩
  · rintro ⟨d, hd, ⟨rules, hrules⟩, types, htypes⟩
    exact ⟨rules, types, d, hd, hrules, htypes⟩

theorem forall_mem_listed {β : Type} {part : SchemaDefinition → List β} (P : β → Prop) :
    (∀ p ∈ listed schemas names part, P p.2) ↔
      ∀ name ∈ names, ∀ d, schemas.lookup name = some d → ∀ b ∈ part d, P b := by
  simp only [listed, List.mem_flatMap, List.mem_map]
  constructor
  · intro h name hname d hd b hb
    exact h (name, b) ⟨name, hname, b, by rwa [hd], rfl⟩
  · rintro h p ⟨name, hname, b, hb, rfl⟩
    cases hd : schemas.lookup name with
    | none => simp [hd] at hb
    | some d =>
      rw [hd] at hb
      exact h name hname d hd b hb

theorem exists_read_iff :
    (∃ read, names.mapM (readSchema schemas) = .ok read) ↔ Legible schemas names := by
  simp only [exists_mapM_eq_ok_iff, exists_readSchema_iff]
  constructor
  · intro h
    refine ⟨?_,
      (forall_mem_listed fun b : RuleDefinition =>
        ∃ m, Description.parse _ b.description = .ok m).mpr ?_,
      (forall_mem_listed fun text => ∃ t, Description.parse _ text = .ok t).mpr ?_⟩
    · intro name hname
      obtain ⟨d, hd, -⟩ := h name hname
      exact ⟨d, hd⟩
    · intro name hname d hd
      obtain ⟨d', hd', hrules, -⟩ := h name hname
      cases hd.symm.trans hd'
      exact hrules
    · intro name hname d hd
      obtain ⟨d', hd', -, htypes⟩ := h name hname
      cases hd.symm.trans hd'
      exact htypes
  · intro h name hname
    obtain ⟨d, hd⟩ := h.defined name hname
    exact ⟨d, hd, (forall_mem_listed _).mp h.rules_read name hname d hd,
      (forall_mem_listed _).mp h.types_read name hname d hd⟩

theorem read_eq {read : List (List Rule × List (Entry AttributeType))}
    (h : names.mapM (readSchema schemas) = .ok read) :
    read.flatMap Prod.fst = listedRules schemas names ∧
      read.flatMap Prod.snd = listedTypes schemas names := by
  have hall := mapM_eq_ok_iff.mp h
  clear h
  induction hall with
  | nil => exact ⟨rfl, rfl⟩
  | @cons name p names read hp _ ih =>
    obtain ⟨d, hd, hrules, htypes⟩ := readSchema_eq_ok_iff.mp hp
    obtain ⟨ihrules, ihtypes⟩ := ih
    constructor
    · rw [List.flatMap_cons, ihrules, eq_filterMap_of_mapM hrules]
      simp only [listedRules, listed, List.flatMap_cons, List.filterMap_append, hd,
        Option.elim_some, List.filterMap_map, readRule_eq, toOption_map, toOption_mapError,
        Function.comp_def]
    · rw [List.flatMap_cons, ihtypes, eq_filterMap_of_mapM htypes]
      simp only [listedTypes, listed, List.flatMap_cons, List.filterMap_append, hd,
        Option.elim_some, List.filterMap_map, readType_eq, toOption_map, toOption_mapError,
        Function.comp_def]

theorem apart_rules_iff {α : Type} [SchemaElement α] {rules : List Rule} {f : Rule → α} :
    Layer.Apart (rules.map fun r => r.entry (f r)) ↔
      (rules.map fun r => r.description.oid).Nodup ∧
        (rules.flatMap fun r => (SchemaElement.names (f r)).map Text.lower).Nodup := by
  have hoids : (rules.map fun r => r.entry (f r)).map Entry.oid =
      rules.map fun r => r.description.oid := List.map_map
  have hnames : ((rules.map fun r => r.entry (f r)).flatMap fun e =>
      (SchemaElement.names e.element).map Text.lower) =
        rules.flatMap fun r => (SchemaElement.names (f r)).map Text.lower := List.flatMap_map _ _ _
  rw [← hoids, ← hnames]
  exact ⟨fun h => ⟨h.oids, h.names⟩, fun h => ⟨h.1, h.2⟩⟩

theorem exists_build_iff {rules : List Rule} {types : List (Entry AttributeType)} :
    (∃ c, build names rules types = .ok c) ↔
      Layer.Apart (rules.map fun r => r.entry r.description) ∧ Layer.Apart types := by
  simp only [build_eq_ok_iff]
  constructor
  · rintro ⟨c, -, -, hrules, htypes, -⟩
    exact ⟨Layer.exists_ofEntries_iff _ |>.mp ⟨_, hrules⟩,
      Layer.exists_ofEntries_iff _ |>.mp ⟨_, htypes⟩⟩
  · rintro ⟨hrules, htypes⟩
    -- Comparators and normalizers have no names, and their identifiers are those of the rules.
    have hoids := (apart_rules_iff.mp hrules).1
    have hnames : (rules.flatMap fun _ => ([] : List Text)).Nodup := by
      rw [List.flatMap_eq_nil_iff.mpr fun _ _ => rfl]
      exact List.nodup_nil
    obtain ⟨cs, hcs⟩ := Layer.exists_ofEntries_iff _ |>.mpr
      (apart_rules_iff (f := Rule.comparator) |>.mpr ⟨hoids, hnames⟩)
    obtain ⟨ns, hns⟩ := Layer.exists_ofEntries_iff _ |>.mpr
      (apart_rules_iff (f := Rule.normalizer) |>.mpr ⟨hoids, hnames⟩)
    obtain ⟨rs, hrs⟩ := Layer.exists_ofEntries_iff _ |>.mpr hrules
    obtain ⟨ts, hts⟩ := Layer.exists_ofEntries_iff _ |>.mpr htypes
    exact ⟨⟨cs, ns, rs, ts, names⟩, hcs, hns, hrs, hts, rfl⟩

theorem oid_of_mem_listedTypes {e : Entry AttributeType} (h : e ∈ listedTypes schemas names) :
    e.oid = e.element.oid := by
  obtain ⟨p, -, hp⟩ := List.mem_filterMap.mp h
  obtain ⟨d, -, rfl⟩ := Option.map_eq_some_iff.mp hp
  rfl

theorem consistent_iff :
    Consistent schemas names ↔ Legible schemas names ∧
      Layer.Apart ((listedRules schemas names).map fun r => r.entry r.description) ∧
      Layer.Apart (listedTypes schemas names) := by
  have hown : (listedTypes schemas names).map Entry.oid =
      (listedTypes schemas names).map fun e => e.element.oid :=
    List.map_congr_left fun e he => oid_of_mem_listedTypes he
  rw [apart_rules_iff]
  constructor
  · intro h
    exact ⟨h.toLegible, ⟨h.rule_oids, h.rule_names⟩, hown ▸ h.type_oids, h.type_names⟩
  · rintro ⟨hlegible, ⟨hoids, hnames⟩, htypes⟩
    exact ⟨hlegible, hoids, hnames, hown ▸ htypes.oids, htypes.names⟩

theorem load_eq_ok_iff {c : Catalogs} :
    load schemas names = .ok c ↔ Legible schemas names ∧
      build names (listedRules schemas names) (listedTypes schemas names) = .ok c := by
  rw [load, bind_eq_ok_iff, ← exists_read_iff]
  simp only [mapError_eq_ok_iff]
  constructor
  · rintro ⟨read, hread, hbuild⟩
    obtain ⟨hrules, htypes⟩ := read_eq hread
    exact ⟨⟨read, hread⟩, hrules ▸ htypes ▸ hbuild⟩
  · rintro ⟨⟨read, hread⟩, hbuild⟩
    obtain ⟨hrules, htypes⟩ := read_eq hread
    exact ⟨read, hread, hrules.symm ▸ htypes.symm ▸ hbuild⟩

theorem exists_load_iff : (∃ c, load schemas names = .ok c) ↔ Consistent schemas names := by
  simp only [load_eq_ok_iff, exists_and_left, exists_build_iff, consistent_iff]

/-- Why loading refuses: a description that cannot be read, or a bad configuration. -/
def Rejected (e : Failure) : Prop :=
  (∃ m, e = .malformed m) ∨ ∃ r, e = .refused r ∧ r.category = .configuration

theorem rejected_of_readSchema {e : Failure} (h : readSchema schemas name = .error e) :
    Rejected e := by
  unfold readSchema at h
  split at h
  · cases h
    exact Or.inr ⟨_, rfl, rfl⟩
  · rcases bind_eq_error_iff.mp h with hrules | ⟨rules, -, h⟩
    · obtain ⟨d, -, hd⟩ := exists_of_mapM_eq_error hrules
      rw [readRule_eq, map_eq_error_iff, mapError_eq_error_iff] at hd
      obtain ⟨m, -, rfl⟩ := hd
      exact Or.inl ⟨m, rfl⟩
    · rcases bind_eq_error_iff.mp h with htypes | ⟨types, -, h⟩
      · obtain ⟨text, -, ht⟩ := exists_of_mapM_eq_error htypes
        rw [readType_eq, map_eq_error_iff, mapError_eq_error_iff] at ht
        obtain ⟨m, -, rfl⟩ := ht
        exact Or.inl ⟨m, rfl⟩
      · cases h

theorem category_of_build {rules : List Rule} {types : List (Entry AttributeType)} {r : Refusal}
    (h : build names rules types = .error r) : r.category = .configuration := by
  rcases bind_eq_error_iff.mp h with hcs | ⟨cs, -, h⟩
  · exact Layer.category_of_ofEntries hcs
  rcases bind_eq_error_iff.mp h with hns | ⟨ns, -, h⟩
  · exact Layer.category_of_ofEntries hns
  rcases bind_eq_error_iff.mp h with hrs | ⟨rs, -, h⟩
  · exact Layer.category_of_ofEntries hrs
  rcases bind_eq_error_iff.mp h with hts | ⟨ts, -, h⟩
  · exact Layer.category_of_ofEntries hts
  · cases h

theorem rejected_of_load {e : Failure} (h : load schemas names = .error e) : Rejected e := by
  rcases bind_eq_error_iff.mp h with hread | ⟨read, -, h⟩
  · obtain ⟨name, -, hname⟩ := exists_of_mapM_eq_error hread
    exact rejected_of_readSchema hname
  · obtain ⟨r, hr, rfl⟩ := mapError_eq_error_iff.mp h
    exact Or.inr ⟨r, rfl, category_of_build hr⟩

/-- The catalogs give out rules and types. The three catalogs of the rules do so under the
same identifiers and schema names. -/
structure Gives (c : Catalogs) (rules : List Rule) (types : List (Entry AttributeType)) :
    Prop where
  comparators : c.comparators.Lists (rules.map fun r => r.entry r.comparator)
  normalizers : c.normalizers.Lists (rules.map fun r => r.entry r.normalizer)
  matchingRules : c.matchingRules.Lists (rules.map fun r => r.entry r.description)
  attributeTypes : c.attributeTypes.Lists types
  types_own : ∀ e ∈ types, e.oid = e.element.oid

theorem gives_of_load {c : Catalogs} (h : load schemas names = .ok c) :
    c.Gives (listedRules schemas names) (listedTypes schemas names) := by
  have hloaded := loaded_of_load h
  obtain ⟨hcs, hns, hrs, hts, -⟩ := build_eq_ok_iff.mp (load_eq_ok_iff.mp h).2
  refine ⟨?_, ?_, ?_, ?_, fun e he => oid_of_mem_listedTypes he⟩
  · exact Layer.entries_of_ofEntries hcs ▸ hloaded.comparators.lists
  · exact Layer.entries_of_ofEntries hns ▸ hloaded.normalizers.lists
  · exact Layer.entries_of_ofEntries hrs ▸ hloaded.matchingRules.lists
  · exact Layer.entries_of_ofEntries hts ▸ hloaded.attributeTypes.lists

/-- Schemas are loaded exactly when they are consistent, and are refused for a description
that cannot be read or for the configuration otherwise. The catalogs that are loaded give out
the rules and the types that the schemas list, in their order. -/
theorem load_accepts_consistent (schemas : List (Text × SchemaDefinition)) (names : List Text) :
    ((∃ c, load schemas names = .ok c) ↔ Consistent schemas names) ∧
      (¬ Consistent schemas names → ∃ e, load schemas names = .error e ∧ Rejected e) ∧
      ∀ c, load schemas names = .ok c →
        c.Gives (listedRules schemas names) (listedTypes schemas names) := by
  refine ⟨exists_load_iff, ?_, fun c => gives_of_load⟩
  intro hno
  cases h : load schemas names with
  | ok c => exact absurd (exists_load_iff.mp ⟨c, h⟩) hno
  | error e => exact ⟨e, rfl, rejected_of_load h⟩

end

section
open Sample

/-- The small schema is accepted once. Named twice it lists its rule twice, and is refused. -/
theorem people_accepted_once :
    Consistent schemas ["people"] ∧
      catalogs.Gives (listedRules schemas ["people"]) (listedTypes schemas ["people"]) ∧
      ¬ Consistent schemas ["people", "people"] ∧
      ∃ e, load schemas ["people", "people"] = .error e ∧ Rejected e := by
  obtain ⟨haccepts, -, hgives⟩ := load_accepts_consistent schemas ["people"]
  have htwice : ¬ Consistent schemas ["people", "people"] := by
    intro h
    have hoids : ¬ ((listedRules schemas ["people", "people"]).map fun r =>
        r.description.oid).Nodup := by decide +kernel
    exact hoids h.rule_oids
  exact ⟨haccepts.mp ⟨catalogs, load_eq⟩, hgives catalogs load_eq, htwice,
    (load_accepts_consistent schemas ["people", "people"]).2.1 htwice⟩

end

end Catalogs

end DirectorySchema
