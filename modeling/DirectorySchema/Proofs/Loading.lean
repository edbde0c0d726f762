import DirectorySchema.Proofs.Descriptions
import DirectorySchema.Proofs.Layers
import DirectorySchema.Catalog.Basic
import DirectorySchema.Settings.Host

/-!
# Loaded catalogs

Catalogs that were loaded are sound in every layer. Their elements stand under the numeric
identifiers that their descriptions give, and a matching rule has its comparator and its
normalizer beside it.
-/

set_option autoImplicit false

namespace DirectorySchema

namespace Catalogs

def TypeRead (e : Entry AttributeType) : Prop := e.oid = e.element.oid ∧ e.element.WasRead

theorem readRule_wasRead {schemaName : Text} {d : RuleDefinition} {r : Rule}
    (h : readRule schemaName d = .ok r) : r.description.WasRead := by
  unfold readRule at h
  split at h
  · next hp =>
    cases h
    exact ⟨_, hp⟩
  · cases h

theorem readType_typeRead {schemaName text : Text} {e : Entry AttributeType}
    (h : readType schemaName text = .ok e) : TypeRead e := by
  unfold readType at h
  split at h
  · next hp =>
    cases h
    exact ⟨rfl, _, hp⟩
  · cases h

theorem readSchema_eq_ok_iff {schemas : List (Text × SchemaDefinition)} {name : Text}
    {p : List Rule × List (Entry AttributeType)} :
    readSchema schemas name = .ok p ↔ ∃ d, schemas.lookup name = some d ∧
      d.matchingRules.mapM (readRule name) = .ok p.1 ∧
      d.attributeTypes.mapM (readType name) = .ok p.2 := by
  unfold readSchema
  cases schemas.lookup name with
  | none => simp
  | some d =>
    obtain ⟨rules, types⟩ := p
    simp only [bind_eq_ok_iff, Option.some.injEq, exists_eq_left']
    constructor
    · rintro ⟨_, hrules, _, htypes, heq⟩
      cases heq
      exact ⟨hrules, htypes⟩
    · rintro ⟨hrules, htypes⟩
      exact ⟨rules, hrules, types, htypes, rfl⟩

theorem readSchema_read {schemas : List (Text × SchemaDefinition)} {name : Text}
    {p : List Rule × List (Entry AttributeType)} (h : readSchema schemas name = .ok p) :
    (∀ r ∈ p.1, r.description.WasRead) ∧ ∀ e ∈ p.2, TypeRead e := by
  obtain ⟨d, -, hrules, htypes⟩ := readSchema_eq_ok_iff.mp h
  constructor
  · intro r hr
    obtain ⟨rule, -, hrule⟩ := exists_of_mem_mapM hrules hr
    exact readRule_wasRead hrule
  · intro e he
    obtain ⟨text, -, ht⟩ := exists_of_mem_mapM htypes he
    exact readType_typeRead ht

theorem build_eq_ok_iff {names : List Text} {rules : List Rule}
    {types : List (Entry AttributeType)} {c : Catalogs} :
    build names rules types = .ok c ↔
      Layer.ofEntries (rules.map fun r => r.entry r.comparator) = .ok c.comparators ∧
      Layer.ofEntries (rules.map fun r => r.entry r.normalizer) = .ok c.normalizers ∧
      Layer.ofEntries (rules.map fun r => r.entry r.description) = .ok c.matchingRules ∧
      Layer.ofEntries types = .ok c.attributeTypes ∧ c.schemaNames = names := by
  unfold build
  constructor
  · intro h
    obtain ⟨cs, hcs, h⟩ := bind_eq_ok_iff.mp h
    obtain ⟨ns, hns, h⟩ := bind_eq_ok_iff.mp h
    obtain ⟨rs, hrs, h⟩ := bind_eq_ok_iff.mp h
    obtain ⟨ts, hts, h⟩ := bind_eq_ok_iff.mp h
    cases h
    exact ⟨hcs, hns, hrs, hts, rfl⟩
  · rintro ⟨hcs, hns, hrs, hts, rfl⟩
    rw [hcs, hns, hrs, hts]
    rfl

/-- What loading promises of the catalogs. -/
structure Loaded (c : Catalogs) : Prop where
  comparators : c.comparators.Sound
  normalizers : c.normalizers.Sound
  matchingRules : c.matchingRules.Sound
  attributeTypes : c.attributeTypes.Sound
  comparators_oids : c.comparators.oids = c.matchingRules.oids
  normalizers_oids : c.normalizers.oids = c.matchingRules.oids
  rules_numeric : ∀ oid ∈ c.matchingRules.oids, Text.isNumericOid oid = true
  types_numeric : ∀ oid ∈ c.attributeTypes.oids, Text.isNumericOid oid = true
  types_read : ∀ e ∈ c.attributeTypes.entries, e.element.WasRead

theorem sound_of_rules {α : Type} [SchemaElement α] {rules : List Rule} {f : Rule → α}
    {l : Layer α} (h : Layer.ofEntries (rules.map fun r => r.entry (f r)) = .ok l)
    (hd : ∀ r oid, SchemaElement.declaredOid? (f r) = some oid → oid = r.description.oid) :
    l.Sound ∧ l.oids = rules.map fun r => r.description.oid := by
  obtain ⟨hs, hes⟩ := Layer.ofEntries_sound h (by
    intro e he oid ho
    obtain ⟨r, -, rfl⟩ := List.mem_map.mp he
    exact hd r oid ho)
  refine ⟨hs, ?_⟩
  rw [Layer.oids, hes, List.map_map]
  rfl

theorem loaded_of_load {schemas : List (Text × SchemaDefinition)} {names : List Text}
    {c : Catalogs} (h : load schemas names = .ok c) : c.Loaded := by
  obtain ⟨read, hread, h⟩ := bind_eq_ok_iff.mp h
  obtain ⟨hcs, hns, hrs, hts, -⟩ := build_eq_ok_iff.mp (mapError_eq_ok_iff.mp h)
  have hparts : ∀ p ∈ read, (∀ r ∈ p.1, r.description.WasRead) ∧ ∀ e ∈ p.2, TypeRead e := by
    intro p hp
    obtain ⟨name, -, hname⟩ := exists_of_mem_mapM hread hp
    exact readSchema_read hname
  have hrules : ∀ r ∈ read.flatMap Prod.fst, r.description.WasRead := by
    intro r hr
    obtain ⟨p, hp, hr⟩ := List.mem_flatMap.mp hr
    exact (hparts p hp).1 r hr
  have htypes : ∀ e ∈ read.flatMap Prod.snd, TypeRead e := by
    intro e he
    obtain ⟨p, hp, he⟩ := List.mem_flatMap.mp he
    exact (hparts p hp).2 e he
  obtain ⟨sc, oc⟩ := sound_of_rules hcs (fun _ _ ho => nomatch ho)
  obtain ⟨sn, on⟩ := sound_of_rules hns (fun _ _ ho => nomatch ho)
  obtain ⟨sr, or⟩ := sound_of_rules hrs (fun _ _ ho => (Option.some.inj ho).symm)
  obtain ⟨st, ht⟩ := Layer.ofEntries_sound hts (by
    intro e he oid ho
    rw [(htypes e he).1]
    exact (Option.some.inj ho).symm)
  refine ⟨sc, sn, sr, st, oc.trans or.symm, on.trans or.symm, ?_, ?_, ?_⟩
  · intro oid ho
    rw [or] at ho
    obtain ⟨r, hr, rfl⟩ := List.mem_map.mp ho
    exact (hrules r hr).isNumericOid
  · intro oid ho
    rw [Layer.oids, ht] at ho
    obtain ⟨e, he, rfl⟩ := List.mem_map.mp ho
    obtain ⟨hoid, hread⟩ := htypes e he
    rw [hoid]
    exact hread.isNumericOid
  · rw [ht]
    exact fun e he => (htypes e he).2

namespace Sample

def schemas : List (Text × SchemaDefinition) :=
  [("people", {
    matchingRules :=
      [⟨"( 2.5.13.2 NAME 'caseIgnoreMatch' SYNTAX 1.3 )", .order .caseIgnore,
        .form .deepTrimToLower⟩]
    attributeTypes :=
      ["( 2.5.4.41 NAME 'name' EQUALITY caseIgnoreMatch SYNTAX 1.3 )",
       "( 2.5.4.3 NAME ( 'cn' 'commonName' ) SUP name )"] })]

def caseIgnoreMatch : MatchingRule :=
  ⟨"2.5.13.2", { names := some ["caseIgnoreMatch"], syntaxOid := some "1.3" }⟩

def name : AttributeType :=
  ⟨"2.5.4.41", {
    names := some ["name"]
    equality := some "caseIgnoreMatch"
    syntaxOid := some "1.3" }⟩

def commonName : AttributeType :=
  ⟨"2.5.4.3", { names := some ["cn", "commonName"], sup := some "name" }⟩

def catalogs : Catalogs where
  comparators := Layer.empty.insert ⟨"2.5.13.2", "people", .order .caseIgnore⟩
  normalizers := Layer.empty.insert ⟨"2.5.13.2", "people", .form .deepTrimToLower⟩
  matchingRules := Layer.empty.insert ⟨"2.5.13.2", "people", caseIgnoreMatch⟩
  attributeTypes :=
    (Layer.empty.insert ⟨"2.5.4.41", "people", name⟩).insert ⟨"2.5.4.3", "people", commonName⟩
  schemaNames := ["people"]

theorem load_eq : load schemas ["people"] = .ok catalogs := by
  with_unfolding_all rfl

def host : Host := ⟨[], "/", [], [], none⟩

end Sample

end Catalogs

end DirectorySchema
