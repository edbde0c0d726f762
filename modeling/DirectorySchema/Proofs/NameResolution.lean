import DirectorySchema.Proofs.Consistency

/-!
# Names lead to their owners

Whatever name an element bears, the registry that holds it knows that name, and asked what
it stands for it answers with the identifier of the element. The one exception is a name
that is written like a numeric identifier: such a text is looked for among the identifiers
alone, so it stands for itself or for nothing.
-/

set_option autoImplicit false

namespace DirectorySchema

namespace Registry

variable {α : Type} [SchemaElement α]

/-- The names of the elements that a registry holds, in whatever case they are written, are
known, and those that do not look like identifiers lead to the elements that bear them. -/
structure NamesLead (r : Registry α) : Prop where
  known : ∀ e ∈ r.runtime.entries ++ r.catalog.entries, ∀ n, e.Bears n → r.hasName n = true
  led : ∀ e ∈ r.runtime.entries ++ r.catalog.entries, ∀ oid,
    SchemaElement.declaredOid? e.element = some oid → ∀ n, e.Bears n →
      (r.oidOf n = .ok oid ↔ Text.isNumericOid n = false ∨ n = oid)

variable {r : Registry α}

theorem oidOf_of_isNumericOid {x : Text} (hx : Text.isNumericOid x = true) :
    r.oidOf x = if r.holds x then .ok x else .error (.noName (SchemaElement.kind α) x) := by
  have hresolve : r.whole.resolve? x = if r.holds x then some x else none := by
    rw [Layer.resolve?, if_pos hx, ← holds_eq_whole]
  rw [oidOf, resolve?_eq_whole, hresolve]
  cases r.holds x <;> rfl

namespace Sound

variable (hr : r.Sound) {e : Entry α} (he : e ∈ r.whole.entries) {n : Text} (hn : e.Bears n)
include hr he hn

theorem hasName_of_bears : r.hasName n = true := by
  rw [hasName_eq_whole]
  exact hr.hasName_iff.mpr ⟨e, he, hn⟩

theorem oidOf_of_bears (hnum : Text.isNumericOid n = false) : r.oidOf n = .ok e.oid := by
  have hanswers : e.AnswersTo n := by
    rw [Entry.AnswersTo, hnum]
    exact hn
  exact oidOf_eq_ok_iff.mpr (hr.resolve?_iff.mpr ⟨e, he, rfl, hanswers⟩)

theorem oidOf_bears_iff : r.oidOf n = .ok e.oid ↔ Text.isNumericOid n = false ∨ n = e.oid := by
  cases hnum : Text.isNumericOid n with
  | false => exact iff_of_true (oidOf_of_bears hr he hn hnum) (Or.inl rfl)
  | true =>
    rw [oidOf_of_isNumericOid hnum]
    constructor
    · intro h
      split at h
      · exact Or.inr (Except.ok.inj h)
      · cases h
    · rintro (h | rfl)
      · cases h
      · rw [holds_iff.mpr ⟨e, he, rfl⟩]
        rfl

end Sound

theorem Sound.namesLead (hr : r.Sound) : r.NamesLead := by
  constructor
  · intro e he n hn
    exact hr.hasName_of_bears he hn
  · intro e he oid hoid n hn
    rw [hr.declared e he oid hoid]
    exact hr.oidOf_bears_iff he hn

end Registry

namespace Operation

/-- In every state that a manager over loaded catalogs reaches, each name of a matching rule
or an attribute type is known and leads to its owner, unless it has the form of a numeric
identifier that is not the owner's own. -/
theorem names_lead_to_owners {schemas : List (Text × SchemaDefinition)} {names : List Text}
    {c : Catalogs} (hc : Catalogs.load schemas names = .ok c) (config : ManagerConfig)
    (os : List (Host × Operation)) :
    (reached config c os).matchingRules.NamesLead ∧
      (reached config c os).attributeTypes.NamesLead := by
  have hstart := Manager.sound_ofCatalogs (Catalogs.loaded_of_load hc) config
  have hreached : (reached config c os).Sound :=
    run_invariant (fun _ _ p _ => keeps_sound p) hstart
  exact ⟨hreached.matchingRules.namesLead, hreached.attributeTypes.namesLead⟩

section
open Catalogs.Sample

/-- A name in the catalog and one above it, neither written as in its description. -/
theorem sample_names_lead :
    let os := [(host, addAttributeType "nis" (.written "( 1.1 NAME ( 'nick' '2nd.1' ) SUP cn )"))]
    let m := reached {} catalogs os
    Catalogs.load schemas ["people"] = .ok catalogs ∧
      m.attributeTypes.hasName "COMMONNAME" = true ∧
      m.attributeTypes.oidOf "COMMONNAME" = .ok "2.5.4.3" ∧
      m.attributeTypes.oidOf "2ND.1" = .ok "1.1" := by
  intro os m
  have hlead : m.attributeTypes.NamesLead := (names_lead_to_owners load_eq {} os).2
  have hbelow : ⟨"2.5.4.3", "people", commonName⟩ ∈
      m.attributeTypes.runtime.entries ++ m.attributeTypes.catalog.entries := by decide +kernel
  have habove : ⟨"1.1", "nis", ⟨"1.1", { names := some ["nick", "2nd.1"], sup := some "cn" }⟩⟩ ∈
      m.attributeTypes.runtime.entries ++ m.attributeTypes.catalog.entries := by decide +kernel
  exact ⟨load_eq, hlead.known _ hbelow _ (by decide +kernel),
    (hlead.led _ hbelow _ rfl _ (by decide +kernel)).mpr (Or.inl (by decide +kernel)),
    (hlead.led _ habove _ rfl _ (by decide +kernel)).mpr (Or.inl (by decide +kernel))⟩

/-- A type that is named like the identifier of another: the name is known and taken, and yet
it leads to the other type. -/
theorem numeric_name_misleads :
    let os := [(host, addAttributeType "nis" (.written "( 1.1 NAME '2.5.4.3' SUP name )"))]
    let m := reached {} catalogs os
    Catalogs.load schemas ["people"] = .ok catalogs ∧
      ∃ d, m.attributeTypes.lookup "1.1" = .ok d ∧ d.oid = ("1.1" : Text) ∧
        ("2.5.4.3" : Text) ∈ d.names ∧ m.attributeTypes.hasName "2.5.4.3" = true ∧
        m.attributeTypes.oidOf "2.5.4.3" ≠ .ok d.oid := by
  refine ⟨load_eq, ⟨"1.1", { names := some ["2.5.4.3"], sup := some "name" }⟩, ?_⟩
  decide +kernel

end

end Operation

end DirectorySchema
