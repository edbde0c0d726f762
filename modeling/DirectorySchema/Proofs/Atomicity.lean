import DirectorySchema.Proofs.Additions
import DirectorySchema.Proofs.Loading

/-!
# Single additions are all or nothing

An operation that adds one element, with what belongs to it, is either not admitted and
leaves the session as it was, or it adds exactly its entries with their names and the
records of them.
-/

set_option autoImplicit false

namespace DirectorySchema

namespace Operation

def IsSingle : Operation → Prop
  | loadSchema .. | loadSchemaFile .. => False
  | _ => True

def Admitted (m : Manager) : Operation → Prop
  | registerComparator schemaName oid c => m.comparators.Admits ⟨oid, schemaName, c⟩
  | registerNormalizer schemaName oid n => m.normalizers.Admits ⟨oid, schemaName, n⟩
  | registerMatchingRule schemaName oid d => m.matchingRules.Admits ⟨oid, schemaName, d⟩
  | registerAttributeType schemaName oid d => m.attributeTypes.Admits ⟨oid, schemaName, d⟩
  | addMatchingRule schemaName a => ∃ d, a.description.read = .ok d ∧
      m.matchingRules.Admits ⟨d.oid, schemaName, d⟩ ∧
      m.comparators.Admits ⟨d.oid, schemaName, a.comparator⟩ ∧
      m.normalizers.Admits ⟨d.oid, schemaName, a.normalizer⟩
  | addAttributeType schemaName a => ∃ d, a.read = .ok d ∧
      m.Finds d ∧ m.attributeTypes.Admits ⟨d.oid, schemaName, d⟩
  | loadSchema .. | loadSchemaFile .. => False

/-- What a single operation that does not fail has added to a session. Whatever is not
named stays as it was. -/
def Added : Operation → Session → Session → Prop
  | registerComparator schemaName oid c, s, s' =>
    s.manager.comparators.Gains s'.manager.comparators ⟨oid, schemaName, c⟩ ∧
      s' = ⟨{ s.manager with comparators := s'.manager.comparators },
        s.log ++ [Registry.registrationRecord oid c]⟩
  | registerNormalizer schemaName oid n, s, s' =>
    s.manager.normalizers.Gains s'.manager.normalizers ⟨oid, schemaName, n⟩ ∧
      s' = ⟨{ s.manager with normalizers := s'.manager.normalizers },
        s.log ++ [Registry.registrationRecord oid n]⟩
  | registerMatchingRule schemaName oid d, s, s' =>
    s.manager.matchingRules.Gains s'.manager.matchingRules ⟨oid, schemaName, d⟩ ∧
      s' = ⟨{ s.manager with matchingRules := s'.manager.matchingRules },
        s.log ++ [Registry.registrationRecord oid d]⟩
  | registerAttributeType schemaName oid d, s, s' =>
    s.manager.attributeTypes.Gains s'.manager.attributeTypes ⟨oid, schemaName, d⟩ ∧
      s' = ⟨{ s.manager with attributeTypes := s'.manager.attributeTypes },
        s.log ++ [Registry.registrationRecord oid d]⟩
  | addMatchingRule schemaName a, s, s' => ∃ d, a.description.read = .ok d ∧
      s.manager.matchingRules.Gains s'.manager.matchingRules ⟨d.oid, schemaName, d⟩ ∧
      s.manager.comparators.Gains s'.manager.comparators ⟨d.oid, schemaName, a.comparator⟩ ∧
      s.manager.normalizers.Gains s'.manager.normalizers ⟨d.oid, schemaName, a.normalizer⟩ ∧
      s' = ⟨{ s.manager with
          matchingRules := s'.manager.matchingRules
          comparators := s'.manager.comparators
          normalizers := s'.manager.normalizers },
        s.log ++ [Registry.registrationRecord d.oid d,
          Registry.registrationRecord d.oid a.comparator,
          Registry.registrationRecord d.oid a.normalizer]⟩
  | addAttributeType schemaName a, s, s' => ∃ d, a.read = .ok d ∧ s.manager.Finds d ∧
      s.manager.attributeTypes.Gains s'.manager.attributeTypes ⟨d.oid, schemaName, d⟩ ∧
      s' = ⟨{ s.manager with attributeTypes := s'.manager.attributeTypes },
        s.log ++ [Registry.registrationRecord d.oid d]⟩
  | loadSchema .., _, _ | loadSchemaFile .., _, _ => False

section
variable {h : Host} {o : Operation} {s s' : Session}

theorem outcome_of_ok {oids : List Text} (ho : o.perform h s = .ok oids s') :
    o.outcome h s = (.ok oids, s') := by
  rw [outcome, ho]

theorem outcome_of_error {e : Failure} (ho : o.perform h s = .error e s') :
    o.outcome h s = (.error e, s') := by
  rw [outcome, ho]

theorem exists_of_outcome_fst {oids : List Text} (ho : (o.outcome h s).1 = .ok oids) :
    ∃ s', o.perform h s = .ok oids s' := by
  unfold outcome at ho
  cases hp : o.perform h s with
  | ok oids' s' =>
    rw [hp] at ho
    cases ho
    exact ⟨s', rfl⟩
  | error e s' =>
    rw [hp] at ho
    cases ho

theorem outcome_register {α : Type} [Managed α] {schemaName oid : Text} {a : α}
    (ho : o.perform h = do Action.register schemaName oid a; return [oid]) :
    (∃ e, o.outcome h s = (.error e, s) ∧
      ¬ (Managed.registry s.manager : Registry α).Admits ⟨oid, schemaName, a⟩) ∨
    (o.outcome h s = (.ok [oid], s.put ⟨oid, schemaName, a⟩) ∧
      (Managed.registry s.manager : Registry α).Admits ⟨oid, schemaName, a⟩) := by
  have hiff := Registry.checkAvailable_eq_ok_iff (r := (Managed.registry s.manager : Registry α))
    (e := ⟨oid, schemaName, a⟩)
  cases hc : (Managed.registry s.manager : Registry α).checkAvailable oid a with
  | error e =>
    have hfails : o.perform h s = .error (.refused e) s := by
      rw [ho]
      exact Action.bind_of_error _ (Action.register_of_error hc)
    have hno : ¬ (Managed.registry s.manager : Registry α).Admits ⟨oid, schemaName, a⟩ := by
      rw [← hiff, hc]
      simp
    exact Or.inl ⟨.refused e, outcome_of_error hfails, hno⟩
  | ok u =>
    have hdone : o.perform h s = .ok [oid] (s.put ⟨oid, schemaName, a⟩) := by
      rw [ho]
      exact Action.bind_of_ok _ (Action.register_of_ok hc)
    exact Or.inr ⟨outcome_of_ok hdone, hiff.mp hc⟩

theorem outcome_checked {k : Description.Kind} {read : Except Failure (Description k)}
    {check : Manager → Description k → Except Refusal Unit}
    {put : Session → Description k → Session}
    (ho : o.perform h = do return [← Action.checked read check put]) :
    (∃ e, o.outcome h s = (.error e, s) ∧ ∀ d, read = .ok d → check s.manager d ≠ .ok ()) ∨
    ∃ d, o.outcome h s = (.ok [d.oid], put s d) ∧ read = .ok d ∧ check s.manager d = .ok () := by
  have hfails : ∀ e, Action.checked read check put s = .error e s →
      o.outcome h s = (.error e, s) := by
    intro e he
    apply outcome_of_error
    rw [ho]
    exact Action.bind_of_error _ he
  cases hread : read with
  | error e =>
    have heq : Action.checked read check put s = .error e s := by
      simp only [Action.checked, hread]
    exact Or.inl ⟨e, hfails e heq, by simp⟩
  | ok d =>
    cases hc : check s.manager d with
    | error e =>
      have heq : Action.checked read check put s = .error (.refused e) s := by
        simp only [Action.checked, hread, hc]
      have hno : ∀ d', Except.ok d = (.ok d' : Except Failure _) →
          check s.manager d' ≠ .ok () := by
        intro d' hd'
        rw [Except.ok.injEq] at hd'
        rw [← hd', hc]
        simp
      exact Or.inl ⟨.refused e, hfails _ heq, hno⟩
    | ok u =>
      have heq : Action.checked read check put s = .ok d.oid (put s d) := by
        simp only [Action.checked, hread, hc]
      have hdone : o.perform h s = .ok [d.oid] (put s d) := by
        rw [ho]
        exact Action.bind_of_ok _ heq
      exact Or.inr ⟨d, outcome_of_ok hdone, rfl, hc⟩

end

theorem outcome_of_single {o : Operation} (ho : o.IsSingle) (h : Host) (s : Session) :
    (∃ e, o.outcome h s = (.error e, s) ∧ ¬ o.Admitted s.manager) ∨
    ∃ oids s', o.outcome h s = (.ok oids, s') ∧ o.Admitted s.manager ∧ o.Added s s' := by
  cases o with
  | registerComparator schemaName oid c =>
    refine (outcome_register (a := c) rfl).imp_right ?_
    rintro ⟨hok, ha⟩
    exact ⟨_, _, hok, ha, Registry.gains_insert ha, rfl⟩
  | registerNormalizer schemaName oid n =>
    refine (outcome_register (a := n) rfl).imp_right ?_
    rintro ⟨hok, ha⟩
    exact ⟨_, _, hok, ha, Registry.gains_insert ha, rfl⟩
  | registerMatchingRule schemaName oid d =>
    refine (outcome_register (a := d) rfl).imp_right ?_
    rintro ⟨hok, ha⟩
    exact ⟨_, _, hok, ha, Registry.gains_insert ha, rfl⟩
  | registerAttributeType schemaName oid d =>
    refine (outcome_register (a := d) rfl).imp_right ?_
    rintro ⟨hok, ha⟩
    exact ⟨_, _, hok, ha, Registry.gains_insert ha, rfl⟩
  | addMatchingRule schemaName a =>
    have hiff := fun d => s.manager.checkRule_eq_ok_iff d schemaName a.comparator a.normalizer
    rcases outcome_checked (h := h) (s := s) (o := addMatchingRule schemaName a)
      (by rw [perform, Action.addMatchingRule_eq]) with ⟨e, he, hno⟩ | ⟨d, hok, hread, hc⟩
    · have hunadmitted : ¬ (addMatchingRule schemaName a).Admitted s.manager := by
        rintro ⟨d, hread, hadmits⟩
        exact hno d hread ((hiff d).mpr hadmits)
      exact Or.inl ⟨e, he, hunadmitted⟩
    · have hadmits := (hiff d).mp hc
      refine Or.inr ⟨_, _, hok, ⟨d, hread, hadmits⟩, d, hread, Registry.gains_insert hadmits.1,
        Registry.gains_insert hadmits.2.1, Registry.gains_insert hadmits.2.2, ?_⟩
      simp [Session.putRule, Session.put, Managed.replace, Managed.registry]
  | addAttributeType schemaName a =>
    have hiff := fun d => s.manager.checkType_eq_ok_iff d schemaName
    rcases outcome_checked (h := h) (s := s) (o := addAttributeType schemaName a)
      (by rw [perform, Action.addAttributeType_eq]) with ⟨e, he, hno⟩ | ⟨d, hok, hread, hc⟩
    · have hunadmitted : ¬ (addAttributeType schemaName a).Admitted s.manager := by
        rintro ⟨d, hread, hfinds, hadmits⟩
        exact hno d hread ((hiff d).mpr ⟨Action.checkReferences_iff.mpr hfinds, hadmits⟩)
      exact Or.inl ⟨e, he, hunadmitted⟩
    · obtain ⟨hrefs, hadmits⟩ := (hiff d).mp hc
      have hfinds := Action.checkReferences_iff.mp hrefs
      exact Or.inr ⟨_, _, hok, ⟨d, hread, hfinds, hadmits⟩, d, hread, hfinds,
        Registry.gains_insert hadmits, rfl⟩
  | loadSchema => exact ho.elim
  | loadSchemaFile => exact ho.elim

/-- All or nothing: a single operation that fails leaves the session as it was, records
included, and one that succeeds adds exactly what belongs to it. It succeeds exactly when
it is admitted. -/
theorem single_all_or_nothing {o : Operation} (ho : o.IsSingle) (h : Host) (s : Session) :
    (∀ e s', o.outcome h s = (.error e, s') → s' = s) ∧
    (∀ oids s', o.outcome h s = (.ok oids, s') → o.Added s s') ∧
    ((∃ oids, (o.outcome h s).1 = .ok oids) ↔ o.Admitted s.manager) := by
  rcases outcome_of_single ho h s with ⟨e, he, hno⟩ | ⟨oids, s', hok, hadmitted, hadded⟩
  · rw [he]
    refine ⟨?_, ?_, ?_⟩
    · intro e' s' heq
      exact (congrArg Prod.snd heq).symm
    · intro oids s' heq
      cases heq
    · simp [hno]
  · rw [hok]
    refine ⟨?_, ?_, ?_⟩
    · intro e s'' heq
      cases heq
    · intro oids' s'' heq
      have hsame : s' = s'' := congrArg Prod.snd heq
      rwa [← hsame]
    · simp [hadmitted]

section
open Catalogs.Sample

def sampleSession : Session := ⟨.ofCatalogs {} catalogs, []⟩

/-- The first of the two names is free, the second is borne in the catalog. -/
def secondNameTaken : Operation :=
  registerAttributeType "nis" "1.1" ⟨"1.1", { names := some ["nick", "CN"] }⟩

theorem secondNameTaken_changes_nothing :
    secondNameTaken.IsSingle ∧ secondNameTaken.outcome host sampleSession =
      (.error (.refused (.nameTaken .attributeType "1.1" "CN")), sampleSession) := by
  have hfails : (secondNameTaken.outcome host sampleSession).1 =
      .error (.refused (.nameTaken .attributeType "1.1" "CN")) := by decide +kernel
  have hsingle : secondNameTaken.IsSingle := by trivial
  have hsame := (single_all_or_nothing hsingle host sampleSession).1 _ _ (Prod.ext hfails rfl)
  exact ⟨hsingle, Prod.ext hfails hsame⟩

end

end Operation

def Registry.Advances {α : Type} [SchemaElement α] (r r' : Registry α) : Prop :=
  r' = r ∨ ∃ e, r.Admits e ∧ r' = r.insert e

structure Manager.Advances (m m' : Manager) : Prop where
  comparators : m.comparators.Advances m'.comparators
  normalizers : m.normalizers.Advances m'.normalizers
  matchingRules : m.matchingRules.Advances m'.matchingRules
  attributeTypes : m.attributeTypes.Advances m'.attributeTypes

namespace Registry

variable {α : Type} [SchemaElement α] {r r' : Registry α}

theorem Gains.advances {e : Entry α} (h : r.Gains r' e) : r.Advances r' :=
  Or.inr ⟨e, h.admitted, h.eq_insert⟩

theorem advances_refl : r.Advances r := Or.inl rfl

theorem Advances.keeps (h : r.Advances r') : r.Keeps r' := by
  rcases h with rfl | ⟨e, he, rfl⟩
  · exact Keeps.refl r'
  · exact keeps_insert he

theorem Advances.sound (h : r.Advances r') (hr : r.Sound) : r'.Sound := by
  rcases h with rfl | ⟨e, he, rfl⟩
  · exact hr
  · exact sound_insert hr he

end Registry

theorem Operation.Added.advances {o : Operation} {s s' : Session} (h : o.Added s s') :
    s.manager.Advances s'.manager := by
  cases o with
  | registerComparator =>
    obtain ⟨hg, hs⟩ := h
    rw [hs]
    exact ⟨hg.advances, Registry.advances_refl, Registry.advances_refl, Registry.advances_refl⟩
  | registerNormalizer =>
    obtain ⟨hg, hs⟩ := h
    rw [hs]
    exact ⟨Registry.advances_refl, hg.advances, Registry.advances_refl, Registry.advances_refl⟩
  | registerMatchingRule =>
    obtain ⟨hg, hs⟩ := h
    rw [hs]
    exact ⟨Registry.advances_refl, Registry.advances_refl, hg.advances, Registry.advances_refl⟩
  | registerAttributeType =>
    obtain ⟨hg, hs⟩ := h
    rw [hs]
    exact ⟨Registry.advances_refl, Registry.advances_refl, Registry.advances_refl, hg.advances⟩
  | addMatchingRule =>
    obtain ⟨d, -, hr, hc, hn, hs⟩ := h
    rw [hs]
    exact ⟨hc.advances, hn.advances, hr.advances, Registry.advances_refl⟩
  | addAttributeType =>
    obtain ⟨d, -, -, hg, hs⟩ := h
    rw [hs]
    exact ⟨Registry.advances_refl, Registry.advances_refl, Registry.advances_refl, hg.advances⟩
  | loadSchema => exact h.elim
  | loadSchemaFile => exact h.elim

end DirectorySchema
