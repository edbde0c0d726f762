import DirectorySchema.Proofs.Registries
import DirectorySchema.Manager.Operation

/-!
# Checks before writes

Registering an element, adding a matching rule with what belongs to it and adding an
attribute type each check first and write last, so each is equal to an action that reads
and checks its description as a whole before it puts anything into a registry.
-/

set_option autoImplicit false

namespace DirectorySchema

namespace Registry

variable {α : Type} [SchemaElement α]

/-- One more entry at runtime, with its names, and nothing else. -/
structure Gains (r r' : Registry α) (e : Entry α) : Prop where
  admitted : r.Admits e
  catalog : r'.catalog = r.catalog
  entries : r'.runtime.entries = r.runtime.entries ++ [e]
  names : r'.runtime.names =
    r.runtime.names ++ (SchemaElement.names e.element).map fun n => (Text.lower n, e.oid)
  owner? : ∀ n, r'.runtime.owner? n = if e.Bears n then some e.oid else r.runtime.owner? n

theorem gains_insert {r : Registry α} {e : Entry α} (h : r.Admits e) : r.Gains (r.insert e) e :=
  ⟨h, rfl, rfl, rfl, fun _ => owner?_insert h⟩

theorem Gains.eq_insert {r r' : Registry α} {e : Entry α} (h : r.Gains r' e) :
    r' = r.insert e := by
  obtain ⟨catalog, entries, names⟩ := r'
  simp only [insert, Layer.insert, Layer.indexOf, ← h.catalog, ← h.entries, ← h.names]

end Registry

def Session.put {α : Type} [Managed α] (s : Session) (e : Entry α) : Session :=
  ⟨Managed.replace ((Managed.registry s.manager).insert e) s.manager,
    s.log ++ [Registry.registrationRecord e.oid e.element]⟩

def Session.putRule (s : Session) (schemaName : Text) (d : MatchingRule) (c : Comparator)
    (n : Normalizer) : Session :=
  ((s.put ⟨d.oid, schemaName, d⟩).put ⟨d.oid, schemaName, c⟩).put ⟨d.oid, schemaName, n⟩

namespace Manager

def checkRule (m : Manager) (d : MatchingRule) : Except Refusal Unit :=
  if m.matchingRules.holds d.oid then .error (.oidTaken .matchingRule d.oid)
  else if m.comparators.holds d.oid then .error (.oidTaken .comparator d.oid)
  else if m.normalizers.holds d.oid then .error (.oidTaken .normalizer d.oid)
  else m.matchingRules.checkAvailable d.oid d

def checkType (m : Manager) (d : AttributeType) : Except Refusal Unit :=
  match Action.checkReferences m d with
  | .error e => .error e
  | .ok () => m.attributeTypes.checkAvailable d.oid d

theorem admits_of_undeclared {α : Type} [SchemaElement α] {r : Registry α} {e : Entry α}
    (hd : SchemaElement.declaredOid? e.element = none) (hn : SchemaElement.names e.element = []) :
    r.Admits e ↔ r.holds e.oid = false := by
  refine ⟨Registry.Admits.free, fun h => ⟨h, ?_, ?_⟩⟩
  · simp [hd]
  · simp [hn]

theorem comparators_admits_iff {m : Manager} {e : Entry Comparator} :
    m.comparators.Admits e ↔ m.comparators.holds e.oid = false :=
  admits_of_undeclared rfl rfl

theorem normalizers_admits_iff {m : Manager} {e : Entry Normalizer} :
    m.normalizers.Admits e ↔ m.normalizers.holds e.oid = false :=
  admits_of_undeclared rfl rfl

theorem checkRule_eq_ok_iff (m : Manager) (d : MatchingRule) (schemaName : Text)
    (c : Comparator) (n : Normalizer) :
    m.checkRule d = .ok () ↔
      m.matchingRules.Admits ⟨d.oid, schemaName, d⟩ ∧
      m.comparators.Admits ⟨d.oid, schemaName, c⟩ ∧
      m.normalizers.Admits ⟨d.oid, schemaName, n⟩ := by
  rw [comparators_admits_iff, normalizers_admits_iff, ← Registry.checkAvailable_eq_ok_iff,
    checkRule]
  cases hr : m.matchingRules.holds d.oid with
  | true => simp [Registry.checkAvailable, hr]
  | false =>
    cases m.comparators.holds d.oid <;> cases m.normalizers.holds d.oid <;> simp

theorem checkType_eq_ok_iff (m : Manager) (d : AttributeType) (schemaName : Text) :
    m.checkType d = .ok () ↔ Action.checkReferences m d = .ok () ∧
      m.attributeTypes.Admits ⟨d.oid, schemaName, d⟩ := by
  rw [← Registry.checkAvailable_eq_ok_iff, checkType]
  cases Action.checkReferences m d <;> simp

end Manager

namespace Action

theorem bind_of_ok {α β : Type} {a : Action α} {s s' : Session} {x : α} (f : α → Action β)
    (h : a s = .ok x s') : (a >>= f) s = f x s' := by
  simp only [bind, EStateM.bind, h]

theorem bind_of_error {α β : Type} {a : Action α} {s s' : Session} {e : Failure}
    (f : α → Action β) (h : a s = .error e s') : (a >>= f) s = .error e s' := by
  simp only [bind, EStateM.bind, h]

theorem get_eq (s : Session) : (get : Action Session) s = .ok s s := rfl

section
variable {α : Type} [Managed α] {schemaName oid : Text} {a : α} {s : Session}

theorem register_of_ok
    (h : (Managed.registry s.manager : Registry α).checkAvailable oid a = .ok ()) :
    register schemaName oid a s = .ok () (s.put ⟨oid, schemaName, a⟩) := by
  unfold register
  rw [bind_of_ok _ (get_eq s), Registry.register, h]
  rfl

theorem register_of_error {e : Refusal}
    (h : (Managed.registry s.manager : Registry α).checkAvailable oid a = .error e) :
    register schemaName oid a s = .error (.refused e) s := by
  unfold register
  rw [bind_of_ok _ (get_eq s), Registry.register, h]
  rfl

theorem requireFree_of_free {r : Registry α} (h : r.holds oid = false) :
    requireFree r oid s = .ok () s := by
  rw [requireFree, h]
  rfl

theorem requireFree_of_taken {r : Registry α} (h : r.holds oid = true) :
    requireFree r oid s = .error (.refused (.oidTaken (SchemaElement.kind α) oid)) s := by
  rw [requireFree, h]
  rfl

end

theorem register_after_rule {s : Session} {schemaName : Text} {d : MatchingRule} {c : Comparator}
    {n : Normalizer} (hc : s.manager.comparators.Admits ⟨d.oid, schemaName, c⟩)
    (hn : s.manager.normalizers.Admits ⟨d.oid, schemaName, n⟩) :
    (do register schemaName d.oid c
        register schemaName d.oid n
        return d.oid : Action Text) (s.put ⟨d.oid, schemaName, d⟩) =
      .ok d.oid (s.putRule schemaName d c n) := by
  have hcomp : register schemaName d.oid c (s.put ⟨d.oid, schemaName, d⟩) =
      .ok () ((s.put ⟨d.oid, schemaName, d⟩).put ⟨d.oid, schemaName, c⟩) :=
    register_of_ok (Registry.checkAvailable_eq_ok_iff.mpr hc)
  have hnorm : register schemaName d.oid n
      ((s.put ⟨d.oid, schemaName, d⟩).put ⟨d.oid, schemaName, c⟩) =
      .ok () (s.putRule schemaName d c n) :=
    register_of_ok (Registry.checkAvailable_eq_ok_iff.mpr hn)
  rw [bind_of_ok _ hcomp, bind_of_ok _ hnorm]
  rfl

def checked {k : Description.Kind} (read : Except Failure (Description k))
    (check : Manager → Description k → Except Refusal Unit)
    (put : Session → Description k → Session) : Action Text := fun s =>
  match read with
  | .error e => .error e s
  | .ok d =>
    match check s.manager d with
    | .error e => .error (.refused e) s
    | .ok () => .ok d.oid (put s d)

section
variable {k : Description.Kind} {read : Except Failure (Description k)}
  {check : Manager → Description k → Except Refusal Unit} {put : Session → Description k → Session}
  {s t : Session}

theorem checked_eq_ok_iff {oid : Text} :
    checked read check put s = .ok oid t ↔
      ∃ d, read = .ok d ∧ check s.manager d = .ok () ∧ d.oid = oid ∧ put s d = t := by
  unfold checked
  cases read with
  | error e => simp
  | ok d => cases hc : check s.manager d <;> simp [hc]

theorem checked_eq_error_iff {e : Failure} :
    checked read check put s = .error e t ↔ s = t ∧
      (read = .error e ∨ ∃ d r, read = .ok d ∧ check s.manager d = .error r ∧ .refused r = e) := by
  unfold checked
  cases read with
  | error e' => simp [and_comm]
  | ok d => cases hc : check s.manager d <;> simp [hc, and_comm]

end

/-- The comparator and the normalizer cannot be refused once the matching rule is in. -/
theorem addMatchingRule_eq (schemaName : Text) (a : RuleAddition) :
    addMatchingRule schemaName a = checked a.description.read Manager.checkRule
      fun s d => s.putRule schemaName d a.comparator a.normalizer := by
  funext s
  unfold addMatchingRule checked
  cases a.description.read with
  | error e => rfl
  | ok d =>
    rw [bind_of_ok _ (show ofExcept (Except.ok d) s = .ok d s from rfl), bind_of_ok _ (get_eq s)]
    simp only [Manager.checkRule]
    cases hr : s.manager.matchingRules.holds d.oid with
    | true => exact bind_of_error _ (requireFree_of_taken hr)
    | false =>
      rw [bind_of_ok _ (requireFree_of_free hr)]
      cases hc : s.manager.comparators.holds d.oid with
      | true => exact bind_of_error _ (requireFree_of_taken hc)
      | false =>
        rw [bind_of_ok _ (requireFree_of_free hc)]
        cases hn : s.manager.normalizers.holds d.oid with
        | true => exact bind_of_error _ (requireFree_of_taken hn)
        | false =>
          rw [bind_of_ok _ (requireFree_of_free hn)]
          cases hd : s.manager.matchingRules.checkAvailable d.oid d with
          | error e => exact bind_of_error _ (register_of_error hd)
          | ok u =>
            exact (bind_of_ok _ (register_of_ok hd)).trans
              (register_after_rule (Manager.comparators_admits_iff.mpr hc)
                (Manager.normalizers_admits_iff.mpr hn))

theorem addAttributeType_eq (schemaName : Text) (a : TypeAddition) :
    addAttributeType schemaName a =
      checked a.read Manager.checkType fun s d => s.put ⟨d.oid, schemaName, d⟩ := by
  funext s
  unfold addAttributeType checked
  cases a.read with
  | error e => rfl
  | ok d =>
    rw [bind_of_ok _ (show ofExcept (Except.ok d) s = .ok d s from rfl), bind_of_ok _ (get_eq s)]
    simp only [Manager.checkType]
    cases checkReferences s.manager d with
    | error e => rfl
    | ok u =>
      rw [bind_of_ok _ (show ofRefusal (Except.ok u) s = .ok u s from rfl)]
      cases hd : s.manager.attributeTypes.checkAvailable d.oid d with
      | error e => exact bind_of_error _ (register_of_error hd)
      | ok u =>
        rw [bind_of_ok _ (register_of_ok hd)]
        rfl

theorem requireRules_iff {m : Manager} {rules : List Text} :
    requireRules m rules = .ok () ↔
      ∀ rule ∈ rules, ∃ oid, m.matchingRules.oidOf rule = .ok oid := by
  induction rules with
  | nil => simp [requireRules]
  | cons rule rules ih =>
    rw [requireRules, List.forall_mem_cons]
    cases m.matchingRules.oidOf rule with
    | error e => simp
    | ok oid => simpa using ih

end Action

structure Manager.Finds (m : Manager) (d : AttributeType) : Prop where
  equality : ∀ rule, d.terms.equality = some rule → ∃ oid, m.matchingRules.oidOf rule = .ok oid
  ordering : ∀ rule, d.terms.ordering = some rule → ∃ oid, m.matchingRules.oidOf rule = .ok oid
  substr : ∀ rule, d.terms.substr = some rule → ∃ oid, m.matchingRules.oidOf rule = .ok oid
  sup : ∀ sup, d.terms.sup = some sup → ∃ oid, m.attributeTypes.oidOf sup = .ok oid

theorem Manager.finds_iff {m : Manager} {d : AttributeType} :
    m.Finds d ↔
      (∀ rule ∈ [d.terms.equality, d.terms.ordering, d.terms.substr].filterMap id,
        ∃ oid, m.matchingRules.oidOf rule = .ok oid) ∧
      ∀ sup, d.terms.sup = some sup → ∃ oid, m.attributeTypes.oidOf sup = .ok oid := by
  have hmem : ∀ rule, rule ∈ [d.terms.equality, d.terms.ordering, d.terms.substr].filterMap id ↔
      d.terms.equality = some rule ∨ d.terms.ordering = some rule ∨ d.terms.substr = some rule := by
    intro rule
    simp [eq_comm]
  simp only [hmem]
  constructor
  · intro h
    refine ⟨?_, h.sup⟩
    rintro rule (hr | hr | hr)
    · exact h.equality rule hr
    · exact h.ordering rule hr
    · exact h.substr rule hr
  · rintro ⟨hrules, hsup⟩
    exact ⟨fun rule hr => hrules rule (Or.inl hr), fun rule hr => hrules rule (Or.inr (Or.inl hr)),
      fun rule hr => hrules rule (Or.inr (Or.inr hr)), hsup⟩

theorem Action.checkReferences_iff {m : Manager} {d : AttributeType} :
    checkReferences m d = .ok () ↔ m.Finds d := by
  rw [Manager.finds_iff, ← requireRules_iff, checkReferences]
  cases requireRules m ([d.terms.equality, d.terms.ordering, d.terms.substr].filterMap id) with
  | error e => simp
  | ok u =>
    cases d.terms.sup with
    | none => simp
    | some sup => cases ho : m.attributeTypes.oidOf sup <;> simp [Except.map, ho]

end DirectorySchema
