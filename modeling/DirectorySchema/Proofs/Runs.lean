import DirectorySchema.Proofs.Atomicity

/-!
# Runs as sequences of single additions

A schema and a schema file are loaded element by element, and each element is a single
operation of its own. So whatever every successful single operation of a run keeps of the
manager, the run keeps, wherever its operations fail or skip an element.
-/

set_option autoImplicit false

namespace DirectorySchema

namespace Action

def after {α : Type} (a : Action α) (s : Session) : Session :=
  match a s with
  | .ok _ s' => s'
  | .error _ s' => s'

def Keeps (I : Manager → Prop) {α : Type} (a : Action α) : Prop :=
  ∀ s, I s.manager → I (after a s).manager

section
variable {I : Manager → Prop} {α β : Type}

theorem after_of_ok {a : Action α} {s s' : Session} {x : α} (h : a s = .ok x s') :
    after a s = s' := by
  rw [after, h]

theorem after_of_error {a : Action α} {s s' : Session} {e : Failure} (h : a s = .error e s') :
    after a s = s' := by
  rw [after, h]

theorem keeps_pure (x : α) : Keeps I (pure x : Action α) := fun _ hs => hs

theorem keeps_bind {a : Action α} {f : α → Action β} (ha : Keeps I a) (hf : ∀ x, Keeps I (f x)) :
    Keeps I (a >>= f) := by
  intro s hs
  have hs' := ha s hs
  cases h : a s with
  | ok x s' =>
    rw [after_of_ok h] at hs'
    have hbind : after (a >>= f) s = after (f x) s' := by
      rw [after, bind_of_ok f h, after]
    rw [hbind]
    exact hf x s' hs'
  | error e s' =>
    rw [after_of_error h] at hs'
    rwa [after_of_error (bind_of_error f h)]

theorem keeps_get_bind {f : Session → Action β} (hf : ∀ x, Keeps I (f x)) :
    Keeps I (get >>= f) := by
  intro s hs
  have hbind : after (get >>= f) s = after (f s) s := by
    rw [after, bind_of_ok f (get_eq s), after]
  rw [hbind]
  exact hf s s hs

theorem keeps_ofExcept_bind {x : Except Failure α} {f : α → Action β}
    (hf : ∀ a, x = .ok a → Keeps I (f a)) : Keeps I (ofExcept x >>= f) := by
  intro s hs
  cases x with
  | ok a => exact hf a rfl s hs
  | error e => exact hs

/-- A record in place of a failure does not touch the manager. -/
theorem keeps_orSkip {policy : DuplicatePolicy} {schemaName : Text} {add : Action Text}
    (ha : Keeps I add) : Keeps I (orSkip policy schemaName add) := by
  intro s hs
  have hs' := ha s hs
  cases h : add s with
  | ok oid s' =>
    rw [after_of_ok h] at hs'
    have ho : orSkip policy schemaName add s = .ok (some oid) s' := by
      simp only [orSkip, h]
    rwa [after_of_ok ho]
  | error e s' =>
    rw [after_of_error h] at hs'
    unfold after orSkip
    rw [h]
    cases e with
    | refused r =>
      by_cases hr : policy = .skip ∧ r.category = .alreadyRegistered
      · simpa only [hr, and_self, if_true] using hs'
      · simpa only [hr, if_false] using hs'
    | _ => exact hs'

theorem keeps_addAll {policy : DuplicatePolicy} {schemaName : Text} {adds : List (Action Text)}
    (h : ∀ add ∈ adds, Keeps I add) : Keeps I (addAll policy schemaName adds) := by
  induction adds with
  | nil => exact keeps_pure _
  | cons add adds ih =>
    rw [List.forall_mem_cons] at h
    exact keeps_bind (keeps_orSkip h.1) fun oid =>
      keeps_bind (ih h.2) fun oids => keeps_pure _

theorem keeps_loadSchema {h : Host} {schemaName : Text} {rules : List RuleAddition}
    {types : List TypeAddition} {onDuplicate : Option Text}
    (hr : ∀ a ∈ rules, Keeps I (addMatchingRule schemaName a))
    (ht : ∀ a ∈ types, Keeps I (addAttributeType schemaName a)) :
    Keeps I (loadSchema h schemaName rules types onDuplicate) := by
  refine keeps_get_bind fun s => keeps_ofExcept_bind fun policy _ => keeps_addAll ?_
  intro add hadd
  rcases List.mem_append.mp hadd with hm | hm
  · obtain ⟨a, ha, rfl⟩ := List.mem_map.mp hm
    exact hr a ha
  · obtain ⟨a, ha, rfl⟩ := List.mem_map.mp hm
    exact ht a ha

end

end Action

namespace Operation

/-- The single operations that an operation consists of. -/
def parts (h : Host) : Operation → List Operation
  | loadSchema schemaName rules types _ =>
    rules.map (addMatchingRule schemaName) ++ types.map (addAttributeType schemaName)
  | loadSchemaFile schemaName path _ =>
    match (do SchemaFile.attributeTypes (← h.readOctets path) : Except Failure _) with
    | .ok types => types.map fun d => addAttributeType schemaName (.parsed d)
    | .error _ => []
  | o => [o]

/-- An operation adds one element itself, or its parts add the elements that a load lists. -/
inductive HasPart : Operation → Operation → Prop where
  | single {o : Operation} : o.IsSingle → HasPart o o
  | rule {schemaName : Text} {rules : List RuleAddition} {types : List TypeAddition}
      {onDuplicate : Option Text} {a : RuleAddition} : a ∈ rules →
      HasPart (loadSchema schemaName rules types onDuplicate) (addMatchingRule schemaName a)
  | type {schemaName : Text} {rules : List RuleAddition} {types : List TypeAddition}
      {onDuplicate : Option Text} {a : TypeAddition} : a ∈ types →
      HasPart (loadSchema schemaName rules types onDuplicate) (addAttributeType schemaName a)
  | defined {schemaName path : Text} {onDuplicate : Option Text} {octets : List UInt8}
      {types : List AttributeType} {d : AttributeType} :
      SchemaFile.attributeTypes octets = .ok types → d ∈ types →
      HasPart (loadSchemaFile schemaName path onDuplicate) (addAttributeType schemaName (.parsed d))

theorem hasPart_of_mem_parts {h : Host} {o p : Operation} (hp : p ∈ o.parts h) : o.HasPart p := by
  cases o with
  | loadSchema schemaName rules types onDuplicate =>
    rcases List.mem_append.mp hp with hp | hp
    · obtain ⟨a, ha, rfl⟩ := List.mem_map.mp hp
      exact .rule ha
    · obtain ⟨a, ha, rfl⟩ := List.mem_map.mp hp
      exact .type ha
  | loadSchemaFile schemaName path onDuplicate =>
    rw [parts] at hp
    split at hp
    · next types hread =>
      obtain ⟨octets, -, htypes⟩ := bind_eq_ok_iff.mp hread
      obtain ⟨d, hd, rfl⟩ := List.mem_map.mp hp
      exact .defined htypes hd
    · cases hp
  | _ =>
    rw [List.eq_of_mem_singleton hp]
    exact .single (by trivial)

theorem outcome_snd (h : Host) (o : Operation) (s : Session) :
    (o.outcome h s).2 = Action.after (o.perform h) s := by
  unfold outcome Action.after
  cases o.perform h s <;> rfl

def Keeps (I : Manager → Prop) (o : Operation) : Prop :=
  ∀ s s', I s.manager → o.Added s s' → I s'.manager

variable {I : Manager → Prop}

theorem keeps_perform_single {h : Host} {o : Operation} (ho : o.IsSingle) (hI : o.Keeps I) :
    Action.Keeps I (o.perform h) := by
  intro s hs
  rw [← outcome_snd]
  rcases outcome_of_single ho h s with ⟨e, he, -⟩ | ⟨oids, s', hok, -, hadded⟩
  · rwa [he]
  · rw [hok]
    exact hI s s' hs hadded

theorem after_return (a : Action Text) (s : Session) :
    Action.after (do return [← a] : Action (List Text)) s = Action.after a s := by
  cases h : a s with
  | ok oid s' =>
    have hr : (do return [← a] : Action (List Text)) s = .ok [oid] s' := Action.bind_of_ok _ h
    rw [Action.after_of_ok h, Action.after_of_ok hr]
  | error e s' =>
    have hr : (do return [← a] : Action (List Text)) s = .error e s' := Action.bind_of_error _ h
    rw [Action.after_of_error h, Action.after_of_error hr]

theorem keeps_of_return {h : Host} {o : Operation} {a : Action Text} (ho : o.IsSingle)
    (hp : o.perform h = do return [← a]) (hI : o.Keeps I) : Action.Keeps I a := by
  intro s hs
  rw [← after_return, ← hp]
  exact keeps_perform_single ho hI s hs

theorem keeps_addMatchingRule (h : Host) {schemaName : Text} {a : RuleAddition}
    (hI : (addMatchingRule schemaName a).Keeps I) :
    Action.Keeps I (Action.addMatchingRule schemaName a) :=
  keeps_of_return (h := h) (by trivial) rfl hI

theorem keeps_addAttributeType (h : Host) {schemaName : Text} {a : TypeAddition}
    (hI : (addAttributeType schemaName a).Keeps I) :
    Action.Keeps I (Action.addAttributeType schemaName a) :=
  keeps_of_return (h := h) (by trivial) rfl hI

theorem keeps_loadSchemaFile {h : Host} {schemaName path : Text} {onDuplicate : Option Text}
    (hI : ∀ p ∈ (loadSchemaFile schemaName path onDuplicate).parts h, p.Keeps I) :
    Action.Keeps I (Action.loadSchemaFile h schemaName path onDuplicate) := by
  refine Action.keeps_ofExcept_bind fun types htypes => Action.keeps_loadSchema ?_ ?_
  · intro a ha
    cases ha
  · intro a ha
    obtain ⟨d, hd, rfl⟩ := List.mem_map.mp ha
    refine keeps_addAttributeType h (hI _ ?_)
    rw [parts, htypes]
    exact List.mem_map_of_mem hd

theorem keeps_perform {h : Host} {o : Operation} (hI : ∀ p ∈ o.parts h, p.Keeps I) :
    Action.Keeps I (o.perform h) := by
  cases o with
  | loadSchema schemaName rules types onDuplicate =>
    apply Action.keeps_loadSchema
    · intro a ha
      exact keeps_addMatchingRule h (hI _ (by simp [parts, ha]))
    · intro a ha
      exact keeps_addAttributeType h (hI _ (by simp [parts, ha]))
  | loadSchemaFile schemaName path onDuplicate => exact keeps_loadSchemaFile hI
  | _ => exact keeps_perform_single (by trivial) (hI _ (by simp [parts]))

/-- What every successful part of a run keeps, the run keeps. -/
theorem run_invariant {os : List (Host × Operation)}
    (hI : ∀ ho ∈ os, ∀ p ∈ ho.2.parts ho.1, p.Keeps I) {s : Session} (hs : I s.manager) :
    I (run os s).manager := by
  induction os generalizing s with
  | nil => exact hs
  | cons ho os ih =>
    rw [List.forall_mem_cons] at hI
    have hstep : I (ho.2.outcome ho.1 s).2.manager := by
      rw [outcome_snd]
      exact keeps_perform hI.1 s hs
    exact ih hI.2 hstep

/-- The manager that a run leads to from a new one over given catalogs. -/
def reached (config : ManagerConfig) (c : Catalogs) (os : List (Host × Operation)) : Manager :=
  (run os ⟨.ofCatalogs config c, []⟩).manager

end Operation

end DirectorySchema
