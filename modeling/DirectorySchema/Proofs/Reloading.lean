import DirectorySchema.Proofs.Permanence
import DirectorySchema.Proofs.SchemaFiles
import DirectorySchema.Proofs.SchemaLoads

/-!
# Loading again adds nothing

An addition that has been made, or refused because something is registered already, is refused
as registered already from then on, whatever is done to the manager in between. So a schema
that was loaded once is passed over as a whole when it is loaded again, and so is a file that
has not changed.
-/

set_option autoImplicit false

namespace DirectorySchema

namespace Manager

def Taken {k : Description.Kind} (m : Manager)
    (check : Manager → Description k → Except Refusal Unit) (d : Description k) : Prop :=
  ∃ r, check m d = .error r ∧ r.category = .alreadyRegistered

section
variable {m m' : Manager}

theorem taken_checkRule_iff {d : MatchingRule} : m.Taken checkRule d ↔ m.checkRule d ≠ .ok () := by
  constructor
  · rintro ⟨r, hr, -⟩ hok
    rw [hr] at hok
    cases hok
  · intro hno
    unfold Taken
    rw [checkRule] at hno ⊢
    cases hr : m.matchingRules.holds d.oid with
    | true => exact ⟨_, rfl, rfl⟩
    | false =>
      cases hc : m.comparators.holds d.oid with
      | true => exact ⟨_, rfl, rfl⟩
      | false =>
        cases hn : m.normalizers.holds d.oid with
        | true => exact ⟨_, rfl, rfl⟩
        | false =>
          rw [hr, hc, hn] at hno
          refine Registry.checkAvailable_of_not_admits (e := ⟨d.oid, [], d⟩) ?_ ?_
          · rintro oid ⟨⟩
            rfl
          · exact fun h => hno (Registry.checkAvailable_eq_ok_iff.mpr h)

theorem category_of_requireRules {rules : List Text} {e : Refusal}
    (h : Action.requireRules m rules = .error e) : e.category = .notFound := by
  induction rules with
  | nil => cases h
  | cons rule rules ih =>
    rw [Action.requireRules] at h
    split at h
    · exact ih h
    · next hrule =>
      cases h
      exact Registry.category_of_oidOf hrule

theorem category_of_checkReferences {d : AttributeType} {e : Refusal}
    (h : Action.checkReferences m d = .error e) : e.category = .notFound := by
  unfold Action.checkReferences at h
  split at h
  · next hrules =>
    cases h
    exact category_of_requireRules hrules
  · split at h
    · cases h
    · next sup _ =>
      cases ho : m.attributeTypes.oidOf sup with
      | ok oid =>
        rw [ho] at h
        cases h
      | error e' =>
        rw [ho] at h
        cases h
        exact Registry.category_of_oidOf ho

/-- References are checked first, so a type is found registered only where it finds what it
refers to. -/
theorem taken_checkType_iff {d : AttributeType} :
    m.Taken checkType d ↔ m.Finds d ∧ ¬ m.attributeTypes.Admits ⟨d.oid, [], d⟩ := by
  rw [← Action.checkReferences_iff, Taken, checkType]
  cases hrefs : Action.checkReferences m d with
  | error e =>
    constructor
    · rintro ⟨r, hr, hcat⟩
      cases hr
      rw [category_of_checkReferences hrefs] at hcat
      cases hcat
    · rintro ⟨hok, -⟩
      cases hok
  | ok u =>
    constructor
    · rintro ⟨r, hr, -⟩
      refine ⟨rfl, ?_⟩
      intro h
      dsimp only at hr
      rw [Registry.checkAvailable_eq_ok_iff.mpr h] at hr
      cases hr
    · rintro ⟨-, hno⟩
      refine Registry.checkAvailable_of_not_admits (e := ⟨d.oid, [], d⟩) ?_ hno
      rintro oid ⟨⟩
      rfl

theorem Finds.of_grows {d : AttributeType} (h : m.Grows m') (hd : m.Finds d) : m'.Finds d where
  equality rule hr := (hd.equality rule hr).imp fun oid => h.matchingRules.oidOf rule oid
  ordering rule hr := (hd.ordering rule hr).imp fun oid => h.matchingRules.oidOf rule oid
  substr rule hr := (hd.substr rule hr).imp fun oid => h.matchingRules.oidOf rule oid
  sup sup hs := (hd.sup sup hs).imp fun oid => h.attributeTypes.oidOf sup oid

theorem taken_checkRule_of_grows {d : MatchingRule} (h : m.Grows m') (hd : m.Taken checkRule d) :
    m'.Taken checkRule d := by
  rw [taken_checkRule_iff] at hd ⊢
  intro hok
  obtain ⟨hr, hc, hn⟩ := (m'.checkRule_eq_ok_iff d [] (.order .identity) (.form .identity)).mp hok
  exact hd ((m.checkRule_eq_ok_iff d [] _ _).mpr
    ⟨hr.of_keeps h.matchingRules, hc.of_keeps h.comparators, hn.of_keeps h.normalizers⟩)

theorem taken_checkType_of_grows {d : AttributeType} (h : m.Grows m') (hd : m.Taken checkType d) :
    m'.Taken checkType d := by
  rw [taken_checkType_iff] at hd ⊢
  exact ⟨hd.1.of_grows h, fun hadmits => hd.2 (hadmits.of_keeps h.attributeTypes)⟩

end

end Manager

theorem Description.Source.read_ne_refused {k : Description.Kind} (source : Source k)
    (r : Refusal) : source.read ≠ .error (.refused r) := by
  cases source with
  | written s => cases hp : Description.parse k s <;> simp [read, hp, Except.mapError]
  | parsed d => nofun

namespace Action

def Blocked (m : Manager) (add : Action Text) : Prop :=
  ∀ s, m.Grows s.manager → ∃ r, add s = .error (.refused r) s ∧ r.category = .alreadyRegistered

theorem Blocked.of_grows {m m' : Manager} {add : Action Text} (h : Blocked m add)
    (hg : m.Grows m') : Blocked m' add :=
  fun s hs => h s (hg.trans hs)

/-- An addition that is made once at most: it is blocked once it has been made, and once it has
been refused as registered already. -/
structure OnceOnly (add : Action Text) : Prop where
  grows : ∀ s oid t, add s = .ok oid t → s.manager.Grows t.manager
  made : ∀ s oid t, add s = .ok oid t → Blocked t.manager add
  passed : ∀ s r t, add s = .error (.refused r) t → r.category = .alreadyRegistered →
    Blocked s.manager add

section
variable {k : Description.Kind} {source : Description.Source k}
  {check : Manager → Description k → Except Refusal Unit} {put : Session → Description k → Session}

theorem onceOnly_checked
    (hcheck : ∀ (m m' : Manager) d, m.Grows m' → m.Taken check d → m'.Taken check d)
    (hput : ∀ s d, check s.manager d = .ok () →
      s.manager.Grows (put s d).manager ∧ (put s d).manager.Taken check d) :
    OnceOnly (checked source.read check put) := by
  have hblocked : ∀ (m : Manager) d, source.read = .ok d → m.Taken check d →
      Blocked m (checked source.read check put) := by
    intro m d hread htaken s hs
    obtain ⟨r, hr, hcat⟩ := hcheck m s.manager d hs htaken
    exact ⟨r, checked_eq_error_iff.mpr ⟨rfl, Or.inr ⟨d, r, hread, hr, rfl⟩⟩, hcat⟩
  constructor
  · intro s oid t hok
    obtain ⟨d, -, hd, -, rfl⟩ := checked_eq_ok_iff.mp hok
    exact (hput s d hd).1
  · intro s oid t hok
    obtain ⟨d, hread, hd, -, rfl⟩ := checked_eq_ok_iff.mp hok
    exact hblocked _ d hread (hput s d hd).2
  · intro s r t hno hcat
    obtain ⟨-, hread | ⟨d, _, hread, hr, heq⟩⟩ := checked_eq_error_iff.mp hno
    · exact (source.read_ne_refused r hread).elim
    · cases heq
      exact hblocked _ d hread ⟨r, hr, hcat⟩

end

theorem onceOnly_addMatchingRule (schemaName : Text) (a : RuleAddition) :
    OnceOnly (addMatchingRule schemaName a) := by
  rw [addMatchingRule_eq]
  apply onceOnly_checked
  · exact fun m m' d => Manager.taken_checkRule_of_grows
  · intro s d hok
    obtain ⟨hr, hc, hn⟩ :=
      (s.manager.checkRule_eq_ok_iff d schemaName a.comparator a.normalizer).mp hok
    have hadvances :
        s.manager.Advances (s.putRule schemaName d a.comparator a.normalizer).manager :=
      ⟨Or.inr ⟨_, hc, rfl⟩, Or.inr ⟨_, hn, rfl⟩, Or.inr ⟨_, hr, rfl⟩, Or.inl rfl⟩
    refine ⟨hadvances.grows, Manager.taken_checkRule_iff.mpr ?_⟩
    intro hagain
    exact Registry.not_admits_insert hr rfl
      ((Manager.checkRule_eq_ok_iff _ d schemaName a.comparator a.normalizer).mp hagain).1

theorem onceOnly_addAttributeType (schemaName : Text) (a : TypeAddition) :
    OnceOnly (addAttributeType schemaName a) := by
  rw [addAttributeType_eq]
  apply onceOnly_checked
  · exact fun m m' d => Manager.taken_checkType_of_grows
  · intro s d hok
    obtain ⟨hrefs, hd⟩ := (s.manager.checkType_eq_ok_iff d schemaName).mp hok
    have hadvances : s.manager.Advances (s.put ⟨d.oid, schemaName, d⟩).manager :=
      ⟨Or.inl rfl, Or.inl rfl, Or.inl rfl, Or.inr ⟨_, hd, rfl⟩⟩
    have hfinds := (checkReferences_iff.mp hrefs).of_grows hadvances.grows
    exact ⟨hadvances.grows, Manager.taken_checkType_iff.mpr
      ⟨hfinds, Registry.not_admits_insert hd rfl⟩⟩

theorem onceOnly_additions {schemaName : Text} {rules : List RuleAddition}
    {types : List TypeAddition} : ∀ add ∈ additions schemaName rules types, OnceOnly add :=
  forall_mem_additions.mpr ⟨fun a _ => onceOnly_addMatchingRule schemaName a,
    fun a _ => onceOnly_addAttributeType schemaName a⟩

section
variable {policy : DuplicatePolicy} {schemaName : Text} {adds : List (Action Text)}
  {s t : Session} {oids : List Text} {skips : List Record}

theorem Adds.blocked (h : Adds policy schemaName adds s oids skips t)
    (hadds : ∀ add ∈ adds, OnceOnly add) :
    s.manager.Grows t.manager ∧ ∀ add ∈ adds, Blocked t.manager add := by
  induction h with
  | nil => exact ⟨.refl _, fun _ hadd => (List.not_mem_nil hadd).elim⟩
  | added done _ ih =>
    -- what is blocked where it was made stays blocked while the manager grows
    rw [List.forall_mem_cons] at hadds ⊢
    obtain ⟨hgrows, hblocked⟩ := ih hadds.2
    exact ⟨(hadds.1.grows _ _ _ done).trans hgrows, (hadds.1.made _ _ _ done).of_grows hgrows,
      hblocked⟩
  | skipped failed forgiven _ ih =>
    rw [List.forall_mem_cons] at hadds ⊢
    obtain ⟨hgrows, hblocked⟩ := ih hadds.2
    exact ⟨hgrows, (hadds.1.passed _ _ _ failed forgiven.2).of_grows hgrows, hblocked⟩

theorem adds_of_blocked {m : Manager} (h : ∀ add ∈ adds, Blocked m add) (hs : m.Grows s.manager) :
    ∃ skips, Adds .skip schemaName adds s [] skips ⟨s.manager, s.log ++ skips⟩ := by
  induction adds generalizing s with
  | nil => exact ⟨[], by simpa using Adds.nil⟩
  | cons add adds ih =>
    rw [List.forall_mem_cons] at h
    obtain ⟨r, hr, hcat⟩ := h.1 s hs
    obtain ⟨skips, hskips⟩ := ih h.2 (s := ⟨s.manager, s.log ++ [skipRecord schemaName r]⟩) hs
    refine ⟨skipRecord schemaName r :: skips, .skipped hr ⟨rfl, hcat⟩ ?_⟩
    simpa using hskips

end

section
variable {h h' : Host} {schemaName : Text} {rules : List RuleAddition} {types : List TypeAddition}
  {onDuplicate again : Option Text} {s t u : Session} {oids : List Text}

theorem choosePolicy_of_loadSchema
    (hload : loadSchema h schemaName rules types onDuplicate s = .ok oids t) :
    ∃ policy, choosePolicy h s.manager onDuplicate = .ok policy := by
  unfold loadSchema at hload
  rw [bind_of_ok _ (get_eq s)] at hload
  cases hp : choosePolicy h s.manager onDuplicate with
  | ok policy => exact ⟨policy, rfl⟩
  | error e =>
    rw [hp] at hload
    cases hload

/-- A schema that was loaded, under whatever policy, is passed over as a whole. -/
theorem loadSchema_again (hload : loadSchema h schemaName rules types onDuplicate s = .ok oids t)
    (hu : t.manager.Grows u.manager) (hagain : choosePolicy h' u.manager again = .ok .skip) :
    ∃ skips, loadSchema h' schemaName rules types again u =
        .ok [] ⟨u.manager, u.log ++ skips⟩ ∧ skips.length = rules.length + types.length := by
  obtain ⟨policy, hp⟩ := choosePolicy_of_loadSchema hload
  rw [loadSchema_eq hp] at hload
  obtain ⟨_, hadds⟩ := (addAll_eq_ok_iff harmless_additions).mp hload
  obtain ⟨skips, hskips⟩ : ∃ skips, Adds .skip schemaName (additions schemaName rules types) u []
      skips ⟨u.manager, u.log ++ skips⟩ :=
    adds_of_blocked (hadds.blocked onceOnly_additions).2 hu
  refine ⟨skips, (loadSchema_eq hagain).trans (addAll_of_adds hskips), ?_⟩
  simpa [additions] using hskips.length_add_length

end

/-- Loading again is idempotent, however the manager was added to since: a schema that was
loaded, or a file that was and has not changed, is passed over, with a record for every element
and no registry touched. -/
theorem reloading_adds_nothing (schemaName : Text) (s t : Session) (os : List (Host × Operation)) :
    let u := Operation.run os t
    (∀ (h h' : Host) (rules : List RuleAddition) (types : List TypeAddition)
      (onDuplicate : Option Text) (oids : List Text),
      loadSchema h schemaName rules types onDuplicate s = .ok oids t →
      ∃ skips, loadSchema h' schemaName rules types (some "skip") u =
          .ok [] ⟨u.manager, u.log ++ skips⟩ ∧ skips.length = rules.length + types.length) ∧
    ∀ (h h' : Host) (path : Text) (onDuplicate : Option Text) (oids : List Text),
      loadSchemaFile h schemaName path onDuplicate s = .ok oids t →
      h'.readOctets path = h.readOctets path →
      ∃ skips, loadSchemaFile h' schemaName path (some "skip") u =
        .ok [] ⟨u.manager, u.log ++ skips⟩ := by
  intro u
  have hgrows : t.manager.Grows u.manager := Operation.run_grows os t
  constructor
  · intro h h' rules types onDuplicate oids hload
    exact loadSchema_again hload hgrows rfl
  · intro h h' path onDuplicate oids hload hsame
    obtain ⟨octets, types, hread, htypes, hloaded⟩ := loadSchemaFile_eq_ok_iff.mp hload
    have hagain : choosePolicy h' u.manager (some "skip") = .ok .skip := rfl
    obtain ⟨skips, hskips, -⟩ := loadSchema_again hloaded hgrows hagain
    exact ⟨skips, (loadSchemaFile_of_read (hsame.trans hread) htypes).trans hskips⟩

section
open Catalogs.Sample Operation

/-- The elements that were passed over the first time are passed over again, also behind an
addition that refers to what was loaded. -/
theorem sample_reloading :
    let os := [(host, Operation.addAttributeType "other" (.written "( 1.9 SUP 1.1 )"))]
    (∃ t skips, loadSchema host "nis" mixedRules mixedTypes (some "skip") sampleSession =
        .ok ["1.5", "1.1"] t ∧
      loadSchema host "nis" mixedRules mixedTypes (some "skip") (run os t) =
        .ok [] ⟨(run os t).manager, (run os t).log ++ skips⟩ ∧ skips.length = 4) ∧
    ∃ t skips, loadSchemaFile filesHost "nis" "nick.schema" (some "skip") sampleSession =
        .ok ["1.1", "1.2"] t ∧
      loadSchemaFile filesHost "nis" "nick.schema" (some "skip") (run os t) =
        .ok [] ⟨(run os t).manager, (run os t).log ++ skips⟩ := by
  intro os
  have hschema : ((Operation.loadSchema "nis" mixedRules mixedTypes (some "skip")).outcome host
      sampleSession).1 = .ok ["1.5", "1.1"] := by decide +kernel
  have hfile : ((Operation.loadSchemaFile "nis" "nick.schema" (some "skip")).outcome filesHost
      sampleSession).1 = .ok ["1.1", "1.2"] := by decide +kernel
  constructor
  · obtain ⟨t, hload⟩ := exists_of_outcome_fst hschema
    obtain ⟨skips, hskips, hcount⟩ :=
      (reloading_adds_nothing "nis" sampleSession t os).1 host host _ _ _ _ hload
    exact ⟨t, skips, hload, hskips, hcount⟩
  · obtain ⟨t, hload⟩ := exists_of_outcome_fst hfile
    obtain ⟨skips, hskips⟩ := (reloading_adds_nothing "nis" sampleSession t os).2 filesHost
      filesHost "nick.schema" _ _ hload rfl
    exact ⟨t, skips, hload, hskips⟩

end

end Action

end DirectorySchema
