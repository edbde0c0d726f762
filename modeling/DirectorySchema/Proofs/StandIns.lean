import DirectorySchema.Comparator.Deferred
import DirectorySchema.Proofs.Outcomes
import DirectorySchema.Proofs.Registries

/-!
# Stand-ins are never stale

A stand-in keeps the comparator that it has found. It goes on being the one to be found, for a
registry replaces nothing; and it is forgotten when the stand-in is bound anew, or stored and
read back. So whatever is done to the two of them and in whatever order, a stand-in that is
bound resolves to what its registry holds at that moment, and any other does not resolve.
-/

set_option autoImplicit false

namespace DirectorySchema.StandIn

inductive Event where
  | register (schemaName oid : Text) (c : Comparator)
  | bind (bound : Bool)
  | store
  | compare (v w : Value)

structure Setting where
  registry : Registry Comparator
  standIn : StandIn

namespace Setting

def after (t : Setting) : Event → Setting
  | .register schemaName oid c =>
    match t.registry.register schemaName oid c with
    | .ok (r, _) => { t with registry := r }
    | .error _ => t
  | .bind bound => { t with standIn := t.standIn.bind bound }
  | .store => { t with standIn := t.standIn.stored }
  | .compare v w => { t with standIn := (t.standIn.compare t.registry v w).2 }

def run : List Event → Setting → Setting
  | [], t => t
  | e :: es, t => run es (t.after e)

end Setting

def Event.binds (bound : Bool) : Event → Bool
  | .bind b => b
  | .store => false
  | .register .. | .compare .. => bound

def boundAfter (bound : Bool) : List Event → Bool
  | [] => bound
  | e :: es => boundAfter (e.binds bound) es

/-- What a stand-in has kept is what its registry holds. -/
structure Coherent (oid : Text) (bound : Bool) (t : Setting) : Prop where
  oid_eq : t.standIn.oid = oid
  bound_eq : t.standIn.bound = bound
  kept : ∀ c, t.standIn.resolved = some c → bound = true ∧ t.registry.lookup oid = .ok c

section
variable {oid : Text} {bound : Bool} {t : Setting}

theorem resolve_of_unbound (h : Coherent oid false t) :
    t.standIn.resolve t.registry = (.error (.unboundDeferral oid), t.standIn) := by
  unfold resolve
  cases hkept : t.standIn.resolved with
  | some c => cases (h.kept c hkept).1
  | none => simp [h.bound_eq, h.oid_eq]

theorem resolve_of_found {c : Comparator} (h : Coherent oid true t)
    (hc : t.registry.lookup oid = .ok c) :
    t.standIn.resolve t.registry = (.ok c, { t.standIn with resolved := some c }) := by
  unfold resolve
  cases hkept : t.standIn.resolved with
  | some c' =>
    have hsame := (h.kept c' hkept).2
    rw [hc, Except.ok.injEq] at hsame
    simp [hsame, ← hkept]
  | none => simp [h.bound_eq, h.oid_eq, hc]

theorem resolve_of_missing {e : Refusal} (h : Coherent oid true t)
    (he : t.registry.lookup oid = .error e) :
    t.standIn.resolve t.registry = (.error (.refused e), t.standIn) := by
  unfold resolve
  cases hkept : t.standIn.resolved with
  | some c =>
    have hfound := (h.kept c hkept).2
    rw [he] at hfound
    cases hfound
  | none => simp [h.bound_eq, h.oid_eq, he]

theorem compare_snd (s : StandIn) (r : Registry Comparator) (v w : Value) :
    (s.compare r v w).2 = (s.resolve r).2 := by
  unfold compare
  rcases s.resolve r with ⟨_ | _, _⟩ <;> rfl

theorem Coherent.resolve (h : Coherent oid bound t) :
    Coherent oid bound { t with standIn := (t.standIn.resolve t.registry).2 } := by
  cases bound with
  | false =>
    rw [resolve_of_unbound h]
    exact h
  | true =>
    cases hlookup : t.registry.lookup oid with
    | error e =>
      rw [resolve_of_missing h hlookup]
      exact h
    | ok c =>
      rw [resolve_of_found h hlookup]
      refine ⟨h.oid_eq, h.bound_eq, ?_⟩
      rintro c' ⟨⟩
      exact ⟨rfl, hlookup⟩

theorem Coherent.after (h : Coherent oid bound t) (e : Event) :
    Coherent oid (e.binds bound) (t.after e) := by
  cases e with
  | register schemaName oid' c =>
    cases hr : t.registry.register schemaName oid' c with
    | error e =>
      simp only [Setting.after, hr]
      exact h
    | ok added =>
      obtain ⟨r, record⟩ := added
      simp only [Setting.after, hr]
      -- What was found stays found: a registry that admits an element replaces nothing.
      obtain ⟨hadmits, rfl, -⟩ := Registry.register_eq_ok_iff (e := ⟨oid', schemaName, c⟩).mp hr
      exact ⟨h.oid_eq, h.bound_eq,
        fun c' hc' => (h.kept c' hc').imp_right ((Registry.keeps_insert hadmits).lookup oid c')⟩
  | bind b => exact ⟨h.oid_eq, rfl, nofun⟩
  | store => exact ⟨h.oid_eq, rfl, nofun⟩
  | compare v w =>
    simp only [Setting.after, compare_snd]
    exact h.resolve

theorem Coherent.run {es : List Event} (h : Coherent oid bound t) :
    Coherent oid (boundAfter bound es) (Setting.run es t) := by
  induction es generalizing t bound with
  | nil => exact h
  | cons e es ih => exact ih (h.after e)

theorem Coherent.resolve_fst (h : Coherent oid true t) :
    (t.standIn.resolve t.registry).1 = (t.registry.lookup oid).mapError .refused := by
  cases hlookup : t.registry.lookup oid with
  | error e =>
    rw [resolve_of_missing h hlookup]
    rfl
  | ok c =>
    rw [resolve_of_found h hlookup]
    rfl

theorem Coherent.compare_fst (h : Coherent oid true t) (v w : Value) :
    (t.standIn.compare t.registry v w).1 =
      (do t.registry.compareBy (← (t.registry.lookup oid).mapError .refused) v w) := by
  unfold compare
  cases hlookup : t.registry.lookup oid with
  | error e =>
    rw [resolve_of_missing h hlookup]
    rfl
  | ok c =>
    rw [resolve_of_found h hlookup]
    rfl

end

/-- However a stand-in and its registry came to be as they are, the identifier is that of the
beginning; a bound stand-in resolves to the very comparator that the registry holds now, and
compares by it; where there is none it says so, keeps nothing, and resolves as soon as there is
one; and a stand-in that is not bound, whatever it had found before, compares nothing. -/
theorem stand_in_never_stale (r : Registry Comparator) (oid : Text) (bound : Bool)
    (events : List Event) :
    let t := Setting.run events ⟨r, make oid bound⟩
    t.standIn.oid = oid ∧
    (boundAfter bound events = true →
      (t.standIn.resolve t.registry).1 = (t.registry.lookup oid).mapError .refused ∧
      (∀ v w, (t.standIn.compare t.registry v w).1 =
        (do t.registry.compareBy (← (t.registry.lookup oid).mapError .refused) v w)) ∧
      (∀ e, t.registry.lookup oid = .error e → e.category = .notFound ∧
        (t.standIn.resolve t.registry).2 = t.standIn) ∧
      ∀ more c, boundAfter true more = true →
        (Setting.run more t).registry.lookup oid = .ok c →
        ((Setting.run more t).standIn.resolve (Setting.run more t).registry).1 = .ok c) ∧
    (boundAfter bound events = false → ∀ v w,
      t.standIn.compare t.registry v w = (.error (.unboundDeferral oid), t.standIn)) := by
  intro t
  have hmade : Coherent oid bound ⟨r, make oid bound⟩ := ⟨rfl, rfl, nofun⟩
  have ht : Coherent oid (boundAfter bound events) t := hmade.run
  refine ⟨ht.oid_eq, ?_, ?_⟩
  · intro hbound
    rw [hbound] at ht
    refine ⟨ht.resolve_fst, ht.compare_fst, ?_, ?_⟩
    · intro e he
      rw [resolve_of_missing ht he]
      exact ⟨Registry.category_of_lookup he, rfl⟩
    · intro more c hmore hc
      have hlater : Coherent oid (boundAfter true more) (Setting.run more t) := ht.run
      rw [hmore] at hlater
      rw [hlater.resolve_fst, hc]
      rfl
  · intro hbound v w
    rw [hbound] at ht
    unfold compare
    rw [resolve_of_unbound ht]

end DirectorySchema.StandIn
