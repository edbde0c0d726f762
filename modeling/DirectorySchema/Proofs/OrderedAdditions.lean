import DirectorySchema.Proofs.Additions

/-!
# Additions in order

Additions are made one after the other, each in the session that the ones before it have led
to. One that is passed over leaves a record and nothing else; any other failure ends them,
with the earlier additions kept and nothing of its own.
-/

set_option autoImplicit false

namespace DirectorySchema

namespace Action

def Forgiven (policy : DuplicatePolicy) : Failure → Prop
  | .refused r => policy = .skip ∧ r.category = .alreadyRegistered
  | _ => False

/-- Additions made one after the other lead from one session to another: what they give, and
the records of those that were passed over. -/
inductive Adds (policy : DuplicatePolicy) (schemaName : Text) :
    List (Action Text) → Session → List Text → List Record → Session → Prop where
  | nil {s : Session} : Adds policy schemaName [] s [] [] s
  | added {add : Action Text} {adds : List (Action Text)} {s t u : Session} {oid : Text}
      {oids : List Text} {skips : List Record} (done : add s = .ok oid t)
      (rest : Adds policy schemaName adds t oids skips u) :
      Adds policy schemaName (add :: adds) s (oid :: oids) skips u
  | skipped {add : Action Text} {adds : List (Action Text)} {s u : Session} {r : Refusal}
      {oids : List Text} {skips : List Record} (failed : add s = .error (.refused r) s)
      (forgiven : Forgiven policy (.refused r))
      (rest : Adds policy schemaName adds ⟨s.manager, s.log ++ [skipRecord schemaName r]⟩
        oids skips u) :
      Adds policy schemaName (add :: adds) s oids (skipRecord schemaName r :: skips) u

/-- Whether a failure leaves the session as it was. -/
def Harmless (add : Action Text) : Prop := ∀ s e t, add s = .error e t → s = t

section
variable {policy : DuplicatePolicy} {schemaName : Text} {add : Action Text}
  {adds : List (Action Text)} {s t u : Session} {oid : Text} {oids : List Text}
  {skips : List Record}

theorem orSkip_of_ok (h : add s = .ok oid t) :
    orSkip policy schemaName add s = .ok (some oid) t := by
  simp only [orSkip, h]

theorem orSkip_of_forgiven {r : Refusal} (h : add s = .error (.refused r) t)
    (hr : Forgiven policy (.refused r)) : orSkip policy schemaName add s =
      .ok none ⟨t.manager, t.log ++ [skipRecord schemaName r]⟩ := by
  rw [Forgiven] at hr
  simp only [orSkip, h, hr, and_self, if_true]

theorem orSkip_of_unforgiven {e : Failure} (h : add s = .error e t) (he : ¬ Forgiven policy e) :
    orSkip policy schemaName add s = .error e t := by
  cases e with
  | refused r =>
    rw [Forgiven] at he
    simp only [orSkip, h, he, if_false]
  | _ => simp only [orSkip, h]

theorem addAll_cons_of_ok {oid? : Option Text} {rest : List (Action Text)}
    (h : orSkip policy schemaName add s = .ok oid? t)
    (hrest : addAll policy schemaName rest t = .ok oids u) :
    addAll policy schemaName (add :: rest) s = .ok (oid?.toList ++ oids) u :=
  (bind_of_ok _ h).trans (bind_of_ok _ hrest)

theorem addAll_cons_of_rest_error {oid? : Option Text} {rest : List (Action Text)} {e : Failure}
    (h : orSkip policy schemaName add s = .ok oid? t)
    (hrest : addAll policy schemaName rest t = .error e u) :
    addAll policy schemaName (add :: rest) s = .error e u :=
  (bind_of_ok _ h).trans (bind_of_error _ hrest)

theorem addAll_cons_of_error {e : Failure} (h : add s = .error e t) (he : ¬ Forgiven policy e) :
    addAll policy schemaName (add :: adds) s = .error e t :=
  bind_of_error _ (orSkip_of_unforgiven h he)

theorem addAll_of_adds (h : Adds policy schemaName adds s oids skips t) :
    addAll policy schemaName adds s = .ok oids t := by
  induction h with
  | nil => rfl
  | added done _ ih => exact addAll_cons_of_ok (orSkip_of_ok done) ih
  | skipped failed forgiven _ ih => exact addAll_cons_of_ok (orSkip_of_forgiven failed forgiven) ih

theorem addAll_of_adds_of_error {e : Failure} {rest : List (Action Text)}
    (h : Adds policy schemaName adds s oids skips t) (hadd : add t = .error e u)
    (he : ¬ Forgiven policy e) :
    addAll policy schemaName (adds ++ add :: rest) s = .error e u := by
  induction h with
  | nil => exact addAll_cons_of_error hadd he
  | added done _ ih => exact addAll_cons_of_rest_error (orSkip_of_ok done) (ih hadd)
  | skipped failed forgiven _ ih =>
    exact addAll_cons_of_rest_error (orSkip_of_forgiven failed forgiven) (ih hadd)

/-- Harmless additions are all made or passed over, or one of them ends the load. -/
theorem addAll_cases (policy : DuplicatePolicy) (schemaName : Text)
    (hadds : ∀ add ∈ adds, Harmless add) (s : Session) :
    (∃ oids skips t, addAll policy schemaName adds s = .ok oids t ∧
      Adds policy schemaName adds s oids skips t) ∨
    ∃ before add after oids skips e t, addAll policy schemaName adds s = .error e t ∧
      adds = before ++ add :: after ∧ Adds policy schemaName before s oids skips t ∧
      add t = .error e t ∧ ¬ Forgiven policy e := by
  induction adds generalizing s with
  | nil => exact Or.inl ⟨[], [], s, rfl, .nil⟩
  | cons add adds ih =>
    rw [List.forall_mem_cons] at hadds
    cases hadd : add s with
    | ok oid t =>
      rcases ih hadds.2 t with ⟨oids, skips, u, hu, hall⟩ |
        ⟨before, last, after, oids, skips, e, u, hu, rfl, hbefore, hlast, he⟩
      · exact Or.inl ⟨_, _, u, addAll_cons_of_ok (orSkip_of_ok hadd) hu, .added hadd hall⟩
      · exact Or.inr ⟨add :: before, last, after, _, _, e, u,
          addAll_cons_of_rest_error (orSkip_of_ok hadd) hu, rfl, .added hadd hbefore, hlast, he⟩
    | error e t =>
      obtain rfl := hadds.1 s e t hadd
      by_cases he : Forgiven policy e
      · cases e with
        | refused r =>
          have hskip : orSkip policy schemaName add s =
              .ok none ⟨s.manager, s.log ++ [skipRecord schemaName r]⟩ :=
            orSkip_of_forgiven hadd he
          rcases ih hadds.2 ⟨s.manager, s.log ++ [skipRecord schemaName r]⟩ with
            ⟨oids, skips, u, hu, hall⟩ |
            ⟨before, last, after, oids, skips, e, u, hu, rfl, hbefore, hlast, hstop⟩
          · exact Or.inl ⟨_, _, u, addAll_cons_of_ok hskip hu, .skipped hadd he hall⟩
          · exact Or.inr ⟨add :: before, last, after, _, _, e, u,
              addAll_cons_of_rest_error hskip hu, rfl, .skipped hadd he hbefore, hlast, hstop⟩
        | _ => exact he.elim
      · exact Or.inr ⟨[], add, adds, [], [], e, s, addAll_cons_of_error hadd he, rfl, .nil,
          hadd, he⟩

theorem addAll_eq_ok_iff (hadds : ∀ add ∈ adds, Harmless add) :
    addAll policy schemaName adds s = .ok oids t ↔
      ∃ skips, Adds policy schemaName adds s oids skips t := by
  constructor
  · intro h
    rcases addAll_cases policy schemaName hadds s with
      ⟨oids', skips, t', ht, hall⟩ | ⟨_, _, _, _, _, _, _, ht, _⟩
    · rw [ht, EStateM.Result.ok.injEq] at h
      obtain ⟨rfl, rfl⟩ := h
      exact ⟨skips, hall⟩
    · rw [ht] at h
      cases h
  · rintro ⟨skips, h⟩
    exact addAll_of_adds h

theorem addAll_eq_error_iff {e : Failure} (hadds : ∀ add ∈ adds, Harmless add) :
    addAll policy schemaName adds s = .error e t ↔
      ∃ before add after oids skips, adds = before ++ add :: after ∧
        Adds policy schemaName before s oids skips t ∧ add t = .error e t ∧
        ¬ Forgiven policy e := by
  constructor
  · intro h
    rcases addAll_cases policy schemaName hadds s with
      ⟨_, _, _, ht, _⟩ | ⟨before, add, after, oids, skips, e', t', ht, hsplit, hrest⟩
    · rw [ht] at h
      cases h
    · rw [ht, EStateM.Result.error.injEq] at h
      obtain ⟨rfl, rfl⟩ := h
      exact ⟨before, add, after, oids, skips, hsplit, hrest⟩
  · rintro ⟨before, add, after, oids, skips, rfl, hbefore, hadd, he⟩
    exact addAll_of_adds_of_error hbefore hadd he

namespace Adds

theorem append_iff {more : List (Action Text)} :
    Adds policy schemaName (adds ++ more) s oids skips u ↔
      ∃ first second before after t, oids = first ++ second ∧ skips = before ++ after ∧
        Adds policy schemaName adds s first before t ∧
        Adds policy schemaName more t second after u := by
  induction adds generalizing s oids skips with
  | nil =>
    constructor
    · intro h
      exact ⟨[], oids, [], skips, s, rfl, rfl, .nil, h⟩
    · rintro ⟨first, second, before, after, t, rfl, rfl, hnil, h⟩
      cases hnil
      exact h
  | cons add adds ih =>
    constructor
    · intro h
      cases h with
      | added done rest =>
        obtain ⟨first, second, before, after, t, rfl, rfl, hfirst, hsecond⟩ := ih.mp rest
        exact ⟨_, second, before, after, t, rfl, rfl, .added done hfirst, hsecond⟩
      | skipped failed forgiven rest =>
        obtain ⟨first, second, before, after, t, rfl, rfl, hfirst, hsecond⟩ := ih.mp rest
        exact ⟨first, second, _, after, t, rfl, rfl, .skipped failed forgiven hfirst, hsecond⟩
    · rintro ⟨first, second, before, after, t, rfl, rfl, hfirst, hsecond⟩
      cases hfirst with
      | added done rest => exact .added done (ih.mpr ⟨_, _, _, _, t, rfl, rfl, rest, hsecond⟩)
      | skipped failed forgiven rest =>
        exact .skipped failed forgiven (ih.mpr ⟨_, _, _, _, t, rfl, rfl, rest, hsecond⟩)

theorem length_add_length (h : Adds policy schemaName adds s oids skips t) :
    oids.length + skips.length = adds.length := by
  induction h with
  | nil => rfl
  | added _ _ ih =>
    simp only [List.length_cons]
    omega
  | skipped _ _ _ ih =>
    simp only [List.length_cons]
    omega

/-- A part of the manager that each addition extends by what it gives. -/
theorem gains {f : Manager → List Text}
    (hf : ∀ add ∈ adds, ∀ s oid t, add s = .ok oid t → f t.manager = f s.manager ++ [oid])
    (h : Adds policy schemaName adds s oids skips t) : f t.manager = f s.manager ++ oids := by
  induction h with
  | nil => simp
  | added done _ ih =>
    rw [List.forall_mem_cons] at hf
    rw [ih hf.2, hf.1 _ _ _ done, List.append_assoc, List.singleton_append]
  | skipped _ _ _ ih => exact ih (List.forall_mem_cons.mp hf).2

theorem keeps {β : Type} {f : Manager → β}
    (hf : ∀ add ∈ adds, ∀ s oid t, add s = .ok oid t → f t.manager = f s.manager)
    (h : Adds policy schemaName adds s oids skips t) : f t.manager = f s.manager := by
  induction h with
  | nil => rfl
  | added done _ ih =>
    rw [List.forall_mem_cons] at hf
    rw [ih hf.2, hf.1 _ _ _ done]
  | skipped _ _ _ ih => exact ih (List.forall_mem_cons.mp hf).2

theorem records
    (hf : ∀ add ∈ adds, ∀ s oid t, add s = .ok oid t →
      t.log.filter (!·.debug) = s.log.filter (!·.debug))
    (h : Adds policy schemaName adds s oids skips t) :
    t.log.filter (!·.debug) = s.log.filter (!·.debug) ++ skips := by
  induction h with
  | nil => simp
  | added done _ ih =>
    rw [List.forall_mem_cons] at hf
    rw [ih hf.2, hf.1 _ _ _ done]
  | skipped _ _ _ ih =>
    rw [ih (List.forall_mem_cons.mp hf).2]
    simp [skipRecord]

/-- Where nothing may be passed over, every addition is made, and the policy makes no
difference. -/
theorem of_fail (h : Adds .fail schemaName adds s oids skips t) :
    skips = [] ∧ ∀ policy, Adds policy schemaName adds s oids [] t := by
  induction h with
  | nil => exact ⟨rfl, fun _ => .nil⟩
  | added done _ ih => exact ⟨ih.1, fun policy => .added done (ih.2 policy)⟩
  | skipped _ forgiven _ _ => cases forgiven.1

end Adds

end

end Action

end DirectorySchema
