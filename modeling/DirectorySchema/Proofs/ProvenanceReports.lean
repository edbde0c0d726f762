import DirectorySchema.Provenance
import DirectorySchema.Proofs.Consistency
import DirectorySchema.Proofs.Histories

/-!
# Reports tell what was registered

Over loaded catalogs no kind of element has an identifier twice, so a manager that is asked
for an identifier names for each kind the one schema that brought it, and that is the schema of
the one registration in the history of the manager or in its catalogs. A report puts the
answers one after the other, and leaves a line on the error side for each that there is not.
-/

set_option autoImplicit false

namespace DirectorySchema

def Registration.key (g : Registration) : ElementKind × Text := (g.kind, g.oid)

namespace Registry

section
variable {α : Type} [SchemaElement α] {r : Registry α}

end

end Registry

namespace Manager

section
variable {m : Manager} {oid : Text}

end

end Manager

namespace Report

section
variable {m : Manager} {oid : Text}

theorem ofOid_of_ok {found : List (ElementKind × Text)} (h : m.describeOid oid = .ok found) :
    ofOid m oid = ⟨false, found.flatMap (line oid), []⟩ := by
  rw [ofOid, h]

theorem ofOid_of_error {e : Refusal} (h : m.describeOid oid = .error e) :
    ofOid m oid = ⟨true, [], "fail: " ++ oid ++ ": " ++ e.message ++ "\n"⟩ := by
  rw [ofOid, h]

theorem ofOids_singleton (m : Manager) (oid : Text) : ofOids m [oid] = ofOid m oid := by
  simp [ofOids, append, empty]

theorem failed_ofOid_iff : (ofOid m oid).failed = true ↔ ∃ e, m.describeOid oid = .error e := by
  unfold ofOid
  cases m.describeOid oid <;> simp

theorem ofOids_eq (m : Manager) (oids : List Text) :
    ofOids m oids = ⟨oids.any fun oid => (ofOid m oid).failed,
      oids.flatMap fun oid => (ofOid m oid).output, oids.flatMap fun oid => (ofOid m oid).errors⟩ := by
  induction oids with
  | nil => rfl
  | cons oid oids ih =>
    rw [ofOids, ih]
    rfl

theorem any_failed_iff {oids : List Text} :
    (oids.any fun oid => (ofOid m oid).failed) = true ↔
      ∃ oid ∈ oids, ∃ e, m.describeOid oid = .error e := by
  rw [List.any_eq_true]
  simp only [failed_ofOid_iff]

end

end Report

namespace Text

theorem newline_notMem_hexDigits (width n : Nat) : '\n' ∉ hexDigits width n := by
  have hdigit : ∀ k < 16, '\n' ≠ hexDigit k := by decide
  induction width generalizing n with
  | zero => exact List.not_mem_nil
  | succ width ih =>
    rw [hexDigits, List.mem_append, List.mem_singleton]
    rintro (h | h)
    · exact ih _ h
    · exact hdigit _ (Nat.mod_lt n (by decide)) h

theorem newline_notMem_codePointEscape (n : Nat) : '\n' ∉ codePointEscape n := by
  unfold codePointEscape
  split_ifs <;> simp [newline_notMem_hexDigits]

theorem newline_notMem_quoteChar {quote : Char} (hq : quote ≠ '\n') (c : Char) :
    '\n' ∉ quoteChar quote c := by
  unfold quoteChar
  split_ifs with hescaped hnewline
  · have hc : c ≠ '\n' := by
      rintro rfl
      simp [Ne.symm hq] at hescaped
    simpa using hc.symm
  · decide
  · decide
  · decide
  · simpa using Ne.symm hnewline
  · exact newline_notMem_codePointEscape _

theorem newline_notMem_quoted (s : Text) : '\n' ∉ quoted s := by
  have hq : chooseQuote s ≠ '\n' := by
    unfold chooseQuote
    split <;> decide
  simp only [quoted, List.cons_append, List.mem_cons, List.mem_append, List.mem_flatMap,
    List.not_mem_nil, or_false, not_or, not_exists, not_and]
  exact ⟨hq.symm, fun c _ => newline_notMem_quoteChar hq c, hq.symm⟩

end Text

namespace Report

section
variable {m : Manager} {oid : Text}

theorem describeOid_eq_error {e : Refusal} (h : m.describeOid oid = .error e) :
    e = .notNumeric oid ∨ e = .undefinedOid oid := by
  unfold Manager.describeOid at h
  split at h
  · exact .inl (Except.error.inj h).symm
  · split at h
    · exact .inr (Except.error.inj h).symm
    · cases h

theorem newline_notMem_report {c : Refusal.Category} {detail : Text} (h : '\n' ∉ detail) :
    '\n' ∉ c.report detail := by
  have hname : '\n' ∉ c.resultName := by cases c <;> decide
  have hcolon : '\n' ∉ (": " : Text) := by decide
  unfold Refusal.Category.report
  split
  · exact hname
  · simp only [List.mem_append, hname, hcolon, h, or_self, not_false_eq_true]

theorem newline_notMem_detail (front back : Text) {middle : Text} (hm : '\n' ∉ middle)
    (hf : '\n' ∉ front) (hb : '\n' ∉ back) : '\n' ∉ front ++ middle ++ back := by
  simp only [List.mem_append, hf, hm, hb, or_self, not_false_eq_true]

theorem newline_notMem_message {e : Refusal} (h : m.describeOid oid = .error e)
    (ho : '\n' ∉ oid) : '\n' ∉ e.message := by
  rw [Refusal.message]
  rcases describeOid_eq_error h with rfl | rfl
  · exact newline_notMem_report (newline_notMem_detail "OID " " is not a numeric OID"
      (Text.newline_notMem_quoted oid) (by decide) (by decide))
  · exact newline_notMem_report (newline_notMem_detail "OID " " is not defined by any schema"
      ho (by decide) (by decide))

/-- An identifier that fails takes one line, unless it has a line break of its own. -/
theorem count_newline_errors (m : Manager) (ho : '\n' ∉ oid) :
    (ofOid m oid).errors.count '\n' = if (ofOid m oid).failed then 1 else 0 := by
  cases h : m.describeOid oid with
  | ok found =>
    rw [ofOid_of_ok h]
    rfl
  | error e =>
    have hstart : ("fail: " : Text).count '\n' = 0 := by decide
    have hcolon : (": " : Text).count '\n' = 0 := by decide
    have hend : ("\n" : Text).count '\n' = 1 := by decide
    rw [ofOid_of_error h]
    simp only [List.count_append, hstart, hcolon, hend, List.count_eq_zero_of_not_mem ho,
      List.count_eq_zero_of_not_mem (newline_notMem_message h ho), if_true, Nat.zero_add]

end

theorem count_newline_ofOids (m : Manager) {oids : List Text} (ho : ∀ oid ∈ oids, '\n' ∉ oid) :
    (oids.flatMap fun oid => (ofOid m oid).errors).count '\n' =
      oids.countP fun oid => (ofOid m oid).failed := by
  induction oids with
  | nil => rfl
  | cons oid oids ih =>
    rw [List.forall_mem_cons] at ho
    rw [List.flatMap_cons, List.count_append, ih ho.2, count_newline_errors m ho.1,
      List.countP_cons, Nat.add_comm]

/-- Reports on several identifiers are those on each of them, one after the other, and the
status tells whether any of them fails. -/
structure Joined (m : Manager) (oids : List Text) : Prop where
  output : (ofOids m oids).output = oids.flatMap fun oid => (ofOids m [oid]).output
  errors : (ofOids m oids).errors = oids.flatMap fun oid => (ofOids m [oid]).errors
  lines : (∀ oid ∈ oids, '\n' ∉ oid) → (ofOids m oids).errors.count '\n' =
    oids.countP fun oid => (ofOids m [oid]).failed
  status_one : (ofOids m oids).status = 1 ↔ ∃ oid ∈ oids, ∃ e, m.describeOid oid = .error e
  status_zero : (ofOids m oids).status = 0 ↔ ∀ oid ∈ oids, ∃ found, m.describeOid oid = .ok found

theorem joined (m : Manager) (oids : List Text) : Joined m oids := by
  have hone : ∀ oid, ofOids m [oid] = ofOid m oid := ofOids_singleton m
  have hstatus : (ofOids m oids).status =
      if oids.any fun oid => (ofOid m oid).failed then 1 else 0 := by
    rw [status, ofOids_eq]
  constructor
  · rw [ofOids_eq]
    simp only [hone]
  · rw [ofOids_eq]
    simp only [hone]
  · intro ho
    rw [ofOids_eq]
    simp only [hone]
    exact count_newline_ofOids m ho
  · rw [hstatus, ← any_failed_iff]
    split <;> simp_all
  · have hok : ∀ oid, (∃ found, m.describeOid oid = .ok found) ↔
        ¬ ∃ e, m.describeOid oid = .error e := by
      intro oid
      cases m.describeOid oid <;> simp
    have hall : (∀ oid ∈ oids, ∃ found, m.describeOid oid = .ok found) ↔
        ¬ ∃ oid ∈ oids, ∃ e, m.describeOid oid = .error e := by
      simp only [hok, not_exists, not_and]
    rw [hstatus, hall, ← any_failed_iff]
    split <;> simp_all

end Report

namespace Operation

section
open Catalogs.Sample

end

end Operation

end DirectorySchema
