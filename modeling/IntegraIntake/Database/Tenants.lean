import IntegraIntake.Database.Schema
import IntegraIntake.Library.Isolation

/-!
# The rows of a tenant

Every table has a tenant column.  The database of one tenant and the one of all
the others are the two views in which the operations of a tenant are isolated:
a select with a tenant predicate gives the same in both, and a write of a
tenant's row stays in its own view as long as no row of another tenant has the
same primary key.
-/

namespace IntegraIntake

open Library

/-! ## The two views -/

/-- The rows whose tenant is kept. -/
def Db.rowsOf (keep : Uuid → Bool) (db : Db) : Db where
  jobs := db.jobs.filter fun row => keep row.tenantId
  idempotency := db.idempotency.filter fun row => keep row.tenantId
  approvals := db.approvals.filter fun row => keep row.tenantId
  approvalEvents := db.approvalEvents.filter fun row => keep row.tenantId
  customers := db.customers.filter fun row => keep row.tenantId
  cases := db.cases.filter fun row => keep row.tenantId
  caseEvents := db.caseEvents.filter fun row => keep row.tenantId
  artifacts := db.artifacts.filter fun row => keep row.tenantId

/-- The rows of a tenant. -/
def Db.ofTenant (tenantId : Uuid) (db : Db) : Db :=
  db.rowsOf fun rowTenant => decide (rowTenant = tenantId)

/-- The rows of all other tenants. -/
def Db.ofOthers (tenantId : Uuid) (db : Db) : Db :=
  db.rowsOf fun rowTenant => decide (rowTenant ≠ tenantId)

/-! ## Selects -/

section Reads

variable {db : Db} {tenantId : Uuid}

end Reads

/-! ## Identifiers -/

/-- The identifiers that belong to a tenant: those of its rows, and those that
are going to be given to new ones. -/
structure OwnIds where
  jobs : Set Uuid
  traces : Set Uuid
  approvals : Set Uuid
  cases : Set Uuid
  artifacts : Set Uuid

/-- A tenant's rows have its own identifiers, and no row of another tenant has
one, or refers to one of its jobs. -/
structure Separated (own : OwnIds) (tenantId : Uuid) (db : Db) : Prop where
  jobs_own : ∀ job ∈ db.jobs, job.tenantId = tenantId → job.id ∈ own.jobs
  jobs_foreign : ∀ job ∈ db.jobs, job.tenantId ≠ tenantId →
    job.id ∉ own.jobs ∧ job.traceId ∉ own.traces
  approvals_own : ∀ approval ∈ db.approvals, approval.tenantId = tenantId →
    approval.id ∈ own.approvals
  approvals_foreign : ∀ approval ∈ db.approvals, approval.tenantId ≠ tenantId →
    approval.id ∉ own.approvals ∧ ∀ jobId ∈ own.jobs, approval.jobId ≠ some jobId
  cases_own : ∀ case ∈ db.cases, case.tenantId = tenantId → case.id ∈ own.cases
  cases_foreign : ∀ case ∈ db.cases, case.tenantId ≠ tenantId → case.id ∉ own.cases
  artifacts_foreign : ∀ artifact ∈ db.artifacts, artifact.tenantId ≠ tenantId →
    artifact.id ∉ own.artifacts

/-- A program that works for a tenant only. -/
abbrev TenantIsolated {ε α : Type} (own : OwnIds) (tenantId : Uuid) (program : Session Db ε α) :
    Prop :=
  Session.Isolated (Separated own tenantId) (Db.ofTenant tenantId) (Db.ofOthers tenantId) program

/-- An update of a tenant's rows. -/
abbrev TenantUpdate (own : OwnIds) (tenantId : Uuid) (update : Db → Db) : Prop :=
  Session.IsolatedUpdate (Separated own tenantId) (Db.ofTenant tenantId) (Db.ofOthers tenantId)
    update

/-! ## Writes -/

section Writes

variable {own : OwnIds} {tenantId : Uuid}

/-- Overwriting a row that no other tenant's row shares its key with. -/
theorem filter_replace_tenant {Row Key : Type} [DecidableEq Key] {rows : List Row}
    {key : Row → Key} {tenantOf : Row → Uuid} {row : Row} (htenant : tenantOf row = tenantId)
    (hforeign : ∀ old ∈ rows, tenantOf old ≠ tenantId → key old ≠ key row) :
    ((Table.replace key row rows).filter fun other => decide (tenantOf other = tenantId)) =
        Table.replace key row (rows.filter fun other => decide (tenantOf other = tenantId)) ∧
      ((Table.replace key row rows).filter fun other => decide (tenantOf other ≠ tenantId)) =
        rows.filter fun other => decide (tenantOf other ≠ tenantId) := by
  have hkept : ∀ old ∈ rows, tenantOf (if key old = key row then row else old) = tenantOf old := by
    intro old hold
    split
    · rename_i hkey
      by_contra hne
      exact hforeign old hold (fun heq => hne (htenant.trans heq.symm)) hkey
    · rfl
  constructor
  · rw [Table.replace, Table.replace, List.filter_map]
    congr 1
    refine List.filter_congr fun old hold => ?_
    simp only [Function.comp_apply, hkept old hold]
  · rw [Table.replace, List.filter_map]
    have hsame : (rows.filter ((fun other => decide (tenantOf other ≠ tenantId)) ∘
        fun old => if key old = key row then row else old)) =
        rows.filter fun other => decide (tenantOf other ≠ tenantId) := by
      refine List.filter_congr fun old hold => ?_
      simp only [Function.comp_apply, hkept old hold]
    rw [hsame]
    conv_rhs => rw [← List.map_id (rows.filter _)]
    refine List.map_congr_left fun old hold => ?_
    obtain ⟨hmem, hne⟩ := List.mem_filter.1 hold
    exact if_neg (hforeign old hmem (of_decide_eq_true hne))

theorem filter_append_own {Row : Type} (rows : List Row) {tenantOf : Row → Uuid} {row : Row}
    (htenant : tenantOf row = tenantId) :
    ((rows ++ [row]).filter fun other => decide (tenantOf other = tenantId)) =
        (rows.filter fun other => decide (tenantOf other = tenantId)) ++ [row] ∧
      ((rows ++ [row]).filter fun other => decide (tenantOf other ≠ tenantId)) =
        rows.filter fun other => decide (tenantOf other ≠ tenantId) := by
  simp [List.filter_append, htenant]

section Rows

variable {Row Key : Type} [DecidableEq Key] {rows : List Row} {key : Row → Key}
  {tenantOf : Row → Uuid} {row : Row} {P : Row → Prop}

theorem forall_own_replace (h : ∀ old ∈ rows, tenantOf old = tenantId → P old) (hrow : P row) :
    ∀ old ∈ Table.replace key row rows, tenantOf old = tenantId → P old := by
  intro old hmem
  rcases Table.mem_of_mem_replace hmem with rfl | ⟨hold, -⟩
  · exact fun _ => hrow
  · exact h old hold

theorem forall_foreign_replace (htenant : tenantOf row = tenantId)
    (h : ∀ old ∈ rows, tenantOf old ≠ tenantId → P old) :
    ∀ old ∈ Table.replace key row rows, tenantOf old ≠ tenantId → P old := by
  intro old hmem
  rcases Table.mem_of_mem_replace hmem with rfl | ⟨hold, -⟩
  · exact fun hne => absurd htenant hne
  · exact h old hold

theorem forall_own_append (h : ∀ old ∈ rows, tenantOf old = tenantId → P old) (hrow : P row) :
    ∀ old ∈ rows ++ [row], tenantOf old = tenantId → P old :=
  List.forall_mem_append.2 ⟨h, List.forall_mem_singleton.2 fun _ => hrow⟩

theorem forall_foreign_append (htenant : tenantOf row = tenantId)
    (h : ∀ old ∈ rows, tenantOf old ≠ tenantId → P old) :
    ∀ old ∈ rows ++ [row], tenantOf old ≠ tenantId → P old :=
  List.forall_mem_append.2 ⟨h, List.forall_mem_singleton.2 fun hne => absurd htenant hne⟩

end Rows

variable {db : Db}

/-- No row of another tenant is the job that is overwritten. -/
theorem Separated.setJob (h : Separated own tenantId db) {row : AgentJob}
    (htenant : row.tenantId = tenantId) (hid : row.id ∈ own.jobs) :
    (db.setJob row).ofTenant tenantId = (db.ofTenant tenantId).setJob row ∧
      (db.setJob row).ofOthers tenantId = db.ofOthers tenantId := by
  have hforeign : ∀ old ∈ db.jobs, old.tenantId ≠ tenantId → old.id ≠ row.id :=
    fun old hold hne heq => (h.jobs_foreign old hold hne).1 (heq ▸ hid)
  obtain ⟨hown, hothers⟩ := filter_replace_tenant htenant hforeign
  simp only [Db.ofTenant, Db.ofOthers, Db.rowsOf, Db.setJob, hown, hothers, and_self]

theorem Separated.setApproval (h : Separated own tenantId db) {row : Approval}
    (htenant : row.tenantId = tenantId) (hid : row.id ∈ own.approvals) :
    (db.setApproval row).ofTenant tenantId = (db.ofTenant tenantId).setApproval row ∧
      (db.setApproval row).ofOthers tenantId = db.ofOthers tenantId := by
  have hforeign : ∀ old ∈ db.approvals, old.tenantId ≠ tenantId → old.id ≠ row.id :=
    fun old hold hne heq => (h.approvals_foreign old hold hne).1 (heq ▸ hid)
  obtain ⟨hown, hothers⟩ := filter_replace_tenant htenant hforeign
  simp only [Db.ofTenant, Db.ofOthers, Db.rowsOf, Db.setApproval, hown, hothers, and_self]

theorem Separated.setCase (h : Separated own tenantId db) {row : IntakeCase}
    (htenant : row.tenantId = tenantId) (hid : row.id ∈ own.cases) :
    (db.setCase row).ofTenant tenantId = (db.ofTenant tenantId).setCase row ∧
      (db.setCase row).ofOthers tenantId = db.ofOthers tenantId := by
  have hforeign : ∀ old ∈ db.cases, old.tenantId ≠ tenantId → old.id ≠ row.id :=
    fun old hold hne heq => h.cases_foreign old hold hne (heq ▸ hid)
  obtain ⟨hown, hothers⟩ := filter_replace_tenant htenant hforeign
  simp only [Db.ofTenant, Db.ofOthers, Db.rowsOf, Db.setCase, hown, hothers, and_self]

/-- An update that does the same to the view of the tenant, and nothing to that of the
others. -/
theorem TenantUpdate.of_views {update : Db → Db}
    (hkept : ∀ db, Separated own tenantId db → Separated own tenantId (update db))
    (hviews : ∀ db, Separated own tenantId db →
      (update db).ofTenant tenantId = update (db.ofTenant tenantId) ∧
        (update db).ofOthers tenantId = db.ofOthers tenantId) :
    TenantUpdate own tenantId update := by
  refine ⟨fun db h => ⟨hkept db h, (hviews db h).2⟩, fun db other h hother hown => ?_⟩
  rw [(hviews db h).1, (hviews other hother).1, hown]

theorem TenantUpdate.setJob {row : AgentJob} (htenant : row.tenantId = tenantId)
    (hid : row.id ∈ own.jobs) : TenantUpdate own tenantId (·.setJob row) :=
  .of_views (fun _ h => { h with
    jobs_own := forall_own_replace h.jobs_own hid
    jobs_foreign := forall_foreign_replace htenant h.jobs_foreign })
    fun _ h => h.setJob htenant hid

theorem TenantUpdate.setApproval {row : Approval} (htenant : row.tenantId = tenantId)
    (hid : row.id ∈ own.approvals) : TenantUpdate own tenantId (·.setApproval row) :=
  .of_views (fun _ h => { h with
    approvals_own := forall_own_replace h.approvals_own hid
    approvals_foreign := forall_foreign_replace htenant h.approvals_foreign })
    fun _ h => h.setApproval htenant hid

theorem TenantUpdate.setCase {row : IntakeCase} (htenant : row.tenantId = tenantId)
    (hid : row.id ∈ own.cases) : TenantUpdate own tenantId (·.setCase row) :=
  .of_views (fun _ h => { h with
    cases_own := forall_own_replace h.cases_own hid
    cases_foreign := forall_foreign_replace htenant h.cases_foreign })
    fun _ h => h.setCase htenant hid

/-- The key of a record names its tenant, so that no other tenant's record has it. -/
theorem TenantUpdate.setIdempotency {row : IdempotencyRecord} (htenant : row.tenantId = tenantId) :
    TenantUpdate own tenantId (·.setIdempotency row) := by
  refine .of_views (fun _ h => { h with }) fun db _ => ?_
  have hforeign : ∀ old ∈ db.idempotency, old.tenantId ≠ tenantId →
      (old.tenantId, old.key) ≠ (row.tenantId, row.key) :=
    fun old _ hne heq => hne ((congrArg Prod.fst heq).trans htenant)
  obtain ⟨hown, hothers⟩ := filter_replace_tenant htenant hforeign
  simp only [Db.ofTenant, Db.ofOthers, Db.rowsOf, Db.setIdempotency, hown, hothers, and_self]

theorem TenantUpdate.addApproval {row : Approval} (htenant : row.tenantId = tenantId)
    (hid : row.id ∈ own.approvals) : TenantUpdate own tenantId (·.addApproval row) := by
  refine .of_views (fun _ h => { h with
    approvals_own := forall_own_append h.approvals_own hid
    approvals_foreign := forall_foreign_append htenant h.approvals_foreign }) fun db _ => ?_
  obtain ⟨hown, hothers⟩ := filter_append_own db.approvals htenant
  simp only [Db.ofTenant, Db.ofOthers, Db.rowsOf, Db.addApproval, hown, hothers, and_self]

theorem TenantUpdate.addCase {row : IntakeCase} (htenant : row.tenantId = tenantId)
    (hid : row.id ∈ own.cases) : TenantUpdate own tenantId (·.addCase row) := by
  refine .of_views (fun _ h => { h with
    cases_own := forall_own_append h.cases_own hid
    cases_foreign := forall_foreign_append htenant h.cases_foreign }) fun db _ => ?_
  obtain ⟨hown, hothers⟩ := filter_append_own db.cases htenant
  simp only [Db.ofTenant, Db.ofOthers, Db.rowsOf, Db.addCase, hown, hothers, and_self]

theorem TenantUpdate.addArtifact {row : JobArtifact} (htenant : row.tenantId = tenantId) :
    TenantUpdate own tenantId (·.addArtifact row) := by
  refine .of_views (fun _ h => { h with
    artifacts_foreign := forall_foreign_append htenant h.artifacts_foreign }) fun db _ => ?_
  obtain ⟨hown, hothers⟩ := filter_append_own db.artifacts htenant
  simp only [Db.ofTenant, Db.ofOthers, Db.rowsOf, Db.addArtifact, hown, hothers, and_self]

theorem TenantUpdate.addApprovalEvent {row : ApprovalEvent} (htenant : row.tenantId = tenantId) :
    TenantUpdate own tenantId (·.addApprovalEvent row) := by
  refine .of_views (fun _ h => { h with }) fun db _ => ?_
  obtain ⟨hown, hothers⟩ := filter_append_own db.approvalEvents htenant
  simp only [Db.ofTenant, Db.ofOthers, Db.rowsOf, Db.addApprovalEvent, hown, hothers, and_self]

theorem TenantUpdate.addCaseEvent {row : CaseEvent} (htenant : row.tenantId = tenantId) :
    TenantUpdate own tenantId (·.addCaseEvent row) := by
  refine .of_views (fun _ h => { h with }) fun db _ => ?_
  obtain ⟨hown, hothers⟩ := filter_append_own db.caseEvents htenant
  simp only [Db.ofTenant, Db.ofOthers, Db.rowsOf, Db.addCaseEvent, hown, hothers, and_self]

end Writes
end IntegraIntake
