import IntegraIntake.Isolation.Reads

/-!
# Isolation of the enqueue service

A call looks its record up under its own tenant, and answers from a job that it
finds under the same tenant.  Only the insert of a job is checked against the
rows of other tenants, by the primary key and the unique trace, and both values
are new ones.
-/

namespace IntegraIntake

open Library JobRepository

variable {own : OwnIds} {tenantId : Uuid}

/-- A uniqueness check that no row of another tenant can fail. -/
theorem any_filter_tenant {Row : Type} {rows : List Row} {tenantOf : Row → Uuid}
    {p : Row → Bool} (hp : ∀ row ∈ rows, tenantOf row ≠ tenantId → p row = false) :
    (rows.filter fun row => decide (tenantOf row = tenantId)).any p = rows.any p := by
  rw [Bool.eq_iff_iff, List.any_eq_true, List.any_eq_true]
  constructor
  · rintro ⟨row, hrow, hholds⟩
    exact ⟨row, List.mem_of_mem_filter hrow, hholds⟩
  · rintro ⟨row, hrow, hholds⟩
    have htenant : tenantOf row = tenantId := by
      by_contra hne
      rw [hp row hrow hne] at hholds
      cases hholds
    exact ⟨row, List.mem_filter.2 ⟨hrow, decide_eq_true htenant⟩, hholds⟩

/-- A new job is checked against its own tenant only. -/
theorem Separated.violates {db : Db} (h : Separated own tenantId db) {new : NewJob}
    (htenant : new.tenantId = tenantId) (hid : new.id ∈ own.jobs)
    (htrace : new.traceId ∈ own.traces) :
    new.violates (db.ofTenant tenantId) = new.violates db := by
  have hjobs : ((db.ofTenant tenantId).jobs.any fun job =>
        job.id = new.id ∨ job.traceId = new.traceId) =
      db.jobs.any fun job => job.id = new.id ∨ job.traceId = new.traceId := by
    refine any_filter_tenant fun job hjob hne => ?_
    obtain ⟨hforeignId, hforeignTrace⟩ := h.jobs_foreign job hjob hne
    rw [decide_eq_false_iff_not]
    rintro (heq | heq)
    · exact hforeignId (heq ▸ hid)
    · exact hforeignTrace (heq ▸ htrace)
  have hrecords : ((db.ofTenant tenantId).idempotency.any fun record =>
        record.tenantId = new.tenantId ∧ (record.key = new.key ∨ record.jobId = some new.id)) =
      db.idempotency.any fun record =>
        record.tenantId = new.tenantId ∧ (record.key = new.key ∨ record.jobId = some new.id) := by
    refine any_filter_tenant fun record _ hne => ?_
    rw [decide_eq_false_iff_not]
    exact fun heq => hne (heq.1.trans htenant)
  unfold NewJob.violates
  rw [hjobs, hrecords]

namespace IntakeEnqueueService

variable {resources : IntakeResources}

end IntakeEnqueueService
end IntegraIntake
