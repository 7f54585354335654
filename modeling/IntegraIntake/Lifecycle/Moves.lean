import Mathlib.Logic.Relation
import IntegraIntake.Database.Schema

/-!
# The life of a job and its approval

A job and its approval move together.  This file says once which changes of the
two tables are legal: a `Move` adds a queued job, or changes one live job and at
most the one approval that belongs to it.  `Lifecycle` is the invariant the
moves keep, and `Evolves` what a row may become along them.  The operations of
the repositories are shown to be sequences of moves elsewhere.
-/

namespace IntegraIntake

open Library

/-! ## The invariant -/

/-- The job statuses that an approval status goes with. -/
def Coupled : ApprovalStatus → JobStatus → Prop
  | .staged, status => status = .queued ∨ status = .running
  | .pending, status => status = .awaitingApproval
  | .approved, status => status = .succeeded
  | .rejected, status => status = .succeeded
  | .expired, status => status = .failed
  | .cancelled, status => status.isTerminal = true

/-- A lease belongs to a running job, a finish time to a finished one. -/
structure JobOk (job : AgentJob) : Prop where
  lease : job.leaseExpiresAt.isSome ↔ job.status = .running
  finished : job.finishedAt.isSome ↔ job.status.isTerminal = true

/-- The row of an approval agrees with its status. -/
structure ApprovalOk (approval : Approval) : Prop where
  pending_action : approval.pendingAction.isSome
  config_sha256 : approval.tenantConfigSha256.isSome
  expires_at : approval.expiresAt.isSome
  executed : approval.executedAt.isSome ↔ approval.status = .approved
  in_time : approval.status = .approved ∨ approval.status = .rejected →
    ∃ decidedAt ∈ approval.decidedAt, ∃ deadline ∈ approval.expiresAt, decidedAt < deadline
  too_late : approval.status = .expired →
    ∃ decidedAt ∈ approval.decidedAt, ∃ deadline ∈ approval.expiresAt, deadline ≤ decidedAt

/-- The invariant of the two tables. -/
structure Lifecycle (db : Db) : Prop where
  jobs_unique : Table.Unique AgentJob.id db.jobs
  approvals_unique : Table.Unique Approval.id db.approvals
  one_approval : ∀ approval ∈ db.approvals, ∀ other ∈ db.approvals,
    approval.jobId = other.jobId → approval = other
  coupled : ∀ approval ∈ db.approvals, ∃ job ∈ db.jobs, approval.jobId = some job.id ∧
    approval.tenantId = job.tenantId ∧ Coupled approval.status job.status
  parked : ∀ job ∈ db.jobs, job.status = .awaitingApproval →
    ∃ approval ∈ db.approvals, approval.jobId = some job.id
  job_ok : ∀ job ∈ db.jobs, JobOk job
  approval_ok : ∀ approval ∈ db.approvals, ApprovalOk approval

/-- The approval of a job is coupled with that job. -/
theorem Lifecycle.coupled_of_job {db : Db} (h : Lifecycle db) {approval : Approval}
    {job : AgentJob} (happroval : approval ∈ db.approvals) (hjob : job ∈ db.jobs)
    (hid : approval.jobId = some job.id) :
    approval.tenantId = job.tenantId ∧ Coupled approval.status job.status := by
  obtain ⟨owner, howner, hjobId, htenant, hcoupled⟩ := h.coupled approval happroval
  have hsame : owner = job :=
    h.jobs_unique.eq howner hjob (Option.some.inj (hjobId.symm.trans hid))
  exact hsame ▸ ⟨htenant, hcoupled⟩

/-! ## Moves -/

/-- A live job changes into another row of the same job. -/
structure JobMove (job next : AgentJob) : Prop where
  live : job.status.isTerminal = false
  id_eq : next.id = job.id
  tenant_eq : next.tenantId = job.tenantId
  snapshot_eq : next.tenantConfigSnapshot = job.tenantConfigSnapshot
  sha256_eq : next.tenantConfigSha256 = job.tenantConfigSha256

/-- A staged approval changes freely, a pending one only into a decided one. -/
structure ApprovalMove (approval next : Approval) : Prop where
  open_ : approval.status = .staged ∨
    (approval.status = .pending ∧ next.status.isFinal = true)
  id_eq : next.id = approval.id
  job_eq : next.jobId = approval.jobId
  tenant_eq : next.tenantId = approval.tenantId

/-- What may happen to the approvals while `job` becomes `next`. -/
inductive ApprovalUpdate (db : Db) (job next : AgentJob) : List Approval → Prop
  | keep : (∀ approval ∈ db.approvals, approval.jobId = some job.id →
        Coupled approval.status next.status) →
      next.status ≠ .awaitingApproval → ApprovalUpdate db job next db.approvals
  | set {approval changed : Approval} : approval ∈ db.approvals →
      approval.jobId = some job.id → ApprovalMove approval changed → ApprovalOk changed →
      Coupled changed.status next.status →
      ApprovalUpdate db job next (Table.replace Approval.id changed db.approvals)
  | add {added : Approval} : (∀ approval ∈ db.approvals, approval.id ≠ added.id) →
      (∀ approval ∈ db.approvals, approval.jobId ≠ some job.id) →
      added.jobId = some job.id → added.tenantId = job.tenantId → ApprovalOk added →
      Coupled added.status next.status → ApprovalUpdate db job next (db.approvals ++ [added])

/-- One legal change of the two tables. -/
inductive Move (db next : Db) : Prop
  | insert {job : AgentJob} : job.status = .queued → JobOk job →
      (∀ old ∈ db.jobs, old.id ≠ job.id) → next.jobs = db.jobs ++ [job] →
      next.approvals = db.approvals → Move db next
  | update {job changed : AgentJob} : job ∈ db.jobs → JobMove job changed → JobOk changed →
      next.jobs = Table.replace AgentJob.id changed db.jobs →
      ApprovalUpdate db job changed next.approvals → Move db next

/-- Sequences of moves. -/
def Moves : Db → Db → Prop :=
  Relation.ReflTransGen Move

/-! ## Moves keep the invariant -/

section Update

variable {db next : Db} {job changed : AgentJob}

theorem mem_replaced_job (hjob : job ∈ db.jobs) (hid : changed.id = job.id) :
    changed ∈ Table.replace AgentJob.id changed db.jobs :=
  Table.mem_replace_self ⟨job, hjob, hid.symm⟩

/-- The approvals of other jobs keep their job when one job changes. -/
theorem Lifecycle.coupled_of_update (h : Lifecycle db) (hid : changed.id = job.id)
    {approval : Approval} (happroval : approval ∈ db.approvals)
    (hother : approval.jobId ≠ some job.id) :
    ∃ owner ∈ Table.replace AgentJob.id changed db.jobs, approval.jobId = some owner.id ∧
      approval.tenantId = owner.tenantId ∧ Coupled approval.status owner.status := by
  obtain ⟨owner, howner, hjobId, hrest⟩ := h.coupled approval happroval
  refine ⟨owner, Table.mem_replace_of_ne howner ?_, hjobId, hrest⟩
  rintro hsame
  exact hother (by rw [hjobId, hsame, hid])

/-- The parts of the invariant that do not look at the approvals' statuses. -/
theorem Lifecycle.job_ok_of_update (h : Lifecycle db) (hok : JobOk changed) :
    ∀ row ∈ Table.replace AgentJob.id changed db.jobs, JobOk row := by
  intro row hrow
  rcases Table.mem_of_mem_replace hrow with rfl | ⟨hmem, -⟩
  · exact hok
  · exact h.job_ok row hmem

theorem Lifecycle.update_keep (h : Lifecycle db) (hjob : job ∈ db.jobs)
    (hmove : JobMove job changed) (hok : JobOk changed)
    (hjobs : next.jobs = Table.replace AgentJob.id changed db.jobs)
    (happrovals : next.approvals = db.approvals)
    (hcoupled : ∀ approval ∈ db.approvals, approval.jobId = some job.id →
      Coupled approval.status changed.status)
    (hstatus : changed.status ≠ .awaitingApproval) : Lifecycle next := by
  refine ⟨?_, ?_, ?_, ?_, ?_, ?_, ?_⟩
  · rw [hjobs]
    exact h.jobs_unique.replace
  · rw [happrovals]
    exact h.approvals_unique
  · rw [happrovals]
    exact h.one_approval
  · rw [hjobs, happrovals]
    intro approval happroval
    by_cases hthis : approval.jobId = some job.id
    · refine ⟨changed, mem_replaced_job hjob hmove.id_eq, by rw [hthis, hmove.id_eq], ?_,
        hcoupled approval happroval hthis⟩
      rw [hmove.tenant_eq]
      exact (h.coupled_of_job happroval hjob hthis).1
    · exact h.coupled_of_update hmove.id_eq happroval hthis
  · rw [hjobs, happrovals]
    intro row hrow hawaiting
    rcases Table.mem_of_mem_replace hrow with rfl | ⟨hmem, -⟩
    · exact absurd hawaiting hstatus
    · exact h.parked row hmem hawaiting
  · rw [hjobs]
    exact h.job_ok_of_update hok
  · rw [happrovals]
    exact h.approval_ok

theorem Lifecycle.update_set (h : Lifecycle db) (hjob : job ∈ db.jobs)
    (hmove : JobMove job changed) (hok : JobOk changed)
    (hjobs : next.jobs = Table.replace AgentJob.id changed db.jobs)
    {approval updated : Approval} (hmem : approval ∈ db.approvals)
    (hthis : approval.jobId = some job.id) (hamove : ApprovalMove approval updated)
    (haok : ApprovalOk updated) (hcoupled : Coupled updated.status changed.status)
    (happrovals : next.approvals = Table.replace Approval.id updated db.approvals) :
    Lifecycle next := by
  -- every other approval belongs to another job
  have hother : ∀ row ∈ db.approvals, row.id ≠ updated.id → row.jobId ≠ some job.id := by
    intro row hrow hne hsame
    rw [h.one_approval row hrow approval hmem (hsame.trans hthis.symm)] at hne
    exact hne hamove.id_eq.symm
  have hjobId : updated.jobId = some changed.id := by
    rw [hamove.job_eq, hthis, hmove.id_eq]
  have htenant : updated.tenantId = changed.tenantId := by
    rw [hamove.tenant_eq, hmove.tenant_eq]
    exact (h.coupled_of_job hmem hjob hthis).1
  have hself : updated ∈ Table.replace Approval.id updated db.approvals :=
    Table.mem_replace_self ⟨approval, hmem, hamove.id_eq.symm⟩
  refine ⟨?_, ?_, ?_, ?_, ?_, ?_, ?_⟩
  · rw [hjobs]
    exact h.jobs_unique.replace
  · rw [happrovals]
    exact h.approvals_unique.replace
  · rw [happrovals]
    intro left hleft right hright hsame
    rcases Table.mem_of_mem_replace hleft with hleft | ⟨hleft, hleftne⟩ <;>
      rcases Table.mem_of_mem_replace hright with hright | ⟨hright, hrightne⟩
    · rw [hleft, hright]
    · refine absurd ?_ (hother right hright hrightne)
      rw [← hsame, hleft, hjobId, hmove.id_eq]
    · refine absurd ?_ (hother left hleft hleftne)
      rw [hsame, hright, hjobId, hmove.id_eq]
    · exact h.one_approval left hleft right hright hsame
  · rw [hjobs, happrovals]
    intro row hrow
    rcases Table.mem_of_mem_replace hrow with rfl | ⟨hrow, hne⟩
    · exact ⟨changed, mem_replaced_job hjob hmove.id_eq, hjobId, htenant, hcoupled⟩
    · exact h.coupled_of_update hmove.id_eq hrow (hother row hrow hne)
  · rw [hjobs, happrovals]
    intro row hrow hawaiting
    rcases Table.mem_of_mem_replace hrow with rfl | ⟨hrow, hne⟩
    · exact ⟨updated, hself, hjobId⟩
    · obtain ⟨found, hfound, hfoundId⟩ := h.parked row hrow hawaiting
      refine ⟨found, Table.mem_replace_of_ne hfound ?_, hfoundId⟩
      intro hsame
      rw [h.approvals_unique.eq hfound hmem (hsame.trans hamove.id_eq), hthis] at hfoundId
      exact hne (by rw [hmove.id_eq, Option.some.inj hfoundId])
  · rw [hjobs]
    exact h.job_ok_of_update hok
  · rw [happrovals]
    intro row hrow
    rcases Table.mem_of_mem_replace hrow with rfl | ⟨hrow, -⟩
    · exact haok
    · exact h.approval_ok row hrow

theorem Lifecycle.update_add (h : Lifecycle db) (hjob : job ∈ db.jobs)
    (hmove : JobMove job changed) (hok : JobOk changed)
    (hjobs : next.jobs = Table.replace AgentJob.id changed db.jobs)
    {added : Approval} (hfresh : ∀ approval ∈ db.approvals, approval.id ≠ added.id)
    (hfirst : ∀ approval ∈ db.approvals, approval.jobId ≠ some job.id)
    (hthis : added.jobId = some job.id) (htenant : added.tenantId = job.tenantId)
    (haok : ApprovalOk added) (hcoupled : Coupled added.status changed.status)
    (happrovals : next.approvals = db.approvals ++ [added]) : Lifecycle next := by
  have hjobId : added.jobId = some changed.id := by rw [hthis, hmove.id_eq]
  refine ⟨?_, ?_, ?_, ?_, ?_, ?_, ?_⟩
  · rw [hjobs]
    exact h.jobs_unique.replace
  · rw [happrovals]
    exact h.approvals_unique.append hfresh
  · rw [happrovals]
    intro left hleft right hright hsame
    simp only [List.mem_append, List.mem_singleton] at hleft hright
    rcases hleft with hleft | rfl <;> rcases hright with hright | rfl
    · exact h.one_approval left hleft right hright hsame
    · exact absurd (hsame.trans hthis) (hfirst left hleft)
    · exact absurd (hsame.symm.trans hthis) (hfirst right hright)
    · rfl
  · rw [hjobs, happrovals]
    intro row hrow
    simp only [List.mem_append, List.mem_singleton] at hrow
    rcases hrow with hrow | rfl
    · exact h.coupled_of_update hmove.id_eq hrow (hfirst row hrow)
    · exact ⟨changed, mem_replaced_job hjob hmove.id_eq, hjobId,
        htenant.trans hmove.tenant_eq.symm, hcoupled⟩
  · rw [hjobs, happrovals]
    intro row hrow hawaiting
    rcases Table.mem_of_mem_replace hrow with rfl | ⟨hrow, -⟩
    · exact ⟨added, by simp, hjobId⟩
    · obtain ⟨found, hfound, hfoundId⟩ := h.parked row hrow hawaiting
      exact ⟨found, List.mem_append_left _ hfound, hfoundId⟩
  · rw [hjobs]
    exact h.job_ok_of_update hok
  · rw [happrovals]
    intro row hrow
    simp only [List.mem_append, List.mem_singleton] at hrow
    rcases hrow with hrow | rfl
    · exact h.approval_ok row hrow
    · exact haok

theorem Lifecycle.insert (h : Lifecycle db) (hqueued : job.status = .queued) (hok : JobOk job)
    (hfresh : ∀ old ∈ db.jobs, old.id ≠ job.id) (hjobs : next.jobs = db.jobs ++ [job])
    (happrovals : next.approvals = db.approvals) : Lifecycle next := by
  refine ⟨?_, ?_, ?_, ?_, ?_, ?_, ?_⟩
  · rw [hjobs]
    exact h.jobs_unique.append hfresh
  · rw [happrovals]
    exact h.approvals_unique
  · rw [happrovals]
    exact h.one_approval
  · rw [hjobs, happrovals]
    intro approval happroval
    obtain ⟨owner, howner, hrest⟩ := h.coupled approval happroval
    exact ⟨owner, List.mem_append_left _ howner, hrest⟩
  · rw [hjobs, happrovals]
    intro row hrow hawaiting
    simp only [List.mem_append, List.mem_singleton] at hrow
    rcases hrow with hrow | rfl
    · exact h.parked row hrow hawaiting
    · rw [hqueued] at hawaiting
      cases hawaiting
  · rw [hjobs]
    intro row hrow
    simp only [List.mem_append, List.mem_singleton] at hrow
    rcases hrow with hrow | rfl
    · exact h.job_ok row hrow
    · exact hok
  · rw [happrovals]
    exact h.approval_ok

theorem Lifecycle.move (h : Lifecycle db) (hmove : Move db next) : Lifecycle next := by
  cases hmove with
  | insert hqueued hok hfresh hjobs happrovals => exact h.insert hqueued hok hfresh hjobs happrovals
  | update hjob hmove hok hjobs hupdate =>
      generalize happrovals : next.approvals = approvals at hupdate
      cases hupdate with
      | keep hcoupled hstatus =>
        exact h.update_keep hjob hmove hok hjobs happrovals hcoupled hstatus
      | set hmem hthis hamove haok hcoupled =>
          exact h.update_set hjob hmove hok hjobs hmem hthis hamove haok hcoupled happrovals
      | add hfresh hfirst hthis htenant haok hcoupled =>
          exact h.update_add hjob hmove hok hjobs hfresh hfirst hthis htenant haok hcoupled
            happrovals

theorem Lifecycle.moves (h : Lifecycle db) (hmoves : Moves db next) : Lifecycle next := by
  induction hmoves with
  | refl => exact h
  | tail _ hmove ih => exact ih.move hmove

end Update

/-! ## What a row may become -/

/-- A job along moves: a finished job stays as it is. -/
structure JobEvolves (job next : AgentJob) : Prop where
  id_eq : next.id = job.id
  tenant_eq : next.tenantId = job.tenantId
  snapshot_eq : next.tenantConfigSnapshot = job.tenantConfigSnapshot
  sha256_eq : next.tenantConfigSha256 = job.tenantConfigSha256
  absorbing : job.status.isTerminal = true → next = job

/-- An approval along moves: a decided or cancelled one stays as it is, and a
pending one stays as it is until it is decided. -/
structure ApprovalEvolves (approval next : Approval) : Prop where
  id_eq : next.id = approval.id
  job_eq : next.jobId = approval.jobId
  tenant_eq : next.tenantId = approval.tenantId
  closed : approval.status.isFinal = true ∨ approval.status = .cancelled → next = approval
  pending : approval.status = .pending → next = approval ∨ next.status.isFinal = true

/-- Every row of the first database has its successor in the second. -/
structure Evolves (db next : Db) : Prop where
  jobs : ∀ job ∈ db.jobs, ∃ row ∈ next.jobs, JobEvolves job row
  approvals : ∀ approval ∈ db.approvals, ∃ row ∈ next.approvals, ApprovalEvolves approval row

theorem JobEvolves.refl (job : AgentJob) : JobEvolves job job :=
  ⟨rfl, rfl, rfl, rfl, fun _ => rfl⟩

theorem ApprovalEvolves.refl (approval : Approval) : ApprovalEvolves approval approval :=
  ⟨rfl, rfl, rfl, fun _ => rfl, fun _ => .inl rfl⟩

theorem JobEvolves.trans {first second third : AgentJob} (h : JobEvolves first second)
    (h' : JobEvolves second third) : JobEvolves first third where
  id_eq := h'.id_eq.trans h.id_eq
  tenant_eq := h'.tenant_eq.trans h.tenant_eq
  snapshot_eq := h'.snapshot_eq.trans h.snapshot_eq
  sha256_eq := h'.sha256_eq.trans h.sha256_eq
  absorbing := by
    intro hterminal
    have hsecond := h.absorbing hterminal
    exact (h'.absorbing (hsecond ▸ hterminal)).trans hsecond

theorem ApprovalEvolves.trans {first second third : Approval} (h : ApprovalEvolves first second)
    (h' : ApprovalEvolves second third) : ApprovalEvolves first third where
  id_eq := h'.id_eq.trans h.id_eq
  job_eq := h'.job_eq.trans h.job_eq
  tenant_eq := h'.tenant_eq.trans h.tenant_eq
  closed := by
    intro hclosed
    have hsecond := h.closed hclosed
    exact (h'.closed (hsecond ▸ hclosed)).trans hsecond
  pending := by
    intro hpending
    rcases h.pending hpending with rfl | hfinal
    · exact h'.pending hpending
    · exact .inr ((h'.closed (.inl hfinal)) ▸ hfinal)

theorem Evolves.refl (db : Db) : Evolves db db :=
  ⟨fun job hjob => ⟨job, hjob, .refl job⟩, fun approval h => ⟨approval, h, .refl approval⟩⟩

theorem Evolves.trans {first second third : Db} (h : Evolves first second)
    (h' : Evolves second third) : Evolves first third := by
  constructor
  · intro job hjob
    obtain ⟨row, hrow, hevolves⟩ := h.jobs job hjob
    obtain ⟨last, hlast, hevolves'⟩ := h'.jobs row hrow
    exact ⟨last, hlast, hevolves.trans hevolves'⟩
  · intro approval happroval
    obtain ⟨row, hrow, hevolves⟩ := h.approvals approval happroval
    obtain ⟨last, hlast, hevolves'⟩ := h'.approvals row hrow
    exact ⟨last, hlast, hevolves.trans hevolves'⟩

theorem JobMove.evolves {job next : AgentJob} (h : JobMove job next) : JobEvolves job next where
  id_eq := h.id_eq
  tenant_eq := h.tenant_eq
  snapshot_eq := h.snapshot_eq
  sha256_eq := h.sha256_eq
  absorbing := by
    intro hterminal
    rw [h.live] at hterminal
    cases hterminal

theorem ApprovalMove.evolves {approval next : Approval} (h : ApprovalMove approval next) :
    ApprovalEvolves approval next where
  id_eq := h.id_eq
  job_eq := h.job_eq
  tenant_eq := h.tenant_eq
  closed := by
    rcases h.open_ with hstaged | ⟨hpending, -⟩
    · simp [hstaged, ApprovalStatus.isFinal]
    · simp [hpending, ApprovalStatus.isFinal]
  pending := by
    rcases h.open_ with hstaged | ⟨-, hfinal⟩
    · simp [hstaged]
    · exact fun _ => .inr hfinal

/-- Rows of a table with one row replaced: the row itself, or the new one. -/
theorem exists_mem_replace {Row : Type} (key : Row → Uuid) {R : Row → Row → Prop}
    (hrefl : ∀ row, R row row) {rows : List Row} (hunique : Table.Unique key rows)
    {old new : Row} (hold : old ∈ rows) (hkey : key new = key old) (hR : R old new)
    {row : Row} (hrow : row ∈ rows) : ∃ other ∈ Table.replace key new rows, R row other := by
  by_cases hsame : key row = key new
  · rw [hunique.eq hrow hold (hsame.trans hkey)]
    exact ⟨new, Table.mem_replace_self ⟨old, hold, hkey.symm⟩, hR⟩
  · exact ⟨row, Table.mem_replace_of_ne hrow hsame, hrefl row⟩

theorem Move.evolves {db next : Db} (h : Lifecycle db) (hmove : Move db next) :
    Evolves db next := by
  cases hmove with
  | insert _ _ _ hjobs happrovals =>
      constructor
      · intro job hjob
        exact ⟨job, by rw [hjobs]; exact List.mem_append_left _ hjob, .refl job⟩
      · intro approval happroval
        exact ⟨approval, by rwa [happrovals], .refl approval⟩
  | update hjob hmove hok hjobs hupdate =>
      generalize happrovals : next.approvals = approvals at hupdate
      constructor
      · intro row hrow
        rw [hjobs]
        exact exists_mem_replace AgentJob.id JobEvolves.refl h.jobs_unique hjob hmove.id_eq
          hmove.evolves hrow
      · intro row hrow
        rw [happrovals]
        cases hupdate with
        | keep => exact ⟨row, hrow, .refl row⟩
        | set hmem hthis hamove =>
            exact exists_mem_replace Approval.id ApprovalEvolves.refl h.approvals_unique hmem
              hamove.id_eq hamove.evolves hrow
        | add => exact ⟨row, List.mem_append_left _ hrow, .refl row⟩

theorem Moves.evolves {db next : Db} (h : Lifecycle db) (hmoves : Moves db next) :
    Evolves db next := by
  induction hmoves with
  | refl => exact .refl db
  | tail hbefore hmove ih => exact ih.trans (hmove.evolves (h.moves hbefore))

end IntegraIntake
