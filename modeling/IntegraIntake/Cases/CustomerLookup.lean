import IntegraIntake.Approvals.Executor
import IntegraIntake.Tools.PostgresPort

/-!
# Looking a customer up

`find_customer_for_tenant` selects the rows of a tenant that have the given email
*or* the given external identifier, and takes the first one.  Each identifier is
unique for a tenant, so each selects at most one row, but the two together can
select two, and the select has no order.  Every other select of the repositories
that takes one of several rows orders them, down to the identifier.

The lookup is well defined exactly when the two identifiers do not select different
rows (`lookup_wellDefined_iff`).  Whether a customer is found does not depend on it.
-/

namespace IntegraIntake

open Library

/-- `uq_customers_tenant_id_email`, `uq_customers_tenant_id_external_id` and the
primary key; two nulls do not violate a unique constraint. -/
structure CustomersUnique (rows : List Customer) : Prop where
  ids : Table.Unique Customer.id rows
  emails : ∀ row ∈ rows, ∀ other ∈ rows, row.tenantId = other.tenantId → row.email.isSome →
    row.email = other.email → row = other
  externalIds : ∀ row ∈ rows, ∀ other ∈ rows, row.tenantId = other.tenantId →
    row.externalId.isSome → row.externalId = other.externalId → row = other

/-! ## The rows of the select -/

/-- A row of the tenant with one of the given identifiers. -/
def Customer.Matches (tenantId : Uuid) (values : FindCustomerArgs) (row : Customer) : Prop :=
  row.tenantId = tenantId ∧
    ((values.email.isSome ∧ row.email = values.email) ∨
      (values.externalId.isSome ∧ row.externalId = values.externalId))

instance (tenantId : Uuid) (values : FindCustomerArgs) (row : Customer) :
    Decidable (row.Matches tenantId values) :=
  inferInstanceAs (Decidable (_ ∧ _))

/-- Without an identifier there is no select, and nothing to match. -/
theorem findCustomerForTenant_eq (tenantId : Uuid) (values : FindCustomerArgs) (db : Db) :
    findCustomerForTenant tenantId values.email values.externalId db =
      db.customers.find? fun row => row.Matches tenantId values := by
  unfold findCustomerForTenant
  split
  · rename_i hnone
    rw [Option.isNone_iff_eq_none, Option.isNone_iff_eq_none] at hnone
    refine (List.find?_eq_none.2 fun row _ => ?_).symm
    simp [Customer.Matches, hnone.1, hnone.2]
  · rfl

/-- The email selects a row, and the external identifier another one. -/
def SelectsTwo (tenantId : Uuid) (values : FindCustomerArgs) (rows : List Customer) : Prop :=
  ∃ byEmail ∈ rows, ∃ byExternalId ∈ rows, byEmail.tenantId = tenantId ∧
    byExternalId.tenantId = tenantId ∧ values.email.isSome ∧ byEmail.email = values.email ∧
    values.externalId.isSome ∧ byExternalId.externalId = values.externalId ∧
    byEmail ≠ byExternalId

theorem not_selectsTwo_iff {tenantId : Uuid} {values : FindCustomerArgs} {rows : List Customer}
    (hunique : CustomersUnique rows) :
    ¬ SelectsTwo tenantId values rows ↔
      ∀ row ∈ rows, row.Matches tenantId values → ∀ other ∈ rows, other.Matches tenantId values →
        row = other := by
  constructor
  · intro hone row hrow hmatch other hother hmatchOther
    obtain ⟨htenant, ⟨hemail, hby⟩ | ⟨hexternal, hby⟩⟩ := hmatch
    · obtain ⟨htenantOther, ⟨-, hbyOther⟩ | ⟨hexternal, hbyOther⟩⟩ := hmatchOther
      · exact hunique.emails row hrow other hother (htenant.trans htenantOther.symm) (hby ▸ hemail)
          (hby.trans hbyOther.symm)
      · by_contra hne
        exact hone ⟨row, hrow, other, hother, htenant, htenantOther, hemail, hby, hexternal,
          hbyOther, hne⟩
    · obtain ⟨htenantOther, ⟨hemail, hbyOther⟩ | ⟨-, hbyOther⟩⟩ := hmatchOther
      · by_contra hne
        exact hone ⟨other, hother, row, hrow, htenantOther, htenant, hemail, hbyOther, hexternal,
          hby, Ne.symm hne⟩
      · exact hunique.externalIds row hrow other hother (htenant.trans htenantOther.symm)
          (hby ▸ hexternal) (hby.trans hbyOther.symm)
  · rintro hone ⟨byEmail, hbyEmail, byExternalId, hbyExternalId, htenant, htenantOther, hemail, hby,
      hexternal, hbyOther, hne⟩
    exact hne (hone byEmail hbyEmail ⟨htenant, .inl ⟨hemail, hby⟩⟩ byExternalId hbyExternalId
      ⟨htenantOther, .inr ⟨hexternal, hbyOther⟩⟩)

/-! ## What the two handlers report -/

/-- The identifier in the data of the direct handler. -/
def directCustomerId (data : Json) : Option String :=
  ((data.get? "customer").bind (·.get? "id")).bind Json.asStr?

/-- The identifier in the result of the approved handler. -/
def approvedCustomerId (handled : ApprovalExecutor.Handled) : Option String :=
  (handled.result.lookup "customer_id").bind Json.asStr?

theorem directCustomerId_customerData (found : Option Customer) :
    directCustomerId (customerData (found.map Customer.summary)) =
      found.map fun row => uuidString row.id := by
  cases found <;> rfl

theorem findCustomerHandler_run (context : PortContext) (runtime : TrustedToolRuntimeContext)
    (values : FindCustomerArgs) (world : World Db) :
    (findCustomerHandler (postgresTenantToolPort context) runtime values world).1 =
      .ok (customerData ((findCustomerForTenant runtime.tenantId values.email values.externalId
        world.state).map Customer.summary)) := rfl

theorem approved_findCustomer_run (approval : Approval) (values : FindCustomerArgs) (db : Db) :
    ∃ handled, (ApprovalExecutor.findCustomer approval values db).1 = .ok handled ∧
      approvedCustomerId handled =
        (findCustomerForTenant approval.tenantId values.email values.externalId db).map
          fun row => uuidString row.id := by
  refine ⟨_, rfl, ?_⟩
  cases findCustomerForTenant approval.tenantId values.email values.externalId db <;> rfl

/-! ## When the lookup is well defined -/

/-- The lookup is a function of the rows as a set: databases that hold them in any
order give the same customer, both handlers report that customer, and one is found
when there is one. -/
structure LookupWellDefined (tenantId : Uuid) (values : FindCustomerArgs)
    (rows : List Customer) : Prop where
  order_free : ∀ first second : Db, first.customers.Perm rows → second.customers.Perm rows →
    findCustomerForTenant tenantId values.email values.externalId first =
      findCustomerForTenant tenantId values.email values.externalId second
  handlers_agree : ∀ (first second : Db), first.customers.Perm rows → second.customers.Perm rows →
    ∀ (context : PortContext) (runtime : TrustedToolRuntimeContext) (approval : Approval) log,
      runtime.tenantId = tenantId → approval.tenantId = tenantId → ∃ data handled,
        (findCustomerHandler (postgresTenantToolPort context) runtime values ⟨first, log⟩).1 =
          .ok data ∧
        (ApprovalExecutor.findCustomer approval values second).1 = .ok handled ∧
        directCustomerId data = approvedCustomerId handled
  found_iff : ∀ db : Db, db.customers.Perm rows →
    ((findCustomerForTenant tenantId values.email values.externalId db).isSome ↔
      ∃ row ∈ rows, row.Matches tenantId values)

/-- A database with these customers. -/
def customersDb (rows : List Customer) : Db := ⟨[], [], [], [], rows, [], [], []⟩

/-- Whether a customer is found never depends on the order. -/
theorem findCustomerForTenant_isSome_iff {tenantId : Uuid} {values : FindCustomerArgs}
    {rows : List Customer} {db : Db} (hperm : db.customers.Perm rows) :
    (findCustomerForTenant tenantId values.email values.externalId db).isSome ↔
      ∃ row ∈ rows, row.Matches tenantId values := by
  rw [findCustomerForTenant_eq, List.find?_isSome]
  refine exists_congr fun row => ?_
  rw [hperm.mem_iff, decide_eq_true_iff]

theorem order_free_iff {tenantId : Uuid} {values : FindCustomerArgs} {rows : List Customer}
    (hunique : CustomersUnique rows) :
    (∀ first second : Db, first.customers.Perm rows → second.customers.Perm rows →
      findCustomerForTenant tenantId values.email values.externalId first =
        findCustomerForTenant tenantId values.email values.externalId second) ↔
      ¬ SelectsTwo tenantId values rows := by
  have hrows : (∀ order : List Customer, order.Perm rows →
      order.find? (fun row => row.Matches tenantId values) =
        rows.find? fun row => row.Matches tenantId values) ↔ ¬ SelectsTwo tenantId values rows := by
    rw [Table.find?_order_free_iff, not_selectsTwo_iff hunique]
    simp only [decide_eq_true_eq]
  rw [← hrows]
  constructor
  · intro hfree order hperm
    have hsame := hfree (customersDb order) (customersDb rows) hperm (List.Perm.refl rows)
    rwa [findCustomerForTenant_eq, findCustomerForTenant_eq] at hsame
  · intro hfree first second hfirst hsecond
    rw [findCustomerForTenant_eq, findCustomerForTenant_eq, hfree _ hfirst, hfree _ hsecond]

/-- For rows that meet the unique constraints, the lookup is well defined exactly
when the email and the external identifier do not select two different customers. -/
theorem lookup_wellDefined_iff (tenantId : Uuid) (values : FindCustomerArgs)
    (rows : List Customer) (hunique : CustomersUnique rows) :
    LookupWellDefined tenantId values rows ↔ ¬ SelectsTwo tenantId values rows := by
  constructor
  · exact fun h => (order_free_iff hunique).1 h.order_free
  · intro hone
    have hfree := (order_free_iff hunique).2 hone
    refine ⟨hfree, ?_, fun db hperm => findCustomerForTenant_isSome_iff hperm⟩
    rintro first second hfirst hsecond context runtime approval log rfl happroval
    obtain ⟨handled, hhandled, hreported⟩ := approved_findCustomer_run approval values second
    refine ⟨_, handled, findCustomerHandler_run context runtime values ⟨first, log⟩, hhandled, ?_⟩
    rw [directCustomerId_customerData, hreported, happroval, hfree first second hfirst hsecond]

/-! ### Two customers -/

def adaRow : Customer := ⟨11, 1, none, some "Ada", some "ada@example.com", none⟩

def babbageRow : Customer := ⟨12, 1, some "C-7", some "Babbage", none, none⟩

/-- The email of one customer and the external identifier of another. -/
def mixedArgs : FindCustomerArgs := ⟨some "ada@example.com", some "C-7"⟩

theorem adaBabbage_unique : CustomersUnique [adaRow, babbageRow] where
  ids := by simp [Table.Unique, adaRow, babbageRow]
  emails := by simp [adaRow, babbageRow]
  externalIds := by simp [adaRow, babbageRow]

/-- The arguments are accepted, and the order of the rows decides which of the two
customers is found. -/
theorem lookup_depends_on_order :
    CustomersUnique [adaRow, babbageRow] ∧
      FindCustomerArgs.modelValidate
        [("email", .str "ada@example.com"), ("external_id", .str "C-7")] = .ok mixedArgs ∧
      findCustomerForTenant 1 mixedArgs.email mixedArgs.externalId
        (customersDb [adaRow, babbageRow]) = some adaRow ∧
      findCustomerForTenant 1 mixedArgs.email mixedArgs.externalId
        (customersDb [babbageRow, adaRow]) = some babbageRow ∧
      ¬ LookupWellDefined 1 mixedArgs [adaRow, babbageRow] := by
  refine ⟨adaBabbage_unique, rfl, rfl, rfl, fun h => ?_⟩
  have hsame := h.order_free (customersDb [adaRow, babbageRow]) (customersDb [babbageRow, adaRow])
    (List.Perm.refl _) (List.Perm.swap _ _ _)
  exact absurd (congrArg (Option.map Customer.id) hsame) (by decide)

/-- An email and an empty external identifier find the one customer in either
order. -/
theorem lookup_wellDefined_iff_ada :
    LookupWellDefined 1 ⟨some "ada@example.com", some ""⟩ [adaRow, babbageRow] := by
  refine (lookup_wellDefined_iff 1 _ _ adaBabbage_unique).2 ?_
  simp [SelectsTwo, adaRow, babbageRow]

end IntegraIntake
