import IntegraIntake.Approvals.Frozen
import IntegraIntake.System.Business
import IntegraIntake.Tools.PostgresPort

/-!
# The recipient of a reply draft

The handler of `create_reply_draft` addresses the draft to the validated
`contact`, when the profile declares that field as an e-mail address.  The
execution of an approved draft takes any string that the frozen command has
under `contact`.  The two agree unless the profile declares `contact` as another
kind of text and the proposal has a value for it.
-/

namespace IntegraIntake

open Library

/-- The recipient in the draft of a job. -/
def storedRecipient (db : Db) (tenantId jobId : Uuid) : Option Json :=
  (db.artifact? tenantId jobId .replyDraft).bind fun artifact => artifact.payload.get? "recipient"

/-- A new draft holds the recipient it was made with. -/
theorem storedRecipient_addArtifact {db after : Db} {newId tenantId jobId : Uuid}
    {recipient : Json} {rest : List (String × Json)}
    (hfresh : db.artifact? tenantId jobId .replyDraft = none)
    (hafter : after.artifacts = db.artifacts ++
      [⟨newId, tenantId, jobId, .replyDraft, .obj (("recipient", recipient) :: rest)⟩]) :
    storedRecipient after tenantId jobId = some recipient := by
  have hlookup : after.artifact? tenantId jobId .replyDraft =
      some ⟨newId, tenantId, jobId, .replyDraft, .obj (("recipient", recipient) :: rest)⟩ := by
    rw [Db.artifact?, hafter, Table.lookup_append hfresh]
    exact if_pos rfl
  rw [storedRecipient, hlookup]
  rfl

/-! ## The two executions -/

section Direct

variable {checks : ValueChecks} {proposal : AgentProposal} {runtime : TrustedToolRuntimeContext}
  {context : PortContext} {values : CreateReplyDraftArgs} {world next : World Db} {data : Json}

theorem replyCaseExists_state {found : Bool}
    (h : replyCaseExists (postgresTenantToolPort context) runtime values world =
      (.ok found, next)) :
    next.state = world.state := by
  unfold replyCaseExists at h
  cases hcase : values.caseId with
  | none =>
      rw [hcase] at h
      cases h
      rfl
  | some caseId =>
      rw [hcase] at h
      have hread : (postgresTenantToolPort context).caseExists runtime.tenantId caseId world.state =
          (.ok found, next.state) := callPort_ok h
      exact (congrArg Prod.snd hread).symm

/-- A mutation that makes the first artifact of its kind. -/
theorem createArtifact_perform {attempt : Attempt} {now : Timestamp} {newId : Uuid}
    {kind : ArtifactKind} {payload : Json} {db after : Db} {result : PortResult}
    (hfresh : db.artifact? attempt.tenantId attempt.jobId kind = none)
    (h : (PortMutation.createArtifact newId kind payload).perform attempt now db =
      (.ok result, after)) :
    after.artifacts = db.artifacts ++
      [⟨newId, attempt.tenantId, attempt.jobId, kind, payload⟩] := by
  have hbody := Session.transaction_ok h
  rw [Session.read_bind_run] at hbody
  simp only [PortMutation.opening, hfresh, PortOpening.proceed, Session.read_bind_run,
    insertArtifact] at hbody
  split at hbody
  · cases hbody
  simp only [PortOpening.settle, PortWrites.commit, Session.read_bind_run] at hbody
  cases hjob : fencedJob attempt db with
  | none =>
      rw [hjob] at hbody
      cases hbody
  | some job =>
      rw [hjob] at hbody
      cases hbody
      rfl

/-- The handler stores the recipient it computes. -/
theorem createReplyDraftHandler_recipient
    (hfresh : world.state.artifact? runtime.tenantId context.jobId .replyDraft = none)
    (h : createReplyDraftHandler checks (postgresTenantToolPort context) proposal runtime values
      world = (.ok data, next)) :
    storedRecipient next.state runtime.tenantId context.jobId =
      some (optionJson .str (replyRecipient checks proposal runtime)) := by
  obtain ⟨found, looked, hfound, hrest⟩ := Session.bind_eq_ok h
  have hlooked := replyCaseExists_state hfound
  split at hrest
  · cases hrest
  obtain ⟨reference, drafted, hcall, hdone⟩ := Session.bind_eq_ok hrest
  cases hdone
  have hcall := Session.mapError_ok.1 (callPort_ok hcall)
  split at hcall
  · cases hcall
  obtain ⟨result, performed, hperform, hreference⟩ := Session.bind_eq_ok hcall
  have hperformed : next.state = performed := by
    cases hresult : result.reference? with
    | none =>
        rw [hresult] at hreference
        cases hreference
    | some value =>
        rw [hresult] at hreference
        cases hreference
        rfl
  rw [hlooked] at hperform
  have hfirst : world.state.artifact? (context.attempt runtime.tenantId).tenantId
      (context.attempt runtime.tenantId).jobId .replyDraft = none := hfresh
  rw [hperformed]
  exact storedRecipient_addArtifact hfresh (createArtifact_perform hfirst hperform)

end Direct

/-- The execution of an approved draft stores what the command has under `contact`. -/
theorem createReplyDraft_recipient {services : Services} {newId : Uuid} {approval : Approval}
    {job : AgentJob} {action : PendingAction} {values : CreateReplyDraftArgs}
    {handled : ApprovalExecutor.Handled} {db after : Db}
    (hfresh : db.artifact? approval.tenantId job.id .replyDraft = none)
    (h : ApprovalExecutor.createReplyDraft services newId approval job action values db =
      (.ok handled, after)) :
    storedRecipient after approval.tenantId job.id =
      some (optionJson .str ((action.knownFields.lookup "contact").bind Json.asStr?)) := by
  obtain ⟨caseId, first, hnamed, h⟩ := Session.bind_eq_ok h
  obtain ⟨source, second, hsource, h⟩ := Session.bind_eq_ok h
  obtain ⟨reference, third, hcreate, hdone⟩ := Session.bind_eq_ok h
  cases hdone
  have hfirst : first = db := by rw [← namedCase_state approval values.caseId db, hnamed]
  have hsecond : second = first := by rw [← sourceFromJob_state services job first, hsource]
  rw [hsecond, hfirst, createForJob, Session.read_bind_run, hfresh] at hcreate
  dsimp only at hcreate
  split at hcreate
  · cases hcreate
  · cases hcreate
    exact storedRecipient_addArtifact hfresh rfl

/-! ## When they agree -/

section Agreement

variable {checks : ValueChecks} {proposal : AgentProposal} {runtime : TrustedToolRuntimeContext}

/-- The profile declares `contact` as something other than an e-mail address, and
the proposal has a text for it that is supported by its source and fits the
declared type. -/
def TextContact (checks : ValueChecks) (proposal : AgentProposal)
    (runtime : TrustedToolRuntimeContext) : Prop :=
  ∃ definition, runtime.tenantConfig.field? "contact" = some definition ∧
    definition.type ≠ .email ∧
    ∃ item ∈ proposal.fields, ∃ text, item.name = "contact" ∧ item.value = .scalar (.str text) ∧
      PyString.isBlank text = false ∧
      sourceCandidates item (sourceBody runtime.source) (sourceDocument runtime.source) ≠ [] ∧
      (normalizedValue checks definition item.value).isSome

/-- The recipient is null, or the validated value of a `contact` that the profile
declares as an e-mail address. -/
def FromEmailContact (checks : ValueChecks) (proposal : AgentProposal)
    (runtime : TrustedToolRuntimeContext) (recipient : Json) : Prop :=
  recipient = .null ∨ ∃ definition text, runtime.tenantConfig.field? "contact" = some definition ∧
    definition.type = .email ∧
    (validateProposalFields checks proposal runtime).values.lookup "contact" =
      some (.scalar (.str text)) ∧
    recipient = .str text

/-- The text that is frozen under `contact`. -/
def contactText (checks : ValueChecks) (proposal : AgentProposal)
    (runtime : TrustedToolRuntimeContext) : Option String :=
  ((validateProposalFields checks proposal runtime).values.lookup "contact").bind
    ProposalValueData.str?

theorem ProposalValueData.str?_eq_some {value : ProposalValueData} {text : String} :
    value.str? = some text ↔ value = .scalar (.str text) := by
  cases value with
  | list items => simp [ProposalValueData.str?]
  | scalar value => cases value <;> simp [ProposalValueData.str?]

theorem contactText_eq_some {text : String} :
    contactText checks proposal runtime = some text ↔
      (validateProposalFields checks proposal runtime).values.lookup "contact" =
        some (.scalar (.str text)) := by
  rw [contactText, Option.bind_eq_some_iff]
  simp only [ProposalValueData.str?_eq_some, exists_eq_right]

/-- A type that accepts one text accepts nothing but texts. -/
theorem text_of_accepted_text {definition : FieldDefinition} {text : String}
    {other : ProposalValueData}
    (htext : (normalizedValue checks definition (.scalar (.str text))).isSome)
    (hother : normalizedValue checks definition other = some other) :
    ∃ found, other.str? = some found := by
  cases hfound : other.str? with
  | some found => exact ⟨found, rfl⟩
  | none =>
      exfalso
      unfold normalizedValue at htext hother
      cases hdefinition : definition.type <;> rw [hdefinition] at htext hother <;>
        simp [hfound] at htext hother

theorem accepted_of_lookup {name : String} {value : ProposalValueData}
    (h : (validateProposalFields checks proposal runtime).values.lookup name = some value) :
    Accepted checks runtime.tenantConfig name value :=
  validateFields_accepted (mem_of_lookup_eq_some h)

/-- With `contact` declared as another kind of field, a text is frozen for it
exactly when the proposal has one that is accepted. -/
theorem contactText_isSome_iff {definition : FieldDefinition}
    (hfield : runtime.tenantConfig.field? "contact" = some definition)
    (htype : definition.type ≠ .email) :
    (contactText checks proposal runtime).isSome ↔ TextContact checks proposal runtime := by
  constructor
  · intro hsome
    obtain ⟨text, htext⟩ := Option.isSome_iff_exists.1 hsome
    have hmem := mem_of_lookup_eq_some (contactText_eq_some.1 htext)
    obtain ⟨origin, hcandidate⟩ := mem_validateFields hmem
    obtain ⟨item, hitem, hof⟩ := mem_proposalCandidates.1 hcandidate
    have hname : item.name = "contact" := hof.name_eq.symm
    have hvalue : item.value = .scalar (.str text) := hof.value_eq.symm
    obtain ⟨other, hother, hnormalized⟩ := hof.accepted.normalized
    rw [hname, hfield] at hother
    cases hother
    have hpresent := hof.accepted.present
    rw [hvalue] at hpresent
    refine ⟨definition, hfield, htype, item, hitem, text, hname, hvalue,
      by simpa [proposalValueIsPresent] using hpresent, List.ne_nil_of_mem hof.supported, ?_⟩
    rw [hnormalized]
    rfl
  · rintro ⟨other, hother, -, item, hitem, text, hname, hvalue, hblank, hsources, haccepted⟩
    obtain rfl : definition = other := Option.some.inj (hfield.symm.trans hother)
    obtain ⟨origin, horigin⟩ := List.exists_mem_of_ne_nil _ hsources
    obtain ⟨normal, hnormal⟩ := Option.isSome_iff_exists.1 haccepted
    have hsame := normalizedValue_eq hnormal
    have hcandidate : (item.name, origin, item.value) ∈ proposalCandidates checks proposal.fields
        runtime.tenantConfig runtime.source := by
      refine mem_proposalCandidates.2 ⟨item, hitem, rfl, horigin, rfl, item.name_nonempty, ?_,
        definition, ?_, ?_⟩
      · rw [hvalue]
        simp [proposalValueIsPresent, hblank]
      · rw [hname, hfield]
      · rw [hnormal, hsame]
    -- the value that is chosen for the name may be another one, of the same type
    obtain ⟨value, hmem⟩ := exists_mem_validateFields hcandidate
    have hmem : ("contact", value) ∈ (validateProposalFields checks proposal runtime).values := by
      rw [← hname]
      exact hmem
    have hlookup := lookup_eq_some_of_mem (validateFields_nodup proposal.fields) hmem
    obtain ⟨other, hother, hnormalized⟩ := (accepted_of_lookup hlookup).normalized
    obtain rfl : definition = other := Option.some.inj (hfield.symm.trans hother)
    rw [hvalue] at haccepted
    obtain ⟨found, hfound⟩ := text_of_accepted_text haccepted hnormalized
    refine Option.isSome_iff_exists.2 ⟨found, contactText_eq_some.2 ?_⟩
    rw [ProposalValueData.str?_eq_some.1 hfound] at hlookup
    exact hlookup

/-- The handler's recipient is the frozen text, for an e-mail `contact`. -/
theorem replyRecipient_eq_contactText_iff :
    replyRecipient checks proposal runtime = contactText checks proposal runtime ↔
      ¬ TextContact checks proposal runtime := by
  unfold replyRecipient
  cases hfield : runtime.tenantConfig.field? "contact" with
  | none =>
      have hnone : contactText checks proposal runtime = none := by
        cases htext : contactText checks proposal runtime with
        | none => rfl
        | some text =>
            obtain ⟨definition, hdefinition, -⟩ :=
              (accepted_of_lookup (contactText_eq_some.1 htext)).normalized
            rw [hfield] at hdefinition
            cases hdefinition
      refine iff_of_true hnone.symm ?_
      rintro ⟨definition, hdefinition, -⟩
      rw [hfield] at hdefinition
      cases hdefinition
  | some definition =>
      dsimp only
      by_cases htype : definition.type = .email
      · rw [if_pos htype]
        refine iff_of_true rfl ?_
        rintro ⟨other, hother, hne, -⟩
        rw [hfield] at hother
        cases hother
        exact hne htype
      · rw [if_neg htype, ← contactText_isSome_iff hfield htype, Option.not_isSome_iff_eq_none]
        exact eq_comm

theorem fromEmailContact_replyRecipient :
    FromEmailContact checks proposal runtime
      (optionJson .str (replyRecipient checks proposal runtime)) := by
  cases hrecipient : replyRecipient checks proposal runtime with
  | none => exact .inl rfl
  | some text =>
      unfold replyRecipient at hrecipient
      split at hrecipient
      · cases hrecipient
      · rename_i definition hfield
        split at hrecipient
        · rename_i htype
          exact .inr ⟨definition, text, hfield, htype, contactText_eq_some.1 hrecipient, rfl⟩
        · cases hrecipient

theorem ProposalValueData.asStr?_toJson (value : ProposalValueData) :
    value.toJson.asStr? = value.str? := by
  cases value with
  | list items => rfl
  | scalar value => cases value <;> rfl

/-- What is frozen under `contact`, read back. -/
theorem frozen_contact {known : List (String × Json)}
    (hperm : known.Perm (knownFieldsJson (validateProposalFields checks proposal runtime).values)) :
    (known.lookup "contact").bind Json.asStr? = contactText checks proposal runtime := by
  have hkeys : ((knownFieldsJson (validateProposalFields checks proposal runtime).values).map
      Prod.fst).Nodup := by
    rw [← dictKeys, dictKeys_knownFieldsJson]
    exact validateFields_nodup proposal.fields
  rw [lookup_of_perm hperm hkeys, knownFieldsJson, lookup_map_snd, contactText]
  cases (validateProposalFields checks proposal runtime).values.lookup "contact" with
  | none => rfl
  | some value => exact value.asStr?_toJson

theorem optionJson_str_inj {left right : Option String}
    (h : optionJson Json.str left = optionJson Json.str right) : left = right := by
  cases left <;> cases right <;> cases h <;> rfl

/-- The recipient that the handler of `create_reply_draft` stores and the one that
the approved execution of the frozen command stores are the same, and come from
an e-mail `contact`, unless the profile declares `contact` as another kind of
field and the proposal has an accepted text for it. -/
theorem reply_recipients_agree_iff {order : MemberOrder} {capability : ActionCapability}
    {arguments : ToolArgs} {action : PendingAction}
    (hcapability : requireAction "create_reply_draft" = some capability)
    (hreloaded : PendingAction.modelValidate (Json.stored order
      (pendingAction checks runtime proposal capability arguments).modelDump) = some action)
    {context : PortContext} {values : CreateReplyDraftArgs} {world next : World Db} {data : Json}
    (hdirect : createReplyDraftHandler checks (postgresTenantToolPort context) proposal runtime
      values world = (.ok data, next))
    (hfirst : world.state.artifact? runtime.tenantId context.jobId .replyDraft = none)
    {services : Services} {newId : Uuid} {approval : Approval} {job : AgentJob}
    {frozen : CreateReplyDraftArgs} {handled : ApprovalExecutor.Handled} {db after : Db}
    (happroved : ApprovalExecutor.createReplyDraft services newId approval job action frozen db =
      (.ok handled, after))
    (hsecond : db.artifact? approval.tenantId job.id .replyDraft = none) :
    (∃ recipient, storedRecipient next.state runtime.tenantId context.jobId = some recipient ∧
        storedRecipient after approval.tenantId job.id = some recipient ∧
        FromEmailContact checks proposal runtime recipient) ↔
      ¬ TextContact checks proposal runtime := by
  obtain ⟨reloaded, hreloads⟩ := exists_reloads order checks runtime proposal arguments
    hcapability
  obtain rfl : action = reloaded := Option.some.inj (hreloaded.symm.trans hreloads.decoded)
  rw [createReplyDraftHandler_recipient hfirst hdirect,
    createReplyDraft_recipient hsecond happroved,
    frozen_contact hreloads.fields_perm, ← replyRecipient_eq_contactText_iff]
  constructor
  · rintro ⟨recipient, hhandler, hexecution, -⟩
    exact optionJson_str_inj (Option.some.inj (hhandler.trans hexecution.symm))
  · intro hsame
    exact ⟨_, rfl, by rw [hsame], fromEmailContact_replyRecipient⟩

end Agreement

/-! ### A contact that is not an address -/

theorem contact_fields_safe (definition : FieldDefinition) :
    ∀ name ∈ dictKeys [("contact", definition)], isSafeIdentifier name = true := by
  intro name hname
  have hcontact : isSafeIdentifier "contact" = true := by decide +kernel
  rw [List.mem_singleton.1 hname]
  exact hcontact

theorem contact_required_known (definition : FieldDefinition) :
    ∀ intake ∈ replyProfile.intakeTypes, ∀ field ∈ intake.requiredFields,
      field ∈ dictKeys [("contact", definition)] := by
  intro intake hintake field hfield
  obtain rfl := List.mem_singleton.1 hintake
  cases hfield

/-- A profile whose one field is `contact`. -/
def contactProfile (definition : FieldDefinition) : TenantConfig :=
  { replyProfile with
    fields := [("contact", definition)]
    fields_nonempty := List.cons_ne_nil _ _
    fields_nodup := List.nodup_singleton _
    fields_safe := contact_fields_safe definition
    required_known := contact_required_known definition }

/-- A profile with a contact field of this definition. -/
def contactRuntime (definition : FieldDefinition) : TrustedToolRuntimeContext :=
  { replyRuntime with
    tenantConfig := contactProfile definition
    compiledProfile := none }

/-- It proposes this text as the contact. -/
def contactProposal (text : String) : AgentProposal :=
  { replyProposal with
    fields := [⟨"contact", .scalar (.str text), some .body, none, by decide, excerpt_valid_none⟩]
    fields_nodup := List.nodup_singleton _ }

theorem contact_label_nonempty : "Contact" ≠ "" := by
  decide

def textContact : FieldDefinition := ⟨.shortText, "Contact", none, contact_label_nonempty, rfl⟩

def emailContact : FieldDefinition := ⟨.email, "Contact", none, contact_label_nonempty, rfl⟩

/-- The draft to this contact. -/
def contactCommand (definition : FieldDefinition) (text : String) : PendingAction :=
  pendingAction noChecks (contactRuntime definition) (contactProposal text)
    ⟨.createReplyDraft, false, true, 1⟩ (.createReplyDraft ⟨none⟩)

/-- The database in which the draft is made directly. -/
def runningDb : Db := ⟨[{ parkedJob with status := .running }], [], [], [], [], [], [], []⟩

def draftServices : Services := ⟨noChecks, fun _ => none, fun _ _ => none⟩

/-- With `contact` declared as a short text, the approved draft is addressed to
whatever that text is. -/
theorem approved_reply_addressed_to_text :
    ∃ action data handled next after,
      PendingAction.modelValidate (Json.stored reversedMembers
        (contactCommand textContact "ring twice").modelDump) = some action ∧
      createReplyDraftHandler noChecks (postgresTenantToolPort ⟨2, 1, 9, 5, 100⟩)
        (contactProposal "ring twice") (contactRuntime textContact) ⟨none⟩ ⟨runningDb, []⟩ =
        (.ok data, next) ∧
      ApprovalExecutor.createReplyDraft draftServices 9 frozenApproval parkedJob action ⟨none⟩
        frozenDb = (.ok handled, after) ∧
      storedRecipient next.state 1 2 = some .null ∧
      storedRecipient after 1 2 = some (.str "ring twice") ∧
      ¬ FromEmailContact noChecks (contactProposal "ring twice") (contactRuntime textContact)
        (.str "ring twice") := by
  refine ⟨_, _, _, _, _, rfl, rfl, rfl, rfl, rfl, ?_⟩
  rintro (hnull | ⟨definition, text, hfield, htype, -⟩)
  · cases hnull
  · cases hfield
    cases htype

/-- A command to draft a reply, with its contact, read back. -/
def contactAction (text : String) : PendingAction :=
  ⟨1, "create_reply_draft", [("case_id", .null)], [("contact", .str text)]⟩

theorem reply_recipients_agree_iff_email :
    ∃ data handled next after,
      createReplyDraftHandler noChecks (postgresTenantToolPort ⟨2, 1, 9, 5, 100⟩)
        (contactProposal "ann@example.org") (contactRuntime emailContact) ⟨none⟩ ⟨runningDb, []⟩ =
        (.ok data, next) ∧
      ApprovalExecutor.createReplyDraft draftServices 9 frozenApproval parkedJob
        (contactAction "ann@example.org") ⟨none⟩ frozenDb = (.ok handled, after) ∧
      storedRecipient after 1 2 = some (.str "ann@example.org") ∧
      ∃ recipient, storedRecipient next.state 1 2 = some recipient ∧
        storedRecipient after 1 2 = some recipient ∧
        FromEmailContact noChecks (contactProposal "ann@example.org") (contactRuntime emailContact)
          recipient := by
  have hreloaded : PendingAction.modelValidate (Json.stored reversedMembers
      (contactCommand emailContact "ann@example.org").modelDump) =
      some (contactAction "ann@example.org") := rfl
  have hdirect : ∃ data next, createReplyDraftHandler noChecks
      (postgresTenantToolPort ⟨2, 1, 9, 5, 100⟩) (contactProposal "ann@example.org")
      (contactRuntime emailContact) ⟨none⟩ ⟨runningDb, []⟩ = (.ok data, next) := ⟨_, _, rfl⟩
  have happroved : ∃ handled after, ApprovalExecutor.createReplyDraft draftServices 9 frozenApproval
      parkedJob (contactAction "ann@example.org") ⟨none⟩ frozenDb = (.ok handled, after) ∧
      storedRecipient after 1 2 = some (.str "ann@example.org") := ⟨_, _, rfl, rfl⟩
  obtain ⟨data, next, hdirect⟩ := hdirect
  obtain ⟨handled, after, happroved, hstored⟩ := happroved
  have hnone : frozenDb.artifact? 1 2 .replyDraft = none := rfl
  refine ⟨data, handled, next, after, hdirect, happroved, hstored, ?_⟩
  refine (reply_recipients_agree_iff rfl hreloaded hdirect rfl happroved hnone).2 ?_
  rintro ⟨definition, hfield, htype, -⟩
  cases hfield
  exact htype rfl

end IntegraIntake
