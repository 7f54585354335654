import Mathlib.Data.List.Perm.Subperm
import IntegraIntake.Agent.Trace
import IntegraIntake.Library.Jsonb

/-!
# When two calls are equal

A proposal's call has each argument once, and its values are scalars and lists of
scalars.  On such calls Python's `==` compares names and, argument by argument,
what the values `compare` as: numbers by value, so that `True`, `1` and `1.0` are
one number, and so are the two zeros.  `Identical` calls have the very same JSON
values.
-/

namespace IntegraIntake

open Library

/-! ## Values -/

/-- What a scalar compares as: booleans and integers as the number they are. -/
def ProposalScalar.compares : ProposalScalar → ProposalScalar
  | .null => .null
  | .bool value => .float (.of (if value then 1 else 0))
  | .int value => .float (.of value)
  | .float value => .float (.of value.toRat)
  | .str value => .str value

/-- What a value compares as. -/
def ProposalValueData.compares : ProposalValueData → ProposalValueData
  | .scalar value => .scalar value.compares
  | .list items => .list (items.map ProposalScalar.compares)

theorem ProposalScalar.pyEq_toJson (left right : ProposalScalar) :
    left.toJson.pyEq right.toJson = true ↔ left.compares = right.compares := by
  cases left <;> cases right <;>
    simp [ProposalScalar.toJson, ProposalScalar.compares, Json.pyEq, Json.number?]

theorem pyEqList_toJson (left right : List ProposalScalar) :
    Json.pyEqList (left.map ProposalScalar.toJson) (right.map ProposalScalar.toJson) = true ↔
      left.map ProposalScalar.compares = right.map ProposalScalar.compares := by
  induction left generalizing right with
  | nil => cases right <;> simp [Json.pyEqList]
  | cons first rest ih =>
      cases right with
      | nil => simp [Json.pyEqList]
      | cons other others =>
          simp [Json.pyEqList, ProposalScalar.pyEq_toJson, ih]

theorem ProposalValueData.pyEq_toJson (left right : ProposalValueData) :
    left.toJson.pyEq right.toJson = true ↔ left.compares = right.compares := by
  cases left with
  | scalar value =>
      cases right with
      | scalar other =>
          simp [ProposalValueData.toJson, ProposalValueData.compares, ProposalScalar.pyEq_toJson]
      | list others =>
          cases value <;>
            simp [ProposalValueData.toJson, ProposalValueData.compares, ProposalScalar.toJson,
              Json.pyEq, Json.number?]
  | list items =>
      cases right with
      | scalar other =>
          cases other <;>
            simp [ProposalValueData.toJson, ProposalValueData.compares, ProposalScalar.toJson,
              Json.pyEq, Json.number?]
      | list others =>
          simp [ProposalValueData.toJson, ProposalValueData.compares, Json.pyEq, pyEqList_toJson]

theorem ProposalScalar.toJson_injective : Function.Injective ProposalScalar.toJson := by
  intro left right h
  cases left <;> cases right <;> cases h <;> rfl

theorem ProposalValueData.toJson_injective : Function.Injective ProposalValueData.toJson := by
  intro left right h
  cases left with
  | scalar value =>
      cases right with
      | scalar other => exact congrArg _ (ProposalScalar.toJson_injective h)
      | list others => cases value <;> cases h
  | list items =>
      cases right with
      | scalar other => cases other <;> cases h
      | list others =>
          have hitems : items.map ProposalScalar.toJson = others.map ProposalScalar.toJson :=
            Json.arr.inj h
          rw [List.map_injective_iff.2 ProposalScalar.toJson_injective hitems]

/-! ## Arguments -/

/-- The arguments of a proposed call as a dictionary. -/
def ProposalToolCall.fields (call : ProposalToolCall) : List (String × ProposalValueData) :=
  call.arguments.map fun item => (item.name, item.value)

theorem ProposalToolCall.fields_nodup (call : ProposalToolCall) :
    (call.fields.map Prod.fst).Nodup := by
  rw [ProposalToolCall.fields, List.map_map]
  exact call.arguments_nodup

theorem ProposalToolCall.asToolCall_arguments (call : ProposalToolCall) :
    call.asToolCall.arguments = call.fields.map fun field => (field.1, field.2.toJson) := by
  rw [ProposalToolCall.fields, List.map_map]
  rfl

theorem pyEqMembers_iff {left right : List (String × Json)} :
    Json.pyEqMembers left right = true ↔ ∀ member ∈ left, ∃ other,
      right.lookup member.1 = some other ∧ member.2.pyEq other = true := by
  induction left with
  | nil => simp [Json.pyEqMembers]
  | cons member rest ih =>
      obtain ⟨key, value⟩ := member
      rw [Json.pyEqMembers, Bool.and_eq_true, ih, List.forall_mem_cons]
      refine and_congr_left fun _ => ?_
      cases right.lookup key <;> simp

/-- Dictionaries that agree on every key have the same keys. -/
theorem length_eq_of_lookup {left right : List (String × ProposalValueData)}
    (hleft : (left.map Prod.fst).Nodup) (hright : (right.map Prod.fst).Nodup)
    (h : ∀ key, (left.lookup key).isSome = (right.lookup key).isSome) :
    left.length = right.length := by
  have hkeys : ∀ key, key ∈ left.map Prod.fst ↔ key ∈ right.map Prod.fst := by
    intro key
    have hmem : ∀ fields : List (String × ProposalValueData),
        key ∈ fields.map Prod.fst ↔ (fields.lookup key).isSome = true := fun fields =>
      mem_dictKeys_iff
    rw [hmem, hmem, h]
  have hperm := (List.perm_ext_iff_of_nodup hleft hright).2 hkeys
  simpa using hperm.length_eq

/-- Python's `==` on the calls of two proposals. -/
theorem ProposalToolCall.pyEq_iff (left right : ProposalToolCall) :
    left.asToolCall.pyEq right.asToolCall = true ↔ left.name = right.name ∧
      ∀ key, (left.fields.lookup key).map ProposalValueData.compares =
        (right.fields.lookup key).map ProposalValueData.compares := by
  have hlookup : ∀ (call : ProposalToolCall) (key : String),
      call.asToolCall.arguments.lookup key =
        (call.fields.lookup key).map ProposalValueData.toJson := by
    intro call key
    rw [call.asToolCall_arguments, lookup_map_snd]
  unfold ToolCall.pyEq
  rw [Bool.and_eq_true, Json.pyEq, Bool.and_eq_true, pyEqMembers_iff]
  simp only [beq_iff_eq, hlookup]
  have hlength : left.asToolCall.arguments.length = right.asToolCall.arguments.length ↔
      left.fields.length = right.fields.length := by
    rw [left.asToolCall_arguments, right.asToolCall_arguments, List.length_map, List.length_map]
  rw [hlength, left.asToolCall_arguments]
  refine and_congr_right fun _ => ⟨?_, fun h => ⟨?_, ?_⟩⟩
  · rintro ⟨hsame, hmembers⟩ key
    have hfound : ∀ field ∈ left.fields, ∃ other, right.fields.lookup field.1 = some other ∧
        field.2.compares = other.compares := by
      intro field hfield
      obtain ⟨json, hjson, hequal⟩ := hmembers _ (List.mem_map.2 ⟨field, hfield, rfl⟩)
      obtain ⟨other, hother, rfl⟩ := Option.map_eq_some_iff.1 hjson
      exact ⟨other, hother, (ProposalValueData.pyEq_toJson _ _).1 hequal⟩
    cases hleft : left.fields.lookup key with
    | some value =>
        obtain ⟨other, hother, hequal⟩ := hfound _ (mem_of_lookup_eq_some hleft)
        rw [hother, Option.map_some, Option.map_some, hequal]
    | none =>
        -- every key on the left is on the right, and there are equally many
        have hsubset : left.fields.map Prod.fst ⊆ right.fields.map Prod.fst := by
          intro name hname
          obtain ⟨field, hfield, rfl⟩ := List.mem_map.1 hname
          obtain ⟨other, hother, -⟩ := hfound field hfield
          exact List.mem_map.2 ⟨_, mem_of_lookup_eq_some hother, rfl⟩
        have hperm : (left.fields.map Prod.fst).Perm (right.fields.map Prod.fst) := by
          refine (left.fields_nodup.subperm hsubset).perm_of_length_le ?_
          rw [List.length_map, List.length_map, hsame]
        have hnone : right.fields.lookup key = none := by
          refine Option.not_isSome_iff_eq_none.1 fun hsome => ?_
          have hkey : key ∈ left.fields.map Prod.fst := hperm.mem_iff.2 (mem_dictKeys_iff.2 hsome)
          have hthere : (left.fields.lookup key).isSome := mem_dictKeys_iff.1 hkey
          rw [hleft] at hthere
          cases hthere
        rw [hnone]
  · refine length_eq_of_lookup left.fields_nodup right.fields_nodup fun key => ?_
    simpa using congrArg Option.isSome (h key)
  · intro member hmember
    obtain ⟨field, hfield, rfl⟩ := List.mem_map.1 hmember
    have hagree := h field.1
    rw [lookup_eq_some_of_mem left.fields_nodup hfield, Option.map_some] at hagree
    obtain ⟨other, hother, hequal⟩ := Option.map_eq_some_iff.1 hagree.symm
    exact ⟨other.toJson, Option.map_eq_some_iff.2 ⟨other, hother, rfl⟩,
      (ProposalValueData.pyEq_toJson _ _).2 hequal.symm⟩

/-! ## Calls -/

/-- The calls that a loop can see. -/
def ToolCall.Proposed (call : ToolCall) : Prop :=
  ∃ proposed : ProposalToolCall, call = proposed.asToolCall

theorem AgentProposal.toolCall_proposed {proposal : AgentProposal} {call : ToolCall}
    (h : proposal.toolCall = some call) : call.Proposed := by
  obtain ⟨proposed, -, rfl⟩ := Option.map_eq_some_iff.1 h
  exact ⟨proposed, rfl⟩

/-- The same name, the same keys and the same JSON values.  The values of a
proposed call hold no dictionaries, so no order is left to forget in them. -/
def ToolCall.Identical (left right : ToolCall) : Prop :=
  left.name = right.name ∧ ∀ key, left.arguments.lookup key = right.arguments.lookup key

namespace ToolCall

variable {first second third : ToolCall}

theorem pyEq_refl (h : first.Proposed) : first.pyEq first = true := by
  obtain ⟨proposed, rfl⟩ := h
  exact (ProposalToolCall.pyEq_iff _ _).2 ⟨rfl, fun _ => rfl⟩

theorem pyEq_symm (hfirst : first.Proposed) (hsecond : second.Proposed)
    (h : first.pyEq second = true) : second.pyEq first = true := by
  obtain ⟨left, rfl⟩ := hfirst
  obtain ⟨right, rfl⟩ := hsecond
  obtain ⟨hname, hvalues⟩ := (ProposalToolCall.pyEq_iff _ _).1 h
  exact (ProposalToolCall.pyEq_iff _ _).2 ⟨hname.symm, fun key => (hvalues key).symm⟩

theorem pyEq_trans (hfirst : first.Proposed) (hsecond : second.Proposed) (hthird : third.Proposed)
    (h : first.pyEq second = true) (h' : second.pyEq third = true) : first.pyEq third = true := by
  obtain ⟨left, rfl⟩ := hfirst
  obtain ⟨middle, rfl⟩ := hsecond
  obtain ⟨right, rfl⟩ := hthird
  obtain ⟨hname, hvalues⟩ := (ProposalToolCall.pyEq_iff _ _).1 h
  obtain ⟨hname', hvalues'⟩ := (ProposalToolCall.pyEq_iff _ _).1 h'
  exact (ProposalToolCall.pyEq_iff _ _).2
    ⟨hname.trans hname', fun key => (hvalues key).trans (hvalues' key)⟩

theorem Identical.symm (h : first.Identical second) : second.Identical first :=
  ⟨h.1.symm, fun key => (h.2 key).symm⟩

/-- Identical calls are equal for Python. -/
theorem Identical.pyEq (hfirst : first.Proposed) (hsecond : second.Proposed)
    (h : first.Identical second) : first.pyEq second = true := by
  obtain ⟨left, rfl⟩ := hfirst
  obtain ⟨right, rfl⟩ := hsecond
  refine (ProposalToolCall.pyEq_iff _ _).2 ⟨h.1, fun key => ?_⟩
  have hvalues := h.2 key
  rw [left.asToolCall_arguments, right.asToolCall_arguments, lookup_map_snd, lookup_map_snd]
    at hvalues
  rw [Option.map_injective ProposalValueData.toJson_injective hvalues]

end ToolCall

end IntegraIntake
