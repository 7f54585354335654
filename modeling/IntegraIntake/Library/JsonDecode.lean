import IntegraIntake.Library.JsonText

/-!
# Reading typed values out of JSON

The readers that a strict schema is made of: strings, booleans, the values of an
enumeration, lists, dictionaries, and models that know all their members.  A
reader gives `none` where the schema raises.

A reader that gets a value back from what is written for it also gets it back
from what a JSONB column makes of that.  Only a dictionary may come back with its
entries in another order.
-/

namespace IntegraIntake.Library.Json

variable {α β : Type}

/-! ## Readers -/

/-- `isinstance(value, bool)`, with the boolean. -/
def asBool? : Json → Option Bool
  | bool value => some value
  | _ => none

/-- `isinstance(value, Mapping)`, with the members. -/
def asMembers? : Json → Option (List (String × Json))
  | obj members => some members
  | _ => none

/-- `isinstance(value, list)`, with the items. -/
def asList? : Json → Option (List Json)
  | arr items => some items
  | _ => none

/-- An integer that is at least one. -/
def asPositive? : Json → Option ℕ
  | int value => if 1 ≤ value then some value.toNat else none
  | _ => none

/-- `Literal[number]`. -/
def literalInt (number : ℤ) : Json → Option Unit
  | int value => if value = number then some () else none
  | _ => none

/-- `Literal[text]`. -/
def literalStr (text : String) : Json → Option Unit
  | str value => if value = text then some () else none
  | _ => none

/-- The member of an enumeration with a string as its value. -/
def enumOf (all : List α) (value : α → String) : Json → Option α
  | str text => all.find? fun item => value item == text
  | _ => none

/-- `X | None`. -/
def optionOf (read : Json → Option α) : Json → Option (Option α)
  | null => some none
  | value => (read value).map some

/-- `list[X]`. -/
def listOf (read : Json → Option α) : Json → Option (List α)
  | arr items => items.mapM read
  | _ => none

/-- `dict[str, X]`. -/
def dictOf (read : Json → Option α) : Json → Option (List (String × α))
  | obj members => members.mapM fun member => (read member.2).map fun value => (member.1, value)
  | _ => none

/-- The members of a model that forbids all names but its own. -/
def modelOf (names : List String) : Json → Option (List (String × Json))
  | obj members =>
    if (members.map Prod.fst).Nodup ∧ ∀ name ∈ members.map Prod.fst, name ∈ names then some members
    else none
  | _ => none

/-- A required member. -/
def field (read : Json → Option α) (name : String) (members : List (String × Json)) : Option α :=
  (members.lookup name).bind read

/-- A member with a default. -/
def fieldOr (default : α) (read : Json → Option α) (name : String)
    (members : List (String × Json)) : Option α :=
  match members.lookup name with
  | some value => read value
  | none => some default

/-! ## Values that are read back -/

/-- A value is read back from what is stored of its JSON. -/
def Restores (order : MemberOrder) (read : Json → Option α) (json : Json) (value : α) : Prop :=
  read (stored order json) = some value

section Restores

variable {order : MemberOrder}

theorem restores_str (text : String) : Restores order asStr? (str text) text := rfl

theorem restores_bool (value : Bool) : Restores order asBool? (bool value) value := rfl

theorem restores_literalInt (number : ℤ) : Restores order (literalInt number) (int number) () :=
  if_pos rfl

theorem restores_positive {value : ℕ} (h : 1 ≤ value) :
    Restores order asPositive? (int value) value := by
  have hle : (1 : ℤ) ≤ value := by exact_mod_cast h
  show (if (1 : ℤ) ≤ value then some (value : ℤ).toNat else none) = some value
  rw [if_pos hle, Int.toNat_natCast]

/-- Different members of the enumeration have different values. -/
theorem enumOf_value {all : List α} {value : α → String} (hinjective : Function.Injective value)
    {item : α} (hitem : item ∈ all) : enumOf all value (str (value item)) = some item := by
  show (all.find? fun other => value other == value item) = some item
  cases hfound : all.find? fun other => value other == value item with
  | none =>
      have hnot := List.find?_eq_none.1 hfound item hitem
      exact absurd (beq_self_eq_true (value item)) hnot
  | some other =>
      have hvalue : value other = value item := by simpa using List.find?_some hfound
      rw [hinjective hvalue]

theorem restores_enum {all : List α} {value : α → String} (hinjective : Function.Injective value)
    {item : α} (hitem : item ∈ all) :
    Restores order (enumOf all value) (str (value item)) item :=
  enumOf_value hinjective hitem

/-- What is written for an optional value, if nothing is written as `null`. -/
theorem restores_option {read : Json → Option α} {encode : α → Json} {value : Option α}
    (h : ∀ item ∈ value, Restores order read (encode item) item)
    (hnull : ∀ item, stored order (encode item) ≠ null) :
    Restores order (optionOf read) ((value.map encode).getD null) value := by
  cases value with
  | none => rfl
  | some item =>
      have hread : read (stored order (encode item)) = some item := h item rfl
      show optionOf read (stored order (encode item)) = some (some item)
      unfold optionOf
      split
      · rename_i heq
        exact absurd heq (hnull item)
      · rw [hread]
        rfl

theorem mapM_eq_some {read : β → Option α} {encode : α → β} {items : List α}
    (h : ∀ item ∈ items, read (encode item) = some item) :
    (items.map encode).mapM read = some items := by
  induction items with
  | nil => rfl
  | cons item rest ih =>
      obtain ⟨hitem, hrest⟩ := List.forall_mem_cons.1 h
      rw [List.map_cons, List.mapM_cons, hitem, ih hrest]
      rfl

theorem restores_list {read : Json → Option α} {encode : α → Json} {items : List α}
    (h : ∀ item ∈ items, Restores order read (encode item) item) :
    Restores order (listOf read) (arr (items.map encode)) items := by
  unfold Restores
  rw [stored_arr, List.map_map]
  exact mapM_eq_some h

/-- A dictionary comes back with its entries in some order. -/
theorem restores_dict {read : Json → Option α} (encode : α → Json)
    (dict : List (String × α))
    (h : ∀ entry ∈ dict, Restores order read (encode entry.2) entry.2) :
    ∃ back, Restores order (dictOf read) (obj (dict.map fun entry => (entry.1, encode entry.2)))
      back ∧ back.Perm dict := by
  obtain ⟨members, hmembers, hperm⟩ := stored_obj order
    (dict.map fun entry => (entry.1, encode entry.2))
  rw [List.map_map] at hperm
  obtain ⟨back, hback, rfl⟩ := exists_perm_of_perm_map hperm
  refine ⟨back, ?_, hback⟩
  unfold Restores
  rw [hmembers]
  refine mapM_eq_some fun entry hentry => ?_
  have hread : read (stored order (encode entry.2)) = some entry.2 :=
    h entry (hback.mem_iff.1 hentry)
  simp only [Function.comp_apply, hread, Option.map_some]

/-- The members that an object comes back with. -/
def backMembers (order : MemberOrder) (members : List (String × Json)) : List (String × Json) :=
  order.arrange (storedMembers order members)

theorem stored_obj_eq (order : MemberOrder) (members : List (String × Json)) :
    stored order (obj members) = obj (backMembers order members) := by
  rw [stored]
  rfl

theorem backMembers_perm (order : MemberOrder) (members : List (String × Json)) :
    (backMembers order members).Perm
      (members.map fun member => (member.1, stored order member.2)) := by
  rw [← storedMembers_eq_map]
  exact order.perm _

theorem backMembers_keys (order : MemberOrder) (members : List (String × Json)) :
    ((backMembers order members).map Prod.fst).Perm (members.map Prod.fst) := by
  rw [← map_fst_members (stored order) members]
  exact (backMembers_perm order members).map Prod.fst

/-- Every member comes back under its name. -/
theorem lookup_backMembers (order : MemberOrder) {members : List (String × Json)}
    (hnodup : (members.map Prod.fst).Nodup) (name : String) :
    (backMembers order members).lookup name = (members.lookup name).map (stored order) := by
  rw [lookup_of_perm (backMembers_perm order members) (by rwa [map_fst_members]), lookup_map_snd]

/-- A model comes back with its members in some order. -/
theorem modelOf_stored (order : MemberOrder) {names : List String}
    {members : List (String × Json)} (hnodup : (members.map Prod.fst).Nodup)
    (hnames : ∀ name ∈ members.map Prod.fst, name ∈ names) :
    modelOf names (stored order (obj members)) = some (backMembers order members) := by
  have hkeys := backMembers_keys order members
  rw [stored_obj_eq]
  exact if_pos ⟨hkeys.nodup_iff.2 hnodup, fun name hname => hnames name (hkeys.mem_iff.1 hname)⟩

/-- A required member is read back. -/
theorem field_stored (order : MemberOrder) (name : String) {read : Json → Option α}
    {members : List (String × Json)} {json : Json} {value : α}
    (hnodup : (members.map Prod.fst).Nodup)
    (hmember : members.lookup name = some json) (h : Restores order read json value) :
    field read name (backMembers order members) = some value := by
  unfold field
  rw [lookup_backMembers order hnodup, hmember]
  exact h

theorem fieldOr_stored (order : MemberOrder) (name : String) {default : α}
    {read : Json → Option α} {members : List (String × Json)} {json : Json} {value : α}
    (hnodup : (members.map Prod.fst).Nodup)
    (hmember : members.lookup name = some json) (h : Restores order read json value) :
    fieldOr default read name (backMembers order members) = some value := by
  unfold fieldOr
  rw [lookup_backMembers order hnodup, hmember]
  exact h

end Restores

/-! ## Overwritten members -/

theorem lookup_overwritten (members : List (String × Json)) (key : String) (value : Json)
    (name : String) :
    (members.map fun member => if member.1 == key then (key, value) else member).lookup name =
      if name = key then (members.lookup name).map fun _ => value else members.lookup name := by
  induction members with
  | nil => simp
  | cons member rest ih =>
      rw [List.map_cons, List.lookup_cons, List.lookup_cons, ih]
      by_cases hkey : member.1 = key
      · by_cases hname : name = key
        · simp [hkey, hname]
        · simp [hkey, hname, beq_false_of_ne hname]
      · by_cases hname : name = key
        · subst hname
          simp [hkey, beq_false_of_ne (Ne.symm hkey)]
        · simp [hkey, hname]

theorem lookup_isSome_iff_mem {members : List (String × Json)} {name : String} :
    (members.lookup name).isSome ↔ name ∈ members.map Prod.fst := by
  rw [List.lookup_isSome_iff, List.mem_map]
  exact exists_congr fun member => and_congr_right fun _ => beq_iff_eq.trans eq_comm

/-- What `{**members, key: value}` holds. -/
theorem lookup_setMember (members : List (String × Json)) (key : String) (value : Json)
    (name : String) :
    (setMember members key value).lookup name =
      if name = key then some value else members.lookup name := by
  unfold setMember
  by_cases hthere : members.any fun member => member.1 == key
  · rw [if_pos hthere, lookup_overwritten]
    split
    · rename_i hname
      obtain ⟨member, hmember, hkey⟩ := List.any_eq_true.1 hthere
      have hsome : (members.lookup name).isSome :=
        lookup_isSome_iff_mem.2
        (List.mem_map.2 ⟨member, hmember, (beq_iff_eq.1 hkey).trans hname.symm⟩)
      obtain ⟨old, hold⟩ := Option.isSome_iff_exists.1 hsome
      rw [hold, Option.map_some]
    · rfl
  · rw [if_neg hthere, List.lookup_append]
    by_cases hname : name = key
    · have hnone : ¬ (members.lookup key).isSome := fun hsome => by
        obtain ⟨member, hmember, hkey⟩ := List.mem_map.1 (lookup_isSome_iff_mem.1 hsome)
        exact hthere (List.any_eq_true.2 ⟨member, hmember, beq_iff_eq.2 hkey⟩)
      rw [hname, Option.not_isSome_iff_eq_none.1 hnone]
      simp
    · have hother : [(key, value)].lookup name = none := by
        simp [hname]
      rw [hother, Option.or_none, if_neg hname]

/-- The keys of `{**members, key: value}`. -/
theorem mem_keys_setMember {members : List (String × Json)} {key name : String} {value : Json} :
    name ∈ (setMember members key value).map Prod.fst ↔
      name = key ∨ name ∈ members.map Prod.fst := by
  rw [← lookup_isSome_iff_mem, ← lookup_isSome_iff_mem, lookup_setMember]
  by_cases hname : name = key
  · simp [hname]
  · simp [hname]

theorem setMember_nodup {members : List (String × Json)} (h : (members.map Prod.fst).Nodup)
    (key : String) (value : Json) : ((setMember members key value).map Prod.fst).Nodup := by
  unfold setMember
  by_cases hthere : members.any fun member => member.1 == key
  · have hsame : (members.map fun member => if member.1 == key then (key, value) else member).map
        Prod.fst = members.map Prod.fst := by
      rw [List.map_map]
      refine List.map_congr_left fun member _ => ?_
      by_cases hkey : member.1 = key <;> simp [hkey]
    rw [if_pos hthere, hsame]
    exact h
  · rw [if_neg hthere, List.map_append, List.nodup_append]
    refine ⟨h, by simp, fun name hname other hother => ?_⟩
    obtain ⟨member, hmember, rfl⟩ := List.mem_map.1 hname
    rw [List.map_singleton, List.mem_singleton] at hother
    rintro rfl
    exact hthere (List.any_eq_true.2 ⟨member, hmember, beq_iff_eq.2 hother⟩)

end IntegraIntake.Library.Json
