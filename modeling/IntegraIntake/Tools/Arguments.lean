import Mathlib.Tactic.IntervalCases
import IntegraIntake.Library.Jsonb
import IntegraIntake.Tools.Models

/-!
# Arguments that are stored and read back

A frozen command holds its arguments as `model_dump(mode="json")` wrote them, and
they are validated again when the command is decided and when it is executed.
The one part that is not kept as it is are identifiers, which go through their
string form.
-/

namespace IntegraIntake

open Library PyString

/-! ## Identifiers -/

/-- A digit as `str(uuid)` writes it. -/
def IsHexDigit (c : Char) : Prop :=
  ∃ d < 16, c = Nat.digitChar d

theorem IsHexDigit.ne {c other : Char} (h : IsHexDigit c)
    (hother : ∀ d < 16, Nat.digitChar d ≠ other) : c ≠ other := by
  obtain ⟨d, hd, rfl⟩ := h
  exact hother d hd

theorem IsHexDigit.not_space {c : Char} (h : IsHexDigit c) : isIntSpace c = false := by
  obtain ⟨d, hd, rfl⟩ := h
  interval_cases d <;> rfl

theorem isHexDigit_of_mem_toDigits {n : ℕ} : ∀ c ∈ Nat.toDigits 16 n, IsHexDigit c := by
  induction n using Nat.strong_induction_on with
  | _ n ih =>
      rw [Nat.toDigits_eq_if (by decide)]
      split
      · rename_i hlt
        intro c hc
        rw [List.mem_singleton.1 hc]
        exact ⟨n, hlt, rfl⟩
      · intro c hc
        rcases List.mem_append.1 hc with hfront | hlast
        · exact ih (n / 16) (by omega) c hfront
        · rw [List.mem_singleton.1 hlast]
          exact ⟨n % 16, Nat.mod_lt n (by decide), rfl⟩

/-- A digit at the front. -/
theorem hexNumber?_digit {d : ℕ} (hd : d < 16) (digit : Bool) (value : ℕ) (rest : List Char) :
    hexNumber? digit value (Nat.digitChar d :: rest) = hexNumber? true (16 * value + d) rest := by
  interval_cases d <;> rfl

/-- One more digit at the end of a number, or of nothing. -/
theorem hexNumber?_snoc {digits : List Char} (hdigits : ∀ c ∈ digits, IsHexDigit c) {d : ℕ}
    (hd : d < 16) {digit : Bool} {value number : ℕ}
    (h : hexNumber? digit value digits = some number ∨ (digits = [] ∧ value = number)) :
    hexNumber? digit value (digits ++ [Nat.digitChar d]) = some (16 * number + d) := by
  induction digits generalizing digit value with
  | nil =>
      have hvalue : value = number := by
        rcases h with h | h
        · simp only [hexNumber?] at h
          split at h
          · exact Option.some.inj h
          · cases h
        · exact h.2
      rw [List.nil_append, hexNumber?_digit hd, hvalue]
      rfl
  | cons c rest ih =>
      obtain ⟨e, he, rfl⟩ := hdigits c List.mem_cons_self
      have hrest : hexNumber? true (16 * value + e) rest = some number := by
        rcases h with h | h
        · rwa [hexNumber?_digit he] at h
        · cases h.1
      rw [List.cons_append, hexNumber?_digit he]
      exact ih (fun c hc => hdigits c (List.mem_cons_of_mem _ hc)) (.inl hrest)

theorem hexNumber?_toDigits (digit : Bool) (n : ℕ) :
    hexNumber? digit 0 (Nat.toDigits 16 n) = some n := by
  induction n using Nat.strong_induction_on with
  | _ n ih =>
      rw [Nat.toDigits_eq_if (by decide)]
      split
      · rename_i hlt
        rw [hexNumber?_digit hlt, Nat.mul_zero, Nat.zero_add]
        rfl
      · have hfront := ih (n / 16) (by omega)
        rw [hexNumber?_snoc isHexDigit_of_mem_toDigits (Nat.mod_lt n (by decide)) (.inl hfront),
          Nat.div_add_mod]

theorem hexNumber?_zeros (digit : Bool) (count n : ℕ) :
    hexNumber? digit 0 (List.replicate count '0' ++ Nat.toDigits 16 n) = some n := by
  induction count generalizing digit with
  | zero => exact hexNumber?_toDigits digit n
  | succ count ih =>
      rw [List.replicate_succ, List.cons_append]
      exact (hexNumber?_digit (by decide : 0 < 16) digit 0 _).trans (ih true)

/-- A literal of hexadecimal digits is read as it stands. -/
theorem hexInt?_digits {digits : List Char} (hdigits : ∀ c ∈ digits, IsHexDigit c) :
    hexInt? digits = hexNumber? false 0 digits := by
  have hspace : ∀ chars : List Char, (∀ c ∈ chars, IsHexDigit c) →
      chars.dropWhile isIntSpace = chars := by
    intro chars hchars
    cases chars with
    | nil => rfl
    | cons c rest =>
        exact List.dropWhile_cons_of_neg (by simp [(hchars c List.mem_cons_self).not_space])
  have htrimmed :
      ((digits.dropWhile isIntSpace).reverse.dropWhile isIntSpace).reverse = digits := by
    rw [hspace digits hdigits, hspace _ fun c hc => hdigits c (List.mem_reverse.1 hc),
      List.reverse_reverse]
  unfold hexInt?
  rw [htrimmed]
  cases digits with
  | nil => rfl
  | cons first rest =>
      obtain ⟨d, hd, rfl⟩ := hdigits first List.mem_cons_self
      by_cases hzero : d = 0
      · -- the second character is no `x` either
        subst hzero
        cases rest with
        | nil => rfl
        | cons second rest =>
            obtain ⟨e, he, rfl⟩ := hdigits second (by simp)
            interval_cases e <;> rfl
      · interval_cases d <;> first | rfl | exact absurd rfl hzero

theorem removeAll_of_not_mem {first : Char} {pattern value : List Char} (h : first ∉ value) :
    removeAll (first :: pattern) 0 value = value := by
  induction value with
  | nil => rfl
  | cons c rest ih =>
      have hne : first ≠ c := fun heq => h (heq ▸ List.mem_cons_self)
      have hinitial : (first :: pattern).isPrefixOf (c :: rest) = false := by
        simp [List.isPrefixOf, hne]
      rw [removeAll, hinitial, if_neg Bool.false_ne_true]
      rw [ih fun hmem => h (List.mem_cons_of_mem _ hmem)]

/-- The 32 digits of an identifier. -/
def uuidDigits (id : Uuid) : List Char :=
  List.replicate (32 - (Nat.toDigits 16 id).length) '0' ++ Nat.toDigits 16 id

theorem uuidDigits_hex (id : Uuid) : ∀ c ∈ uuidDigits id, IsHexDigit c := by
  intro c hc
  rcases List.mem_append.1 hc with hzero | hdigit
  · rw [List.eq_of_mem_replicate hzero]
    exact ⟨0, by decide, rfl⟩
  · exact isHexDigit_of_mem_toDigits c hdigit

theorem uuidDigits_length {id : Uuid} (h : id < 2 ^ 128) : (uuidDigits id).length = 32 := by
  have hlength : (Nat.toDigits 16 id).length ≤ 32 :=
    (Nat.length_toDigits_le_iff (by decide) (by decide)).2 (lt_of_lt_of_eq h (by norm_num))
  rw [uuidDigits, List.length_append, List.length_replicate]
  omega

/-- `UUID(str(id)) == id`. -/
theorem parseUuid_uuidString {id : Uuid} (h : id < 2 ^ 128) :
    parseUuid (uuidString id) = some id := by
  have hdigits := uuidDigits_hex id
  have htext : (uuidString id).toList = (uuidDigits id).take 8 ++ '-' ::
      ((uuidDigits id).drop 8).take 4 ++ '-' :: ((uuidDigits id).drop 12).take 4 ++
      '-' :: ((uuidDigits id).drop 16).take 4 ++ '-' :: (uuidDigits id).drop 20 := by
    simp [uuidString, uuidDigits]
  have hchars : ∀ c ∈ (uuidString id).toList, IsHexDigit c ∨ c = '-' := by
    intro c hc
    rw [htext] at hc
    simp only [List.mem_append, List.mem_cons] at hc
    rcases hc with (((hc | rfl | hc) | rfl | hc) | rfl | hc) | rfl | hc
    · exact .inl (hdigits c (List.mem_of_mem_take hc))
    · exact .inr rfl
    · exact .inl (hdigits c (List.mem_of_mem_drop (List.mem_of_mem_take hc)))
    · exact .inr rfl
    · exact .inl (hdigits c (List.mem_of_mem_drop (List.mem_of_mem_take hc)))
    · exact .inr rfl
    · exact .inl (hdigits c (List.mem_of_mem_drop (List.mem_of_mem_take hc)))
    · exact .inr rfl
    · exact .inl (hdigits c (List.mem_of_mem_drop hc))
  have hother : ∀ other, (∀ d < 16, Nat.digitChar d ≠ other) → other ≠ '-' →
      other ∉ (uuidString id).toList := by
    intro other hdigit hhyphen hmem
    rcases hchars other hmem with hhex | heq
    · exact hhex.ne hdigit rfl
    · exact hhyphen heq
  have hu : 'u' ∉ (uuidString id).toList := hother 'u' (by decide) (by decide)
  have hbare : removeAll "uuid:".toList 0 (removeAll "urn:".toList 0 (uuidString id).toList) =
      (uuidString id).toList := by
    rw [show "urn:".toList = 'u' :: ['r', 'n', ':'] from rfl, removeAll_of_not_mem hu,
      show "uuid:".toList = 'u' :: ['u', 'i', 'd', ':'] from rfl, removeAll_of_not_mem hu]
  have hbrace : ∀ chars : List Char, (∀ c ∈ chars, c ∈ (uuidString id).toList) →
      chars.dropWhile (fun c => c == '\x7b' || c == '\x7d') = chars := by
    intro chars hmem
    cases chars with
    | nil => rfl
    | cons c rest =>
        have hin := hmem c List.mem_cons_self
        have hopen : c ≠ '\x7b' := fun heq => hother '\x7b' (by decide) (by decide) (heq ▸ hin)
        have hclose : c ≠ '\x7d' := fun heq => hother '\x7d' (by decide) (by decide) (heq ▸ hin)
        exact List.dropWhile_cons_of_neg (by simp [hopen, hclose])
  have hkept : ∀ chars : List Char, (∀ c ∈ chars, c ∈ uuidDigits id) →
      chars.filter (· != '-') = chars := by
    intro chars hmem
    refine List.filter_eq_self.2 fun c hc => ?_
    simpa using (hdigits c (hmem c hc)).ne (by decide : ∀ d < 16, Nat.digitChar d ≠ '-')
  have hhex : (uuidString id).toList.filter (· != '-') = uuidDigits id := by
    rw [htext]
    simp only [List.filter_append, List.filter_cons, bne_self_eq_false,
      Bool.false_eq_true, if_false]
    rw [hkept _ fun c hc => List.mem_of_mem_take hc,
      hkept _ fun c hc => List.mem_of_mem_drop (List.mem_of_mem_take hc),
      hkept _ fun c hc => List.mem_of_mem_drop (List.mem_of_mem_take hc),
      hkept _ fun c hc => List.mem_of_mem_drop (List.mem_of_mem_take hc),
      hkept _ fun c hc => List.mem_of_mem_drop hc]
    rw [← List.take_add, ← List.take_add, ← List.take_add, List.take_append_drop]
  unfold parseUuid
  simp only [hbare]
  rw [hbrace _ fun c hc => hc, hbrace _ fun c hc => List.mem_reverse.1 hc,
    List.reverse_reverse, hhex,
    if_pos (uuidDigits_length h), hexInt?_digits hdigits]
  exact hexNumber?_zeros false _ id

/-! ### Parsed identifiers have 128 bits -/

theorem hexDigit?_lt {c : Char} {d : ℕ} (h : hexDigit? c = some d) : d < 16 := by
  unfold hexDigit? at h
  dsimp only at h
  split_ifs at h with hlower hupper
  · cases h
    have hle : c.toNat ≤ 'f'.toNat := hlower.2
    have hf : 'f'.toNat = 102 := rfl
    have ha : 'a'.toNat = 97 := rfl
    omega
  · cases h
    have hle : c.toNat ≤ 'F'.toNat := hupper.2
    have hf : 'F'.toNat = 70 := rfl
    have ha : 'A'.toNat = 65 := rfl
    omega
  · obtain ⟨start, hfound, rfl⟩ := Option.map_eq_some_iff.1 h
    have hrange := List.find?_some hfound
    simp only [Bool.and_eq_true, decide_eq_true_eq] at hrange
    omega

theorem hexNumber?_lt {digits : List Char} {digit : Bool} {value number : ℕ}
    (h : hexNumber? digit value digits = some number) :
    number < (value + 1) * 16 ^ digits.length := by
  induction digits generalizing digit value with
  | nil =>
      simp only [hexNumber?] at h
      split at h
      · cases h
        simp
      · cases h
  | cons c rest ih =>
      have hstep : ∃ next other, next ≤ 16 * value + 15 ∧ hexNumber? other next rest =
          some number := by
        by_cases hunderscore : c = '_'
        · subst hunderscore
          simp only [hexNumber?] at h
          split at h
          · exact ⟨value, false, by omega, h⟩
          · cases h
        · simp only [hexNumber?] at h
          cases hd : hexDigit? c with
          | none =>
              rw [hd] at h
              cases h
          | some d =>
              rw [hd] at h
              have hlt := hexDigit?_lt hd
              exact ⟨16 * value + d, true, by omega, h⟩
      obtain ⟨next, other, hle, hrest⟩ := hstep
      calc number < (next + 1) * 16 ^ rest.length := ih hrest
        _ ≤ (16 * (value + 1)) * 16 ^ rest.length := Nat.mul_le_mul_right _ (by omega)
        _ = (value + 1) * 16 ^ (c :: rest).length := by
            rw [List.length_cons, pow_succ, Nat.mul_comm 16, Nat.mul_assoc, Nat.mul_comm 16]

theorem hexInt?_lt {literal : List Char} {number : ℕ} (h : hexInt? literal = some number) :
    number < 16 ^ literal.length := by
  -- whatever is stripped off, a part of the literal is read
  have hpart : ∃ part digit, hexNumber? digit 0 part = some number ∧ part.length ≤
    literal.length := by
    unfold hexInt? at h
    generalize htrimmed : ((literal.dropWhile isIntSpace).reverse.dropWhile isIntSpace).reverse =
      trimmed at h
    have htrimmedLength : trimmed.length ≤ literal.length := by
      rw [← htrimmed, List.length_reverse]
      refine (List.dropWhile_sublist _).length_le.trans ?_
      rw [List.length_reverse]
      exact (List.dropWhile_sublist _).length_le
    dsimp only at h
    -- after the sign and the prefix
    split at h
    case h_5 =>
      refine ⟨_, _, h, ?_⟩
      split
      · rw [List.length_cons] at htrimmedLength
        omega
      · exact htrimmedLength
    all_goals
      rename_i heq
      refine ⟨_, _, h, ?_⟩
      have hunsigned := congrArg List.length heq
      split at hunsigned <;> simp only [List.length_cons] at hunsigned htrimmedLength <;> omega
  obtain ⟨part, digit, hnumber, hlength⟩ := hpart
  calc number < (0 + 1) * 16 ^ part.length := hexNumber?_lt hnumber
    _ = 16 ^ part.length := by rw [Nat.zero_add, Nat.one_mul]
    _ ≤ 16 ^ literal.length := Nat.pow_le_pow_right (by decide) hlength

theorem parseUuid_lt {value : String} {id : Uuid} (h : parseUuid value = some id) :
    id < 2 ^ 128 := by
  unfold parseUuid at h
  dsimp only at h
  split at h
  · rename_i hlength
    have hlt := hexInt?_lt h
    rw [hlength] at hlt
    exact lt_of_lt_of_eq hlt (by norm_num)
  · cases h

/-! ## Validating the dump again -/

theorem parseUuidArgument_lt {value : Json} {id : Uuid} (h : parseUuidArgument value = .ok id) :
    id < 2 ^ 128 := by
  unfold parseUuidArgument at h
  split at h
  · split at h
    · rename_i parsed hparsed
      cases h
      exact parseUuid_lt hparsed
    · cases h
  · cases h

theorem parseUuidArgument_uuidString {id : Uuid} (h : id < 2 ^ 128) :
    parseUuidArgument (.str (uuidString id)) = .ok id := by
  simp only [parseUuidArgument, parseUuid_uuidString h]

theorem optionalUuid_lt {value : Option Json} {found : Option Uuid}
    (h : optionalUuid value = .ok found) : ∀ id ∈ found, id < 2 ^ 128 := by
  rintro id ⟨⟩
  unfold optionalUuid at h
  split at h
  · cases h
  · cases h
  · rename_i argument _
    cases hparsed : parseUuidArgument argument with
    | error error =>
        rw [hparsed] at h
        cases h
    | ok parsed =>
        rw [hparsed] at h
        cases h
        exact parseUuidArgument_lt hparsed

theorem optionalUuid_optionJson {found : Option Uuid} (h : ∀ id ∈ found, id < 2 ^ 128) :
    optionalUuid (some (optionJson (fun id => .str (uuidString id)) found)) = .ok found := by
  cases found with
  | none => rfl
  | some id =>
      have hparsed := parseUuidArgument_uuidString (h id rfl)
      simp only [optionJson, optionalUuid, hparsed]
      rfl

theorem optionalStrictStr_optionJson (found : Option String) :
    optionalStrictStr (some (optionJson .str found)) = .ok found := by
  cases found <;> rfl

/-- Reading a validated field off a sequence of validators. -/
theorem ok_of_bind {ε α β : Type} {program : Except ε α} {next : α → Except ε β} {result : β}
    (h : program >>= next = .ok result) : ∃ a, program = .ok a ∧ next a = .ok result := by
  cases program with
  | error error => cases h
  | ok a => exact ⟨a, rfl, h⟩

theorem ok_of_map {ε α β : Type} {program : Except ε α} {f : α → β} {result : β}
    (h : program.map f = .ok result) : ∃ a, program = .ok a ∧ f a = result := by
  cases program with
  | error error => cases h
  | ok a =>
      cases h
      exact ⟨a, rfl, rfl⟩

theorem FindCustomerArgs.modelValidate_dump {given members : List (String × Json)}
    {values : FindCustomerArgs} (h : FindCustomerArgs.modelValidate given = .ok values)
    (hperm : members.Perm (ToolArgs.findCustomer values).modelDump) :
    FindCustomerArgs.modelValidate members = .ok values := by
  unfold FindCustomerArgs.modelValidate at h
  obtain ⟨email, hemail, h⟩ := ok_of_bind h
  obtain ⟨externalId, hexternalId, h⟩ := ok_of_bind h
  obtain ⟨_, -, h⟩ := ok_of_bind h
  split at h
  · cases h
  rename_i hpresent
  cases h
  have hnodup : ((ToolArgs.findCustomer ⟨email, externalId⟩).modelDump.map Prod.fst).Nodup := by
    simp [ToolArgs.modelDump]
  have hemailBack : members.lookup "email" = some (optionJson .str email) :=
    lookup_of_perm hperm hnodup
  have hexternalBack : members.lookup "external_id" = some (optionJson .str externalId) :=
    lookup_of_perm hperm hnodup
  have hextra : forbidExtra ["email", "external_id"] members = .ok () := by
    rw [forbidExtra, hperm.all_eq]
    rfl
  rw [FindCustomerArgs.modelValidate, hemailBack, hexternalBack, optionalStrictStr_optionJson,
    optionalStrictStr_optionJson, hextra]
  exact if_neg hpresent

theorem CreateCaseArgs.modelValidate_dump {given members : List (String × Json)}
    {values : CreateCaseArgs} (h : CreateCaseArgs.modelValidate given = .ok values)
    (hperm : members.Perm (ToolArgs.createCase values).modelDump) :
    CreateCaseArgs.modelValidate members = .ok values := by
  unfold CreateCaseArgs.modelValidate at h
  obtain ⟨customerId, hcustomer, h⟩ := ok_of_bind h
  obtain ⟨_, -, h⟩ := ok_of_bind h
  cases h
  rw [ToolArgs.modelDump, List.perm_singleton] at hperm
  subst hperm
  have hback := optionalUuid_optionJson (optionalUuid_lt hcustomer)
  unfold CreateCaseArgs.modelValidate
  rw [List.lookup_cons, beq_self_eq_true]
  simp only [hback]
  rfl

theorem UpdateCaseFieldsArgs.modelValidate_dump {given members : List (String × Json)}
    {values : UpdateCaseFieldsArgs} (h : UpdateCaseFieldsArgs.modelValidate given = .ok values)
    (hperm : members.Perm (ToolArgs.updateCaseFields values).modelDump) :
    UpdateCaseFieldsArgs.modelValidate members = .ok values := by
  have hlt : values.caseId < 2 ^ 128 := by
    unfold UpdateCaseFieldsArgs.modelValidate at h
    dsimp only at h
    split at h
    · cases h
    · obtain ⟨caseId, hcase, h⟩ := ok_of_bind h
      obtain ⟨_, -, h⟩ := ok_of_bind h
      cases h
      exact parseUuidArgument_lt hcase
  rw [ToolArgs.modelDump, List.perm_singleton] at hperm
  subst hperm
  have hback := parseUuidArgument_uuidString hlt
  unfold UpdateCaseFieldsArgs.modelValidate
  rw [List.lookup_cons, beq_self_eq_true]
  simp only [hback]
  rfl

theorem CreateReplyDraftArgs.modelValidate_dump {given members : List (String × Json)}
    {values : CreateReplyDraftArgs} (h : CreateReplyDraftArgs.modelValidate given = .ok values)
    (hperm : members.Perm (ToolArgs.createReplyDraft values).modelDump) :
    CreateReplyDraftArgs.modelValidate members = .ok values := by
  unfold CreateReplyDraftArgs.modelValidate at h
  obtain ⟨caseId, hcase, h⟩ := ok_of_bind h
  obtain ⟨_, -, h⟩ := ok_of_bind h
  cases h
  rw [ToolArgs.modelDump, List.perm_singleton] at hperm
  subst hperm
  have hback := optionalUuid_optionJson (optionalUuid_lt hcase)
  unfold CreateReplyDraftArgs.modelValidate
  rw [List.lookup_cons, beq_self_eq_true]
  simp only [hback]
  rfl

theorem FlagForReviewArgs.modelValidate_dump {given members : List (String × Json)}
    {values : FlagForReviewArgs} (h : FlagForReviewArgs.modelValidate given = .ok values)
    (hperm : members.Perm (ToolArgs.flagForReview values).modelDump) :
    FlagForReviewArgs.modelValidate members = .ok values := by
  unfold FlagForReviewArgs.modelValidate at h
  obtain ⟨note, -, h⟩ := ok_of_bind h
  dsimp only at h
  split at h
  · cases h
  rename_i hlength
  obtain ⟨_, -, h⟩ := ok_of_bind h
  cases h
  rw [ToolArgs.modelDump, List.perm_singleton] at hperm
  subst hperm
  have hback := optionalStrictStr_optionJson note
  unfold FlagForReviewArgs.modelValidate
  rw [List.lookup_cons, beq_self_eq_true]
  simp only [hback]
  exact if_neg hlength

/-- Arguments that were validated validate again after they were dumped, in
whatever order their members come back, and to the same values. -/
theorem ToolArgs.modelValidate_dump {key : ActionKey} {given members : List (String × Json)}
    {arguments : ToolArgs} (h : ToolArgs.modelValidate key given = .ok arguments)
    (hperm : members.Perm arguments.modelDump) :
    ToolArgs.modelValidate key members = .ok arguments := by
  cases key <;> obtain ⟨values, hvalues, rfl⟩ := ok_of_map h
  case findCustomer =>
    rw [ToolArgs.modelValidate, FindCustomerArgs.modelValidate_dump hvalues hperm]
    rfl
  case createCase =>
    rw [ToolArgs.modelValidate, CreateCaseArgs.modelValidate_dump hvalues hperm]
    rfl
  case updateCaseFields =>
    rw [ToolArgs.modelValidate, UpdateCaseFieldsArgs.modelValidate_dump hvalues hperm]
    rfl
  case createReplyDraft =>
    rw [ToolArgs.modelValidate, CreateReplyDraftArgs.modelValidate_dump hvalues hperm]
    rfl
  case flagForReview =>
    rw [ToolArgs.modelValidate, FlagForReviewArgs.modelValidate_dump hvalues hperm]
    rfl

end IntegraIntake
