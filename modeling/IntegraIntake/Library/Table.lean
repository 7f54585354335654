import Mathlib.Data.List.Nodup
import Mathlib.Data.List.Forall2

/-!
# Tables of rows

A table is the list of its rows in insertion order.  A key function plays the
part of a primary key or of a unique constraint: `lookup` is a select on it,
`replace` an update of the row with the key of the given row.  Inserting is
appending.
-/

namespace IntegraIntake.Library.Table

variable {Row Key : Type*} [DecidableEq Key]

/-- The row with key `k`, if there is one. -/
def lookup (key : Row → Key) (k : Key) (rows : List Row) : Option Row :=
  rows.find? fun row => key row = k

/-- Overwrite the row that has the key of `row`. -/
def replace (key : Row → Key) (row : Row) (rows : List Row) : List Row :=
  rows.map fun old => if key old = key row then row else old

/-- No two rows share a key. -/
def Unique (key : Row → Key) (rows : List Row) : Prop :=
  (rows.map key).Nodup

variable {key : Row → Key} {rows : List Row} {row other : Row} {k : Key}

theorem mem_of_lookup (h : lookup key k rows = some row) : row ∈ rows :=
  List.mem_of_find?_eq_some h

theorem key_of_lookup (h : lookup key k rows = some row) : key row = k := by
  simpa using List.find?_some h

theorem lookup_eq_none_iff : lookup key k rows = none ↔ ∀ row ∈ rows, key row ≠ k := by
  simp [lookup, List.find?_eq_none]

omit [DecidableEq Key] in
theorem Unique.eq (hunique : Unique key rows) (hrow : row ∈ rows) (hother : other ∈ rows)
    (hkey : key row = key other) : row = other :=
  List.inj_on_of_nodup_map hunique hrow hother hkey

theorem Unique.lookup_eq (hunique : Unique key rows) (hrow : row ∈ rows) :
    lookup key (key row) rows = some row := by
  cases hfound : lookup key (key row) rows with
  | none => exact absurd rfl (lookup_eq_none_iff.1 hfound row hrow)
  | some found =>
      rw [hunique.eq (mem_of_lookup hfound) hrow (key_of_lookup hfound)]

theorem Unique.lookup_eq_some_iff (hunique : Unique key rows) :
    lookup key k rows = some row ↔ row ∈ rows ∧ key row = k := by
  constructor
  · exact fun h => ⟨mem_of_lookup h, key_of_lookup h⟩
  · rintro ⟨hrow, rfl⟩
    exact hunique.lookup_eq hrow

omit [DecidableEq Key] in
/-- A select whose conditions fix the key finds the one row that meets them. -/
theorem Unique.find?_eq (hunique : Unique key rows) {p : Row → Bool} (hrow : row ∈ rows)
    (hp : p row = true) (hkey : ∀ other, p other = true → key other = key row) :
    rows.find? p = some row := by
  cases hfound : rows.find? p with
  | none => exact absurd hp (List.find?_eq_none.1 hfound row hrow)
  | some found =>
      rw [hunique.eq (List.mem_of_find?_eq_some hfound) hrow (hkey found (List.find?_some hfound))]

/-- A select on the key with a further condition. -/
theorem Unique.find?_and (hunique : Unique key rows) (k : Key) (p : Row → Prop) [DecidablePred p] :
    (rows.find? fun row => key row = k ∧ p row) = (lookup key k rows).filter fun row => p row := by
  cases hfound : lookup key k rows with
  | none =>
      rw [Option.filter_none, List.find?_eq_none]
      intro row hrow hboth
      exact lookup_eq_none_iff.1 hfound row hrow (of_decide_eq_true hboth).1
  | some row =>
      have hrow := mem_of_lookup hfound
      have hkey := key_of_lookup hfound
      rw [Option.filter_some]
      split
      · rename_i hp
        have hboth : decide (key row = k ∧ p row) = true :=
          decide_eq_true ⟨hkey, of_decide_eq_true hp⟩
        exact hunique.find?_eq hrow hboth fun other hother =>
          (of_decide_eq_true hother).1.trans hkey.symm
      · rename_i hp
        rw [List.find?_eq_none]
        intro other hother hboth
        obtain ⟨hsame, hother'⟩ := of_decide_eq_true hboth
        rw [hunique.eq hother hrow (hsame.trans hkey.symm)] at hother'
        exact hp (decide_eq_true hother')

/-! ## The first row of a select -/

omit [DecidableEq Key] in
/-- The first row of a select does not depend on the order of the rows exactly when
the select has at most one row. -/
theorem find?_order_free_iff {p : Row → Bool} :
    (∀ order : List Row, order.Perm rows → order.find? p = rows.find? p) ↔
      ∀ row ∈ rows, p row = true → ∀ other ∈ rows, p other = true → row = other := by
  constructor
  · intro hfree row hrow hp other hother hpOther
    -- a row of the select comes first in some order
    have hfirst : ∀ first ∈ rows, p first = true → rows.find? p = some first := by
      intro first hfirst hpFirst
      obtain ⟨before, after, rfl⟩ := List.append_of_mem hfirst
      rw [← hfree (first :: (before ++ after)) List.perm_middle.symm, List.find?_cons, hpFirst]
    exact Option.some.inj ((hfirst row hrow hp).symm.trans (hfirst other hother hpOther))
  · intro hone order hperm
    cases hfound : rows.find? p with
    | none =>
        rw [List.find?_eq_none] at hfound ⊢
        exact fun row hrow => hfound row (hperm.mem_iff.1 hrow)
    | some row =>
        have hrow := List.mem_of_find?_eq_some hfound
        have hp := List.find?_some hfound
        cases hother : order.find? p with
        | none => exact absurd hp (List.find?_eq_none.1 hother row (hperm.mem_iff.2 hrow))
        | some other =>
            rw [hone row hrow hp other (hperm.mem_iff.1 (List.mem_of_find?_eq_some hother))
              (List.find?_some hother)]

omit [DecidableEq Key] in
/-- A select from distinct rows that one row meets and no other. -/
theorem filter_eq_singleton {p : Row → Bool} (hnodup : rows.Nodup) (hrow : row ∈ rows)
    (hp : p row = true) (honly : ∀ other ∈ rows, p other = true → other = row) :
    rows.filter p = [row] := by
  refine List.perm_singleton.1
    ((List.perm_ext_iff_of_nodup (hnodup.filter p) (List.nodup_singleton row)).2 fun other => ?_)
  rw [List.mem_filter, List.mem_singleton]
  constructor
  · exact fun h => honly other h.1 h.2
  · rintro rfl
    exact ⟨hrow, hp⟩

/-! ## Replacing a row -/

theorem mem_replace : other ∈ replace key row rows ↔
    ∃ old ∈ rows, other = if key old = key row then row else old := by
  simp only [replace, List.mem_map, eq_comm]

/-- A row of the updated table is the new row or an untouched old one. -/
theorem mem_of_mem_replace (h : other ∈ replace key row rows) :
    other = row ∨ (other ∈ rows ∧ key other ≠ key row) := by
  obtain ⟨old, hold, rfl⟩ := mem_replace.1 h
  split
  · exact .inl rfl
  · exact .inr ⟨hold, ‹_›⟩

theorem mem_replace_self (h : ∃ old ∈ rows, key old = key row) : row ∈ replace key row rows := by
  obtain ⟨old, hold, hkey⟩ := h
  exact mem_replace.2 ⟨old, hold, by rw [if_pos hkey]⟩

theorem mem_replace_of_ne (hmem : other ∈ rows) (hkey : key other ≠ key row) :
    other ∈ replace key row rows :=
  mem_replace.2 ⟨other, hmem, by rw [if_neg hkey]⟩

/-- Overwriting a row changes no other key, provided the new row keeps the
values of `key'`. -/
theorem map_replace {Key' : Type*} (key' : Row → Key')
    (hkeep : ∀ old ∈ rows, key old = key row → key' old = key' row) :
    (replace key row rows).map key' = rows.map key' := by
  rw [replace, List.map_map]
  apply List.map_congr_left
  intro old hold
  simp only [Function.comp_apply]
  split
  · exact (hkeep old hold ‹_›).symm
  · rfl

theorem map_key_replace : (replace key row rows).map key = rows.map key :=
  map_replace key fun _ _ h => h

theorem Unique.replace (hunique : Unique key rows) : Unique key (replace key row rows) := by
  rw [Unique, map_key_replace]
  exact hunique

/-- Overwriting a row shows in no selection that neither the old nor the new row is in. -/
theorem filter_replace {p : Row → Bool} (hold : ∀ old ∈ rows, key old = key row → p old = false)
    (hrow : p row = false) : (replace key row rows).filter p = rows.filter p := by
  induction rows with
  | nil => rfl
  | cons first rest ih =>
      have hrest := ih fun old hmem => hold old (List.mem_cons_of_mem _ hmem)
      rw [replace] at hrest ⊢
      rw [List.map_cons]
      split
      · rename_i hkey
        rw [List.filter_cons_of_neg (by simp [hrow]), hrest,
          List.filter_cons_of_neg (by simp [hold first List.mem_cons_self hkey])]
      · rw [List.filter_cons, List.filter_cons, hrest]

theorem replace_self (hunique : Unique key rows) (hrow : row ∈ rows) :
    replace key row rows = rows := by
  rw [Table.replace]
  conv_rhs => rw [← List.map_id rows]
  apply List.map_congr_left
  intro old hold
  simp only [id_eq, ite_eq_right_iff]
  exact fun hkey => (hunique.eq hold hrow hkey).symm

/-- Overwriting several rows, each by its image, is a map. -/
theorem foldl_replace (f : Row → Row) (hkey : ∀ row, key (f row) = key row) (selected : List Row)
    (hselected : Unique key selected) (hunique : Unique key rows)
    (hmem : ∀ row ∈ selected, row ∈ rows) :
    selected.foldl (fun table row => replace key (f row) table) rows =
      rows.map fun row => if key row ∈ selected.map key then f row else row := by
  induction selected generalizing rows with
  | nil => simp
  | cons first rest ih =>
      rw [Unique, List.map_cons, List.nodup_cons] at hselected
      rw [List.foldl_cons, ih hselected.2 hunique.replace]
      · rw [Table.replace, List.map_map]
        refine List.map_congr_left fun row hrow => ?_
        simp only [Function.comp_apply, hkey, List.map_cons, List.mem_cons]
        by_cases hfirst : key row = key first
        · have hsame : row = first := hunique.eq hrow (hmem first List.mem_cons_self) hfirst
          simp [hsame, hkey, hselected.1]
        · simp [hfirst]
      · intro row hrow
        refine mem_replace_of_ne (hmem row (List.mem_cons_of_mem _ hrow)) fun hsame => ?_
        exact hselected.1 (List.mem_map.2 ⟨row, hrow, hsame.trans (hkey first)⟩)

theorem lookup_replace (hunique : Unique key rows) (hthere : ∃ old ∈ rows, key old = key row)
    (k : Key) : lookup key k (replace key row rows) =
      if k = key row then some row else lookup key k rows := by
  split
  · rename_i hsame
    rw [hsame]
    exact hunique.replace.lookup_eq (mem_replace_self hthere)
  · rename_i hother
    cases hfound : lookup key k rows with
    | none =>
        rw [lookup_eq_none_iff] at hfound ⊢
        intro row' hrow'
        rcases mem_of_mem_replace hrow' with rfl | ⟨hold, -⟩
        · exact fun hkey => hother hkey.symm
        · exact hfound row' hold
    | some found =>
        have hkey := key_of_lookup hfound
        have hkept : found ∈ replace key row rows :=
          mem_replace_of_ne (mem_of_lookup hfound) fun hsame => hother (hkey ▸ hsame)
        rw [← hkey]
        exact hunique.replace.lookup_eq hkept

omit [DecidableEq Key] in
/-- An update of any rows that leaves a column alone. -/
theorem Unique.map {f : Row → Row} (hunique : Unique key rows)
    (hkey : ∀ row, key (f row) = key row) : Unique key (rows.map f) := by
  have hkept : (rows.map f).map key = rows.map key := by
    rw [List.map_map]
    exact List.map_congr_left fun row _ => hkey row
  rw [Unique, hkept]
  exact hunique

/-! ## Inserting a row -/

omit [DecidableEq Key] in
theorem Unique.append (hunique : Unique key rows) (hfresh : ∀ old ∈ rows, key old ≠ key row) :
    Unique key (rows ++ [row]) := by
  rw [Unique, List.map_append, List.nodup_append]
  refine ⟨hunique, by simp, ?_⟩
  intro a ha b hb
  obtain ⟨old, hold, rfl⟩ := List.mem_map.1 ha
  simp only [List.map_cons, List.map_nil, List.mem_singleton] at hb
  exact hb ▸ hfresh old hold

theorem lookup_append (h : lookup key k rows = none) :
    lookup key k (rows ++ [row]) = if key row = k then some row else none := by
  rw [lookup, List.find?_append]
  rw [lookup] at h
  rw [h]
  simp only [Option.none_or, List.find?_cons, List.find?_nil]
  split <;> simp_all

theorem lookup_append_fresh (hfresh : ∀ old ∈ rows, key old ≠ key row) (k : Key) :
    lookup key k (rows ++ [row]) = if k = key row then some row else lookup key k rows := by
  cases hfound : lookup key k rows with
  | none =>
      rw [lookup_append hfound]
      simp only [eq_comm]
  | some found =>
      have hother : k ≠ key row := key_of_lookup hfound ▸ hfresh found (mem_of_lookup hfound)
      rw [if_neg hother, lookup, List.find?_append]
      rw [lookup] at hfound
      rw [hfound, Option.some_or]

end IntegraIntake.Library.Table
