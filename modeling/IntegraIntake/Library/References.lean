import IntegraIntake.Library.Table

/-!
# References between tables

A foreign key says that what a column of one table names stands in another table, under a
key of that table.  The column may be empty, which is no reference.  A reference goes on
holding while the table it points into keeps its keys, and a table of references may be
written to as long as what is written finds its target.
-/

namespace IntegraIntake.Library

variable {Row Target Key : Type*}

/-- What a reference names stands in the table. -/
def Finds (key : Target → Key) (targets : List Target) (reference : Option Key) : Prop :=
  ∀ named, reference = some named → ∃ target ∈ targets, key target = named

/-- Every reference of a table finds its target. -/
def Refers (reference : Row → Option Key) (key : Target → Key) (rows : List Row)
    (targets : List Target) : Prop :=
  ∀ row ∈ rows, Finds key targets (reference row)

/-- No key is lost. -/
def KeepsKeys (key : Target → Key) (before after : List Target) : Prop :=
  ∀ target ∈ before, ∃ later ∈ after, key later = key target

section References

variable {key : Target → Key} {reference : Row → Option Key} {rows : List Row}
  {targets after : List Target} {target : Target}

theorem Finds.none : Finds key targets none := by
  intro named hnamed
  cases hnamed

theorem Finds.of_mem (htarget : target ∈ targets) : Finds key targets (some (key target)) := by
  intro named hnamed
  exact ⟨target, htarget, Option.some.inj hnamed⟩

theorem Finds.mono {named : Option Key} (h : Finds key targets named)
    (hkeeps : KeepsKeys key targets after) : Finds key after named := by
  intro k hk
  obtain ⟨target, htarget, rfl⟩ := h k hk
  exact hkeeps target htarget

theorem KeepsKeys.append (targets added : List Target) :
    KeepsKeys key targets (targets ++ added) :=
  fun target htarget => ⟨target, List.mem_append_left _ htarget, rfl⟩

/-- A row is overwritten by one with the same key. -/
theorem KeepsKeys.replace {Id : Type*} [DecidableEq Id] {id : Target → Id} {changed : Target}
    (hunique : Table.Unique id targets) (htarget : target ∈ targets)
    (hid : id changed = id target) (hkey : key changed = key target) :
    KeepsKeys key targets (Table.replace id changed targets) := by
  intro other hother
  by_cases hsame : id other = id changed
  · rw [hunique.eq hother htarget (hsame.trans hid)]
    exact ⟨changed, Table.mem_replace_self ⟨target, htarget, hid.symm⟩, hkey⟩
  · exact ⟨other, Table.mem_replace_of_ne hother hsame, rfl⟩

theorem Refers.singleton {row : Row} (h : Finds key targets (reference row)) :
    Refers reference key [row] targets := by
  intro other hother
  rwa [List.mem_singleton.1 hother]

theorem Refers.mono (h : Refers reference key rows targets)
    (hkeeps : KeepsKeys key targets after) : Refers reference key rows after :=
  fun row hrow => (h row hrow).mono hkeeps

theorem Refers.append (h : Refers reference key rows targets) {added : List Row}
    (hadded : Refers reference key added targets) :
    Refers reference key (rows ++ added) targets := by
  intro row hrow
  rcases List.mem_append.1 hrow with hold | hnew
  · exact h row hold
  · exact hadded row hnew

theorem Refers.replace {Id : Type*} [DecidableEq Id] {id : Row → Id}
    (h : Refers reference key rows targets) {row : Row}
    (hrow : Finds key targets (reference row)) :
    Refers reference key (Table.replace id row rows) targets := by
  intro other hother
  rcases Table.mem_of_mem_replace hother with rfl | ⟨hold, -⟩
  · exact hrow
  · exact h other hold

end References
end IntegraIntake.Library
