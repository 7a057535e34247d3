import CppIndex.Index.Registry
import Mathlib.Data.List.Basic
import Mathlib.Data.List.Perm.Basic

/-!
# Sorted rows as a table

Sorted rows hold every name once, so a row is in the list exactly if it is what its name is looked up as
(`Record.Sorted.find?_eq_some_iff`), and two tables that answer alike are the same
(`Record.Sorted.ext`). Clearing a document is then described by what names are looked up as
afterwards (`Registry.get?_clear`), and a registration makes the table longer exactly if its name is new
(`Record.Sorted.length_insertInto`).
-/

namespace CppIndex

namespace Record

variable {rows : List Record} {r new : Record} {name : String} {entry : Entry}

/-- **Every row is found by its name**, because no two sorted rows have the same. -/
theorem Sorted.find?_of_mem (h : Sorted rows) (hr : r ∈ rows) :
    find? r.fullname rows = some r.entry := by
  induction rows with
  | nil => cases hr
  | cons first rows ih =>
    obtain ⟨hfirst, hrows⟩ := List.pairwise_cons.mp h
    rcases List.mem_cons.mp hr with rfl | hr
    · exact if_pos rfl
    · -- the order is strict, so no earlier row has the same name
      have hne : first.fullname ≠ r.fullname := fun he =>
        String.lt_irrefl _ (he ▸ hfirst r hr)
      rw [find?, if_neg hne]
      exact ih hrows hr

/-- What a name is looked up as stands in a row. -/
theorem mem_of_find? (h : find? name rows = some entry) : ⟨name, entry⟩ ∈ rows := by
  induction rows with
  | nil => cases h
  | cons first rows ih =>
    rw [find?] at h
    split at h
    next hname =>
      obtain rfl := Option.some.inj h
      exact hname ▸ List.mem_cons_self ..
    next => exact List.mem_cons_of_mem _ (ih h)

/-- **The rows are a table**: they hold what their names are looked up as. -/
theorem Sorted.find?_eq_some_iff (h : Sorted rows) :
    find? name rows = some entry ↔ ⟨name, entry⟩ ∈ rows :=
  ⟨mem_of_find?, fun hm => h.find?_of_mem hm⟩

/-- A name without a row is looked up in vain. -/
theorem find?_eq_none (h : ∀ r ∈ rows, r.fullname ≠ name) : find? name rows = none := by
  cases hfind : find? name rows with
  | none => rfl
  | some entry => exact absurd rfl (h _ (mem_of_find? hfind))

/-- In two lists one behind the other a name is looked up in the first before the second. -/
theorem find?_append (first second : List Record) :
    find? name (first ++ second) = (find? name first).or (find? name second) := by
  induction first with
  | nil => rfl
  | cons r first ih =>
    rw [List.cons_append, find?, find?, ih]
    split <;> rfl

/-- **Tables that answer alike are the same.** -/
theorem Sorted.ext {rows' : List Record} (h : Sorted rows) (h' : Sorted rows')
    (hfind : ∀ name, find? name rows = find? name rows') : rows = rows' := by
  have hnodup : ∀ {rs : List Record}, Sorted rs → rs.Nodup := by
    intro rs hrs
    refine List.Pairwise.imp ?_ hrs
    rintro a b hlt rfl
    exact String.lt_irrefl _ hlt
  -- looking up tells which rows there are, and the order leaves one list of them
  have hmem : ∀ r, r ∈ rows ↔ r ∈ rows' := fun r => by
    rw [show r = ⟨r.fullname, r.entry⟩ from rfl, ← h.find?_eq_some_iff, hfind,
      h'.find?_eq_some_iff]
  have hperm := (List.perm_ext_iff_of_nodup (hnodup h) (hnodup h')).mpr hmem
  exact hperm.eq_of_pairwise
    (fun _ _ _ _ hlt hgt => absurd (String.lt_trans hlt hgt) (String.lt_irrefl _)) h h'

/-- **A registration makes the table longer** by one row if the name is new, and leaves its length as
it is otherwise. -/
theorem Sorted.length_insertInto (h : Sorted rows) (new : Record) :
    (new.insertInto rows).length =
      rows.length + if (find? new.fullname rows).isSome then 0 else 1 := by
  induction rows with
  | nil => rfl
  | cons first rows ih =>
    obtain ⟨hfirst, hrows⟩ := List.pairwise_cons.mp h
    rw [Record.insertInto]
    split
    next hlt =>
      -- the name stands before the first row, so it stands in none
      have hnone : find? new.fullname (first :: rows) = none := by
        refine find?_eq_none fun r hr he => ?_
        rcases List.mem_cons.mp hr with rfl | hr
        · exact String.lt_irrefl _ (he ▸ hlt)
        · exact String.lt_irrefl _ (he ▸ String.lt_trans hlt (hfirst r hr))
      rw [hnone]
      rfl
    next =>
      split
      next heq =>
        rw [find?, if_pos heq.symm]
        rfl
      next hne =>
        rw [find?, if_neg (Ne.symm hne), List.length_cons, ih hrows, List.length_cons]
        omega

end Record

namespace Registry

variable {r : Registry}

/-- After a document was cleared a name has the entry it had, unless that was an entry of the
document. -/
theorem get?_clear (h : Record.Sorted r.rows) (docname name : String) :
    (r.clear docname).get? name = (r.get? name).filter (·.docname ≠ docname) := by
  refine Option.ext fun entry => ?_
  have hclear : Record.Sorted (r.clear docname).rows := sorted_clear h docname
  rw [get?, hclear.find?_eq_some_iff, Option.filter_eq_some_iff, get?, h.find?_eq_some_iff]
  exact List.mem_filter

end Registry

end CppIndex
