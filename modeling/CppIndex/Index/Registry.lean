import CppIndex.Config
import CppIndex.Declaration.Basic

/-!
# The registry

The registry holds one **entry** per full name: the document, the kind and the anchor under which the
object is described. It is a list of rows in strictly increasing order of their names, which is the
order of their code points and so of their bytes. The last registration of a name wins; under the
policy `warn` a replacement by a different entry leaves a **collision** behind.

The view of a registry is `Registry.get?`, and each operation has its law about it
(`get?_insert`, `get?_clear`). Rows stay sorted under every operation (`Registry.Sorted`).
-/

namespace CppIndex

/-- **Where an object is described.** -/
structure Entry where
  /-- The name of the document. -/
  docname : String
  /-- The kind of the object. -/
  kind : ObjectKind
  /-- The anchor inside the document. -/
  anchor : String
  deriving DecidableEq, Repr

/-- A name with its entry. -/
structure Record where
  /-- The full name. -/
  fullname : String
  /-- Where the object is described. -/
  entry : Entry
  deriving DecidableEq, Repr

/-- A name that was registered again with a different entry. -/
structure Collision where
  /-- The full name. -/
  fullname : String
  /-- The entry that was replaced. -/
  previous : Entry
  /-- The entry that replaced it. -/
  replacement : Entry
  deriving DecidableEq, Repr

/-! ### Sorted rows -/

namespace Record

/-- The entry of a name in a list of rows. -/
def find? (name : String) : List Record → Option Entry
  | [] => none
  | r :: rows => if r.fullname = name then some r.entry else find? name rows

/-- Rows with a name set to an entry, in their place in the order of names. -/
def insertInto (new : Record) : List Record → List Record
  | [] => [new]
  | r :: rows =>
    if new.fullname < r.fullname then new :: r :: rows
    else if new.fullname = r.fullname then new :: rows
    else r :: insertInto new rows

/-- Rows are **sorted** if their names strictly increase. -/
def Sorted (rows : List Record) : Prop := rows.Pairwise fun a b => a.fullname < b.fullname

/-- The names after an insertion are those before it and the new one. -/
theorem fullname_of_mem_insertInto {new r : Record} {rows : List Record}
    (h : r ∈ insertInto new rows) : r = new ∨ r ∈ rows := by
  induction rows with
  | nil => simpa [insertInto] using h
  | cons a rows ih =>
    simp only [insertInto] at h
    split at h
    · simpa using h
    · split at h
      · rcases List.mem_cons.mp h with h | h
        · exact Or.inl h
        · exact Or.inr (List.mem_cons_of_mem _ h)
      · rcases List.mem_cons.mp h with h | h
        · exact Or.inr (h ▸ List.mem_cons_self ..)
        · exact (ih h).imp_right (List.mem_cons_of_mem _)

/-- A name that is not smaller and not equal is greater. -/
theorem lt_of_not_lt_of_ne {a b : String} (h : ¬a < b) (hne : a ≠ b) : b < a :=
  String.not_le.mp fun hle => hne (String.le_antisymm hle (String.not_lt.mp h))

/-- Insertion keeps rows sorted. -/
theorem Sorted.insertInto {rows : List Record} (h : Sorted rows) (new : Record) :
    Sorted (new.insertInto rows) := by
  induction rows with
  | nil => simp [Record.insertInto, Sorted]
  | cons r rows ih =>
    obtain ⟨hr, hrows⟩ := List.pairwise_cons.mp h
    simp only [Record.insertInto]
    split
    -- the new row goes in front
    next hlt =>
      refine List.pairwise_cons.mpr ⟨fun x hx => ?_, h⟩
      rcases List.mem_cons.mp hx with rfl | hx
      · exact hlt
      · exact String.lt_trans hlt (hr x hx)
    next hlt =>
      split
      -- the new row takes the place of the first
      next heq => exact List.pairwise_cons.mpr ⟨fun x hx => heq ▸ hr x hx, hrows⟩
      next hne =>
        refine List.pairwise_cons.mpr ⟨fun x hx => ?_, ih hrows⟩
        rcases fullname_of_mem_insertInto hx with rfl | hx
        · exact lt_of_not_lt_of_ne hlt hne
        · exact hr x hx

/-- After an insertion the new name has the new entry, and every other name has the entry it had. -/
theorem find?_insertInto (new : Record) (rows : List Record) (name : String) :
    find? name (new.insertInto rows) =
      if new.fullname = name then some new.entry else find? name rows := by
  induction rows with
  | nil => simp [insertInto, find?]
  | cons r rows ih =>
    simp only [insertInto]
    split
    · simp [find?]
    · split
      next heq =>
        simp only [find?, ← heq]
        split <;> rfl
      next hne =>
        simp only [find?, ih]
        split
        next hr => rw [if_neg (fun h => hne (h.trans hr.symm))]
        next => rfl

end Record

/-! ### The registry -/

/-- **The registry**: rows by name, and the collisions so far, in the order in which they
occurred. -/
structure Registry where
  /-- What happens when a name is registered twice. -/
  policy : CollisionPolicy
  /-- The rows, in strictly increasing order of names. -/
  rows : List Record := []
  /-- The recorded collisions. -/
  collisions : List Collision := []
  deriving DecidableEq, Repr

namespace Registry

variable (r : Registry)

/-- The entry registered under a name. -/
def get? (name : String) : Option Entry := Record.find? name r.rows

/-- The number of registered names. -/
def size : Nat := r.rows.length

/-- Whether no name is registered. -/
def isEmpty : Bool := r.rows.isEmpty

/-- The collision that arises when a name is set to an entry: only under the policy `warn`, and only
if the name has a different entry. -/
def collision? (new : Record) : Option Collision :=
  match r.policy, r.get? new.fullname with
  | .warn, some previous =>
    if previous = new.entry then none else some ⟨new.fullname, previous, new.entry⟩
  | _, _ => none

/-- **Registration** of a name with an entry. What it replaces is `r.get? new.fullname`. -/
def insert (new : Record) : Registry :=
  { r with
    rows := new.insertInto r.rows
    collisions := r.collisions ++ (r.collision? new).toList }

/-- **Clearing a document** removes every row of it. -/
def clear (docname : String) : Registry :=
  { r with rows := r.rows.filter fun row => row.entry.docname ≠ docname }

/-! ### Laws -/

@[simp] theorem policy_insert (new : Record) : (r.insert new).policy = r.policy := rfl

@[simp] theorem policy_clear (docname : String) : (r.clear docname).policy = r.policy := rfl

@[simp] theorem collisions_clear (docname : String) :
    (r.clear docname).collisions = r.collisions := rfl

/-- After a registration the name has its entry, and every other name the entry it had. -/
theorem get?_insert (new : Record) (name : String) :
    (r.insert new).get? name = if new.fullname = name then some new.entry else r.get? name :=
  Record.find?_insertInto new r.rows name

/-- Registration keeps the rows sorted. -/
theorem sorted_insert {r : Registry} (h : Record.Sorted r.rows) (new : Record) :
    Record.Sorted (r.insert new).rows :=
  Record.Sorted.insertInto h new

/-- Clearing a document keeps the rows sorted. -/
theorem sorted_clear {r : Registry} (h : Record.Sorted r.rows) (docname : String) :
    Record.Sorted (r.clear docname).rows :=
  h.sublist List.filter_sublist

end Registry

end CppIndex
