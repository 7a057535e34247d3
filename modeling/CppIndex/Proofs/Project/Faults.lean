import CppIndex.Proofs.Project.Places

/-!
# What is wrong with a manifest

A manifest is **valid** if its documents have different names, every entry at every depth is a directive
with nothing inside or an object of one of the four kinds, and every reference has one of the four roles
(`Manifest.Valid`). A manifest is checked item by item, in the order in which it is written
(`Manifest.items`): the name of a document, its entries, each in front of what stands inside it, and its
references. The check finds the first item at fault (`Manifest.fault?_eq_some_iff`), and none exactly if the
manifest is valid (`Manifest.fault?_eq_none_iff`).
-/

namespace CppIndex

/-! ### Words -/

/-- No member of a list has a word for its label that is not among the labels. -/
theorem find?_label_eq_none_iff {α : Type} {label : α → String} {all : List α} {word : String} :
    all.find? (label · == word) = none ↔ word ∉ all.map label := by
  rw [List.find?_eq_none, List.mem_map]
  simp

/-- **The four words for kinds.** -/
theorem ObjectKind.ofLabel?_eq_none_iff {word : String} :
    ofLabel? word = none ↔ word ∉ ["class", "function", "member", "type"] :=
  find?_label_eq_none_iff

/-- **The four words for roles.** -/
theorem Role.ofLabel?_eq_none_iff {word : String} :
    ofLabel? word = none ↔ word ∉ ["class", "func", "member", "type"] :=
  find?_label_eq_none_iff

/-! ### Valid manifests -/

namespace ObjectSpec

/-- **An entry is sound** if it is a directive with nothing inside, or an object of one of the four kinds. What
stands inside an object does not count. -/
def IsSound (o : ObjectSpec) : Prop :=
  (o.kind = "namespace" ∧ o.children = []) ∨ o.kind ∈ ["class", "function", "member", "type"]

end ObjectSpec

/-- **A valid manifest.** -/
structure Manifest.Valid (m : Manifest) : Prop where
  /-- The documents have different names. -/
  names : (m.documents.map (·.name)).Nodup
  /-- Every entry is sound, at every depth. -/
  entries : ∀ d ∈ m.documents, ∀ o, ObjectSpec.Among o d.objects → o.IsSound
  /-- Every reference has one of the four roles. -/
  roles : ∀ d ∈ m.documents, ∀ r ∈ d.references, r.role ∈ ["class", "func", "member", "type"]

/-! ### What is checked -/

/-- **An item** that is checked. -/
inductive CheckItem
  /-- The name of a document, with the names of those before it. -/
  | document (docname : String) (before : List String)
  /-- An entry of a document, whatever stands inside it. -/
  | entry (docname : String) (o : ObjectSpec)
  /-- A reference of a document. -/
  | reference (docname : String) (r : ReferenceSpec)

namespace CheckItem

/-- **An item is at fault.** -/
inductive Faulty : CheckItem → ManifestError → Prop
  /-- A document before this one has its name. -/
  | duplicate {docname : String} {before : List String} (h : docname ∈ before) :
    Faulty (.document docname before) (.duplicateDocument docname)
  /-- Something stands inside a directive. -/
  | children {docname : String} {o : ObjectSpec} (hkind : o.kind = "namespace") (h : o.children ≠ []) :
    Faulty (.entry docname o) (.namespaceChildren docname)
  /-- An object has none of the four kinds. -/
  | kind {docname : String} {o : ObjectSpec} (hkind : o.kind ≠ "namespace")
    (h : o.kind ∉ ["class", "function", "member", "type"]) :
    Faulty (.entry docname o) (.unknownKind docname o.kind)
  /-- A reference has none of the four roles. -/
  | role {docname : String} {r : ReferenceSpec} (h : r.role ∉ ["class", "func", "member", "type"]) :
    Faulty (.reference docname r) (.unknownRole docname r.role)

/-- The fault that the check finds in an item. -/
def fault? : CheckItem → Option ManifestError
  | .document docname before => if docname ∈ before then some (.duplicateDocument docname) else none
  | .entry docname o => o.ownFault? docname
  | .reference docname r => r.fault? docname

variable {i : CheckItem} {e : ManifestError}

/-- A fault is found. -/
theorem Faulty.fault?_eq (h : i.Faulty e) : i.fault? = some e := by
  cases h with
  | duplicate h => exact if_pos h
  | @children docname o hkind h =>
    -- a directive is asked about what stands inside, and an object about its word
    have hword : o.kind = namespaceWord := hkind
    have hinside : ¬ o.children.isEmpty = true := by simpa using h
    rw [fault?, ObjectSpec.ownFault?, if_pos hword, if_neg hinside]
  | @kind docname o hkind h =>
    have hword : ¬ o.kind = namespaceWord := hkind
    have hnone := ObjectKind.ofLabel?_eq_none_iff.mpr h
    rw [fault?, ObjectSpec.ownFault?, if_neg hword, if_pos (Option.isNone_iff_eq_none.mpr hnone)]
  | @role docname r h =>
    have hnone := Role.ofLabel?_eq_none_iff.mpr h
    rw [fault?, ReferenceSpec.fault?, if_pos (Option.isNone_iff_eq_none.mpr hnone)]

/-- What is found is a fault. -/
theorem faulty_of_fault? (h : i.fault? = some e) : i.Faulty e := by
  cases i with
  | document docname before =>
    obtain ⟨hin, he⟩ := Option.ite_none_right_eq_some.mp h
    exact Option.some.inj he ▸ .duplicate hin
  | entry docname o =>
    rw [fault?, ObjectSpec.ownFault?] at h
    -- A directive is at fault for what stands inside it, any other entry for its kind.
    split at h
    next hkind =>
      obtain ⟨hinside, he⟩ := Option.ite_none_left_eq_some.mp h
      exact Option.some.inj he ▸ .children hkind (by simpa using hinside)
    next hkind =>
      obtain ⟨hnone, he⟩ := Option.ite_none_right_eq_some.mp h
      have hword := ObjectKind.ofLabel?_eq_none_iff.mp (Option.isNone_iff_eq_none.mp hnone)
      exact Option.some.inj he ▸ .kind hkind hword
  | reference docname r =>
    obtain ⟨hnone, he⟩ := Option.ite_none_right_eq_some.mp h
    exact Option.some.inj he ▸ .role (Role.ofLabel?_eq_none_iff.mp (Option.isNone_iff_eq_none.mp hnone))

/-- **The check of an item is exact.** -/
theorem fault?_eq_some_iff : i.fault? = some e ↔ i.Faulty e := ⟨faulty_of_fault?, Faulty.fault?_eq⟩

/-- No fault is found in an item exactly if it has none. -/
theorem fault?_eq_none_iff : i.fault? = none ↔ ∀ e, ¬ i.Faulty e := by
  rw [Option.eq_none_iff_forall_ne_some]
  exact forall_congr' fun e => not_congr fault?_eq_some_iff

/-- An entry has no fault exactly if it is sound. -/
theorem fault?_entry_eq_none_iff {docname : String} {o : ObjectSpec} :
    (entry docname o).fault? = none ↔ o.IsSound := by
  rw [fault?_eq_none_iff]
  constructor
  · intro h
    -- a fault would be told, whichever kind of entry it is
    by_cases hkind : o.kind = "namespace"
    · exact Or.inl ⟨hkind, by_contra fun hinside => h _ (.children hkind hinside)⟩
    · exact Or.inr (by_contra fun hword => h _ (.kind hkind hword))
  · intro hsound e hfaulty
    -- an entry can only have the faults of entries
    cases hfaulty with
    | children hkind hinside =>
      rcases hsound with ⟨-, hnil⟩ | hword
      · exact hinside hnil
      · exact absurd (hkind ▸ hword) (by decide)
    | kind hkind hword => exact hsound.elim (fun h => hkind h.1) hword

/-- The name of a document has no fault exactly if no document before it has the name. -/
theorem fault?_document_eq_none_iff {docname : String} {before : List String} :
    (document docname before).fault? = none ↔ docname ∉ before := by
  rw [fault?, ite_eq_right_iff]
  exact forall_congr' fun _ => by simp

/-- A reference has no fault exactly if it has one of the four roles. -/
theorem fault?_reference_eq_none_iff {docname : String} {r : ReferenceSpec} :
    (reference docname r).fault? = none ↔ r.role ∈ ["class", "func", "member", "type"] := by
  rw [fault?_eq_none_iff]
  constructor
  · exact fun h => by_contra fun hword => h _ (.role hword)
  · intro h e hfaulty
    cases hfaulty with
    | role hword => exact hword h

end CheckItem

/-- **The items of a document**: its name, its entries and its references. -/
def DocumentSpec.items (before : List String) (d : DocumentSpec) : List CheckItem :=
  .document d.name before ::
    ((ObjectSpec.placesAll d.name [] [] 0 d.objects).map (fun p => .entry d.name p.entry) ++
      d.references.map (.reference d.name))

namespace Manifest

/-- The items of documents behind others. -/
def itemsAll (before : List String) : List DocumentSpec → List CheckItem
  | [] => []
  | d :: ds => d.items before ++ itemsAll (d.name :: before) ds

/-- **The items of a manifest**, in the order in which they are written. -/
def items (m : Manifest) : List CheckItem := itemsAll [] m.documents

/-- **The first fault** of a manifest: that of an item in front of which nothing is at fault. -/
def HasFirstFault (m : Manifest) (e : ManifestError) : Prop :=
  ∃ front item back, m.items = front ++ item :: back ∧ item.Faulty e ∧ ∀ i ∈ front, ∀ e, ¬ i.Faulty e

end Manifest

/-! ### The check goes through the items -/

/-- What is found first is found in the first member or behind it. -/
theorem findSome?_cons_eq_or {α β : Type} (f : α → Option β) (a : α) (l : List α) :
    (a :: l).findSome? f = (f a).or (l.findSome? f) := by
  rw [List.findSome?_cons]
  cases f a <;> rfl

/-- **Entries are checked in the order of their places.** -/
theorem ObjectSpec.faultInAll?_eq (docname : String) (path : List Nat) (around : List ObjectSpec)
    (n : Nat) (os : List ObjectSpec) : faultInAll? docname os =
      (placesAll docname path around n os).findSome? fun p => p.entry.ownFault? docname := by
  match os with
  | [] =>
    rw [faultInAll?, placesAll_nil]
    rfl
  | .mk kind signature children :: os =>
    -- the object, what stands inside it, and its siblings: the order of the places
    rw [faultInAll?, fault?,
      faultInAll?_eq docname (path ++ [n]) (around ++ [.mk kind signature children]) 0 children,
      faultInAll?_eq docname path around (n + 1) os, placesAll_cons,
      findSome?_cons_eq_or, List.findSome?_append, Option.or_assoc]
    rfl

/-- The check of a document goes through its items. -/
theorem DocumentSpec.fault?_eq (before : List String) (d : DocumentSpec) :
    d.fault? before = (d.items before).findSome? CheckItem.fault? := by
  rw [items, findSome?_cons_eq_or, List.findSome?_append, List.findSome?_map, List.findSome?_map,
    fault?, ObjectSpec.faultInAll?_eq d.name [] [] 0, CheckItem.fault?]
  split <;> rfl

namespace Manifest

variable {m : Manifest} {e : ManifestError}

/-- **The check goes through the items** and stops at the first fault. -/
theorem faultInAll?_eq (before : List String) (ds : List DocumentSpec) :
    faultInAll? before ds = (itemsAll before ds).findSome? CheckItem.fault? := by
  induction ds generalizing before with
  | nil => rfl
  | cons d ds ih =>
    rw [faultInAll?, ih, itemsAll, List.findSome?_append, DocumentSpec.fault?_eq]

/-- **The check finds the first fault.** -/
theorem fault?_eq_some_iff : m.fault? = some e ↔ m.HasFirstFault e := by
  rw [fault?, faultInAll?_eq, List.findSome?_eq_some_iff]
  simp only [CheckItem.fault?_eq_some_iff, CheckItem.fault?_eq_none_iff]
  rfl

/-- A document has no fault if no document before it has its name, its entries are sound and its references have
roles. -/
theorem forall_mem_items_iff {before : List String} {d : DocumentSpec} :
    (∀ i ∈ d.items before, i.fault? = none) ↔
      d.name ∉ before ∧ (∀ o, ObjectSpec.Among o d.objects → o.IsSound) ∧
        ∀ r ∈ d.references, r.role ∈ ["class", "func", "member", "type"] := by
  have hentries : (∀ p ∈ ObjectSpec.placesAll d.name [] [] 0 d.objects,
      (CheckItem.entry d.name p.entry).fault? = none) ↔
        ∀ o, ObjectSpec.Among o d.objects → o.IsSound := by
    -- every entry among the objects is one at a place
    simp only [CheckItem.fault?_entry_eq_none_iff, ← ObjectSpec.exists_place_iff d.name [] [] 0]
    exact ⟨fun h o ⟨p, hp, he⟩ => he ▸ h p hp, fun h p hp => h _ ⟨p, hp, rfl⟩⟩
  simp only [DocumentSpec.items, List.forall_mem_cons, List.forall_mem_append, List.forall_mem_map,
    CheckItem.fault?_document_eq_none_iff, hentries, CheckItem.fault?_reference_eq_none_iff]

/-- Documents have no fault if no two of them share a name, no document before them has one of their names, and
their entries and references have none. -/
theorem forall_mem_itemsAll_iff {before : List String} {ds : List DocumentSpec} :
    (∀ i ∈ itemsAll before ds, i.fault? = none) ↔
      ((ds.map (·.name)).Nodup ∧ ∀ d ∈ ds, d.name ∉ before) ∧
        (∀ d ∈ ds, ∀ o, ObjectSpec.Among o d.objects → o.IsSound) ∧
        ∀ d ∈ ds, ∀ r ∈ d.references, r.role ∈ ["class", "func", "member", "type"] := by
  induction ds generalizing before with
  | nil => simp [itemsAll]
  | cons d ds ih =>
    -- a later document has neither the name of this one nor one from before
    have hfresh : (∀ d' ∈ ds, d'.name ∉ d.name :: before) ↔
        d.name ∉ ds.map (·.name) ∧ ∀ d' ∈ ds, d'.name ∉ before := by
      simp only [List.mem_cons, not_or, List.mem_map, not_exists, not_and, forall_and]
    rw [itemsAll, List.forall_mem_append, forall_mem_items_iff, ih, hfresh, List.map_cons,
      List.nodup_cons, List.forall_mem_cons, List.forall_mem_cons, List.forall_mem_cons]
    tauto

/-- **The check finds nothing** exactly if the manifest is valid. -/
theorem fault?_eq_none_iff : m.fault? = none ↔ m.Valid := by
  rw [fault?, faultInAll?_eq, List.findSome?_eq_none_iff, forall_mem_itemsAll_iff]
  constructor
  · rintro ⟨⟨hnames, -⟩, hentries, hroles⟩
    exact ⟨hnames, hentries, hroles⟩
  · rintro ⟨hnames, hentries, hroles⟩
    exact ⟨⟨hnames, fun _ _ => List.not_mem_nil⟩, hentries, hroles⟩

end Manifest

end CppIndex
