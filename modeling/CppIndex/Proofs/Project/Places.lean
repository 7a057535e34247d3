import CppIndex.Proofs.Project.Rejected

/-!
# Places in a manifest

Every entry of a manifest has a **place**: the document, the way to it from the outside inwards, and the objects
around it. The places are listed in the order in which the entries are written, an object in front of what
stands inside it (`Manifest.places`), and every entry at every depth has one (`ObjectSpec.exists_place_iff`).

A build does not come to every entry. An entry is **visited** if the text of every object around it is read
(`Place.isVisited`): nothing inside any other object is visited (`ObjectSpec.visitedAll_eq_nil`), and what is
visited behind an object is found level by level (`ObjectSpec.visitedAll_cons`). Of the visited entries the
objects whose own text is read are **reported**.
-/

namespace CppIndex

/-- **A place**: an entry of a manifest and where it stands. -/
structure Place where
  /-- The name of the document. -/
  docname : String
  /-- The number of the entry on every level, from the outside inwards. -/
  path : List Nat
  /-- The objects around the entry, from the outside inwards. -/
  around : List ObjectSpec
  /-- The entry. -/
  entry : ObjectSpec

/-- An entry is **visited** if the text of every object around it is read. -/
def Place.isVisited (p : Place) : Bool := p.around.all ObjectSpec.isRead

/-- Whether the entry is an object whose text is read. -/
def Place.isRead (p : Place) : Bool := p.entry.isRead

namespace ObjectSpec

/-! ### All places -/

/-- **An entry stands among objects**, at any depth. -/
inductive Among (entry : ObjectSpec) : List ObjectSpec → Prop
  /-- It is one of them. -/
  | here {os : List ObjectSpec} (h : entry ∈ os) : Among entry os
  /-- It stands inside one of them. -/
  | inside {o : ObjectSpec} {os : List ObjectSpec} (ho : o ∈ os) (h : Among entry o.children) :
    Among entry os

mutual

/-- **The places of an object** and of what stands inside it. -/
def places (docname : String) (path : List Nat) (around : List ObjectSpec) : ObjectSpec → List Place
  | .mk kind signature children =>
    ⟨docname, path, around, .mk kind signature children⟩ ::
      placesAll docname path (around ++ [.mk kind signature children]) 0 children

/-- The places of objects that are numbered from `n` on. -/
def placesAll (docname : String) (path : List Nat) (around : List ObjectSpec) (n : Nat) :
    List ObjectSpec → List Place
  | [] => []
  | o :: os => places docname (path ++ [n]) around o ++ placesAll docname path around (n + 1) os

end

variable {docname : String} {path : List Nat} {around os : List ObjectSpec} {n : Nat} {o : ObjectSpec}
  {p : Place}

/-- An object stands in front of what is inside it. -/
theorem places_eq (docname : String) (path : List Nat) (around : List ObjectSpec) (o : ObjectSpec) :
    places docname path around o =
      ⟨docname, path, around, o⟩ :: placesAll docname path (around ++ [o]) 0 o.children := by
  cases o
  rw [places]
  rfl

theorem placesAll_nil : placesAll docname path around n [] = [] := by
  rw [placesAll]

theorem placesAll_cons : placesAll docname path around n (o :: os) =
    ⟨docname, path ++ [n], around, o⟩ ::
      (placesAll docname (path ++ [n]) (around ++ [o]) 0 o.children ++
        placesAll docname path around (n + 1) os) := by
  rw [placesAll, places_eq, List.cons_append]

/-- A way that goes through a member of a level leads below the level. -/
theorem below_of_concat_prefix {way : List Nat} (h : path ++ [n] <+: way) : path <+: way ∧ way ≠ path := by
  refine ⟨(List.prefix_append _ _).trans h, ?_⟩
  rintro rfl
  -- the way is longer, by the number of the member at least
  have hle := h.length_le
  rw [List.length_append, List.length_singleton] at hle
  omega

/-- **A place among objects** lies in their document, below their path and inside the objects around
them. -/
theorem below_of_mem_placesAll {docname : String} {path : List Nat} {around : List ObjectSpec} {n : Nat}
    (os : List ObjectSpec) (h : p ∈ placesAll docname path around n os) :
    p.docname = docname ∧ (path <+: p.path ∧ p.path ≠ path) ∧ around <+: p.around := by
  match os with
  | [] =>
    rw [placesAll_nil] at h
    cases h
  | .mk kind signature children :: os =>
    rw [placesAll_cons] at h
    rcases List.mem_cons.mp h with rfl | h
    · exact ⟨rfl, below_of_concat_prefix List.prefix_rfl, List.prefix_rfl⟩
    · -- the places inside have one more number in front, and one more entry around them
      rcases List.mem_append.mp h with h | h
      · obtain ⟨hdoc, ⟨hpath, -⟩, haround⟩ := below_of_mem_placesAll children h
        exact ⟨hdoc, below_of_concat_prefix hpath, (List.prefix_append _ _).trans haround⟩
      · exact below_of_mem_placesAll os h

/-- An entry among objects is the first of them, or stands inside it, or among the others. -/
theorem among_cons_iff {entry : ObjectSpec} :
    Among entry (o :: os) ↔ entry = o ∨ Among entry o.children ∨ Among entry os := by
  constructor
  · -- an entry stands in the list or inside one of it, and each may be the first or a later one
    rintro (h | ⟨ho, h⟩)
    · exact (List.mem_cons.mp h).imp_right fun h => Or.inr (.here h)
    · rcases List.mem_cons.mp ho with rfl | ho
      · exact Or.inr (Or.inl h)
      · exact Or.inr (Or.inr (.inside ho h))
  · rintro (rfl | h | h | ⟨ho, h⟩)
    · exact .here (List.mem_cons_self ..)
    · exact .inside (List.mem_cons_self ..) h
    · exact .here (List.mem_cons_of_mem _ h)
    · exact .inside (List.mem_cons_of_mem _ ho) h

/-- **Every entry has a place**, at every depth, and nothing else has. -/
theorem exists_place_iff {entry : ObjectSpec} (docname : String) (path : List Nat)
    (around : List ObjectSpec) (n : Nat) (os : List ObjectSpec) :
    (∃ p ∈ placesAll docname path around n os, entry = p.entry) ↔ Among entry os := by
  match os with
  | [] =>
    rw [placesAll_nil]
    -- nothing stands in an empty list
    refine iff_of_false (by simp) ?_
    rintro (h | ⟨h, -⟩) <;> cases h
  | .mk kind signature children :: os =>
    rw [placesAll_cons, among_cons_iff, List.exists_mem_cons_iff]
    simp only [List.mem_append, or_and_right, exists_or]
    exact or_congr_right (or_congr (exists_place_iff _ _ _ _ children) (exists_place_iff _ _ _ _ os))

/-! ### Visited places -/

/-- The visited places of objects that are numbered from `n` on. -/
def visitedAll (docname : String) (path : List Nat) (around : List ObjectSpec) (n : Nat)
    (os : List ObjectSpec) : List Place :=
  (placesAll docname path around n os).filter Place.isVisited

/-- What stands inside an object is visited if the object is and its text is read. -/
theorem all_isRead_concat (around : List ObjectSpec) (o : ObjectSpec) :
    (around ++ [o]).all isRead = (around.all isRead && o.isRead) := by
  rw [List.all_append, List.all_cons, List.all_nil, Bool.and_true]

/-- **Nothing is visited** inside an object whose text is not read. -/
theorem visitedAll_eq_nil (h : around.all isRead = false) : visitedAll docname path around n os = [] := by
  refine List.filter_eq_nil_iff.mpr fun p hp hvisited => ?_
  obtain ⟨-, -, inner, haround⟩ := below_of_mem_placesAll os hp
  rw [Place.isVisited, ← haround, List.all_append, h, Bool.false_and] at hvisited
  cases hvisited

theorem visitedAll_nil : visitedAll docname path around n [] = [] := by
  rw [visitedAll, placesAll_nil]
  rfl

/-- **What is visited**: an object, then what stands inside it if its text is read, then what follows it. -/
theorem visitedAll_cons (h : around.all isRead = true) :
    visitedAll docname path around n (o :: os) =
      ⟨docname, path ++ [n], around, o⟩ ::
        ((if o.isRead then visitedAll docname (path ++ [n]) (around ++ [o]) 0 o.children else []) ++
          visitedAll docname path around (n + 1) os) := by
  -- behind an entry that is not read nothing is visited, since it is among what stands around
  have hinside : visitedAll docname (path ++ [n]) (around ++ [o]) 0 o.children =
      if o.isRead then visitedAll docname (path ++ [n]) (around ++ [o]) 0 o.children else [] := by
    split
    next => rfl
    next hread =>
      refine visitedAll_eq_nil ?_
      rw [all_isRead_concat, h, eq_false_of_ne_true hread, Bool.true_and]
  have hvisited : Place.isVisited ⟨docname, path ++ [n], around, o⟩ = true := h
  rw [← hinside, visitedAll, placesAll_cons, List.filter_cons_of_pos hvisited, List.filter_append]
  rfl

/-- **The reported places**: those of the visited objects whose text is read. -/
def reportedAll (docname : String) (path : List Nat) (around : List ObjectSpec) (n : Nat)
    (os : List ObjectSpec) : List Place :=
  (visitedAll docname path around n os).filter Place.isRead

theorem reportedAll_nil : reportedAll docname path around n [] = [] := by
  rw [reportedAll, visitedAll_nil]
  rfl

/-- An object whose text is read is reported, in front of what stands inside it. -/
theorem reportedAll_cons_of_read (h : around.all isRead = true) (ho : o.isRead = true) :
    reportedAll docname path around n (o :: os) =
      ⟨docname, path ++ [n], around, o⟩ ::
        (reportedAll docname (path ++ [n]) (around ++ [o]) 0 o.children ++
          reportedAll docname path around (n + 1) os) := by
  have hread : Place.isRead ⟨docname, path ++ [n], around, o⟩ = true := ho
  rw [reportedAll, visitedAll_cons h, List.filter_cons_of_pos hread, List.filter_append, if_pos ho]
  rfl

/-- Any other entry is not reported, and nothing inside it is. -/
theorem reportedAll_cons_of_not_read (h : around.all isRead = true) (ho : o.isRead = false) :
    reportedAll docname path around n (o :: os) = reportedAll docname path around (n + 1) os := by
  have hread : ¬ Place.isRead ⟨docname, path ++ [n], around, o⟩ = true := by
    rw [Place.isRead, ho]
    exact Bool.false_ne_true
  rw [reportedAll, visitedAll_cons h, List.filter_cons_of_neg hread, ho, if_neg Bool.false_ne_true,
    List.nil_append]
  rfl

end ObjectSpec

/-! ### The places of a manifest -/

namespace Manifest

variable (m : Manifest)

/-- **The places of a manifest**, document by document. -/
def places : List Place :=
  m.documents.flatMap fun d => ObjectSpec.placesAll d.name [] [] 0 d.objects

/-- **The visited places** of a manifest. -/
def visited : List Place := m.places.filter Place.isVisited

/-- **The reported places** of a manifest. -/
def reported : List Place := m.visited.filter Place.isRead

/-- The visited places are those of each document. -/
theorem visited_eq : m.visited =
    m.documents.flatMap fun d => ObjectSpec.visitedAll d.name [] [] 0 d.objects :=
  List.filter_flatMap

/-- The reported places are those of each document. -/
theorem reported_eq : m.reported =
    m.documents.flatMap fun d => ObjectSpec.reportedAll d.name [] [] 0 d.objects := by
  rw [reported, visited_eq, List.filter_flatMap]
  rfl

end Manifest

end CppIndex
