/-!
# Claimed anchors

Inside a document an anchor belongs to the first object that claims it; a later claim of the same
anchor fails and changes nothing, until the document is cleared.
-/

namespace CppIndex

/-- **The anchors claimed so far**, each with its document. -/
structure Anchors where
  /-- The claimed pairs of document and anchor, the latest first. -/
  claimed : List (String × String) := []
  deriving DecidableEq, Repr

namespace Anchors

variable (a : Anchors)

/-- Whether an anchor of a document is claimed. -/
def contains (docname anchor : String) : Bool := a.claimed.contains (docname, anchor)

/-- The anchors with one more of them claimed; a claim that was made before changes nothing. -/
def claim (docname anchor : String) : Anchors :=
  if a.contains docname anchor then a else ⟨(docname, anchor) :: a.claimed⟩

/-- **Clearing a document** gives up every claim in it. -/
def clear (docname : String) : Anchors := ⟨a.claimed.filter fun p => p.1 ≠ docname⟩

/-- After a claim the anchor is claimed, and every other anchor is claimed if it was. -/
theorem contains_claim (docname anchor doc' anchor' : String) :
    (a.claim docname anchor).contains doc' anchor' =
      (decide (doc' = docname ∧ anchor' = anchor) || a.contains doc' anchor') := by
  by_cases h : a.contains docname anchor = true
  · by_cases he : doc' = docname ∧ anchor' = anchor
    · obtain ⟨rfl, rfl⟩ := he
      simp [claim, h]
    · simp [claim, h, he]
  · simp only [claim, h]
    simp [contains, Prod.ext_iff]

/-- Clearing a document leaves exactly the claims in other documents. -/
theorem contains_clear (docname doc' anchor' : String) :
    (a.clear docname).contains doc' anchor' =
      (decide (doc' ≠ docname) && a.contains doc' anchor') := by
  by_cases h : doc' = docname <;> simp [clear, contains, List.contains_eq_mem, h]

end Anchors

end CppIndex
