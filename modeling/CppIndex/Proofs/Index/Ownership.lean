import CppIndex.Proofs.Index.Log

/-!
# Every anchor has one owner

The registry does not look at anchors, but no two of its rows ever share one: an object is registered
only if its anchor was free, every registered anchor is claimed, and the claims of a document are given
up together with its rows. This is the invariant `Index.Owned`, which every event keeps
(`Index.owned_after`).

A document that was cleared has no rows until an object is described in it again
(`Index.absent_run`).
-/

namespace CppIndex

namespace Index

variable {ix : Index} {docname : String} {d : Described} {r : Record}

/-! ### The rows after an event -/

/-- A row behind a registration is the new one or was there before. -/
theorem mem_objects_add (h : r ∈ (ix.add docname d).objects) :
    d.registered = true ∧ r = d.row docname ∨ r ∈ ix.objects := by
  cases hd : d.registered with
  | false =>
    rw [add_eq_self docname hd] at h
    exact Or.inr h
  | true =>
    rw [objects_add docname hd] at h
    exact (Record.fullname_of_mem_insertInto h).imp_left fun hr => ⟨rfl, hr⟩

/-- The rows that clearing a document leaves. -/
theorem mem_objects_clear :
    r ∈ (ix.clear docname).objects ↔ r ∈ ix.objects ∧ r.entry.docname ≠ docname := by
  have hrows : (ix.clear docname).objects = ix.objects.filter fun r => r.entry.docname ≠ docname := rfl
  rw [hrows, List.mem_filter, decide_eq_true_iff]

/-! ### Owners -/

/-- **Every anchor has one owner**: the anchor of every row is claimed, and no two rows have one. -/
structure Owned (ix : Index) : Prop where
  /-- The rows are sorted. -/
  sorted : Record.Sorted ix.objects
  /-- The anchor of every row is claimed. -/
  claimed : ∀ r ∈ ix.objects, ix.anchors.contains r.entry.docname r.entry.anchor = true
  /-- Two rows with one anchor are the same. -/
  unique : ∀ r ∈ ix.objects, ∀ s ∈ ix.objects,
    r.entry.docname = s.entry.docname → r.entry.anchor = s.entry.anchor → r = s

/-- **A free anchor belongs to no row.** -/
theorem Owned.ne_of_free {anchor : String} (h : ix.Owned)
    (hfree : ix.anchors.contains docname anchor = false) (hr : r ∈ ix.objects)
    (hdoc : r.entry.docname = docname) : r.entry.anchor ≠ anchor := by
  rintro rfl
  have hclaimed := h.claimed r hr
  rw [hdoc, hfree] at hclaimed
  cases hclaimed

/-- **A registration under a free anchor** gives the anchor its owner. -/
theorem Owned.add (h : ix.Owned) (ha : ix.Agrees (.described docname d)) :
    (ix.add docname d).Owned := by
  cases hd : d.registered with
  | false => rwa [add_eq_self docname hd]
  | true =>
    -- a described object is registered only if its anchor was free
    have hfree := ha.free hd
    refine ⟨sorted_add h.sorted docname d, fun r hr => ?_, fun r hr s hs hdoc hanchor => ?_⟩
    · rw [contains_add docname hd]
      rcases mem_objects_add hr with ⟨-, rfl⟩ | hr
      · simp [Described.row]
      · simp [h.claimed r hr]
    · -- an old row cannot share the anchor of the new one, because it was free
      rcases mem_objects_add hr with ⟨-, rfl⟩ | hr <;> rcases mem_objects_add hs with ⟨-, rfl⟩ | hs
      · rfl
      · exact absurd hanchor.symm (h.ne_of_free hfree hs hdoc.symm)
      · exact absurd hanchor (h.ne_of_free hfree hr hdoc)
      · exact h.unique r hr s hs hdoc hanchor

/-- **Clearing a document** leaves the other documents their anchors. -/
theorem Owned.clear (h : ix.Owned) (docname : String) : (ix.clear docname).Owned := by
  refine ⟨Registry.sorted_clear h.sorted docname, fun r hr => ?_, fun r hr s hs => ?_⟩
  · -- a row that is left is one of another document, whose claims are not touched
    obtain ⟨hr, hdoc⟩ := mem_objects_clear.mp hr
    have hcontains : (ix.clear docname).anchors.contains r.entry.docname r.entry.anchor =
        (decide (r.entry.docname ≠ docname) &&
          ix.anchors.contains r.entry.docname r.entry.anchor) := Anchors.contains_clear _ _ _ _
    rw [hcontains, h.claimed r hr, decide_eq_true hdoc]
    rfl
  · -- the rows that are left were there before
    exact h.unique r (mem_objects_clear.mp hr).1 s (mem_objects_clear.mp hs).1

/-- **Every event keeps the owners.** -/
theorem owned_after {e : Event} (ha : ix.Agrees e) (h : ix.Owned) : (ix.after e).Owned := by
  cases e with
  | rejected => exact h
  | cleared docname => exact h.clear docname
  | described docname d => exact h.add ha

theorem owned_empty (config : Config) : (empty config).Owned := by
  refine ⟨List.Pairwise.nil, ?_, ?_⟩ <;> intro r hr <;> cases hr

/-- **A run keeps the owners.** -/
theorem Owned.run (h : ix.Owned) (actions : List Action) : (ix.run actions).Owned :=
  run_of_after (fun _ _ ha h => owned_after ha h) h actions

/-! ### Documents without objects -/

/-- **A document is absent** if no row is an object of it. -/
def Absent (docname : String) (ix : Index) : Prop := ∀ r ∈ ix.objects, r.entry.docname ≠ docname

/-- A cleared document is absent. -/
theorem absent_clear (ix : Index) (docname : String) : Absent docname (ix.clear docname) :=
  fun _ hr => (mem_objects_clear.mp hr).2

/-- **An event that describes no object of an absent document** leaves it absent. -/
theorem absent_after {e : Event} (h : Absent docname ix) (he : ∀ d, e ≠ .described docname d) :
    Absent docname (ix.after e) := by
  intro r hr
  cases e with
  | rejected => exact h r hr
  | cleared name => exact h r (mem_objects_clear.mp hr).1
  | described name d =>
    rcases mem_objects_add hr with ⟨-, rfl⟩ | hr
    · -- the new row stands in the document of the event, which is another one
      rintro rfl
      exact he d rfl
    · exact h r hr

/-- **An absent document stays absent** until an object is described in it. -/
theorem absent_run (h : Absent docname ix) {actions : List Action}
    (hlog : ∀ d, .described docname d ∉ ix.log actions) : Absent docname (ix.run actions) := by
  induction actions generalizing ix with
  | nil => exact h
  | cons a actions ih =>
    -- the invariant holds of every index on the way, so the step comes before the induction
    rw [log_cons] at hlog
    have hstep : Absent docname (ix.step a) := by
      rw [step_eq_after]
      exact absent_after h fun d he => hlog d (he ▸ List.mem_cons_self ..)
    exact ih hstep fun d hm => hlog d (List.mem_cons_of_mem _ hm)

end Index

end CppIndex
