import CppIndex.Proofs.Index.Log

/-!
# Describing in one document

What is told of an object that is described depends on the index through one bit only: whether its anchor
is claimed in its document. So two indices in which the same anchors of a document are claimed
(`Index.SameClaims`) give the same log of everything that is described in this document
(`Index.SameClaims.log_eq`), whatever else they hold.

As long as nothing is cleared, the log also says what a name is looked up as: as the last entry that was
registered under it, and if there is none, as it was before (`Index.get?_run_of_describes`).
-/

namespace CppIndex

namespace Index

variable {ix ix' : Index} {docname : String} {actions : List Action}

/-! ### The same claims -/

/-- **Two indices agree on the claims of a document** if the same anchors of it are claimed in both. -/
def SameClaims (docname : String) (ix ix' : Index) : Prop :=
  ∀ anchor, ix.anchors.contains docname anchor = ix'.anchors.contains docname anchor

/-- A document that was cleared has no claims, whatever the index held. -/
theorem sameClaims_clear (docname : String) (ix ix' : Index) :
    SameClaims docname (ix.clear docname) (ix'.clear docname) := by
  have hnone : ∀ (ix : Index) (anchor : String),
      (ix.clear docname).anchors.contains docname anchor = false := fun ix anchor => by
    have hclear : (ix.clear docname).anchors.contains docname anchor =
        (decide (docname ≠ docname) && ix.anchors.contains docname anchor) :=
      Anchors.contains_clear _ _ _ _
    rw [hclear, decide_eq_false (not_not_intro rfl), Bool.false_and]
  exact fun anchor => (hnone ix anchor).trans (hnone ix' anchor).symm

/-- **What is told of an object** is the same where the claims of its document are. -/
theorem SameClaims.event_eq (h : SameClaims docname ix ix') (parent : Option Expr) (kind : ObjectKind)
    (text : String) : ix.event (.describe ⟨docname, parent⟩ kind text) =
      ix'.event (.describe ⟨docname, parent⟩ kind text) := by
  cases hparse : Declaration.parse kind text with
  | error e => rw [event_of_error hparse, event_of_error hparse]
  | ok d =>
    have hclaimed := h (d.inScope? parent).anchor
    simp only [event_of_ok hparse, examine, hclaimed]

/-- An object that is described keeps the claims of its document the same. -/
theorem SameClaims.step (h : SameClaims docname ix ix') (parent : Option Expr) (kind : ObjectKind)
    (text : String) : SameClaims docname (ix.step (.describe ⟨docname, parent⟩ kind text))
      (ix'.step (.describe ⟨docname, parent⟩ kind text)) := by
  intro anchor
  -- the event is the same in both, since it depends on the claims of this document alone
  rw [step_eq_after, step_eq_after, ← h.event_eq]
  cases hparse : Declaration.parse kind text with
  | error e =>
    rw [event_of_error hparse]
    exact h anchor
  | ok d =>
    rw [event_of_ok hparse, Index.after, Index.after]
    cases hd : (ix.examine ⟨docname, parent⟩ kind d).registered with
    | false =>
      rw [add_eq_self docname hd, add_eq_self docname hd]
      exact h anchor
    | true => rw [contains_add docname hd, contains_add docname hd, h anchor]

/-- **The log of what is described in a document** is the same where its claims are. -/
theorem SameClaims.log_eq (h : SameClaims docname ix ix')
    (ha : ∀ a ∈ actions, ∃ parent kind text, a = .describe ⟨docname, parent⟩ kind text) :
    ix.log actions = ix'.log actions := by
  induction actions generalizing ix ix' with
  | nil => rfl
  | cons a actions ih =>
    obtain ⟨parent, kind, text, rfl⟩ := ha a (List.mem_cons_self ..)
    rw [log_cons, log_cons, h.event_eq,
      ih (h.step parent kind text) fun a hm => ha a (List.mem_cons_of_mem _ hm)]

/-! ### What names are looked up as -/

/-- An event that clears nothing gives at most one name a new entry. -/
theorem get?_after {e : Event} (he : ∀ docname, ¬ e.Clears docname) (name : String) :
    (ix.after e).get? name = (Record.find? name e.record?.toList).or (ix.get? name) := by
  cases e with
  | rejected => rfl
  | cleared docname => exact absurd rfl (he docname)
  | described docname d =>
    cases hd : d.registered with
    | false =>
      have hrecord : (Event.described docname d).record? = none := if_neg (by simp [hd])
      rw [Index.after, add_eq_self docname hd, hrecord]
      rfl
    | true =>
      have hrecord : (Event.described docname d).record? = some (d.row docname) := if_pos hd
      rw [Index.after, get?_add docname hd, hrecord, Option.toList_some, Record.find?, Record.find?]
      -- The new row is found under its own name and changes nothing under any other.
      have hname : (d.row docname).fullname = d.fullname := rfl
      rw [hname]
      split <;> rfl

/-- **The last registration of a name counts**, and without one the name keeps what it had. -/
theorem get?_run_of_describes
    (ha : ∀ a ∈ actions, ∃ ctx kind text, a = .describe ctx kind text) (name : String) :
    (ix.run actions).get? name =
      (Record.find? name ((ix.log actions).filterMap Event.record?).reverse).or (ix.get? name) := by
  induction actions generalizing ix with
  | nil => rfl
  | cons a actions ih =>
    obtain ⟨ctx, kind, text, rfl⟩ := ha a (List.mem_cons_self ..)
    have hclears : ∀ docname, ¬ (ix.event (.describe ctx kind text)).Clears docname := by
      intro docname
      rw [event]
      cases ix.describe ctx kind text <;> exact id
    have hrecords : (ix.event (.describe ctx kind text)).record?.toList.reverse =
        (ix.event (.describe ctx kind text)).record?.toList := by
      cases (ix.event (.describe ctx kind text)).record? <;> rfl
    -- the first event is the last one to be asked, so it stands at the end of the reversed records
    have hlog : (ix.log (.describe ctx kind text :: actions)).filterMap Event.record? =
        (ix.event (.describe ctx kind text)).record?.toList ++
          ((ix.step (.describe ctx kind text)).log actions).filterMap Event.record? := by
      rw [log_cons, List.filterMap_cons]
      cases (ix.event (.describe ctx kind text)).record? <;> rfl
    rw [run_cons, ih fun a hm => ha a (List.mem_cons_of_mem _ hm), hlog, List.reverse_append,
      Record.find?_append, hrecords, step_eq_after, get?_after hclears, Option.or_assoc]

/-! ### What runs keep -/

/-- A run keeps the rows sorted. -/
theorem sorted_objects_run (h : Record.Sorted ix.objects) (actions : List Action) :
    Record.Sorted (ix.run actions).objects :=
  run_of_step (P := fun ix => Record.Sorted ix.objects) (fun _ a h => sorted_step a h) h actions

/-- A run keeps the settings. -/
theorem config_run (ix : Index) (actions : List Action) : (ix.run actions).config = ix.config := by
  refine run_of_step (P := fun ix' => ix'.config = ix.config) (fun ix' a h => ?_) rfl actions
  rcases ix'.step_cases a with ⟨_, _, _, _, -, -, hstep⟩ | ⟨_, _, _, _, -, -, hstep⟩ | ⟨_, -, hstep⟩
  · rwa [hstep]
  · rw [hstep, add]
    split <;> exact h
  · rw [hstep]
    exact h

end Index

end CppIndex
