import CppIndex.Proofs.Index.Run

/-!
# The log of a run

What a run tells its caller is a list of **events** (`Index.log`): an object was described, a text was
rejected, or a document was cleared, with the number of entries that this removed. The index after a step
is determined by the index before it and the event of the step (`Index.step_eq_after`), and an event
**agrees** with the index in which it arises (`Index.agrees_event`): an object is reported as registered
exactly if its anchor was free. So a property of an index and the log that led to it is proved one event
at a time (`Index.run_log_of_after`).
-/

namespace CppIndex

/-- The row under which a described object is registered. -/
def Described.row (docname : String) (d : Described) : Record :=
  ⟨d.fullname, ⟨docname, d.kind, d.anchor⟩⟩

namespace Index

/-! ### Adding an object -/

section Add

variable {ix : Index} {d : Described} (docname : String)

/-- An object whose anchor was taken changes nothing. -/
theorem add_eq_self (h : d.registered = false) : ix.add docname d = ix :=
  if_neg (by simp [h])

theorem objects_add (h : d.registered = true) :
    (ix.add docname d).objects = (d.row docname).insertInto ix.objects := by
  rw [add, if_pos h]
  rfl

theorem get?_add (h : d.registered = true) (name : String) :
    (ix.add docname d).get? name =
      if d.fullname = name then some (d.row docname).entry else ix.get? name := by
  rw [add, if_pos h]
  exact Registry.get?_insert _ _ _

theorem contains_add (h : d.registered = true) (doc' anchor' : String) :
    (ix.add docname d).anchors.contains doc' anchor' =
      (decide (doc' = docname ∧ anchor' = d.anchor) || ix.anchors.contains doc' anchor') := by
  rw [add, if_pos h]
  exact Anchors.contains_claim _ _ _ _ _

theorem collisions_add (h : d.registered = true) :
    (ix.add docname d).collisions =
      ix.collisions ++ (ix.registry.collision? (d.row docname)).toList := by
  rw [add, if_pos h]
  rfl

end Add

/-! ### Events -/

/-- **What a step reports.** -/
inductive Event
  /-- An object was described in a document. -/
  | described (docname : String) (d : Described)
  /-- A text was rejected. -/
  | rejected (error : ParseError)
  /-- A document was cleared, which removed a number of entries. -/
  | cleared (docname : String) (removed : Nat)

/-- The row that an event registers: that of a described object whose anchor was free. -/
def Event.record? : Event → Option Record
  | .described docname d => if d.registered then some (d.row docname) else none
  | .rejected _ | .cleared _ _ => none

/-- Whether an event clears a document. -/
def Event.Clears (docname : String) : Event → Prop
  | .cleared name _ => name = docname
  | .described _ _ | .rejected _ => False

variable (ix : Index)

/-- The number of entries that clearing a document removes. -/
def removed (docname : String) : Nat := ix.size - (ix.clear docname).size

/-- The event of a step. -/
def event : Action → Event
  | .describe ctx kind text =>
    match ix.describe ctx kind text with
    | .error e => .rejected e
    | .ok (d, _) => .described ctx.docname d
  | .clear docname => .cleared docname (ix.removed docname)

/-- **The log of a run**: the events of its steps, the first in front. -/
def log (ix : Index) : List Action → List Event
  | [] => []
  | a :: actions => ix.event a :: log (ix.step a) actions

/-! ### The effect of an event -/

/-- The index after an event. -/
def after : Event → Index
  | .described docname d => ix.add docname d
  | .rejected _ => ix
  | .cleared docname _ => ix.clear docname

/-- **An event agrees with an index** if it can arise in it: an object is registered exactly if its
anchor is free, and as many entries are removed as a document has. -/
def Agrees : Event → Prop
  | .described docname d => d.registered = !ix.anchors.contains docname d.anchor
  | .rejected _ => True
  | .cleared docname removed => removed = ix.removed docname

variable {ix : Index}

/-- An object that is registered has a free anchor. -/
theorem Agrees.free {docname : String} {d : Described} (ha : ix.Agrees (.described docname d))
    (hd : d.registered = true) : ix.anchors.contains docname d.anchor = false := by
  have hfree : d.registered = !ix.anchors.contains docname d.anchor := ha
  simpa [hd] using hfree

/-- An object that is not registered has an anchor that is taken. -/
theorem Agrees.taken {docname : String} {d : Described} (ha : ix.Agrees (.described docname d))
    (hd : d.registered = false) : ix.anchors.contains docname d.anchor = true := by
  have hfree : d.registered = !ix.anchors.contains docname d.anchor := ha
  simpa [hd] using hfree

variable {ctx : Context} {kind : ObjectKind} {text : String}

theorem event_of_error {e : ParseError} (h : Declaration.parse kind text = .error e) :
    ix.event (.describe ctx kind text) = .rejected e := by
  rw [event, describe_of_error h]

theorem event_of_ok {d : Declaration} (h : Declaration.parse kind text = .ok d) :
    ix.event (.describe ctx kind text) = .described ctx.docname (ix.examine ctx kind d) := by
  rw [event, describe_of_ok h]

/-- **What is described** was read, and is examined and added. -/
theorem describe_eq_ok_iff {d : Described} {next : Index} : ix.describe ctx kind text = .ok (d, next) ↔
      ∃ decl, Declaration.parse kind text = .ok decl ∧ ix.examine ctx kind decl = d ∧
        ix.add ctx.docname d = next := by
  cases hparse : Declaration.parse kind text with
  | error e => simp [describe_of_error hparse]
  | ok decl =>
    simp only [describe_of_ok hparse, Except.ok.injEq, Prod.mk.injEq]
    constructor
    · rintro ⟨rfl, rfl⟩
      exact ⟨decl, rfl, rfl, rfl⟩
    · rintro ⟨decl', rfl, rfl, rfl⟩
      exact ⟨rfl, rfl⟩

/-- **The step is what its event says.** -/
theorem step_eq_after (ix : Index) (a : Action) : ix.step a = ix.after (ix.event a) := by
  cases a with
  | clear docname => rfl
  | describe ctx kind text =>
    -- whether the text is read does not depend on the index
    cases hparse : Declaration.parse kind text with
    | error e => rw [event_of_error hparse, step, describe_of_error hparse, after]
    | ok d => rw [event_of_ok hparse, step, describe_of_ok hparse, after]

/-- **The event of a step agrees** with the index before it. -/
theorem agrees_event (ix : Index) (a : Action) : ix.Agrees (ix.event a) := by
  cases a with
  | clear docname => rfl
  | describe ctx kind text =>
    cases hparse : Declaration.parse kind text with
    | error e =>
      rw [event_of_error hparse]
      -- a rejected text says nothing about the index
      trivial
    | ok d =>
      rw [event_of_ok hparse]
      rfl

/-! ### Runs and their logs -/

theorem run_cons (ix : Index) (a : Action) (actions : List Action) :
    ix.run (a :: actions) = (ix.step a).run actions := rfl

theorem run_append (ix : Index) (first second : List Action) :
    ix.run (first ++ second) = (ix.run first).run second := List.foldl_append

theorem log_cons (ix : Index) (a : Action) (actions : List Action) :
    ix.log (a :: actions) = ix.event a :: (ix.step a).log actions := rfl

theorem log_append (ix : Index) (first second : List Action) :
    ix.log (first ++ second) = ix.log first ++ (ix.run first).log second := by
  induction first generalizing ix with
  | nil => rfl
  | cons a first ih => rw [List.cons_append, log_cons, log_cons, run_cons, ih, List.cons_append]

/-- **What every event keeps holds of a run and its log.** -/
theorem run_log_of_after {P : Index → List Event → Prop}
    (hs : ∀ ix history e, ix.Agrees e → P ix history → P (ix.after e) (history ++ [e]))
    {history : List Event} (h : P ix history) (actions : List Action) :
    P (ix.run actions) (history ++ ix.log actions) := by
  -- the first action moves from the run to the history, so both are general in the induction
  induction actions generalizing ix history with
  | nil => rwa [log, List.append_nil]
  | cons a actions ih =>
    have hstep : P (ix.step a) (history ++ [ix.event a]) := by
      rw [step_eq_after]
      exact hs ix history _ (agrees_event ix a) h
    rw [run_cons, log_cons, List.append_cons]
    exact ih hstep

/-- What every event keeps holds of a run. -/
theorem run_of_after {P : Index → Prop} (hs : ∀ ix e, ix.Agrees e → P ix → P (ix.after e))
    (h : P ix) (actions : List Action) : P (ix.run actions) :=
  run_of_step (fun ix a hp => by rw [step_eq_after]; exact hs ix _ (agrees_event ix a) hp) h actions

end Index

end CppIndex
