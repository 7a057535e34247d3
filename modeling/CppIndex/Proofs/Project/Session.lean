import CppIndex.Proofs.Index.Balance
import CppIndex.Proofs.Index.Resolve
import CppIndex.Proofs.Project.Run

/-!
# Sessions with an index

An index is used by describing declarations, clearing documents and building projects, in any order
(`Call`). A **session** keeps account of what comes of it: the index, the objects that were reported, and
the number of entries that were removed by clearing documents, also inside builds. An index is
**reachable** if a session that begins without objects leads to it.

Every session is one run (`Session.run_eq`), because every build is. So what runs keep holds of sessions:

* every entry of a reachable index has an anchor of its own, which is claimed, and references lead only to
  such anchors (`Index.Reachable.anchors`);
* under the policy `warn` no registration is lost (`Session.registrations_balance`).
-/

namespace CppIndex

open Index (Action Event)

/-! ### Calls and sessions -/

/-- **What can be asked of an index.** -/
inductive Call
  /-- Describe a declaration in a context. -/
  | describe (ctx : Context) (kind : ObjectKind) (text : String)
  /-- Clear a document. -/
  | clear (docname : String)
  /-- Build a project. -/
  | build (m : Manifest)

/-- The number of entries that surveying documents removes: each of them is cleared first. -/
def DocumentSpec.removedAll (ix : Index) : List DocumentSpec → Nat
  | [] => 0
  | d :: ds => ix.removed d.name + removedAll (d.survey ix).index ds

/-- **A session**: what came of the calls so far. -/
structure Session where
  /-- The index now. -/
  index : Index
  /-- The objects that were reported as described, in order. -/
  objects : List ObjectReport
  /-- The number of entries that were removed by clearing documents. -/
  removed : Nat

namespace Session

/-- A session before its first call. -/
def start (ix : Index) : Session := ⟨ix, [], 0⟩

/-- **One more call.** -/
def perform (s : Session) : Call → Session
  | .describe ctx kind text =>
    match s.index.describe ctx kind text with
    | .error _ => s
    | .ok (d, next) => { s with index := next, objects := s.objects ++ [⟨ctx.docname, d⟩] }
  | .clear docname =>
    { s with index := s.index.clear docname, removed := s.removed + s.index.removed docname }
  | .build m =>
    -- a build describes objects and clears documents, all in one
    let (report, next) := m.build s.index
    ⟨next, s.objects ++ report.objects,
      s.removed + DocumentSpec.removedAll s.index m.documents⟩

/-- **Calls one after the other.** -/
def run (s : Session) (calls : List Call) : Session := calls.foldl perform s

end Session

/-- **An index is reachable** if calls lead to it from an index without objects. -/
def Index.Reachable (ix : Index) : Prop :=
  ∃ config calls, ix = ((Session.start (Index.empty config)).run calls).index

/-! ### Sessions are runs -/

/-- The actions of a call. -/
def Call.actions : Call → List Action
  | .describe ctx kind text => [.describe ctx kind text]
  | .clear docname => [.clear docname]
  | .build m => m.actions

/-- The entries that a survey of documents removes are those in the log of its run. -/
theorem DocumentSpec.removals_log (ix : Index) (ds : List DocumentSpec) :
    Index.removals (ix.log (ds.flatMap DocumentSpec.actions)) = DocumentSpec.removedAll ix ds := by
  induction ds generalizing ix with
  | nil => rfl
  | cons d ds ih =>
    -- within a document only the first action clears, and it clears this document
    have hobjects : Index.removals
        ((ix.clear d.name).log (ObjectSpec.actionsAll ⟨d.name, none⟩ d.objects)) = 0 :=
      Index.removals_log_eq_zero fun a ha =>
        have ⟨parent, kind, text, he⟩ := ObjectSpec.describes_of_mem_actionsAll _ _ a ha
        ⟨_, kind, text, he⟩
    have hdocument : Index.removals (ix.log d.actions) = ix.removed d.name := by
      rw [DocumentSpec.actions, Index.log_cons, Index.removals]
      exact congrArg (ix.removed d.name + ·) hobjects
    rw [List.flatMap_cons, Index.log_append, Index.removals_append, hdocument,
      ← (d.survey_runs ix).index, ih]
    rfl

namespace Session

/-- **A call is the run of its actions.** -/
theorem perform_eq (s : Session) (c : Call) : s.perform c =
    ⟨s.index.run c.actions, s.objects ++ (s.index.log c.actions).filterMap Event.report?,
      s.removed + Index.removals (s.index.log c.actions)⟩ := by
  cases c with
  | describe ctx kind text =>
    rw [Call.actions, Index.run_cons, Index.log_cons, Index.step_eq_after]
    cases hparse : Declaration.parse kind text with
    | error e =>
      have hreports : [Event.rejected e].filterMap Event.report? = [] := rfl
      rw [perform, Index.describe_of_error hparse, Index.event_of_error hparse, Index.log, hreports,
        List.append_nil]
      rfl
    | ok d =>
      rw [perform, Index.describe_of_ok hparse, Index.event_of_ok hparse]
      rfl
  | clear docname =>
    rw [Call.actions, perform, Index.run_cons, Index.log_cons]
    have hreports : [Event.cleared docname (s.index.removed docname)].filterMap Event.report? = [] :=
      rfl
    rw [Index.event, Index.log, hreports, List.append_nil]
    rfl
  -- A build is the only call of several actions, and its removals are counted by document.
  | build m =>
    have hremoved : Index.removals (s.index.log m.actions) =
        DocumentSpec.removedAll s.index m.documents := DocumentSpec.removals_log _ _
    rw [Call.actions, hremoved, ← Manifest.build_index, ← Manifest.build_objects]
    rfl

/-- **A session is the run of the actions of its calls.** -/
theorem run_eq (s : Session) (calls : List Call) : s.run calls =
    ⟨s.index.run (calls.flatMap Call.actions),
      s.objects ++ (s.index.log (calls.flatMap Call.actions)).filterMap Event.report?,
      s.removed + Index.removals (s.index.log (calls.flatMap Call.actions))⟩ := by
  induction calls generalizing s with
  | nil => simp [run, Index.run, Index.log, Index.removals]
  | cons c calls ih =>
    -- the first call is performed before the others, so all three parts are put in front
    have hrun : s.run (c :: calls) = (s.perform c).run calls := rfl
    rw [hrun, ih, perform_eq, List.flatMap_cons, Index.run_append, Index.log_append,
      Index.removals_append, List.filterMap_append, List.append_assoc, Nat.add_assoc]

/-- The index behind a session is that behind the run of its actions. -/
theorem index_run (s : Session) (calls : List Call) :
    (s.run calls).index = s.index.run (calls.flatMap Call.actions) :=
  congrArg index (run_eq s calls)

/-- **A registration in the log is an object that is reported as registered.** -/
theorem registrations_eq (history : List Event) : Index.registrations history =
    (history.filterMap Event.report?).countP (·.described.registered) := by
  -- every report comes from one event, which registers its object exactly if the report says so
  have hevent : ∀ e : Event, e.isRegistration = (e.report?.map (·.described.registered)).getD false := by
    intro e
    cases e with
    | rejected => rfl
    | cleared => rfl
    | described docname d =>
      cases hd : d.registered <;> simp [Event.isRegistration, Event.record?, Event.report?, hd]
  rw [Index.registrations, List.countP_filterMap]
  exact List.countP_congr fun e _ => by rw [hevent e]

/-- **A cleared document stays without objects** until one is reported in it. -/
theorem absent_run_clear (ix : Index) {docname : String} {later : List Call}
    (hlater : ∀ o ∈ ((start (ix.clear docname)).run later).objects, o.docname ≠ docname) :
    Index.Absent docname ((start (ix.clear docname)).run later).index := by
  rw [run_eq] at hlater ⊢
  -- an object of the document in the log would have been reported
  refine Index.absent_run (Index.absent_clear ix docname) fun d hd => ?_
  exact hlater ⟨docname, d⟩ (List.mem_filterMap.mpr ⟨_, hd, rfl⟩) rfl

/-- **No registration is lost.** Under the policy `warn` the objects that a session reports as registered
are as many as the rows and the collisions of its index together with the entries that were removed. Every
collision is between two different entries, and under the policy `overwrite` there is none. -/
theorem registrations_balance (config : Config) (calls : List Call) :
    (config.policy = .warn →
      ((start (Index.empty config)).run calls).objects.countP (·.described.registered) =
        ((start (Index.empty config)).run calls).index.size +
          ((start (Index.empty config)).run calls).index.collisions.length +
          ((start (Index.empty config)).run calls).removed) ∧
    (∀ c ∈ ((start (Index.empty config)).run calls).index.collisions,
      c.previous ≠ c.replacement) ∧
    (config.policy = .overwrite →
      ((start (Index.empty config)).run calls).index.collisions = []) := by
  -- a session is a run of the index, and there the balance is an invariant
  rw [run_eq]
  simp only [start, List.nil_append, Nat.zero_add]
  refine ⟨fun hwarn => ?_, ?_, fun hoverwrite => ?_⟩
  · rw [← registrations_eq]
    exact (Index.balanced_run hwarn _).balance
  · exact @Index.previous_ne_of_run (Index.empty config) (fun c hc => by cases hc) _
  · exact @Index.collisions_run_of_overwrite (Index.empty config) hoverwrite rfl _

/-- A class is described in two documents, and a project is built that clears the first of them and
describes the class there again: three registrations, two of them collisions, and one row. Clearing that
document removes it. -/
theorem registrations_balance_rebuilt :
    ∃ calls : List Call,
      calls = [.describe ⟨"a", none⟩ .classType "T", .describe ⟨"b", none⟩ .classType "T",
        .build ⟨[⟨"a", [.mk "class" "T" [], .mk "class" "T" []], []⟩]⟩, .clear "a"] ∧
      ((start (Index.empty { policy := .warn })).run calls).index.collisions.length = 2 ∧
      ((start (Index.empty { policy := .warn })).run calls).removed = 1 ∧
      ((start (Index.empty { policy := .warn })).run calls).objects.countP
        (·.described.registered) = 3 := by
  obtain ⟨calls, hcalls⟩ : ∃ calls : List Call,
      calls = [.describe ⟨"a", none⟩ .classType "T", .describe ⟨"b", none⟩ .classType "T",
        .build ⟨[⟨"a", [.mk "class" "T" [], .mk "class" "T" []], []⟩]⟩, .clear "a"] := ⟨_, rfl⟩
  -- the counts are computed, all but the one that the balance tells
  have hcounts : ((start (Index.empty { policy := .warn })).run calls).index.size = 0 ∧
      ((start (Index.empty { policy := .warn })).run calls).index.collisions.length = 2 ∧
      ((start (Index.empty { policy := .warn })).run calls).removed = 1 := by
    rw [hcalls]
    decide +kernel
  obtain ⟨hsize, hcollisions, hremoved⟩ := hcounts
  have hbalance := (registrations_balance { policy := .warn } calls).1 rfl
  rw [hsize, hcollisions, hremoved] at hbalance
  exact ⟨calls, hcalls, hcollisions, hremoved, hbalance⟩

end Session

/-! ### Reachable indices -/

namespace Index.Reachable

variable {ix : Index}

/-- Runs lead to every reachable index. -/
theorem exists_run (h : ix.Reachable) : ∃ config actions, ix = (Index.empty config).run actions := by
  obtain ⟨config, calls, rfl⟩ := h
  exact ⟨config, calls.flatMap Call.actions, Session.index_run _ _⟩

/-- Every anchor of a reachable index has one owner. -/
theorem owned (h : ix.Reachable) : ix.Owned := by
  obtain ⟨config, actions, rfl⟩ := h.exists_run
  exact (Index.owned_empty config).run actions

/-- **Every anchor belongs to one object.** In a reachable index

* the anchor of every entry is claimed,
* no two names have entries with one anchor of one document,
* so a reference resolves to a claimed anchor that belongs to exactly one object,
* and after a document was cleared no reference leads to it until an object is described in it. -/
theorem anchors (h : ix.Reachable) :
    (∀ name entry, ix.get? name = some entry →
      ix.anchors.contains entry.docname entry.anchor = true) ∧
    (∀ name name' entry entry', ix.get? name = some entry → ix.get? name' = some entry' →
      entry.docname = entry'.docname → entry.anchor = entry'.anchor → name = name') ∧
    (∀ role target parent found, ix.resolve role target parent = .ok (some found) →
      ix.anchors.contains found.entry.docname found.entry.anchor = true ∧
        ∃! r, r ∈ ix.objects ∧ r.entry.docname = found.entry.docname ∧
          r.entry.anchor = found.entry.anchor) ∧
    (∀ docname later,
      (∀ o ∈ ((Session.start (ix.clear docname)).run later).objects, o.docname ≠ docname) →
      ∀ role target parent found,
        ((Session.start (ix.clear docname)).run later).index.resolve role target parent =
          .ok (some found) → found.entry.docname ≠ docname) := by
  have howned := h.owned
  refine ⟨?_, ?_, ?_, ?_⟩
  · intro name entry hget
    exact howned.claimed _ (Record.mem_of_find? hget)
  · intro name name' entry entry' hget hget' hdoc hanchor
    -- one row has the anchor in this document, so both names are those of it
    have hrow := howned.unique _ (Record.mem_of_find? hget) _ (Record.mem_of_find? hget') hdoc hanchor
    exact congrArg Record.fullname hrow
  · intro role target parent found hfound
    have hmem := Index.mem_objects_of_resolve hfound
    -- what a reference leads to is a row
    refine ⟨howned.claimed _ hmem, found, ⟨hmem, rfl, rfl⟩, ?_⟩
    rintro r ⟨hr, hdoc, hanchor⟩
    exact howned.unique r hr found hmem hdoc hanchor
  · intro docname later hlater role target parent found hfound
    exact Session.absent_run_clear ix hlater found (Index.mem_objects_of_resolve hfound)

/-- A class is described in one document and again, with a function inside, when another document is
built. The reference leads to the second one, whose anchor is claimed and belongs to it alone, though the
same anchor is claimed in the first document too. -/
theorem anchors_rebuilt :
    ∃ ix : Index, ix.Reachable ∧ ix.anchors.contains "a" "T" = true ∧
      ∃ found, ix.resolve .classType "T" none = .ok (some found) ∧
        ix.anchors.contains found.entry.docname found.entry.anchor = true ∧
        ∃! r, r ∈ ix.objects ∧ r.entry.docname = found.entry.docname ∧
          r.entry.anchor = found.entry.anchor := by
  obtain ⟨calls, hcalls⟩ : ∃ calls : List Call,
      calls = [.describe ⟨"a", none⟩ .classType "T",
        .build ⟨[⟨"b", [.mk "class" "T" [.mk "function" "void f()" []]], []⟩]⟩] := ⟨_, rfl⟩
  have hreachable : ((Session.start (Index.empty {})).run calls).index.Reachable := ⟨_, _, rfl⟩
  have hfound : ((Session.start (Index.empty {})).run calls).index.resolve .classType "T" none =
      .ok (some ⟨"T", ⟨"b", .classType, "T"⟩⟩) := by
    rw [hcalls]
    decide +kernel
  have hclaimed : ((Session.start (Index.empty {})).run calls).index.anchors.contains "a" "T" =
      true := by
    rw [hcalls]
    decide +kernel
  exact ⟨_, hreachable, hclaimed, _, hfound, (anchors hreachable).2.2.1 _ _ _ _ hfound⟩

end Index.Reachable

end CppIndex
