import CppIndex.Proofs.Project.Faults
import CppIndex.Proofs.Project.Reference
import CppIndex.Proofs.Project.Told

/-!
# What a report accounts for

The report of a build accounts for every entry and every reference of the manifest, once and in the order in
which they are written (`Manifest.build_accounts`). A visited entry is told of if it is an object whose text
is read; if its text is rejected, it leaves one warning instead (`ObjectSpec.rejection?`). A reference has
one entry in the report, and one warning behind those about entries if it cannot be looked up. The resolved
references and the others are the references of the report, each of them in one of the two lists.

A survey warns of the visited entries one by one (`ObjectSpec.warnings_surveyAll`). In a manifest that was not
checked these may be entries of an unknown kind as well (`ObjectSpec.problem?`).
-/

namespace CppIndex

namespace ObjectSpec

/-! ### What is wrong with the text of an entry -/

/-- **Why the text of an entry is rejected**: it is no declaration of the kind of the object, or no scope of a
directive. -/
def rejection? : ObjectSpec → Option ParseError
  | .mk kind signature _ =>
    if kind = namespaceWord then
      -- the words for the global scope are not parsed
      if Text.trimmed signature ∈ Context.globalWords then none
      else
        match Expr.parse (Text.trimmed signature) with
        | .error e => some e
        | .ok _ => none
    else
      match ObjectKind.ofLabel? kind with
      | none => none
      | some k =>
        match Declaration.parse k signature with
        | .error e => some e
        | .ok _ => none

/-- What there is to warn of at an entry. -/
def problem? (o : ObjectSpec) : Option Problem :=
  if o.kind ≠ namespaceWord ∧ ObjectKind.ofLabel? o.kind = none then some (.unknownKind o.kind)
  else o.rejection?.map .rejected

variable {o : ObjectSpec} {e : ParseError}

/-- **An entry is rejected** for this reason. -/
theorem rejection?_eq_some_iff : o.rejection? = some e ↔ o.Rejected e := by
  constructor
  · obtain ⟨kind, signature, children⟩ := o
    intro h
    rw [rejection?] at h
    split at h
    next hkind =>
      obtain ⟨hword, h⟩ := Option.ite_none_left_eq_some.mp h
      subst hkind
      cases hparse : Expr.parse (Text.trimmed signature) with
      | ok scope => simp [hparse] at h
      | error e' =>
        simp only [hparse, Option.some.injEq] at h
        exact .directive hword (h ▸ hparse)
    next hkind =>
      cases hlabel : ObjectKind.ofLabel? kind with
      | none => simp [hlabel] at h
      | some k =>
        cases hparse : Declaration.parse k signature with
        | ok d => simp [hlabel, hparse] at h
        | error e' =>
          simp only [hlabel, hparse, Option.some.injEq] at h
          exact .object hlabel (h ▸ hparse)
  -- The other way round the two forms are told apart by the word for namespaces.
  · intro h
    cases h with
    | object hkind h =>
      rw [rejection?, if_neg (ne_namespaceWord hkind)]
      simp only [hkind, h]
    | directive hword h =>
      rw [rejection?, if_pos rfl, if_neg hword]
      simp only [h]

/-- A rejected entry is warned of with the reason. -/
theorem problem?_of_rejected (h : o.Rejected e) : o.problem? = some (.rejected e) := by
  -- a rejected entry is a directive, or has a known kind; the problem is not its word
  have hkind : ¬ (o.kind ≠ namespaceWord ∧ ObjectKind.ofLabel? o.kind = none) := by
    rintro ⟨hword, hnone⟩
    cases h with
    | object hkind _ =>
      rw [ObjectSpec.kind, hkind] at hnone
      cases hnone
    | directive _ _ => exact hword rfl
  rw [problem?, if_neg hkind, rejection?_eq_some_iff.mpr h]
  rfl

/-- There is nothing to warn of at an object whose text is read. -/
theorem problem?_of_read (h : o.isRead = true) : o.problem? = none := by
  obtain ⟨kind, d, hkind, hparse⟩ := isRead_iff.mp h
  have hreject : o.rejection? = none := by
    refine Option.eq_none_iff_forall_ne_some.mpr fun e he => ?_
    cases rejection?_eq_some_iff.mp he with
    | object hkind' hparse' =>
      -- the kind decides how the text is parsed, and so it was parsed
      obtain rfl := Option.some.inj (hkind.symm.trans hkind')
      rw [ObjectSpec.signature, hparse'] at hparse
      cases hparse
    | directive _ _ => exact ne_namespaceWord hkind rfl
  rw [problem?, if_neg fun hnone => by simp [hkind] at hnone, hreject]
  rfl

end ObjectSpec

/-- The warning about the entry at a place. -/
def Place.warning? (p : Place) : Option Warning := p.entry.problem?.map (Warning.mk p.docname)

namespace ObjectSpec

/-! ### What a survey warns of -/

variable {o : ObjectSpec} {ix : Index} {ctx : Context}

/-- **An object whose text is read** leaves the warnings about what stands inside it, in the same document. -/
theorem warnings_survey_of_read (ix : Index) (ctx : Context) (h : o.isRead = true) :
    ∃ next inner, inner.docname = ctx.docname ∧
      (survey ix ctx o).2.warnings = (surveyAll next inner o.children).warnings := by
  obtain ⟨k, d, hkind, hparse⟩ := isRead_iff.mp h
  obtain ⟨kind, signature, children⟩ := o
  have hkind : ObjectKind.ofLabel? kind = some k := hkind
  have hparse : Declaration.parse k signature = .ok d := hparse
  -- the object itself is described without a warning, and the rest goes on inside of it
  refine ⟨ix.add ctx.docname (ix.examine ctx k d), (ix.examine ctx k d).innerContext ctx, rfl, ?_⟩
  rw [survey, if_neg (ne_namespaceWord hkind)]
  simp only [hkind, Index.describe_of_ok hparse]
  exact List.nil_append _

/-- A directive whose text is not rejected changes the context. -/
theorem exists_withNamespace (ctx : Context) {signature : String} {children : List ObjectSpec}
    (h : rejection? (.mk namespaceWord signature children) = none) :
    ∃ next, ctx.withNamespace signature = .ok next := by
  cases hnext : ctx.withNamespace signature with
  | ok next => exact ⟨next, rfl⟩
  | error e =>
    rw [Context.withNamespace] at hnext
    split at hnext
    next => cases hnext
    next hword =>
      cases hparse : Expr.parse (Text.trimmed signature) with
      | ok scope =>
        rw [hparse] at hnext
        cases hnext
      | error e' =>
        -- A scope that cannot be read would have been reason to reject the entry.
        rw [rejection?_eq_some_iff.mpr (.directive hword hparse)] at h
        cases h

/-- **Any other entry** leaves its own warning, if it has one. -/
theorem warnings_survey_of_not_read (h : o.isRead = false) :
    (survey ix ctx o).2.warnings = (o.problem?.map (Warning.mk ctx.docname)).toList := by
  cases hreject : o.rejection? with
  | some e =>
    have he := rejection?_eq_some_iff.mp hreject
    rw [survey_of_rejected he, problem?_of_rejected he]
    rfl
  | none =>
    obtain ⟨kind, signature, children⟩ := o
    rw [problem?, hreject, survey]
    by_cases hword : kind = namespaceWord
    · -- nothing is warned of at a directive whose text is a scope
      subst hword
      obtain ⟨next, hnext⟩ := exists_withNamespace ctx hreject
      rw [if_pos rfl, hnext, if_neg fun h => h.1 rfl]
      rfl
    · rw [if_neg hword]
      cases hkind : ObjectKind.ofLabel? kind with
      | none =>
        -- only here is the kind itself warned of
        have hproblem : (ObjectSpec.mk kind signature children).kind ≠ namespaceWord ∧
            ObjectKind.ofLabel? (ObjectSpec.mk kind signature children).kind = none := ⟨hword, hkind⟩
        rw [if_pos hproblem]
        rfl
      | some k =>
        -- the text of an object is read or rejected, and this one is neither
        cases hparse : Declaration.parse k signature with
        | ok d =>
          have hread : isRead (.mk kind signature children) = true := isRead_iff.mpr ⟨k, d, hkind, hparse⟩
          rw [hread] at h
          cases h
        | error e =>
          rw [rejection?_eq_some_iff.mpr (.object hkind hparse)] at hreject
          cases hreject

/-- **The warnings about objects** are those about their visited places, one by one. -/
theorem warnings_surveyAll {ix : Index} {ctx : Context} {docname : String} {path : List Nat}
    {around : List ObjectSpec} {n : Nat} (os : List ObjectSpec) (haround : around.all isRead = true)
    (hctx : ctx.docname = docname) : (surveyAll ix ctx os).warnings =
      (visitedAll docname path around n os).filterMap Place.warning? := by
  match os with
  | [] =>
    rw [surveyAll, visitedAll_nil]
    rfl
  | .mk kind signature children :: os =>
    have hbehind : ∀ next, (surveyAll next (survey ix ctx (.mk kind signature children)).1 os).warnings =
        (visitedAll docname path around (n + 1) os).filterMap Place.warning? := fun next =>
      warnings_surveyAll os haround ((docname_survey ix ctx _).trans hctx)
    -- the warnings of the first object come first, then those of the others
    rw [surveyAll_cons, visitedAll_cons haround]
    show (survey ix ctx _).2.warnings ++ (surveyAll _ _ os).warnings = _
    rw [hbehind, List.filterMap_cons, List.filterMap_append, Place.warning?, ← hctx]
    cases hread : isRead (.mk kind signature children) with
    | false =>
      -- nothing inside it is visited, so its own warning is all there is
      rw [warnings_survey_of_not_read hread, if_neg Bool.false_ne_true]
      cases (ObjectSpec.mk kind signature children).problem? <;> rfl
    | true =>
      obtain ⟨next, inner, hinner, hwarnings⟩ := warnings_survey_of_read ix ctx hread
      -- every object around what stands inside is read
      have haround' : (around ++ [ObjectSpec.mk kind signature children]).all isRead = true := by
        rw [all_isRead_concat, haround, hread, Bool.true_and]
      rw [problem?_of_read hread, if_pos rfl, hwarnings, ← hinner]
      exact congrArg (· ++ _) (warnings_surveyAll children haround' rfl)

end ObjectSpec

namespace DocumentSpec

/-- The warnings of a document are those about its visited places. -/
theorem warnings_eq (d : DocumentSpec) : d.warnings =
    (ObjectSpec.visitedAll d.name [] [] 0 d.objects).filterMap Place.warning? :=
  ObjectSpec.warnings_surveyAll d.objects List.all_nil rfl

/-! ### What references warn of -/

/-- References with roles are warned of in the order of their entries, each of them once if it could not be
looked up. -/
theorem doubts_eq_filterMap {d : DocumentSpec}
    (h : ∀ r ∈ d.references, ∃ role, Role.ofLabel? r.role = some role) (ix : Index) :
    d.doubts ix = (d.answers ix).filterMap ReferenceReport.warning? := by
  rw [doubts, answers, List.filterMap_flatMap]
  refine List.flatMap_congr fun r hr => ?_
  obtain ⟨role, hrole⟩ := h r hr
  rw [ReferenceSpec.outcome]
  simp only [hrole, List.filterMap_cons, List.filterMap_nil]
  cases (r.report ix d.name role).warning? <;> rfl

end DocumentSpec

namespace Report

variable {r : Report} {reference : ReferenceReport}

/-- **A resolved reference** points at a registered object. -/
theorem mem_resolved_iff : reference ∈ r.resolved ↔
    reference ∈ r.references ∧ ∃ found, reference.resolution = .resolved found := by
  rw [resolved, List.mem_filter]
  cases reference.resolution <;> simp [Resolution.isResolved]

/-- **An unresolved reference** points at none. -/
theorem mem_unresolved_iff : reference ∈ r.unresolved ↔
    reference ∈ r.references ∧ ¬ ∃ found, reference.resolution = .resolved found := by
  rw [unresolved, List.mem_filter]
  cases reference.resolution <;> simp [Resolution.isResolved]

end Report

/-! ### What the report of a build accounts for -/

namespace Manifest

variable {m : Manifest}

/-- In a manifest without faults the only thing to warn of at an entry is that its text is rejected. -/
theorem warning?_of_mem_visited (hvalid : m.fault? = none) {p : Place} (hp : p ∈ m.visited) :
    p.warning? = p.entry.rejection?.map fun e => ⟨p.docname, .rejected e⟩ := by
  obtain ⟨d, hd, hp⟩ := List.mem_flatMap.mp (List.mem_of_mem_filter hp)
  have hamong := (ObjectSpec.exists_place_iff d.name [] [] 0 d.objects).mp ⟨p, hp, rfl⟩
  have hsound := (fault?_eq_none_iff.mp hvalid).entries d hd p.entry hamong
  -- a sound entry is a directive or has a kind
  have hkind : ¬ (p.entry.kind ≠ namespaceWord ∧ ObjectKind.ofLabel? p.entry.kind = none) := by
    rintro ⟨hword, hnone⟩
    exact hsound.elim (fun h => hword h.1) (ObjectKind.ofLabel?_eq_none_iff.mp hnone)
  rw [Place.warning?, ObjectSpec.problem?, if_neg hkind, Option.map_map]
  rfl

/-- **The warnings of a build** without faults: about the visited entries first, then about the references. -/
theorem warnings_build (hvalid : m.fault? = none) (ix : Index) : (m.build ix).1.warnings =
    m.visited.filterMap (fun p => p.entry.rejection?.map fun e => ⟨p.docname, .rejected e⟩) ++
      (m.build ix).1.references.filterMap ReferenceReport.warning? := by
  have hdoubts : ∀ d ∈ m.documents, d.doubts (m.build ix).2 =
      (d.answers (m.build ix).2).filterMap ReferenceReport.warning? := fun d hd =>
    DocumentSpec.doubts_eq_filterMap (exists_role_of_faultInAll? hvalid d hd) _
  -- both passes go through the documents, so each document can be compared on its own
  rw [← List.filterMap_congr fun p hp => warning?_of_mem_visited hvalid hp, build_report, visited_eq,
    List.filterMap_flatMap, List.filterMap_flatMap, List.flatMap_congr hdoubts]
  exact congrArg (· ++ _) (List.flatMap_congr fun d _ => d.warnings_eq)

/-- **What the report of a build accounts for.** Let a manifest have no faults, and build it on any index.
The report has one entry for each reference, in order, with the document of the reference and in its role.
It has one for each visited object whose text is read, in the order in which these are written. The warnings
are one for each visited entry whose text is rejected, in order, and then one for each reference that could
not be looked up, in order. Each reference is either resolved, if it points at a registered object, or
unresolved. -/
theorem build_accounts (hvalid : m.fault? = none) (ix : Index) :
    List.Forall₂ (fun p r => r.docname = p.1 ∧ Role.ofLabel? p.2.role = some r.role ∧
        r = p.2.report (m.build ix).2 p.1 r.role) m.references (m.build ix).1.references ∧
      List.Forall₂ (fun p o => Told.IsOf p o.told) m.reported (m.build ix).1.objects ∧
      (m.build ix).1.warnings =
        m.visited.filterMap (fun p => p.entry.rejection?.map fun e => ⟨p.docname, .rejected e⟩) ++
          (m.build ix).1.references.filterMap ReferenceReport.warning? ∧
      ((m.build ix).1.resolved ++ (m.build ix).1.unresolved).Perm (m.build ix).1.references ∧
      (∀ r ∈ (m.build ix).1.resolved, ∃ found, r.resolution = .resolved found) ∧
      ∀ r ∈ (m.build ix).1.unresolved, ¬ ∃ found, r.resolution = .resolved found := by
  refine ⟨?_, m.forall₂_build_objects ix, warnings_build hvalid ix, List.filter_append_perm _ _,
    fun r hr => (Report.mem_resolved_iff.mp hr).2, fun r hr => (Report.mem_unresolved_iff.mp hr).2⟩
  -- which report a reference has is known from its role
  refine (forall₂_build_references hvalid ix).imp fun p r hanswer => ?_
  obtain ⟨role, hrole, rfl⟩ := hanswer
  exact ⟨rfl, hrole, rfl⟩

/-- In a namespace stands a class with a method that is rejected, a directive that is rejected, a class
without a name around another method, and a method that is read. Of the seven visited entries three are
reported and three warned of; nothing comes to the method inside the class without a name. Of the three
references one is resolved, one is not and one has no target that could be looked up. -/
theorem build_accounts_nested :
    ∃ (m : Manifest) (ix : Index),
      m = ⟨[⟨"a", [.mk "namespace" "ns" [], .mk "class" "T" [.mk "function" "f(" [],
          .mk "namespace" "N::" [], .mk "class" "" [.mk "function" "void h()" []],
          .mk "function" "void g()" []]],
          [⟨"func", "ns::T::g", none, none⟩, ⟨"func", "", none, none⟩]⟩,
        ⟨"b", [.mk "member" "int x" []], [⟨"member", "y", none, none⟩]⟩]⟩ ∧
      ix = Index.empty {} ∧ m.fault? = none ∧
      m.visited.map (fun p => (p.docname, p.path)) = [("a", [0]), ("a", [1]), ("a", [1, 0]),
        ("a", [1, 1]), ("a", [1, 2]), ("a", [1, 3]), ("b", [0])] ∧
      m.reported.map (fun p => (p.docname, p.path)) = [("a", [1]), ("a", [1, 3]), ("b", [0])] ∧
      List.Forall₂ (fun p o => Told.IsOf p o.told) m.reported (m.build ix).1.objects ∧
      (m.build ix).1.warnings.map (·.docname) = ["a", "a", "a", "a"] ∧
      (m.build ix).1.warnings =
        m.visited.filterMap (fun p => p.entry.rejection?.map fun e => ⟨p.docname, .rejected e⟩) ++
          (m.build ix).1.references.filterMap ReferenceReport.warning? ∧
      (m.build ix).1.resolved.map (·.link.target) = ["ns::T::g"] ∧
      (m.build ix).1.unresolved.map (·.link.target) = ["", "y"] ∧
      ((m.build ix).1.resolved ++ (m.build ix).1.unresolved).Perm (m.build ix).1.references := by
  refine ⟨_, _, rfl, rfl, by decide +kernel, by decide +kernel, by decide +kernel, ?_⟩
  obtain ⟨-, hobjects, hwarnings, hperm, -⟩ := @build_accounts ⟨[⟨"a", [.mk "namespace" "ns" [],
      .mk "class" "T" [.mk "function" "f(" [], .mk "namespace" "N::" [],
        .mk "class" "" [.mk "function" "void h()" []], .mk "function" "void g()" []]],
      [⟨"func", "ns::T::g", none, none⟩, ⟨"func", "", none, none⟩]⟩,
    ⟨"b", [.mk "member" "int x" []], [⟨"member", "y", none, none⟩]⟩]⟩ (by decide +kernel) (Index.empty {})
  exact ⟨hobjects, by decide +kernel, hwarnings, by decide +kernel, by decide +kernel, hperm⟩

end Manifest

end CppIndex
