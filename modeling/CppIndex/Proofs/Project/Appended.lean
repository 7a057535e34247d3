import CppIndex.Proofs.Project.Document
import CppIndex.Proofs.Project.Reference

/-!
# One more reference

A reference describes nothing, so a document with one more reference at its end is surveyed like the document
without it (`DocumentSpec.survey_withReference`), and a project with this document in its place leads to the
same index. If the reference has a role, its report is the only difference to the references of the report: it
stands behind the reports of all references in front of it (`Manifest.build_withReference`).
-/

namespace CppIndex

/-- **A document with one more reference**, behind those that it has. -/
def DocumentSpec.withReference (d : DocumentSpec) (r : ReferenceSpec) : DocumentSpec :=
  { d with references := d.references ++ [r] }

namespace DocumentSpec

variable {d : DocumentSpec} {r : ReferenceSpec} {role : Role} {before after : List DocumentSpec}

/-- A reference describes nothing. -/
theorem survey_withReference (d : DocumentSpec) (r : ReferenceSpec) (ix : Index) :
    (d.withReference r).survey ix = d.survey ix := rfl

/-- Documents with one more reference among them are surveyed like those without it. -/
theorem surveyAll_withReference (ix : Index) (before after : List DocumentSpec) (d : DocumentSpec)
    (r : ReferenceSpec) : surveyAll ix (before ++ d.withReference r :: after) =
      surveyAll ix (before ++ d :: after) := by
  induction before generalizing ix with
  | nil => rw [List.nil_append, List.nil_append, surveyAll, surveyAll, survey_withReference]
  | cons first before ih =>
    rw [List.cons_append, List.cons_append, surveyAll, surveyAll]
    exact congrArg (Survey.andThen _) (funext ih)

/-- A reference with a role is no fault. -/
theorem fault?_withReference (hrole : Role.ofLabel? r.role = some role) (seen : List String) :
    (d.withReference r).fault? seen = d.fault? seen := by
  have hr : r.fault? d.name = none := by
    rw [ReferenceSpec.fault?, hrole]
    rfl
  -- the new reference is checked last, and adds no fault
  have hrefs : (d.references ++ [r]).findSome? (ReferenceSpec.fault? d.name) =
      d.references.findSome? (ReferenceSpec.fault? d.name) := by
    rw [List.findSome?_append, List.findSome?_singleton, hr, Option.or_none]
  rw [fault?, fault?, ← hrefs]
  rfl

/-- A reference with a role has one answer, behind those to the others. -/
theorem answers_withReference (hrole : Role.ofLabel? r.role = some role) (ix : Index) :
    (d.withReference r).answers ix = d.answers ix ++ [r.report ix d.name role] := by
  have hanswer : (r.outcome ix d.name).1 = [r.report ix d.name role] := by
    rw [ReferenceSpec.outcome]
    simp only [hrole]
  show (d.references ++ [r]).flatMap (fun r => (r.outcome ix d.name).1) = _
  rw [List.flatMap_append, List.flatMap_singleton, hanswer]
  rfl

/-- References with roles have one answer each. -/
theorem length_answers (ix : Index) {ds : List DocumentSpec}
    (h : ∀ d ∈ ds, ∀ r ∈ d.references, ∃ role, Role.ofLabel? r.role = some role) :
    (ds.flatMap (answers ix)).length = (ds.flatMap (·.references)).length := by
  -- a reference without a role would have no answer
  have hone : ∀ d ∈ ds, (answers ix d).length = d.references.length := by
    intro d hd
    rw [answers, List.length_flatMap, List.map_congr_left fun r hr => ?_, List.map_const',
      List.sum_replicate_nat, Nat.mul_one]
    obtain ⟨role, hrole⟩ := h d hd r hr
    rw [ReferenceSpec.outcome]
    simp only [hrole]
    rfl
  rw [List.length_flatMap, List.length_flatMap, List.map_congr_left hone]

end DocumentSpec

namespace Manifest

variable {m m' : Manifest} {d : DocumentSpec} {r : ReferenceSpec} {role : Role}
  {before after : List DocumentSpec}

/-- Documents with one more reference among them, which has a role, are as faulty as those without it. -/
theorem faultInAll?_withReference (hrole : Role.ofLabel? r.role = some role) (seen : List String) :
    faultInAll? seen (before ++ d.withReference r :: after) =
      faultInAll? seen (before ++ d :: after) := by
  -- names are checked against those of the documents in front, which are the same
  induction before generalizing seen with
  | nil =>
    rw [List.nil_append, List.nil_append, faultInAll?, faultInAll?,
      DocumentSpec.fault?_withReference hrole]
    rfl
  | cons first before ih =>
    rw [List.cons_append, List.cons_append, faultInAll?, faultInAll?, ih]

/-- **A project with one more reference.** It has no fault if the reference has a role and the project had
none; the index behind the build is the same; and in the report the reference has an entry of its own, behind
the entries of the references in front of it, while the others are as before. -/
theorem build_withReference (hvalid : m.fault? = none) (hrole : Role.ofLabel? r.role = some role)
    (hd : m.documents = before ++ d :: after)
    (hd' : m'.documents = before ++ d.withReference r :: after) (ix : Index) :
    m'.fault? = none ∧ (m'.build ix).2 = (m.build ix).2 ∧
      ∃ front back, (m.build ix).1.references = front ++ back ∧
        (m'.build ix).1.references = front ++ r.report (m.build ix).2 d.name role :: back ∧
        front.length = ((before ++ [d]).flatMap (·.references)).length := by
  have hfault : m'.fault? = none := by
    rw [fault?, hd', faultInAll?_withReference hrole, ← hd]
    exact hvalid
  have hindex : (m'.build ix).2 = (m.build ix).2 := by
    show (DocumentSpec.surveyAll ix m'.documents).index = (DocumentSpec.surveyAll ix m.documents).index
    rw [hd', hd, DocumentSpec.surveyAll_withReference]
  -- References do not change the index, so all others are answered as before.
  have hanswers : (d.withReference r).answers (m.build ix).2 =
      d.answers (m.build ix).2 ++ [r.report (m.build ix).2 d.name role] :=
    DocumentSpec.answers_withReference hrole _
  refine ⟨hfault, hindex, (before ++ [d]).flatMap (·.answers (m.build ix).2),
    after.flatMap (·.answers (m.build ix).2), ?_, ?_, ?_⟩
  · rw [build_report]
    show m.documents.flatMap (·.answers (m.build ix).2) = _
    rw [hd, ← List.flatMap_append, List.append_assoc, List.singleton_append]
  · rw [build_report]
    show m'.documents.flatMap (·.answers (m'.build ix).2) = _
    rw [hindex, hd', List.flatMap_append, List.flatMap_append, List.flatMap_cons, List.flatMap_singleton,
      hanswers]
    simp only [List.append_assoc, List.cons_append, List.nil_append]
  · -- every reference of a project without faults has one entry
    refine DocumentSpec.length_answers _ fun e he => exists_role_of_faultInAll? hvalid e ?_
    rw [hd]
    rcases List.mem_append.mp he with he | he
    · exact List.mem_append_left _ he
    · exact List.mem_append_right _ (List.mem_singleton.mp he ▸ List.mem_cons_self ..)

end Manifest

end CppIndex
