import CppIndex.Proofs.Project.Document
import Mathlib.Data.List.Flatten
import Mathlib.Data.List.Nodup

/-!
# The order of the documents

A document reports the same wherever it stands, so the order of the documents can only matter where two of
them give one name an entry, because then the later one wins. If no full name is described in two
documents, at most one of them decides what a name is looked up as
(`DocumentSpec.findSome?_latest?_of_perm`), and a project can be built in any order
(`Manifest.build_of_perm`): the objects are the same, references find the same in them, each document has
the same reports in the same order, and the warnings are the same up to their order.
-/

namespace CppIndex

/-- **The documents of a manifest without faults** have different names. -/
theorem Manifest.nodup_of_faultInAll? {seen : List String} {ds : List DocumentSpec}
    (h : faultInAll? seen ds = none) :
    (ds.map (·.name)).Nodup ∧ ∀ d ∈ ds, d.name ∉ seen := by
  induction ds generalizing seen with
  | nil => simp
  | cons first ds ih =>
    rw [faultInAll?, Option.or_eq_none_iff] at h
    obtain ⟨hfirst, hrest⟩ := h
    obtain ⟨hnodup, hseen⟩ := ih hrest
    -- A document is checked against the names of those before it.
    have hfresh : first.name ∉ seen := by
      rw [DocumentSpec.fault?] at hfirst
      split at hfirst
      next => cases hfirst
      next hname => exact hname
    refine ⟨List.nodup_cons.mpr ⟨fun hm => ?_, hnodup⟩, fun d hd => ?_⟩
    · obtain ⟨d, hd, hname⟩ := List.mem_map.mp hm
      exact hseen d hd (hname ▸ List.mem_cons_self ..)
    · rcases List.mem_cons.mp hd with rfl | hd
      · exact hfresh
      · exact fun hm => hseen d hd (List.mem_cons_of_mem _ hm)

namespace DocumentSpec

variable {ds ds' : List DocumentSpec}

/-! ### What one document contributes -/

/-- **What is reported of one document** is what the document of this name contributes. -/
theorem filter_flatMap {α : Type} {owner : α → String} {part : DocumentSpec → List α}
    (howner : ∀ d, ∀ a ∈ part d, owner a = d.name) (docname : String) (ds : List DocumentSpec) :
    (ds.flatMap part).filter (owner · = docname) =
      (ds.filter (·.name = docname)).flatMap part := by
  induction ds with
  | nil => rfl
  | cons d ds ih =>
    rw [List.flatMap_cons, List.filter_append, ih]
    by_cases hd : d.name = docname
    · -- all that comes from a document has its owner, so it is kept or dropped as a whole
      have hall : (part d).filter (owner · = docname) = part d :=
        List.filter_eq_self.mpr fun a ha => decide_eq_true ((howner d a ha).trans hd)
      rw [hall, List.filter_cons_of_pos (by simpa using hd), List.flatMap_cons]
    · have hnone : (part d).filter (owner · = docname) = [] :=
        List.filter_eq_nil_iff.mpr fun a ha => by simpa [howner d a ha] using hd
      rw [hnone, List.filter_cons_of_neg (by simpa using hd), List.nil_append]

/-- The document of a name is the same in every order. -/
theorem filter_name_of_perm (hnames : (ds.map (·.name)).Nodup) (hperm : ds.Perm ds')
    (docname : String) :
    ds'.filter (·.name = docname) = ds.filter (·.name = docname) := by
  -- there is one document of this name at most, so nothing can change places
  have hunique : ∀ d ∈ ds.filter (·.name = docname), ∀ d' ∈ ds.filter (·.name = docname), d = d' := by
    intro d hd d' hd'
    obtain ⟨hd, hname⟩ := List.mem_filter.mp hd
    obtain ⟨hd', hname'⟩ := List.mem_filter.mp hd'
    exact List.inj_on_of_nodup_map hnames hd hd'
      ((of_decide_eq_true hname).trans (of_decide_eq_true hname').symm)
  have hfilter : (ds'.filter (·.name = docname)).Perm (ds.filter (·.name = docname)) :=
    hperm.symm.filter _
  exact hfilter.eq_of_pairwise (fun d d' hd hd' _ _ => hunique d (hfilter.mem_iff.mp hd) d' hd')
    (List.pairwise_of_forall fun _ _ => trivial) (List.pairwise_of_forall fun _ _ => trivial)

/-- The answers to the references of a document stand in it. -/
theorem docname_of_mem_answers {ix : Index} {d : DocumentSpec} {r : ReferenceReport}
    (h : r ∈ d.answers ix) : r.docname = d.name := by
  obtain ⟨spec, -, hr⟩ := List.mem_flatMap.mp h
  rw [ReferenceSpec.outcome] at hr
  split at hr
  next => cases hr
  next => exact congrArg ReferenceReport.docname (List.mem_singleton.mp hr)

/-! ### What names are looked up as -/

/-- **Names with one document each.** A name that is registered in one document at most is looked up as
the same in every order of the documents. -/
theorem findSome?_latest?_of_perm (hnames : (ds.map (·.name)).Nodup) (hperm : ds.Perm ds')
    (hshared : ∀ o ∈ ds.flatMap reports, ∀ o' ∈ ds.flatMap reports,
      o.described.fullname = o'.described.fullname → o.docname = o'.docname) (name : String) :
    ds'.reverse.findSome? (·.latest? name) = ds.reverse.findSome? (·.latest? name) := by
  -- Documents share no name, so at most one of them has an entry and the order cannot matter.
  have hunique : ∀ d ∈ ds, ∀ d' ∈ ds, ∀ entry entry', d.latest? name = some entry →
      d'.latest? name = some entry' → entry = entry' := by
    intro d hd d' hd' entry entry' hentry hentry'
    obtain ⟨o, ho, hname, -⟩ := exists_report_of_latest? hentry
    obtain ⟨o', ho', hname', -⟩ := exists_report_of_latest? hentry'
    have hdoc := hshared o (List.mem_flatMap.mpr ⟨d, hd, ho⟩) o' (List.mem_flatMap.mpr ⟨d', hd', ho'⟩)
      (hname.trans hname'.symm)
    rw [docname_of_mem_reports ho, docname_of_mem_reports ho'] at hdoc
    obtain rfl := List.inj_on_of_nodup_map hnames hd hd' hdoc
    exact Option.some.inj (hentry.symm.trans hentry')
  have hfind : ∀ {ds₀ : List DocumentSpec}, ds₀.Perm ds → ∀ entry,
      ds₀.findSome? (·.latest? name) = some entry ↔ ∃ d ∈ ds, d.latest? name = some entry := by
    intro ds₀ h₀ entry
    constructor
    · intro h
      obtain ⟨d, hd, hentry⟩ := List.exists_of_findSome?_eq_some h
      exact ⟨d, h₀.mem_iff.mp hd, hentry⟩
    · rintro ⟨d, hd, hentry⟩
      have hsome : (ds₀.findSome? (·.latest? name)).isSome :=
        List.findSome?_isSome_iff.mpr ⟨d, h₀.mem_iff.mpr hd, by rw [hentry]; rfl⟩
      obtain ⟨entry', h⟩ := Option.isSome_iff_exists.mp hsome
      obtain ⟨d', hd', hentry'⟩ := List.exists_of_findSome?_eq_some h
      rw [h, hunique d' (h₀.mem_iff.mp hd') d hd entry' entry hentry' hentry]
  refine Option.ext fun entry => ?_
  rw [hfind (ds'.reverse_perm.trans hperm.symm), hfind ds.reverse_perm]

end DocumentSpec

namespace Manifest

variable {m m' : Manifest} {config : Config}

/-- **The order of the documents does not matter** if no full name is described in two of them. Then a
project without faults, built on an index without objects, leads to the same objects in every order of its
documents; each document has the same reports of objects and of references, in the same order; and the
warnings are the same up to their order. -/
theorem build_of_perm (hvalid : m.fault? = none) (hperm : m.documents.Perm m'.documents)
    (hshared : ∀ o ∈ (m.build (Index.empty config)).1.objects,
      ∀ o' ∈ (m.build (Index.empty config)).1.objects,
        o.described.fullname = o'.described.fullname → o.docname = o'.docname) :
    (m'.build (Index.empty config)).2.objects = (m.build (Index.empty config)).2.objects ∧
      (∀ docname, (m'.build (Index.empty config)).1.objects.filter (·.docname = docname) =
        (m.build (Index.empty config)).1.objects.filter (·.docname = docname)) ∧
      (∀ docname, (m'.build (Index.empty config)).1.references.filter (·.docname = docname) =
        (m.build (Index.empty config)).1.references.filter (·.docname = docname)) ∧
      (m'.build (Index.empty config)).1.warnings.Perm
        (m.build (Index.empty config)).1.warnings := by
  have hnames := (nodup_of_faultInAll? hvalid).1
  have hnames' : (m'.documents.map (·.name)).Nodup := (hperm.map _).nodup_iff.mp hnames
  rw [build_report] at hshared
  have hempty : Record.Sorted (Index.empty config).objects := List.Pairwise.nil
  have hobjects :
      (m'.build (Index.empty config)).2.objects = (m.build (Index.empty config)).2.objects := by
    refine (sorted_build hempty).ext (sorted_build hempty) fun name => ?_
    have hname : (m'.build (Index.empty config)).2.get? name =
        (m.build (Index.empty config)).2.get? name := by
      rw [get?_build hempty hnames', get?_build hempty hnames,
        DocumentSpec.findSome?_latest?_of_perm hnames hperm hshared]
      rfl
    exact hname
  -- references see the same objects, so each of them turns out the same
  have hconfig :=
    (m'.config_build (Index.empty config)).trans (m.config_build (Index.empty config)).symm
  rw [build_report m' (Index.empty config), build_report m (Index.empty config),
    DocumentSpec.answers_eq hconfig hobjects, DocumentSpec.doubts_eq hconfig hobjects]
  refine ⟨hobjects, fun docname => ?_, fun docname => ?_, ?_⟩
  · rw [DocumentSpec.filter_flatMap fun _ _ => DocumentSpec.docname_of_mem_reports,
      DocumentSpec.filter_flatMap fun _ _ => DocumentSpec.docname_of_mem_reports,
      DocumentSpec.filter_name_of_perm hnames hperm]
  · rw [DocumentSpec.filter_flatMap fun _ _ => DocumentSpec.docname_of_mem_answers,
      DocumentSpec.filter_flatMap fun _ _ => DocumentSpec.docname_of_mem_answers,
      DocumentSpec.filter_name_of_perm hnames hperm]
  · exact (hperm.symm.flatMap_right _).append (hperm.symm.flatMap_right _)

/-- Two documents refer to each other, and a third one is in the way of neither. Turned round, each of them
answers its references as before, and the two warnings change places. -/
theorem build_of_perm_turned :
    ∃ m m' : Manifest,
      m.documents =
        [⟨"a", [.mk "class" "T" [.mk "function" "void f()" []], .mk "class" "" []],
          [⟨"class", "U", none, none⟩]⟩,
        ⟨"b", [.mk "class" "U" []], [⟨"func", "f", none, some "T"⟩, ⟨"class", "", none, none⟩]⟩,
        ⟨"c", [], []⟩] ∧
      m'.documents = m.documents.reverse ∧
      (m.build (Index.empty {})).2.objects.length = 3 ∧
      (m.build (Index.empty {})).1.references.map (·.resolution.isResolved) = [true, true, false] ∧
      (m.build (Index.empty {})).1.warnings.map (·.docname) = ["a", "b"] ∧
      (m'.build (Index.empty {})).2.objects = (m.build (Index.empty {})).2.objects ∧
      (∀ docname, (m'.build (Index.empty {})).1.objects.filter (·.docname = docname) =
        (m.build (Index.empty {})).1.objects.filter (·.docname = docname)) ∧
      (∀ docname, (m'.build (Index.empty {})).1.references.filter (·.docname = docname) =
        (m.build (Index.empty {})).1.references.filter (·.docname = docname)) ∧
      (m'.build (Index.empty {})).1.warnings.Perm (m.build (Index.empty {})).1.warnings := by
  obtain ⟨m, hm⟩ : ∃ m : Manifest, m =
      ⟨[⟨"a", [.mk "class" "T" [.mk "function" "void f()" []], .mk "class" "" []],
          [⟨"class", "U", none, none⟩]⟩,
        ⟨"b", [.mk "class" "U" []], [⟨"func", "f", none, some "T"⟩, ⟨"class", "", none, none⟩]⟩,
        ⟨"c", [], []⟩]⟩ := ⟨_, rfl⟩
  have hvalid : m.fault? = none := by
    rw [hm]
    decide +kernel
  have hperm : m.documents.Perm (Manifest.mk m.documents.reverse).documents :=
    m.documents.reverse_perm.symm
  -- no full name is described in two documents, though `T` has one inside
  have hshared : ∀ o ∈ (m.build (Index.empty {})).1.objects,
      ∀ o' ∈ (m.build (Index.empty {})).1.objects,
        o.described.fullname = o'.described.fullname → o.docname = o'.docname := by
    rw [hm]
    decide +kernel
  refine ⟨m, ⟨m.documents.reverse⟩, by rw [hm], rfl, ?_, ?_, ?_,
    build_of_perm hvalid hperm hshared⟩
  all_goals
    rw [hm]
    decide +kernel

end Manifest

end CppIndex
