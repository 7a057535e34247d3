import CppIndex.Proofs.Project.Document
import CppIndex.Proofs.Project.Session

/-!
# Building a project twice

A second build of the same project changes nothing and reports the same (`Manifest.build_twice`), whatever
was described, cleared and built before. While it goes on, a name that several documents register changes
hands: its entry is taken back with the document that holds it, and given again by each of its documents.
In the end the last of them holds it, as after the first build, and a name that no document of the project
registers has kept an entry of another document through both builds or has lost its own in the first.
-/

namespace CppIndex

namespace Manifest

variable {m : Manifest} {ix : Index}

/-- **The objects after two builds** in a row are those after the first. -/
theorem objects_build_build (h : Record.Sorted ix.objects)
    (hnames : (m.documents.map (·.name)).Nodup) :
    (m.build (m.build ix).2).2.objects = (m.build ix).2.objects := by
  have hbuilt : Record.Sorted (m.build ix).2.objects := sorted_build h
  refine (sorted_build hbuilt).ext hbuilt fun name => ?_
  have hname : (m.build (m.build ix).2).2.get? name = (m.build ix).2.get? name := by
    rw [get?_build hbuilt hnames, get?_build h hnames]
    cases m.documents.reverse.findSome? (·.latest? name) with
    | some entry => rfl
    | none =>
      -- what the first build left of the name does not stand in a document of the project
      rw [Option.none_or, Option.none_or, Option.filter_filter]
      simp only [Bool.and_self]
  exact hname

/-- **Building twice is building once.** After any session, if a project whose documents have different
names is built twice in a row, the second report equals the first, and so do the objects. -/
theorem build_twice (h : ix.Reachable) (hnames : (m.documents.map (·.name)).Nodup) :
    (m.build (m.build ix).2).1 = (m.build ix).1 ∧
      (m.build (m.build ix).2).2.objects = (m.build ix).2.objects := by
  have hobjects := objects_build_build h.owned.sorted hnames
  have hconfig := m.config_build (m.build ix).2
  refine ⟨?_, hobjects⟩
  rw [build_report, build_report m ix, DocumentSpec.answers_eq hconfig hobjects,
    DocumentSpec.doubts_eq hconfig hobjects]

/-- Two documents register one class, and take another one over from a third document. The class `T`
changes hands twice in each build, so the second build adds two collisions, but its report is the same. -/
theorem build_twice_shared :
    ∃ (m : Manifest) (ix : Index),
      m = ⟨[⟨"a", [.mk "class" "T" [], .mk "class" "U" []], [⟨"class", "T", none, none⟩]⟩,
        ⟨"b", [.mk "class" "T" [.mk "function" "void f()" []]], [⟨"class", "V", none, none⟩]⟩]⟩ ∧
      ix.Reachable ∧
      ix.objects.map (fun r => (r.fullname, r.entry.docname)) =
        [("U", "c"), ("V", "a"), ("W", "c")] ∧
      (m.build ix).2.objects.map (fun r => (r.fullname, r.entry.docname)) =
        [("T", "b"), ("T::f", "b"), ("U", "a"), ("W", "c")] ∧
      (m.build ix).2.collisions.length + 2 = (m.build (m.build ix).2).2.collisions.length ∧
      (m.build (m.build ix).2).1 = (m.build ix).1 ∧
      (m.build (m.build ix).2).2.objects = (m.build ix).2.objects := by
  obtain ⟨m, hm⟩ : ∃ m : Manifest,
      m = ⟨[⟨"a", [.mk "class" "T" [], .mk "class" "U" []], [⟨"class", "T", none, none⟩]⟩,
        ⟨"b", [.mk "class" "T" [.mk "function" "void f()" []]],
          [⟨"class", "V", none, none⟩]⟩]⟩ := ⟨_, rfl⟩
  -- the project shares names between its documents and with a document outside of it
  obtain ⟨calls, hcalls⟩ : ∃ calls : List Call,
      calls = [.describe ⟨"a", none⟩ .classType "V", .describe ⟨"c", none⟩ .classType "U",
        .describe ⟨"c", none⟩ .classType "W"] := ⟨_, rfl⟩
  have hreachable : ((Session.start (Index.empty { policy := .warn })).run calls).index.Reachable :=
    ⟨_, _, rfl⟩
  have hnames : (m.documents.map (·.name)).Nodup := by
    rw [hm]
    decide
  refine ⟨m, _, hm, hreachable, ?_, ?_, ?_, build_twice hreachable hnames⟩
  all_goals
    rw [hcalls]
    try rw [hm]
    decide +kernel

end Manifest

end CppIndex
