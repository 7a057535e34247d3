import CppIndex.Proofs.Project.Told

/-!
# Objects with something else inside

What stands inside an object is described in the scope of the object, and the directives among it end with
it. So nothing outside notices what stands there. Put other entries inside an object, of whatever kinds,
read or rejected, at any depth (`ObjectSpec.Refilled`). Then the same is told of every object that is
reported from elsewhere, in the same order (`Manifest.told_outside_refilled`). Whether such an object is
registered may change, because the new entries may take its full name.

To say which reports come from elsewhere, each is **filed** under the way to its entry (`Manifest.filed`).
What is told of objects is filed in the same way (`ObjectSpec.tellingsAll`), and there the index plays no
part.
-/

namespace CppIndex

/-- **What is told from inside an object** and filed under the way to its entry. The object is given by its
document and the way to it. -/
def Told.IsInside (docname : String) (path : List Nat) (t : List Nat × Told) : Prop :=
  t.2.docname = docname ∧ path <+: t.1 ∧ t.1 ≠ path

instance (docname : String) (path : List Nat) (t : List Nat × Told) :
    Decidable (Told.IsInside docname path t) :=
  inferInstanceAs (Decidable (_ ∧ _))

namespace ObjectSpec

/-- **An object is refilled**: what stands inside it is replaced. It is given by its number on every level,
from the outside inwards. -/
inductive Refilled : List Nat → List ObjectSpec → List ObjectSpec → Prop
  /-- It is an object of the list. -/
  | here (front back children children' : List ObjectSpec) (kind signature : String) :
    Refilled [front.length] (front ++ .mk kind signature children :: back)
      (front ++ .mk kind signature children' :: back)
  /-- It stands inside one of them. -/
  | inside {path : List Nat} {children children' : List ObjectSpec} (front back : List ObjectSpec)
    (kind signature : String) (h : Refilled path children children') :
    Refilled (front.length :: path) (front ++ .mk kind signature children :: back)
      (front ++ .mk kind signature children' :: back)

/-! ### What is told, and of which entry -/

mutual

/-- What is told of an object and of what stands inside it. -/
def tellings (path : List Nat) (ctx : Context) : ObjectSpec → List (List Nat × Told)
  | .mk kind signature children =>
    match ObjectKind.ofLabel? kind with
    | none => []
    | some k =>
      match Declaration.parse k signature with
      -- nothing inside a rejected text is described
      | .error _ => []
      | .ok d =>
        (path, .ofDeclaration ctx k d) ::
          tellingsAll path (ctx.nestedIn (d.inScope? ctx.parent).name) 0 children

/-- **What is told of objects** that are numbered from `n` on, filed under the way to each entry. -/
def tellingsAll (path : List Nat) (ctx : Context) (n : Nat) : List ObjectSpec → List (List Nat × Told)
  | [] => []
  | o :: os => tellings (path ++ [n]) ctx o ++ tellingsAll path (actions ctx o).1 (n + 1) os

end

variable {path : List Nat} {n : Nat} {ctx : Context} {o : ObjectSpec}
  {children children' os os' : List ObjectSpec}

/-- An object whose text is read comes first, and what stands inside it is told of in its scope. -/
theorem tellings_of_read {kind : ObjectKind} {d : Declaration}
    (hkind : ObjectKind.ofLabel? o.kind = some kind) (hparse : Declaration.parse kind o.signature = .ok d) :
    tellings path ctx o = (path, .ofDeclaration ctx kind d) ::
      tellingsAll path (ctx.nestedIn (d.inScope? ctx.parent).name) 0 o.children := by
  obtain ⟨word, signature, children⟩ := o
  have hkind : ObjectKind.ofLabel? word = some kind := hkind
  have hparse : Declaration.parse kind signature = .ok d := hparse
  rw [tellings]
  simp only [hkind, hparse]
  rfl

/-- Nothing is told of any other entry, nor of what stands inside it. -/
theorem tellings_of_not_read (h : o.isRead = false) : tellings path ctx o = [] := by
  obtain ⟨word, signature, children⟩ := o
  rw [isRead] at h
  rw [tellings]
  cases hkind : ObjectKind.ofLabel? word with
  | none => rfl
  | some kind =>
    cases hparse : Declaration.parse kind signature with
    | ok d => simp [hkind, hparse, Except.isOk, Except.toBool] at h
    | error e => simp only [hparse]

/-- **What is told of reported places** is filed under the way to each of them. -/
theorem zip_reportedAll {docname : String} {around : List ObjectSpec} (path : List Nat) (n : Nat)
    (ctx : Context) (os : List ObjectSpec) (haround : around.all isRead = true)
    (hctx : ctx.docname = docname) :
    ((reportedAll docname path around n os).map (·.path)).zip (toldAll ctx os) =
      tellingsAll path ctx n os := by
  match os with
  | [] =>
    rw [reportedAll_nil, tellingsAll]
    rfl
  | .mk word signature children :: os =>
    have hbehind := zip_reportedAll path (n + 1) (actions ctx (.mk word signature children)).1 os haround
      ((docname_actions ctx _).trans hctx)
    rw [toldAll_cons, tellingsAll, ← hbehind]
    cases hread : isRead (.mk word signature children) with
    | false =>
      rw [reportedAll_cons_of_not_read haround hread, told_of_not_read hread,
        tellings_of_not_read hread, List.nil_append, List.nil_append]
    | true =>
      obtain ⟨kind, d, hkind, hparse⟩ := isRead_iff.mp hread
      have haround' : (around ++ [ObjectSpec.mk word signature children]).all isRead = true := by
        rw [all_isRead_concat, haround, hread, Bool.true_and]
      have hinside := zip_reportedAll (path ++ [n]) 0 (ctx.nestedIn (d.inScope? ctx.parent).name) children
        haround' hctx
      -- as many are told of as stand inside, so what is behind is paired with what is behind
      have hlength := (forall₂_toldAll (path ++ [n]) 0 (ctx.nestedIn (d.inScope? ctx.parent).name) children
        haround' hctx).length_eq
      rw [reportedAll_cons_of_read haround hread, told_of_read hkind hparse,
        tellings_of_read hkind hparse, List.map_cons, List.map_append, List.cons_append,
        List.zip_cons_cons, List.zip_append (by rw [List.length_map]; exact hlength)]
      exact congrArg (_ :: · ++ _) hinside

mutual

/-- What is told of an object is told from its document, under the way to it or one below. -/
theorem of_mem_tellings {path : List Nat} {ctx : Context} {t : List Nat × Told} (o : ObjectSpec)
    (h : t ∈ tellings path ctx o) : t.2.docname = ctx.docname ∧ path <+: t.1 := by
  match o with
  | .mk word signature children =>
    cases hread : isRead (.mk word signature children) with
    | false =>
      rw [tellings_of_not_read hread] at h
      cases h
    | true =>
      obtain ⟨kind, d, hkind, hparse⟩ := isRead_iff.mp hread
      rw [tellings_of_read hkind hparse] at h
      rcases List.mem_cons.mp h with rfl | h
      · exact ⟨rfl, List.prefix_rfl⟩
      · -- what is told of the entries inside stands below the object
        obtain ⟨hdoc, hpath, -⟩ := isInside_of_mem_tellingsAll children h
        exact ⟨hdoc, hpath⟩

/-- **What is told of objects inside another** is told from inside it. -/
theorem isInside_of_mem_tellingsAll {path : List Nat} {ctx : Context} {n : Nat} {t : List Nat × Told}
    (os : List ObjectSpec) (h : t ∈ tellingsAll path ctx n os) : Told.IsInside ctx.docname path t := by
  match os with
  | [] =>
    rw [tellingsAll] at h
    cases h
  | o :: os =>
    rw [tellingsAll] at h
    rcases List.mem_append.mp h with h | h
    · obtain ⟨hdoc, hpath⟩ := of_mem_tellings o h
      exact ⟨hdoc, below_of_concat_prefix hpath⟩
    · -- the directive may have changed the scope, but not the document
      rw [← docname_actions ctx o]
      exact isInside_of_mem_tellingsAll os h

end

/-! ### What is told from outside a refilled object -/

/-- The context behind an object does not depend on what stands inside it. -/
theorem actions_fst_eq (ctx : Context) (kind signature : String) (children children' : List ObjectSpec) :
    (actions ctx (.mk kind signature children')).1 = (actions ctx (.mk kind signature children)).1 := by
  rw [actions, actions]
  split
  next => rfl
  next =>
    cases ObjectKind.ofLabel? kind with
    | none => rfl
    | some k => cases hparse : Declaration.parse k signature <;> simp only [hparse]

variable {keep : List Nat × Told → Bool}

/-- If the same is kept of what is told inside an object in every context of the document, the same is kept
of what is told of the object. -/
theorem filter_tellings (kind signature : String)
    (h : ∀ ctx', ctx'.docname = ctx.docname →
      (tellingsAll path ctx' 0 children').filter keep = (tellingsAll path ctx' 0 children).filter keep) :
    (tellings path ctx (.mk kind signature children')).filter keep =
      (tellings path ctx (.mk kind signature children)).filter keep := by
  cases hread : isRead (.mk kind signature children) with
  | false =>
    have hread' : isRead (.mk kind signature children') = false := hread
    rw [tellings_of_not_read hread, tellings_of_not_read hread']
  | true =>
    -- the same declaration is read, so what stands inside is described in the same scope
    obtain ⟨k, d, hkind, hparse⟩ := isRead_iff.mp hread
    have hinside := h (ctx.nestedIn (d.inScope? ctx.parent).name) rfl
    rw [tellings_of_read hkind hparse, @tellings_of_read _ _ (.mk kind signature children') _ _ hkind hparse,
      List.filter_cons, List.filter_cons]
    exact ite_congr rfl (fun _ => congrArg (_ :: ·) hinside) fun _ => hinside

/-- The same holds of what is told of objects among which it stands. -/
theorem filter_tellingsAll (front back : List ObjectSpec) (kind signature : String)
    (h : ∀ ctx', ctx'.docname = ctx.docname →
      (tellingsAll (path ++ [n + front.length]) ctx' 0 children').filter keep =
        (tellingsAll (path ++ [n + front.length]) ctx' 0 children).filter keep) :
    (tellingsAll path ctx n (front ++ .mk kind signature children' :: back)).filter keep =
      (tellingsAll path ctx n (front ++ .mk kind signature children :: back)).filter keep := by
  -- the objects in front are the same, so they lead to one context, with a number more for each of them
  induction front generalizing n ctx with
  | nil =>
    rw [List.length_nil, Nat.add_zero] at h
    rw [List.nil_append, List.nil_append, tellingsAll, tellingsAll, List.filter_append,
      List.filter_append, filter_tellings kind signature h, actions_fst_eq]
  | cons o front ih =>
    have hnumber : n + 1 + front.length = n + (o :: front).length := by
      rw [List.length_cons]
      omega
    rw [List.cons_append, List.cons_append, tellingsAll, tellingsAll, List.filter_append,
      List.filter_append, ih]
    rw [hnumber, docname_actions]
    exact h

/-- **Nothing outside notices** what stands inside an object. -/
theorem filter_tellingsAll_refilled {target : List Nat} (h : Refilled target os os') (path : List Nat)
    (ctx : Context) :
    (tellingsAll path ctx 0 os').filter (¬ Told.IsInside ctx.docname (path ++ target) ·) =
      (tellingsAll path ctx 0 os).filter (¬ Told.IsInside ctx.docname (path ++ target) ·) := by
  induction h generalizing path ctx with
  | here front back children children' kind signature =>
    -- all that is told inside the object is left out
    have hnothing : ∀ os ctx', ctx'.docname = ctx.docname →
        (tellingsAll (path ++ [front.length]) ctx' 0 os).filter
          (¬ Told.IsInside ctx.docname (path ++ [front.length]) ·) = [] := by
      intro os ctx' hctx
      refine List.filter_eq_nil_iff.mpr fun t ht => ?_
      simpa [hctx] using isInside_of_mem_tellingsAll os ht
    refine filter_tellingsAll front back kind signature fun ctx' hctx => ?_
    rw [Nat.zero_add, hnothing children' ctx' hctx, hnothing children ctx' hctx]
  | @inside target children children' front back kind signature _ ih =>
    -- the way goes on inside the object, where the document is the same
    refine filter_tellingsAll front back kind signature fun ctx' hctx => ?_
    rw [Nat.zero_add, ← hctx, List.append_cons]
    exact ih (path ++ [front.length]) ctx'

end ObjectSpec

/-! ### Reports from outside a refilled object -/

namespace Manifest

/-- **The reported objects of a build**, each filed under the way to its entry. There is one for each reported
place, and what it tells is told of the entry there (`Manifest.forall₂_build_objects`). -/
def filed (m : Manifest) (ix : Index) : List (List Nat × ObjectReport) :=
  (m.reported.map (·.path)).zip (m.build ix).1.objects

/-- What a manifest has told of its objects, filed under the way to each entry. -/
def tellings (m : Manifest) : List (List Nat × Told) :=
  m.documents.flatMap fun d => ObjectSpec.tellingsAll [] ⟨d.name, none⟩ 0 d.objects

variable {m m' : Manifest} {d : DocumentSpec} {before after : List DocumentSpec} {path : List Nat}
  {objects : List ObjectSpec}

/-- What is told of the reported places of documents is filed under the way to each of them. -/
theorem zip_reported (ds : List DocumentSpec) :
    ((ds.flatMap fun d => ObjectSpec.reportedAll d.name [] [] 0 d.objects).map (·.path)).zip
        (ds.flatMap fun d => ObjectSpec.toldAll ⟨d.name, none⟩ d.objects) =
      ds.flatMap fun d => ObjectSpec.tellingsAll [] ⟨d.name, none⟩ 0 d.objects := by
  induction ds with
  | nil => rfl
  | cons d ds ih =>
    have hall : ([] : List ObjectSpec).all ObjectSpec.isRead = true := List.all_nil
    have hctx : Context.docname ⟨d.name, none⟩ = d.name := rfl
    -- zipping goes document by document, because as many objects are reported as are told
    have hlength := (ObjectSpec.forall₂_toldAll [] 0 ⟨d.name, none⟩ d.objects hall hctx).length_eq
    have hdocument := ObjectSpec.zip_reportedAll [] 0 ⟨d.name, none⟩ d.objects hall hctx
    rw [List.flatMap_cons, List.flatMap_cons, List.flatMap_cons, List.map_append,
      List.zip_append (by rw [List.length_map, hlength]), ih, hdocument]

/-- **What the filed reports tell** does not depend on the index. -/
theorem map_told_filed (m : Manifest) (ix : Index) :
    (m.filed ix).map (fun f => (f.1, f.2.told)) = m.tellings := by
  rw [tellings, ← zip_reported, ← reported_eq, ← told, ← m.map_told_build ix, List.zip_map_right]
  rfl

/-- **Nothing outside an object notices what stands inside it.** Replace all that stands inside one object
of a project, whatever it is, by anything else, and build both projects on the same index. Each build reports
the objects that are visited and read, one by one. File the reports under the way to their entries. From
outside the object the same is told in both builds: of the same entries, in the same order, the same
documents, kinds, full names, anchors, index entries and signatures. -/
theorem told_outside_refilled (h : ObjectSpec.Refilled path d.objects objects)
    (hd : m.documents = before ++ d :: after)
    (hd' : m'.documents = before ++ { d with objects := objects } :: after) (ix : Index) :
    List.Forall₂ (fun p o => Told.IsOf p o.told) m.reported (m.build ix).1.objects ∧
      List.Forall₂ (fun p o => Told.IsOf p o.told) m'.reported (m'.build ix).1.objects ∧
      ((m'.filed ix).map fun f => (f.1, f.2.told)).filter (¬ Told.IsInside d.name path ·) =
        ((m.filed ix).map fun f => (f.1, f.2.told)).filter (¬ Told.IsInside d.name path ·) := by
  refine ⟨m.forall₂_build_objects ix, m'.forall₂_build_objects ix, ?_⟩
  have hdocument := ObjectSpec.filter_tellingsAll_refilled h [] ⟨d.name, none⟩
  rw [List.nil_append] at hdocument
  -- both builds tell what the manifests tell, and these differ in one document only
  rw [map_told_filed, map_told_filed, tellings, tellings, hd, hd']
  simp only [List.flatMap_append, List.flatMap_cons, List.filter_append]
  rw [hdocument]

/-- A class between two directives holds a method and another class. They give way to a class without a
name, two directives and a member that takes the full name of the member behind the class. Outside of the
class only this is new, that the member behind it is no longer registered. -/
theorem told_outside_refilled_namesake :
    ∃ (m m' : Manifest) (ix : Index),
      m = ⟨[⟨"a", [.mk "namespace" "N" [],
        .mk "class" "T" [.mk "function" "void f()" [], .mk "class" "U" []],
        .mk "namespace" "N::T" [], .mk "member" "int x" []], []⟩]⟩ ∧
      m' = ⟨[⟨"a", [.mk "namespace" "N" [],
        .mk "class" "T" [.mk "class" "" [.mk "member" "int y" []], .mk "namespace" "" [],
          .mk "namespace" "N::T" [], .mk "member" "int x" []],
        .mk "namespace" "N::T" [], .mk "member" "int x" []], []⟩]⟩ ∧
      ix = Index.empty {} ∧
      (m.filed ix).map (fun f => (f.1, f.2.described.fullname, f.2.described.registered)) =
        [([1], "N::T", true), ([1, 0], "N::T::f", true), ([1, 1], "N::T::U", true),
          ([3], "N::T::x", true)] ∧
      (m'.filed ix).map (fun f => (f.1, f.2.described.fullname, f.2.described.registered)) =
        [([1], "N::T", true), ([1, 3], "N::T::x", true), ([3], "N::T::x", false)] ∧
      ((m'.filed ix).map fun f => (f.1, f.2.told)).filter (¬ Told.IsInside "a" [1] ·) =
        ((m.filed ix).map fun f => (f.1, f.2.told)).filter (¬ Told.IsInside "a" [1] ·) := by
  -- the new content takes the name of the member behind the class
  have hrefilled := ObjectSpec.Refilled.here [.mk "namespace" "N" []]
    [.mk "namespace" "N::T" [], .mk "member" "int x" []]
    [.mk "function" "void f()" [], .mk "class" "U" []]
    [.mk "class" "" [.mk "member" "int y" []], .mk "namespace" "" [], .mk "namespace" "N::T" [],
      .mk "member" "int x" []] "class" "T"
  refine ⟨_, _, _, rfl, rfl, rfl, by decide +kernel, by decide +kernel, ?_⟩
  exact (@told_outside_refilled _ _ ⟨"a", _, []⟩ [] [] _ _ hrefilled rfl rfl (Index.empty {})).2.2

end Manifest

end CppIndex
