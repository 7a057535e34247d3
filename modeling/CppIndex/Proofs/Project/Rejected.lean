import CppIndex.Proofs.Project.Document

/-!
# Rejected entries

An entry of a manifest is rejected if its text is no declaration of its kind or, in a directive, no scope
(`ObjectSpec.Rejected`). Such an entry describes nothing and leaves the context as it was, so what follows it is
described as if it were not there, and nothing inside it is described at all. All that is left of it is one
warning, and not even that if an object around it is rejected as well, because then nothing comes to it.

So a rejected entry can be put anywhere into a project, at any depth (`ObjectSpec.Inserted`). The index behind
the build, the objects and the references of the report stay as they are, and the warnings gain at most the one
about the entry (`Manifest.build_inserted`).
-/

namespace CppIndex

/-! ### Surveys with more warnings -/

/-- **A survey gains warnings**: the other survey leads to the same index and reports the same objects, and
its warnings are the same but for some more at one place. -/
structure Survey.Gains (s : Survey) (extra : List Warning) (s' : Survey) : Prop where
  /-- The index behind both is the same. -/
  index : s'.index = s.index
  /-- So are the objects. -/
  objects : s'.objects = s.objects
  /-- The further warnings stand at one place among the others. -/
  warnings : ∃ front back, s.warnings = front ++ back ∧ s'.warnings = front ++ extra ++ back

namespace Survey

variable {s s' : Survey} {extra : List Warning}

/-- Without further warnings a survey stays as it is. -/
theorem Gains.refl (s : Survey) : s.Gains [] s := ⟨rfl, rfl, [], s.warnings, rfl, rfl⟩

/-- A survey whose first part gains warnings gains them, whatever follows. -/
theorem Gains.andThen (h : s.Gains extra s') (next : Index → Survey) :
    (s.andThen next).Gains extra (s'.andThen next) := by
  obtain ⟨hindex, hobjects, front, back, hold, hnew⟩ := h
  -- what comes next starts from the same index, and warns behind the place of the gain
  refine ⟨?_, ?_, front, back ++ (next s.index).warnings, ?_, ?_⟩
  · show (next s'.index).index = (next s.index).index
    rw [hindex]
  · show s'.objects ++ (next s'.index).objects = s.objects ++ (next s.index).objects
    rw [hindex, hobjects]
  · show s.warnings ++ (next s.index).warnings = _
    rw [hold, List.append_assoc]
  · show s'.warnings ++ (next s'.index).warnings = _
    rw [hindex, hnew, List.append_assoc]

/-- A survey whose second part gains warnings gains them, whatever stands in front. -/
theorem Gains.behind {next next' : Index → Survey} (s : Survey)
    (h : (next s.index).Gains extra (next' s.index)) :
    (s.andThen next).Gains extra (s.andThen next') := by
  obtain ⟨hindex, hobjects, front, back, hold, hnew⟩ := h
  -- the warnings of the first survey move in front of the place of the gain
  refine ⟨hindex, ?_, s.warnings ++ front, back, ?_, ?_⟩
  · show s.objects ++ (next' s.index).objects = s.objects ++ (next s.index).objects
    rw [hobjects]
  · show s.warnings ++ (next s.index).warnings = _
    rw [hold, List.append_assoc]
  · show s.warnings ++ (next' s.index).warnings = _
    rw [hnew, List.append_assoc, List.append_assoc, List.append_assoc]

/-- A warning alone is what the survey behind it gains. -/
theorem gains_warn (ix : Index) (docname : String) (problem : Problem) (next : Index → Survey) :
    (next ix).Gains [⟨docname, problem⟩] ((warn ix docname problem).andThen next) :=
  ⟨rfl, rfl, [], (next ix).warnings, rfl, rfl⟩

end Survey

namespace ObjectSpec

/-! ### Entries and where they stand -/

/-- **An entry is rejected** with an error: it is an object whose text is no declaration of its kind, or a
directive whose text is no scope. The words that lead back to the global scope are no such text. -/
inductive Rejected : ObjectSpec → ParseError → Prop
  /-- An object, whatever stands inside it. -/
  | object {kind signature : String} {children : List ObjectSpec} {k : ObjectKind} {e : ParseError}
    (hkind : ObjectKind.ofLabel? kind = some k) (h : Declaration.parse k signature = .error e) :
    Rejected (.mk kind signature children) e
  /-- A namespace directive. -/
  | directive {signature : String} {children : List ObjectSpec} {e : ParseError}
    (hword : Text.trimmed signature ∉ Context.globalWords)
    (h : Expr.parse (Text.trimmed signature) = .error e) :
    Rejected (.mk namespaceWord signature children) e

/-- Whether an entry is an object whose text is a declaration of its kind. -/
def isRead : ObjectSpec → Bool
  | .mk kind signature _ =>
    match ObjectKind.ofLabel? kind with
    | none => false
    | some k => (Declaration.parse k signature).isOk

/-- **An entry is inserted** into a list of objects, at any place and at any depth: among the objects of the
list, or among those inside one of them. The objects around the entry are listed from the outside
inwards. -/
inductive Inserted (entry : ObjectSpec) : List ObjectSpec → List ObjectSpec → List ObjectSpec → Prop
  /-- Among the objects of the list. -/
  | here (front back : List ObjectSpec) : Inserted entry [] (front ++ back) (front ++ entry :: back)
  /-- Inside one of them. -/
  | inside {around children children' : List ObjectSpec} (front back : List ObjectSpec)
    (kind signature : String) (h : Inserted entry around children children') :
    Inserted entry (.mk kind signature children :: around)
      (front ++ .mk kind signature children :: back) (front ++ .mk kind signature children' :: back)

/-- **The warnings that a rejected entry leaves**: one, if the text of every object around it is read. -/
def warningsOf (docname : String) (e : ParseError) (around : List ObjectSpec) : List Warning :=
  if around.all isRead then [⟨docname, .rejected e⟩] else []

variable {entry : ObjectSpec} {e : ParseError} {around os os' : List ObjectSpec}

/-! ### Surveys with a rejected entry -/

/-- The word of a directive is that of no kind. -/
theorem ofLabel?_namespaceWord : ObjectKind.ofLabel? namespaceWord = none := by decide

/-- A kind is not the word of a directive. -/
theorem ne_namespaceWord {kind : String} {k : ObjectKind} (h : ObjectKind.ofLabel? kind = some k) :
    kind ≠ namespaceWord := by
  rintro rfl
  rw [ofLabel?_namespaceWord] at h
  cases h

/-- **A rejected entry only leaves a warning.** The index and the context stay as they were. -/
theorem survey_of_rejected (h : entry.Rejected e) (ix : Index) (ctx : Context) :
    survey ix ctx entry = (ctx, .warn ix ctx.docname (.rejected e)) := by
  cases h with
  | object hkind h =>
    rw [survey, if_neg (ne_namespaceWord hkind)]
    simp only [hkind, Index.describe_of_error h]
  | directive hword h =>
    -- no word for the global scope is rejected, so the scope was parsed
    have hnext : ∀ signature, Text.trimmed signature ∉ Context.globalWords →
        Expr.parse (Text.trimmed signature) = .error e → ctx.withNamespace signature = .error e := by
      intro signature hword h
      rw [Context.withNamespace]
      simp only [if_neg hword, h]
      rfl
    rw [survey, if_pos rfl, hnext _ hword h]

/-- The objects behind an entry stand in the same document. -/
theorem docname_survey (ix : Index) (ctx : Context) (o : ObjectSpec) :
    (survey ix ctx o).1.docname = ctx.docname := by
  rw [(survey_runs ix ctx o).1]
  exact (describes_of_mem_actions ctx o).1

/-- **What objects gain, they gain behind others**, in every context of the same document. -/
theorem gains_append {extra : List Warning} {docname : String}
    (h : ∀ ix ctx, ctx.docname = docname → (surveyAll ix ctx os).Gains extra (surveyAll ix ctx os'))
    (front : List ObjectSpec) (ix : Index) {ctx : Context} (hctx : ctx.docname = docname) :
    (surveyAll ix ctx (front ++ os)).Gains extra (surveyAll ix ctx (front ++ os')) := by
  induction front generalizing ix ctx with
  | nil => exact h ix ctx hctx
  | cons o front ih =>
    rw [List.cons_append, List.cons_append, surveyAll_cons, surveyAll_cons]
    refine Survey.Gains.behind _ (ih _ ?_)
    -- what is in front may change the scope, so the gain has to hold in every scope
    rw [docname_survey, hctx]

/-- What the objects inside an object gain, the object gains if its text is read; otherwise nothing comes to
the objects inside. -/
theorem survey_gains {extra : List Warning} {docname : String}
    (h : ∀ ix ctx, ctx.docname = docname → (surveyAll ix ctx os).Gains extra (surveyAll ix ctx os'))
    (kind signature : String) (ix : Index) {ctx : Context} (hctx : ctx.docname = docname) :
    (survey ix ctx (.mk kind signature os')).1 = (survey ix ctx (.mk kind signature os)).1 ∧
      (survey ix ctx (.mk kind signature os)).2.Gains
        (if isRead (.mk kind signature os) then extra else [])
        (survey ix ctx (.mk kind signature os')).2 := by
  rw [survey, survey, isRead]
  by_cases hword : kind = namespaceWord
  · -- a directive takes no notice of what stands inside it
    rw [if_pos hword, if_pos hword, hword, ofLabel?_namespaceWord]
    exact ⟨rfl, .refl _⟩
  · rw [if_neg hword, if_neg hword]
    cases ObjectKind.ofLabel? kind with
    | none => exact ⟨rfl, .refl _⟩
    | some k =>
      cases hparse : Declaration.parse k signature with
      | error e =>
        simp only [hparse, Index.describe_of_error hparse]
        exact ⟨trivial, .refl _⟩
      | ok d =>
        simp only [hparse, Index.describe_of_ok hparse]
        -- what is gained inside stands behind what the object itself leaves
        exact ⟨trivial, .behind _ (h _ _ hctx)⟩

/-- **A rejected entry among objects** leaves at most one warning, wherever it stands. -/
theorem surveyAll_inserted (hentry : entry.Rejected e) (h : Inserted entry around os os') (ix : Index)
    (ctx : Context) :
    (surveyAll ix ctx os).Gains (warningsOf ctx.docname e around) (surveyAll ix ctx os') := by
  induction h generalizing ix ctx with
  | here front back =>
    refine gains_append (fun ix ctx' (hctx : ctx'.docname = ctx.docname) => ?_) front ix rfl
    rw [surveyAll_cons, survey_of_rejected hentry, hctx]
    exact Survey.gains_warn ix ctx.docname _ fun ix => surveyAll ix ctx' back
  | @inside around children children' front back kind signature _ ih =>
    refine gains_append (fun ix ctx' (hctx : ctx'.docname = ctx.docname) => ?_) front ix rfl
    -- the objects inside stand in the same document, so the warning is the same there
    have hinside : ∀ ix ctx', ctx'.docname = ctx.docname → (surveyAll ix ctx' children).Gains
        (warningsOf ctx.docname e around) (surveyAll ix ctx' children') :=
      fun ix ctx' hctx' => hctx' ▸ ih ix ctx'
    obtain ⟨hnext, hgains⟩ := survey_gains hinside kind signature ix hctx
    have hextra : warningsOf ctx.docname e (.mk kind signature children :: around) =
        if isRead (.mk kind signature children) then warningsOf ctx.docname e around else [] := by
      rw [warningsOf, List.all_cons]
      by_cases hread : isRead (.mk kind signature children) = true
      · rw [if_pos hread, hread, Bool.true_and, warningsOf]
      · rw [if_neg hread, eq_false_of_ne_true hread, Bool.false_and]
        rfl
    rw [surveyAll_cons, surveyAll_cons, hnext, hextra]
    exact hgains.andThen _

end ObjectSpec

/-! ### Builds with a rejected entry -/

/-- A document among others gains what it gains alone. -/
theorem DocumentSpec.surveyAll_gains {d d' : DocumentSpec} {extra : List Warning}
    (h : ∀ ix, (d.survey ix).Gains extra (d'.survey ix)) (before after : List DocumentSpec)
    (ix : Index) : (surveyAll ix (before ++ d :: after)).Gains extra
      (surveyAll ix (before ++ d' :: after)) := by
  induction before generalizing ix with
  | nil =>
    rw [List.nil_append, List.nil_append, surveyAll, surveyAll]
    -- the documents behind are surveyed with an index that is the same
    exact (h ix).andThen _
  | cons first before ih =>
    rw [List.cons_append, List.cons_append, surveyAll, surveyAll]
    exact .behind _ (ih _)

namespace Manifest

variable {entry : ObjectSpec} {e : ParseError} {around objects : List ObjectSpec}
  {m m' : Manifest} {d : DocumentSpec} {before after : List DocumentSpec}

/-- **A rejected entry is inert.** Put a rejected entry anywhere among the objects of a document, at any
depth, and build the project on any index. The index behind the build is the same, collisions and claims
included, and the report has the same objects and the same references. Its warnings are the same but for one
more, that the entry is rejected, if the text of every object around it is read, and else all the same. -/
theorem build_inserted (hentry : entry.Rejected e)
    (h : ObjectSpec.Inserted entry around d.objects objects)
    (hd : m.documents = before ++ d :: after)
    (hd' : m'.documents = before ++ { d with objects := objects } :: after) (ix : Index) :
    (m'.build ix).2 = (m.build ix).2 ∧
      (m'.build ix).1.objects = (m.build ix).1.objects ∧
      (m'.build ix).1.references = (m.build ix).1.references ∧
      ∃ front back, (m.build ix).1.warnings = front ++ back ∧ (m'.build ix).1.warnings =
        front ++ (if around.all ObjectSpec.isRead then [⟨d.name, .rejected e⟩] else []) ++ back := by
  have hdocument : ∀ ix, (d.survey ix).Gains (ObjectSpec.warningsOf d.name e around)
      (DocumentSpec.survey { d with objects := objects } ix) :=
    fun ix => ObjectSpec.surveyAll_inserted hentry h (ix.clear d.name) ⟨d.name, none⟩
  have hgains := DocumentSpec.surveyAll_gains hdocument before after ix
  rw [← hd, ← hd'] at hgains
  obtain ⟨hindex, hobjects, front, back, hold, hnew⟩ := hgains
  have hbehind : (m'.build ix).2 = (m.build ix).2 := hindex
  have hwarnings : ∀ m : Manifest, (m.build ix).1.warnings =
      (DocumentSpec.surveyAll ix m.documents).warnings ++
        m.documents.flatMap (DocumentSpec.doubts (m.build ix).2) := by
    intro m
    rw [build_report, DocumentSpec.warnings_surveyAll]
  -- the references are the same and are resolved on the same index
  have hdoubts : m'.documents.flatMap (DocumentSpec.doubts (m'.build ix).2) =
      m.documents.flatMap (DocumentSpec.doubts (m.build ix).2) := by
    rw [hbehind, hd, hd', List.flatMap_append, List.flatMap_append, List.flatMap_cons, List.flatMap_cons]
    rfl
  refine ⟨hbehind, hobjects, ?_, front,
    back ++ m.documents.flatMap (DocumentSpec.doubts (m.build ix).2), ?_, ?_⟩
  · rw [build_report, build_report]
    show m'.documents.flatMap (DocumentSpec.answers (m'.build ix).2) =
      m.documents.flatMap (DocumentSpec.answers (m.build ix).2)
    rw [hbehind, hd, hd', List.flatMap_append, List.flatMap_append, List.flatMap_cons, List.flatMap_cons]
    rfl
  · rw [hwarnings, hold, List.append_assoc]
  · rw [hwarnings, hdoubts, hnew, List.append_assoc]
    rfl

/-- A class without a name, with a method inside, is put into a class that is read. The two warnings of the
project gain one between them, about the entry and not about its method. -/
theorem build_inserted_inside :
    ∃ (m m' : Manifest) (ix : Index),
      m = ⟨[⟨"a", [.mk "class" "T" [.mk "function" "f(" [], .mk "function" "void g()" []]],
        [⟨"func", "", none, none⟩]⟩]⟩ ∧
      m' = ⟨[⟨"a", [.mk "class" "T" [.mk "function" "f(" [],
          .mk "class" "" [.mk "function" "void h()" []], .mk "function" "void g()" []]],
        [⟨"func", "", none, none⟩]⟩]⟩ ∧
      ix = Index.empty {} ∧
      (m.build ix).1.warnings.length = 2 ∧
      (m'.build ix).2 = (m.build ix).2 ∧
      (m'.build ix).1.objects = (m.build ix).1.objects ∧
      (m'.build ix).1.references = (m.build ix).1.references ∧
      ∃ front back, (m.build ix).1.warnings = front ++ back ∧ (m'.build ix).1.warnings =
        front ++ [⟨"a", .rejected ⟨.expectedType, .point 0, ""⟩⟩] ++ back := by
  have hentry : ObjectSpec.Rejected (.mk "class" "" [.mk "function" "void h()" []])
      ⟨.expectedType, .point 0, ""⟩ := .object (k := .classType) (by decide) (by decide +kernel)
  -- the entry stands between two others inside the class
  have hinserted : ObjectSpec.Inserted (.mk "class" "" [.mk "function" "void h()" []])
      [.mk "class" "T" [.mk "function" "f(" [], .mk "function" "void g()" []]]
      [.mk "class" "T" [.mk "function" "f(" [], .mk "function" "void g()" []]]
      [.mk "class" "T" [.mk "function" "f(" [], .mk "class" "" [.mk "function" "void h()" []],
        .mk "function" "void g()" []]] :=
    .inside [] [] "class" "T" (.here [.mk "function" "f(" []] [.mk "function" "void g()" []])
  refine ⟨_, _, _, rfl, rfl, rfl, by decide +kernel, ?_⟩
  exact @build_inserted _ _ _ _ _ _ ⟨"a", _, [⟨"func", "", none, none⟩]⟩ [] [] hentry hinserted rfl rfl
    (Index.empty {})

end Manifest

end CppIndex
