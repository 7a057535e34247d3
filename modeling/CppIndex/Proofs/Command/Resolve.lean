import CppIndex.Command.Run
import CppIndex.Proofs.Project.Appended

/-!
# Resolving on the command line

The command `resolve` builds a project and looks one reference up. A reference of the project itself is looked
up in the second pass of the build. The two go the same way: the link is made from the target alone, the scope
is parsed before the target, and the same index is asked (`Command.lookUpText_eq_answer`). So the command
answers as the report does of the project in which one document has this reference, too
(`Command.run_resolve_tells`): with the object that the reference is resolved to, or with status 1.
-/

namespace CppIndex

/-! ### What the command line says of a reference -/

/-- **The answer to a reference of a report**: the line for the object that it points at, or why there is
none. -/
def ReferenceReport.answer (r : ReferenceReport) : Except Failure String :=
  match r.resolution with
  | .resolved found => .ok (Command.foundText r.link.title found)
  | .unresolved =>
    .error ⟨"Could not resolve " ++ r.role.label ++ " reference '" ++ r.link.target ++ "'", []⟩
  | .failed (.scope e) => .error (.invalidScope e)
  | .failed (.target e) => .error ⟨e.message, []⟩

/-- The answer of a command, behind some lines on the error stream. -/
def Outcome.ofAnswer (before : String) : Except Failure String → Outcome
  | .ok text => ⟨0, text, before⟩
  | .error f => f.outcome before

/-- **An outcome tells of a reference** of a report what the report says of it: the object it is resolved to,
behind the title of the reference; or with status 1 that there is none, and why. -/
structure Outcome.Tells (o : Outcome) (before : String) (r : ReferenceReport) : Prop where
  /-- The whole outcome. -/
  eq_answer : o = .ofAnswer before r.answer
  /-- The command succeeds if the reference is resolved. -/
  status_eq_zero_iff : o.status = 0 ↔ ∃ found, r.resolution = .resolved found
  /-- It prints the title of the reference, and the object it is resolved to. -/
  of_resolved : ∀ found, r.resolution = .resolved found →
    o.stdout = r.link.title ++ " -> " ++ found.fullname ++ " (" ++ found.entry.docname ++ "#" ++
      found.entry.anchor ++ ", " ++ found.entry.kind.label ++ ")\n"
  /-- It fails if the reference points at nothing or could not be looked up. -/
  status_eq_one_iff : o.status = 1 ↔ r.resolution = .unresolved ∨ ∃ e, r.resolution = .failed e

/-- The outcome of the answer to a reference tells of it. -/
theorem Outcome.tells_ofAnswer (before : String) (r : ReferenceReport) :
    (Outcome.ofAnswer before r.answer).Tells before r := by
  have hok : ∀ found, r.resolution = .resolved found →
      Outcome.ofAnswer before r.answer = ⟨0, Command.foundText r.link.title found, before⟩ := by
    intro found h
    rw [ReferenceReport.answer, h]
    rfl
  have hstatus : (¬ ∃ found, r.resolution = .resolved found) →
      (Outcome.ofAnswer before r.answer).status = 1 := by
    intro h
    rw [ReferenceReport.answer]
    cases hr : r.resolution with
    | resolved found => exact absurd ⟨found, hr⟩ h
    | unresolved => rfl
    | failed e => cases e <;> rfl
  -- Only a resolved reference ends with status 0, so the status tells the two kinds apart.
  refine ⟨rfl, ⟨fun h => ?_, ?_⟩, fun found h => ?_, ⟨fun h => ?_, fun h => hstatus ?_⟩⟩
  · by_contra hr
    rw [hstatus hr] at h
    cases h
  · rintro ⟨found, h⟩
    rw [hok found h]
  · rw [hok found h]
    rfl
  · cases hr : r.resolution with
    | resolved found =>
      rw [hok found hr] at h
      cases h
    | unresolved => exact Or.inl rfl
    | failed e => exact Or.inr ⟨e, rfl⟩
  · rintro ⟨found, hr⟩
    rcases h with h | ⟨e, h⟩
    · rw [hr] at h
      cases h
    · rw [hr] at h
      cases h

/-! ### Loading and looking up -/

/-- A manifest that passes the check has no fault. -/
theorem Manifest.fault?_of_check {m m' : Manifest} (h : m.check = .ok m') : m'.fault? = none := by
  unfold Manifest.check at h
  split at h
  next => cases h
  next hfault =>
    obtain rfl := Except.ok.inj h
    exact hfault

/-- Nor has one that is loaded. -/
theorem Manifest.fault?_of_ofFile {read : TextReader} {files : FileReader} {path : String} {m : Manifest}
    (h : Manifest.ofFile read files path = .ok m) : m.fault? = none := by
  rw [Manifest.ofFile] at h
  split at h
  next => cases h
  next text _ =>
    split at h
    next m' hparse =>
      obtain rfl := Except.ok.inj h
      -- the text of the file was read and checked, each of which could have failed
      rw [Manifest.parseWith, Manifest.load] at hparse
      split at hparse
      next => cases hparse
      next m'' _ =>
        cases hcheck : m''.check with
        | error fault =>
          rw [hcheck] at hparse
          cases hparse
        | ok checked =>
          rw [hcheck] at hparse
          obtain rfl := Except.ok.inj hparse
          exact Manifest.fault?_of_check hcheck
    next => cases h
    next => cases h

/-- **When a reference could not be looked up**: its scope or the target of its link is rejected. -/
theorem ReferenceSpec.exists_resolution_eq_failed_iff {ix : Index} {role : Role} {link : Link}
    {scope : Option String} : (∃ e, resolution ix role link scope = .failed e) ↔
      (∃ e, Expr.parseScope? scope = .error e) ∨ ∃ e, Expr.parse link.target = .error e := by
  rw [resolution]
  cases hscope : Expr.parseScope? scope with
  | error e => simp
  | ok parent =>
    cases hparse : Expr.parse link.target with
    | error e => simp [ix.resolve_of_error hparse]
    | ok target =>
      simp only [ix.resolve_of_ok hparse, reduceCtorEq, exists_false, or_self, iff_false, not_exists]
      intro e
      -- the target is looked up, and whether something is found or not, nothing fails
      cases (target.declaredName.candidates (parent.map Expr.declaredName)).findSome?
          (ix.lookUp role) with
      | none => exact Resolution.noConfusion
      | some found => exact Resolution.noConfusion

namespace Command

variable {read : TextReader} {files : FileReader} {path word target : String} {scope config : Option String}
  {role : Role} {m : Manifest} {settings : Config}

/-- **A reference is looked up on the command line as in a build**, in whichever document it stands. -/
theorem lookUpText_eq_answer (ix : Index) (role : Role) (word target : String)
    (scope : Option String) (docname : String) : lookUpText ix role target scope =
      (ReferenceSpec.report ix docname role ⟨word, target, none, scope⟩).answer := by
  rw [lookUpText, ReferenceReport.answer, ReferenceSpec.report]
  simp only [ReferenceSpec.link, ReferenceSpec.resolution]
  -- the scope is read first, then the target
  cases Expr.parseScope? scope with
  | error e => rfl
  | ok parent =>
    cases hfound : ix.resolve role ((LinkStyle.ofConfig role ix.config).link target target false).target
        parent with
    | error e => simp only [hfound]
    | ok found => cases found <;> simp only [hfound]

/-- The command builds the project on an index without objects and looks the reference up in it. -/
theorem run_resolve_eq (hm : Manifest.ofFile read files path = .ok m)
    (hconfig : Config.ofFile? read files config = .ok settings) (hrole : Role.ofLabel? word = some role) :
    run read files (.resolve path word target scope config) =
      .ofAnswer (warningLines (m.build (.empty settings)).1)
        (lookUpText (m.build (.empty settings)).2 role target scope) := by
  -- role, manifest and settings are read, in this order, before anything is looked up
  have hword : Role.ofArgument word = .ok role := by rw [Role.ofArgument, hrole]
  have hload : loadAndBuild read files path config = .ok (m.build (.empty settings)) := by
    rw [loadAndBuild, hm]
    simp only [hconfig]
  show runResolve read files path word target scope config = _
  rw [runResolve, hword]
  simp only [hload]
  cases lookUpText (m.build (.empty settings)).2 role target scope <;> rfl

/-- **The command line agrees with the report.** For every manifest and settings that are loaded, with any
reader of configuration texts, every role, every target and every scope: let one more reference with them and
without a title be put behind those of any document. The project still has no fault. The report of its build
has one more entry, for this reference, behind the entries of the references in front of it, and the command
tells of this entry. It fails to look the reference up exactly if the scope or the target is rejected. -/
theorem run_resolve_tells (hm : Manifest.ofFile read files path = .ok m)
    (hconfig : Config.ofFile? read files config = .ok settings) (hrole : Role.ofLabel? word = some role)
    {before after : List DocumentSpec} {d : DocumentSpec} (hd : m.documents = before ++ d :: after) :
    ∃ m' entry front back,
      m' = Manifest.mk (before ++ d.withReference ⟨word, target, none, scope⟩ :: after) ∧
      m'.fault? = none ∧
      (m.build (.empty settings)).1.references = front ++ back ∧
      (m'.build (.empty settings)).1.references = front ++ entry :: back ∧
      front.length = ((before ++ [d]).flatMap (·.references)).length ∧
      entry.docname = d.name ∧ entry.role = role ∧
      (run read files (.resolve path word target scope config)).Tells
        (warningLines (m.build (.empty settings)).1) entry ∧
      ((∃ e, entry.resolution = .failed e) ↔
        (∃ e, Expr.parseScope? scope = .error e) ∨ ∃ e, Expr.parse entry.link.target = .error e) := by
  have hd' : (Manifest.mk (before ++ d.withReference ⟨word, target, none, scope⟩ :: after)).documents =
      before ++ d.withReference ⟨word, target, none, scope⟩ :: after := rfl
  obtain ⟨hfault, -, front, back, hold, hnew, hlength⟩ := Manifest.build_withReference
    (Manifest.fault?_of_ofFile hm) hrole hd hd' (.empty settings)
  -- The command looks the reference up in the index of the project without it, which is the same one.
  refine ⟨_, _, front, back, rfl, hfault, hold, hnew, hlength, rfl, rfl, ?_,
    ReferenceSpec.exists_resolution_eq_failed_iff⟩
  rw [run_resolve_eq hm hconfig hrole, lookUpText_eq_answer _ role word target scope d.name]
  exact Outcome.tells_ofAnswer _ _

/-- A class is found through the owner of a scope, under the title that the `~` in front of the target leaves,
as the report says of the project with one more reference in its second document. -/
theorem run_resolve_tells_owner :
    ∃ files m before d after entry,
      files = (fun path => if path = "p.toml" then .ok ("[[document]]\nname = 'a'\n" ++
        "[[document.object]]\nkind = 'class'\nsignature = 'ns::T'\n[[document]]\nname = 'b'")
        else .error "missing") ∧
      Manifest.ofFile Toml.parse files "p.toml" = .ok m ∧ Config.ofFile? Toml.parse files none = .ok {} ∧
      m.documents = before ++ d :: after ∧ d.name = "b" ∧
      run Toml.parse files (.resolve "p.toml" "class" "~T" (some "ns::U") none) =
        ⟨0, "T -> ns::T (a#ns::T, class)\n", ""⟩ ∧
      entry ∈ ((Manifest.mk (before ++ d.withReference ⟨"class", "~T", none, some "ns::U"⟩ :: after)).build
        (.empty {})).1.references ∧ entry.docname = "b" ∧
      (run Toml.parse files (.resolve "p.toml" "class" "~T" (some "ns::U") none)).Tells
        (warningLines (m.build (.empty {})).1) entry ∧
      ∃ found, entry.resolution = .resolved found := by
  obtain ⟨files, hfiles⟩ : ∃ files : FileReader,
      files = fun path => if path = "p.toml" then .ok ("[[document]]\nname = 'a'\n" ++
        "[[document.object]]\nkind = 'class'\nsignature = 'ns::T'\n[[document]]\nname = 'b'")
        else .error "missing" := ⟨_, rfl⟩
  have hvalues : run Toml.parse files (.resolve "p.toml" "class" "~T" (some "ns::U") none) =
        ⟨0, "T -> ns::T (a#ns::T, class)\n", ""⟩ ∧
      (Manifest.ofFile Toml.parse files "p.toml").toOption.map (·.documents.map (·.name)) = some ["a", "b"] := by
    rw [hfiles]
    decide +kernel
  obtain ⟨hrun, hnames⟩ := hvalues
  cases hm : Manifest.ofFile Toml.parse files "p.toml" with
  | error f =>
    rw [hm] at hnames
    cases hnames
  | ok m =>
    -- the manifest is known by its document names alone; the second document takes the reference
    rw [hm] at hnames
    obtain ⟨first, rest, hdocs, -, hrest⟩ := List.map_eq_cons_iff.mp (Option.some.inj hnames)
    obtain ⟨d, after, rfl, hname, -⟩ := List.map_eq_cons_iff.mp hrest
    obtain ⟨m', entry, front, back, rfl, -, -, hnew, -, hdoc, -, htells, -⟩ :=
      @run_resolve_tells Toml.parse files "p.toml" "class" "~T" (some "ns::U") none .classType m {} hm rfl
        (by decide) [first] after d hdocs
    refine ⟨files, m, [first], d, after, entry, hfiles, hm, rfl, hdocs, hname, hrun, ?_, ?_, htells, ?_⟩
    · rw [hnew]
      exact List.mem_append_right _ (List.mem_cons_self ..)
    · rw [hdoc, hname]
    · exact htells.status_eq_zero_iff.mp (by rw [hrun])

end Command

end CppIndex
