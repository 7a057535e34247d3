import CppIndex.Proofs.Declaration.Plain
import CppIndex.Proofs.Index.Resolve
import CppIndex.Proofs.Link
import CppIndex.Proofs.Project.Run
import Mathlib.Data.List.Forall2

/-!
# References to functions

The references of a manifest without faults all have a role, so the report holds one entry for each of
them, in order (`Manifest.forall₂_build_references`).

A function that was registered by a build can be referred to by its full name, if the text survives three
steps: the link must leave it as it is, it must be parsed, and what it is parsed as must be the name it is
the text of (`Manifest.build_reference_fullname_iff`). The first step fails for a text with a `~` in front,
such as `~f`, and for one with a pair of parentheses at its end, such as `operator()`. What is left of such a
target is lighter than the full name, and nothing is parsed as something heavier than itself, so it can
lead to other objects but not to this one. The other two steps do not fail for the name of a plain
function.
-/

namespace CppIndex

/-! ### One entry for each reference -/

/-- A reference without faults has a role. -/
theorem ReferenceSpec.exists_role_of_fault? {document : String} {r : ReferenceSpec}
    (h : r.fault? document = none) : ∃ role, Role.ofLabel? r.role = some role := by
  cases hrole : Role.ofLabel? r.role with
  | none => simp [fault?, hrole] at h
  | some role => exact ⟨role, rfl⟩

/-- In documents without faults every reference has a role. -/
theorem Manifest.exists_role_of_faultInAll? {seen : List String} {ds : List DocumentSpec}
    (h : faultInAll? seen ds = none) :
    ∀ d ∈ ds, ∀ r ∈ d.references, ∃ role, Role.ofLabel? r.role = some role := by
  induction ds generalizing seen with
  | nil => simp
  | cons first ds ih =>
    rw [faultInAll?, Option.or_eq_none_iff] at h
    obtain ⟨hfirst, hrest⟩ := h
    intro d hd r hr
    rcases List.mem_cons.mp hd with rfl | hd
    · rw [DocumentSpec.fault?] at hfirst
      split at hfirst
      next => cases hfirst
      next =>
        -- the references are checked after the objects
        have hnone := List.findSome?_eq_none_iff.mp (Option.or_eq_none_iff.mp hfirst).2 r hr
        exact ReferenceSpec.exists_role_of_fault? hnone
    · exact ih hrest d hd r hr

/-- **An entry answers a reference** of a document: it is the report of the reference in the role that
its word stands for. -/
def ReferenceReport.Answers (ix : Index) (p : String × ReferenceSpec) (report : ReferenceReport) :
    Prop :=
  ∃ role, Role.ofLabel? p.2.role = some role ∧ report = p.2.report ix p.1 role

/-- References with roles leave one entry each. -/
theorem ReferenceSpec.forall₂_outcome (ix : Index) {ps : List (String × ReferenceSpec)}
    (h : ∀ p ∈ ps, ∃ role, Role.ofLabel? p.2.role = some role) :
    List.Forall₂ (ReferenceReport.Answers ix) ps
      ((ps.map fun (docname, r) => r.outcome ix docname).flatMap (·.1)) := by
  -- a reference without a role would leave no entry and move all later ones
  induction ps with
  | nil => exact .nil
  | cons p ps ih =>
    obtain ⟨docname, r⟩ := p
    obtain ⟨role, hrole⟩ := h (docname, r) (List.mem_cons_self ..)
    have houtcome : (r.outcome ix docname).1 = [r.report ix docname role] := by
      rw [outcome]
      simp only [hrole]
    rw [List.map_cons, List.flatMap_cons, houtcome]
    exact .cons ⟨role, hrole, rfl⟩ (ih fun p hp => h p (List.mem_cons_of_mem _ hp))

/-- **The report of a manifest without faults** holds its references one by one. -/
theorem Manifest.forall₂_build_references {m : Manifest} (h : m.fault? = none) (ix : Index) :
    List.Forall₂ (ReferenceReport.Answers (m.build ix).2) m.references
      (m.build ix).1.references := by
  refine ReferenceSpec.forall₂_outcome _ fun p hp => ?_
  obtain ⟨d, hd, hp⟩ := List.mem_flatMap.mp hp
  obtain ⟨r, hr, rfl⟩ := List.mem_map.mp hp
  exact exists_role_of_faultInAll? h d hd r hr

/-- The entry for a reference stands where the reference does. -/
theorem Manifest.getElem?_build_references {m : Manifest} (h : m.fault? = none) (ix : Index) {i : Nat}
    {docname : String} {r : ReferenceSpec} (hi : m.references[i]? = some (docname, r)) :
    ∃ role, Role.ofLabel? r.role = some role ∧
      (m.build ix).1.references[i]? = some (r.report (m.build ix).2 docname role) := by
  obtain ⟨hlength, hall⟩ := List.forall₂_iff_get.mp (forall₂_build_references h ix)
  obtain ⟨hlt, hget⟩ := List.getElem?_eq_some_iff.mp hi
  -- both lists are as long, so the place of the reference is one of the report too
  obtain ⟨role, hrole, hreport⟩ := hall i hlt (hlength ▸ hlt)
  rw [List.get_eq_getElem, hget] at hrole
  rw [List.get_eq_getElem, List.get_eq_getElem, hget] at hreport
  exact ⟨role, hrole, List.getElem?_eq_some_iff.mpr ⟨hlength ▸ hlt, hreport⟩⟩

/-! ### References by full name -/

/-- A reference written outside of every scope is resolved as its link is. -/
theorem ReferenceSpec.resolution_eq_resolved_iff {ix : Index} {role : Role} {link : Link} {r : Record} :
    resolution ix role link none = .resolved r ↔ ix.resolve role link.target none = .ok (some r) := by
  have hscope : Expr.parseScope? none = .ok none := rfl
  simp only [resolution, hscope]
  cases ix.resolve role link.target none with
  | error e => simp
  | ok found => cases found <;> simp

/-- **When a link leads to the function whose full name it is written with**: the full name has no `~` in
front and no parentheses behind, and it names itself. -/
theorem Index.resolve_link_fullname_iff {config : Config} {actions : List Index.Action} {r : Record}
    {style : LinkStyle} (hstyle : style.fixParens = true)
    (hr : r ∈ ((empty config).run actions).objects) (hkind : r.entry.kind = .function) :
    ((empty config).run actions).resolve .function
        (style.link r.fullname r.fullname false).target none = .ok (some r) ↔
      ¬ ['~'] <+: r.fullname.toList ∧ ¬ ['(', ')'] <:+ r.fullname.toList ∧
        ∃ e : Expr, Expr.parse r.fullname = .ok e ∧ e.isPrimary = true ∧
          e.render = r.fullname := by
  have hrole : Role.function.allows r.entry.kind = true := by rw [hkind]; rfl
  by_cases hlost : ['~'] <+: r.fullname.toList ∨ ['(', ')'] <:+ r.fullname.toList
  · -- the link lost what the full name has, so what it leads to is lighter
    constructor
    · intro h
      have hle := weight_le_of_resolve h
      have hlt := @LinkStyle.weight_target_link_lt style r.fullname r.fullname hstyle hlost
      exact absurd hlt (Nat.not_lt.mpr hle)
    · rintro ⟨htilde, hparens, -⟩
      exact (hlost.elim htilde hparens).elim
  · obtain ⟨htilde, hparens⟩ := not_or.mp hlost
    -- the link is the full name, so the question is whether that names itself
    rw [LinkStyle.target_link_eq_self htilde hparens, resolve_eq_some_iff hr hrole,
      Expr.exists_parse_declaredName_iff]
    exact ⟨fun h => ⟨htilde, hparens, h⟩, fun h => h.2.2⟩

/-- **When a reference by full name leads to its function.** In the report of a manifest without faults, a
reference in the role `func` whose target is the full name of a registered function is resolved to this
function exactly if the full name has no `~` in front and no parentheses behind, and it is parsed as a
primary expression of which it is the canonical text. The name of a plain function always is. -/
theorem Manifest.build_reference_fullname_iff {m : Manifest} {config : Config} {r : Record} {i : Nat}
    {docname : String} (hvalid : m.fault? = none)
    (hr : r ∈ (m.build (Index.empty config)).2.objects) (hkind : r.entry.kind = .function)
    (hi : m.references[i]? = some (docname, ⟨"func", r.fullname, none, none⟩)) :
    ∃ link resolution,
      (m.build (Index.empty config)).1.references[i]? =
          some ⟨docname, .function, link, resolution⟩ ∧
        (resolution = .resolved r ↔
          ¬ ['~'] <+: r.fullname.toList ∧ ¬ ['(', ')'] <:+ r.fullname.toList ∧
            ∃ e : Expr, Expr.parse r.fullname = .ok e ∧ e.isPrimary = true ∧
              e.render = r.fullname) ∧
        ∀ name : Expr, name.IsPlainFunctionName → r.fullname = name.render →
          (resolution = .resolved r ↔
            ¬ ['~'] <+: r.fullname.toList ∧ ¬ ['(', ')'] <:+ r.fullname.toList) := by
  obtain ⟨role, hrole, hreport⟩ := getElem?_build_references hvalid (Index.empty config) hi
  obtain rfl : Role.function = role :=
    Option.some.inj ((show Role.ofLabel? "func" = some .function by decide).symm.trans hrole)
  have hiff : ReferenceSpec.resolution (m.build (Index.empty config)).2 .function
        (ReferenceSpec.link ⟨"func", r.fullname, none, none⟩ .function
          (m.build (Index.empty config)).2.config) none = .resolved r ↔
      ¬ ['~'] <+: r.fullname.toList ∧ ¬ ['(', ')'] <:+ r.fullname.toList ∧
        ∃ e : Expr, Expr.parse r.fullname = .ok e ∧ e.isPrimary = true ∧ e.render = r.fullname := by
    rw [ReferenceSpec.resolution_eq_resolved_iff]
    rw [build_index] at hr ⊢
    exact Index.resolve_link_fullname_iff rfl hr hkind
  refine ⟨_, _, hreport, hiff, fun name hplain hname => hiff.trans ?_⟩
  -- the text of a plain name is read back as the name
  have hself : ∃ e : Expr, Expr.parse r.fullname = .ok e ∧ e.isPrimary = true ∧
      e.render = r.fullname :=
    ⟨name, hname ▸ hplain.parse_eq_ok, hplain.isPrimary, hname.symm⟩
  exact and_congr_right fun _ => and_iff_left hself

/-- A member function with an operator for its name is referred to by its full name. -/
theorem Manifest.build_reference_fullname_iff_operator :
    ∃ m : Manifest, ∃ r : Record,
      m = ⟨[⟨"doc",
        [.mk "class" "Widget" [.mk "function" "bool operator==(const Widget& other) const" []]],
        [⟨"func", "Widget::operator==", none, none⟩]⟩]⟩ ∧
      m.fault? = none ∧ r ∈ (m.build (Index.empty {})).2.objects ∧ r.entry.kind = .function ∧
      m.references[0]? = some ("doc", ⟨"func", r.fullname, none, none⟩) ∧
      ∃ link, (m.build (Index.empty {})).1.references[0]? =
        some ⟨"doc", .function, link, .resolved r⟩ := by
  obtain ⟨m, hm⟩ : ∃ m : Manifest,
      m = ⟨[⟨"doc",
        [.mk "class" "Widget" [.mk "function" "bool operator==(const Widget& other) const" []]],
        [⟨"func", "Widget::operator==", none, none⟩]⟩]⟩ := ⟨_, rfl⟩
  have hvalid : m.fault? = none := by
    rw [hm]
    decide +kernel
  have hr : ⟨"Widget::operator==", ⟨"doc", .function, "Widget::eq-operator__WidgetCRC"⟩⟩ ∈
      (m.build (Index.empty {})).2.objects := by
    rw [hm]
    decide +kernel
  have hi : m.references[0]? = some ("doc", ⟨"func", "Widget::operator==", none, none⟩) := by
    rw [hm]
    decide +kernel
  -- an operator in a class is the name of a plain function
  have hplain : Expr.IsPlainFunctionName (.path ([.name "Widget"] ++ [.name "operator=="])) := by
    have hname : Expr.IsPlainName (.name "Widget") := Expr.isPlainName_of_isWord (by decide)
    exact .inScope (.names hname (by simp)) (@Expr.IsPlainOperator.sign "==" (by decide))
  obtain ⟨link, resolution, hentry, -, hnames⟩ := build_reference_fullname_iff hvalid hr rfl hi
  obtain rfl := (hnames _ hplain (by decide)).mpr ⟨by decide, by decide⟩
  exact ⟨m, _, hm, hvalid, hr, rfl, hi, link, hentry⟩

/-- The call operator and a destructor outside of every class are registered, and no reference by full
name leads to them: the one loses its parentheses, the other its `~`. -/
theorem Manifest.build_reference_fullname_lost :
    ∃ m : Manifest,
      m = ⟨[⟨"doc", [.mk "function" "void operator()()" [], .mk "function" "~f()" []],
        [⟨"func", "operator()", none, none⟩, ⟨"func", "~f", none, none⟩]⟩]⟩ ∧
      m.fault? = none ∧
      (m.build (Index.empty {})).2.objects.map (fun r => (r.fullname, r.entry.kind)) =
        [("operator()", .function), ("~f", .function)] ∧
      (m.build (Index.empty {})).1.references.map
          (fun r => (r.link.target, r.resolution.isResolved)) =
        [("operator", false), ("f", false)] :=
  ⟨_, rfl, by decide +kernel⟩

end CppIndex
