import CppIndex.Proofs.Expr.PlainText
import CppIndex.Proofs.Expr.Qualify

/-!
# Scoping a name and writing it qualified

A name can be moved into a scope as a tree (`Expr.qualify`), or the scope can be written in front of it and
the whole read as one text. Both have the same text. The trees differ where template arguments are involved:
reading applies arguments to everything written before them, so the scope ends up in the head of the first
template (`Expr.writtenIn`), while qualifying splices a path behind the scope as it is, templates included.

So the two agree exactly if no arguments stand inside the name, in front of its last component
(`Expr.writtenIn_eq_qualify_iff`). The name `vector<int>` inside `std` is read the same either way, and
`vector<int>::iterator` is not.
-/

namespace CppIndex.Expr

variable {scope name : Expr}

/-- **A name with its scope written in front of it**, as it is read. The scope is spliced into the path with
which the name begins, and this is the head of the first template. -/
def writtenIn (scope : Expr) : Expr → Expr
  | .path (.template head args :: ps) => .path (.template (writtenIn scope head) args :: ps)
  | .template head args => .template (writtenIn scope head) args
  | e => scope.qualify e

/-- **Whether arguments stand inside a name**, in front of its last component. -/
def hasInnerArguments : Expr → Bool
  | .path (.template _ _ :: _) => true
  | .template head _ => hasInnerArguments head
  | _ => false

/-- **Writing the scope and qualifying agree** exactly if no arguments stand inside the name. -/
theorem writtenIn_eq_qualify_iff (hscope : scope.components ≠ []) (e : Expr) :
    scope.writtenIn e = scope.qualify e ↔ e.hasInnerArguments = false := by
  fun_induction writtenIn scope e with
  | case1 head args ps ih =>
    -- the spliced path has more components than the written one
    refine iff_of_false (fun h => ?_) (by simp [hasInnerArguments])
    have hlength := congrArg List.length (Expr.path.inj h)
    have hpos := List.length_pos_iff.mpr hscope
    simp only [List.length_append, List.length_cons] at hlength
    omega
  | case2 head args ih =>
    -- a template is qualified at its head, by both
    rw [qualify, hasInnerArguments, ← ih]
    simp
  | case3 e hpath htemplate =>
    refine iff_of_true rfl ?_
    rw [hasInnerArguments]
    · exact hpath
    · exact htemplate

/-! ### Plain names in plain scopes -/

/-- The components of a plain name are plain. -/
theorem IsPlainPrimary.isPlainScope_components (h : IsPlainPrimary scope) :
    IsPlainScope scope.components := by
  cases h with
  | name h =>
    cases h with
    | intro h => exact .names (.intro h) (by simp)
  | path h =>
    cases h with
    | names hp hq hn => exact .names hp hq
    | template hp hq hn => exact .template hp hq
  | template h =>
    cases h with
    | name hh ha => exact .template (.name hh ha) (by simp)
    | path hh ha => exact .template (.path hh ha) (by simp)

/-- Plain components with names behind them are a plain path. -/
theorem IsPlainScope.isPlainPath {ps qs : List Expr} (h : IsPlainScope ps)
    (hq : ∀ q ∈ qs, IsPlainName q) (hn : qs ≠ []) : IsPlainPath (.path (ps ++ qs)) := by
  have happend : ∀ {rs : List Expr}, (∀ r ∈ rs, IsPlainName r) → ∀ r ∈ rs ++ qs, IsPlainName r :=
    fun hr r hm => (List.mem_append.mp hm).elim (hr r) (hq r)
  -- the first component decides which kind of path it is, and it does not change
  cases h with
  | names hp hr => exact .names hp (happend hr) (by simp [hn])
  | template hp hr => exact .template hp (happend hr) (by simp [hn])

/-- A plain scope has components. -/
theorem IsPlainScope.ne_nil {ps : List Expr} (h : IsPlainScope ps) : ps ≠ [] := by
  cases h <;> exact List.cons_ne_nil _ _

/-- **A name is written behind a scope**: its text stands behind that of the scope and `::`. -/
def IsWrittenBehind (scope e : Expr) : Prop :=
  (scope.writtenIn e).chars = scope.chars ++ [':', ':'] ++ e.chars

/-- A template is written behind a scope as its head is. -/
theorem IsWrittenBehind.template {head : Expr} (h : IsWrittenBehind scope head) (args : List Expr) :
    IsWrittenBehind scope (.template head args) := by
  rw [IsWrittenBehind] at h ⊢
  rw [writtenIn, chars_template, h, chars_template]
  simp only [List.append_assoc]

/-- A path that begins with a template is written behind a scope as the template is. -/
theorem IsWrittenBehind.path {head : Expr} {args qs : List Expr}
    (h : IsWrittenBehind scope (.template head args)) (hn : qs ≠ []) :
    IsWrittenBehind scope (.path (.template head args :: qs)) := by
  -- the scope is spliced into the first component only
  have hfirst : scope.writtenIn (.path (.template head args :: qs)) =
      .path (scope.writtenIn (.template head args) :: qs) := by
    rw [writtenIn, writtenIn]
  rw [IsWrittenBehind] at h ⊢
  rw [hfirst, chars_path, joined_cons _ _ hn, h, chars_path, joined_cons _ _ hn]
  simp only [List.append_assoc]

/-- A plain name behind a plain scope is a plain path. -/
theorem IsPlainName.writtenIn (hscope : IsPlainScope scope.components) (h : IsPlainName name) :
    IsPlainPath (scope.writtenIn name) ∧ IsWrittenBehind scope name := by
  obtain ⟨h⟩ := h
  exact ⟨hscope.isPlainPath (List.forall_mem_singleton.mpr (.intro h)) (by simp),
    chars_qualify hscope.ne_nil trivial⟩

mutual

/-- A plain path behind a plain scope is one. -/
theorem IsPlainPath.writtenIn {scope e : Expr} (hscope : IsPlainScope scope.components)
    (h : IsPlainPath e) : IsPlainPath (scope.writtenIn e) ∧ IsWrittenBehind scope e := by
  -- down the heads of the first components, until one is a name or a path of names
  match h with
  | .names (.intro hp) hq hn =>
    have hall := List.forall_mem_cons.mpr ⟨IsPlainName.intro hp, hq⟩
    exact ⟨hscope.isPlainPath hall (by simp), chars_qualify hscope.ne_nil (List.cons_ne_nil _ _)⟩
  | .template (.name hh ha) hq hn =>
    obtain ⟨hplain, hbehind⟩ := IsPlainTemplate.writtenIn hscope (.name hh ha)
    exact ⟨.template hplain hq hn, hbehind.path hn⟩
  | .template (.path hh ha) hq hn =>
    obtain ⟨hplain, hbehind⟩ := IsPlainTemplate.writtenIn hscope (.path hh ha)
    exact ⟨.template hplain hq hn, hbehind.path hn⟩

/-- A plain template behind a plain scope is one. -/
theorem IsPlainTemplate.writtenIn {scope e : Expr} (hscope : IsPlainScope scope.components)
    (h : IsPlainTemplate e) : IsPlainTemplate (scope.writtenIn e) ∧ IsWrittenBehind scope e := by
  match h with
  | .name hh ha =>
    obtain ⟨hplain, hbehind⟩ := hh.writtenIn hscope
    exact ⟨.path hplain ha, hbehind.template _⟩
  | .path hh ha =>
    obtain ⟨hplain, hbehind⟩ := IsPlainPath.writtenIn hscope hh
    exact ⟨.path hplain ha, hbehind.template _⟩

end

/-- **A plain name behind a plain scope is plain**, and it is written as the two with `::` between. -/
theorem IsPlainPrimary.writtenIn (hscope : IsPlainPrimary scope) (h : IsPlainPrimary name) :
    IsPlainPrimary (scope.writtenIn name) ∧ IsWrittenBehind scope name := by
  have hcomponents := hscope.isPlainScope_components
  -- each kind of plain primary expression keeps its kind, a name apart, which becomes a path
  cases h with
  | name h => exact (h.writtenIn hcomponents).imp_left .path
  | path h => exact (h.writtenIn hcomponents).imp_left .path
  | template h => exact (h.writtenIn hcomponents).imp_left .template

/-- The text of a name behind a scope. -/
theorem IsWrittenBehind.render_eq (h : IsWrittenBehind scope name) :
    (scope.writtenIn name).render = scope.render ++ "::" ++ name.render := by
  apply String.toList_inj.mp
  rw [String.toList_append, String.toList_append]
  exact h

/-- **A plain name with a plain scope in front of it** is read as the name written in the scope. -/
theorem IsPlainPrimary.parse_behind (hscope : IsPlainPrimary scope) (h : IsPlainPrimary name) :
    parse (scope.render ++ "::" ++ name.render) = .ok (scope.writtenIn name) := by
  obtain ⟨hplain, hbehind⟩ := hscope.writtenIn h
  have htype : IsPlainType (scope.writtenIn name) := hplain.isPlainType
  rw [← hbehind.render_eq]
  exact parse_render_of_typeStands htype.isType (htype.typeStands clear_nil)

end CppIndex.Expr
