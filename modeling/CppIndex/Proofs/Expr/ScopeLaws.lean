import CppIndex.Proofs.Expr.Nodes
import CppIndex.Proofs.Expr.Qualify

/-!
# Scopes inside of scopes

A name is moved into a scope by `Expr.qualify`, and what is inside of two scopes, one in the other, was moved
twice. Nothing is lost by this and nothing depends on the order: moving twice is moving once into the path of
all components (`Expr.qualify_qualify`).

On texts it means to write the scope, two colons, and the name, and what `Expr.splitOwner` takes from the name
afterwards is what it took from it before, with the scope in front (`Expr.splitOwner_qualify`). For these two
the name must be **joined** (`Expr.IsJoined`): a path of a single component is split once it is inside of a
scope though it was not before, a path without components has no text to stand behind the colons, and arguments
behind a wrapper stay where they are.
-/

namespace CppIndex.Expr

variable {e scope leaf : Expr} {ps : List Expr}

/-! ### Moving twice -/

/-- **Moving a name twice is moving it once**, into the path of the components of both scopes. -/
theorem qualify_qualify (outer inner : Expr) : ∀ e : Expr,
    outer.qualify (inner.qualify e) = (path (outer.components ++ inner.components)).qualify e
  | .name s | .cast s | .path s => by
    simp only [qualify, components_path, List.append_assoc]
  | .template head _ => by
    simp only [qualify, qualify_qualify outer inner head]
  | .modified _ e | .pointer e | .reference e | .array e _ | .const _ e => by
    simp only [qualify, qualify_qualify outer inner e]

/-! ### Joined names -/

/-- **A node is joined** if it is no path of fewer than two components, and no template of a wrapper. -/
def IsJoined : Expr → Prop
  | .path ps => 2 ≤ ps.length
  | .template head _ => head.isPrimary = true
  | .name _ | .modified _ _ | .pointer _ | .reference _ | .array _ _ | .const _ _ | .cast _ => True

instance : DecidablePred IsJoined
  | .path ps => inferInstanceAs (Decidable (2 ≤ ps.length))
  | .template head _ => inferInstanceAs (Decidable (head.isPrimary = true))
  | .name _ | .modified _ _ | .pointer _ | .reference _ | .array _ _ | .const _ _ | .cast _ =>
    inferInstanceAs (Decidable True)

/-- A joined expression has components. -/
theorem IsJoined.components_ne_nil (h : e.IsJoined) : e.components ≠ [] := by
  cases e with
  | path ps => exact List.ne_nil_of_length_pos (Nat.lt_of_lt_of_le Nat.zero_lt_two h)
  | _ => exact List.cons_ne_nil _ _

/-- What is joined throughout can be qualified, by induction on the heads of templates. -/
theorem Throughout.isQualifiable {e : Expr} (h : e.Throughout IsJoined) (he : e.isPrimary = true) :
    e.IsQualifiable := by
  match e, h, he with
  | .name s, _, _ | .cast t, _, _ => exact trivial
  | .path ps, h, _ => exact h.self.components_ne_nil
  | .template head args, h, _ =>
    have hhead : head.Throughout IsJoined := h.of_mem_parts List.mem_cons_self
    exact hhead.isQualifiable h.self

/-! ### Owners inside of a scope -/

/-- The components of the owner of a name, of which there are none if it has no owner. -/
def ownerComponents (e : Expr) : List Expr := (e.splitOwner.1.map components).getD []

/-- A path is split in front of its last component. -/
theorem splitOwner_concat (hps : ps ≠ []) : (path (ps ++ [leaf])).splitOwner = (some (path ps), leaf) := by
  have hlength : 1 < (ps ++ [leaf]).length := by
    have hpos := List.length_pos_iff.mpr hps
    rw [List.length_append, List.length_singleton]
    omega
  rw [splitOwner, List.getLast?_concat]
  simp only [if_pos hlength, List.dropLast_concat]

/-- **Inside of a scope a name keeps its leaf**, and its owner is inside of the scope. The induction is on the
heads of templates. -/
theorem splitOwner_qualify (hscope : scope.components ≠ []) {e : Expr} (h : e.Throughout IsJoined)
    (he : e.isPrimary = true) : (scope.qualify e).splitOwner =
      (some (path (scope.components ++ e.ownerComponents)), e.splitOwner.2) := by
  match e, h, he with
  | .name s, _, _ | .cast t, _, _ =>
    -- there was no owner, so it is the scope
    rw [qualify, splitOwner_concat hscope]
    simp [ownerComponents, splitOwner]
  | .path ps, h, _ =>
    have hlength : 2 ≤ ps.length := h.self
    obtain ⟨qs, leaf, rfl⟩ : ∃ qs leaf, ps = qs ++ [leaf] :=
      ⟨_, _, (List.dropLast_concat_getLast h.self.components_ne_nil).symm⟩
    -- what stands in front of the leaf is the owner, and there is one without the scope, too
    have hqs : qs ≠ [] := by
      rintro rfl
      simp at hlength
    rw [qualify, ← List.append_assoc, splitOwner_concat (List.append_ne_nil_of_right_ne_nil _ hqs),
      ownerComponents, splitOwner_concat hqs]
    rfl
  | .template head args, h, _ =>
    have hhead : head.Throughout IsJoined := h.of_mem_parts List.mem_cons_self
    -- the arguments go with the leaf of the head, inside of the scope and outside of it
    have ih := splitOwner_qualify hscope hhead h.self
    rw [qualify, splitOwner, ih]
    rfl

/-- **Scopes compose.** A name that is moved into a scope and then into another is moved into the path of both;
what is named inside of a scope is what was named, inside of the scope; and for what is joined, the text inside
of a scope is that of the scope, two colons and that of the name, of which the leaf stays the same and the owner
is moved into the scope. -/
theorem qualify_laws (outer inner e : Expr) :
    outer.qualify (inner.qualify e) = (path (outer.components ++ inner.components)).qualify e ∧
      (outer.qualify e).declaredName = outer.qualify e.declaredName ∧
      (e.isPrimary = true → e.Throughout IsJoined → outer.Throughout IsJoined →
        (outer.qualify e).render = outer.render ++ "::" ++ e.render ∧
          (outer.qualify e).splitOwner =
            (some (path (outer.components ++ e.ownerComponents)), e.splitOwner.2)) := by
  refine ⟨qualify_qualify outer inner e, declaredName_qualify outer e, fun hprimary he houter => ?_⟩
  -- a joined scope has components, so something stands in front of the `::`
  have hscope : outer.components ≠ [] := houter.self.components_ne_nil
  exact ⟨render_qualify hscope (he.isQualifiable hprimary), splitOwner_qualify hscope he hprimary⟩

/-- A conversion with two lists of arguments, inside of a pointer, inside of a path that begins with a
template. -/
theorem qualify_laws_template :
    ∃ outer inner e : Expr,
      outer = .path [.template (.path [.name "a", .name "T"]) [.name "int"], .name "b"] ∧
      inner = .pointer (.name "p") ∧
      e = .template (.template (.path [.name "x", .cast (.pointer (.name "char"))]) [.name "y"]) [] ∧
      (e.isPrimary = true ∧ e.Throughout IsJoined ∧ outer.Throughout IsJoined) ∧
      outer.qualify (inner.qualify e) = (path (outer.components ++ inner.components)).qualify e ∧
      (outer.qualify e).render = "a::T<int>::b::x::operator char*<y><>" ∧
      (outer.qualify e).splitOwner.1.map render = some "a::T<int>::b::x" ∧
      (outer.qualify e).splitOwner.2.render = "operator char*<y><>" := by
  obtain ⟨outer, houter⟩ : ∃ outer : Expr, outer =
    .path [.template (.path [.name "a", .name "T"]) [.name "int"], .name "b"] := ⟨_, rfl⟩
  obtain ⟨e, he⟩ : ∃ e : Expr, e =
    .template (.template (.path [.name "x", .cast (.pointer (.name "char"))]) [.name "y"]) [] := ⟨_, rfl⟩
  have hprimary : e.isPrimary = true := he ▸ rfl
  have hjoined : e.Throughout IsJoined ∧ outer.Throughout IsJoined := by
    rw [he, houter]
    decide
  obtain ⟨htwice, -, hlaws⟩ := qualify_laws outer (.pointer (.name "p")) e
  obtain ⟨htext, hsplit⟩ := hlaws hprimary hjoined.1 hjoined.2
  refine ⟨outer, _, e, houter, rfl, he, ⟨hprimary, hjoined⟩, htwice, ?_, ?_, ?_⟩
  · rw [htext, he, houter]
    decide
  · rw [hsplit, he, houter]
    decide
  · rw [hsplit, he, houter]
    decide

end CppIndex.Expr
