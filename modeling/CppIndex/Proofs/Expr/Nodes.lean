import CppIndex.Proofs.Expr.Closing

/-!
# The nodes of an expression

Much of what is said of a tree is said of each of its nodes: of the expression itself, of the expressions
directly below it (`Expr.parts`), and so on down to the names (`Expr.nodes`). What holds of every node holds
**throughout** the expression (`Expr.Throughout`).

In an expression that was read, each node was put together by one of a few rules, whatever it is a part of:
a template argument, the target of a conversion, a parameter. A property that every rule gives to the node it
puts together (`Expr.GivenByRules`) therefore holds throughout all that is read (`Expr.IsType.throughout`).
-/

namespace CppIndex.Expr

/-! ### Parts and nodes -/

/-- **The parts** of an expression: the expressions directly below it. -/
def parts : Expr → List Expr
  | .name _ => []
  | .path ps => ps
  | .template head args => head :: args
  | .modified _ e | .pointer e | .reference e | .array e _ | .const _ e | .cast e => [e]

mutual

/-- **The nodes** of an expression: it itself, and the nodes of its parts. -/
def nodes : Expr → List Expr
  | .name s => [.name s]
  | .path ps => .path ps :: nodesAll ps
  | .template head args => .template head args :: (nodes head ++ nodesAll args)
  | .modified words e => .modified words e :: nodes e
  | .pointer e => .pointer e :: nodes e
  | .reference e => .reference e :: nodes e
  | .array e size => .array e size :: nodes e
  | .const side e => .const side e :: nodes e
  | .cast e => .cast e :: nodes e

/-- The nodes of a list of expressions. -/
def nodesAll : List Expr → List Expr
  | [] => []
  | e :: es => nodes e ++ nodesAll es

end

/-- The nodes of a list are those of its members. -/
@[simp] theorem nodesAll_eq_flatMap (es : List Expr) : nodesAll es = es.flatMap nodes := by
  induction es with
  | nil => rfl
  | cons e es ih => rw [nodesAll, ih, List.flatMap_cons]

/-- **The nodes below an expression are those of its parts.** -/
theorem nodes_eq (e : Expr) : e.nodes = e :: e.parts.flatMap nodes := by
  cases e with
  | name s => rfl
  | path ps => rw [nodes, nodesAll_eq_flatMap, parts]
  | template head args => rw [nodes, nodesAll_eq_flatMap, parts, List.flatMap_cons]
  | _ => rw [nodes, parts, List.flatMap_singleton]

/-- A part is smaller than the whole. -/
theorem sizeOf_lt_of_mem_parts {e p : Expr} (h : p ∈ e.parts) : sizeOf p < sizeOf e := by
  cases e with
  | name s => cases h
  | path ps =>
    have hlt := List.sizeOf_lt_of_mem (show p ∈ ps from h)
    simp only [path.sizeOf_spec]
    omega
  | template head args =>
    simp only [template.sizeOf_spec]
    rcases List.mem_cons.mp h with rfl | h
    · omega
    · have hlt := List.sizeOf_lt_of_mem h
      omega
  -- All others have exactly one part.
  | _ =>
    obtain rfl := List.mem_singleton.mp h
    simp +arith

/-- **Induction on parts**: what holds of an expression if it holds of its parts holds of all. -/
theorem induct_parts {motive : Expr → Prop} (step : ∀ e, (∀ p ∈ e.parts, motive p) → motive e)
    (e : Expr) : motive e :=
  step e fun p _ => induct_parts step p
termination_by sizeOf e
decreasing_by exact sizeOf_lt_of_mem_parts ‹_›

/-! ### Throughout an expression -/

/-- **A property holds throughout an expression** if it holds of each of its nodes. -/
def Throughout (P : Expr → Prop) (e : Expr) : Prop := ∀ n ∈ e.nodes, P n

instance (P : Expr → Prop) [DecidablePred P] (e : Expr) : Decidable (e.Throughout P) :=
  inferInstanceAs (Decidable (∀ n ∈ e.nodes, P n))

variable {P Q : Expr → Prop} {e base : Expr}

/-- A property holds throughout an expression exactly if it holds there and throughout the parts. -/
theorem throughout_iff : e.Throughout P ↔ P e ∧ ∀ p ∈ e.parts, p.Throughout P := by
  unfold Throughout
  rw [nodes_eq, List.forall_mem_cons]
  refine and_congr_right fun _ => ?_
  simp only [List.mem_flatMap]
  -- the nodes of a tree are itself and those of its parts
  constructor
  · intro h p hp n hn
    exact h n ⟨p, hp, hn⟩
  · rintro h n ⟨p, hp, hn⟩
    exact h p hp n hn

/-- With one part, it holds there and throughout that part. -/
theorem throughout_iff_of_parts {p : Expr} (h : e.parts = [p]) :
    e.Throughout P ↔ P e ∧ p.Throughout P := by
  rw [throughout_iff, h]
  exact and_congr_right fun _ => List.forall_mem_singleton

/-- It holds at the top. -/
theorem Throughout.self (h : e.Throughout P) : P e := (throughout_iff.mp h).1

/-- It holds throughout every part. -/
theorem Throughout.of_mem_parts {p : Expr} (h : e.Throughout P) (hp : p ∈ e.parts) : p.Throughout P :=
  (throughout_iff.mp h).2 p hp

/-- What follows from a property at each node follows throughout. -/
theorem Throughout.imp (h : e.Throughout P) (hPQ : ∀ n, P n → Q n) : e.Throughout Q :=
  fun n hn => hPQ n (h n hn)

/-! ### The rules of reading -/

/-- **What the rules of reading give**: a property that each node has that one of the rules puts together from
parts of the form it asks for. -/
structure GivenByRules (P : Expr → Prop) : Prop where
  /-- Identifiers, and the base of a run of built-in words. -/
  word : ∀ {s : String}, Text.IsIdentifier s.toList → P (.name s)
  /-- Names of operators. -/
  sign : ∀ {s : String}, Text.IsSign s → P (.name ("operator" ++ s))
  /-- Names of allocation operators. -/
  allocation : ∀ (a : Allocation) (isArray : Bool), P (.name (a.operatorName isArray))
  /-- Conversions. -/
  cast : ∀ target, P (.cast target)
  /-- Several components. -/
  path : ∀ {ps : List Expr}, IsParts ps → 2 ≤ ps.length → P (.path ps)
  /-- Arguments for the components passed, of which the last was read just before. -/
  template : ∀ {ps args : List Expr} {p : Expr}, IsParts ps → IsComponent p →
    P (.template (ofParts (ps ++ [p])) args)
  /-- Words in front. -/
  modified : ∀ {words : List String} {base : Expr}, words ≠ [] →
    (∀ w ∈ words, Text.IsWord w.toList) → base.isPrimary = true → P (.modified words base)
  /-- A `const` among the words. -/
  constBefore : ∀ {words : List String} {base : Expr}, base.isPrimary = true →
    P (.const .before (withWords words base))
  /-- A `const` behind. -/
  constAfter : ∀ inner, P (.const .after inner)
  /-- Pointers. -/
  pointer : ∀ inner, P (.pointer inner)
  /-- References. -/
  reference : ∀ inner, P (.reference inner)
  /-- Arrays. -/
  array : ∀ {inner : Expr} {size : Option String}, (∀ s ∈ size, Text.IsBound s.toList) →
    P (.array inner size)

namespace GivenByRules

variable {words : List String}

/-- Words in front of a base keep what is given by the rules. -/
theorem withWords (hP : GivenByRules P) (hw : ∀ w ∈ words, Text.IsWord w.toList)
    (hprimary : base.isPrimary = true) (hbase : base.Throughout P) :
    (withWords words base).Throughout P := by
  cases words with
  -- no node is put together without words
  | nil => exact hbase
  | cons w ws =>
    exact (throughout_iff_of_parts rfl).mpr
      ⟨hP.modified (List.cons_ne_nil w ws) hw hprimary, hbase⟩

/-- So does a `const` among them. -/
theorem underWords (hP : GivenByRules P) {isConst : Bool} (hw : ∀ w ∈ words, Text.IsWord w.toList)
    (hprimary : base.isPrimary = true) (hbase : base.Throughout P) :
    (underWords isConst words base).Throughout P := by
  have hwords := hP.withWords hw hprimary hbase
  cases isConst with
  | false => exact hwords
  | true => exact (throughout_iff_of_parts rfl).mpr ⟨hP.constBefore hprimary, hwords⟩

/-- Components make an expression that has what the rules give, if they have it. -/
theorem ofParts (hP : GivenByRules P) {ps : List Expr} (hps : IsParts ps) (hn : ps ≠ [])
    (h : ∀ p ∈ ps, p.Throughout P) : (ofParts ps).Throughout P := by
  match ps, hps, hn, h with
  | [p], _, _, h => exact h p (List.mem_singleton_self p)
  | p :: q :: ps, hps, _, h =>
    exact throughout_iff.mpr ⟨hP.path hps (by simp), h⟩

end GivenByRules

/-! ### What is read -/

mutual

/-- What the rules give holds throughout a component. -/
theorem IsComponent.throughout {e : Expr} (h : IsComponent e) (hP : GivenByRules P) : e.Throughout P := by
  match h with
  | .word hs _ => exact throughout_iff.mpr ⟨hP.word hs, by simp [parts]⟩
  | .sign hs => exact throughout_iff.mpr ⟨hP.sign hs, by simp [parts]⟩
  | .allocation a isArray => exact throughout_iff.mpr ⟨hP.allocation a isArray, by simp [parts]⟩
  | .cast ht => exact (throughout_iff_of_parts rfl).mpr ⟨hP.cast _, IsType.throughout ht hP⟩

/-- It holds throughout each of the components passed. -/
theorem IsParts.throughout {ps : List Expr} (h : IsParts ps) (hP : GivenByRules P) :
    ∀ p ∈ ps, p.Throughout P := by
  match h with
  | .nil => simp
  | .part hps hp =>
    exact List.forall_mem_append.mpr
      ⟨IsParts.throughout hps hP, List.forall_mem_singleton.mpr (IsComponent.throughout hp hP)⟩
  | .template hps hp hargs =>
    refine List.forall_mem_singleton.mpr (throughout_iff.mpr ⟨hP.template hps hp, ?_⟩)
    refine List.forall_mem_cons.mpr ⟨?_, IsArgs.throughout hargs hP⟩
    -- the components passed become the head of the only one
    refine hP.ofParts (hps.part hp) (by simp) ?_
    exact List.forall_mem_append.mpr
      ⟨IsParts.throughout hps hP, List.forall_mem_singleton.mpr (IsComponent.throughout hp hP)⟩

/-- It holds throughout each of the arguments passed. -/
theorem IsArgs.throughout {as : List Expr} (h : IsArgs as) (hP : GivenByRules P) :
    ∀ a ∈ as, a.Throughout P := by
  match h with
  | .nil => simp
  | .arg has ht =>
    exact List.forall_mem_append.mpr
      ⟨IsArgs.throughout has hP, List.forall_mem_singleton.mpr (IsType.throughout ht hP)⟩

/-- It holds throughout what stands before the suffixes. -/
theorem IsFront.throughout {e : Expr} (h : IsFront e) (hP : GivenByRules P) : e.Throughout P := by
  match h with
  | .parts hw hps hn =>
    refine hP.underWords (fun w h => ?_) hps.isPrimary_ofParts
      (hP.ofParts hps hn (IsParts.throughout hps hP))
    exact isWord_of_mem_frontWords (hw w (List.mem_of_mem_erase h))
  | .builtin hw hr =>
    obtain ⟨first, us, others, base, hwritten⟩ := exists_writtenRun hw hr
    have hrun := hwritten.isRun.isWord
    have hbase : Text.IsIdentifier base.toList := .inl (hrun base (by simp))
    rw [builtinFront_append hw hr hwritten.split]
    -- the words in front of the run, and those of it that are not its base
    refine hP.underWords (fun w h => ?_) rfl (throughout_iff.mpr ⟨hP.word hbase, by simp [parts]⟩)
    rcases List.mem_append.mp h with h | h
    · exact isWord_of_mem_frontWords (hw w (List.mem_of_mem_erase h))
    · exact hrun w (List.mem_append_left _ h)

/-- **What the rules of reading give holds throughout whatever is read as a type.** -/
theorem IsType.throughout {e : Expr} (h : IsType e) (hP : GivenByRules P) : e.Throughout P := by
  match h with
  | .front hf => exact IsFront.throughout hf hP
  | .pointer he => exact (throughout_iff_of_parts rfl).mpr ⟨hP.pointer _, IsType.throughout he hP⟩
  | .reference he => exact (throughout_iff_of_parts rfl).mpr ⟨hP.reference _, IsType.throughout he hP⟩
  | .array he hb => exact (throughout_iff_of_parts rfl).mpr ⟨hP.array hb, IsType.throughout he hP⟩
  | .const he => exact (throughout_iff_of_parts rfl).mpr ⟨hP.constAfter _, IsType.throughout he hP⟩

end

/-- It holds throughout what a text is parsed as. -/
theorem throughout_of_parse {text : String} (h : parse text = .ok e) (hP : GivenByRules P) :
    e.Throughout P := by
  obtain ⟨c', hread, -⟩ := parse_eq_ok_iff.mp h
  exact hread.isType.throughout hP

end CppIndex.Expr
