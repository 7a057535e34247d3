import CppIndex.Proofs.Expr.Chars
import CppIndex.Proofs.Expr.Reads

/-!
# The form of what is read

A tree that was read has a form that not every tree has: its names are identifiers, operator names or
conversions, its paths are what components and template arguments build up, its built-in words follow
each other as the words say, and its wrappers stand in the order in which they are read. The predicates
below say this without the text that was read, and every tree that is read has its form
(`ReadsType.isType`, `ReadsName.isComponent`).
-/

namespace CppIndex.Expr

/-! ### Runs of built-in words -/

/-- **Words that follow a word**: each may come next behind the one before it. -/
inductive Follows : String → List String → Prop
  /-- None. -/
  | nil {v : String} : Follows v []
  /-- One, and those that follow it. -/
  | cons {v w : String} {ws : List String} (h : w ∈ followers v) (hs : Follows w ws) :
    Follows v (w :: ws)

/-- **A run**: a word that begins one, and words that follow it. -/
inductive IsRun : List String → Prop
  /-- The first word, and the others. -/
  | intro {first : String} {ws : List String} (h : first ∈ builtinStarts) (hs : Follows first ws) :
    IsRun (first :: ws)

/-- One more word behind those that follow. -/
theorem Follows.concat {v w : String} {ws : List String} (h : Follows v ws)
    (hw : w ∈ followers (ws.getLastD v)) : Follows v (ws ++ [w]) := by
  induction h with
  | nil => exact .cons hw .nil
  | cons hu _ ih =>
    -- the last word of the longer list is the last word of its tail
    refine .cons hu (ih ?_)
    rwa [List.getLastD_cons] at hw

/-- One more word behind a run. -/
theorem IsRun.concat {run : List String} {last w : String} (h : IsRun run) (hl : run.getLast? = some last)
    (hw : w ∈ followers last) : IsRun (run ++ [w]) := by
  obtain ⟨hf, hs⟩ := h
  -- the word that decides what may follow is the last of the tail, or the first word if there is none
  rw [List.getLast?_cons, ← List.getLastD_eq_getLast?] at hl
  exact .intro hf (hs.concat (Option.some.inj hl ▸ hw))

/-- Every word of a run is a word of the text. -/
theorem Follows.isWord {v : String} {ws : List String} (h : Follows v ws) :
    ∀ w ∈ ws, Text.IsWord w.toList := by
  induction h with
  | nil => simp
  | cons hu _ ih =>
    intro w hw
    rcases List.mem_cons.mp hw with rfl | hw
    · exact isWord_of_mem_followers hu
    · exact ih w hw

theorem IsRun.isWord {run : List String} (h : IsRun run) : ∀ w ∈ run, Text.IsWord w.toList := by
  obtain ⟨hf, hs⟩ := h
  intro w hw
  rcases List.mem_cons.mp hw with rfl | hw
  · exact isWord_of_mem_builtinStarts hf
  · exact hs.isWord w hw

/-! ### Forms -/

mutual

/-- **A component of a path**, template arguments apart. -/
inductive IsComponent : Expr → Prop
  /-- An identifier. -/
  | word {s : String} (h : Text.IsIdentifier s.toList) (hn : s ≠ "operator") :
    IsComponent (.name s)
  /-- The name of an operator. -/
  | sign {s : String} (h : Text.IsSign s) : IsComponent (.name ("operator" ++ s))
  /-- The name of an allocation operator. -/
  | allocation (a : Allocation) (isArray : Bool) : IsComponent (.name (a.operatorName isArray))
  /-- A conversion. -/
  | cast {t : Expr} (h : IsType t) : IsComponent (.cast t)

/-- **Components passed.** Arguments turn all of them into one. -/
inductive IsParts : List Expr → Prop
  /-- None yet. -/
  | nil : IsParts []
  /-- One more. -/
  | part {ps : List Expr} {p : Expr} (h : IsParts ps) (hp : IsComponent p) : IsParts (ps ++ [p])
  /-- One more, with arguments for all of them. -/
  | template {ps args : List Expr} {p : Expr} (h : IsParts ps) (hp : IsComponent p)
    (ha : IsArgs args) : IsParts [.template (ofParts (ps ++ [p])) args]

/-- **Arguments passed.** -/
inductive IsArgs : List Expr → Prop
  /-- None yet. -/
  | nil : IsArgs []
  /-- One more. -/
  | arg {as : List Expr} {a : Expr} (h : IsArgs as) (ht : IsType a) : IsArgs (as ++ [a])

/-- **A type without its suffixes**: words, and components or a run of built-in words. -/
inductive IsFront : Expr → Prop
  /-- Components. -/
  | parts {ws : List String} {ps : List Expr} (hw : ∀ w ∈ ws, w ∈ frontWords) (hp : IsParts ps)
    (hn : ps ≠ []) : IsFront (fronted ws (ofParts ps))
  /-- A run of built-in words. -/
  | builtin {ws run : List String} (hw : ∀ w ∈ ws, w ∈ frontWords) (hr : IsRun run) :
    IsFront (builtinFront (ws ++ run))

/-- **A type**: what stands before the suffixes, under suffixes. -/
inductive IsType : Expr → Prop
  /-- No suffix. -/
  | front {e : Expr} (h : IsFront e) : IsType e
  /-- A pointer. -/
  | pointer {e : Expr} (h : IsType e) : IsType (.pointer e)
  /-- A reference. -/
  | reference {e : Expr} (h : IsType e) : IsType (.reference e)
  /-- An array, whose size is a bound if there is one. -/
  | array {e : Expr} {size : Option String} (h : IsType e)
    (hb : ∀ s ∈ size, Text.IsBound s.toList) : IsType (.array e size)
  /-- A constant, with `const` behind. -/
  | const {e : Expr} (h : IsType e) : IsType (.const .after e)

end

/-- **Induction on the suffixes of a type**: what holds in front of them, and is kept by each of them,
holds of the type. -/
theorem IsType.induct {motive : (e : Expr) → IsType e → Prop}
    (front : ∀ {e} (h : IsFront e), motive e (.front h))
    (pointer : ∀ {e} (h : IsType e), motive e h → motive (.pointer e) h.pointer)
    (reference : ∀ {e} (h : IsType e), motive e h → motive (.reference e) h.reference)
    (array : ∀ {e size} (h : IsType e) (hb : ∀ s ∈ size, Text.IsBound s.toList),
      motive e h → motive (.array e size) (h.array hb))
    (const : ∀ {e} (h : IsType e), motive e h → motive (.const .after e) h.const)
    {e : Expr} (h : IsType e) : motive e h := by
  -- the recursor of the mutual family asks for a motive for every member; suffixes only ever wrap types
  match h with
  | .front hf => exact front hf
  | .pointer he => exact pointer he (IsType.induct front pointer reference array const he)
  | .reference he => exact reference he (IsType.induct front pointer reference array const he)
  | .array he hb => exact array he hb (IsType.induct front pointer reference array const he)
  | .const he => exact const he (IsType.induct front pointer reference array const he)

/-- **Induction on components**: what holds of none, is kept by one more, and passes on to the template that
arguments make of them, holds of all components that are passed. -/
theorem IsParts.induct {motive : (ps : List Expr) → IsParts ps → Prop} (nil : motive [] .nil)
    (part : ∀ {ps p} (h : IsParts ps) (hp : IsComponent p), motive ps h → motive (ps ++ [p]) (h.part hp))
    (template : ∀ {ps args p} (h : IsParts ps) (hp : IsComponent p) (ha : IsArgs args), motive ps h →
      motive [.template (ofParts (ps ++ [p])) args] (h.template hp ha))
    {ps : List Expr} (h : IsParts ps) : motive ps h := by
  match h with
  | .nil => exact nil
  | .part hps hp => exact part hps hp (IsParts.induct nil part template hps)
  | .template hps hp ha => exact template hps hp ha (IsParts.induct nil part template hps)

/-! ### What is read has its form -/

/-- The words before a type are words that may stand there. -/
theorem forall_mem_of_passes_leadingStep {ws₀ ws : List String} {c c' : Cursor}
    (h : Cursor.Passes leadingStep ws₀ c ws c') :
    ∃ us, ws = ws₀ ++ us ∧ ∀ u ∈ us, u ∈ frontWords := by
  -- over the passes, with the words added so far kept apart from those that stood before
  induction h with
  | start => exact ⟨[], by simp, by simp⟩
  | step _ hs ih =>
    obtain ⟨us, rfl, hus⟩ := ih
    obtain ⟨w, hw, -, rfl⟩ := leadingStep_eq_some hs
    refine ⟨us ++ [w], by simp, fun u hu => ?_⟩
    rcases List.mem_append.mp hu with hu | hu
    · exact hus u hu
    · rw [List.mem_singleton.mp hu]
      exact hw

theorem forall_mem_of_leadingWords {ws : List String} {c c' : Cursor}
    (h : leadingWords c = (ws, c')) : ∀ w ∈ ws, w ∈ frontWords := by
  simp only [leadingWords, Prod.mk.injEq] at h
  obtain ⟨us, hus, hall⟩ :=
    forall_mem_of_passes_leadingStep (Cursor.passes_repeated progresses_leadingStep [] c).1
  rw [← h.1, hus]
  exact hall

/-- The words of a run follow each other, and the last of them says what may come next. -/
theorem follows_of_passes_builtinStep {v : String} {ws₀ : List String}
    {run : List String × List String} {c c' : Cursor}
    (h : Cursor.Passes builtinStep (ws₀, followers v) c run c') :
    ∃ us, run = (ws₀ ++ us, followers (us.getLastD v)) ∧ Follows v us := by
  -- over the passes: what may come next is always what the last word passed allows
  induction h with
  | start => exact ⟨[], by simp, .nil⟩
  | step _ hs ih =>
    obtain ⟨us, rfl, hus⟩ := ih
    obtain ⟨w, hw, -, rfl⟩ := builtinStep_eq_some hs
    exact ⟨us ++ [w], by simp, hus.concat hw⟩

/-- What is read as a run is one. -/
theorem isRun_of_repeated {ws next all next' : List String} {first : String} {c c₁ c₂ : Cursor}
    (hb : builtinStart? c = some (first, next, c₁))
    (hr : c₁.repeated builtinStep (ws ++ [first], next) = ((all, next'), c₂)) :
    ∃ run, all = ws ++ run ∧ IsRun run := by
  -- the first word allows what may follow it, and this is where the repetition starts
  obtain ⟨hf, rfl, -⟩ := builtinStart?_eq_some hb
  have hp := (Cursor.passes_repeated progresses_builtinStep (ws ++ [first], followers first) c₁).1
  rw [hr] at hp
  obtain ⟨us, hus, hfollows⟩ := follows_of_passes_builtinStep hp
  obtain ⟨rfl, -⟩ := Prod.mk.inj hus
  exact ⟨first :: us, by simp, .intro hf hfollows⟩

/-- A suffix keeps the form. -/
theorem IsType.of_passes {e₀ e : Expr} {c₀ c : Cursor} (h : Cursor.Passes suffixStep e₀ c₀ e c)
    (h₀ : IsType e₀) : IsType e := by
  induction h with
  | start => exact h₀
  | step _ hs ih =>
    -- a bound that was read is a bound; the other suffixes carry nothing
    rcases suffixStep_eq_some hs with ⟨-, rfl⟩ | ⟨-, rfl⟩ | ⟨size, ha, rfl⟩ | ⟨-, rfl⟩
    · exact ih.const
    · exact ih.pointer
    · exact ih.array (Text.arrayBound?_eq_some (Cursor.arrayBound?_eq_some ha).1).1
    · exact ih.reference

mutual

/-- **What is read as a name is a component.** -/
theorem ReadsName.isComponent {c c' : Cursor} {e : Expr} (h : ReadsName c e c') :
    IsComponent e := by
  -- along the reading, the five statements together: each constructor of a reading gives the constructor of
  -- a form
  match h with
  | .word hi hw => exact .word (Cursor.identifier?_eq_some hi).1 hw
  | .sign _ hs =>
    obtain ⟨taken, ht, -⟩ := Cursor.operatorSign?_eq_some hs
    exact .sign (Text.operatorSign?_eq_some ht).1
  | .allocation _ _ ha =>
    obtain ⟨a, isArray, -, rfl, -⟩ := Cursor.allocation?_eq_some ha
    exact .allocation a isArray
  | .cast _ _ _ ht => exact .cast (ReadsType.isType ht)

/-- What is passed as components has their form. -/
theorem ReachesParts.isParts {b : Bool} {c c' : Cursor} {ps : List Expr}
    (h : ReachesParts b c ps c') : IsParts ps := by
  match h with
  | .start => exact .nil
  | .part hp _ _ hname _ => exact .part (ReachesParts.isParts hp) (ReadsName.isComponent hname)
  | .template hp _ _ hname _ ha _ =>
    exact .template (ReachesParts.isParts hp) (ReadsName.isComponent hname) (ReachesArgs.isArgs ha)

/-- What is passed as arguments are types. -/
theorem ReachesArgs.isArgs {c c' : Cursor} {as : List Expr} (h : ReachesArgs c as c') :
    IsArgs as := by
  match h with
  | .start => exact .nil
  | .arg ha _ _ ht => exact .arg (ReachesArgs.isArgs ha) (ReadsType.isType ht)

/-- What is read before the suffixes has its form. -/
theorem ReadsFront.isFront {b : Bool} {c c' : Cursor} {e : Expr} (h : ReadsFront b c e c') :
    IsFront e := by
  match h with
  | .rooted _ hp _ hn => exact @IsFront.parts [] _ (by simp) (ReachesParts.isParts hp) hn
  | .builtin _ hw hb hr =>
    obtain ⟨run, rfl, hrun⟩ := isRun_of_repeated hb hr
    exact .builtin (forall_mem_of_leadingWords hw) hrun
  | .parts _ hw _ hp _ hn => exact .parts (forall_mem_of_leadingWords hw) (ReachesParts.isParts hp) hn

/-- **What is read as a type is one.** -/
theorem ReadsType.isType {b : Bool} {c c' : Cursor} {e : Expr} (h : ReadsType b c e c') :
    IsType e := by
  match h with
  | .intro hf hs _ => exact IsType.of_passes hs (.front (ReadsFront.isFront hf))

end

end CppIndex.Expr
