import CppIndex.Proofs.Expr.Leads

/-!
# The array bounds of an expression

An expression holds array bounds at any depth: in its suffixes, in its template arguments, in the target of a
conversion (`Expr.bounds`). Each of them is read as an array suffix at a place of the text, so what holds of
every bound that could be read from some place on holds of every bound in what is read from there
(`Expr.ReadsType.forall_bounds`).
-/

namespace CppIndex.Expr

/-! ### Bounds of a tree -/

mutual

/-- **The array bounds** in an expression, at any depth. -/
def bounds : Expr → List String
  | .name _ => []
  | .path parts => boundsAll parts
  | .template head args => bounds head ++ boundsAll args
  | .array inner size => bounds inner ++ size.toList
  | .modified _ inner | .pointer inner | .reference inner | .const _ inner => bounds inner
  | .cast target => bounds target

/-- The array bounds in a list of expressions. -/
def boundsAll : List Expr → List String
  | [] => []
  | e :: es => bounds e ++ boundsAll es

end

/-- The bounds of a list are those of its members. -/
@[simp] theorem boundsAll_eq_flatMap (es : List Expr) : boundsAll es = es.flatMap bounds := by
  induction es with
  | nil => rfl
  | cons e es ih => rw [boundsAll, ih, List.flatMap_cons]

/-- A path has the bounds of its components, and so has a single component. -/
@[simp] theorem bounds_ofParts (ps : List Expr) : (ofParts ps).bounds = ps.flatMap bounds := by
  match ps with
  | [e] =>
    show e.bounds = [e].flatMap bounds
    rw [List.flatMap_singleton]
  | [] | _ :: _ :: _ => rw [ofParts, bounds, boundsAll_eq_flatMap]; simp

/-- Words bound nothing. -/
@[simp] theorem bounds_withWords (words : List String) (e : Expr) :
    (withWords words e).bounds = e.bounds := by
  rw [withWords]
  split
  · rfl
  · rw [bounds]

@[simp] theorem bounds_underWords (isConst : Bool) (words : List String) (e : Expr) :
    (underWords isConst words e).bounds = e.bounds := by
  cases isConst with
  | false => exact bounds_withWords words e
  | true =>
    show (Expr.const .before (withWords words e)).bounds = _
    rw [bounds, bounds_withWords]

@[simp] theorem bounds_fronted (words : List String) (e : Expr) :
    (fronted words e).bounds = e.bounds :=
  bounds_underWords _ _ _

@[simp] theorem bounds_builtinFront (words : List String) : (builtinFront words).bounds = [] := by
  rw [builtinFront, bounds_underWords, bounds]

/-! ### Bounds that can be read -/

/-- **What holds of every bound from a place on**: of each that is read as an array suffix at any place to
which the cursor leads. -/
def HoldsOfBounds (P : String → Prop) (c : Cursor) : Prop :=
  -- asked at every place that is reached, so that no proof below has to say which bounds were read
  -- where
  ∀ c' b c'', c.Leads c' → c'.arrayBound? = some (some b, c'') → P b

variable {P : String → Prop}

/-- What holds of every bound from a place on holds of those from a later place on. -/
theorem HoldsOfBounds.of_leads {c c' : Cursor} (hP : HoldsOfBounds P c) (h : c.Leads c') :
    HoldsOfBounds P c' :=
  fun _ b _ h' hb => hP _ b _ (h.trans h') hb

theorem HoldsOfBounds.skipBlank {c : Cursor} (hP : HoldsOfBounds P c) : HoldsOfBounds P c.skipBlank :=
  hP.of_leads (Cursor.leads_skipBlank c)

/-- One more suffix adds at most a bound that stands there. -/
theorem forall_bounds_of_suffixStep {e e' : Expr} {c c' : Cursor} (hP : HoldsOfBounds P c)
    (h : suffixStep e c = some (e', c')) (he : ∀ b ∈ e.bounds, P b) : ∀ b ∈ e'.bounds, P b := by
  rcases suffixStep_eq_some h with ⟨-, rfl⟩ | ⟨-, rfl⟩ | ⟨size, ha, rfl⟩ | ⟨-, rfl⟩
  · rwa [bounds]
  · rwa [bounds]
  · intro b hb
    rw [bounds] at hb
    -- an old bound, or the new one, which was read behind the blanks
    rcases List.mem_append.mp hb with hb | hb
    · exact he b hb
    · obtain rfl := Option.mem_toList.mp hb
      exact hP _ b _ (Cursor.leads_skipBlank c) ha
  · rwa [bounds]

/-- Suffixes add bounds that stand there. -/
theorem forall_bounds_of_passes {e e' : Expr} {c c' : Cursor} (hP : HoldsOfBounds P c)
    (h : Cursor.Passes suffixStep e c e' c') (he : ∀ b ∈ e.bounds, P b) : ∀ b ∈ e'.bounds, P b := by
  -- over the passes: the place of each suffix is one that the first place leads to
  induction h with
  | start => exact he
  | step h hs ih =>
    exact forall_bounds_of_suffixStep (hP.of_leads (h.leads leads_of_suffixStep)) hs ih

mutual

/-- What holds of every bound from a place on holds of those in a name that is read there. -/
theorem ReadsName.forall_bounds {c c' : Cursor} {e : Expr} (h : ReadsName c e c')
    (hP : HoldsOfBounds P c) : ∀ b ∈ e.bounds, P b := by
  -- along the reading: only a conversion has bounds, those of its target
  match h with
  | .word _ _ | .sign _ _ | .allocation _ _ _ =>
    rw [bounds]
    simp
  | .cast hi _ _ ht =>
    rw [bounds]
    exact ReadsType.forall_bounds ht (hP.of_leads (Cursor.leads_of_identifier? hi)).skipBlank

theorem ReachesParts.forall_bounds {b : Bool} {c c' : Cursor} {ps : List Expr}
    (h : ReachesParts b c ps c') (hP : HoldsOfBounds P c) : ∀ b ∈ ps.flatMap bounds, P b := by
  match h with
  | .start => simp
  | .part h _ hn hp _ =>
    have hpart := ReadsName.forall_bounds hp
      (hP.of_leads ((ReachesParts.leads h).trans (leads_to_part hn)))
    have hparts := ReachesParts.forall_bounds h hP
    simpa [List.flatMap_append, or_imp, forall_and] using And.intro hparts hpart
  | .template h _ hn hp hl ha _ =>
    have hname := (ReachesParts.leads h).trans (leads_to_part hn)
    have hpart := ReadsName.forall_bounds hp (hP.of_leads hname)
    have hparts := ReachesParts.forall_bounds h hP
    have hargs := ReachesArgs.forall_bounds ha <| hP.of_leads <| hname.trans <|
      (ReadsName.leads hp).trans <| (Cursor.leads_skipBlank _).trans (Cursor.leads_of_skip? hl)
    -- the components before the arguments become the head of one component
    intro b hb
    rw [List.flatMap_singleton, bounds, bounds_ofParts, boundsAll_eq_flatMap, List.flatMap_append,
      List.flatMap_singleton] at hb
    rcases List.mem_append.mp hb with hb | hb
    · rcases List.mem_append.mp hb with hb | hb
      · exact hparts b hb
      · exact hpart b hb
    · exact hargs b hb

theorem ReachesArgs.forall_bounds {c c' : Cursor} {as : List Expr} (h : ReachesArgs c as c')
    (hP : HoldsOfBounds P c) : ∀ b ∈ as.flatMap bounds, P b := by
  match h with
  | .start => simp
  | .arg h _ hn ht =>
    -- the type of this argument is read behind the separator
    have harg := ReadsType.forall_bounds ht <| hP.of_leads <| (ReachesArgs.leads h).trans <|
      (Cursor.leads_skipBlank _).trans (Cursor.leads_of_nextItem? hn)
    have hargs := ReachesArgs.forall_bounds h hP
    simpa [List.flatMap_append, or_imp, forall_and] using And.intro hargs harg

theorem ReadsFront.forall_bounds {b : Bool} {c c' : Cursor} {e : Expr} (h : ReadsFront b c e c')
    (hP : HoldsOfBounds P c) : ∀ b ∈ e.bounds, P b := by
  match h with
  | .rooted hc hp _ _ =>
    rw [bounds_ofParts]
    exact ReachesParts.forall_bounds hp (hP.skipBlank.of_leads (Cursor.leads_of_skip? hc))
  | .builtin _ _ _ _ =>
    -- a run of words has no bound
    rw [bounds_builtinFront]
    simp
  | .parts _ hw _ hp _ _ =>
    rw [bounds_fronted, bounds_ofParts]
    exact ReachesParts.forall_bounds hp (hP.skipBlank.of_leads (leads_of_leadingWords hw))

/-- **What holds of every bound from a place on holds of those in a type that is read there.** -/
theorem ReadsType.forall_bounds {b : Bool} {c c' : Cursor} {e : Expr} (h : ReadsType b c e c')
    (hP : HoldsOfBounds P c) : ∀ b ∈ e.bounds, P b := by
  match h with
  | .intro hf hs _ =>
    exact forall_bounds_of_passes (hP.of_leads (ReadsFront.leads hf)) hs
      (ReadsFront.forall_bounds hf hP)

end

end CppIndex.Expr
