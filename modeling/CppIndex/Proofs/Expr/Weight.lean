import CppIndex.Proofs.Expr.Opening
import CppIndex.Proofs.Text.Weight
import Mathlib.Data.List.Basic
import Mathlib.Data.List.Flatten

/-!
# What is read weighs no less than its canonical text

The canonical text of a tree is made of what was read: words in another order, signs without the blanks
inside, an `int` more or less. So its weight and the weight of what is left are together no more than the
weight of what there was (`ReadsType.weight_le`), by induction on how the tree was read. Only a leading
`::` is read and not written, and then the canonical text is lighter (`ReadsType.weight_lt_of_rooted`).
-/

namespace CppIndex.Expr

open Text (weight)

variable {c c' : Cursor} {b : Bool}

/-! ### Words -/

/-- Words weigh the same in any order. -/
theorem weight_wordsText_of_perm {vs ws : List String} (h : vs.Perm ws) :
    weight (wordsText vs) = weight (wordsText ws) :=
  (h.flatMap_right _).countP_eq _

/-- Words weigh no less than some of them. -/
theorem weight_wordsText_le {vs ws : List String} (h : vs.Sublist ws) :
    weight (wordsText vs) ≤ weight (wordsText ws) :=
  Text.weight_le_of_sublist (h.flatMap _)

/-- The words in front weigh the same as they are written. -/
theorem weight_frontedWords (ws : List String) :
    weight (wordsText (frontedWords ws)) = weight (wordsText ws) := by
  refine weight_wordsText_of_perm ?_
  unfold frontedWords
  -- the written words are the words that were read, up to the place of one `const`
  by_cases hc : "const" ∈ ws
  · rw [if_pos hc]
    exact (List.perm_cons_erase hc).symm
  · rw [if_neg hc, List.erase_of_not_mem hc]
    exact List.Perm.refl ws

/-- A word and those that are left without it. -/
theorem weight_wordsText_erase {w : String} {ws : List String} (h : w ∈ ws) :
    weight (wordsText (ws.erase w)) + weight w.toList = weight (wordsText ws) := by
  rw [weight_wordsText_of_perm (List.perm_cons_erase h)]
  simp [Nat.add_comm]

/-- **A run that is split** weighs no more than it did. -/
theorem weight_splitBuiltin_le (ws : List String) :
    weight (wordsText (splitBuiltin ws).1) + weight (splitBuiltin ws).2.toList ≤
      weight (wordsText ws) := by
  -- the last word is the base, in two of the cases
  have hlast : ∀ w, ws.getLast? = some w →
      weight (wordsText ws.dropLast) + weight w.toList = weight (wordsText ws) := by
    intro w hw
    have hsplit := congrArg (fun ws => weight (wordsText ws)) (List.dropLast_append_getLast? w hw)
    simpa using hsplit
  unfold splitBuiltin
  split
  next hd =>
    -- all `double` are filtered out, so at least the first of them is, and that one is the base
    have hnone : "double" ∉ ws.filter (· ≠ "double") := by simp
    have hsub : (ws.filter (· ≠ "double")).Sublist (ws.erase "double") := by
      rw [← List.erase_of_not_mem hnone, List.erase_filter]
      exact List.filter_sublist
    have := weight_wordsText_le hsub
    have := weight_wordsText_erase hd
    simp only []
    omega
  next =>
    split
    next hl =>
      -- one `long` becomes the base, and any `int` is dropped
      have := weight_wordsText_le (List.filter_sublist (p := (· ≠ "int")) (l := ws.erase "long"))
      have := weight_wordsText_erase hl
      simp only []
      omega
    next =>
      split
      next hi => exact Nat.le_of_eq (hlast _ hi)
      next =>
        split
        next hc => exact Nat.le_of_eq (hlast _ hc)
        next =>
          -- the base is an `int` that was not there
          have hint : weight "int".toList = 0 := by decide
          exact Nat.le_of_eq (by simp only [hint, Nat.add_zero])

/-- The words in front of a base, and the base. -/
theorem weight_chars_fronted (ws : List String) (e : Expr) :
    weight (fronted ws e).chars = weight (wordsText ws) + weight e.chars := by
  rw [chars_fronted, Text.weight_append, weight_frontedWords]

theorem weight_chars_builtinFront_le (ws : List String) :
    weight (builtinFront ws).chars ≤ weight (wordsText ws) := by
  have hsplit := weight_splitBuiltin_le (ws.erase "const")
  rw [builtinFront, chars_underWords, chars_name, wordsText_append, Text.weight_append,
    Text.weight_append]
  -- A `const` is taken out of the words and written in front, so it counts once either way.
  by_cases hc : "const" ∈ ws
  · have herase := weight_wordsText_erase hc
    simp only [hc, decide_true, if_true, wordsText_cons, wordsText_nil, Text.weight_append,
      Text.weight_space_cons, Text.weight_nil]
    omega
  · rw [List.erase_of_not_mem hc] at hsplit ⊢
    simp only [hc, decide_false, Bool.false_eq_true, if_false, wordsText_nil, Text.weight_nil]
    omega

/-! ### Lexemes -/

theorem weight_identifier? {w : String} (h : c.skipBlank.identifier? = some (w, c')) :
    weight w.toList + weight c'.rest = weight c.rest := by
  have hr := (Cursor.identifier?_eq_some h).2.1
  rw [← Text.weight_append, ← hr, Cursor.rest_skipBlank, Text.weight_dropBlank]

theorem weight_skip? {word : String} (h : c.skipBlank.skip? word = some c') :
    weight word.toList + weight c'.rest = weight c.rest := by
  rw [← Text.weight_append, ← (Cursor.skip?_eq_some h).1, Cursor.rest_skipBlank,
    Text.weight_dropBlank]

theorem weight_keyword? {word : String} (h : c.skipBlank.keyword? word = some c') :
    weight word.toList + weight c'.rest = weight c.rest := by
  rw [← Text.weight_append, ← (Cursor.keyword?_eq_some h).1, Cursor.rest_skipBlank,
    Text.weight_dropBlank]

/-- The blanks inside a pair are not written. -/
theorem weight_operatorSign? {s : String} (h : c.skipBlank.operatorSign? = some (s, c')) :
    weight s.toList + weight c'.rest = weight c.rest := by
  obtain ⟨taken, ht, hr, -⟩ := Cursor.operatorSign?_eq_some h
  -- the sign is what was taken, or a pair without the blanks that stood in it
  have hsign : weight s.toList = weight taken := by
    rcases (Text.operatorSign?_eq_some ht).2.2 with rfl | ⟨-, x, y, blanks, hblanks, hs, rfl⟩
    · rfl
    · have hsplit : weight (x :: blanks ++ [y]) = weight [x] + weight (blanks ++ [y]) :=
        Text.weight_append [x] (blanks ++ [y])
      rw [hs, hsplit, Text.weight_append, Text.weight_of_blanks hblanks, Nat.zero_add]
      exact Text.weight_append [x] [y]
  rw [hsign, ← Text.weight_append, ← hr, Cursor.rest_skipBlank, Text.weight_dropBlank]

theorem weight_allocation? {s : String} (h : c.skipBlank.allocation? = some (.done s c')) :
    weight s.toList + weight c'.rest = weight "operator".toList + weight c.rest := by
  obtain ⟨a, isArray, c₁, rfl, hk, hb⟩ := Cursor.allocation?_eq_some h
  have hword := weight_keyword? hk
  rw [Allocation.toList_operatorName, Text.weight_append, Text.weight_space_cons, Text.weight_append]
  -- the brackets are written together, with whatever blanks they were read
  cases isArray with
  | false =>
    obtain ⟨-, rfl⟩ : c₁.skipBlank.skip? "[" = none ∧ c' = c₁ := hb
    simp only [Bool.false_eq_true, if_false, Text.weight_nil]
    omega
  | true =>
    obtain ⟨c₂, hopen, hclose⟩ := hb
    have hopen' := weight_skip? hopen
    have hclose' := weight_skip? hclose
    have hpair : weight ['[', ']'] = weight "[".toList + weight "]".toList := by decide
    simp only [if_true, hpair]
    omega

/-- The blanks around a bound are not written. -/
theorem weight_arrayBound? {size : Option String} (h : c.skipBlank.arrayBound? = some (size, c')) :
    weight ('[' :: (size.getD "").toList ++ [']']) + weight c'.rest = weight c.rest := by
  obtain ⟨hread, -⟩ := Cursor.arrayBound?_eq_some h
  obtain ⟨-, front, back, hfront, hback, hr⟩ := Text.arrayBound?_eq_some hread
  have hcounts : Text.counts '[' = true ∧ Text.counts ']' = true := by decide
  -- brackets count, the blanks around the bound do not
  have hrest := congrArg weight hr
  rw [Cursor.rest_skipBlank, Text.weight_dropBlank] at hrest
  simp only [List.cons_append, Text.weight_append, Text.weight_cons_of_counts hcounts.1,
    Text.weight_cons_of_counts hcounts.2, Text.weight_of_blanks hfront, Text.weight_of_blanks hback,
    Text.weight_nil] at hrest ⊢
  omega

/-! ### Repetitions -/

theorem weight_of_passes_leadingStep {ws₀ ws : List String}
    (h : Cursor.Passes leadingStep ws₀ c ws c') :
    weight (wordsText ws) + weight c'.rest = weight (wordsText ws₀) + weight c.rest := by
  -- over the passes: what is collected and what is left weigh the same together
  induction h with
  | start => rfl
  | step _ hs ih =>
    obtain ⟨w, -, hi, rfl⟩ := leadingStep_eq_some hs
    have hword := weight_identifier? hi
    simp only [wordsText_append, wordsText_cons, wordsText_nil, Text.weight_append,
      Text.weight_space_cons, Text.weight_nil]
    omega

theorem weight_leadingWords {ws : List String} (h : leadingWords c = (ws, c')) :
    weight (wordsText ws) + weight c'.rest = weight c.rest := by
  have hpass := weight_of_passes_leadingStep
    (Cursor.passes_repeated progresses_leadingStep [] c).1
  simp only [leadingWords, Prod.mk.injEq] at h
  obtain ⟨rfl, rfl⟩ := h
  rw [Cursor.rest_skipBlank, Text.weight_dropBlank, hpass, wordsText_nil, Text.weight_nil,
    Nat.zero_add]

theorem weight_of_passes_builtinStep {run₀ run : List String × List String}
    (h : Cursor.Passes builtinStep run₀ c run c') :
    weight (wordsText run.1) + weight c'.rest = weight (wordsText run₀.1) + weight c.rest := by
  induction h with
  | start => rfl
  | step _ hs ih =>
    obtain ⟨w, -, hi, rfl⟩ := builtinStep_eq_some hs
    have hword := weight_identifier? hi
    simp only [wordsText_append, wordsText_cons, wordsText_nil, Text.weight_append,
      Text.weight_space_cons, Text.weight_nil]
    omega

/-- **Suffixes** are written as heavy as they were read. -/
theorem weight_of_passes_suffixStep {e₀ e : Expr} (h : Cursor.Passes suffixStep e₀ c e c') :
    weight e.chars + weight c'.rest = weight e₀.chars + weight c.rest := by
  induction h with
  | start => rfl
  | step _ hs ih =>
    -- each suffix moves its own weight from the text that is left to the tree
    rcases suffixStep_eq_some hs with ⟨hk, rfl⟩ | ⟨hp, rfl⟩ | ⟨size, ha, rfl⟩ | ⟨hr, rfl⟩
    · have hword := weight_keyword? hk
      rw [chars_const_after, Text.weight_append, Text.weight_space_cons]
      omega
    · have hsign := weight_skip? hp
      rw [chars_pointer, Text.weight_append, show ['*'] = "*".toList from rfl]
      omega
    · have hbound := weight_arrayBound? ha
      rw [chars_array, List.append_assoc, Text.weight_append]
      omega
    · have hsign := weight_skip? hr
      rw [chars_reference, Text.weight_append, show ['&'] = "&".toList from rfl]
      omega

/-! ### Lists -/

/-- What stands in front of the next component. -/
theorem weight_nextPart? {isFirst : Bool} (hn : nextPart? isFirst c.skipBlank = some c') :
    (if isFirst then 0 else weight [':', ':']) + weight c'.rest = weight c.rest := by
  rcases nextPart?_eq_some hn with ⟨rfl, -, rfl⟩ | ⟨rfl, d, hd, rfl⟩
  · rw [if_pos rfl, Nat.zero_add, Cursor.rest_skipBlank, Text.weight_dropBlank]
  · rw [Cursor.rest_skipBlank, Text.weight_dropBlank]
    exact weight_skip? hd

/-- What stands in front of the next argument or parameter. The blank behind the comma has no weight. -/
theorem weight_nextItem? {isFirst : Bool} (hn : c.skipBlank.nextItem? isFirst = some c') :
    (if isFirst then 0 else weight [',', ' ']) + weight c'.rest = weight c.rest := by
  have hcomma : weight [',', ' '] = weight ",".toList := by decide
  rcases Cursor.nextItem?_eq_some hn with ⟨rfl, rfl⟩ | ⟨rfl, d, hd, rfl⟩
  · rw [if_pos rfl, Nat.zero_add, Cursor.rest_skipBlank, Text.weight_dropBlank]
  · rw [Cursor.rest_skipBlank, Text.weight_dropBlank, hcomma]
    exact weight_skip? hd

/-- **One more member** of a list weighs as much as it does and what stands in front of it. -/
theorem weight_joined_concat_le {sep : List Char} {es : List Expr} {e : Expr} {c₁ c₂ : Cursor}
    (hn : (if es.isEmpty then 0 else weight sep) + weight c₂.rest = weight c₁.rest)
    (hes : weight (joined sep es) + weight c₁.rest ≤ weight c.rest)
    (he : weight e.chars + weight c'.rest ≤ weight c₂.rest) :
    weight (joined sep (es ++ [e])) + weight c'.rest ≤ weight c.rest := by
  -- the separator is counted from the second member on
  cases es with
  | nil =>
    rw [List.isEmpty_nil, if_pos rfl] at hn
    rw [joined_nil, Text.weight_nil] at hes
    rw [List.nil_append, joined_singleton]
    omega
  | cons f fs =>
    rw [List.isEmpty_cons, if_neg (by decide)] at hn
    rw [joined_concat sep e (List.cons_ne_nil f fs), Text.weight_append, Text.weight_append]
    omega

/-! ### Types -/

mutual

/-- What is read as a name weighs no less than it. -/
theorem ReadsName.weight_le {c c' : Cursor} {e : Expr} (h : ReadsName c e c') :
    weight e.chars + weight c'.rest ≤ weight c.rest := by
  have hword : ∀ {w c₁}, c.identifier? = some (w, c₁) →
      weight w.toList + weight c₁.rest = weight c.rest := fun hi => by
    rw [← Text.weight_append, ← (Cursor.identifier?_eq_some hi).2.1]
  -- along the reading, with what is left on both sides so that the parts add up
  match h with
  | .word hi _ =>
    rw [chars_name]
    exact Nat.le_of_eq (hword hi)
  | .sign hi hs =>
    have hi' := hword hi
    have hs' := weight_operatorSign? hs
    rw [chars_name, String.toList_append, Text.weight_append]
    omega
  | .allocation hi _ ha =>
    have hi' := hword hi
    have ha' := weight_allocation? ha
    rw [chars_name]
    omega
  | .cast hi _ _ ht =>
    have hi' := hword hi
    have ht' := ReadsType.weight_le ht
    rw [Cursor.rest_skipBlank, Text.weight_dropBlank] at ht'
    rw [chars_cast, Text.weight_append, Text.weight_space_cons]
    omega

theorem ReachesParts.weight_le {b : Bool} {c c' : Cursor} {ps : List Expr}
    (h : ReachesParts b c ps c') :
    weight (joined [':', ':'] ps) + weight c'.rest ≤ weight c.rest := by
  match h with
  | .start => simp
  | .part hps _ hn hp _ =>
    exact weight_joined_concat_le (weight_nextPart? hn) (ReachesParts.weight_le hps)
      (ReadsName.weight_le hp)
  | @ReachesParts.template _ _ _ _ _ _ _ _ ps args p hps _ hn hp hl ha hg =>
    -- the components behind which the arguments stand are a list of their own, one longer
    have hparts := weight_joined_concat_le (weight_nextPart? hn) (ReachesParts.weight_le hps)
      (ReadsName.weight_le hp)
    have hopen := weight_skip? hl
    have hargs := ReachesArgs.weight_le ha
    have hclose := weight_skip? hg
    rw [joined_singleton, chars_template_ofParts, Text.weight_append, Text.weight_append, Text.weight_append]
    omega

theorem ReachesArgs.weight_le {c c' : Cursor} {as : List Expr} (h : ReachesArgs c as c') :
    weight (joined [',', ' '] as) + weight c'.rest ≤ weight c.rest := by
  match h with
  | .start => simp
  | .arg has _ hn ht =>
    exact weight_joined_concat_le (weight_nextItem? hn) (ReachesArgs.weight_le has) (ReadsType.weight_le ht)

theorem ReadsFront.weight_le {b : Bool} {c c' : Cursor} {e : Expr} (h : ReadsFront b c e c') :
    weight e.chars + weight c'.rest ≤ weight c.rest := by
  match h with
  | .rooted hc hp _ _ =>
    have hparts := ReachesParts.weight_le hp
    have hsign := weight_skip? hc
    rw [chars_ofParts, Cursor.rest_skipBlank, Text.weight_dropBlank]
    omega
  | @ReadsFront.builtin _ _ c₁ c₂ _ ws next all _ first _ hw hb hr =>
    have hlead := weight_leadingWords hw
    obtain ⟨-, -, hi⟩ := builtinStart?_eq_some hb
    have hfirst : weight first.toList + weight c₂.rest = weight c₁.rest := by
      rw [← Text.weight_append, ← (Cursor.identifier?_eq_some hi).2.1]
    have hpass := (Cursor.passes_repeated progresses_builtinStep (ws ++ [first], next) c₂).1
    rw [hr] at hpass
    have hrun := weight_of_passes_builtinStep hpass
    -- The written run drops words that were read, so it weighs no more.
    have hle := weight_chars_builtinFront_le all
    simp only [wordsText_append, wordsText_cons, wordsText_nil, Text.weight_append,
      Text.weight_space_cons, Text.weight_nil] at hrun
    rw [Cursor.rest_skipBlank, Text.weight_dropBlank] at hlead
    omega
  | .parts _ hw _ hp _ _ =>
    have hlead := weight_leadingWords hw
    have hparts := ReachesParts.weight_le hp
    rw [Cursor.rest_skipBlank, Text.weight_dropBlank] at hlead ⊢
    rw [weight_chars_fronted, chars_ofParts]
    omega

/-- **What is read as a type weighs no less than it.** -/
theorem ReadsType.weight_le {b : Bool} {c c' : Cursor} {e : Expr} (h : ReadsType b c e c') :
    weight e.chars + weight c'.rest ≤ weight c.rest := by
  match h with
  | .intro hf hs _ =>
    have hfront := ReadsFront.weight_le hf
    have hsuffixes := weight_of_passes_suffixStep hs
    rw [Cursor.rest_skipBlank, Text.weight_dropBlank]
    omega

end

/-- **A leading `::` is read and not written.** -/
theorem ReadsType.weight_lt_of_rooted {e : Expr} {c₁ : Cursor} (h : ReadsType b c e c')
    (hc : c.skipBlank.skip? "::" = some c₁) : weight e.chars + weight c'.rest < weight c.rest := by
  obtain ⟨hf, hs, -⟩ := h
  have hsuffixes := weight_of_passes_suffixStep hs
  rw [Cursor.rest_skipBlank, Text.weight_dropBlank]
  cases hf with
  | rooted hc' hp _ _ =>
    have hparts := hp.weight_le
    have hsign := weight_skip? hc'
    -- the two colons are the difference
    have htwo : weight "::".toList = 2 := by decide
    rw [chars_ofParts, Cursor.rest_skipBlank, Text.weight_dropBlank] at hsuffixes
    omega
  -- the other two fronts begin with no `::`
  | builtin hn => rw [hc] at hn; cases hn
  | parts hn => rw [hc] at hn; cases hn

end CppIndex.Expr
