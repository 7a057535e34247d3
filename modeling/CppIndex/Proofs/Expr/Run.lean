import CppIndex.Proofs.Expr.Form

/-!
# Runs of built-in words

A run is split into its base type and the words that stay in front of it (`Expr.splitBuiltin`), and
written again the base stands last. The written run is a run too, it is split in the same way, and it
ends in a word behind which nothing can be added, `long` apart (`IsRun.canonical`). There are few runs:
`unsigned` or `signed` or neither, and behind it nothing, a single word, `short` or any number of
`long`, some of them with `int` or `double` at the end (`IsRun.cases`).
-/

namespace CppIndex.Expr

/-- The signs that a run may begin with: none or one word. -/
def signWords : List (List String) := [[], ["unsigned"], ["signed"]]

/-- Behind `long` stand any number of further ones, and then perhaps `int` or `double`. -/
theorem Follows.long {ws : List String} (h : Follows "long" ws) :
    ∃ n, ∃ last ∈ [[], ["int"], ["double"]], ws = List.replicate n "long" ++ last := by
  generalize hv : "long" = v at h
  induction h with
  | nil => exact ⟨0, [], by simp, rfl⟩
  | @cons v w ws hw hs ih =>
    subst hv
    have hmem : w = "int" ∨ w = "long" ∨ w = "double" := by
      simpa using (show w ∈ ["int", "long", "double"] from hw)
    -- `int` and `double` end the run, another `long` goes on like this one.
    rcases hmem with rfl | rfl | rfl
    · cases hs with
      | nil => exact ⟨0, ["int"], by simp, rfl⟩
      | cons hw' _ => exact absurd hw' (by simp [followers, wordRule?])
    · obtain ⟨n, last, hlast, rfl⟩ := ih rfl
      exact ⟨n + 1, last, hlast, rfl⟩
    · cases hs with
      | nil => exact ⟨0, ["double"], by simp, rfl⟩
      | cons hw' _ => exact absurd hw' (by simp [followers, wordRule?])

/-- Behind `short` stands at most an `int`. -/
theorem Follows.short {ws : List String} (h : Follows "short" ws) : ws ∈ [[], ["int"]] := by
  cases h with
  | nil => simp
  | cons hw hs =>
    obtain rfl : _ = "int" := List.mem_singleton.mp hw
    cases hs with
    | nil => simp
    | cons hw' _ => exact absurd hw' (by simp [followers, wordRule?])

/-- Behind `unsigned` and `signed` stand the same words. -/
theorem Follows.sign {s : String} {ws : List String} (hs : s ∈ ["unsigned", "signed"])
    (h : Follows s ws) :
    ws ∈ [[], ["char"], ["int"]] ∨ ws ∈ [["short"], ["short", "int"]] ∨
      ∃ n, ∃ last ∈ [[], ["int"], ["double"]], ws = List.replicate (n + 1) "long" ++ last := by
  cases h with
  | nil => exact Or.inl (by simp)
  | @cons _ w ws hw hrest =>
    have hmem : w = "char" ∨ w = "short" ∨ w = "int" ∨ w = "long" := by
      simp only [List.mem_cons, List.not_mem_nil, or_false] at hs
      rcases hs with rfl | rfl <;>
        simpa using (show w ∈ ["char", "short", "int", "long"] from hw)
    -- `char` and `int` end the run; `short` and `long` go on as they do without a sign.
    rcases hmem with rfl | rfl | rfl | rfl
    · cases hrest with
      | nil => exact Or.inl (by simp)
      | cons hw' _ => exact absurd hw' (by simp [followers, wordRule?])
    · have hshort := hrest.short
      simp only [List.mem_cons, List.not_mem_nil, or_false] at hshort
      rcases hshort with rfl | rfl <;> exact Or.inr (Or.inl (by simp))
    · cases hrest with
      | nil => exact Or.inl (by simp)
      | cons hw' _ => exact absurd hw' (by simp [followers, wordRule?])
    · obtain ⟨n, last, hlast, rfl⟩ := hrest.long
      exact Or.inr (Or.inr ⟨n, last, hlast, by simp [List.replicate_succ]⟩)

/-- **All runs.** -/
theorem IsRun.cases {run : List String} (h : IsRun run) : ∃ sign ∈ signWords,
    (sign ≠ [] ∧ run ∈ [sign, sign ++ ["char"], sign ++ ["int"]]) ∨
      run ∈ [sign ++ ["short"], sign ++ ["short", "int"]] ∨
      ∃ n, ∃ last ∈ [[], ["int"], ["double"]],
        run = sign ++ List.replicate (n + 1) "long" ++ last := by
  have hsigned : ∀ s ∈ ["unsigned", "signed"], ∀ ws, Follows s ws → ∃ sign ∈ signWords,
      (sign ≠ [] ∧ s :: ws ∈ [sign, sign ++ ["char"], sign ++ ["int"]]) ∨
        s :: ws ∈ [sign ++ ["short"], sign ++ ["short", "int"]] ∨
        ∃ n, ∃ last ∈ [[], ["int"], ["double"]],
          s :: ws = sign ++ List.replicate (n + 1) "long" ++ last := by
    intro s hs ws hws
    refine ⟨[s], by simpa [signWords] using hs, ?_⟩
    rcases hws.sign hs with h | h | ⟨n, last, hlast, rfl⟩
    · exact Or.inl ⟨by simp, by simpa using h⟩
    · exact Or.inr (Or.inl (by simpa using h))
    · exact Or.inr (Or.inr ⟨n, last, hlast, rfl⟩)
  obtain ⟨hf, hs⟩ := h
  simp only [builtinStarts, List.mem_cons, List.not_mem_nil, or_false] at hf
  -- A run begins with a sign or, without one, with `short` or `long`.
  rcases hf with rfl | rfl | rfl | rfl
  · exact hsigned _ (by simp) _ hs
  · exact hsigned _ (by simp) _ hs
  · refine ⟨[], by simp [signWords], Or.inr (Or.inl ?_)⟩
    have hshort := hs.short
    simp only [List.mem_cons, List.not_mem_nil, or_false] at hshort
    rcases hshort with rfl | rfl <;> simp
  · obtain ⟨n, last, hlast, rfl⟩ := hs.long
    exact ⟨[], by simp [signWords], Or.inr (Or.inr ⟨n, last, hlast, by simp [List.replicate_succ]⟩)⟩

/-- Words before any type are left in front when a run behind them is split. -/
theorem splitBuiltin_append {ws run : List String} (hw : ∀ w ∈ ws, w ∈ frontWords)
    (hr : run ≠ []) :
    splitBuiltin (ws ++ run) = (ws ++ (splitBuiltin run).1, (splitBuiltin run).2) := by
  have hnot : ∀ v, v ∉ frontWords → v ∉ ws := fun v hv hm => hv (hw v hm)
  have hfilter : ∀ v, v ∉ frontWords → ws.filter (· ≠ v) = ws := fun v hv =>
    List.filter_eq_self.mpr fun w hm => decide_eq_true fun h => hnot v hv (h ▸ hm)
  have hlast : (ws ++ run).getLast? = run.getLast? := by
    rw [List.getLast?_append]
    cases h : run.getLast? with
    | none => exact absurd (List.getLast?_eq_none_iff.mp h) hr
    | some _ => rfl
  have hdrop : (ws ++ run).dropLast = ws ++ run.dropLast := List.dropLast_append_of_ne_nil hr
  -- None of the words that are moved or dropped stands in front of a type.
  unfold splitBuiltin
  rw [hlast, hdrop, List.filter_append, hfilter "double" (by decide),
    List.erase_append_right _ (hnot "long" (by decide)), List.filter_append,
    hfilter "int" (by decide)]
  simp only [List.mem_append, hnot "double" (by decide), hnot "long" (by decide), false_or]
  split
  · rfl
  · split
    · rfl
    · split
      · rfl
      · split <;> rfl

/-- The words behind `long`. -/
theorem follows_long_replicate (n : Nat) {ws : List String} (h : Follows "long" ws) :
    Follows "long" (List.replicate n "long" ++ ws) := by
  induction n with
  | zero => exact h
  | succ n ih => exact .cons (by decide) ih

/-- Any number of `long` behind a sign, and what may stand behind them, is a run. -/
theorem isRun_long {sign last : List String} (hs : sign ∈ signWords) (n : Nat)
    (h : Follows "long" last) : IsRun (sign ++ List.replicate (n + 1) "long" ++ last) := by
  have hlong := follows_long_replicate n h
  simp only [signWords, List.mem_cons, List.not_mem_nil, or_false] at hs
  rw [List.replicate_succ]
  -- without a sign the run begins with the `long` itself
  rcases hs with rfl | rfl | rfl
  · exact .intro (by decide) hlong
  · exact .intro (by decide) (.cons (by decide) hlong)
  · exact .intro (by decide) (.cons (by decide) hlong)

/-- No sign word is a word of the runs behind it. -/
theorem not_mem_signWords {sign : List String} (hs : sign ∈ signWords) :
    "long" ∉ sign ∧ "double" ∉ sign ∧ "int" ∉ sign := by
  have hall : ∀ sign ∈ signWords, "long" ∉ sign ∧ "double" ∉ sign ∧ "int" ∉ sign := by decide
  exact hall sign hs

/-- Where no word is the given one, filtering it out changes nothing. -/
theorem filter_ne_eq_self {ws : List String} {v : String} (h : v ∉ ws) :
    ws.filter (· ≠ v) = ws :=
  List.filter_eq_self.mpr fun _ hw => decide_eq_true fun he => h (he ▸ hw)

/-- How runs with `long` are split. -/
theorem splitBuiltin_long {sign last : List String} (hs : sign ∈ signWords) (n : Nat)
    (h : last ∈ [[], ["int"]]) : splitBuiltin (sign ++ List.replicate (n + 1) "long" ++ last) =
      (sign ++ List.replicate n "long", "long") := by
  obtain ⟨hlong, hdouble, hint⟩ := not_mem_signWords hs
  have hlast : "double" ∉ last ∧ last.filter (· ≠ "int") = [] := by
    have hall : ∀ last ∈ [[], ["int"]], "double" ∉ last ∧ last.filter (· ≠ "int") = [] := by decide
    exact hall last h
  have hrep : "int" ∉ List.replicate n "long" := by simp [List.mem_replicate]
  have herase : (sign ++ List.replicate (n + 1) "long" ++ last).erase "long" =
      sign ++ List.replicate n "long" ++ last := by
    rw [List.append_assoc, List.erase_append_right _ hlong, List.replicate_succ, List.cons_append,
      List.erase_cons_head, List.append_assoc]
  have hnone : "double" ∉ sign ++ List.replicate (n + 1) "long" ++ last := by
    simp [hdouble, hlast.1, List.mem_replicate]
  have hmem : "long" ∈ sign ++ List.replicate (n + 1) "long" ++ last := by
    simp [List.mem_replicate]
  -- One `long` becomes the base, and an `int` is dropped.
  rw [splitBuiltin, if_neg hnone, if_pos hmem, herase, List.filter_append, List.filter_append,
    filter_ne_eq_self hint, filter_ne_eq_self hrep, hlast.2, List.append_nil]

/-- How runs with `double` are split. -/
theorem splitBuiltin_double {sign : List String} (hs : sign ∈ signWords) (n : Nat) :
    splitBuiltin (sign ++ List.replicate (n + 1) "long" ++ ["double"]) =
      (sign ++ List.replicate (n + 1) "long", "double") := by
  obtain ⟨-, hdouble, -⟩ := not_mem_signWords hs
  have hrep : "double" ∉ List.replicate (n + 1) "long" := by simp [List.mem_replicate]
  rw [splitBuiltin, if_pos (by simp), List.filter_append, List.filter_append,
    filter_ne_eq_self hdouble, filter_ne_eq_self hrep]
  simp

/-- **A run written with its base last.** -/
structure Canonical (run others : List String) (base : String) : Prop where
  /-- How the run is split. -/
  split : splitBuiltin run = (others, base)
  /-- The written run is a run. -/
  isRun : IsRun (others ++ [base])
  /-- It is split as the first one is. -/
  again : splitBuiltin (others ++ [base]) = (others, base)
  /-- Only behind `long` could it go on. -/
  stop : base = "long" ∨ followers base = []

/-- A sign word alone, or with one word behind it. -/
theorem canonical_sign {sign run : List String} (hs : sign ∈ signWords) (hne : sign ≠ [])
    (hrun : run ∈ [sign, sign ++ ["char"], sign ++ ["int"]]) : ∃ base, Canonical run sign base := by
  have hsign : sign ∈ [["unsigned"], ["signed"]] := by
    simpa [signWords, hne] using hs
  have hall : ∀ sign ∈ [["unsigned"], ["signed"]],
      ∀ run ∈ [sign, sign ++ ["char"], sign ++ ["int"]],
        (splitBuiltin run = (sign, "int") ∨ splitBuiltin run = (sign, "char")) ∧
          splitBuiltin (sign ++ ["int"]) = (sign, "int") ∧
            splitBuiltin (sign ++ ["char"]) = (sign, "char") := by decide
  have hrunOf : ∀ w ∈ ["int", "char"], IsRun (sign ++ [w]) := by
    intro w hw
    simp only [List.mem_cons, List.not_mem_nil, or_false] at hsign hw
    rcases hsign with rfl | rfl <;> rcases hw with rfl | rfl <;>
      exact .intro (by decide) (.cons (by decide) .nil)
  -- A sign alone means `int`, which is written out.
  obtain ⟨hsplit, hint, hchar⟩ := hall sign hsign run hrun
  rcases hsplit with hsplit | hsplit
  · exact ⟨"int", hsplit, hrunOf _ (by simp), hint, Or.inr (by decide)⟩
  · exact ⟨"char", hsplit, hrunOf _ (by simp), hchar, Or.inr (by decide)⟩

/-- `short`, with or without an `int` behind it. -/
theorem canonical_short {sign run : List String} (hs : sign ∈ signWords)
    (hrun : run ∈ [sign ++ ["short"], sign ++ ["short", "int"]]) :
    Canonical run (sign ++ ["short"]) "int" := by
  have hall : ∀ sign ∈ signWords, ∀ run ∈ [sign ++ ["short"], sign ++ ["short", "int"]],
      splitBuiltin run = (sign ++ ["short"], "int") ∧
        splitBuiltin (sign ++ ["short"] ++ ["int"]) = (sign ++ ["short"], "int") := by decide
  obtain ⟨hsplit, hagain⟩ := hall sign hs run hrun
  refine ⟨hsplit, ?_, hagain, Or.inr (by decide)⟩
  simp only [signWords, List.mem_cons, List.not_mem_nil, or_false] at hs
  -- With a sign the run has three words, without one it has two.
  rcases hs with rfl | rfl | rfl
  · exact .intro (by decide) (.cons (by decide) .nil)
  · exact .intro (by decide) (.cons (by decide) (.cons (by decide) .nil))
  · exact .intro (by decide) (.cons (by decide) (.cons (by decide) .nil))

/-- Any number of `long`, alone or with an `int` behind them. One of them becomes the base. -/
theorem canonical_long {sign last : List String} (hs : sign ∈ signWords) (n : Nat)
    (h : last ∈ [[], ["int"]]) : Canonical (sign ++ List.replicate (n + 1) "long" ++ last)
      (sign ++ List.replicate n "long") "long" := by
  -- the base is the last of the `long`, so the written run is the run without its `int`
  have hconcat : sign ++ List.replicate n "long" ++ ["long"] =
      sign ++ List.replicate (n + 1) "long" ++ [] := by
    rw [List.append_assoc, List.append_nil, ← List.replicate_succ']
  refine ⟨splitBuiltin_long hs n h, ?_, ?_, Or.inl rfl⟩
  · rw [hconcat]
    exact isRun_long hs n .nil
  · rw [hconcat]
    exact splitBuiltin_long hs n (by simp)

theorem canonical_double {sign : List String} (hs : sign ∈ signWords) (n : Nat) :
    Canonical (sign ++ List.replicate (n + 1) "long" ++ ["double"])
      (sign ++ List.replicate (n + 1) "long") "double" :=
  ⟨splitBuiltin_double hs n, isRun_long hs n (.cons (by decide) .nil), splitBuiltin_double hs n,
    Or.inr (by decide)⟩

/-- **Every run can be written with its base last.** -/
theorem IsRun.canonical {run : List String} (h : IsRun run) :
    ∃ others base, Canonical run others base := by
  obtain ⟨sign, hs, hrun⟩ := h.cases
  -- a run ends in the base that its words call for, whether that was written or not
  rcases hrun with ⟨hne, hrun⟩ | hrun | ⟨n, last, hlast, rfl⟩
  · exact ⟨sign, canonical_sign hs hne hrun⟩
  · exact ⟨_, _, canonical_short hs hrun⟩
  · simp only [List.mem_cons, List.not_mem_nil, or_false] at hlast
    rcases hlast with rfl | rfl | rfl
    · exact ⟨_, _, canonical_long hs n (by simp)⟩
    · exact ⟨_, _, canonical_long hs n (by simp)⟩
    · exact ⟨_, _, canonical_double hs n⟩

/-- The last word of a written run is its base. -/
theorem getLastD_of_concat_eq_cons {others us : List String} {base first : String}
    (h : others ++ [base] = first :: us) : us.getLastD first = base := by
  have hlast := congrArg List.getLast? h
  rw [List.getLast?_concat, List.getLast?_cons] at hlast
  rw [List.getLastD_eq_getLast?]
  exact (Option.some.inj hlast).symm

end CppIndex.Expr
