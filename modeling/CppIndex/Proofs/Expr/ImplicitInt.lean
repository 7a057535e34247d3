import CppIndex.Proofs.Cursor.Alike
import CppIndex.Proofs.Expr.Ahead

/-!
# An `int` that is not written

A run that ends in `unsigned`, `signed`, `short` or `long` leaves an `int` out. Written out, the `int` is one more
word of the run, and it is the last, because no word may follow it. It changes nothing: both runs are split into
the same words and the same base (`Expr.IsRun.splitBuiltin_concat_int`), so what stands before the suffixes is
the same.

The suffixes are read from two places then, one behind the run and one behind the `int`. Both stand **abreast**
(`Cursor.Abreast`): behind the blanks in front of them is the same text, and a word that begins it stands alone
for both or for neither. A suffix that is read at one of them is read at the other and leaves them abreast
(`Cursor.Abreast.suffixStep`), so the texts are parsed alike (`Expr.parse_concat_int_iff`).
-/

namespace CppIndex

/-! ### Cursors abreast -/

namespace Cursor

variable {c c' d : Cursor}

/-- **Abreast**: behind the blanks in front of both cursors is the same text, and if that begins with a word, the
characters before it are keyword characters both or neither. -/
structure Abreast (c d : Cursor) : Prop where
  /-- What is left behind the blanks. -/
  rest : c.skipBlank.rest = d.skipBlank.rest
  /-- The character before it. -/
  previous : (∃ x ∈ c.skipBlank.rest.head?, Text.isAsciiWordChar x = true) →
    c.skipBlank.previous?.any Text.isKeywordChar = d.skipBlank.previous?.any Text.isKeywordChar

namespace Abreast

theorem symm (h : Abreast c d) : Abreast d c :=
  ⟨h.rest.symm, fun hx => (h.previous (h.rest ▸ hx)).symm⟩

/-- **Behind the same text** the cursors are abreast, wherever it was read. -/
theorem of_moved {taken k : List Char} (ht : taken ≠ []) : Abreast (c.moved taken k) (d.moved taken k) := by
  have hskip : ∀ c : Cursor,
      (c.moved taken k).skipBlank = c.moved (taken ++ k.takeWhile Text.isBlank) (Text.dropBlank k) :=
    fun c => moved_moved ..
  refine ⟨rfl, fun _ => ?_⟩
  rw [hskip, hskip]
  -- something was taken, so both cursors have the same character behind them
  rcases List.eq_nil_or_concat (taken ++ k.takeWhile Text.isBlank) with hnil | ⟨front, x, hx⟩
  · exact absurd (List.append_eq_nil_iff.mp hnil).1 ht
  · rw [hx, List.concat_eq_append, previous?_moved_concat, previous?_moved_concat]

/-- A keyword that stands at one of them stands at the other. -/
theorem keyword? {word : String} (h : Abreast c d) (hw : Text.IsWord word.toList)
    (hk : c.skipBlank.keyword? word = some c') :
    ∃ d', d.skipBlank.keyword? word = some d' ∧ Abreast c' d' := by
  -- the word and what follows it are the same text, and the character before it counts the same
  rw [keyword?_eq_filter, Option.filter_eq_some_iff] at hk
  obtain ⟨hskip, halone⟩ := hk
  obtain ⟨hr, hc'⟩ := skip?_eq_some hskip
  obtain ⟨x, w, hx, -, hxw⟩ := hw.exists_cons
  refine ⟨d.skipBlank.moved word.toList c'.rest, ?_, ?_⟩
  · rw [keyword?_eq_filter, Option.filter_eq_some_iff]
    refine ⟨skip?_of_append (h.rest ▸ hr), ?_⟩
    rwa [rest_moved, ← h.previous ⟨x, by rw [hr, hx]; rfl, hxw⟩]
  · rw [hc', rest_moved]
    exact of_moved (by rw [hx]; simp)

/-- **A suffix** that is read at one of them is read at the other. -/
theorem suffixStep {e e' : Expr} (h : Abreast c d) (hs : Expr.suffixStep e c = some (e', c')) :
    ∃ d', Expr.suffixStep e d = some (e', d') ∧ Abreast c' d' := by
  -- all suffixes but `const` are decided by what is left, and each leaves the cursors behind the same text
  rcases Expr.suffixStep_eq_some hs with ⟨hk, rfl⟩ | ⟨hp, rfl⟩ | ⟨size, ha, rfl⟩ | ⟨hr, rfl⟩
  · obtain ⟨d', hd, habreast⟩ := h.keyword? (by decide) hk
    exact ⟨d', Expr.suffixStep_const hd, habreast⟩
  · obtain ⟨hrest, hc'⟩ := skip?_eq_some hp
    rw [hc']
    exact ⟨_, Expr.suffixStep_pointer (h.rest ▸ hrest), of_moved (by simp)⟩
  · obtain ⟨hbound, taken, hrest, hc', hn⟩ := arrayBound?_eq_some ha
    have hopen : c.skipBlank.rest.head? = some '[' := Decidable.by_contra fun hne => by
      rw [Text.arrayBound?_eq_none hne] at hbound
      cases hbound
    have hhead : taken.head? = some '[' := by
      obtain ⟨x, xs, rfl⟩ := List.exists_cons_of_ne_nil hn
      rwa [hrest] at hopen
    rw [hc']
    exact ⟨_, Expr.suffixStep_array (h.rest ▸ hrest) hhead (hrest ▸ hbound), of_moved hn⟩
  · obtain ⟨hrest, hc'⟩ := skip?_eq_some hr
    rw [hc']
    exact ⟨_, Expr.suffixStep_reference (h.rest ▸ hrest), of_moved (by simp)⟩

/-- Where one of them finds no suffix, the other finds none. -/
theorem suffixStep_eq_none {e : Expr} (h : Abreast c d) (hs : Expr.suffixStep e c = none) :
    Expr.suffixStep e d = none := by
  cases hd : Expr.suffixStep e d with
  | none => rfl
  | some r =>
    obtain ⟨c', hc, -⟩ := h.symm.suffixStep hd
    rw [hs] at hc
    cases hc

/-- **Suffixes** that are passed from one of them are passed from the other. -/
theorem passes {e₀ e : Expr} (h : Abreast c d) (hp : Passes Expr.suffixStep e₀ c e c') :
    ∃ d', Passes Expr.suffixStep e₀ d e d' ∧ Abreast c' d' := by
  induction hp with
  | start => exact ⟨d, .start, h⟩
  | step _ hs ih =>
    obtain ⟨d₁, hpass, h₁⟩ := ih
    obtain ⟨d', hd, h'⟩ := h₁.suffixStep hs
    exact ⟨d', hpass.step hd, h'⟩

end Abreast

end Cursor

namespace Expr

/-- **Texts whose suffixes are read abreast** are parsed as the same tree. -/
theorem parse_iff_of_abreast {s t : String} {c d : Cursor} {e₀ e : Expr}
    (hs : ReadsFront false (.ofText s) e₀ c) (ht : ReadsFront false (.ofText t) e₀ d)
    (h : Cursor.Abreast c d) : parse s = .ok e ↔ parse t = .ok e := by
  -- one direction is enough, because being abreast is symmetric
  have himp : ∀ {c d : Cursor}, Cursor.Abreast c d →
      (∃ c', Cursor.Passes suffixStep e₀ c e c' ∧ suffixStep e c' = none ∧ Text.dropBlank c'.rest = []) →
      ∃ d', Cursor.Passes suffixStep e₀ d e d' ∧ suffixStep e d' = none ∧ Text.dropBlank d'.rest = [] := by
    rintro c d h ⟨c', hp, hstop, hend⟩
    obtain ⟨d', hpass, h'⟩ := h.passes hp
    exact ⟨d', hpass, h'.suffixStep_eq_none hstop, h'.rest.symm.trans hend⟩
  rw [parse_eq_ok_iff_of_readsFront hs, parse_eq_ok_iff_of_readsFront ht]
  exact ⟨himp h, himp h.symm⟩

/-- **Behind all words** cursors in front of the same text are abreast, if no word goes on there. -/
theorem Ahead.abreast {c d : Cursor} {k : List Char} (hc : Ahead [] k c) (hd : Ahead [] k d)
    (hk : k.head?.any Text.isWordChar = false) : Cursor.Abreast c d := by
  refine ⟨by rw [hc.rest_skipBlank_nil, hd.rest_skipBlank_nil], ?_⟩
  rintro ⟨x, hx, hxw⟩
  rw [hc.rest_skipBlank_nil] at hx
  -- a word behind the blanks is not the front of the text, so there are blanks
  obtain ⟨w, hw⟩ := List.head?_eq_some_iff.mp hx
  have hblanks := exists_blank_of_word hk hw hxw
  rw [(hc.isSeam_skipBlank hblanks).any_isKeywordChar, (hd.isSeam_skipBlank hblanks).any_isKeywordChar]

/-! ### Runs that leave `int` out -/

variable {ws run : List String} {last : String}

/-- A word behind which no other may stand is the last one. -/
theorem Follows.getLastD_eq {v u : String} (h : Follows v ws) (hu : u ∈ v :: ws) (hn : followers u = []) :
    ws.getLastD v = u := by
  -- nothing may follow the word, so no word stands behind it
  induction h with
  | nil => exact (List.mem_singleton.mp hu).symm
  | cons hw _ ih =>
    rw [List.getLastD_cons]
    rcases List.mem_cons.mp hu with rfl | hu
    · rw [hn] at hw
      cases hw
    · exact ih hu

/-- A run that ends in a word that begins runs holds only words that others may follow. -/
theorem IsRun.not_mem_of_followers {u : String} (hr : IsRun run) (hl : run.getLast? = some last)
    (hlast : last ∈ builtinStarts) (hn : followers u = []) : u ∉ run := by
  -- the word would be the last one, but others may follow that
  intro hu
  obtain ⟨-, hus⟩ := hr
  rw [List.getLast?_cons, ← List.getLastD_eq_getLast?, hus.getLastD_eq hu hn] at hl
  obtain rfl := Option.some.inj hl
  have hall : ∀ w ∈ builtinStarts, followers w ≠ [] := by decide
  exact hall u hlast hn

/-- **With an `int` behind it** a run is still one. -/
theorem IsRun.concat_int (hr : IsRun run) (hl : run.getLast? = some last) (hlast : last ∈ builtinStarts) :
    IsRun (run ++ ["int"]) := by
  have hall : ∀ w ∈ builtinStarts, "int" ∈ followers w := by decide
  exact hr.concat hl (hall last hlast)

/-- **The written `int` leaves no trace**: the run is split as it is without it. -/
theorem IsRun.splitBuiltin_concat_int (hr : IsRun run) (hl : run.getLast? = some last)
    (hlast : last ∈ builtinStarts) : splitBuiltin (run ++ ["int"]) = splitBuiltin run := by
  have hdouble : "double" ∉ run := hr.not_mem_of_followers hl hlast (by decide)
  have hchar : last ≠ "char" ∧ last ≠ "int" := by
    have hall : ∀ w ∈ builtinStarts, w ≠ "char" ∧ w ≠ "int" := by decide
    exact hall last hlast
  have hdouble' : "double" ∉ run ++ ["int"] := by simp [hdouble]
  rw [splitBuiltin, splitBuiltin, if_neg hdouble, if_neg hdouble']
  by_cases hlong : "long" ∈ run
  · -- the base is `long`, and no `int` is kept
    rw [if_pos hlong, if_pos (List.mem_append_left _ hlong), List.erase_append_left _ hlong, List.filter_append]
    simp
  · -- the base is an `int`, written or not
    have hlong' : "long" ∉ run ++ ["int"] := by simp [hlong]
    rw [if_neg hlong, if_neg hlong', List.getLast?_concat, if_pos rfl, List.dropLast_concat, hl,
      if_neg fun h => hchar.2 (Option.some.inj h), if_neg fun h => hchar.1 (Option.some.inj h)]

/-- The type of the words is the same. -/
theorem IsRun.builtinFront_concat_int (hr : IsRun run) (hl : run.getLast? = some last)
    (hlast : last ∈ builtinStarts) (hw : ∀ w ∈ ws, w ∈ frontWords) :
    builtinFront (ws ++ (run ++ ["int"])) = builtinFront (ws ++ run) := by
  obtain ⟨⟨others, base⟩, hs⟩ : ∃ r, splitBuiltin run = r := ⟨_, rfl⟩
  have hs' : splitBuiltin (run ++ ["int"]) = (others, base) :=
    (hr.splitBuiltin_concat_int hl hlast).trans hs
  rw [builtinFront_append hw (hr.concat_int hl hlast) hs', builtinFront_append hw hr hs]

/-! ### Whole texts -/

/-- **An `int` that is not written changes nothing.** The words `ws` may stand before any type, the run ends in a
word that begins runs, and both texts `s` and `t` hold these words in any layout, the second with an `int` behind
them. What follows them goes on with no word, and its first word is none that may come next in the run; only
`char`, `short`, `int`, `long` and `double` ever are. Then both texts are parsed as the same tree or neither is
parsed. -/
theorem parse_concat_int_iff {s t k : String} {e : Expr} (hw : ∀ w ∈ ws, w ∈ frontWords) (hr : IsRun run)
    (hl : run.getLast? = some last) (hlast : last ∈ builtinStarts)
    (hs : Text.chunks s.toList = (ws ++ run).map String.toList)
    (ht : Text.chunks t.toList = (ws ++ (run ++ ["int"])).map String.toList)
    (hk : k.toList.head?.any Text.isWordChar = false)
    (hn : String.ofList (Text.firstWord k.toList) ∉ followers last) :
    parse (s ++ k) = .ok e ↔ parse (t ++ k) = .ok e := by
  -- no word may follow `int`, so the longer run ends in front of any text
  obtain ⟨c, hc, hahead⟩ := exists_readsFront_ofText hw hr hl hs hk hn
  obtain ⟨d, hd, hahead'⟩ := exists_readsFront_ofText hw (hr.concat_int hl hlast) List.getLast?_concat ht hk
    (show String.ofList (Text.firstWord k.toList) ∉ [] by simp)
  rw [hr.builtinFront_concat_int hl hlast hw] at hd
  exact parse_iff_of_abreast hc hd (hahead.abreast hahead' (Text.any_isWordChar_trimEnd hk))

/-- With and without the `int`, `volatile const unsigned long long` in front of `* const[2]` gives the same tree. -/
theorem parse_long_long_int :
    (∀ w ∈ ["volatile", "const"], w ∈ frontWords) ∧ IsRun ["unsigned", "long", "long"] ∧
      Text.chunks "volatile const unsigned long long".toList =
        ["volatile", "const", "unsigned", "long", "long"].map String.toList ∧
      Text.chunks " volatile\tconst unsigned  long long int".toList =
        ["volatile", "const", "unsigned", "long", "long", "int"].map String.toList ∧
      parse (" volatile\tconst unsigned  long long int" ++ "* const[2]") = .ok (.array (.const .after (.pointer
        (.const .before (.modified ["volatile", "unsigned", "long"] (.name "long"))))) (some "2")) := by
  have hw : ∀ w ∈ ["volatile", "const"], w ∈ frontWords := by decide
  have hr : IsRun ["unsigned", "long", "long"] := .intro (by decide) (.cons (by decide) (.cons (by decide) .nil))
  have hs : Text.chunks "volatile const unsigned long long".toList =
      (["volatile", "const"] ++ ["unsigned", "long", "long"]).map String.toList := by decide +kernel
  have ht : Text.chunks " volatile\tconst unsigned  long long int".toList =
      (["volatile", "const"] ++ (["unsigned", "long", "long"] ++ ["int"])).map String.toList := by decide +kernel
  exact ⟨hw, hr, hs, ht, (parse_concat_int_iff hw hr rfl (by decide) hs ht (by decide +kernel)
    (by decide +kernel)).mp rfl⟩

end Expr

end CppIndex
