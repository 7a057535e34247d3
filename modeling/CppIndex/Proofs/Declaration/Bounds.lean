import CppIndex.Proofs.Declaration.Exprs
import CppIndex.Proofs.Expr.Bounds
import CppIndex.Proofs.Text.Pair
import Mathlib.Data.List.Basic

/-!
# Array suffixes take one pair of brackets

An array suffix is meant to end at the bracket that closes it. This holds of a text in which every pair of
brackets around nothing closes at its own bracket: then no bound in what is parsed, be it a type or a
declaration, holds a closing bracket (`Declaration.close_not_mem_bounds`). A pair for which it does not hold,
because a bracket closes later on the line, takes all up to that bracket as its bound. So `T[][]` is no array of
arrays, and of two parameters `T[] a, T[] b` the first takes the second along.
-/

namespace CppIndex

/-- **The array bounds of a declaration**, in all its expressions. -/
def Declaration.bounds (d : Declaration) : List String := d.exprs.flatMap Expr.bounds

/-! ### Bounds that are read in a text -/

/-- Where the pairs of what is left close, no bound from there on holds a closing bracket. -/
theorem Expr.holdsOfBounds_of_pairsClose {c : Cursor} (h : Text.PairsClose c.rest) :
    HoldsOfBounds (fun b => ']' ∉ b.toList) c := by
  intro c' b c'' hleads hb
  obtain ⟨taken, hrest, -⟩ := hleads
  -- what is left at the later place is an end of what is left here
  have hpart : Text.PairsClose (taken ++ c'.rest ++ []) := by
    rwa [List.append_nil, ← hrest]
  exact hpart.of_append.close_not_mem (Cursor.arrayBound?_eq_some hb).1

/-- What holds of every bound from a place on holds of those in what is read from there on. -/
theorem Expr.ReadFrom.forall_bounds {P : String → Prop} {c : Cursor} {e : Expr} (h : e.ReadFrom c)
    (hP : HoldsOfBounds P c) : ∀ b ∈ e.bounds, P b := by
  -- three points have no bound, and all else is read at a place that is reached
  cases h with
  | type hc ht => exact ht.forall_bounds (hP.of_leads hc)
  | name hc hn => exact hn.forall_bounds (hP.of_leads hc)
  | ellipsis he =>
    rw [he, bounds]
    simp

/-- A suffix that makes an array is an array suffix. -/
theorem Expr.arrayBound?_of_suffixStep {e : Expr} {size : Option String} {c c' : Cursor}
    (h : suffixStep e c = some (.array e size, c')) :
    Text.arrayBound? c.skipBlank.rest = some (size, c'.rest) := by
  -- of the four suffixes only one makes an array
  rcases suffixStep_eq_some h with ⟨-, he⟩ | ⟨-, he⟩ | ⟨size, ha, he⟩ | ⟨-, he⟩
  · cases he
  · cases he
  · obtain ⟨-, rfl⟩ := Expr.array.inj he
    exact (Cursor.arrayBound?_eq_some ha).1
  · cases he

/-- The pairs of a text close where reading begins, behind the blanks in front. -/
theorem Cursor.pairsClose_ofText {text : String} (h : Text.PairsClose text.toList) :
    Text.PairsClose (ofText text).rest := by
  -- trimming takes the blanks off both ends, and a part of a text has fewer pairs
  obtain ⟨front, back, htext, -, -⟩ := Text.exists_blanks_trim text.toList
  rw [htext] at h
  exact h.of_append

namespace Declaration

/-- **Array suffixes take one pair of brackets** unless a bracket closes later.

If every pair of brackets around nothing in a text closes at its own bracket, no bound in the type or in the
declaration that the text is parsed as holds a closing bracket. In any text, the bound of a suffix holds one
exactly if the suffix begins with such a pair and a bracket closes later; and a suffix that begins with such a
pair becomes an array without a bound, behind which reading goes on at its own bracket, exactly if none does. -/
theorem close_not_mem_bounds (text : String) (e : Expr) (c : Cursor) :
    (Text.PairsClose text.toList →
      (∀ t, Expr.parse text = .ok t → ∀ b ∈ t.bounds, ']' ∉ b.toList) ∧
      ∀ kind d, parse kind text = .ok d → ∀ b ∈ d.bounds, ']' ∉ b.toList) ∧
    (∀ size c', Expr.suffixStep e c = some (.array e (some size), c') →
      (']' ∈ size.toList ↔ ∃ blanks rest, (∀ x ∈ blanks, Text.isBlank x = true) ∧
        c.skipBlank.rest = '[' :: blanks ++ ']' :: rest ∧ Text.ClosesLater rest)) ∧
    ∀ blanks rest, (∀ x ∈ blanks, Text.isBlank x = true) →
      c.skipBlank.rest = '[' :: blanks ++ ']' :: rest →
      (Expr.suffixStep e c =
          some (.array e none, c.skipBlank.moved ('[' :: blanks ++ [']']) rest) ↔
        ¬ Text.ClosesLater rest) := by
  refine ⟨fun hpairs => ?_, fun size c' hstep => ?_, fun blanks rest hblank hc => ?_⟩
  · -- both parsers read from the first character on, so every bound is read at a place that is reached
    have hbounds := Expr.holdsOfBounds_of_pairsClose (Cursor.pairsClose_ofText hpairs)
    constructor
    · intro t ht
      obtain ⟨c, hread, -⟩ := Expr.parse_eq_ok_iff.mp ht
      exact hread.forall_bounds hbounds
    · intro kind d hd b hb
      obtain ⟨c, hread, -⟩ := parse_eq_ok_iff.mp hd
      obtain ⟨e, he, hb⟩ := List.mem_flatMap.mp hb
      exact (hread.forall_exprs e he).forall_bounds hbounds b hb
  · exact Text.close_mem_iff_of_arrayBound? (Expr.arrayBound?_of_suffixStep hstep)
  · -- the suffix takes the pair alone exactly if the bracket in it is the one that closes it
    have hsplit : c.skipBlank.rest = ('[' :: blanks ++ [']']) ++ rest := by
      rw [hc]
      simp
    rw [← Text.arrayBound?_pair_iff hblank, ← hc]
    constructor
    · exact Expr.arrayBound?_of_suffixStep
    · intro ha
      rw [hsplit] at ha
      exact Expr.suffixStep_array hsplit rfl ha

/-- Two arrays on two lines are two parameters, and neither has a bound; a pair with a blank inside is a pair;
and the bound between two pairs on one line begins with the bracket of the first. -/
theorem close_not_mem_bounds_lines :
    ∃ text d, text = "void f(T[] a,\nT[] b)" ∧ Text.PairsClose text.toList ∧
      parse .function text = .ok d ∧ (∀ b ∈ d.bounds, ']' ∉ b.toList) ∧
      d.body.exprs.length = 5 ∧
      Expr.suffixStep (.name "T") (.ofText "[ ]") =
        some (.array (.name "T") none, (Cursor.ofText "[ ]").moved ['[', ' ', ']'] []) ∧
      ∃ blanks rest, (∀ x ∈ blanks, Text.isBlank x = true) ∧
        (Cursor.ofText "[][]").skipBlank.rest = '[' :: blanks ++ ']' :: rest ∧ Text.ClosesLater rest := by
  have hpairs : Text.PairsClose "void f(T[] a,\nT[] b)".toList := by decide +kernel
  have hparse : parse .function "void f(T[] a,\nT[] b)" = .ok ⟨.name "f", .pub, false,
      .function ⟨false, false, some (.name "void"),
        [⟨some (.array (.name "T") none), some (.name "a"), none⟩,
          ⟨some (.array (.name "T") none), some (.name "b"), none⟩], false, false⟩⟩ := by
    decide +kernel
  -- the second bracket pair is taken into the bound of the first
  have hgrown : Expr.suffixStep (.name "T") (.ofText "[][]") = some (.array (.name "T") (some "]["),
      (Cursor.ofText "[][]").moved "[][]".toList []) := by decide +kernel
  obtain ⟨htext, -, hpair⟩ :=
    close_not_mem_bounds "void f(T[] a,\nT[] b)" (.name "T") (.ofText "[ ]")
  obtain ⟨-, hbound, -⟩ := close_not_mem_bounds "T[][]" (.name "T") (.ofText "[][]")
  refine ⟨_, _, rfl, hpairs, hparse, (htext hpairs).2 _ _ hparse, rfl, ?_, ?_⟩
  · exact (hpair [' '] [] (by decide) (by decide +kernel)).mpr (by decide)
  · exact (hbound _ _ hgrown).mp (by decide)

/-- On one line the first pair takes all up to the last bracket along. -/
theorem close_mem_bounds_line :
    Expr.parse "T[][]" = .ok (.array (.name "T") (some "][")) ∧
      parse .function "void f(T[] a, T[] b)" = .ok ⟨.name "f", .pub, false,
        .function ⟨false, false, some (.name "void"),
          [⟨some (.array (.name "T") (some "] a, T[")), some (.name "b"), none⟩], false, false⟩⟩ := by
  constructor
  · decide +kernel
  · decide +kernel

end Declaration

end CppIndex
