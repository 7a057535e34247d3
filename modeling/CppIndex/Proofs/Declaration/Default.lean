import CppIndex.Proofs.Cursor.Leads
import CppIndex.Proofs.Text.Nesting
import Mathlib.Data.List.Basic

/-!
# Reading a default value up to its end

A default value runs up to the first comma or closing parenthesis outside of brackets and literals
(`Param.ReadsUpToEnd`). A value that begins with a literal is not scanned for this sign but taken to be the
literal. So it is read up to its end exactly if nothing but blanks stands between the literal and the sign
(`Param.readsUpToEnd_iff`); else the rest of the value is left to be read as the next parameter, and the
declaration is rejected.
-/

namespace CppIndex

namespace Param

variable {c : Cursor} {v k lit rest : List Char}

/-- **A default value reaches up to its end**: it is what stands in front of the first comma or closing
parenthesis outside of brackets and literals, without the blanks at its ends, and the cursor is left in front of
that sign, or of blanks before it. If there is no such sign, reading fails because the value does not end. -/
structure ReadsUpToEnd (c : Cursor) : Prop where
  /-- The value that ends is read. -/
  value : ∀ v k, Text.EndsAt c.rest v k → ∃ c' blanks,
    readDefault c = .done (String.ofList (Text.trim v)) c' ∧ c.Leads c' ∧
      (∀ x ∈ blanks, Text.isBlank x = true) ∧ c'.rest = blanks ++ k
  /-- Reading fails exactly if no value ends. -/
  failure : (∃ c', readDefault c = .failed .unterminatedDefault c') ↔
    ¬ ∃ v k, Text.EndsAt c.rest v k

/-- A literal that begins a value is taken to be the value. -/
theorem readDefault_of_literal? (h : Text.literal? (Text.dropBlank c.rest) = some (lit, rest)) :
    readDefault c = .done (String.ofList lit) (c.skipBlank.moved lit rest) := by
  have hl : c.skipBlank.literal? = some (String.ofList lit, c.skipBlank.moved lit rest) := by
    rw [Cursor.literal?, Cursor.rest_skipBlank, h]
    rfl
  simp only [readDefault, hl]

theorem literal?_skipBlank_eq_none (h : Text.literal? (Text.dropBlank c.rest) = none) :
    c.skipBlank.literal? = none := by
  rw [Cursor.literal?, Cursor.rest_skipBlank, h]
  rfl

/-- Without a literal at its beginning a value that ends is read, -/
theorem readDefault_of_endsAt (h : Text.literal? (Text.dropBlank c.rest) = none)
    (hend : Text.EndsAt c.rest v k) :
    readDefault c = .done (String.ofList (Text.trim v)) (c.skipBlank.moved (Text.dropBlank v) k) := by
  have hl := literal?_skipBlank_eq_none h
  have hsplit := Text.splitDefault?_eq_some_iff.mpr hend.dropBlank
  simp only [readDefault, hl, Cursor.rest_skipBlank, hsplit]
  rfl

/-- and one that does not end fails. -/
theorem readDefault_of_not_endsAt (h : Text.literal? (Text.dropBlank c.rest) = none)
    (hno : ¬ ∃ v k, Text.EndsAt c.rest v k) :
    readDefault c = .failed .unterminatedDefault c.skipBlank := by
  have hl := literal?_skipBlank_eq_none h
  -- an end behind the blanks in front would be an end of the value
  have hnone : Text.splitDefault? 0 none (Text.dropBlank c.rest) = none := by
    rw [Text.splitDefault?_eq_none_iff]
    rintro ⟨v, k, hend⟩
    obtain ⟨v', hend'⟩ := hend.of_dropBlank
    exact hno ⟨v', k, hend'⟩
  simp only [readDefault, hl, Cursor.rest_skipBlank, hnone]

/-- **A value without a literal at its beginning** is read up to its end. -/
theorem readsUpToEnd_of_not_literal? (h : Text.literal? (Text.dropBlank c.rest) = none) :
    ReadsUpToEnd c := by
  constructor
  · intro v k hend
    -- without a literal the value is taken up to its end, and no blanks are left behind it
    refine ⟨_, [], readDefault_of_endsAt h hend, ?_, by simp, rfl⟩
    exact (Cursor.leads_skipBlank c).trans ⟨Text.dropBlank v, hend.dropBlank.split, rfl⟩
  · constructor
    · rintro ⟨c', hfailed⟩ ⟨v, k, hend⟩
      rw [readDefault_of_endsAt h hend] at hfailed
      cases hfailed
    · exact fun hno => ⟨_, readDefault_of_not_endsAt h hno⟩

/-- If a value that begins with a literal is read up to its end, only blanks stand between the literal and the
sign that ends the value. -/
theorem ReadsUpToEnd.endsValue (hup : ReadsUpToEnd c)
    (h : Text.literal? (Text.dropBlank c.rest) = some (lit, rest)) :
    Text.EndsValue (Text.dropBlank rest) := by
  have hread := readDefault_of_literal? h
  by_cases hend : ∃ v k, Text.EndsAt c.rest v k
  · -- what the literal leaves are blanks and the sign
    obtain ⟨v, k, hend⟩ := hend
    obtain ⟨c', blanks, hvalue, -, hb, hc'⟩ := hup.value v k hend
    rw [hread] at hvalue
    obtain ⟨-, rfl⟩ := Reading.done.inj hvalue
    have hrest : rest = blanks ++ k := hc'
    rw [hrest, Text.dropBlank_append_of_blanks hb, hend.sign.dropBlank_eq]
    exact hend.sign
  · -- without an end reading would fail
    obtain ⟨c', hfailed⟩ := hup.failure.mpr hend
    rw [hread] at hfailed
    cases hfailed

/-- **A value that begins with a literal** is read up to its end exactly if nothing but blanks stands between
the literal and the sign that ends the value. -/
theorem readsUpToEnd_iff_of_literal? (h : Text.literal? (Text.dropBlank c.rest) = some (lit, rest)) :
    ReadsUpToEnd c ↔ Text.EndsValue (Text.dropBlank rest) := by
  refine ⟨fun hup => hup.endsValue h, fun hk => ?_⟩
  have hread := readDefault_of_literal? h
  obtain ⟨blanks, hb, hrest, hlit, htrimmed⟩ := Text.endsAt_of_literal? h hk
  constructor
  · intro v k hend
    -- there is only one end, so the value is the literal
    obtain ⟨hv, rfl⟩ := hlit.unique hend.dropBlank
    have htrim : Text.trim v = lit := by
      calc Text.trim v = Text.trim (Text.dropBlank v) := by
            rw [Text.trim, Text.trim, Text.dropBlank_dropBlank]
        _ = Text.trim (lit ++ blanks) := by rw [hv]
        _ = lit := htrimmed.trim_append hb
    refine ⟨c.skipBlank.moved lit rest, blanks, ?_, ?_, hb, hrest⟩
    · rw [htrim]
      exact hread
    · exact (Cursor.leads_skipBlank c).trans ⟨lit, (Text.literal?_eq_some h).1, rfl⟩
  · constructor
    · rintro ⟨c', hfailed⟩
      rw [hread] at hfailed
      cases hfailed
    · intro hno
      obtain ⟨v, hend⟩ := hlit.of_dropBlank
      exact absurd ⟨v, _, hend⟩ hno

/-- **A default value is read up to its end** unless it begins with a literal behind which anything but blanks
stands before the sign that ends the value. -/
theorem readsUpToEnd_iff (c : Cursor) : ReadsUpToEnd c ↔
    ∀ lit rest, Text.literal? (Text.dropBlank c.rest) = some (lit, rest) →
      Text.EndsValue (Text.dropBlank rest) := by
  -- only a literal at the front can keep reading from looking for the end
  cases h : Text.literal? (Text.dropBlank c.rest) with
  | none => exact iff_of_true (readsUpToEnd_of_not_literal? h) (by simp)
  | some split =>
    obtain ⟨lit, rest⟩ := split
    rw [readsUpToEnd_iff_of_literal? h]
    constructor
    · rintro hk _ _ hsome
      obtain ⟨rfl, rfl⟩ := Prod.mk.inj (Option.some.inj hsome)
      exact hk
    · exact fun hall => hall lit rest rfl

/-- A value that begins with a literal is cut off behind the literal, and the declaration is rejected because
no comma stands there. -/
theorem not_readsUpToEnd_sum :
    ¬ ReadsUpToEnd ⟨[], " 'a' + 1)".toList⟩ ∧
      Text.EndsAt " 'a' + 1)".toList " 'a' + 1".toList [')'] ∧
      Text.trim " 'a' + 1".toList = "'a' + 1".toList ∧
      Declaration.parse .function "void f(int n = 'a' + 1)" =
        .error ⟨.expectedComma, .point 19, "void f(int n = 'a' + 1)"⟩ := by
  refine ⟨fun hup => ?_, ?_, by decide +kernel, by decide +kernel⟩
  · have hlit : Text.literal? (Text.dropBlank (Cursor.mk [] " 'a' + 1)".toList).rest) =
        some ("'a'".toList, " + 1)".toList) := by decide +kernel
    -- a sign of the value follows the literal, and none that ends it
    rcases (readsUpToEnd_iff_of_literal? hlit).mp hup with h | h
    · exact absurd h (by decide +kernel)
    · exact absurd h (by decide +kernel)
  · exact Text.splitDefault?_eq_some_iff.mp (by decide +kernel)

end Param

end CppIndex
