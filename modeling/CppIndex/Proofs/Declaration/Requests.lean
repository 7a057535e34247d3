import CppIndex.Proofs.Declaration.Outcome
import CppIndex.Proofs.Text.Trim

/-!
# Reading on

A reader may be kept and asked again, for one thing after the other and also after a failure: each request
goes on where the one before it stopped. Here the requests are data (`Request`), their answers are readings
(`Request.answer`), and a sequence of requests moves the cursor from answer to answer (`Cursor.after`).

What a sequence keeps is one relation: wherever it comes, the first cursor leads there (`Cursor.leads_after`).
So all places are in one text, between two of its characters, and an error tells of the place where the answer
left the cursor (`Request.isOrderly_after`). That every answer comes at all is a matter of the loops of the
readers, and each of them comes to its end at every cursor (`Cursor.loopsEnd`); everything else is recursion on
the characters of a text.
-/

namespace CppIndex

/-- **A request** to a reader. -/
inductive Request
  /-- For a type. -/
  | type
  /-- For a declaration of a kind. -/
  | declaration (kind : ObjectKind)
  /-- To skip blanks. -/
  | blanks
  /-- For the end of the text. -/
  | ending
  deriving DecidableEq, Repr

/-- **What a request is answered** if it does not fail. -/
inductive Answer
  /-- A type. -/
  | type (e : Expr)
  /-- A declaration. -/
  | declaration (d : Declaration)
  /-- Whether there were any blanks. -/
  | blanks (any : Bool)
  /-- Nothing is left. -/
  | ending

namespace Request

/-- The answer to a request at a cursor. -/
def answer : Request → Cursor → Reading Answer
  | .type, c => (Expr.read c).map .type
  | .declaration kind, c => (Declaration.read kind c).map .declaration
  | .blanks, c => .done (.blanks (decide (c.offset < c.skipBlank.offset))) c.skipBlank
  | .ending, c => c.finish.map fun _ => .ending

/-- Whether a request asks for something to be read. -/
def asksToRead : Request → Bool
  | .type | .declaration _ => true
  | .blanks | .ending => false

end Request

namespace Cursor

/-- **The cursor after requests**: each goes on where the answer to the one before it stopped, whether or not
that was a failure. -/
def after (c : Cursor) (requests : List Request) : Cursor :=
  requests.foldl (fun c request => (request.answer c).cursor) c

/-! ### Loops -/

/-- A repetition **stops**: it goes from step to step as far as a place where no step is possible. -/
def Stops {σ : Type} (step : σ → Cursor → Option (σ × Cursor)) (s : σ) (c : Cursor) : Prop :=
  ∃ s' c', c.repeated step s = (s', c') ∧ Passes step s c s' c' ∧ step s' c' = none

theorem stops {σ : Type} {step : σ → Cursor → Option (σ × Cursor)} (h : Progresses step) (s : σ)
    (c : Cursor) : Stops step s c :=
  ⟨_, _, rfl, passes_repeated h s c⟩

/-- **The loops of the readers end** at a cursor: calls within calls have an outcome, and repetitions stop. -/
structure LoopsEnd (c : Cursor) : Prop where
  /-- Reading a name. -/
  name : Expr.NameOutcome c (Expr.readName c)
  /-- Reading a type, with its components, arguments and the types in them. -/
  type : Expr.TypeOutcome false c (Expr.read c)
  /-- Reading parameters. -/
  params : Param.ListOutcome [] c (Param.readAll c)
  /-- The words in front of a type. -/
  leading : ∀ words, Stops Expr.leadingStep words c
  /-- A run of built-in words. -/
  builtin : ∀ run, Stops Expr.builtinStep run c
  /-- The suffixes of a type. -/
  suffix : ∀ e, Stops Expr.suffixStep e c
  /-- The words of a function. -/
  function : ∀ words, Stops Declaration.functionWordStep words c

theorem loopsEnd (c : Cursor) : c.LoopsEnd where
  name := Expr.nameOutcome_iff_readName_eq.mpr rfl
  type := Expr.typeOutcome_iff_read_eq.mpr rfl
  params := Param.listOutcome_iff_readAll_eq.mpr rfl
  leading words := stops Expr.progresses_leadingStep words c
  builtin run := stops Expr.progresses_builtinStep run c
  suffix e := stops Expr.progresses_suffixStep e c
  function words := stops Declaration.progresses_functionWordStep words c

/-! ### One request -/

theorem continues_finish (c : Cursor) : c.finish.Continues c := by
  have hblank := c.leads_skipBlank
  unfold finish
  simp only []
  split
  · exact .done hblank
  · -- the complaint quotes what is left at that place
    refine .failed hblank fun rest h => ?_
    obtain rfl := Cause.trailingInput.inj h
    rfl

/-- **Every answer continues.** -/
theorem continues_answer (request : Request) (c : Cursor) : (request.answer c).Continues c := by
  cases request with
  | type => exact (Expr.advances_read c).toContinues.map _
  | declaration kind => exact (Declaration.advances_read kind c).toContinues.map _
  | blanks => exact .done c.leads_skipBlank
  | ending => exact c.continues_finish.map _

/-- What is asked to be read and is read takes at least one character. -/
theorem advances_answer {request : Request} (h : request.asksToRead = true) (c : Cursor) :
    (request.answer c).Advances c := by
  cases request with
  | type => exact (Expr.advances_read c).map _
  | declaration kind => exact (Declaration.advances_read kind c).map _
  | blanks => cases h
  | ending => cases h

/-! ### A sequence of requests -/

/-- **Wherever requests come, the cursor leads there.** -/
theorem leads_after (c : Cursor) (requests : List Request) : c.Leads (c.after requests) := by
  induction requests generalizing c with
  | nil => exact .refl c
  | cons request requests ih => exact (c.continues_answer request).leads.trans (ih _)

/-- **A place in a text**: the cursor has read a part of it, which ends between two characters. -/
structure IsIn (text : String) (c : Cursor) : Prop where
  /-- The cursor stands in the text, trimmed. -/
  text_eq : c.text = Text.trimmed text
  /-- Its offset is one in the text. -/
  offset_le : c.offset ≤ (Text.trimmed text).utf8ByteSize
  /-- No character is cut by it. -/
  isValid : String.Pos.Raw.IsValid (Text.trimmed text) ⟨c.offset⟩

/-- The first cursor leads only to places in its text. -/
theorem isIn_of_leads {text : String} {c : Cursor} (h : (ofText text).Leads c) : c.IsIn text := by
  have htext : c.text = Text.trimmed text := by rw [h.text_eq, text_ofText]
  exact ⟨htext, htext ▸ c.offset_le, htext ▸ c.isValid_offset⟩

end Cursor

namespace Request

/-- **A request is orderly** at a cursor: the answer leaves the cursor in the text and not further back, what is
read is in front of it, and an error tells the text and the place. -/
structure IsOrderly (text : String) (request : Request) (c : Cursor) : Prop where
  /-- The cursor stays in the text. -/
  isIn : (request.answer c).cursor.IsIn text
  /-- It never goes back. -/
  offset_le : c.offset ≤ (request.answer c).cursor.offset
  /-- Over what is read it goes forward. -/
  offset_lt : request.asksToRead = true → ∀ a c', request.answer c = .done a c' →
    c.offset < c'.offset
  /-- An error is one in the text, at the place where the cursor is left. -/
  error : ∀ e, (request.answer c).toExcept = .error e → e.definition = Text.trimmed text ∧
    e.offset = (request.answer c).cursor.offset
  /-- An error about what is left tells the text from there on. -/
  trailing : ∀ e rest, (request.answer c).toExcept = .error e → e.cause = .trailingInput rest →
    ∃ front, Text.trimmed text = front ++ rest ∧ front.utf8ByteSize = e.offset

/-- Wherever the first cursor leads, every request is orderly. -/
theorem isOrderly_of_leads {text : String} (hsize : text.utf8ByteSize < UInt32.size) {c : Cursor}
    (h : (Cursor.ofText text).Leads c) (request : Request) : request.IsOrderly text c := by
  have hanswer := c.continues_answer request
  have hin := Cursor.isIn_of_leads (h.trans hanswer.leads)
  -- an offset in the text fits into a word
  have hword : (request.answer c).cursor.offset % UInt32.size = (request.answer c).cursor.offset :=
    Nat.mod_eq_of_lt <| Nat.lt_of_le_of_lt
      (Nat.le_trans hin.offset_le (Text.utf8ByteSize_trimmed_le text)) hsize
  refine ⟨hin, hanswer.leads.offset_le, fun hread a c' hd => ?_, fun e he => ?_, fun e rest he hc => ?_⟩
  · have hadvances := c.advances_answer hread
    have hleads := hadvances.leads
    rw [hd] at hleads
    exact hleads.offset_lt (hadvances.length_rest_lt a c' hd)
  · obtain ⟨cause, -, rfl⟩ := Reading.toExcept_eq_error_iff.mp he
    exact ⟨hin.text_eq, by rw [ParseError.offset, Span.offset_point, hword]⟩
  · obtain ⟨cause, hf, rfl⟩ := Reading.toExcept_eq_error_iff.mp he
    obtain rfl : cause = .trailingInput rest := hc
    refine ⟨(request.answer c).cursor.front, ?_, ?_⟩
    · rw [hanswer.trailing rest _ hf, ← hin.text_eq]
      exact Cursor.text_eq_append _
    · rw [ParseError.offset, Span.offset_point, hword, Cursor.offset_eq]

/-- **Whatever was asked before, every request is answered and orderly**, on every text shorter than four
gigabytes: all loops of the readers end, the cursor is in the text, and a further request leaves it there, never
further back, further on if something is read, and where the error says if nothing is. -/
theorem isOrderly_after {text : String} (hsize : text.utf8ByteSize < UInt32.size)
    (requests : List Request) :
    (∀ c : Cursor, c.LoopsEnd) ∧ ((Cursor.ofText text).after requests).IsIn text ∧
      ∀ request : Request, request.IsOrderly text ((Cursor.ofText text).after requests) := by
  have hleads := (Cursor.ofText text).leads_after requests
  exact ⟨Cursor.loopsEnd, Cursor.isIn_of_leads hleads, isOrderly_of_leads hsize hleads⟩

/-- Behind a type that was read, the request for the end fails and tells the rest and its place. -/
theorem isOrderly_after_type :
    " x **/ é ".utf8ByteSize < UInt32.size ∧
      ((Cursor.ofText " x **/ é ").after [.type, .blanks]).offset = 4 ∧
      Request.ending.IsOrderly " x **/ é " ((Cursor.ofText " x **/ é ").after [.type, .blanks]) := by
  have hsize : " x **/ é ".utf8ByteSize < UInt32.size := by decide +kernel
  exact ⟨hsize, by decide +kernel, (isOrderly_after hsize [.type, .blanks]).2.2 .ending⟩

end Request

end CppIndex
