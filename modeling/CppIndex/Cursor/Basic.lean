import CppIndex.ParseError
import CppIndex.Text.Blank
import CppIndex.Text.Leading
import CppIndex.Text.WordChar

/-!
# The cursor

A **cursor** is a place in a declaration: the characters already read, nearest first, and the
characters still to read. Every move takes characters from the front of the second list onto the
first, so a cursor never loses text (`Cursor.text` is the same before and after), never goes back, and
always stands between two characters. Its offset counts the bytes of what was read.

The character before the cursor matters because a keyword or an identifier has to stand alone: two
words in a row need something between them that belongs to neither.
-/

namespace CppIndex

/-- **A place in a declaration.** -/
structure Cursor where
  /-- What was read, the nearest character first. -/
  before : List Char
  /-- What is still to read. -/
  rest : List Char
  deriving DecidableEq, Repr

namespace Cursor

variable (c : Cursor)

/-- The cursor at the beginning of a text, which is first trimmed of the blanks around it. -/
def ofText (text : String) : Cursor := ⟨[], Text.trim text.toList⟩

/-- The whole text around the cursor. -/
def text : String := String.ofList (c.before.reverse ++ c.rest)

/-- **The offset**: the number of bytes that were read. -/
def offset : Nat := c.before.foldl (fun bytes x => bytes + x.utf8Size) 0

/-- Whether everything was read. -/
def atEnd : Bool := c.rest.isEmpty

/-- The character at the cursor. -/
def current? : Option Char := c.rest.head?

/-- The character before the cursor. -/
def previous? : Option Char := c.before.head?

/-- The cursor behind the characters `taken`, with `rest` in front of it. -/
def moved (taken rest : List Char) : Cursor := ⟨taken.reverse ++ c.before, rest⟩

@[simp] theorem rest_moved (taken rest : List Char) : (c.moved taken rest).rest = rest := rfl

/-- A move over the front of what was to read keeps the text. -/
theorem text_moved {taken rest : List Char} (h : c.rest = taken ++ rest) :
    (c.moved taken rest).text = c.text := by
  simp [text, moved, h]

/-! ### Moves -/

/-- The cursor behind all that is left. -/
def toEnd : Cursor := c.moved c.rest []

/-- **Over blanks**, as many as there are. -/
def skipBlank : Cursor := c.moved (c.rest.takeWhile Text.isBlank) (Text.dropBlank c.rest)

/-- **Over a fixed text**, if it stands at the cursor. -/
def skip? (word : String) : Option Cursor :=
  (Text.behind? word.toList c.rest).map (c.moved word.toList)

/-- **Over a keyword**: the text stands at the cursor, and neither of its neighbours is a keyword
character. -/
def keyword? (word : String) : Option Cursor :=
  match Text.behind? word.toList c.rest with
  | none => none
  | some rest =>
    if c.previous?.any Text.isKeywordChar || rest.head?.any Text.isKeywordChar then none
    else some (c.moved word.toList rest)

/-- **Where the next item of a list begins**: the first at the cursor, the others behind a comma. -/
def nextItem? (isFirst : Bool) : Option Cursor :=
  if isFirst then some c else (c.skip? ",").map skipBlank

@[simp] theorem rest_skipBlank : c.skipBlank.rest = Text.dropBlank c.rest := rfl

/-- Skipping blanks keeps the text. -/
@[simp] theorem text_skipBlank : c.skipBlank.text = c.text :=
  c.text_moved (List.takeWhile_append_dropWhile).symm

end Cursor

/-! ### Readings -/

/-- **What comes of reading a part of a declaration**: a value, or a cause. Either way the cursor
stands where reading stopped, so that a failure has a place and a later reading can go on. -/
inductive Reading (α : Type) where
  /-- A part was read; the cursor stands behind it. -/
  | done (value : α) (cursor : Cursor)
  /-- No part could be read; the cursor stands where that became clear. -/
  | failed (cause : Cause) (cursor : Cursor)

namespace Reading

variable {α β : Type}

/-- Read on behind a part that was read; a failure stays as it is. -/
def andThen (r : Reading α) (f : α → Cursor → Reading β) : Reading β :=
  match r with
  | .done value c => f value c
  | .failed cause c => .failed cause c

@[simp] theorem andThen_done (value : α) (c : Cursor) (f : α → Cursor → Reading β) :
    (Reading.done value c).andThen f = f value c := rfl

@[simp] theorem andThen_failed (cause : Cause) (c : Cursor) (f : α → Cursor → Reading β) :
    (Reading.failed cause c).andThen f = .failed cause c := rfl

/-- The value read, changed by a function. -/
def map (f : α → β) (r : Reading α) : Reading β := r.andThen fun value c => .done (f value) c

/-- The cursor where reading stopped. -/
def cursor : Reading α → Cursor
  | .done _ c => c
  | .failed _ c => c

/-- The outcome without the cursor; a failure becomes an error at the place where it arose. -/
def toExcept : Reading α → Except ParseError α
  | .done value _ => .ok value
  | .failed cause c => .error ⟨cause, .point c.offset, c.text⟩

end Reading

namespace Cursor

/-- **The end of a declaration**: nothing but blanks may be left. -/
def finish (c : Cursor) : Reading Unit :=
  let c := c.skipBlank
  if c.atEnd then .done () c else .failed (.trailingInput (String.ofList c.rest)) c

end Cursor

/-- Only a reading behind which nothing but blanks is left counts as complete. -/
def Reading.complete {α : Type} (r : Reading α) : Except ParseError α :=
  (r.andThen fun value c => c.finish.map fun _ => value).toExcept

/-! ### Repetition -/

namespace Cursor

variable {σ : Type}

/-- `repeated` with an explicit bound on the number of steps. -/
def repeatedUpTo (step : σ → Cursor → Option (σ × Cursor)) : Nat → σ → Cursor → σ × Cursor
  | 0, s, c => (s, c)
  | n + 1, s, c =>
    match step s c with
    -- nothing left to read: what the failed step looked at is not taken
    | none => (s, c)
    | some (s, c) => repeatedUpTo step n s c

/-- **As often as possible**: repeat a step that reads something, until it finds nothing to read.
A step that reads at least one character cannot succeed more often than there are characters, so
their number bounds the repetition. -/
def repeated (step : σ → Cursor → Option (σ × Cursor)) (s : σ) (c : Cursor) : σ × Cursor :=
  repeatedUpTo step c.rest.length s c

end Cursor

end CppIndex
