/-!
# Spans

A **span** is a range of byte offsets inside a declaration, kept in 32-bit words: an offset is taken
modulo 2³², so spans are exact on every text shorter than four gigabytes.
-/

namespace CppIndex

/-- A range of byte offsets, from `start` up to but not including `stop`. -/
structure Span where
  /-- The offset of the first byte. -/
  start : UInt32
  /-- The offset behind the last byte. -/
  stop : UInt32
  deriving DecidableEq, Repr

namespace Span

/-- The span between two offsets. -/
def ofBounds (start stop : Nat) : Span := ⟨start.toUInt32, stop.toUInt32⟩

/-- The empty span at an offset. -/
def point (offset : Nat) : Span := ofBounds offset offset

/-- The offset that messages show. -/
def offset (s : Span) : Nat := s.start.toNat

/-- The number of bytes in the span. -/
def length (s : Span) : UInt32 := s.stop - s.start

/-- Whether the span holds no byte. -/
def isEmpty (s : Span) : Bool := s.start == s.stop

/-- **The text of a span**: its offset if it is empty, otherwise both bounds around two points. -/
def render (s : Span) : String :=
  if s.isEmpty then toString s.start.toNat
  else toString s.start.toNat ++ ".." ++ toString s.stop.toNat

/-- The offset of a point is the offset it was built from, modulo the size of a word. -/
@[simp] theorem offset_point (n : Nat) : (point n).offset = n % UInt32.size := by
  simp [offset, point, ofBounds]

end Span

end CppIndex
