import CppIndex.Proofs.Text.Trim
import Mathlib.Data.List.TakeWhile

/-!
# Layout

Blanks separate the words of a text, and it makes no difference which blanks they are and how many. Three
readings of a text forget more or less of them: its **solid** characters are all that are not blank, its
**chunks** are the runs of them between blanks, and **squeezed** it has a single space where there were blanks.

Texts with the same chunks are the same when they are trimmed and squeezed (`Text.squeeze_trim_eq`), so
squeezing is how layout is compared at any place inside a text, and at the end the chunks of what is left are
compared again (`Text.chunks_squeeze`). Both are shown along the chunks of a text (`Text.chunkInduction`).
-/

namespace CppIndex.Text

variable {cs ds : List Char} {x : Char}

/-! ### Solid characters -/

/-- **The solid characters** of a text: all but the blanks. -/
def solid (cs : List Char) : List Char := cs.filter fun x => !isBlank x

@[simp] theorem solid_nil : solid [] = [] := rfl

@[simp] theorem solid_append (cs ds : List Char) : solid (cs ++ ds) = solid cs ++ solid ds :=
  List.filter_append cs ds

@[simp] theorem solid_space_cons (cs : List Char) : solid (' ' :: cs) = solid cs :=
  List.filter_cons_of_neg (by decide)

theorem solid_cons_of_not_blank (hx : isBlank x = false) (cs : List Char) :
    solid (x :: cs) = x :: solid cs :=
  List.filter_cons_of_pos (by simp [hx])

theorem solid_of_blanks (h : ∀ x ∈ cs, isBlank x = true) : solid cs = [] :=
  List.filter_eq_nil_iff.mpr fun x hx => by simp [h x hx]

@[simp] theorem solid_dropBlank (cs : List Char) : solid (dropBlank cs) = solid cs := by
  have hsplit := congrArg solid (List.takeWhile_append_dropWhile (p := isBlank) (l := cs))
  have hblank : solid (cs.takeWhile isBlank) = [] :=
    solid_of_blanks (List.all_eq_true.mp List.all_takeWhile)
  rwa [solid_append, hblank, List.nil_append] at hsplit

/-- A text of which nothing but blanks is left has no solid characters. -/
theorem solid_eq_nil_of_dropBlank (h : dropBlank cs = []) : solid cs = [] := by
  rw [← solid_dropBlank, h, solid_nil]

@[simp] theorem solid_trim (cs : List Char) : solid (trim cs) = solid cs := by
  obtain ⟨front, back, hcs, hf, hb⟩ := exists_blanks_trim cs
  have hsolid := congrArg solid hcs
  rw [solid_append, solid_append, solid_of_blanks hf, solid_of_blanks hb, List.nil_append,
    List.append_nil] at hsolid
  exact hsolid.symm

/-! ### Chunks -/

/-- **The chunks** of a text: what stands between blanks. -/
def chunks (cs : List Char) : List (List Char) := (cs.splitOnP isBlank).filter (· ≠ [])

/-- **A text is a chunk, or a chunk and more behind a blank.** -/
theorem chunkInduction {motive : List Char → Prop}
    (last : ∀ w, (∀ x ∈ w, isBlank x = false) → motive w)
    (more : ∀ w b k, (∀ x ∈ w, isBlank x = false) → isBlank b = true → motive (dropBlank k) →
      motive (w ++ b :: k)) (cs : List Char) : motive cs := by
  induction hn : cs.length using Nat.strongRecOn generalizing cs with
  | ind n ih =>
    -- the text up to its first blank is a chunk
    have hsplit := List.takeWhile_append_dropWhile (p := fun x => !isBlank x) (l := cs)
    have hw : ∀ x ∈ cs.takeWhile fun x => !isBlank x, isBlank x = false := fun x hx => by
      simpa using List.all_eq_true.mp List.all_takeWhile x hx
    cases hk : cs.dropWhile fun x => !isBlank x with
    | nil =>
      rw [hk, List.append_nil] at hsplit
      rw [← hsplit]
      exact last _ hw
    | cons b k =>
      have hb : isBlank b = true := by
        have hhead := List.head?_dropWhile_not (fun x => !isBlank x) cs
        rw [hk] at hhead
        simpa using hhead
      rw [hk] at hsplit
      rw [← hsplit]
      have hlen := congrArg List.length hsplit
      rw [List.length_append, List.length_cons] at hlen
      have hle := length_dropBlank_le k
      exact more _ b k hw hb (ih (dropBlank k).length (by omega) _ rfl)

/-- **Texts are split at a blank.** -/
theorem chunks_append_cons (cs : List Char) (hx : isBlank x = true) (ds : List Char) :
    chunks (cs ++ x :: ds) = chunks cs ++ chunks ds := by
  rw [chunks, List.splitOnP_append_cons cs ds hx, List.filter_append]
  rfl

@[simp] theorem chunks_nil : chunks [] = [] := rfl

/-- A blank in front belongs to no chunk. -/
theorem chunks_cons (hx : isBlank x = true) (cs : List Char) : chunks (x :: cs) = chunks cs :=
  chunks_append_cons [] hx cs

/-- Characters that are not blank are one chunk, if there are any. -/
theorem chunks_of_not_blank (h : ∀ x ∈ cs, isBlank x = false) :
    chunks cs = if cs = [] then [] else [cs] := by
  rw [chunks, List.splitOnP_eq_singleton h]
  split
  next hcs => simp [hcs]
  next hcs => simp [hcs]

@[simp] theorem chunks_dropBlank (cs : List Char) : chunks (dropBlank cs) = chunks cs := by
  induction cs with
  | nil => rfl
  | cons x cs ih =>
    cases hx : isBlank x with
    | true => rw [dropBlank_cons_of_blank hx, ih, chunks_cons hx]
    | false => rw [dropBlank_cons_of_not_blank hx]

/-- Blanks behind a text belong to no chunk. -/
theorem chunks_append_blanks (cs : List Char) {blanks : List Char}
    (h : ∀ x ∈ blanks, isBlank x = true) : chunks (cs ++ blanks) = chunks cs := by
  cases blanks with
  | nil => rw [List.append_nil]
  | cons b blanks =>
    have hdrop : dropBlank blanks = [] :=
      List.dropWhile_eq_nil_iff.mpr fun x hx => h x (List.mem_cons_of_mem _ hx)
    rw [chunks_append_cons cs (h b List.mem_cons_self), ← chunks_dropBlank blanks, hdrop, chunks_nil,
      List.append_nil]

@[simp] theorem chunks_trim (cs : List Char) : chunks (trim cs) = chunks cs := by
  obtain ⟨blanks, hcs, hb, -⟩ := trimEnd_append (dropBlank cs)
  rw [trim, ← chunks_append_blanks _ hb, ← hcs, chunks_dropBlank]

/-- **The first chunk** stands behind the blanks in front of a text, and the others are the chunks of what
follows it. -/
theorem exists_of_chunks_eq_cons {w : List Char} {ws : List (List Char)} (h : chunks cs = w :: ws) :
    ∃ ds, dropBlank cs = w ++ ds ∧ chunks ds = ws ∧ ∀ x ∈ ds.head?, isBlank x = true := by
  induction cs using chunkInduction with
  | last v hv =>
    rw [chunks_of_not_blank hv] at h
    split at h
    next => cases h
    next =>
      obtain ⟨rfl, rfl⟩ := List.cons.inj h
      exact ⟨[], by rw [List.append_nil, dropBlank_eq_self fun x hx => hv x (List.mem_of_mem_head? hx)],
        chunks_nil, by simp⟩
  | more v b k hv hb ih =>
    rw [chunks_append_cons v hb, chunks_of_not_blank hv] at h
    split at h
    next hnil =>
      -- the text begins with a blank
      obtain ⟨ds, hds, hchunks, hhead⟩ := ih (by rw [chunks_dropBlank, ← h]; rfl)
      refine ⟨ds, ?_, hchunks, hhead⟩
      rw [hnil, List.nil_append, dropBlank_cons_of_blank hb, ← hds, dropBlank_dropBlank]
    next hne =>
      obtain ⟨rfl, hws⟩ := List.cons.inj h
      refine ⟨b :: k, dropBlank_eq_self fun x hx => ?_, by rw [chunks_cons hb, ← hws]; rfl, ?_⟩
      · obtain ⟨y, ys, rfl⟩ := List.exists_cons_of_ne_nil hne
        obtain rfl := Option.some.inj hx
        exact hv y (List.mem_cons_self ..)
      · intro x hx
        rwa [← Option.some.inj hx]

/-- Behind a text with chunks no blanks are dropped. -/
theorem dropBlank_append_of_chunks (h : chunks cs ≠ []) (ds : List Char) :
    dropBlank (cs ++ ds) = dropBlank cs ++ ds := by
  refine dropBlank_append_of_ne_nil (fun hnil => h ?_) ds
  rw [← chunks_dropBlank, hnil, chunks_nil]

/-- **Chunks in front of a text** stay what they are when both are trimmed. -/
theorem exists_trim_append (h : chunks cs ≠ []) (ds : List Char) :
    ∃ es, trim (cs ++ ds) = es ++ trimEnd ds ∧ chunks es = chunks cs := by
  rw [trim, dropBlank_append_of_chunks h, trimEnd_append_eq]
  split
  next hnil => exact ⟨trim cs, by rw [hnil, List.append_nil, trim], chunks_trim cs⟩
  next => exact ⟨dropBlank cs, rfl, chunks_dropBlank cs⟩

/-! ### Squeezing -/

/-- **A squeezed text** has a single space where there were blanks. -/
def squeeze : List Char → List Char
  | [] => []
  | x :: cs => if isBlank x then ' ' :: dropBlank (squeeze cs) else x :: squeeze cs

@[simp] theorem squeeze_nil : squeeze [] = [] := rfl

theorem squeeze_cons_of_not_blank (hx : isBlank x = false) (cs : List Char) :
    squeeze (x :: cs) = x :: squeeze cs := by
  simp [squeeze, hx]

/-- Squeezing does not depend on the blanks in front. -/
@[simp] theorem dropBlank_squeeze (cs : List Char) : dropBlank (squeeze cs) = squeeze (dropBlank cs) := by
  induction cs with
  | nil => rfl
  | cons x cs ih =>
    cases hx : isBlank x with
    | true => rw [squeeze, if_pos hx, dropBlank_cons_of_blank (by decide), dropBlank_dropBlank, ih,
        dropBlank_cons_of_blank hx]
    | false => rw [dropBlank_cons_of_not_blank hx, squeeze_cons_of_not_blank hx,
        dropBlank_cons_of_not_blank hx]

/-- Blanks in front become one space. -/
theorem squeeze_cons_of_blank (hx : isBlank x = true) (cs : List Char) :
    squeeze (x :: cs) = ' ' :: squeeze (dropBlank cs) := by
  rw [squeeze, if_pos hx, dropBlank_squeeze]

/-- Characters that are not blank stay as they are. -/
theorem squeeze_append {w : List Char} (h : ∀ x ∈ w, isBlank x = false) (cs : List Char) :
    squeeze (w ++ cs) = w ++ squeeze cs := by
  induction w with
  | nil => rfl
  | cons x w ih =>
    rw [List.cons_append, squeeze_cons_of_not_blank (h x List.mem_cons_self),
      ih fun y hy => h y (List.mem_cons_of_mem _ hy), List.cons_append]

/-- **Squeezing keeps the chunks.** -/
@[simp] theorem chunks_squeeze (cs : List Char) : chunks (squeeze cs) = chunks cs := by
  induction cs using chunkInduction with
  | last w hw => rw [← List.append_nil w, squeeze_append hw, squeeze_nil]
  | more w b k hw hb ih =>
    rw [squeeze_append hw, squeeze_cons_of_blank hb, chunks_append_cons w (by decide), ih,
      chunks_dropBlank, chunks_append_cons w hb]

/-- Nothing but the empty text is squeezed to nothing. -/
theorem squeeze_eq_nil_iff : squeeze cs = [] ↔ cs = [] := by
  cases cs with
  | nil => simp
  | cons x cs =>
    rw [squeeze]
    split <;> simp

/-- Behind a blank a trimmed text goes on, and what is left is trimmed. -/
theorem IsTrimmed.dropBlank_append_cons {w k : List Char} {b : Char} (hb : isBlank b = true)
    (h : IsTrimmed (w ++ b :: k)) : dropBlank k ≠ [] ∧ IsTrimmed (dropBlank k) := by
  -- if nothing were left, the text would end in a blank
  have hne : dropBlank k ≠ [] := by
    intro hnil
    have hk : ∀ x ∈ k, isBlank x = true := List.dropWhile_eq_nil_iff.mp hnil
    obtain ⟨x, hx⟩ : ∃ x, (b :: k).getLast? = some x := ⟨_, List.getLast?_eq_some_getLast (by simp)⟩
    have hblank : isBlank x = true := by
      rcases List.mem_cons.mp (List.mem_of_getLast? hx) with rfl | hmem
      · exact hb
      · exact hk x hmem
    rw [h.back x (by rw [List.getLast?_append, hx]; rfl)] at hblank
    cases hblank
  refine ⟨hne, fun x hx => isBlank_of_mem_head?_dropBlank hx, fun x hx => h.back x ?_⟩
  have hsplit : w ++ b :: k = (w ++ b :: k.takeWhile isBlank) ++ dropBlank k := by
    rw [List.append_assoc, List.cons_append]
    exact congrArg (w ++ b :: ·) List.takeWhile_append_dropWhile.symm
  rw [hsplit, List.getLast?_append, Option.mem_def.mp hx]
  rfl

/-- **A trimmed text that is squeezed** is its chunks with a space between them. -/
theorem IsTrimmed.squeeze_eq (h : IsTrimmed cs) : squeeze cs = List.intercalate [' '] (chunks cs) := by
  induction cs using chunkInduction with
  | last w hw =>
    have hself : squeeze w = w := by rw [← List.append_nil w, squeeze_append hw, squeeze_nil]
    rw [hself, chunks_of_not_blank hw]
    split
    next hnil => rw [hnil, List.intercalate_nil]
    next => rw [List.intercalate_singleton]
  | more w b k hw hb ih =>
    -- behind the blank there is one more chunk, or the text would end in a blank
    obtain ⟨hne, hk⟩ := h.dropBlank_append_cons hb
    have hw' : w ≠ [] := by
      rintro rfl
      rw [h.front b rfl] at hb
      cases hb
    rw [squeeze_append hw, squeeze_cons_of_blank hb, chunks_append_cons w hb, chunks_of_not_blank hw,
      if_neg hw', ih hk, chunks_dropBlank, List.singleton_append]
    cases hchunks : chunks k with
    | nil =>
      rw [← chunks_dropBlank] at hchunks
      rw [hchunks] at ih
      exact absurd (squeeze_eq_nil_iff.mp (ih hk)) hne
    | cons v vs => rw [List.intercalate_cons_cons, List.append_assoc, List.singleton_append]

/-- A text without chunks consists of blanks. -/
theorem forall_isBlank_of_chunks_eq_nil (h : chunks cs = []) : ∀ x ∈ cs, isBlank x = true := by
  have hsqueeze := (isTrimmed_trim cs).squeeze_eq
  rw [chunks_trim, h, List.intercalate_nil, squeeze_eq_nil_iff] at hsqueeze
  obtain ⟨front, back, hcs, hf, hb⟩ := exists_blanks_trim cs
  rw [hsqueeze, List.append_nil] at hcs
  rw [hcs]
  exact fun x hx => (List.mem_append.mp hx).elim (hf x) (hb x)

/-- **Texts with the same chunks** are the same when they are trimmed and squeezed. -/
theorem squeeze_trim_eq (h : chunks cs = chunks ds) : squeeze (trim cs) = squeeze (trim ds) := by
  rw [(isTrimmed_trim cs).squeeze_eq, (isTrimmed_trim ds).squeeze_eq, chunks_trim, chunks_trim, h]

/-! ### What a squeezed text shows -/

/-- A character as it is in a squeezed text. -/
def squeezed (x : Char) : Char := if isBlank x then ' ' else x

theorem head?_squeeze (cs : List Char) : (squeeze cs).head? = cs.head?.map squeezed := by
  cases cs with
  | nil => rfl
  | cons x cs =>
    rw [squeeze, List.head?_cons, Option.map_some, squeezed]
    split <;> rfl

/-- What a property says of a character shows in the squeezed text, if it does not tell blanks apart. -/
theorem any_eq_of_map_squeezed {p : Char → Bool} (hp : ∀ x, isBlank x = true → p x = p ' ')
    {a b : Option Char} (h : a.map squeezed = b.map squeezed) : a.any p = b.any p := by
  -- squeezing turns blanks into one of them and leaves all other characters
  have hself : ∀ o : Option Char, o.any p = (o.map squeezed).any p := by
    intro o
    cases o with
    | none => rfl
    | some x =>
      rw [Option.map_some, Option.any_some, Option.any_some, squeezed]
      split
      next hx => exact hp x hx
      next => rfl
  rw [hself a, hself b, h]

/-- A solid character shows in the squeezed text. -/
theorem map_squeezed_eq_some (hx : isBlank x = false) {a : Option Char} :
    a.map squeezed = some x ↔ a = some x := by
  cases a with
  | none => simp
  | some y =>
    rw [Option.map_some, Option.some.injEq, Option.some.injEq, squeezed]
    split
    next hy =>
      -- a blank shows as a space, and neither of them is the solid character
      refine iff_of_false ?_ ?_ <;> rintro rfl
      · exact absurd hx (by decide)
      · rw [hy] at hx
        cases hx
    next => exact Iff.rfl

theorem squeeze_dropBlank (h : squeeze cs = squeeze ds) :
    squeeze (dropBlank cs) = squeeze (dropBlank ds) := by
  rw [← dropBlank_squeeze, h, dropBlank_squeeze]

/-- **A solid character at the front** is at the front of every text that is the same when it is squeezed. -/
theorem exists_cons_of_squeeze (hx : isBlank x = false) (h : squeeze (x :: cs) = squeeze ds) :
    ∃ es, ds = x :: es ∧ squeeze cs = squeeze es := by
  -- squeezing keeps a first character that is not blank
  have hhead : ds.head? = some x := by
    rw [← map_squeezed_eq_some hx, ← head?_squeeze, ← h, squeeze_cons_of_not_blank hx]
    rfl
  obtain ⟨es, rfl⟩ : ∃ es, ds = x :: es := by
    cases ds with
    | nil => cases hhead
    | cons y es => exact ⟨es, by rw [Option.some.inj hhead]⟩
  rw [squeeze_cons_of_not_blank hx, squeeze_cons_of_not_blank hx] at h
  exact ⟨es, rfl, (List.cons.inj h).2⟩

/-- **Solid characters at the front** likewise. -/
theorem exists_append_of_squeeze {w : List Char} (hw : ∀ x ∈ w, isBlank x = false)
    (h : squeeze (w ++ cs) = squeeze ds) : ∃ es, ds = w ++ es ∧ squeeze cs = squeeze es := by
  induction w generalizing ds with
  | nil => exact ⟨ds, rfl, h⟩
  | cons x w ih =>
    obtain ⟨es, rfl, hes⟩ := exists_cons_of_squeeze (hw x List.mem_cons_self) h
    obtain ⟨fs, rfl, hfs⟩ := ih (fun y hy => hw y (List.mem_cons_of_mem _ hy)) hes
    exact ⟨fs, rfl, hfs⟩

/-- **A run of solid characters** is the same in texts that are the same when they are squeezed, and so is what
follows it. -/
theorem takeWhile_eq_of_squeeze {p : Char → Bool} (hp : ∀ x, isBlank x = true → p x = false)
    (h : squeeze cs = squeeze ds) :
    cs.takeWhile p = ds.takeWhile p ∧ squeeze (cs.dropWhile p) = squeeze (ds.dropWhile p) := by
  induction cs generalizing ds with
  | nil =>
    obtain rfl := squeeze_eq_nil_iff.mp h.symm
    exact ⟨rfl, rfl⟩
  | cons x cs ih =>
    cases hx : p x with
    | true =>
      have hsolid : isBlank x = false := by
        cases hb : isBlank x with
        | false => rfl
        | true => rw [hp x hb] at hx; cases hx
      obtain ⟨es, rfl, hes⟩ := exists_cons_of_squeeze hsolid h
      obtain ⟨htake, hdrop⟩ := ih hes
      simp only [List.takeWhile_cons, List.dropWhile_cons, hx, if_true, htake, hdrop, and_self]
    | false =>
      -- the run is empty on both sides
      have hany : ds.head?.any p = false := by
        have hhead := any_eq_of_map_squeezed (p := p) (a := (x :: cs).head?) (b := ds.head?)
          (fun y hy => by rw [hp y hy, hp ' ' (by decide)]) (by rw [← head?_squeeze, h, head?_squeeze])
        rw [← hhead]
        exact hx
      cases ds with
      | nil => simpa [hx] using h
      | cons y ds =>
        have hy : p y = false := hany
        simpa [hx, hy] using h

end CppIndex.Text
