import CppIndex.Proofs.Index.Log
import CppIndex.Proofs.Text.ByteOrder

/-!
# An index is its history

An index holds two stores with opposite policies: of several claims of an anchor the first one counts, of
several registrations of a full name the last. What both hold after a run can be read off its log alone.

* An anchor of a document is claimed if an object was described there with it and the document was not
  cleared **since** (`Index.Claimed`).
* A full name has the entry of the last object that was registered under it, unless the document of that
  object was cleared since (`Index.Kept`); then it has none, even if an earlier registration in another
  document was never taken back.

That the stores `Follow` the log is kept by every event (`Index.follows_after`), so it holds of every run
(`Index.follows_run`). The link between the two stores is that an object is registered exactly if its
anchor is free, which is what `Index.Agrees` says.
-/

namespace CppIndex

namespace Index

/-! ### What happened since -/

/-- **A condition that held since**: some event of a history satisfies `P` and all later ones `Q`. -/
def Since (P Q : Event → Prop) (history : List Event) : Prop :=
  ∃ before e later, history = before ++ e :: later ∧ P e ∧ ∀ x ∈ later, Q x

variable {P Q : Event → Prop} {history : List Event} {docname anchor name : String} {entry : Entry}

theorem not_since_nil : ¬ Since P Q [] := by
  rintro ⟨before, e, later, h, -⟩
  cases before <;> cases h

/-- **One more event** either satisfies the first condition itself or keeps up the second. -/
theorem since_concat {e : Event} :
    Since P Q (history ++ [e]) ↔ P e ∨ Q e ∧ Since P Q history := by
  constructor
  · rintro ⟨before, x, later, hsplit, hx, hlater⟩
    -- the new event is `x` itself if nothing came later, and the last of the later ones otherwise
    rcases List.eq_nil_or_concat later with rfl | ⟨init, last, rfl⟩
    · obtain ⟨-, hlast⟩ := List.append_inj' hsplit rfl
      exact Or.inl ((List.cons.inj hlast).1 ▸ hx)
    · rw [List.concat_eq_append] at hsplit hlater
      have hsplit' : history ++ [e] = (before ++ x :: init) ++ [last] := by
        rw [hsplit, List.append_assoc, List.cons_append]
      obtain ⟨hinit, hlast⟩ := List.append_inj' hsplit' rfl
      obtain rfl := (List.cons.inj hlast).1
      exact Or.inr ⟨hlater e (by simp), before, x, init, hinit, hx,
        fun y hy => hlater y (List.mem_append_left _ hy)⟩
  · rintro (he | ⟨he, before, x, later, rfl, hx, hlater⟩)
    · exact ⟨history, e, [], rfl, he, by simp⟩
    · refine ⟨before, x, later ++ [e], by simp, hx, fun y hy => ?_⟩
      rcases List.mem_append.mp hy with hy | hy
      · exact hlater y hy
      · exact List.mem_singleton.mp hy ▸ he

/-! ### What a history leaves -/

/-- Whether an event describes an object of a document with an anchor. -/
def Event.Describes (docname anchor : String) : Event → Prop
  | .described name d => name = docname ∧ d.anchor = anchor
  | .rejected _ | .cleared _ _ => False

/-- Whether an event registers a full name. -/
def Event.Registers (name : String) (e : Event) : Prop :=
  ∃ entry, e.record? = some ⟨name, entry⟩

/-- **An anchor is claimed** in a history: an object of the document was described with it, and the
document was not cleared since. -/
def Claimed (history : List Event) (docname anchor : String) : Prop :=
  Since (·.Describes docname anchor) (¬ ·.Clears docname) history

/-- **A full name is kept** with an entry: this is the entry of the last object that was registered
under it, and its document was not cleared since. -/
def Kept (history : List Event) (name : String) (entry : Entry) : Prop :=
  Since (·.record? = some ⟨name, entry⟩) (fun e => ¬ e.Registers name ∧ ¬ e.Clears entry.docname)
    history

theorem claimed_concat {e : Event} : Claimed (history ++ [e]) docname anchor ↔
    e.Describes docname anchor ∨ ¬ e.Clears docname ∧ Claimed history docname anchor :=
  since_concat

theorem kept_concat {e : Event} : Kept (history ++ [e]) name entry ↔
    e.record? = some ⟨name, entry⟩ ∨
      (¬ e.Registers name ∧ ¬ e.Clears entry.docname) ∧ Kept history name entry :=
  since_concat

/-! ### The stores follow the history -/

/-- **An index follows a history**: its stores hold what the history leaves. -/
structure Follows (ix : Index) (history : List Event) : Prop where
  /-- The rows are sorted. -/
  sorted : Record.Sorted ix.objects
  /-- The claimed anchors are those of the history. -/
  contains_iff : ∀ docname anchor,
    ix.anchors.contains docname anchor = true ↔ Claimed history docname anchor
  /-- The registered names are those of the history. -/
  get?_iff : ∀ name entry, ix.get? name = some entry ↔ Kept history name entry

variable {ix : Index}

/-- An event that neither claims nor clears nor registers anything changes nothing. -/
theorem Follows.idle {e : Event} (h : ix.Follows history)
    (hclears : ∀ docname, ¬ e.Clears docname) (hrecord : e.record? = none)
    (hdescribes : ∀ docname anchor, e.Describes docname anchor →
      ix.anchors.contains docname anchor = true) : ix.Follows (history ++ [e]) := by
  refine ⟨h.sorted, fun docname anchor => ?_, fun name entry => ?_⟩
  · -- an anchor that the event describes was claimed before
    rw [claimed_concat, h.contains_iff]
    constructor
    · exact fun hc => Or.inr ⟨hclears docname, hc⟩
    · rintro (hd | ⟨-, hc⟩)
      · exact (h.contains_iff docname anchor).mp (hdescribes docname anchor hd)
      · exact hc
  · have hregisters : ¬ e.Registers name := fun ⟨entry, he⟩ => by
      rw [hrecord] at he
      cases he
    rw [kept_concat, h.get?_iff, hrecord]
    simp [hregisters, hclears]

/-- **A registration** claims an anchor that was free and replaces what the name had. -/
theorem Follows.register {d : Described} (h : ix.Follows history) (hd : d.registered = true) :
    (ix.add docname d).Follows (history ++ [.described docname d]) := by
  have hrecord : (Event.described docname d).record? = some (d.row docname) := if_pos hd
  refine ⟨sorted_add h.sorted docname d, fun doc' anchor' => ?_, fun name entry => ?_⟩
  · -- the anchors: those of before and the one that is described
    rw [claimed_concat, contains_add docname hd, Bool.or_eq_true, decide_eq_true_iff, h.contains_iff]
    simp [Event.Describes, Event.Clears, eq_comm]
  · rw [kept_concat, get?_add docname hd, hrecord]
    by_cases hname : d.fullname = name
    · -- the event itself is the last registration of the name
      obtain rfl := hname
      have hregisters : (Event.described docname d).Registers d.fullname := ⟨_, hrecord⟩
      rw [if_pos rfl]
      simp [hregisters, Described.row]
    · -- any other name has the registration that it had
      have hregisters : ¬ (Event.described docname d).Registers name := fun ⟨entry, he⟩ => by
        rw [hrecord] at he
        exact hname (congrArg Record.fullname (Option.some.inj he))
      rw [if_neg hname, h.get?_iff]
      simp [hregisters, hname, Event.Clears, Described.row]

/-- **Clearing a document** takes back its claims and its registrations. -/
theorem Follows.clear {removed : Nat} (h : ix.Follows history) :
    (ix.clear docname).Follows (history ++ [.cleared docname removed]) := by
  refine ⟨Registry.sorted_clear h.sorted docname, fun doc' anchor' => ?_, fun name entry => ?_⟩
  · have hcontains : (ix.clear docname).anchors.contains doc' anchor' =
        (decide (doc' ≠ docname) && ix.anchors.contains doc' anchor') :=
      Anchors.contains_clear _ _ _ _
    -- clearing describes nothing, so only the old claims of other documents are left
    rw [claimed_concat, hcontains, Bool.and_eq_true, decide_eq_true_iff, h.contains_iff]
    simp [Event.Describes, Event.Clears, eq_comm]
  · have hregisters : ¬ (Event.cleared docname removed).Registers name := fun ⟨_, he⟩ => by cases he
    have hget : (ix.clear docname).get? name = (ix.get? name).filter (·.docname ≠ docname) :=
      Registry.get?_clear h.sorted docname name
    have hclears : (Event.cleared docname removed).Clears entry.docname ↔ entry.docname = docname :=
      eq_comm
    have hrecord : (Event.cleared docname removed).record? = none := rfl
    -- the name keeps its entry unless that was one of the document; no older one comes back
    rw [kept_concat, hget, Option.filter_eq_some_iff, h.get?_iff, hclears, hrecord, and_comm]
    simp [hregisters]

/-- **Every event is followed.** -/
theorem follows_after {e : Event} (ha : ix.Agrees e) (h : ix.Follows history) :
    (ix.after e).Follows (history ++ [e]) := by
  cases e with
  | rejected error =>
    exact h.idle (fun _ hc => hc) rfl (fun _ _ hd => hd.elim)
  | cleared docname removed => exact h.clear
  | described docname d =>
    cases hd : d.registered with
    | true => exact h.register hd
    | false =>
      -- the anchor was claimed before, so that it is described again tells nothing new
      have hadd : ix.after (.described docname d) = ix := add_eq_self docname hd
      rw [hadd]
      refine h.idle (fun _ hc => hc) (if_neg (by simp [hd])) ?_
      rintro doc' anchor' ⟨rfl, rfl⟩
      exact ha.taken hd

/-- The index without objects follows the empty history. -/
theorem follows_empty (config : Config) : (empty config).Follows [] := by
  refine ⟨List.Pairwise.nil, fun docname anchor => ?_, fun name entry => ?_⟩
  · exact iff_of_false (by simp [empty, Anchors.contains]) not_since_nil
  · exact iff_of_false (fun h => by cases h) not_since_nil

/-- **Every run follows its log.** -/
theorem follows_run (config : Config) (actions : List Action) :
    ((empty config).run actions).Follows ((empty config).log actions) := by
  have h := run_log_of_after (P := Follows) (fun _ _ _ ha h => follows_after ha h)
    (follows_empty config) actions
  rwa [List.nil_append] at h

/-! ### What a run answers -/

/-- An object is registered exactly if its anchor is not claimed in the history. -/
theorem Follows.registered_iff {ctx : Context} {kind : ObjectKind} {text : String} {d : Described}
    {next : Index} (h : ix.Follows history) (hd : ix.describe ctx kind text = .ok (d, next)) :
    d.registered = true ↔ ¬ Claimed history ctx.docname d.anchor := by
  obtain ⟨decl, -, rfl, -⟩ := describe_eq_ok_iff.mp hd
  -- the flag is the answer of the anchor store before the claim is made
  have hfree : (ix.examine ctx kind decl).registered =
      !ix.anchors.contains ctx.docname (ix.examine ctx kind decl).anchor := rfl
  rw [hfree, ← h.contains_iff, Bool.not_eq_true, Bool.not_eq_true']

/-- The rows hold what the names are looked up as. -/
theorem Follows.mem_objects_iff (h : ix.Follows history) {r : Record} :
    r ∈ ix.objects ↔ ix.get? r.fullname = some r.entry :=
  h.sorted.find?_eq_some_iff.symm

/-- The names of the rows increase as lists of bytes. -/
theorem Follows.pairwise_bytes (h : ix.Follows history) :
    (ix.objects.map (·.fullname)).Pairwise fun a b => Text.bytes a < Text.bytes b := by
  rw [List.pairwise_map]
  exact h.sorted.imp fun hlt => Text.bytes_lt_bytes_iff.mpr hlt

/-- **A text that is rejected leaves no trace** but its own event, wherever in a run it stands. -/
theorem run_log_of_rejected {ctx : Context} {kind : ObjectKind} {text : String} {error : ParseError}
    (hparse : Declaration.parse kind text = .error error) (ix : Index) (first second : List Action) :
    ix.run (first ++ .describe ctx kind text :: second) = ix.run (first ++ second) ∧
      ix.log (first ++ .describe ctx kind text :: second) =
        ix.log first ++ .rejected error :: (ix.run first).log second := by
  have hstep : (ix.run first).step (.describe ctx kind text) = ix.run first := by
    rw [step_eq_after, event_of_error hparse, after]
  rw [run_append, run_append, run_cons, log_append, log_cons, hstep, event_of_error hparse]
  exact ⟨rfl, rfl⟩

/-- **The answers of an index are read off the log of its run.**

* An object that is described is registered exactly if no object was described with its anchor in its
  document since the document was cleared.
* A name has the entry of its last registration, unless the document of that entry was cleared since.
* The rows are these names with their entries, in strictly increasing order of their bytes, and the size
  is their number.
* A text that is rejected changes none of this. -/
theorem answers_of_log (config : Config) (actions : List Action) :
    (∀ ctx kind text d next,
      ((empty config).run actions).describe ctx kind text = .ok (d, next) →
        (d.registered = true ↔ ¬ Claimed ((empty config).log actions) ctx.docname d.anchor)) ∧
    (∀ name entry, ((empty config).run actions).get? name = some entry ↔
      Kept ((empty config).log actions) name entry) ∧
    ((∀ r, r ∈ ((empty config).run actions).objects ↔
        ((empty config).run actions).get? r.fullname = some r.entry) ∧
      (((empty config).run actions).objects.map (·.fullname)).Pairwise
        (fun a b => Text.bytes a < Text.bytes b) ∧
      ((empty config).run actions).size = ((empty config).run actions).objects.length) ∧
    (∀ ctx kind text error, Declaration.parse kind text = .error error → ∀ first second,
      actions = first ++ .describe ctx kind text :: second →
        (empty config).run actions = (empty config).run (first ++ second) ∧
        (empty config).log actions = (empty config).log first ++
          .rejected error :: ((empty config).run first).log second) := by
  -- the first three parts hold of every index that follows its log; the last one is about two runs
  have h := follows_run config actions
  refine ⟨fun ctx kind text d next hd => h.registered_iff hd, h.get?_iff,
    ⟨fun r => h.mem_objects_iff, h.pairwise_bytes, rfl⟩, ?_⟩
  rintro ctx kind text error hparse first second rfl
  exact run_log_of_rejected hparse (empty config) first second

/-- A class is described in two documents and the second one is cleared. Its anchor in the first is still
claimed, so it is not registered there again, and its name has no entry though the first registration
was never taken back. -/
theorem answers_of_log_overwritten :
    ∃ actions : List Action,
      actions = [.describe ⟨"a", none⟩ .classType "T", .describe ⟨"b", none⟩ .classType "T",
        .describe ⟨"b", none⟩ .classType "<", .clear "b"] ∧
      (∃ d next, ((empty {}).run actions).describe ⟨"a", none⟩ .classType "T" = .ok (d, next) ∧
        Claimed ((empty {}).log actions) "a" d.anchor) ∧
      (∀ entry, ¬ Kept ((empty {}).log actions) "T" entry) := by
  obtain ⟨actions, hactions⟩ : ∃ actions : List Action,
      actions = [.describe ⟨"a", none⟩ .classType "T", .describe ⟨"b", none⟩ .classType "T",
        .describe ⟨"b", none⟩ .classType "<", .clear "b"] := ⟨_, rfl⟩
  refine ⟨actions, hactions, ?_, fun entry hkept => ?_⟩
  · -- the anchor of the first class is still claimed, so a third description is not registered
    have hparse : Declaration.parse .classType "T" =
        .ok ⟨.name "T", .pub, false, .classType⟩ := by decide +kernel
    have hd := (@describe_eq_ok_iff ((empty {}).run actions) ⟨"a", none⟩ _ _ _ _).mpr
      ⟨_, hparse, rfl, rfl⟩
    have htaken : (((empty {}).run actions).examine ⟨"a", none⟩ .classType
        ⟨.name "T", .pub, false, .classType⟩).registered = false := by
      rw [hactions]
      decide +kernel
    refine ⟨_, _, hd, by_contra fun hclaimed => ?_⟩
    have hfree := ((answers_of_log {} actions).1 _ _ _ _ _ hd).mpr hclaimed
    rw [htaken] at hfree
    cases hfree
  · -- the name went to the second document, and was cleared with it
    have hnone : ((empty {}).run actions).get? "T" = none := by
      rw [hactions]
      decide +kernel
    have hget := ((answers_of_log {} actions).2.1 "T" entry).mpr hkept
    rw [hnone] at hget
    cases hget

end Index

end CppIndex
