import CppIndex.Proofs.Index.Ownership

/-!
# No registration is lost

A registration either adds a row or replaces one, and a row that is replaced is recorded as a collision
under the policy `warn`, unless the new entry is the same. It never is: the entry that is replaced has a
claimed anchor, and an object is registered under a free one. So rows, collisions and removed rows
together are as many as registrations (`Index.balanced_run`).

Under the policy `overwrite` nothing is recorded, and under either policy every collision is between two
different entries.
-/

namespace CppIndex

namespace Index

variable {ix : Index} {docname : String} {d : Described} {e : Event} {history : List Event}

/-! ### Counting -/

/-- Whether an event registers an object. -/
def Event.isRegistration (e : Event) : Bool := e.record?.isSome

/-- The number of rows that an event removes. -/
def Event.removals : Event → Nat
  | .cleared _ removed => removed
  | .described _ _ | .rejected _ => 0

/-- The number of registrations in a history. -/
def registrations (history : List Event) : Nat := history.countP Event.isRegistration

/-- The number of rows removed in a history. -/
def removals : List Event → Nat
  | [] => 0
  | e :: history => e.removals + removals history

theorem registrations_append (first second : List Event) :
    registrations (first ++ second) = registrations first + registrations second :=
  List.countP_append

theorem removals_append (first second : List Event) :
    removals (first ++ second) = removals first + removals second := by
  induction first with
  | nil => rw [List.nil_append, removals, Nat.zero_add]
  | cons e first ih => rw [List.cons_append, removals, ih, removals, Nat.add_assoc]

/-- Describing removes nothing. -/
theorem removals_log_eq_zero {actions : List Action}
    (h : ∀ a ∈ actions, ∃ ctx kind text, a = .describe ctx kind text) :
    removals (ix.log actions) = 0 := by
  induction actions generalizing ix with
  | nil => rfl
  | cons a actions ih =>
    obtain ⟨ctx, kind, text, rfl⟩ := h a (List.mem_cons_self ..)
    have hrest := @ih (ix.step (.describe ctx kind text)) fun a ha => h a (List.mem_cons_of_mem _ ha)
    -- a described text is registered or rejected; only clearing removes something
    have hevent : (ix.event (.describe ctx kind text)).removals = 0 := by
      rw [event]
      cases ix.describe ctx kind text <;> rfl
    rw [log_cons, removals, hevent, Nat.zero_add]
    exact hrest

/-! ### Collisions -/

/-- An event does not change the policy. -/
theorem policy_after (e : Event) : (ix.after e).registry.policy = ix.registry.policy := by
  cases e with
  | rejected => rfl
  | cleared => rfl
  | described docname d =>
    rw [after, add]
    split <;> rfl

/-- The collisions after an event: those before it, and under the policy `warn` that of a registration
which replaces a different entry. -/
theorem mem_collisions_after {c : Collision} (h : c ∈ (ix.after e).collisions) :
    c ∈ ix.collisions ∨ ix.registry.policy = .warn ∧ c.previous ≠ c.replacement := by
  cases e with
  | rejected => exact Or.inl h
  | cleared => exact Or.inl h
  | described docname d =>
    cases hd : d.registered with
    | false =>
      rw [after, add_eq_self docname hd] at h
      exact Or.inl h
    | true =>
      rw [after, collisions_add docname hd] at h
      refine (List.mem_append.mp h).imp_right fun hc => ?_
      -- what is recorded passed both tests: the policy, and that the entries differ
      have hcollision := Option.mem_toList.mp hc
      unfold Registry.collision? at hcollision
      split at hcollision
      next previous hpolicy _ =>
        split at hcollision
        next => cases hcollision
        next hne =>
          obtain rfl := Option.some.inj hcollision
          exact ⟨hpolicy, hne⟩
      next => cases hcollision

/-- **Every collision is between two different entries.** -/
theorem previous_ne_of_run (h : ∀ c ∈ ix.collisions, c.previous ≠ c.replacement)
    (actions : List Action) : ∀ c ∈ (ix.run actions).collisions, c.previous ≠ c.replacement :=
  run_of_after (P := fun ix => ∀ c ∈ ix.collisions, c.previous ≠ c.replacement)
    (fun _ _ _ h c hc => (mem_collisions_after hc).elim (h c) And.right) h actions

/-- **Under the policy `overwrite` no collision is recorded.** -/
theorem collisions_run_of_overwrite (hpolicy : ix.registry.policy = .overwrite)
    (h : ix.collisions = []) (actions : List Action) : (ix.run actions).collisions = [] := by
  -- the policy is carried along, because it is what rules a new collision out
  have hrun := run_of_after
    (P := fun ix => ix.registry.policy = .overwrite ∧ ∀ c, c ∉ ix.collisions)
    (fun ix e _ hix => ⟨(policy_after e).trans hix.1, fun c hc => ?_⟩)
    ⟨hpolicy, fun c hc => by rw [h] at hc; cases hc⟩ actions
  · exact List.eq_nil_iff_forall_not_mem.mpr hrun.2
  · rcases mem_collisions_after hc with hc | ⟨hwarn, -⟩
    · exact hix.2 c hc
    · rw [hix.1] at hwarn
      cases hwarn

/-! ### The balance -/

/-- **A registration under the policy `warn`** adds a row or a collision. -/
theorem balance_add (h : ix.Owned) (hpolicy : ix.registry.policy = .warn)
    (ha : ix.Agrees (.described docname d)) (hd : d.registered = true) :
    (ix.add docname d).size + (ix.add docname d).collisions.length =
      ix.size + ix.collisions.length + 1 := by
  have hsize : (ix.add docname d).size =
      ix.size + if (ix.get? d.fullname).isSome then 0 else 1 := by
    change (ix.add docname d).objects.length = _
    rw [objects_add docname hd]
    exact h.sorted.length_insertInto _
  have hcollision : ix.registry.collision? (d.row docname) =
      (ix.get? d.fullname).map fun previous => ⟨d.fullname, previous, (d.row docname).entry⟩ := by
    cases hget : ix.get? d.fullname with
    | none =>
      have hget' : ix.registry.get? (d.row docname).fullname = none := hget
      simp only [Registry.collision?, hpolicy, hget', Option.map_none]
    | some previous =>
      have hget' : ix.registry.get? (d.row docname).fullname = some previous := hget
      -- the anchor of what is replaced is claimed, that of the new object was free
      have hne : previous ≠ (d.row docname).entry := by
        rintro rfl
        have hclaimed := h.claimed _ (Record.mem_of_find? hget)
        exact absurd (hclaimed.symm.trans (ha.free hd)) (by decide)
      simp only [Registry.collision?, hpolicy, hget', if_neg hne, Option.map_some]
      rfl
  -- a new name makes the table longer, and a name that is replaced the list of collisions
  rw [hsize, collisions_add docname hd, hcollision, List.length_append]
  cases ix.get? d.fullname with
  | none =>
    simp only [Option.isSome_none, Option.map_none, Option.toList_none, List.length_nil,
      Bool.false_eq_true, if_false]
    omega
  | some previous => rfl

/-- **Every event keeps the balance.** -/
theorem balance_after (h : ix.Owned) (hpolicy : ix.registry.policy = .warn) (ha : ix.Agrees e) :
    (ix.after e).size + (ix.after e).collisions.length + removals [e] =
      ix.size + ix.collisions.length + registrations [e] := by
  cases e with
  | rejected => rfl
  | cleared docname removed =>
    have hremoved : removed = ix.size - (ix.clear docname).size := ha
    -- the subtraction loses nothing, because clearing adds no rows
    have hle : (ix.clear docname).size ≤ ix.size := List.length_filter_le _ _
    change (ix.clear docname).size + ix.collisions.length + removed = ix.size + ix.collisions.length
    omega
  | described docname d =>
    cases hd : d.registered with
    | true =>
      have hone : registrations [.described docname d] = 1 := by
        simp [registrations, Event.isRegistration, Event.record?, hd]
      rw [hone]
      exact balance_add h hpolicy ha hd
    | false =>
      have hnone : registrations [.described docname d] = 0 := by
        simp [registrations, Event.isRegistration, Event.record?, hd]
      rw [hnone, after, add_eq_self docname hd]
      rfl

/-- **An index is balanced** with a history if its rows and collisions, together with the rows that were
removed, are as many as the registrations. -/
structure Balanced (ix : Index) (history : List Event) : Prop where
  /-- Every anchor has one owner. -/
  owned : ix.Owned
  /-- Replacements are recorded. -/
  policy : ix.registry.policy = .warn
  /-- No registration is lost. -/
  balance : registrations history = ix.size + ix.collisions.length + removals history

theorem balanced_after (ha : ix.Agrees e) (h : ix.Balanced history) :
    (ix.after e).Balanced (history ++ [e]) := by
  refine ⟨owned_after ha h.owned, (policy_after e).trans h.policy, ?_⟩
  have hstep := balance_after h.owned h.policy ha
  have hbalance := h.balance
  rw [registrations_append, removals_append]
  omega

theorem balanced_empty {config : Config} (hpolicy : config.policy = .warn) :
    (empty config).Balanced [] :=
  ⟨owned_empty config, hpolicy, rfl⟩

/-- **No registration is lost** in a run under the policy `warn`. -/
theorem balanced_run {config : Config} (hpolicy : config.policy = .warn) (actions : List Action) :
    ((empty config).run actions).Balanced ((empty config).log actions) := by
  have h := run_log_of_after (P := Balanced) (fun _ _ _ ha h => balanced_after ha h)
    (balanced_empty hpolicy) actions
  rwa [List.nil_append] at h

end Index

end CppIndex
