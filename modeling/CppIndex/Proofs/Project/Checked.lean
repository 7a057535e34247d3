import CppIndex.Proofs.Project.Accounting

/-!
# Manifests from texts

A text that reads as a manifest, however configuration texts are read, is loaded exactly if the manifest is
valid; otherwise the first fault is told (`Manifest.parse_exact`). So a build of a loaded manifest never comes
to an entry of an unknown kind or to a reference in an unknown role: it warns of neither, and no reference is
left out of its report.
-/

namespace CppIndex

namespace Manifest

variable {m : Manifest} {e : ManifestError}

/-! ### What the check answers -/

/-- **The check lets a manifest pass** exactly if it is valid. -/
theorem check_eq_ok_iff : m.check = .ok m ↔ m.Valid := by
  rw [← fault?_eq_none_iff, check]
  cases m.fault? <;> simp

/-- **The check tells the first fault.** -/
theorem check_eq_error_iff : m.check = .error e ↔ m.HasFirstFault e := by
  rw [← fault?_eq_some_iff, check]
  cases m.fault? <;> simp

/-- What passes the check is the manifest itself. -/
theorem check_eq_ok_or_error (m : Manifest) : m.check = .ok m ∨ ∃ e, m.check = .error e := by
  rw [check]
  cases m.fault? with
  | none => exact Or.inl rfl
  | some e => exact Or.inr ⟨e, rfl⟩

/-- Fields that read as a manifest are loaded as it is checked. -/
theorem load_eq {fields : Option Toml.Fields} (h : fields.bind ofFields? = some m) :
    load fields = m.check.mapError .faulty := by
  rw [load, h]
  cases hcheck : m.check <;> simp only [hcheck] <;> rfl

/-! ### What a checked manifest is never warned of -/

/-- **No warning about words.** A build of a manifest without faults warns of no unknown kind and no unknown
role. -/
theorem problem_of_mem_warnings (hvalid : m.fault? = none) (ix : Index) {w : Warning}
    (h : w ∈ (m.build ix).1.warnings) :
    (∀ kind, w.problem ≠ .unknownKind kind) ∧ ∀ role, w.problem ≠ .unknownRole role := by
  -- a warning is about a rejected entry or about a reference that could not be looked up
  rw [warnings_build hvalid] at h
  rcases List.mem_append.mp h with h | h
  · obtain ⟨p, -, hw⟩ := List.mem_filterMap.mp h
    obtain ⟨e, -, rfl⟩ := Option.map_eq_some_iff.mp hw
    exact ⟨nofun, nofun⟩
  · obtain ⟨r, -, hw⟩ := List.mem_filterMap.mp h
    rw [ReferenceReport.warning?] at hw
    cases hresolution : r.resolution with
    | resolved found => simp [hresolution] at hw
    | unresolved => simp [hresolution] at hw
    | failed e =>
      obtain rfl : ⟨r.docname, .reference e⟩ = w := by simpa [hresolution] using hw
      exact ⟨nofun, nofun⟩

/-- **The check of a text is exact.** Let a text read as a manifest, with any reader of configuration texts.
The manifest is loaded exactly if it is valid: its documents have different names, every entry at every depth
is a directive with nothing inside or an object of one of the four kinds, and every reference has one of the
four roles. Otherwise the first fault is told, in the order of the documents, and in a document of its name,
its entries, each in front of what stands inside it, and its references. A build of the loaded manifest warns
of no unknown kind and no unknown role, and answers every reference. -/
theorem parse_exact {read : TextReader} {text : String} (hread : (read text).bind ofFields? = some m) :
    (parseWith read text = .ok m ↔ m.Valid) ∧
      (∀ fault, parseWith read text = .error (.faulty fault) ↔ m.HasFirstFault fault) ∧
      (parseWith read text = .ok m ∨ ∃ fault, parseWith read text = .error (.faulty fault)) ∧
      (parseWith read text = .ok m → ∀ ix,
        (∀ w ∈ (m.build ix).1.warnings,
          (∀ kind, w.problem ≠ .unknownKind kind) ∧ ∀ role, w.problem ≠ .unknownRole role) ∧
        List.Forall₂ (ReferenceReport.Answers (m.build ix).2) m.references
          (m.build ix).1.references) := by
  have hparse : parseWith read text = m.check.mapError .faulty := load_eq hread
  -- Loading adds nothing to the check but the name of its error.
  have hok : parseWith read text = .ok m ↔ m.Valid := by
    rw [hparse, ← check_eq_ok_iff]
    cases m.check <;> simp [Except.mapError]
  refine ⟨hok, fun fault => ?_, ?_, fun h ix => ?_⟩
  · rw [hparse, ← check_eq_error_iff]
    cases m.check <;> simp [Except.mapError]
  · rw [hparse]
    rcases m.check_eq_ok_or_error with h | ⟨e, h⟩
    · exact Or.inl (by rw [h]; rfl)
    · exact Or.inr ⟨e, by rw [h]; rfl⟩
  · have hvalid := fault?_eq_none_iff.mpr (hok.mp h)
    exact ⟨fun w hw => problem_of_mem_warnings hvalid ix hw, forall₂_build_references hvalid ix⟩

/-- In the first text a directive has an entry of an unknown kind inside, a reference has an unknown role,
and the second document has the name of the first; what is told is that something stands inside the
directive. The second text is loaded, and its build warns of an object and of a reference, but of no word.
-/
theorem parse_exact_directive :
    (∃ text m,
      text = "[[document]]\nname='a'\n[[document.object]]\nkind='namespace'\nsignature=''\n" ++
        "[[document.object.children]]\nkind='enum'\nsignature=''\n" ++
        "[[document.reference]]\nrole='enum'\ntarget=''\n[[document]]\nname='a'" ∧
      (Toml.parse text).bind ofFields? = some m ∧ ¬ m.Valid ∧
      parse text = .error (.faulty (.namespaceChildren "a"))) ∧
    ∃ text m,
      text = "[[document]]\nname='a'\n[[document.object]]\nkind='class'\nsignature=''\n" ++
        "[[document.reference]]\nrole='type'\ntarget=''" ∧
      (Toml.parse text).bind ofFields? = some m ∧ m.Valid ∧ parse text = .ok m ∧
      (m.build (.empty {})).1.warnings.length = 2 ∧
      ∀ w ∈ (m.build (.empty {})).1.warnings,
        (∀ kind, w.problem ≠ .unknownKind kind) ∧ ∀ role, w.problem ≠ .unknownRole role := by
  constructor
  · obtain ⟨text, htext⟩ : ∃ text, text =
        "[[document]]\nname='a'\n[[document.object]]\nkind='namespace'\nsignature=''\n" ++
          "[[document.object.children]]\nkind='enum'\nsignature=''\n" ++
          "[[document.reference]]\nrole='enum'\ntarget=''\n[[document]]\nname='a'" := ⟨_, rfl⟩
    -- what the text reads as is not written out; its first fault is enough
    have hvalue : ((Toml.parse text).bind ofFields?).map fault? =
        some (some (.namespaceChildren "a")) := by
      rw [htext]
      decide +kernel
    obtain ⟨m, hm, hfault⟩ := Option.map_eq_some_iff.mp hvalue
    obtain ⟨hok, herror, -, -⟩ := parse_exact hm
    have hparse := (herror _).mpr (fault?_eq_some_iff.mp hfault)
    refine ⟨text, m, htext, hm, fun hvalid => ?_, hparse⟩
    rw [hok.mpr hvalid] at hparse
    cases hparse
  · obtain ⟨text, htext⟩ : ∃ text, text =
        "[[document]]\nname='a'\n[[document.object]]\nkind='class'\nsignature=''\n" ++
          "[[document.reference]]\nrole='type'\ntarget=''" := ⟨_, rfl⟩
    have hvalue : ((Toml.parse text).bind ofFields?).map
        (fun m => (m.fault?, (m.build (.empty {})).1.warnings.length)) = some (none, 2) := by
      rw [htext]
      decide +kernel
    obtain ⟨m, hm, hpair⟩ := Option.map_eq_some_iff.mp hvalue
    obtain ⟨hfault, hlength⟩ := Prod.mk.inj hpair
    obtain ⟨hok, -, -, hbuild⟩ := parse_exact hm
    have hvalid := fault?_eq_none_iff.mp hfault
    have hparse := hok.mpr hvalid
    exact ⟨text, m, htext, hm, hvalid, hparse, hlength, (hbuild hparse _).1⟩

end Manifest

end CppIndex
