import Docket.Files
import Mathlib.Data.List.Basic

/-!
# Files that are written again

To write a file that is there changes its content and nothing else. Every
name on the way to another place still leads to the same kind of thing, so all
paths lead where they led before, and this one leads to the new content.

* `Alike.walk` — files of one shape are walked in the same way.
* `exists_write_of_read` — a file that can be read can be written, and is then
  read as it was written.
-/

namespace Docket.Files

variable {t u : Files} {place : Place} {names : List String} {path : String}
  {bytes old : List UInt8} {f : File}

/-- The same places are directories, and the same places are files. -/
structure Alike (t u : Files) : Prop where
  hasDirectory : ∀ place, u.hasDirectory place = t.hasDirectory place
  isFile : ∀ place, (u.file? place).isSome = (t.file? place).isSome

theorem Alike.enter (h : Alike t u) (here : Place) (name : String) :
    u.enter here name = t.enter here name := by
  simp only [Files.enter, h.hasDirectory, h.isFile]

/-- Files of one shape are walked in the same way. -/
theorem Alike.walk (h : Alike t u) (names : List String) : u.walk names = t.walk names := by
  have henter : u.enter = t.enter := by
    funext here name
    exact h.enter here name
  rw [Files.walk, Files.walk, henter]

theorem place_of_file? (h : t.file? place = some f) : f.place = place := by
  have hfound := List.find?_some h
  simpa using hfound

@[simp] theorem file?_put_self (t : Files) (place : Place) (bytes : List UInt8) :
    (t.put place bytes).file? place = some ⟨place, bytes⟩ := by
  have hnone : (t.files.filter fun f => f.place != place).find? (fun f => f.place == place)
      = Option.none := by
    rw [List.find?_eq_none]
    intro f hf
    simpa using (List.mem_filter.mp hf).2
  rw [file?, put, List.find?_append, hnone]
  simp

/-- All other files stay where they are. -/
theorem file?_put_of_ne {other : Place} (h : other ≠ place) :
    (t.put place bytes).file? other = t.file? other := by
  have hkept : (t.files.filter fun f => f.place != place).find? (fun f => f.place == other)
      = t.files.find? fun f => f.place == other := by
    rw [List.find?_filter]
    congr 1
    funext f
    by_cases hf : f.place = other
    · simp [hf, h]
    · simp [hf]
  have hnew : (place == other) = false := by simpa using h.symm
  simp [file?, put, List.find?_append, hkept, hnew]

/-- A file that is there already stands above and below the same places when it
has been written again. -/
theorem any_put (hthere : (t.file? place).isSome = true) (bytes : List UInt8) (p : Place → Bool) :
    ((t.put place bytes).files.any fun f => p f.place) = t.files.any fun f => p f.place := by
  obtain ⟨f, hf⟩ := Option.isSome_iff_exists.mp hthere
  have hmem : f ∈ t.files := List.mem_of_find?_eq_some hf
  have hplace : f.place = place := place_of_file? hf
  rw [Bool.eq_iff_iff, List.any_eq_true, List.any_eq_true]
  constructor
  · rintro ⟨g, hg, hp⟩
    rcases List.mem_append.mp hg with hg | hg
    · exact ⟨g, (List.mem_filter.mp hg).1, hp⟩
    · rw [List.mem_singleton.mp hg] at hp
      exact ⟨f, hmem, by rw [hplace]; exact hp⟩
  · rintro ⟨g, hg, hp⟩
    by_cases hsame : g.place = place
    · rw [hsame] at hp
      exact ⟨⟨place, bytes⟩, List.mem_append_right _ List.mem_cons_self, hp⟩
    · refine ⟨g, List.mem_append_left _ (List.mem_filter.mpr ⟨hg, ?_⟩), hp⟩
      simpa using hsame

/-- To write a file that is there changes no shape. -/
theorem alike_put (hthere : (t.file? place).isSome = true) : Alike t (t.put place bytes) where
  hasDirectory other := by
    have hany := any_put hthere bytes
      fun p => other.length < p.length && other.isPrefixOf p
    unfold hasDirectory
    rw [hany]
    rfl
  isFile other := by
    by_cases hother : other = place
    · rw [hother, file?_put_self, hthere]
      rfl
    · rw [file?_put_of_ne hother]

/-- Names lead to a file when all but the last are directories, and the last is
the name of the file. -/
theorem target_eq_file_iff :
    t.target names = .ok (.file f) ↔
      ∃ name here, names.getLast? = some name ∧ t.walk names.dropLast = .ok here ∧
        t.enter here name = .error .notDirectory ∧ t.file? (here ++ [name]) = some f := by
  unfold target
  cases hlast : names.getLast? with
  | none => simp [pure, Except.pure]
  | some name =>
      cases hwalk : t.walk names.dropLast with
      | error fault => simp [bind, Except.bind]
      | ok here =>
          simp only [bind, Except.bind]
          constructor
          · intro h
            split at h
            · cases h
            · next hnot hfile =>
                cases h
                exact ⟨name, here, rfl, rfl, hnot, hfile⟩
            · cases h
            · cases h
          · rintro ⟨name', here', hname, hhere, hnot, hfile⟩
            cases hname
            cases hhere
            rw [hnot, hfile]
            rfl

/-- A path to a file that is written again leads to its new content. -/
theorem target_put (h : t.target names = .ok (.file f)) :
    (t.put f.place bytes).target names = .ok (.file ⟨f.place, bytes⟩) := by
  obtain ⟨name, here, hlast, hwalk, hnot, hfile⟩ := target_eq_file_iff.mp h
  have hplace : f.place = here ++ [name] := place_of_file? hfile
  have halike : Alike t (t.put f.place bytes) := by
    apply alike_put
    rw [hplace, hfile]
    rfl
  refine target_eq_file_iff.mpr ⟨name, here, hlast, ?_, ?_, ?_⟩
  · rw [halike.walk, hwalk]
  · rw [halike.enter, hnot]
  · rw [← hplace, file?_put_self]

theorem read_eq_ok_iff :
    t.read path = .ok bytes ↔
      ∃ names f, namesOf path = .ok names ∧ t.target names = .ok (.file f) ∧
        path.endsWith "/" = false ∧ f.bytes = bytes := by
  unfold read
  constructor
  · intro h
    cases hnames : namesOf path with
    | error fault =>
        rw [hnames] at h
        cases h
    | ok names =>
        simp only [hnames, bind, Except.bind] at h
        split at h
        · cases h
        · split at h
          · cases h
          · next f htarget =>
              split at h
              · cases h
              · next hslash =>
                  cases h
                  exact ⟨names, f, rfl, htarget, by simpa using hslash, rfl⟩
          · cases h
  · rintro ⟨names, f, hnames, htarget, hslash, rfl⟩
    simp only [hnames, bind, Except.bind, htarget, hslash]
    rfl

/-- **A file that can be read can be written**, and is then read as it was
written. -/
theorem exists_write_of_read (h : t.read path = .ok old) (bytes : List UInt8) :
    ∃ u, t.write path bytes = .ok u ∧ u.read path = .ok bytes := by
  obtain ⟨names, f, hnames, htarget, hslash, -⟩ := read_eq_ok_iff.mp h
  refine ⟨t.put f.place bytes, ?_, read_eq_ok_iff.mpr ?_⟩
  · rw [write, hnames]
    simp only [bind, Except.bind, htarget, hslash]
    rfl
  · exact ⟨names, ⟨f.place, bytes⟩, hnames, target_put htarget, hslash, rfl⟩

end Docket.Files
