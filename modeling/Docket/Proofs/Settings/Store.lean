import Docket.Proofs.Files
import Docket.Proofs.Settings.Repair
import Docket.Proofs.Text.Utf8
import Docket.Settings.Store
import Mathlib

/-!
# Settings that are loaded again

Settings that were repaired when they were loaded are written back. Whoever
loads them again finds what was written, and repairs it once more. That
changes nothing unless the repair left white space at the end of the base, and
then the file is written a second time and the settings differ. The files are a
tree of files here; the procedure that loads the settings is the one which the
command line carries out on those of the machine.

* `Keeping.on_bind_of_ok` — a procedure goes on with the files that are left.
* `load_of_parse` — a file with settings can always be loaded, and when they
  need repair it holds the repaired ones afterwards.
* `load_again` — what comes of loading the same file twice.
* `load_slashes_twice` — a file that gives other settings the second time.
-/

namespace Docket

namespace Keeping

variable {α β : Type} {d : Keeping α} {a : α} {files files' : Files} {path : String}
  {bytes : List UInt8}

theorem on_eq_ok_iff :
    d.on files = .ok (a, files') ↔
      (d.run.run Files.respond files).result = .ok a ∧
        (d.run.run Files.respond files).state = files' := by
  unfold on
  generalize d.run.run Files.respond files = ran
  cases hresult : ran.result <;> simp [hresult, Except.map]

/-- What follows goes on with the files that are left. -/
theorem on_bind_of_ok (hd : d.on files = .ok (a, files')) (f : α → Keeping β) :
    (d >>= f).on files = (f a).on files' := by
  have hbind : (d >>= f).run = d.run.bind fun outcome =>
      match outcome with
      | .ok a => (f a).run
      | .error why => .done (.error why) := by
    refine congrArg d.run.bind (funext fun outcome => ?_)
    cases outcome <;> rfl
  obtain ⟨hresult, hstate⟩ := on_eq_ok_iff.mp hd
  simp only [on, hbind, Dialogue.run_bind, hresult, hstate]

theorem on_act (deed : FileDeed) (files : Files) :
    (act deed).on files = .ok (files.respond deed) :=
  rfl

theorem on_read (hread : files.read path = .ok bytes) :
    (act (.read path)).on files = .ok (.ok bytes, files) := by
  have hfound : files.respond (.read path) = (.ok bytes, files) :=
    congrArg (fun found => (found, files)) hread
  rw [on_act, hfound]

theorem on_write (hwrite : files.write path bytes = .ok files') :
    (act (.write path bytes)).on files = .ok (.ok (), files') := by
  have hchanged : files.respond (.write path bytes) = (.ok (), files') :=
    congrArg files.changed hwrite
  rw [on_act, hchanged]

theorem on_check {outcome : Except SettingsFault α} (h : outcome = .ok a) (files : Files) :
    (check outcome).on files = .ok (a, files) :=
  on_eq_ok_iff.mpr ⟨h, rfl⟩

end Keeping

namespace Settings

variable {s found : Settings} {files : Files} {path text : String} {bytes : List UInt8}

theorem needsRepair_iff : s.needsRepair = true ↔ s.repair ≠ s := by
  rw [needsRepair, decide_eq_true_iff]

theorem needsRepair_eq_false_iff : s.needsRepair = false ↔ s.repair = s := by
  rw [needsRepair, decide_eq_false_iff_not, not_not]

/-- The text of a file with these settings holds them. -/
def Legible (s : Settings) : Prop :=
  parse? s.render = some s

theorem ofContent_of_parse (path : String) (htext : Text.ofBytes? bytes = some text)
    (hfound : parse? text = some found) :
    ofContent path bytes = .ok (found.repair, found.needsRepair) := by
  rw [ofContent, htext]
  simp only [hfound]
  rfl

theorem on_save {files' : Files}
    (hwrite : files.write path (Text.bytesOf s.render.toList) = .ok files') :
    (save path s).on files = .ok ((), files') := by
  rw [save, Keeping.on_bind_of_ok (Keeping.on_write hwrite)]
  exact Keeping.on_check rfl files'

/-- A file with settings is written again if they need repair. -/
theorem load_of_content {repaired : Bool} (hread : files.read path = .ok bytes)
    (hcontent : ofContent path bytes = .ok (s, repaired)) :
    load files path =
      ((if repaired then save path s else pure ()) >>= fun () => pure s : Keeping Settings).on
        files := by
  rw [load, loading, Keeping.on_bind_of_ok (Keeping.on_read hread)]
  dsimp only
  rw [Keeping.on_bind_of_ok (Keeping.on_check hcontent files)]
  cases repaired <;> rfl

/-- Settings that need no repair are loaded as they stand, and nothing is
written. -/
theorem load_of_repaired (hread : files.read path = .ok bytes)
    (hcontent : ofContent path bytes = .ok (s, false)) : load files path = .ok (s, files) :=
  load_of_content hread hcontent

/-- Settings that need repair are written back to the file from which they
come. -/
theorem load_of_needsRepair (hread : files.read path = .ok bytes)
    (hcontent : ofContent path bytes = .ok (s, true)) :
    ∃ files', load files path = .ok (s, files') ∧
      files'.read path = .ok (Text.bytesOf s.render.toList) := by
  obtain ⟨files', hwrite, hread'⟩ :=
    Files.exists_write_of_read hread (Text.bytesOf s.render.toList)
  refine ⟨files', ?_, hread'⟩
  rw [load_of_content hread hcontent, if_pos rfl, Keeping.on_bind_of_ok (on_save hwrite)]
  rfl

/-- **A file with settings can always be loaded.** If they need repair, the file
holds the repaired ones afterwards, and otherwise no file is touched. -/
theorem load_of_parse (hread : files.read path = .ok bytes)
    (htext : Text.ofBytes? bytes = some text) (hfound : parse? text = some found) :
    ∃ files', load files path = .ok (found.repair, files') ∧
      (found.repair = found → files' = files) ∧
      (found.repair ≠ found →
        files'.read path = .ok (Text.bytesOf found.repair.render.toList)) := by
  have hcontent := ofContent_of_parse path htext hfound
  cases hneeds : found.needsRepair with
  | false =>
      rw [hneeds] at hcontent
      have hsame := needsRepair_eq_false_iff.mp hneeds
      exact ⟨files, load_of_repaired hread hcontent, fun _ => rfl, fun h => absurd hsame h⟩
  | true =>
      rw [hneeds] at hcontent
      have hchanged := needsRepair_iff.mp hneeds
      obtain ⟨files', hload, hread'⟩ := load_of_needsRepair hread hcontent
      exact ⟨files', hload, fun h => absurd h hchanged, fun _ => hread'⟩

/-- What a file that was loaded holds afterwards are the repaired settings. -/
theorem holds_of_load (hread : files.read path = .ok bytes)
    (htext : Text.ofBytes? bytes = some text) (hfound : parse? text = some found)
    (hlegible : found.repair.Legible) :
    ∃ files' bytes' text', load files path = .ok (found.repair, files') ∧
      files'.read path = .ok bytes' ∧ Text.ofBytes? bytes' = some text' ∧
      parse? text' = some found.repair := by
  obtain ⟨files', hload, hsame, hchanged⟩ := load_of_parse hread htext hfound
  by_cases h : found.repair = found
  · rw [hsame h] at hload
    exact ⟨files, bytes, text, hload, hread, htext, by rw [h, hfound]⟩
  · exact ⟨files', _, _, hload, hchanged h, Text.ofBytes?_bytesOf_toList _, hlegible⟩

/-- **Loading settings again.** Repaired settings need no repair but for the
base, and for that exactly when it ends in white space. A file with settings
that can be read as they are written is therefore loaded twice with the same
result, and left alone the second time, exactly when the repaired base does
not end in white space; otherwise the second loading succeeds with other
settings. -/
theorem load_again (s : Settings) :
    (s.repair.needsRepair = true ↔ Text.EndsBlank s.repair.backend.base) ∧
      s.repair.repair = { s.repair with
        backend := { s.repair.backend with base := s.repair.repair.backend.base } } ∧
      ∀ (files : Files) (path text : String) (bytes : List UInt8),
        files.read path = .ok bytes → Text.ofBytes? bytes = some text → parse? text = some s →
        s.repair.Legible →
        ∃ files', load files path = .ok (s.repair, files') ∧
          (load files' path = .ok (s.repair, files') ↔ ¬ Text.EndsBlank s.repair.backend.base) ∧
          ∃ files'', load files' path = .ok (s.repair.repair, files'') ∧
            (Text.EndsBlank s.repair.backend.base →
              files''.read path = .ok (Text.bytesOf s.repair.repair.render.toList)) := by
  have hsettled := repair_repair_eq_iff s
  refine ⟨?_, s.repair_repair, ?_⟩
  · rw [needsRepair_iff, ne_eq, hsettled, not_not]
  · intro files path text bytes hread htext hfound hlegible
    obtain ⟨files', bytes', text', hload, hread', htext', hfound'⟩ :=
      holds_of_load hread htext hfound hlegible
    obtain ⟨files'', hload', hsame, hchanged⟩ := load_of_parse hread' htext' hfound'
    refine ⟨files', hload, ?_, files'', hload', ?_⟩
    · rw [← hsettled]
      constructor
      · intro hagain
        rw [hload'] at hagain
        exact (Prod.mk.inj (Except.ok.inj hagain)).1
      · intro hrepaired
        rw [hload', hsame hrepaired, hrepaired]
    · intro hblank
      apply hchanged
      intro hrepaired
      exact hsettled.mp hrepaired hblank

/-- The characters of a file with these settings. -/
theorem toList_render (s : Settings) :
    s.render.toList = ['\n'].intercalate (s.sections.map fun part =>
      '[' :: (part.1.toList ++ ']' :: '\n' ::
        part.2.flatMap fun entry =>
          entry.1.toList ++ ' ' :: '=' :: ' ' :: (entry.2.toList ++ ['\n']))) := by
  simp [render, Toml.writeSections, Toml.writeSection, String.toList_append,
    String.toList_intercalate, String.toList_join, List.flatMap_map, Function.comp_def]

/-- The only file is "rc", with this text. -/
def fileOf (text : String) : Files :=
  ⟨[⟨["rc"], Text.bytesOf text.toList⟩], []⟩

theorem read_fileOf (text : String) :
    (fileOf text).read "rc" = .ok (Text.bytesOf text.toList) := by
  have hnames : Files.namesOf "rc" = .ok ["rc"] := by cbv
  have hslash : "rc".endsWith "/" = false := by cbv
  refine Files.read_eq_ok_iff.mpr
    ⟨["rc"], ⟨["rc"], Text.bytesOf text.toList⟩, hnames, ?_, hslash, rfl⟩
  exact Files.target_eq_file_iff.mpr ⟨"rc", [], rfl, rfl, rfl, rfl⟩

/-- A user whose id stands between spaces. -/
def spaced : Settings :=
  { usual with actor := ⟨" lawyer-7 ", "LAWYER"⟩ }

/-- The text of a file with these settings. -/
def spacedText : String :=
  "[actor]\nid = \" lawyer-7 \"\n"

/-- Loaded once, the file holds the trimmed id, and loaded again it stays as it
is. -/
theorem load_again_spaced :
    (fileOf spacedText).read "rc" = .ok (Text.bytesOf spacedText.toList) ∧
      Text.ofBytes? (Text.bytesOf spacedText.toList) = some spacedText ∧
      parse? spacedText = some spaced ∧ spaced.repair.Legible ∧
      spaced.repair.actor.id = "lawyer-7" ∧
      ∃ files', load (fileOf spacedText) "rc" = .ok (spaced.repair, files') ∧
        load files' "rc" = .ok (spaced.repair, files') := by
  have hread := read_fileOf spacedText
  have htext := Text.ofBytes?_bytesOf_toList spacedText
  have hparse : parse? spacedText = some spaced := by decide +kernel
  have hlegible : spaced.repair.Legible := by
    rw [Legible, parse?, Toml.parse?, toList_render]
    decide +kernel
  have hid : spaced.repair.actor.id = "lawyer-7" := by decide
  have hbase : ¬ Text.EndsBlank spaced.repair.backend.base := by decide
  obtain ⟨-, -, hloaded⟩ := load_again spaced
  obtain ⟨files', hload, hagain, -⟩ := hloaded _ "rc" _ _ hread htext hparse hlegible
  exact ⟨hread, htext, hparse, hlegible, hid, files', hload, hagain.mpr hbase⟩

/-- White space stands before the last slash of the base. -/
def slashed : Settings :=
  { usual with backend := { usualBackend with base := "http://h/ /" } }

/-- The text of a file with these settings. -/
def slashedText : String :=
  "[backend]\nbase_url = \"http://h/ /\"\n"

/-- The first loading of the file leaves a space at the end of the base, and the
second takes it away and writes the file again. -/
theorem load_slashes_twice :
    parse? slashedText = some slashed ∧
      slashed.repair.backend.base = "http://h/ " ∧ slashed.repair.needsRepair = true ∧
      slashed.repair.repair.backend.base = "http://h" ∧
      ∃ files' files'', load (fileOf slashedText) "rc" = .ok (slashed.repair, files') ∧
        load files' "rc" = .ok (slashed.repair.repair, files'') ∧
        files''.read "rc" = .ok (Text.bytesOf slashed.repair.repair.render.toList) := by
  have hread := read_fileOf slashedText
  have htext := Text.ofBytes?_bytesOf_toList slashedText
  have hparse : parse? slashedText = some slashed := by decide +kernel
  have hlegible : slashed.repair.Legible := by
    rw [Legible, parse?, Toml.parse?, toList_render]
    decide +kernel
  have hfirst : slashed.repair.backend.base = "http://h/ " := by decide
  have hneeds : slashed.repair.needsRepair = true := by decide
  have hsecond : slashed.repair.repair.backend.base = "http://h" := by decide
  obtain ⟨files', bytes, text, hload, hread', htext', hparse'⟩ :=
    holds_of_load hread htext hparse hlegible
  obtain ⟨files'', hload', -, hchanged⟩ := load_of_parse hread' htext' hparse'
  exact ⟨hparse, hfirst, hneeds, hsecond, files', files'', hload, hload',
    hchanged (needsRepair_iff.mp hneeds)⟩

end Settings

end Docket
