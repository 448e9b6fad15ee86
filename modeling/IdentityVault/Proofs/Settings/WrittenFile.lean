import IdentityVault.Program.World
import IdentityVault.Proofs.Disk.Writing
import IdentityVault.Settings.File

/-! A settings file is read back as the text that was written, whatever the text is. -/
namespace IdentityVault

theorem Bytes.toText?_ofText (s : String) : Bytes.toText? (Bytes.ofText s) = some s := by
  unfold Bytes.toText? Bytes.ofText
  have hbytes : (⟨s.toUTF8.data.toList.toArray⟩ : ByteArray) = s.toUTF8 := by simp
  rw [hbytes]
  unfold String.fromUTF8?
  rw [dif_pos]
  rfl

namespace Settings

variable {w w' : World} {p : Path} {text : String}

/-- What writing a text comes to: two changes of the disk. -/
theorem writeText_steps (h : (writeText p text).run w = (.ok (), w')) :
    ∃ made after, w.disk.makeDirectories (Path.parent p) = (made, .ok ()) ∧
      made.write p (Bytes.ofText text) = .ok after ∧ w' = { w with disk := after } := by
  simp only [writeText, Program.perform, Program.bind_eq, Program.call_bind, Program.done_bind,
    Program.run_call, World.answer, DiskChange.apply] at h
  cases hmade : w.disk.makeDirectories (Path.parent p) with
  | mk made reply =>
    rw [hmade] at h
    cases reply with
    | error e => cases h
    | ok _ =>
      simp only [Program.run_call, World.answer, DiskChange.apply] at h
      cases hwritten : made.write p (Bytes.ofText text) with
      | error e =>
        rw [hwritten] at h
        cases h
      | ok after =>
        rw [hwritten] at h
        cases h
        exact ⟨made, after, rfl, hwritten, rfl⟩

theorem exists_run_writeText (h : w.disk.CanCreate p) (text : String) :
    ∃ after, (writeText p text).run w = (.ok (), { w with disk := after }) := by
  obtain ⟨made, after, hmade, hempty⟩ := h
  obtain ⟨after, hwritten⟩ := FileSystem.exists_write hempty (Bytes.ofText text)
  refine ⟨after, ?_⟩
  simp [writeText, Program.perform, World.answer, DiskChange.apply, hmade, hwritten,
    DiskChange.apply.keep]

/-- A run that wrote a text left it in the file. -/
theorem contentAt_of_writeText
    (hstart : w.disk.standing? w.disk.workingDirectory = some .directory)
    (h : (writeText p text).run w = (.ok (), w')) :
    w'.disk.contentAt p = .ok (Bytes.ofText text) := by
  obtain ⟨made, after, hmade, hwritten, rfl⟩ := writeText_steps h
  have hextends := FileSystem.extends_makeDirectories w.disk (Path.parent p)
  rw [hmade] at hextends
  exact FileSystem.contentAt_of_write (hextends.keepsDirectories.start hstart) hwritten

/-- Every other file is left as it was. -/
theorem contentAt_other_of_writeText
    (hstart : w.disk.standing? w.disk.workingDirectory = some .directory)
    (h : (writeText p text).run w = (.ok (), w')) {q : Path} {content : Bytes}
    (hq : w.disk.contentAt q = .ok content) :
    w'.disk.contentAt q = .ok content ∨ w'.disk.contentAt q = .ok (Bytes.ofText text) := by
  obtain ⟨made, after, hmade, hwritten, rfl⟩ := writeText_steps h
  have hextends := FileSystem.extends_makeDirectories w.disk (Path.parent p)
  rw [hmade] at hextends
  exact FileSystem.contentAt_of_update (hextends.keepsDirectories.start hstart) hwritten
    (hextends.contentAt hstart hq)

/-- What a load comes to, by what the file holds. -/
def ofFile (default p : Path) : Except OsError Bytes → Except SettingsError Settings
  | .error e => .error (.read p e)
  | .ok content =>
      match Bytes.toText? content with
      | none => .error (.read p .invalidText)
      | some text =>
        match ofText? default text with
        | some s => .ok s
        | none => .error (.parse p)

theorem run_defaultDataDirectory (w : World) :
    defaultDataDirectory.run w = ((defaultDataDirectory.run w).1, w) := rfl

theorem run_load (p : Path) (w : World) :
    (load p).run w =
      (ofFile (defaultDataDirectory.run w).1 p (w.disk.contentAt p), w) := by
  unfold load
  rw [Program.bind_eq, Program.run_bind, run_defaultDataDirectory]
  simp only [Program.readText, Program.perform, Program.bind_eq, Program.call_bind,
    Program.run_call, World.answer, Program.done_bind]
  cases w.disk.contentAt p with
  | error e => rfl
  | ok content =>
    simp only [ofFile]
    cases Bytes.toText? content with
    | none => rfl
    | some text =>
      simp only [Program.pure_eq, Program.done_bind]
      cases ofText? (defaultDataDirectory.run w).1 text <;> rfl

/-- What a text says is loaded from a file that holds it. -/
theorem run_load_of_contentAt (h : w.disk.contentAt p = .ok (Bytes.ofText text)) :
    ((load p).run w).1 = match ofText? (defaultDataDirectory.run w).1 text with
      | some s => .ok s
      | none => .error (.parse p) := by
  rw [run_load, h]
  simp only [ofFile, Bytes.toText?_ofText]

end Settings

end IdentityVault
