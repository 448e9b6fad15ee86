import IdentityVault.Command.Password
import IdentityVault.Program.World
import IdentityVault.Proofs.Disk.Places

/-! Password files. The line ends behind a password are no part of it, and all else is. -/
namespace IdentityVault

/-- The file holds a password, with or without line ends behind it. -/
structure FileSystem.HoldsPassword (fs : FileSystem) (p : Path) (password : String) : Prop where
  content : ∃ content ends, fs.contentAt p = .ok content ∧
    Bytes.toText? content = some (password ++ ends) ∧ ∀ c ∈ ends.toList, c = '\n' ∨ c = '\r'
  last (c : Char) (h : password.toList.getLast? = some c) : c ≠ '\n' ∧ c ≠ '\r'
  ne_empty : password ≠ ""

namespace PasswordSource

variable {password ends : String} {fs : FileSystem} {p : Path} {w : World}

theorem trimLineEnds_append (hends : ∀ c ∈ ends.toList, c = '\n' ∨ c = '\r')
    (hlast : ∀ c, password.toList.getLast? = some c → c ≠ '\n' ∧ c ≠ '\r') :
    trimLineEnds (password ++ ends) = password := by
  have hdropped : (password.toList.reverse.dropWhile fun c => c = '\n' || c = '\r') =
      password.toList.reverse := by
    cases hlist : password.toList.reverse with
    | nil => rfl
    | cons c rest =>
      have hc := hlast c (by rw [← List.head?_reverse, hlist]; rfl)
      simp [hc.1, hc.2]
  unfold trimLineEnds
  rw [String.toList_append, List.reverse_append,
    List.dropWhile_append_of_pos (by simpa using hends), hdropped, List.reverse_reverse,
    String.ofList_toList]

theorem isInteractive_file (p : Path) : (file p).isInteractive = false := rfl

/-- A password file is read without what stands behind the password. -/
theorem run_read_file (h : w.disk.HoldsPassword p password) (question : String) :
    ((file p).read question).run w = (.ok password, w) := by
  obtain ⟨content, ends, hcontent, htext, hends⟩ := h.content
  have hexist := FileSystem.exist_of_contentAt hcontent
  have htrim := trimLineEnds_append hends h.last
  simp [read, fetch, Program.readText, Program.perform, World.answer, hexist, hcontent, htext,
    htrim, h.ne_empty]

theorem run_readNew_file (h : w.disk.HoldsPassword p password) :
    (file p).readNew.run w = (.ok password, w) := by
  simp [readNew, Program.run_bind, run_read_file h, isInteractive]

end PasswordSource

end IdentityVault
