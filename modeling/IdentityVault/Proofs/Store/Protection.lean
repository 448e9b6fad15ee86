import IdentityVault.Proofs.Store.Loading
import IdentityVault.Proofs.Store.SealingStages

/-! How the identity on disk is protected while one call seals it. The identity is plain until the
sealed form takes its place, and by then the salt is the one that it was sealed under. -/
namespace IdentityVault

/-- A disk with a plain identity below `/d` and an old salt. -/
def plainStore (identity : Bytes) : FileSystem :=
  ⟨.directory [("d", .directory [("storage", .directory
    [("salt", .file [1, 2, 3]), ("identity", .directory [("identity_key", .file identity)])])])],
    []⟩

/-- What a call seals is the identity, under a salt of the right length. -/
structure SealDraft.Valid (d : SealDraft) (identity : Bytes) : Prop where
  identity : d.identity = identity
  salt : d.salt.length = saltLength

namespace SealDraft

variable {d : SealDraft} {identity : Bytes}

theorem length_bundle (hd : d.Valid identity) (hlength : identity.length = Bundle.plainLength)
    (password : String) : (d.bundle password).length = Bundle.sealedLength :=
  Payload.length_sealed_identity _ _ (hd.identity ▸ hlength)

theorem ofBytes_bundle (hd : d.Valid identity) (hlength : identity.length = Bundle.plainLength)
    (password : String) :
    Bundle.ofBytes (d.bundle password) = .ok (.sealed (d.bundle password)) :=
  Bundle.ofBytes_of_sealedLength (length_bundle hd hlength password)

theorem Valid.salt_ne_nil (hd : d.Valid identity) : d.salt ≠ [] := by
  intro hnil
  have hlen := hd.salt
  rw [hnil] at hlen
  cases hlen

end SealDraft

namespace SealStage

variable {l : StorageLayout} {identity : Bytes}

theorem afterReading_plain (hlength : identity.length = Bundle.plainLength) :
    afterReading l (some (.file identity)) = .drawingSalt identity := by
  have hplain : Bundle.ofBytes identity = .ok (.plain identity) := if_pos hlength
  simp only [afterReading, hplain]

/-- A call does not seal again. -/
theorem afterReading_bundle {d : SealDraft} (hd : d.Valid identity)
    (hlength : identity.length = Bundle.plainLength) (password : String) :
    afterReading l (some (.file (d.bundle password))) = .returned (.error .alreadySealed) none := by
  simp only [afterReading, d.ofBytes_bundle hd hlength password]

end SealStage

inductive Protection where
  | plain
  | sealed (password : String) (d : SealDraft)

namespace Protection

/-- The identity stands in its place in this form, and the salt beside it if it is sealed. -/
def Holds (identity : Bytes) (h : Shelf) : Protection → Prop
  | .plain => h (.current .identity) = some (.file identity)
  | .sealed password d =>
      h (.current .identity) = some (.file (d.bundle password)) ∧
        h (.current .salt) = some (.file d.salt) ∧ d.Valid identity

variable {identity : Bytes} {h h' : Shelf} {c : Protection}

variable {l : StorageLayout} {storage : List String}

/-- The disk shows the identity in this form. -/
def Shown (l : StorageLayout) (storage : List String) (identity : Bytes) (c : Protection)
    (fs : FileSystem) : Prop :=
  l.Stands fs storage ∧ c.Holds identity (Shelf.ofDisk fs storage)

theorem Shown.plain {fs : FileSystem} (h : Shown l storage identity .plain fs) :
    fs.contentAt l.identityKey = .ok identity :=
  (Shelf.contentAt_eq_ok (f := .identity) h.1).2 h.2

theorem Shown.bundle {fs : FileSystem} {password : String} {d : SealDraft}
    (h : Shown l storage identity (.sealed password d) fs) :
    fs.contentAt l.identityKey = .ok (d.bundle password) :=
  (Shelf.contentAt_eq_ok (f := .identity) h.1).2 h.2.1

theorem Shown.salt {fs : FileSystem} {password : String} {d : SealDraft}
    (h : Shown l storage identity (.sealed password d) fs) :
    fs.contentAt l.salt = .ok d.salt := (Shelf.contentAt_eq_ok (f := .salt) h.1).2 h.2.2.1

theorem exists_shown {fs : FileSystem} (h : fs.contentAt l.identityKey = .ok identity) :
    ∃ storage, Shown l storage identity .plain fs := by
  obtain ⟨storage, hstands⟩ := StorageLayout.Stands.of_contentAt h
  exact ⟨storage, hstands, (Shelf.contentAt_eq_ok (f := .identity) hstands).1 h⟩

theorem Holds.put_draft (hc : c.Holds identity h) (f : StoredFile) (content : Option Bytes) :
    c.Holds identity (h.put (.draft f) content) := by
  cases c with
  | plain =>
    unfold Holds
    rw [Shelf.put_draft_current]
    exact hc
  | sealed password d =>
    unfold Holds
    rw [Shelf.put_draft_current, Shelf.put_draft_current]
    exact hc

end Protection

namespace SealStage

/-- What a call relies on at a stage. -/
def Relies (identity : Bytes) (password : String) (h : Shelf) (c : Protection) :
    SealStage → Prop
  | .reading => True
  | .drawingSalt read => c = .plain ∧ read = identity
  | .drawingVector read salt => c = .plain ∧ read = identity ∧ salt.length = saltLength
  | .reporting d => c = .plain ∧ d.Valid identity
  | .replacing f phase d =>
      c = .plain ∧ d.Valid identity ∧
        (f = .identity → h (.current .salt) = some (.file d.salt)) ∧
        (phase = .move → h (.draft f) = some (.file (d.content password f)))
  | .announcing d => c = .sealed password d
  | .returned result _ => result = .ok () → ∃ d, c = .sealed password d

structure Safe (identity : Bytes) (password : String) (h : Shelf) (c : Protection)
    (s : SealStage) : Prop where
  holds : c.Holds identity h
  relies : s.Relies identity password h c

end SealStage

/-- The change by which the sealed identity takes the place of the plain one. -/
def StorageLayout.sealing (l : StorageLayout) : DiskChange :=
  .rename (temporary l.identityKey) l.identityKey

namespace SealStage

variable {l : StorageLayout} {identity : Bytes} {password : String} {h : Shelf} {c : Protection}

theorem relies_afterReading (hlength : identity.length = Bundle.plainLength)
    (hc : c.Holds identity h) :
    (afterReading l (h (.current .identity))).Relies identity password h c := by
  cases c with
  | plain =>
    unfold Protection.Holds at hc
    rw [hc, afterReading_plain hlength]
    exact ⟨rfl, rfl⟩
  | sealed owner d =>
    obtain ⟨hidentity, -, hd⟩ := hc
    rw [hidentity, afterReading_bundle hd hlength]
    intro hok
    cases hok

/-- A step that keeps the call safe, and changes the protection only by moving the sealed identity
into its place. -/
def Advances (l : StorageLayout) (identity : Bytes) (password : String) (c : Protection)
    (effect : Option DiskChange) (next : SealStage × Shelf) : Prop :=
  (effect ≠ some l.sealing ∧ next.1.Safe identity password next.2 c) ∨
    ∃ d, c = .plain ∧ effect = some l.sealing ∧
      next.1.Safe identity password next.2 (.sealed password d)

theorem advances_write {draw : Nat → Bytes} {f : StoredFile} {d : SealDraft}
    (hs : (replacing f .write d).Safe identity password h c) :
    Advances l identity password c ((replacing f .write d).effect l password h)
      ((replacing f .write d).advance l password draw h) := by
  obtain ⟨hholds, rfl, hd, hsalt, -⟩ := hs
  left
  rcases Shelf.apply_write l.fits f (d.content password f) h with happly | ⟨e, happly⟩ <;>
    simp only [effect, advance, Phase.change, Shelf.Change.onDisk, happly]
  · refine ⟨by simp [StorageLayout.sealing], hholds.put_draft f _, rfl, hd, ?_, ?_⟩
    · intro hf
      exact (Shelf.put_draft_current ..).trans (hsalt hf)
    · intro _
      exact Shelf.put_self ..
  · exact ⟨by simp, hholds, by simp [afterChange, Relies]⟩

theorem advances_move (hne : l.salt ≠ l.identityKey) {draw : Nat → Bytes} {f : StoredFile}
    {d : SealDraft} (hs : (replacing f .move d).Safe identity password h c) :
    Advances l identity password c ((replacing f .move d).effect l password h)
      ((replacing f .move d).advance l password draw h) := by
  obtain ⟨hholds, rfl, hd, hsalt, hdraft⟩ := hs
  rcases Shelf.apply_move l.fits f h with ⟨content, hcontent, happly⟩ | ⟨e, happly⟩ <;>
    simp only [effect, advance, Phase.change, Shelf.Change.onDisk, happly]
  · have hsame : content = d.content password f := by
      have hfile := hcontent.symm.trans (hdraft rfl)
      simpa using hfile
    subst hsame
    have hself := h.replace_self f (d.content password f)
    have hother {g : StoredFile} (hg : g ≠ f) :
        h.replace f (d.content password f) (.current g) = h (.current g) := h.replace_of_ne hg _
    cases f with
    | salt =>
      refine .inl ⟨by simp [StorageLayout.sealing, StoredFile.path, hne], ?_, rfl, hd, ?_, by simp⟩
      · exact (hother (by decide)).trans hholds
      · intro _
        exact hself
    | identity =>
      exact .inr ⟨d, rfl, rfl, ⟨hself, (hother (by decide)).trans (hsalt rfl), hd⟩, rfl⟩
  · exact .inl ⟨by simp, hholds, by simp [afterChange, Relies]⟩

theorem Safe.advances (hne : l.salt ≠ l.identityKey)
    (hlength : identity.length = Bundle.plainLength) {draw : Nat → Bytes}
    (hdraw : (draw saltLength).length = saltLength) {s : SealStage}
    (hs : s.Safe identity password h c) :
    Advances l identity password c (s.effect l password h) (s.advance l password draw h) := by
  cases s with
  | reading =>
    exact .inl ⟨by simp [effect], hs.holds, relies_afterReading hlength hs.holds⟩
  | drawingSalt read =>
    obtain ⟨hholds, hc, hread⟩ := hs
    exact .inl ⟨by simp [effect], hholds, hc, hread, hdraw⟩
  | drawingVector read salt =>
    obtain ⟨hholds, hc, hread, hsalt⟩ := hs
    exact .inl ⟨by simp [effect], hholds, hc, hread, hsalt⟩
  | reporting d =>
    obtain ⟨hholds, hc, hd⟩ := hs
    exact .inl ⟨by simp [effect], hholds, hc, hd, by simp, by simp⟩
  | replacing f phase d =>
    cases phase with
    | makeDirectory =>
      obtain ⟨hholds, hc, hd, hsalt, -⟩ := hs
      refine .inl ⟨?_, hholds, hc, hd, hsalt, by simp⟩
      simp [effect, Phase.change, Shelf.apply, Shelf.Change.onDisk, StorageLayout.sealing]
    | write => exact advances_write hs
    | move => exact advances_move hne hs
  | announcing d => exact .inl ⟨by simp [effect], hs.holds, fun _ => ⟨d, hs.relies⟩⟩
  | returned result d => exact .inl ⟨by simp [effect], hs.holds, hs.relies⟩

end SealStage

/-- A call that seals the identity has come to this point. -/
def Underway (l : StorageLayout) (storage : List String) (identity : Bytes) (password : String)
    (c : Protection) (p : Program (Except StoreError Unit)) (w : World) : Prop :=
  ∃ s : SealStage, p = s.program l password ∧ l.Stands w.disk storage ∧
    s.Safe identity password (Shelf.ofDisk w.disk storage) c

namespace Underway

variable {l : StorageLayout} {storage : List String} {identity : Bytes} {password : String}
  {c : Protection} {p : Program (Except StoreError Unit)} {w : World}

theorem start (h : c.Shown l storage identity w.disk) (password : String) :
    Underway l storage identity password c (l.sealIdentity password) w :=
  ⟨.reading, rfl, h.1, h.2, trivial⟩

theorem shown (h : Underway l storage identity password c p w) :
    c.Shown l storage identity w.disk := by
  obtain ⟨s, -, hstands, hsafe⟩ := h
  exact ⟨hstands, hsafe.holds⟩

theorem step (hlength : identity.length = Bundle.plainLength)
    (h : Underway l storage identity password c p w) :
    ((p.moment w).effect ≠ some l.sealing ∧
        Underway l storage identity password c (p.step w).1 (p.step w).2) ∨
      ∃ d, c = .plain ∧ (p.moment w).effect = some l.sealing ∧
        Underway l storage identity password (.sealed password d) (p.step w).1 (p.step w).2 := by
  obtain ⟨s, rfl, hstands, hsafe⟩ := h
  obtain ⟨hprogram, hshelf, heffect, hkeeps⟩ :=
    SealStage.simulates password hstands s
  have hafter := hstands.keepsDirectories hkeeps
  rcases hsafe.advances hstands.salt_ne hlength (SealStage.length_draws w saltLength) with
    ⟨hother, hnext⟩ | ⟨d, hc, hsealing, hnext⟩
  · rw [← hshelf] at hnext
    exact .inl ⟨by rwa [heffect], _, hprogram, hafter, hnext⟩
  · rw [← hshelf] at hnext
    exact .inr ⟨d, hc, by rwa [heffect], _, hprogram, hafter, hnext⟩

/-- A draft that was written in part protects the identity as before. -/
theorem shown_torn {path : Path} {content : Bytes}
    {next : Except OsError Unit → Program (Except StoreError Unit)}
    (h : Underway l storage identity password c (.call (.change (.write path content)) next) w)
    (part : Bytes) : c.Shown l storage identity (w.answer (.change (.write path part))).2.disk := by
  obtain ⟨s, hprogram, hstands, hsafe⟩ := h
  obtain ⟨f, rfl⟩ := SealStage.path_of_write hprogram.symm
  obtain ⟨hkeeps, hshelf, -⟩ := Shelf.follows hstands (.write f part)
  have hdisk : (w.answer (.change (.write (StorageLayout.temporary (f.path l)) part))).2.disk =
      (((Shelf.Change.write f part).onDisk l).apply w.disk).1 := rfl
  rw [hdisk]
  refine ⟨hstands.keepsDirectories hkeeps, ?_⟩
  rw [hshelf]
  rcases Shelf.apply_write l.fits f part (Shelf.ofDisk w.disk storage) with happly | ⟨e, happly⟩ <;>
    rw [happly]
  · exact hsafe.holds.put_draft f _
  · exact hsafe.holds

/-- A call that returned well has sealed the identity. -/
theorem sealed_of_ok (h : Underway l storage identity password c (.done (.ok ())) w) :
    ∃ d, c = .sealed password d := by
  obtain ⟨s, hprogram, -, hsafe⟩ := h
  obtain ⟨d, rfl⟩ := SealStage.program_eq_done hprogram.symm
  exact hsafe.relies rfl

end Underway

end IdentityVault
