import IdentityVault.Proofs.Disk.Places
import IdentityVault.Proofs.Store.SealThenUnlock

/-! When a call seals the identity, and what it leaves on the disk. It succeeds where a plain
identity is found and no directory stands in the way of a file or of its draft. Where it fails, the
identity is what it was. -/
namespace IdentityVault

namespace Shelf

variable {fits : StoredFile → Bool} {h : Shelf} {f : StoredFile}

/-- No directory stands where a file or its draft is to be put. -/
structure Free (h : Shelf) (f : StoredFile) : Prop where
  current : h (.current f) ≠ some .directory
  draft : h (.draft f) ≠ some .directory

theorem apply_write_of_fits (hfits : fits f = true) (content : Bytes) :
    apply fits (.write f content) h =
      if h (.draft f) = some .directory then (h, .error .isADirectory)
      else (h.put (.draft f) (some content), .ok ()) := by
  simp only [apply, hfits, Bool.true_eq_false, if_false]
  split
  case h_1 hd => rw [if_pos hd]
  case h_2 hfree => rw [if_neg hfree]

theorem apply_move_of_fits (hfits : fits f = true) {content : Bytes}
    (hdraft : h (.draft f) = some (.file content)) :
    apply fits (.move f) h =
      if h (.current f) = some .directory then (h, .error .isADirectory)
      else (h.replace f content, .ok ()) := by
  simp only [apply, hfits, Bool.true_eq_false, if_false, hdraft]
  cases h (.current f) with
  | none => rfl
  | some standing => cases standing <;> rfl

/-- The draft that is moved into place leaves no other trace. -/
theorem replace_put_draft (h : Shelf) (f : StoredFile) (draft : Option Bytes) (content : Bytes) :
    (h.put (.draft f) draft).replace f content = h.replace f content := by
  simp only [replace, put, Function.update_idem]

/-- The four places when the file `f` is about to be replaced. -/
def ahead (h : Shelf) (d : SealDraft) : StoredFile → Shelf
  | .salt => h
  | .identity => h.replace .salt d.salt

/-- The four places when both files are replaced. -/
def sealing (h : Shelf) (password : String) (d : SealDraft) : Shelf :=
  (h.ahead d .identity).replace .identity (d.bundle password)

theorem ahead_current (h : Shelf) (d : SealDraft) (f : StoredFile) :
    h.ahead d f (.current f) = h (.current f) := by
  cases f with
  | salt => rfl
  | identity => exact h.replace_of_ne (by decide) _

theorem ahead_draft (h : Shelf) (d : SealDraft) (f : StoredFile) :
    h.ahead d f (.draft f) = h (.draft f) := by
  cases f with
  | salt => rfl
  | identity => exact h.replace_draft .salt .identity _

/-- Replacing the salt leaves the identity alone. -/
theorem ahead_identity (h : Shelf) (d : SealDraft) (f : StoredFile) :
    h.ahead d f (.current .identity) = h (.current .identity) := by
  cases f with
  | salt => rfl
  | identity => exact h.ahead_current d .identity

theorem sealing_current (h : Shelf) (password : String) (d : SealDraft) (f : StoredFile) :
    h.sealing password d (.current f) = some (.file (d.content password f)) := by
  unfold sealing
  cases f with
  | salt =>
    rw [replace_of_ne _ (by decide)]
    exact h.replace_self .salt d.salt
  | identity => exact replace_self _ .identity _

theorem sealing_draft (h : Shelf) (password : String) (d : SealDraft) (f : StoredFile) :
    h.sealing password d (.draft f) = none := by
  cases f with
  | salt =>
    have hsalt : h.ahead d .identity (.draft .salt) = none :=
      (h.replace_draft .salt .salt _).trans (if_pos rfl)
    exact (replace_draft _ .identity .salt _).trans hsalt
  | identity => exact (replace_draft _ .identity .identity _).trans (if_pos rfl)

end Shelf

namespace SealStage

variable {l : StorageLayout} {password : String} {start h : Shelf} {identity : Bytes}

/-- How a call ends that found the four places `start`, with a plain identity among them. It fails
only where a directory is in the way, and then the identity is still there. -/
inductive Ended (l : StorageLayout) (password : String) (start : Shelf) (identity : Bytes)
    (h : Shelf) : Except StoreError Unit → Prop where
  | sealed {d : SealDraft} (valid : d.Valid identity) (free : ∀ f, start.Free f)
      (shown : h = start.sealing password d) : Ended l password start identity h (.ok ())
  | blocked {f : StoredFile} {s : ShelfSlot} {cause : OsError} (inTheWay : ¬start.Free f)
      (kept : h (.current .identity) = some (.file identity)) (other : s ≠ .current .identity) :
      Ended l password start identity h (.error (.io (s.path l) cause))

/-- How far the call has come. -/
def Course (l : StorageLayout) (password : String) (start : Shelf) (identity : Bytes)
    (h : Shelf) : SealStage → Prop
  | .reading => h = start
  | .drawingSalt read => read = identity ∧ h = start
  | .drawingVector read salt => read = identity ∧ salt.length = saltLength ∧ h = start
  | .reporting d => d.Valid identity ∧ h = start
  | .replacing f phase d =>
      d.Valid identity ∧ (f = .identity → start.Free .salt) ∧
        match phase with
        | .makeDirectory | .write => h = start.ahead d f
        | .move =>
            start (.draft f) ≠ some .directory ∧
              h = (start.ahead d f).put (.draft f) (some (d.content password f))
  | .announcing d =>
      d.Valid identity ∧ (∀ f, start.Free f) ∧ h = start.sealing password d
  | .returned result _ => Ended l password start identity h result

theorem course_write (hfits : ∀ f, l.fits f = true)
    (hplain : start (.current .identity) = some (.file identity)) {f : StoredFile} {d : SealDraft}
    {draw : Nat → Bytes} (hc : (replacing f .write d).Course l password start identity h) :
    ((replacing f .write d).advance l password draw h).1.Course l password start identity
      ((replacing f .write d).advance l password draw h).2 := by
  obtain ⟨hd, hsalt, rfl⟩ := hc
  simp only [advance, Phase.change, Shelf.apply_write_of_fits (hfits f), Shelf.ahead_draft]
  split_ifs with hdraft
  · exact .blocked (s := .draft f) (fun hfree => hfree.draft hdraft)
      ((start.ahead_identity d f).trans hplain) (by simp)
  · exact ⟨hd, hsalt, hdraft, rfl⟩

theorem course_move (hfits : ∀ f, l.fits f = true)
    (hplain : start (.current .identity) = some (.file identity)) {f : StoredFile} {d : SealDraft}
    {draw : Nat → Bytes} (hc : (replacing f .move d).Course l password start identity h) :
    ((replacing f .move d).advance l password draw h).1.Course l password start identity
      ((replacing f .move d).advance l password draw h).2 := by
  obtain ⟨hd, hsalt, hdraft, rfl⟩ := hc
  have hwritten : (start.ahead d f).put (.draft f) (some (d.content password f)) (.draft f) =
      some (.file (d.content password f)) := Shelf.put_self ..
  simp only [advance, Phase.change, Shelf.apply_move_of_fits (hfits f) hwritten,
    Shelf.put_draft_current, Shelf.replace_put_draft, Shelf.ahead_current]
  split_ifs with hcurrent
  · have hother : ShelfSlot.current f ≠ .current .identity := by
      rintro hf
      rw [hf, hplain] at hcurrent
      cases hcurrent
    have hkept := Shelf.put_draft_current (start.ahead d f) f .identity
      (some (d.content password f))
    exact .blocked (fun hfree => hfree.current hcurrent)
      (hkept.trans ((start.ahead_identity d f).trans hplain)) hother
  · have hfree : start.Free f := ⟨hcurrent, hdraft⟩
    cases f with
    | salt => exact ⟨hd, fun _ => hfree, rfl⟩
    | identity =>
      refine ⟨hd, fun g => ?_, rfl⟩
      cases g with
      | salt => exact hsalt rfl
      | identity => exact hfree

theorem Course.advance (hfits : ∀ f, l.fits f = true)
    (hplain : start (.current .identity) = some (.file identity))
    (hlength : identity.length = Bundle.plainLength) {draw : Nat → Bytes}
    (hdraw : (draw saltLength).length = saltLength) {s : SealStage}
    (hc : s.Course l password start identity h) :
    (s.advance l password draw h).1.Course l password start identity
      (s.advance l password draw h).2 := by
  cases s with
  | reading =>
    obtain rfl : h = start := hc
    simp only [SealStage.advance, hplain, afterReading_plain hlength]
    exact ⟨rfl, rfl⟩
  | drawingSalt read => exact ⟨hc.1, hdraw, hc.2⟩
  | drawingVector read salt => exact ⟨⟨hc.1, hc.2.1⟩, hc.2.2⟩
  | reporting d => exact ⟨hc.1, by simp, hc.2⟩
  | replacing f phase d =>
    cases phase with
    | makeDirectory => exact hc
    | write => exact course_write hfits hplain hc
    | move => exact course_move hfits hplain hc
  | announcing d => exact .sealed hc.1 hc.2.1 hc.2.2
  | returned result d => exact hc

end SealStage

namespace StorageLayout

/-- A plain identity stands in its place, and no directory where a file is to be put. -/
structure Sealable (l : StorageLayout) (fs : FileSystem) : Prop where
  plain : ∃ identity, fs.contentAt l.identityKey = .ok identity ∧ identity.length = 64
  salt : fs.isDirectory l.salt = false
  saltDraft : fs.isDirectory (temporary l.salt) = false
  identityDraft : fs.isDirectory (temporary l.identityKey) = false

/-- The disk after a call that sealed. The salt and the identity are new, their drafts are gone, and
everything else stands where it stood. -/
structure Resealed (l : StorageLayout) (fs after : FileSystem) : Prop where
  salt : ∃ salt, after.contentAt l.salt = .ok salt ∧ salt.length = 8
  identity : ∃ bundle, after.contentAt l.identityKey = .ok bundle ∧ bundle.length = 128
  drafts (f : StoredFile) : after.contentAt (temporary (f.path l)) = .error .notFound
  workingDirectory : after.workingDirectory = fs.workingDirectory
  others (place : List String) (other : ∀ s : ShelfSlot, fs.placeOf (s.path l) ≠ .ok place) :
    after.standing? place = fs.standing? place

end StorageLayout

/-- The failures of a call that found no plain identity. -/
inductive StoreError.FoundNoPlain (l : StorageLayout) : StoreError → Prop where
  | missing (p : Path) : FoundNoPlain l (.missingIdentity p)
  | corrupt (length : Nat) : FoundNoPlain l (.corruptIdentity length)
  | alreadySealed : FoundNoPlain l .alreadySealed
  | unreadable (cause : OsError) : FoundNoPlain l (.io l.identityKey cause)

/-- What a call that was to seal the identity comes to. -/
structure StorageLayout.SealsOrKeeps (l : StorageLayout) (before : World)
    (result : Except StoreError Unit) (after : World) : Prop where
  ok_iff : result = .ok () ↔ l.Sealable before.disk
  resealed (ok : result = .ok ()) : l.Resealed before.disk after.disk
  identity {e : StoreError} (failed : result = .error e) :
    after.disk.contentAt l.identityKey = before.disk.contentAt l.identityKey
  load {e : StoreError} (failed : result = .error e) :
    (l.freshVault.load.run after).1 = (l.freshVault.load.run before).1
  unchanged {e : StoreError} (failed : result = .error e) (early : e.FoundNoPlain l) :
    after.disk = before.disk

namespace StorageLayout

variable {l : StorageLayout} {storage : List String} {identity : Bytes} {w : World}

/-- Where no plain identity is found, a call fails and changes nothing. -/
theorem run_sealIdentity_of_unfit (l : StorageLayout) (password : String) {w : World}
    (hunfit : ∀ identity, w.disk.contentAt l.identityKey = .ok identity →
      identity.length ≠ Bundle.plainLength) :
    ∃ e, (l.sealIdentity password).run w = (.error e, w) := by
  simp only [sealIdentity, Program.bind_eq, Program.run_bind, run_probe]
  cases hfound : l.found w.disk with
  | error e => exact ⟨e, rfl⟩
  | ok bundle =>
    cases bundle with
    | sealed payload => exact ⟨.alreadySealed, rfl⟩
    | plain identity =>
      obtain ⟨hread, hlength⟩ := contentAt_of_found_plain hfound
      exact absurd hlength (hunfit identity hread)

theorem fits_of_size (hsize : (temporary l.identityKey).utf8ByteSize ≤ FileSystem.pathLimit)
    (f : StoredFile) : l.fits f = true := by
  have hdraft := (ShelfSlot.draft .identity).path_eq l
  have hidentity : ((ShelfSlot.draft .identity).path l).utf8ByteSize ≤ FileSystem.pathLimit := hsize
  cases f with
  | identity => simpa [fits, ShelfSlot.path] using hidentity
  | salt =>
    -- The salt's draft has a path that is shorter than the path of the directory beside it.
    have hshorter := Path.utf8ByteSize_join_le (p := l.storageDirectory) Stands.plain_identity
      (ShelfSlot.plain_name (.draft .salt)) (by decide +kernel)
    have hbelow := Path.utf8ByteSize_le_join (p := l.identityDirectory)
      (ShelfSlot.plain_name (.draft .identity))
    rw [hdraft] at hidentity
    have hsalt : ((ShelfSlot.draft .salt).path l).utf8ByteSize ≤ FileSystem.pathLimit := by
      rw [(ShelfSlot.draft .salt).path_eq l]
      exact Nat.le_trans hshorter (Nat.le_trans hbelow hidentity)
    simpa [fits, ShelfSlot.path] using hsalt

section Slots

variable {fs : FileSystem}

theorem Stands.names_slot (h : l.Stands fs storage) (hfits : ∀ f, l.fits f = true)
    (s : ShelfSlot) : fs.Names (s.path l) (s.file.parent storage) s.name := by
  cases s with
  | current f => exact h.names_current f
  | draft f => exact h.names_draft (hfits f)

theorem Stands.path_injective (h : l.Stands fs storage) (hfits : ∀ f, l.fits f = true)
    {s t : ShelfSlot} (heq : s.path l = t.path l) : s = t := by
  have hs := (h.names_slot hfits s).resolve
  rw [heq, (h.names_slot hfits t).resolve] at hs
  apply ShelfSlot.place_injective storage
  unfold ShelfSlot.place
  injection hs with hplace
  injection hplace with hparent hname
  rw [hparent, hname]

theorem Stands.placeOf_slot (h : l.Stands fs storage) (hfits : ∀ f, l.fits f = true)
    (s : ShelfSlot) : fs.placeOf (s.path l) = .ok (s.place storage) := by
  unfold FileSystem.placeOf
  rw [(h.names_slot hfits s).resolve]
  rfl

theorem Stands.isDirectory_slot (h : l.Stands fs storage) (hfits : ∀ f, l.fits f = true)
    (s : ShelfSlot) :
    fs.isDirectory (s.path l) = false ↔ Shelf.ofDisk fs storage s ≠ some .directory :=
  (h.names_slot hfits s).isDirectory_eq_false

/-- A call can seal a plain identity exactly where both files can be replaced. -/
theorem Stands.sealable_iff (h : l.Stands fs storage) (hfits : ∀ f, l.fits f = true)
    (hplain : fs.contentAt l.identityKey = .ok identity)
    (hlength : identity.length = Bundle.plainLength) :
    l.Sealable fs ↔ ∀ f, (Shelf.ofDisk fs storage).Free f := by
  have hslot := h.isDirectory_slot hfits
  have hidentity := (Shelf.contentAt_eq_ok (f := .identity) h).1 hplain
  constructor
  · rintro ⟨-, hsalt, hsaltDraft, hidentityDraft⟩ f
    cases f with
    | salt => exact ⟨(hslot (.current .salt)).1 hsalt, (hslot (.draft .salt)).1 hsaltDraft⟩
    | identity => exact ⟨by simp [hidentity], (hslot (.draft .identity)).1 hidentityDraft⟩
  · intro hfree
    exact ⟨⟨identity, hplain, hlength⟩, (hslot (.current .salt)).2 (hfree .salt).current,
      (hslot (.draft .salt)).2 (hfree .salt).draft,
      (hslot (.draft .identity)).2 (hfree .identity).draft⟩

end Slots

/-- Where a plain identity is found, a call ends as its course does. -/
theorem ended_sealIdentity (password : String) (hstands : l.Stands w.disk storage)
    (hfits : ∀ f, l.fits f = true) (hplain : w.disk.contentAt l.identityKey = .ok identity)
    (hlength : identity.length = Bundle.plainLength) :
    l.Stands ((l.sealIdentity password).run w).2.disk storage ∧
      SealStage.Ended l password (Shelf.ofDisk w.disk storage) identity
        (Shelf.ofDisk ((l.sealIdentity password).run w).2.disk storage)
        ((l.sealIdentity password).run w).1 := by
  have hshown := (Shelf.contentAt_eq_ok (f := .identity) hstands).1 hplain
  have hreturned := Program.run_induction
    (I := fun p w' => l.Stands w'.disk storage ∧ ∃ s : SealStage, p = s.program l password ∧
      s.Course l password (Shelf.ofDisk w.disk storage) identity (Shelf.ofDisk w'.disk storage))
    ?_ (p := l.sealIdentity password) (w := w) ⟨hstands, .reading, rfl, rfl⟩
  · obtain ⟨hafter, s, hprogram, hcourse⟩ := hreturned
    obtain ⟨d, rfl⟩ := SealStage.program_eq_done hprogram.symm
    exact ⟨hafter, hcourse⟩
  · rintro p w' ⟨hbefore, s, rfl, hcourse⟩
    obtain ⟨hprogram, hshelf, -, hkeeps, -⟩ := SealStage.simulates password hbefore s
    have hnext := hcourse.advance hfits hshown hlength (SealStage.length_draws w' saltLength)
    rw [← hshelf] at hnext
    exact ⟨hbefore.keepsDirectories hkeeps, _, hprogram, hnext⟩

theorem resealed_of_sealing {password : String} {d : SealDraft} {fs after : FileSystem}
    (hd : d.Valid identity) (hlength : identity.length = Bundle.plainLength)
    (hfits : ∀ f, l.fits f = true) (hbefore : l.Stands fs storage) (hafter : l.Stands after storage)
    (hshelf : Shelf.ofDisk after storage = (Shelf.ofDisk fs storage).sealing password d)
    (hkeeps : FileSystem.KeepsDirectories fs after)
    (hothers : ∀ place, ¬l.Occupies storage place → after.standing? place = fs.standing? place) :
    l.Resealed fs after where
  salt := by
    refine ⟨d.salt, (Shelf.contentAt_eq_ok (f := .salt) hafter).2 ?_, hd.salt⟩
    rw [hshelf, Shelf.sealing_current]
    rfl
  identity := by
    refine ⟨d.bundle password, (Shelf.contentAt_eq_ok (f := .identity) hafter).2 ?_,
      d.length_bundle hd hlength password⟩
    rw [hshelf, Shelf.sealing_current]
    rfl
  drafts f := by
    have hgone : Shelf.ofDisk after storage (.draft f) = none := by
      rw [hshelf, Shelf.sealing_draft]
    rw [(hafter.names_draft (hfits f)).contentAt]
    rw [show after.standing? (f.parent storage ++ [f.name ++ ".tmp"]) = none from hgone]
  workingDirectory := hkeeps.workingDirectory
  others place hother := by
    refine hothers place ?_
    rintro ⟨s, -, rfl⟩
    exact hother s (hbefore.placeOf_slot hfits s)

theorem sealsOrKeeps_of_unfit {e : StoreError}
    (hunfit : ∀ identity, w.disk.contentAt l.identityKey = .ok identity →
      identity.length ≠ Bundle.plainLength) : l.SealsOrKeeps w (.error e) w where
  ok_iff := by
    refine ⟨nofun, fun hsealable => ?_⟩
    obtain ⟨identity, hplain, hlength⟩ := hsealable.plain
    exact absurd hlength (hunfit identity hplain)
  resealed := nofun
  identity _ := rfl
  load _ := rfl
  unchanged _ _ := rfl

/-- Sealing fails exactly where no plain identity is found or a directory is in the way, and it
never harms the identity. -/
theorem sealIdentity_sealsOrKeeps
    (hsize : (temporary l.identityKey).utf8ByteSize ≤ FileSystem.pathLimit) (password : String)
    (w : World) : l.SealsOrKeeps w ((l.sealIdentity password).run w).1
      ((l.sealIdentity password).run w).2 := by
  by_cases hfound : ∃ identity, w.disk.contentAt l.identityKey = .ok identity ∧
      identity.length = Bundle.plainLength
  · obtain ⟨identity, hplain, hlength⟩ := hfound
    have hfits := fits_of_size hsize
    obtain ⟨storage, hstands⟩ := Stands.of_contentAt hplain
    have hsealable := hstands.sealable_iff hfits hplain hlength
    obtain ⟨hkeeps, hothers⟩ := sealIdentity_leaves hstands password
    obtain ⟨hafter, hended⟩ := ended_sealIdentity password hstands hfits hplain hlength
    generalize (l.sealIdentity password).run w = after at *
    obtain ⟨result, w'⟩ := after
    cases hended with
    | sealed hd hfree hshelf =>
      have hresealed := resealed_of_sealing hd hlength hfits hstands hafter hshelf hkeeps hothers
      exact ⟨⟨fun _ => hsealable.2 hfree, fun _ => rfl⟩, fun _ => hresealed, nofun, nofun, nofun⟩
    | blocked hblocked hkept hother =>
      have hplain' := (Shelf.contentAt_eq_ok (f := .identity) hafter).2 hkept
      refine ⟨⟨nofun, fun h => absurd (hsealable.1 h _) hblocked⟩, nofun, fun _ => ?_, fun _ => ?_,
        fun hfailed hearly => ?_⟩
      · exact hplain'.trans hplain.symm
      · rw [Vault.run_load_plain hplain hlength, Vault.run_load_plain hplain' hlength]
      · -- The failure names another path than that of the identity.
        cases hfailed
        generalize hpath : ShelfSlot.path l _ = p at hearly
        cases hearly with
        | unreadable =>
          exact absurd (hstands.path_injective hfits (t := .current .identity) hpath) hother
  · have hunfit (identity : Bytes) (hplain : w.disk.contentAt l.identityKey = .ok identity)
        (hlength : identity.length = Bundle.plainLength) : False :=
      hfound ⟨identity, hplain, hlength⟩
    obtain ⟨e, hrun⟩ := run_sealIdentity_of_unfit l password hunfit
    rw [hrun]
    exact sealsOrKeeps_of_unfit hunfit

theorem sealsOrKeeps_plainStore :
    let w : World := { disk := plainStore (List.replicate 64 7) }
    SealsOrKeeps ⟨"/d"⟩ w ((sealIdentity ⟨"/d"⟩ "").run w).1 ((sealIdentity ⟨"/d"⟩ "").run w).2 :=
  sealIdentity_sealsOrKeeps (by decide +kernel) "" _

end StorageLayout

end IdentityVault
