import IdentityVault.Proofs.Program.Team
import IdentityVault.Proofs.Store.Protection

/-! Calls that seal the identity at the same time. They share the two drafts and the two places, so
a salt and an identity of different calls may end up beside each other. -/
namespace IdentityVault

namespace SealStage

/-- What a call has drawn at a stage. -/
def drawn : SealStage → List Bytes
  | .drawingVector _ salt => [salt]
  | .reporting d | .replacing _ _ d | .announcing d | .returned _ (some d) => [d.salt, d.vector]
  | .reading | .drawingSalt _ | .returned _ none => []

def draft : SealStage → Option SealDraft
  | .reporting d | .replacing _ _ d | .announcing d => some d
  | .returned _ d => d
  | .reading | .drawingSalt _ | .drawingVector _ _ => none

theorem drawn_of_draft {s : SealStage} {d : SealDraft} (h : s.draft = some d) :
    s.drawn = [d.salt, d.vector] := by
  cases s with
  | reporting | replacing | announcing =>
    cases h
    rfl
  | returned result drafted =>
    cases h
    rfl
  | reading | drawingSalt | drawingVector => cases h

variable {l : StorageLayout} {password : String} {w : World} {h : Shelf} {d : SealDraft}

theorem drawn_afterReading (standing : Option Standing) : (afterReading l standing).drawn = [] := by
  rcases standing with _ | _ | content
  · rfl
  · rfl
  · rcases hbundle : Bundle.ofBytes content with e | (plain | sealed) <;>
      simp only [afterReading, hbundle, drawn]

theorem draft_afterChange (f : StoredFile) (phase : Phase) (reply : Except OsError Unit) :
    (afterChange l f phase d reply).draft = some d := by
  cases reply with
  | error e => rfl
  | ok _ => cases f <;> cases phase <;> rfl

/-- What is drawn at a step is known at the next stage. -/
theorem drawn_advance (s : SealStage) :
    (s.advance l password (draws w) h).1.drawn = s.drawn ++ (s.program l password).draw w := by
  cases s with
  | reading => exact drawn_afterReading _
  | replacing f phase d =>
    rw [program_replacing, advance]
    exact drawn_of_draft (draft_afterChange f phase _)
  | returned result d => exact (List.append_nil _).symm
  | drawingSalt | drawingVector | reporting | announcing => rfl

/-- A call keeps the draft that it has begun with. -/
theorem draft_advance {s : SealStage} (hd : s.draft = some d) (draw : Nat → Bytes) :
    (s.advance l password draw h).1.draft = some d := by
  cases s with
  | replacing f phase drafted =>
    cases hd
    exact draft_afterChange f phase _
  | reporting | announcing | returned => exact hd
  | reading | drawingSalt | drawingVector => cases hd

end SealStage

namespace Overlap

variable {ι : Type} (passwords : ι → String) (identity : Bytes)

/-- A slot holds what one of the calls made for it. -/
def Holds (stages : ι → SealStage) (h : Shelf) (s : ShelfSlot) : Prop :=
  ∃ i d, (stages i).draft = some d ∧ h s = some (.file (d.content (passwords i) s.file))

/-- A draft is one of the calls', or was moved away. -/
def Movable (stages : ι → SealStage) (h : Shelf) (f : StoredFile) : Prop :=
  h (.draft f) = none ∨ Holds passwords stages h (.draft f)

/-- The identity stands in its place as it was, or sealed by a call and beside the salt of one. -/
def InPlace (stages : ι → SealStage) (h : Shelf) : Prop :=
  h (.current .identity) = some (.file identity) ∨
    Holds passwords stages h (.current .identity) ∧ Holds passwords stages h (.current .salt)

/-- What a call at a stage finds, whatever the other calls did. -/
def Finds (stages : ι → SealStage) (h : Shelf) : SealStage → Prop
  | .replacing f phase _ =>
      (phase = .move → Movable passwords stages h f) ∧
        (f = .identity → Holds passwords stages h (.current .salt))
  | _ => True

/-- What a call has read is the identity. -/
def Reads (identity : Bytes) : SealStage → Prop
  | .drawingSalt read => read = identity
  | .drawingVector read salt => read = identity ∧ salt.length = saltLength
  | s => ∀ d, s.draft = some d → d.Valid identity

structure Sound (stages : ι → SealStage) (h : Shelf) : Prop where
  place : InPlace passwords identity stages h
  finds (i : ι) : Finds passwords stages h (stages i)
  reads (i : ι) : Reads identity (stages i)

/-- A step takes nothing from the calls that they rely on. -/
structure Leaves (stages stages' : ι → SealStage) (h h' : Shelf) : Prop where
  place : InPlace passwords identity stages h → InPlace passwords identity stages' h'
  draft (f : StoredFile) : Movable passwords stages h f → Movable passwords stages' h' f
  salt : Holds passwords stages h (.current .salt) → Holds passwords stages' h' (.current .salt)

variable {passwords identity} {stages stages' : ι → SealStage} {h h' : Shelf}

theorem Leaves.finds (hleaves : Leaves passwords identity stages stages' h h') {s : SealStage}
    (hs : Finds passwords stages h s) : Finds passwords stages' h' s := by
  cases s with
  | replacing f phase d =>
    exact ⟨fun hmove => hleaves.draft f (hs.1 hmove), fun hf => hleaves.salt (hs.2 hf)⟩
  | reading | drawingSalt | drawingVector | reporting | announcing | returned => trivial

/-- The calls keep their drafts. -/
def KeepDrafts (stages stages' : ι → SealStage) : Prop :=
  ∀ i d, (stages i).draft = some d → (stages' i).draft = some d

theorem Holds.mono (hkeep : KeepDrafts stages stages') {s t : ShelfSlot}
    (hs : Holds passwords stages h s) (hfile : t.file = s.file) (hslot : h' t = h s) :
    Holds passwords stages' h' t := by
  obtain ⟨i, d, hd, hcontent⟩ := hs
  exact ⟨i, d, hkeep i d hd, by rw [hslot, hfile, hcontent]⟩

theorem leaves_same (hkeep : KeepDrafts stages stages') :
    Leaves passwords identity stages stages' h h where
  place hplace := hplace.imp id fun ⟨hidentity, hsalt⟩ =>
    ⟨hidentity.mono hkeep rfl rfl, hsalt.mono hkeep rfl rfl⟩
  draft _ hdraft := hdraft.imp id fun hholds => hholds.mono hkeep rfl rfl
  salt hsalt := hsalt.mono hkeep rfl rfl

/-- Writing the draft of one of the calls. -/
theorem leaves_write (hkeep : KeepDrafts stages stages') {i : ι} {d : SealDraft} {f : StoredFile}
    (hd : (stages' i).draft = some d) :
    Leaves passwords identity stages stages' h
      (h.put (.draft f) (some (d.content (passwords i) f))) where
  place hplace := by
    rcases hplace with hplain | ⟨hidentity, hsalt⟩
    · left
      rw [Shelf.put_draft_current]
      exact hplain
    · exact .inr ⟨hidentity.mono hkeep rfl (Shelf.put_draft_current ..),
        hsalt.mono hkeep rfl (Shelf.put_draft_current ..)⟩
  draft g hdraft := by
    rcases eq_or_ne g f with rfl | hg
    · exact .inr ⟨i, d, hd, Shelf.put_self ..⟩
    · rcases hdraft with hnone | hholds
      · left
        rw [Shelf.put_draft_of_ne _ hg]
        exact hnone
      · exact .inr (hholds.mono hkeep rfl (Shelf.put_draft_of_ne _ hg _))
  salt hsalt := hsalt.mono hkeep rfl (Shelf.put_draft_current ..)

theorem holds_moved (hkeep : KeepDrafts stages stages') {f : StoredFile} {content : Bytes}
    (hdraft : Holds passwords stages h (.draft f))
    (hcontent : h (.draft f) = some (.file content)) :
    Holds passwords stages' (h.replace f content) (.current f) := by
  refine hdraft.mono hkeep rfl ?_
  rw [hcontent, Shelf.replace_self]

/-- Moving a draft into its place. The salt of a call is in place by the time that a sealed
identity is moved. -/
theorem leaves_move (hkeep : KeepDrafts stages stages') {f : StoredFile} {content : Bytes}
    (hdraft : Holds passwords stages h (.draft f))
    (hcontent : h (.draft f) = some (.file content))
    (hsalt : f = .identity → Holds passwords stages h (.current .salt)) :
    Leaves passwords identity stages stages' h (h.replace f content) := by
  have hmoved := holds_moved hkeep hdraft hcontent
  have hother {g : StoredFile} (hg : g ≠ f) (hholds : Holds passwords stages h (.current g)) :
      Holds passwords stages' (h.replace f content) (.current g) :=
    hholds.mono hkeep rfl (h.replace_of_ne hg content)
  have hbeside (hholds : Holds passwords stages h (.current .salt)) :
      Holds passwords stages' (h.replace f content) (.current .salt) := by
    cases f with
    | salt => exact hmoved
    | identity => exact hother (by decide) hholds
  constructor
  · intro hplace
    cases f with
    | identity => exact .inr ⟨hmoved, hbeside (hsalt rfl)⟩
    | salt =>
      rcases hplace with hplain | ⟨hidentity, hbefore⟩
      · left
        rw [h.replace_of_ne (by decide)]
        exact hplain
      · exact .inr ⟨hother (by decide) hidentity, hmoved⟩
  · intro g hg
    have hslot := h.replace_draft f g content
    by_cases hgf : g = f
    · rw [if_pos hgf] at hslot
      exact .inl hslot
    · rw [if_neg hgf] at hslot
      exact hg.imp (fun hnone => hslot.trans hnone) fun hholds => hholds.mono hkeep rfl hslot
  · exact hbeside

variable {l : StorageLayout}

theorem Reads.valid {s : SealStage} {d : SealDraft} (hs : Reads identity s)
    (hd : s.draft = some d) : d.Valid identity := by
  cases s with
  | drawingSalt | drawingVector => cases hd
  | reading | reporting | replacing | announcing | returned => exact hs d hd

theorem reads_of_draft {s : SealStage} {d : SealDraft} (hd : s.draft = some d)
    (hvalid : d.Valid identity) : Reads identity s := by
  cases s with
  | drawingSalt | drawingVector => cases hd
  | reading | reporting | replacing | announcing | returned =>
    intro other hother
    rw [hd] at hother
    cases hother
    exact hvalid

/-- A call that reads goes on with the identity, or is refused. -/
theorem Sound.afterReading (hsound : Sound passwords identity stages h)
    (hlength : identity.length = Bundle.plainLength) :
    SealStage.afterReading l (h (.current .identity)) = .drawingSalt identity ∨
      SealStage.afterReading l (h (.current .identity)) =
        .returned (.error .alreadySealed) none := by
  rcases hsound.place with hplain | ⟨⟨i, d, hd, hcontent⟩, -⟩
  · left
    rw [hplain]
    exact SealStage.afterReading_plain hlength
  · right
    rw [hcontent]
    exact SealStage.afterReading_bundle ((hsound.reads i).valid hd) hlength (passwords i)

variable [DecidableEq ι]

theorem keepDrafts_update {i : ι} {s : SealStage}
    (h : ∀ d, (stages i).draft = some d → s.draft = some d) :
    KeepDrafts stages (Function.update stages i s) := by
  have hother (j : ι) (_ : j ≠ i) (d : SealDraft) (hd : (stages j).draft = some d) :
      (stages j).draft = some d := hd
  exact (Function.forall_update_iff stages
    fun j s => ∀ d, (stages j).draft = some d → s.draft = some d).2 ⟨h, hother⟩

/-- A step is sound if it takes nothing from the others and leaves the call that makes it with what
it relies on. -/
theorem Sound.update (hsound : Sound passwords identity stages h) {i : ι} {s : SealStage}
    (hleaves : Leaves passwords identity stages (Function.update stages i s) h h')
    (hfinds : Finds passwords (Function.update stages i s) h' s) (hreads : Reads identity s) :
    Sound passwords identity (Function.update stages i s) h' where
  place := hleaves.place hsound.place
  finds := (Function.forall_update_iff stages fun _ s => Finds passwords _ h' s).2
    ⟨hfinds, fun j _ => hleaves.finds (hsound.finds j)⟩
  reads := (Function.forall_update_iff stages fun _ s => Reads identity s).2
    ⟨hreads, fun j _ => hsound.reads j⟩

theorem keepDrafts_of_draft {i : ι} {s : SealStage} {d : SealDraft}
    (hd : (stages i).draft = some d) (hs : s.draft = some d) :
    KeepDrafts stages (Function.update stages i s) := by
  apply keepDrafts_update
  intro d' hd'
  rw [hd] at hd'
  cases hd'
  exact hs

/-- A call goes on with its draft. -/
theorem Sound.update_of_draft (hsound : Sound passwords identity stages h) {i : ι} {s : SealStage}
    {d : SealDraft} (hd : (stages i).draft = some d) (hs : s.draft = some d)
    (hleaves : Leaves passwords identity stages (Function.update stages i s) h h')
    (hfinds : Finds passwords (Function.update stages i s) h' s) :
    Sound passwords identity (Function.update stages i s) h' := by
  have hvalid := (hsound.reads i).valid hd
  exact hsound.update hleaves hfinds (reads_of_draft hs hvalid)

theorem Sound.failed (hsound : Sound passwords identity stages h) {i : ι} {d : SealDraft}
    (hd : (stages i).draft = some d) (result : Except StoreError Unit) :
    Sound passwords identity (Function.update stages i (.returned result (some d))) h := by
  have hkeep := keepDrafts_of_draft (s := .returned result (some d)) hd rfl
  exact hsound.update_of_draft hd rfl (leaves_same hkeep) trivial

theorem Sound.wrote (hsound : Sound passwords identity stages h) {i : ι} {f : StoredFile}
    {d : SealDraft} (hstage : stages i = .replacing f .write d) :
    Sound passwords identity (Function.update stages i (.replacing f .move d))
      (h.put (.draft f) (some (d.content (passwords i) f))) := by
  have hd : (stages i).draft = some d := congrArg SealStage.draft hstage
  have hown : (Function.update stages i (.replacing f .move d) i).draft = some d := by
    rw [Function.update_self]
    rfl
  have hkeep := keepDrafts_of_draft (s := .replacing f .move d) hd rfl
  have hfinds := hsound.finds i
  rw [hstage] at hfinds
  refine hsound.update_of_draft hd rfl (leaves_write hkeep hown) ?_
  constructor
  · intro _
    exact .inr ⟨i, d, hown, Shelf.put_self ..⟩
  · intro hf
    exact (hfinds.2 hf).mono hkeep rfl (Shelf.put_draft_current ..)

theorem Sound.moved (hsound : Sound passwords identity stages h) {i : ι} {f : StoredFile}
    {d : SealDraft} (hstage : stages i = .replacing f .move d) {content : Bytes}
    (hcontent : h (.draft f) = some (.file content)) :
    Sound passwords identity (Function.update stages i (SealStage.afterPhase d f .move))
      (h.replace f content) := by
  have hd : (stages i).draft = some d := congrArg SealStage.draft hstage
  have hs : (SealStage.afterPhase d f .move).draft = some d := by cases f <;> rfl
  have hkeep := keepDrafts_of_draft hd hs
  have hfinds := hsound.finds i
  rw [hstage] at hfinds
  have hholds : Holds passwords stages h (.draft f) := by
    rcases hfinds.1 rfl with hnone | hholds
    · rw [hcontent] at hnone
      cases hnone
    · exact hholds
  refine hsound.update_of_draft hd hs (leaves_move hkeep hholds hcontent hfinds.2) ?_
  cases f with
  | salt =>
    constructor
    · intro hmove
      cases hmove
    · intro _
      exact holds_moved hkeep hholds hcontent
  | identity => trivial

theorem Sound.replacing (hsound : Sound passwords identity stages h) {i : ι} {f : StoredFile}
    {phase : Phase} {d : SealDraft} (hstage : stages i = .replacing f phase d)
    (draw : Nat → Bytes) :
    Sound passwords identity
      (Function.update stages i
        ((SealStage.replacing f phase d).advance l (passwords i) draw h).1)
      ((SealStage.replacing f phase d).advance l (passwords i) draw h).2 := by
  have hd : (stages i).draft = some d := congrArg SealStage.draft hstage
  cases phase with
  | makeDirectory =>
    have hkeep := keepDrafts_of_draft (s := .replacing f .write d) hd rfl
    have hfinds := hsound.finds i
    rw [hstage] at hfinds
    have hsalt := fun hf => (hfinds.2 hf).mono hkeep rfl rfl
    exact hsound.update_of_draft hd rfl (leaves_same hkeep) ⟨by simp, hsalt⟩
  | write =>
    rcases Shelf.apply_write l.fits f (d.content (passwords i) f) h with happly | ⟨e, happly⟩ <;>
      simp only [SealStage.advance, Phase.change, happly]
    · exact hsound.wrote hstage
    · exact hsound.failed hd _
  | move =>
    rcases Shelf.apply_move l.fits f h with ⟨content, hcontent, happly⟩ | ⟨e, happly⟩ <;>
      simp only [SealStage.advance, Phase.change, happly]
    · exact hsound.moved hstage hcontent
    · exact hsound.failed hd _

theorem Sound.advance (hlength : identity.length = Bundle.plainLength)
    (hsound : Sound passwords identity stages h) (i : ι) {draw : Nat → Bytes}
    (hdraw : (draw saltLength).length = saltLength) :
    Sound passwords identity
      (Function.update stages i ((stages i).advance l (passwords i) draw h).1)
      ((stages i).advance l (passwords i) draw h).2 := by
  have hreads := hsound.reads i
  have hfinds := hsound.finds i
  have hkeep : KeepDrafts stages
      (Function.update stages i ((stages i).advance l (passwords i) draw h).1) :=
    keepDrafts_update fun d hd => SealStage.draft_advance hd draw
  generalize hstage : stages i = s at hreads hfinds hkeep
  cases s with
  | reading =>
    simp only [SealStage.advance] at hkeep ⊢
    rcases hsound.afterReading (l := l) hlength with hnext | hnext <;> rw [hnext] at hkeep ⊢
    · exact hsound.update (leaves_same hkeep) trivial rfl
    · exact hsound.update (leaves_same hkeep) trivial (by simp [Reads, SealStage.draft])
  | drawingSalt read => exact hsound.update (leaves_same hkeep) trivial ⟨hreads, hdraw⟩
  | drawingVector read salt =>
    refine hsound.update (leaves_same hkeep) trivial ?_
    rintro d ⟨rfl⟩
    exact ⟨hreads.1, hreads.2⟩
  | reporting d =>
    exact hsound.update (leaves_same hkeep) ⟨by simp, by simp⟩ hreads
  | replacing f phase d => exact hsound.replacing hstage draw
  | announcing d => exact hsound.update (leaves_same hkeep) trivial hreads
  | returned result d => exact hsound.update (leaves_same hkeep) trivial hreads

/-- Calls that seal the identity at the same time have come to this point. -/
structure Together (l : StorageLayout) (storage : List String) (passwords : ι → String)
    (identity : Bytes) (t : Team ι (Except StoreError Unit)) (stages : ι → SealStage) : Prop where
  programs (i : ι) : t.programs i = (stages i).program l (passwords i)
  drawn (i : ι) : t.drawn i = (stages i).drawn
  stands : l.Stands t.world.disk storage
  sound : Sound passwords identity stages (Shelf.ofDisk t.world.disk storage)

variable {storage : List String} {t : Team ι (Except StoreError Unit)}

theorem Together.step (hlength : identity.length = Bundle.plainLength)
    (ht : Together l storage passwords identity t stages) (i : ι) :
    Together l storage passwords identity (t.step i)
      (Function.update stages i ((stages i).advance l (passwords i) (SealStage.draws t.world)
        (Shelf.ofDisk t.world.disk storage)).1) := by
  obtain ⟨hprogram, hshelf, -, hkeeps⟩ :=
    SealStage.simulates (passwords i) ht.stands (stages i)
  have hsound := ht.sound.advance (l := l) hlength i (SealStage.length_draws t.world saltLength)
  rw [← hshelf] at hsound
  constructor
  · intro j
    rcases eq_or_ne j i with rfl | hj
    · simp only [Team.step, Function.update_self, ht.programs, hprogram]
    · simp only [Team.step, Function.update_of_ne hj, ht.programs]
  · intro j
    rcases eq_or_ne j i with rfl | hj
    · simp only [Team.step, Function.update_self, ht.drawn, ht.programs, SealStage.drawn_advance]
    · simp only [Team.step, Function.update_of_ne hj, ht.drawn]
  · simp only [Team.step, ht.programs]
    exact ht.stands.keepsDirectories hkeeps
  · simp only [Team.step, ht.programs]
    exact hsound

omit [DecidableEq ι] in
theorem together_start {w : World} (h : Protection.plain.Shown l storage identity w.disk)
    (passwords : ι → String) :
    Together l storage passwords identity (Team.start (fun i => l.sealIdentity (passwords i)) w)
      fun _ => .reading where
  programs _ := rfl
  drawn _ := rfl
  stands := h.1
  sound := ⟨.inl h.2, fun _ => trivial, fun _ _ hd => nomatch hd⟩

end Overlap

open Overlap

variable {ι : Type} {l : StorageLayout} {storage : List String} {identity : Bytes}
  {passwords : ι → String} {t : Team ι (Except StoreError Unit)} {stages : ι → SealStage}

/-- A vault that waits for a password. One call sealed its identity and one call drew its salt; a
password unlocks it if and only if under that salt it seals the identity to the same bytes. -/
def SealedTogether (passwords : ι → String) (identity : Bytes)
    (t : Team ι (Except StoreError Unit)) (v : Vault) : Prop :=
  ∃ i j, ∃ d d' : SealDraft, d.identity = identity ∧
    t.drawn i = [d.salt, d.vector] ∧ t.drawn j = [d'.salt, d'.vector] ∧
    v.bundle = some (.sealed (d.bundle (passwords i))) ∧ v.salt = some d'.salt ∧
    (d'.salt = d.salt → (v.supply (passwords i)).Unlocks identity) ∧
    ∀ password, (v.supply password).Unlocks identity ↔
      { d with salt := d'.salt }.bundle password = d.bundle (passwords i)

theorem sealedTogether_of_holds (hlength : identity.length = Bundle.plainLength)
    (ht : Together l storage passwords identity t stages) {h : Shelf}
    (hidentity : Holds passwords stages h (.current .identity))
    (hsalt : Holds passwords stages h (.current .salt)) :
    ∃ payload salt, h (.current .identity) = some (.file payload) ∧
      h (.current .salt) = some (.file salt) ∧ payload.length = Bundle.sealedLength ∧
      SealedTogether passwords identity t ⟨l, .awaitingPassword payload (some salt)⟩ := by
  obtain ⟨i, d, hd, hpayload⟩ := hidentity
  obtain ⟨j, d', hd', hplaced⟩ := hsalt
  have hvalid := (ht.sound.reads i).valid hd
  have hvalid' := (ht.sound.reads j).valid hd'
  have hunlocks (password : String) :
      (Vault.supply ⟨l, .awaitingPassword (d.bundle (passwords i)) (some d'.salt)⟩
        password).Unlocks identity ↔
        { d with salt := d'.salt }.bundle password = d.bundle (passwords i) := by
    rw [Vault.supply_unlocks_iff hlength hvalid'.salt_ne_nil]
    constructor
    · rintro ⟨vector, hsame⟩
      have hvector := Payload.vector_of_sealed_eq hsame
      rw [hsame, ← hvector, SealDraft.bundle, hvalid.identity]
    · intro hsame
      exact ⟨Block.ofBytes d.vector, by rw [← hsame, SealDraft.bundle, hvalid.identity]⟩
  refine ⟨_, _, hpayload, hplaced, d.length_bundle hvalid hlength _, i, j, d, d', hvalid.identity,
    ?_, ?_, rfl, rfl, ?_, hunlocks⟩
  · rw [ht.drawn, SealStage.drawn_of_draft hd]
  · rw [ht.drawn, SealStage.drawn_of_draft hd']
  · intro hown
    exact (hunlocks _).2 (by rw [hown])

/-- What a vault finds at any moment, while the calls are under way or after them. -/
theorem Overlap.Together.load (hlength : identity.length = Bundle.plainLength)
    (ht : Together l storage passwords identity t stages) {later : World}
    (hdisk : later.disk = t.world.disk) :
    ∃ state v, (l.freshVault.load.run later).1 = (.ok state, v) ∧
      (state = .ready ∧ v.Unlocked identity ∨
        state = .awaitingPassword ∧ SealedTogether passwords identity t v) := by
  have hread (f : StoredFile) {content : Bytes}
      (hcontent : Shelf.ofDisk t.world.disk storage (.current f) = some (.file content)) :
      later.disk.contentAt (f.path l) = .ok content := by
    rw [hdisk]
    exact (Shelf.contentAt_eq_ok ht.stands).2 hcontent
  rw [(Vault.readsOnly_load _).run_eq_runAmid later 0]
  rcases ht.sound.place with hidentity | ⟨hidentity, hsalt⟩
  · have hload := Vault.runAmid_load_plain (fun _ => later.disk)
      (hread .identity hidentity) hlength later
    exact ⟨_, _, hload, .inl ⟨rfl, Vault.unlocked_ready none hlength⟩⟩
  · obtain ⟨payload, salt, hpayload, hplaced, hsealed, htogether⟩ :=
      sealedTogether_of_holds hlength ht hidentity hsalt
    obtain ⟨hload, -⟩ := Vault.runAmid_load_sealed (fun _ => later.disk)
      (hread .identity hpayload) hsealed (hread .salt hplaced) later
    exact ⟨_, _, hload, .inr ⟨rfl, htogether⟩⟩

variable [DecidableEq ι] {w : World}

/-- Calls that seal the identity at the same time, after the steps that a schedule lists. -/
def StorageLayout.sealingTeam (l : StorageLayout) (passwords : ι → String) (w : World)
    (schedule : List ι) : Team ι (Except StoreError Unit) :=
  (Team.start (fun i => l.sealIdentity (passwords i)) w).run schedule

theorem together_sealingTeam (hplain : w.disk.contentAt l.identityKey = .ok identity)
    (hlength : identity.length = Bundle.plainLength) (passwords : ι → String) (schedule : List ι) :
    ∃ storage stages, Together l storage passwords identity
      (l.sealingTeam passwords w schedule) stages := by
  obtain ⟨storage, hshown⟩ := Protection.exists_shown hplain
  refine ⟨storage, Team.run_induction
    (I := fun t => ∃ stages, Together l storage passwords identity t stages) ?_
    ⟨_, together_start hshown passwords⟩ schedule⟩
  rintro t i ⟨stages, ht⟩
  exact ⟨_, ht.step hlength i⟩

/-- Calls seal the identity at the same time, in any order of their steps. At any moment the
identity is plain, or sealed by one of the calls and beside the salt of one of them. -/
theorem load_sealingTeam (hplain : w.disk.contentAt l.identityKey = .ok identity)
    (hlength : identity.length = Bundle.plainLength) (passwords : ι → String) (schedule : List ι)
    {later : World} (hdisk : later.disk = (l.sealingTeam passwords w schedule).world.disk) :
    ∃ state v, (l.freshVault.load.run later).1 = (.ok state, v) ∧
      (state = .ready ∧ v.Unlocked identity ∨
        state = .awaitingPassword ∧
          SealedTogether passwords identity (l.sealingTeam passwords w schedule) v) := by
  obtain ⟨storage, stages, ht⟩ := together_sealingTeam hplain hlength passwords schedule
  exact ht.load hlength hdisk

/-- A world with a plain identity, and a generator that gives zeros to the call that asks first and
ones to the next. -/
def crossedWorld : World where
  disk := plainStore (List.replicate 64 7)
  entropy i := if i < 24 then 0 else 1

/-- Two calls with the empty password. The first stops before it writes its sealed identity, and
goes on when the second has returned. -/
def crossedTeam : Team Bool (Except StoreError Unit) :=
  StorageLayout.sealingTeam ⟨"/d"⟩ (fun _ => "") crossedWorld
    (List.replicate 8 false ++ List.replicate 11 true ++ List.replicate 3 false)

theorem load_crossedTeam :
    ∃ state v, ((StorageLayout.freshVault ⟨"/d"⟩).load.run crossedTeam.world).1 = (.ok state, v) ∧
      (state = .ready ∧ v.Unlocked (List.replicate 64 7) ∨
        state = .awaitingPassword ∧
          SealedTogether (fun _ => "") (List.replicate 64 7) crossedTeam v) :=
  load_sealingTeam (l := ⟨"/d"⟩) (w := crossedWorld) (by rfl) (by rfl) _ _ rfl

theorem together_crossedTeam : ∃ storage stages,
    Together ⟨"/d"⟩ storage (fun _ => "") (List.replicate 64 7) crossedTeam stages :=
  together_sealingTeam (l := ⟨"/d"⟩) (w := crossedWorld) (by rfl) (by rfl) _ _

theorem drawn_crossedTeam (i : Bool) :
    crossedTeam.drawn i =
      if i then [List.replicate 8 1, List.replicate 16 1]
      else [List.replicate 8 0, List.replicate 16 0] := by
  revert i
  decide +kernel

theorem returned_crossedTeam (i : Bool) : crossedTeam.programs i = .done (.ok ()) := by
  have hreturned : ∀ i, (crossedTeam.programs i).result?.map Except.toOption = some (some ()) := by
    decide +kernel
  obtain ⟨result, hresult, hok⟩ := Option.map_eq_some_iff.1 (hreturned i)
  cases result with
  | error e => cases hok
  | ok _ => exact Program.eq_done_of_result? hresult

/-- The identity shows the vector of the first call, the salt is that of the second. -/
theorem shown_crossedTeam :
    ((StorageLayout.freshVault ⟨"/d"⟩).load.run crossedTeam.world).1.1.toOption =
        some .awaitingPassword ∧
      ((StorageLayout.freshVault ⟨"/d"⟩).load.run crossedTeam.world).1.2.salt =
        some (List.replicate 8 1) ∧
      ((StorageLayout.freshVault ⟨"/d"⟩).load.run crossedTeam.world).1.2.bundle.map
        (fun bundle => bundle.content.take Payload.vectorLength) = some (List.replicate 16 0) := by
  decide +kernel

/-- The vector tells that the first call sealed the identity. -/
theorem draft_of_zero_vector {i : Bool} {d : SealDraft}
    (hdrawn : crossedTeam.drawn i = [d.salt, d.vector])
    (hzeros : (Block.ofBytes d.vector).toBytes = List.replicate 16 0) :
    d.salt = List.replicate 8 0 ∧ d.vector = List.replicate 16 0 := by
  rw [drawn_crossedTeam] at hdrawn
  cases i with
  | false => simpa [eq_comm] using hdrawn
  | true =>
    simp only [if_true, List.cons.injEq, and_true] at hdrawn
    rw [← hdrawn.2] at hzeros
    have hones : (Block.ofBytes (List.replicate 16 1)).toBytes ≠ List.replicate 16 0 := by
      decide +kernel
    exact absurd hzeros hones

/-- Both calls return well, and then their password does not give the identity back. -/
theorem crossedTeam_loses_identity :
    (∀ i, crossedTeam.programs i = .done (.ok ())) ∧
      ∃ v, ((StorageLayout.freshVault ⟨"/d"⟩).load.run crossedTeam.world).1 =
          (.ok .awaitingPassword, v) ∧ ¬ (v.supply "").Unlocks (List.replicate 64 7) := by
  refine ⟨returned_crossedTeam, ?_⟩
  obtain ⟨hstate, hsalt, hvector⟩ := shown_crossedTeam
  obtain ⟨storage, stages, ht⟩ := together_crossedTeam
  have hdisk : crossedTeam.world.disk = crossedTeam.world.disk := rfl
  obtain ⟨state, v, hload, hcases⟩ := ht.load (by rfl) hdisk
  rw [hload] at hstate hsalt hvector
  cases hstate
  refine ⟨v, hload, ?_⟩
  intro hunlocked
  rcases hcases with ⟨hready, -⟩ | ⟨-, i, j, d, d', hidentity, hdrawn, -, hbundle, hplaced, -, hiff⟩
  · cases hready
  · have hsame := (hiff "").1 hunlocked
    have htake : (Block.ofBytes d.vector).toBytes = List.replicate 16 0 := by
      rw [hbundle] at hvector
      exact (Payload.take_sealed _ _ _).symm.trans (Option.some.inj hvector)
    obtain ⟨hzeros, hvectors⟩ := draft_of_zero_vector hdrawn htake
    have hones : d'.salt = List.replicate 8 1 := by
      rw [hplaced] at hsalt
      exact Option.some.inj hsalt
    rw [SealDraft.bundle, SealDraft.bundle, hidentity, hvectors, hzeros, hones] at hsame
    have hblocks := Payload.encrypt_eq_of_sealed_eq (by decide) hsame
    exact KeyMaterial.encrypt_zeros_ne_ones hblocks.symm

end IdentityVault
