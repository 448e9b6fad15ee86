import IdentityVault.Proofs.Store.Lifetime
import IdentityVault.Store.VaultRecord

/-! The life of a vault whose state, identity and salt are set one by one. Every way out of a load
and of an attempt leaves parts that fit each other, whatever was read. A record and the vault that
it is the record of then live alike. -/
namespace IdentityVault

/-- The states that a state can be followed by, itself included. -/
inductive StoreState.Leads : StoreState → StoreState → Prop where
  | stays (state : StoreState) : Leads state state
  | asks : Leads .unloaded .awaitingPassword
  | opens : Leads .unloaded .ready
  | unlocks : Leads .awaitingPassword .ready

theorem StoreState.Leads.trans {a b c : StoreState} (hab : a.Leads b) (hbc : b.Leads c) :
    a.Leads c := by
  cases hab with
  | stays => exact hbc
  | asks =>
    cases hbc with
    | stays => exact .asks
    | unlocks => exact .opens
  | opens =>
    cases hbc
    exact .opens
  | unlocks =>
    cases hbc
    exact .unlocks

namespace VaultRecord

variable {r r' : VaultRecord} {content payload : Bytes} {bundle : Bundle} {keys : KeyMaterial}

/-- How a call can change a record. To open it leaves the salt alone. -/
inductive Moves (r : VaultRecord) : VaultRecord → Prop where
  | stays : Moves r r
  | asks {payload : Bytes} (salt : Option Bytes) (fresh : r.state = .unloaded)
      (length : payload.length = Bundle.sealedLength) :
      Moves r { r with state := .awaitingPassword, bundle := some (.sealed payload), salt := salt }
  | opens {identity : Bytes} (locked : r.state ≠ .ready)
      (length : identity.length = Bundle.plainLength) :
      Moves r { r with state := .ready, bundle := some (.plain identity) }

theorem moves_keep (hfresh : r.state = .unloaded) (hread : Bundle.ofBytes content = .ok bundle) :
    (r.keep bundle).Returns fun reply => r.Moves reply.2 := by
  cases bundle with
  | plain identity =>
    obtain ⟨rfl, hlength⟩ := Bundle.ofBytes_eq_plain_iff.1 hread
    exact .bind (Program.log _) fun _ => .done (.opens (by simp [hfresh]) hlength)
  | sealed payload =>
    obtain ⟨rfl, hlength⟩ := Bundle.ofBytes_eq_sealed_iff.1 hread
    refine .bind (readOptional r.layout.salt) fun found => ?_
    rcases found with e | (_ | salt)
    · -- nothing is set before the salt was read
      exact .done .stays
    · refine .bind (Program.log _) fun _ => .bind (Program.perform _) fun _ => .done ?_
      exact .asks none hfresh hlength
    · refine .bind (Program.log _) fun _ => ?_
      refine .bind (Program.log _) fun _ => .bind (Program.perform _) fun _ => .done ?_
      exact .asks (some salt) hfresh hlength

/-- The record that each way out of a load leaves. -/
theorem moves_load (r : VaultRecord) : r.load.Returns fun reply => r.Moves reply.2 := by
  unfold load
  split_ifs with hfresh
  · exact .done .stays
  rw [not_not] at hfresh
  refine .bind (readOptional r.layout.identityKey) fun found => ?_
  rcases found with e | (_ | content)
  · exact .done .stays
  · exact .bind (Program.log _) fun _ => .bind (Program.log _) fun _ => .done .stays
  · dsimp only
    split
    · exact .bind (Program.log _) fun _ => .done .stays
    · rename_i hread
      exact moves_keep hfresh hread

/-- How an attempt on a record ends, whether or not the parts of the record fit each other. -/
inductive AttemptExit (r : VaultRecord) : Except StoreError AttemptResult × VaultRecord → Prop where
  | invalidState
      (unfit : r.state ≠ .awaitingPassword ∨ ∀ payload, r.bundle ≠ some (.sealed payload)) :
      AttemptExit r (.error (.invalidState r.state), r)
  | failed {e : StoreError} (other : ∀ state, e ≠ .invalidState state) : AttemptExit r (.error e, r)
  | refused : AttemptExit r (.ok .decryptionFailure, r)
  | unlocked {identity : Bytes} (asked : r.state = .awaitingPassword)
      (length : identity.length = Bundle.plainLength) :
      AttemptExit r (.ok .ready, { r with state := .ready, bundle := some (.plain identity) })

theorem attemptExit_unlock (hasked : r.state = .awaitingPassword) :
    (r.unlock keys payload).Returns r.AttemptExit := by
  unfold unlock
  dsimp only
  split
  · split_ifs with hlength
    · exact .bind (Program.log _) fun _ => .done (.unlocked hasked hlength)
    · exact .done (.failed (by simp))
  · exact .bind (Program.log _) fun _ => .done .refused
  · exact .done (.failed (by simp))

theorem attemptExit (r : VaultRecord) (password : String) :
    (r.attempt password).Returns r.AttemptExit := by
  unfold attempt
  split_ifs with hasked
  · exact .done (.invalidState (.inl hasked))
  rw [not_not] at hasked
  split
  · split
    · refine .bind (Program.log _) fun _ => ?_
      split
      · exact .done (.failed (by simp))
      · exact .bind (Program.logAll _) fun _ => attemptExit_unlock hasked
    · exact .done (.failed (by simp))
  · rename_i hunsealed
    exact .done (.invalidState (.inr hunsealed))

theorem AttemptExit.moves {reply : Except StoreError AttemptResult × VaultRecord}
    (h : r.AttemptExit reply) : r.Moves reply.2 := by
  cases h with
  | invalidState | failed | refused => exact .stays
  | unlocked hasked hlength => exact .opens (by simp [hasked]) hlength

/-- A record that awaits a password is in the wrong state for it only with nothing sealed. -/
theorem attempt_invalidState_iff (r : VaultRecord) (password : String) (w : World) :
    (∃ state, ((r.attempt password).run w).1.1 = .error (.invalidState state)) ↔
      r.state ≠ .awaitingPassword ∨ ∀ payload, r.bundle ≠ some (.sealed payload) := by
  constructor
  · rintro ⟨state, hreply⟩
    have hexit := (r.attemptExit password).run w
    generalize ((r.attempt password).run w).1 = reply at hreply hexit
    cases hexit with
    | invalidState hunfit => exact hunfit
    | failed hother =>
      rw [Except.error.injEq] at hreply
      exact absurd hreply (hother state)
    | refused | unlocked => simp at hreply
  · intro hunfit
    refine ⟨r.state, ?_⟩
    unfold attempt
    split_ifs with hasked
    · rfl
    · split
      · rename_i payload hsealed
        exact absurd hsealed (hunfit.resolve_left hasked payload)
      · rfl

/-- State, identity and salt fit each other. -/
structure Coherent (r : VaultRecord) : Prop where
  unloaded (h : r.state = .unloaded) : r.bundle = none ∧ r.salt = none
  awaitingPassword (h : r.state = .awaitingPassword) :
    ∃ payload, r.bundle = some (.sealed payload) ∧ payload.length = Bundle.sealedLength
  ready (h : r.state = .ready) :
    ∃ identity, r.bundle = some (.plain identity) ∧ identity.length = Bundle.plainLength

theorem coherent_fresh (l : StorageLayout) : Coherent { layout := l } where
  unloaded _ := ⟨rfl, rfl⟩
  awaitingPassword h := by cases h
  ready h := by cases h

theorem Coherent.move (h : r.Coherent) (hmove : r.Moves r') : r'.Coherent := by
  cases hmove with
  | stays => exact h
  | asks salt _ hlength =>
    refine ⟨?_, ?_, ?_⟩
    · intro hstate
      cases hstate
    · intro _
      exact ⟨_, rfl, hlength⟩
    · intro hstate
      cases hstate
  | opens _ hlength =>
    refine ⟨?_, ?_, ?_⟩
    · intro hstate
      cases hstate
    · intro hstate
      cases hstate
    · intro _
      exact ⟨_, rfl, hlength⟩

theorem Coherent.isSome_identity_iff (h : r.Coherent) : r.identity.isSome ↔ r.state = .ready := by
  constructor
  · intro hsome
    unfold identity at hsome
    split at hsome
    · assumption
    · cases hsome
  · intro hready
    obtain ⟨identity, hbundle, hlength⟩ := h.ready hready
    simp [VaultRecord.identity, hready, hbundle, KeyPair.ofBytes?_of_plainLength hlength]

theorem Moves.leads (h : r.Moves r') : r.state.Leads r'.state := by
  cases h with
  | stays => exact .stays _
  | asks _ hfresh =>
    rw [hfresh]
    exact .asks
  | opens hlocked =>
    cases hstate : r.state with
    | unloaded => exact .opens
    | awaitingPassword => exact .unlocks
    | ready => exact absurd hstate hlocked

theorem Moves.eq_of_ready (h : r.Moves r') (hready : r.state = .ready) : r' = r := by
  cases h with
  | stays => rfl
  | asks _ hfresh => simp [hready] at hfresh
  | opens hlocked => exact absurd hready hlocked

/-- One call on a record. A load may find another disk at each of its own calls. -/
inductive Turn : VaultRecord × World → VaultDeed → VaultRecord × World → Prop where
  | load (r : VaultRecord) (w : World) (disks : Nat → FileSystem) :
      Turn (r, w) (.load (r.load.runAmid disks 0 w).1.1)
        ((r.load.runAmid disks 0 w).1.2, (r.load.runAmid disks 0 w).2)
  | attempt (r : VaultRecord) (w : World) (disk : FileSystem) (password : String) :
      Turn (r, w) (.attempt password ((r.attempt password).run { w with disk := disk }).1.1)
        (((r.attempt password).run { w with disk := disk }).1.2,
          ((r.attempt password).run { w with disk := disk }).2)

/-- The lives of a record that is about to be loaded. -/
abbrev Run (l : StorageLayout) (w : World) : List VaultDeed → VaultRecord × World → Prop :=
  History Turn ({ layout := l }, w)

variable {s s' : VaultRecord × World} {d : VaultDeed} {past later : List VaultDeed}
  {l : StorageLayout} {w : World}

theorem Turn.moves (h : Turn s d s') : s.1.Moves s'.1 := by
  cases h with
  | load r w disks => exact r.moves_load.runAmid disks 0 w
  | attempt r w disk password => exact ((r.attemptExit password).run { w with disk := disk }).moves

theorem leads_later (h : History Turn s later s') : s.1.state.Leads s'.1.state := by
  induction h with
  | start => exact .stays _
  | next _ hturn ih => exact ih.trans hturn.moves.leads

theorem eq_later_of_ready (h : History Turn s later s') (hready : s.1.state = .ready) :
    s'.1 = s.1 := by
  induction h with
  | start => rfl
  | next _ hturn ih =>
    rw [← ih] at hready
    exact (hturn.moves.eq_of_ready hready).trans ih

theorem Run.coherent (h : Run l w past s) : s.1.Coherent := by
  induction h with
  | start => exact coherent_fresh l
  | next _ hturn ih => exact ih.move hturn.moves

end VaultRecord

namespace Vault

variable {v : Vault} {s s' : Vault × World} {d : VaultDeed} {past : List VaultDeed}
  {l : StorageLayout} {w : World}

theorem identity_record (v : Vault) : v.record.identity = v.identity := by
  obtain ⟨l, contents⟩ := v
  cases contents <;> rfl

/-- A load is the same program on a vault and on its record. -/
theorem load_record (v : Vault) : v.record.load = Prod.map id record <$> v.load := by
  obtain ⟨l, contents⟩ := v
  cases contents with
  | awaitingPassword | ready => rfl
  | unloaded =>
    -- both programs make the same calls, and reply by reply they return the same
    simp only [load, map_eq_pure_bind, bind_assoc]
    refine congrArg (readOptional l.identityKey).bind (funext fun found => ?_)
    rcases found with e | (_ | content)
    · rfl
    · rfl
    · dsimp only
      rcases Bundle.ofBytes content with e | (identity | payload)
      · rfl
      · rfl
      · simp only [bind_assoc]
        refine congrArg (readOptional l.salt).bind (funext fun found => ?_)
        rcases found with e | (_ | salt) <;> rfl

theorem attempt_record (v : Vault) (password : String) :
    v.record.attempt password = Prod.map id record <$> v.attempt password := by
  obtain ⟨l, contents⟩ := v
  cases contents with
  | unloaded | ready => rfl
  | awaitingPassword payload salt =>
    rcases salt with _ | _ | ⟨s, salt⟩
    · rfl
    · rfl
    · have hderive := KeyMaterial.derive_eq password (s :: salt)
      simp only [attempt, supply, VaultRecord.attempt, VaultRecord.unlock, record, state, bundle,
        Vault.salt, hderive]
      cases Payload.opened (.ofPassword password (s :: salt)) payload with
      | ok text =>
        by_cases hlength : text.length = Bundle.plainLength
        · simp only [if_pos hlength]
          rfl
        · simp only [if_neg hlength]
          rfl
      | error cause => cases cause <;> rfl

theorem Turn.record (h : Turn s d s') :
    VaultRecord.Turn (s.1.record, s.2) d (s'.1.record, s'.2) := by
  cases h with
  | load v w disks =>
    have hturn := VaultRecord.Turn.load v.record w disks
    rwa [load_record, Program.runAmid_map] at hturn
  | attempt v w disk password =>
    have hturn := VaultRecord.Turn.attempt v.record w disk password
    rwa [attempt_record, Program.run_map] at hturn

/-- A vault does whatever its record does. -/
theorem exists_turn {s' : VaultRecord × World} (h : VaultRecord.Turn (v.record, w) d s') :
    ∃ v', Turn (v, w) d (v', s'.2) ∧ v'.record = s'.1 := by
  generalize hs : (v.record, w) = s at h
  cases h with
  | load r w disks =>
    cases hs
    rw [load_record, Program.runAmid_map]
    exact ⟨_, .load v w disks, rfl⟩
  | attempt r w disk password =>
    cases hs
    rw [attempt_record, Program.run_map]
    exact ⟨_, .attempt v w disk password, rfl⟩

theorem Run.record (h : Run l w past s) : VaultRecord.Run l w past (s.1.record, s.2) := by
  induction h with
  | start => exact .start
  | next _ hturn ih => exact ih.next hturn.record

theorem Run.coherent (h : Run l w past s) : s.1.record.Coherent := h.record.coherent

end Vault

namespace VaultRecord

variable {s : VaultRecord × World} {past : List VaultDeed} {l : StorageLayout} {w : World}

theorem Run.exists_vault (h : Run l w past s) :
    ∃ v, Vault.Run l w past (v, s.2) ∧ v.record = s.1 := by
  induction h with
  | start => exact ⟨_, .start, rfl⟩
  | @next past s s' d _ hturn ih =>
    obtain ⟨r, w'⟩ := s
    obtain ⟨v, hrun, rfl⟩ := ih
    obtain ⟨v', hstep, hafter⟩ := Vault.exists_turn hturn
    exact ⟨v', hrun.next hstep, hafter⟩

/-- What holds of a record at any moment of its life, and of what comes later. -/
structure Orderly (l : StorageLayout) (w : World) (past : List VaultDeed)
    (s : VaultRecord × World) : Prop where
  coherent : s.1.Coherent
  identity : s.1.identity.isSome ↔ s.1.state = .ready
  /-- An attempt on a record that awaits a password finds something sealed. -/
  finds_sealed (hasked : s.1.state = .awaitingPassword) (password : String) (w : World)
    (state : StoreState) : ((s.1.attempt password).run w).1.1 ≠ .error (.invalidState state)
  leads (later : List VaultDeed) (s' : VaultRecord × World) (h : History Turn s later s') :
    s.1.state.Leads s'.1.state
  settled (later : List VaultDeed) (s' : VaultRecord × World) (h : History Turn s later s')
    (hready : s.1.state = .ready) : s'.1 = s.1
  /-- A vault has come as far by the same calls. -/
  vault : ∃ v, Vault.Run l w past (v, s.2) ∧ v.record = s.1

/-- Whatever is called, and whatever becomes of the disk. -/
theorem Run.orderly (h : Run l w past s) : Orderly l w past s where
  coherent := h.coherent
  identity := h.coherent.isSome_identity_iff
  finds_sealed hasked password w state hreply := by
    obtain ⟨payload, hsealed, -⟩ := h.coherent.awaitingPassword hasked
    rcases (s.1.attempt_invalidState_iff password w).1 ⟨state, hreply⟩ with hother | hunsealed
    · exact hother hasked
    · exact hunsealed payload hsealed
  leads _ _ := leads_later
  settled _ _ := eq_later_of_ready
  vault := h.exists_vault

set_option maxRecDepth 4000 in
/-- A sealed identity is loaded, the disk is lost, a password is tried, and a plain identity that
took the place of the sealed one is not loaded. -/
theorem orderly_of_replaced_identity : ∃ s : VaultRecord × World,
    s.1 = ⟨⟨"/d"⟩, .awaitingPassword, some (.sealed (List.replicate 128 7)), none⟩ ∧
      Orderly ⟨"/d"⟩ { disk := .empty } [.load (.error (.invalidState .awaitingPassword)),
        .attempt "guess" (.error (.missingSalt "/d/storage/salt")),
        .load (.ok .awaitingPassword)] s :=
  ⟨_, by rfl, Run.orderly
    (.next (.next (.next .start (.load _ _ fun _ => Vault.saltlessStore (List.replicate 128 7)))
      (.attempt _ _ .empty "guess"))
      (.load _ _ fun _ => Vault.saltlessStore (List.replicate 64 7)))⟩

end VaultRecord

end IdentityVault
