import IdentityVault.Proofs.Program.Quiet
import IdentityVault.Proofs.Seal.Canonical
import IdentityVault.Proofs.Seal.Derivation
import IdentityVault.Store.Vault

/-! What a fresh vault makes of the identity and the salt that it reads, and which passwords unlock
it then. -/
namespace IdentityVault

/-- The sealed form of an identity has the length that marks sealed identities. -/
theorem Payload.length_sealed_identity (keys : KeyMaterial) (vector : Block) {identity : Bytes}
    (h : identity.length = Bundle.plainLength) :
    (sealed keys vector identity).length = Bundle.sealedLength := by
  rw [length_sealed, h]
  rfl

/-- A vault that is about to be loaded. -/
def StorageLayout.freshVault (l : StorageLayout) : Vault := ⟨l, .unloaded⟩

theorem quiet_readOptional (p : Path) : (readOptional p).Quiet := by
  refine .bind (.perform (c := .read p) trivial) fun reply => ?_
  rcases reply with e | content
  · cases e <;> exact .done _
  · exact .done _

namespace Vault

/-- The vault is ready and holds the key pair of these bytes. -/
structure Unlocked (v : Vault) (identity : Bytes) : Prop where
  state : v.state = .ready
  identity : v.identity =
    some ⟨identity.take KeyPair.publicKeyLength, identity.drop KeyPair.publicKeyLength⟩

/-- An attempt that unlocked the vault. -/
structure Attempt.Unlocks (a : Attempt) (identity : Bytes) : Prop where
  outcome : a.outcome = .ok .ready
  vault : a.vault.Unlocked identity

theorem quiet_load (v : Vault) : v.load.Quiet := by
  unfold load
  split
  · refine .bind (quiet_readOptional _) fun found => ?_
    rcases found with e | (_ | content)
    · exact .done _
    · exact .bind (.log _) fun _ => .bind (.log _) fun _ => .done _
    · dsimp only
      split
      · exact .bind (.log _) fun _ => .done _
      · exact .bind (.log _) fun _ => .done _
      · refine .bind (quiet_readOptional _) fun salt => ?_
        have hask (salt : Option Bytes) (payload : Bytes) :
            (do
              Program.log (logged .info "Asking for password")
              Program.perform (.emit .passwordRequested)
              return (.ok .awaitingPassword,
                { v with contents := .awaitingPassword payload salt }) :
              Program (Except StoreError StoreState × Vault)).Quiet :=
          .bind (.log _) fun _ =>
            .bind (.perform (c := .emit .passwordRequested) trivial) fun _ => .done _
        rcases salt with e | (_ | salt)
        · exact .done _
        · exact hask none _
        · exact .bind (.log _) fun _ => hask (some salt) _
  · exact .done _

theorem readsOnly_load (v : Vault) : v.load.ReadsOnly := v.quiet_load.readsOnly

variable {l : StorageLayout} {identity payload salt : Bytes}

theorem unlocked_ready (salt : Option Bytes) (h : identity.length = Bundle.plainLength) :
    Unlocked ⟨l, .ready identity salt⟩ identity := by
  refine ⟨rfl, ?_⟩
  exact if_pos h

theorem eq_of_unlocked_ready {text : Bytes} {salt : Option Bytes}
    (h : Unlocked ⟨l, .ready text salt⟩ identity) : text = identity := by
  have hbytes := KeyPair.toBytes_of_ofBytes? h.identity
  rw [← hbytes]
  exact List.take_append_drop _ _

/-- A plain identity is enough; the salt is not looked at. -/
theorem runAmid_load_plain (disks : Nat → FileSystem)
    (hread : (disks 0).contentAt l.identityKey = .ok identity)
    (hlength : identity.length = Bundle.plainLength) (w : World) :
    (l.freshVault.load.runAmid disks 0 w).1 = (.ok .ready, ⟨l, .ready identity none⟩) := by
  simp only [StorageLayout.freshVault, load, readOptional, Program.perform, Program.log,
    Program.bind_eq, Program.pure_eq, Program.call_bind, Program.done_bind, Program.runAmid,
    World.answer, hread, Bundle.ofBytes_of_plainLength hlength]

/-- On a disk that nobody else changes, one event is all that loading it gives out. -/
theorem run_load_plain {w : World} (hread : w.disk.contentAt l.identityKey = .ok identity)
    (hlength : identity.length = Bundle.plainLength) :
    l.freshVault.load.run w = ((.ok .ready, ⟨l, .ready identity none⟩),
      { w with emitted := w.emitted ++ [.event (logged .info "Unencrypted identity")] }) := by
  simp only [StorageLayout.freshVault, load, readOptional, Program.perform, Program.log,
    Program.bind_eq, Program.pure_eq, Program.call_bind, Program.done_bind, Program.run_call,
    Program.run_done, World.answer, hread, Bundle.ofBytes_of_plainLength hlength]

/-- A sealed identity is kept with the salt that is found after it. -/
theorem runAmid_load_sealed (disks : Nat → FileSystem)
    (hread : (disks 0).contentAt l.identityKey = .ok payload)
    (hlength : payload.length = Bundle.sealedLength)
    (hsalt : (disks 1).contentAt l.salt = .ok salt) (w : World) :
    (l.freshVault.load.runAmid disks 0 w).1 =
        (.ok .awaitingPassword, ⟨l, .awaitingPassword payload (some salt)⟩) ∧
      (l.freshVault.load.runAmid disks 0 w).2.passwordRequests = w.passwordRequests + 1 := by
  simp [StorageLayout.freshVault, load, readOptional, Program.perform, Program.log,
    Program.bind_eq, Program.pure_eq, Program.call_bind, Program.done_bind, Program.runAmid,
    World.answer, hread, hsalt, Bundle.ofBytes_of_sealedLength hlength, World.passwordRequests]

/-- On a disk that nobody else changes. -/
theorem run_load_sealed {w : World} (hread : w.disk.contentAt l.identityKey = .ok payload)
    (hlength : payload.length = Bundle.sealedLength)
    (hsalt : w.disk.contentAt l.salt = .ok salt) :
    (l.freshVault.load.run w).1 =
      (.ok .awaitingPassword, ⟨l, .awaitingPassword payload (some salt)⟩) := by
  rw [(readsOnly_load _).run_eq_runAmid w 0]
  exact (runAmid_load_sealed (fun _ => w.disk) hread hlength hsalt w).1

/-- A password unlocks what it sealed under the salt that was found. -/
theorem supply_unlocks_iff (hlength : identity.length = Bundle.plainLength) (hsalt : salt ≠ [])
    (password : String) :
    (supply ⟨l, .awaitingPassword payload (some salt)⟩ password).Unlocks identity ↔
      ∃ vector : Block,
        payload = Payload.sealed (.ofPassword password salt) vector identity := by
  obtain ⟨s, rest, rfl⟩ := List.exists_cons_of_ne_nil hsalt
  simp only [supply, KeyMaterial.derive_eq]
  constructor
  · rintro ⟨houtcome, hvault⟩
    cases hopened : Payload.opened (.ofPassword password (s :: rest)) payload with
    | error e =>
      rw [hopened] at houtcome
      cases e <;> cases houtcome
    | ok text =>
      rw [hopened] at houtcome hvault
      by_cases htext : text.length = Bundle.plainLength
      · simp only [if_pos htext] at hvault
        rw [← eq_of_unlocked_ready hvault]
        exact Payload.eq_sealed_of_opened _ hopened
      · simp only [if_neg htext] at houtcome
        cases houtcome
  · rintro ⟨vector, rfl⟩
    simp only [Payload.opened_sealed, if_pos hlength]
    exact ⟨rfl, unlocked_ready _ hlength⟩

/-- A password is refused where its keys do not authenticate the payload. -/
theorem supply_refuses_iff (hsalt : salt ≠ []) (password : String) :
    (supply ⟨l, .awaitingPassword payload (some salt)⟩ password).outcome =
        .ok .decryptionFailure ↔
      Payload.opened (.ofPassword password salt) payload = .error .authentication := by
  obtain ⟨s, rest, rfl⟩ := List.exists_cons_of_ne_nil hsalt
  simp only [supply, KeyMaterial.derive_eq]
  cases Payload.opened (.ofPassword password (s :: rest)) payload with
  | ok text => by_cases hlength : text.length = Bundle.plainLength <;> simp [hlength]
  | error e => cases e <;> simp

theorem supply_of_authentication (hsalt : salt ≠ []) {password : String} {keys : KeyMaterial}
    (hkeys : KeyMaterial.derive password salt = .ok keys)
    (hfails : Payload.opened keys payload = .error .authentication) :
    (supply ⟨l, .awaitingPassword payload (some salt)⟩ password).outcome =
      .ok .decryptionFailure := by
  rw [KeyMaterial.derive_eq, Except.ok.injEq] at hkeys
  rw [supply_refuses_iff hsalt, hkeys, hfails]

end Vault

end IdentityVault
