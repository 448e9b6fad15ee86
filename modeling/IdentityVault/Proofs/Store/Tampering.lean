import IdentityVault.Proofs.Seal.Opening
import IdentityVault.Proofs.Store.Outcomes

/-! A sealed identity that somebody changed on the disk. The password it was sealed under is refused
unless the changed part was given a tag of its own, which is a forgery. -/
namespace IdentityVault

namespace Payload

variable {keys : KeyMaterial} {payload : Bytes}

/-- Of a payload as long as a sealed identity, the tag covers the first 96 bytes. -/
theorem opened_eq_authentication_iff (hlength : payload.length = Bundle.sealedLength) :
    opened keys payload = .error .authentication ↔
      hmac sha256 keys.macKey (payload.take 96) ≠ payload.drop 96 := by
  have hlong : 64 ≤ payload.length := by
    rw [hlength]
    decide
  have hcovers : payload.length - tagLength = 96 := by rw [hlength]; rfl
  rw [(openedAs keys payload).authentication_iff, attached, covered, hcovers]
  exact (and_iff_right hlong).trans ne_comm

theorem drop_sealed {vector : Block} {identity : Bytes}
    (hlength : identity.length = Bundle.plainLength) :
    hmac sha256 keys.macKey ((sealed keys vector identity).take 96) =
      (sealed keys vector identity).drop 96 := by
  have hopened := opened_sealed keys vector identity
  refine Decidable.not_not.1 fun hforged => ?_
  have hlength := length_sealed_identity keys vector hlength
  rw [(opened_eq_authentication_iff hlength).2 hforged] at hopened
  cases hopened

end Payload

namespace Vault

/-- The password is refused, and the vault goes on waiting without an identity. -/
structure Refuses (v : Vault) (password : String) : Prop where
  outcome : (v.supply password).outcome = .ok .decryptionFailure
  vault : (v.supply password).vault = v
  state : v.state = .awaitingPassword
  identity : v.identity = none

/-- What a vault answers to the right password when it has loaded `found` and `original` is what
was sealed under the keys of that password. -/
structure WithstandsTampering (v : Vault) (password : String) (macKey original found : Bytes) :
    Prop where
  refuses_iff : v.Refuses password ↔ hmac sha256 macKey (found.take 96) ≠ found.drop 96
  forged (accepted : (v.supply password).outcome ≠ .ok .decryptionFailure) :
    found.take 96 ≠ original.take 96 ∧ hmac sha256 macKey (found.take 96) = found.drop 96
  tagChanged (same : found.take 96 = original.take 96) : v.Refuses password
  bodyChanged (same : found.drop 96 = original.drop 96)
    (noCollision : hmac sha256 macKey (found.take 96) ≠ hmac sha256 macKey (original.take 96)) :
    v.Refuses password

variable {l : StorageLayout} {identity salt found : Bytes} {vector : Block} {password : String}
  {keys : KeyMaterial}

theorem refuses_iff_forged (hsalt : salt ≠ []) (hkeys : KeyMaterial.derive password salt = .ok keys)
    (hfound : found.length = Bundle.sealedLength) :
    Refuses ⟨l, .awaitingPassword found (some salt)⟩ password ↔
      hmac sha256 keys.macKey (found.take 96) ≠ found.drop 96 := by
  rw [KeyMaterial.derive_eq, Except.ok.injEq] at hkeys
  rw [← hkeys, ← Payload.opened_eq_authentication_iff hfound, ← supply_refuses_iff hsalt]
  refine ⟨Refuses.outcome, fun hrefused => ⟨hrefused, ?_, rfl, rfl⟩⟩
  exact (attemptEnd _ password).eq_of_locked (by simp [hrefused])

/-- A found identity whose tag is right and that is not the original is a forgery. -/
theorem withstandsTampering (hsalt : salt ≠ [])
    (hkeys : KeyMaterial.derive password salt = .ok keys)
    (hlength : identity.length = Bundle.plainLength)
    (hfound : found.length = Bundle.sealedLength)
    (hother : found ≠ Payload.sealed keys vector identity) :
    WithstandsTampering ⟨l, .awaitingPassword found (some salt)⟩ password keys.macKey
      (Payload.sealed keys vector identity) found := by
  have hrefuses := refuses_iff_forged (l := l) hsalt hkeys hfound
  have htag : hmac sha256 keys.macKey ((Payload.sealed keys vector identity).take 96) =
      (Payload.sealed keys vector identity).drop 96 := Payload.drop_sealed hlength
  -- What differs from the original differs before the tag or in it.
  have hparts (hbody : found.take 96 = (Payload.sealed keys vector identity).take 96) :
      (Payload.sealed keys vector identity).drop 96 ≠ found.drop 96 := fun hdrop =>
    hother (by rw [← List.take_append_drop 96 found, hbody, ← hdrop, List.take_append_drop])
  refine ⟨hrefuses, fun haccepted => ?_, fun hbody => ?_, fun hdrop hcollision => ?_⟩
  · have hright : hmac sha256 keys.macKey (found.take 96) = found.drop 96 :=
      Decidable.not_not.1 fun hforged => haccepted (hrefuses.2 hforged).outcome
    refine ⟨fun hbody => hparts hbody ?_, hright⟩
    rw [← htag, ← hright, hbody]
  · rw [hrefuses, hbody, htag]
    exact hparts hbody
  · rw [hrefuses, hdrop, ← htag]
    exact hcollision

/-- Whatever takes the place of a sealed identity, its password is refused unless the first 96 bytes
changed and what is behind them is the tag of the changed ones. -/
theorem loaded_withstandsTampering {w : World} (hsalt : salt ≠ [])
    (hkeys : KeyMaterial.derive password salt = .ok keys) (hlength : identity.length = 64)
    (hfound : found.length = 128) (hother : found ≠ Payload.sealed keys vector identity)
    (hreplaced : w.disk.contentAt l.identityKey = .ok found)
    (hkept : w.disk.contentAt l.salt = .ok salt) :
    ∃ v, (l.freshVault.load.run w).1 = (.ok .awaitingPassword, v) ∧
      v.WithstandsTampering password keys.macKey (Payload.sealed keys vector identity) found :=
  ⟨_, run_load_sealed hreplaced hfound hkept,
    withstandsTampering hsalt hkeys hlength hfound hother⟩

/-- An identity of 64 sevens, sealed under the password `a`. -/
def sealedUnderA : Bytes :=
  Payload.sealed (.ofPassword "a" (Bytes.ofText "saltsalt")) (Block.ofBytes (List.replicate 16 1))
    (List.replicate 64 7)

/-- The same with its vector overwritten by zeros. -/
def revectoredUnderA : Bytes := List.replicate 16 0 ++ sealedUnderA.drop 16

theorem withstandsTampering_zeroVector :
    let disk := saltedStore (Bytes.ofText "saltsalt") revectoredUnderA
    ∃ v, ((StorageLayout.freshVault ⟨"/d"⟩).load.run { disk }).1 = (.ok .awaitingPassword, v) ∧
      v.WithstandsTampering "a" (KeyMaterial.ofPassword "a" (Bytes.ofText "saltsalt")).macKey
        sealedUnderA revectoredUnderA := by
  have hlength : revectoredUnderA.length = 128 := by
    rw [revectoredUnderA, List.length_append, List.length_replicate, List.length_drop,
      sealedUnderA, Payload.length_sealed_identity _ _ (by rfl)]
    rfl
  have hzeros : revectoredUnderA.take Payload.vectorLength = List.replicate 16 0 :=
    List.take_left' rfl
  have hother : revectoredUnderA ≠ sealedUnderA := by
    intro hsame
    rw [hsame, sealedUnderA, Payload.take_sealed] at hzeros
    revert hzeros
    decide
  exact loaded_withstandsTampering (by decide) (KeyMaterial.derive_eq _ _) (by rfl) hlength hother
    (by rfl) (by rfl)

end Vault

end IdentityVault
