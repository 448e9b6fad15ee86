import IdentityVault.Proofs.Seal.KeyCollisions
import IdentityVault.Proofs.Store.Outcomes

/-! What a vault answers to passwords other than the one that its identity was sealed under. It
refuses those that give the identity another tag. Passwords that only zeros part are the same
password to it. -/
namespace IdentityVault

/-- Passwords that enter the derivation as one block give the same keys. -/
theorem KeyMaterial.ofPassword_congr {p q : String}
    (h : Hmac.keyBlock sha1 (Bytes.ofText q) = Hmac.keyBlock sha1 (Bytes.ofText p)) (salt : Bytes) :
    ofPassword q salt = ofPassword p salt := by
  simp only [ofPassword, pbkdf2, Hmac.prepare_congr h]

namespace Vault

/-- What a vault that waits for `p` answers to `q`. -/
structure AnswersOther (v : Vault) (identity salt : Bytes) (vector : Block) (p q : String) :
    Prop where
  refuses_iff : (v.supply q).outcome = .ok .decryptionFailure ↔
    let region := Payload.region (.ofPassword p salt) vector identity
    Payload.tag (.ofPassword q salt) region ≠ Payload.tag (.ofPassword p salt) region
  waits : (v.supply q).outcome = .ok .decryptionFailure →
    (v.supply q).vault = v ∧ v.state = .awaitingPassword
  opens : Hmac.keyBlock sha1 (Bytes.ofText q) = Hmac.keyBlock sha1 (Bytes.ofText p) →
    (v.supply q).Unlocks identity
  same_iff : Hmac.keyBlock sha1 (Bytes.ofText q) = Hmac.keyBlock sha1 (Bytes.ofText p) ↔
    Hmac.ZerosApart (Hmac.condensed sha1 (Bytes.ofText q)) (Hmac.condensed sha1 (Bytes.ofText p))

variable {l : StorageLayout} {identity salt : Bytes} {vector : Block} {p q : String}

/-- The attempt fails in authentication, and in nothing else, where the tags differ. -/
theorem outcome_supply_sealed (hsalt : salt ≠ []) :
    (supply ⟨l, .awaitingPassword (Payload.sealed (.ofPassword p salt) vector identity)
        (some salt)⟩ q).outcome = .ok .decryptionFailure ↔
      let region := Payload.region (.ofPassword p salt) vector identity
      Payload.tag (.ofPassword q salt) region ≠ Payload.tag (.ofPassword p salt) region := by
  rw [supply_refuses_iff hsalt, Payload.opened_sealed_other]
  split_ifs with htags
  · exact ⟨fun _ => htags, fun _ => rfl⟩
  · -- The tag is right, so what fails now fails for good.
    cases Payload.decryptBody? (.ofPassword q salt) vector _ with
    | some text => simp [htags]
    | none => simp [htags]

theorem answersOther (hlength : identity.length = Bundle.plainLength) (hsalt : salt ≠ [])
    (q : String) : AnswersOther
      ⟨l, .awaitingPassword (Payload.sealed (.ofPassword p salt) vector identity) (some salt)⟩
      identity salt vector p q where
  refuses_iff := outcome_supply_sealed hsalt
  waits hrefused := ⟨(attemptEnd _ q).eq_of_locked (by simp [hrefused]), rfl⟩
  opens hblock := by
    rw [supply_unlocks_iff hlength hsalt]
    exact ⟨vector, by rw [KeyMaterial.ofPassword_congr hblock]⟩
  same_iff := Hmac.keyBlock_eq_iff (Hmac.length_digest_sha1_le _) (Hmac.length_digest_sha1_le _)

/-- A sealed identity is loaded with its salt, whatever it was sealed under. -/
theorem run_load_sealedUnder {w : World} (hlength : identity.length = Bundle.plainLength)
    (hpayload : w.disk.contentAt l.identityKey =
      .ok (Payload.sealed (.ofPassword p salt) vector identity))
    (hfound : w.disk.contentAt l.salt = .ok salt) :
    (l.freshVault.load.run w).1 = (.ok .awaitingPassword,
      ⟨l, .awaitingPassword (Payload.sealed (.ofPassword p salt) vector identity)
        (some salt)⟩) :=
  run_load_sealed hpayload (Payload.length_sealed_identity _ vector hlength) hfound

/-- A vault that has loaded a sealed identity refuses a password, and goes on waiting, exactly when
the password gives the identity another tag. A password opens it that enters the derivation as the
same block, and these are the passwords that, hashed where they are long, only zeros part from the
right one. -/
theorem loaded_answersOther {w : World} (hlength : identity.length = 64) (hsalt : salt ≠ [])
    (hpayload : w.disk.contentAt l.identityKey =
      .ok (Payload.sealed (.ofPassword p salt) vector identity))
    (hfound : w.disk.contentAt l.salt = .ok salt) :
    ∃ v, (l.freshVault.load.run w).1 = (.ok .awaitingPassword, v) ∧
      ∀ q, v.AnswersOther identity salt vector p q :=
  ⟨_, run_load_sealedUnder hlength hpayload hfound, answersOther hlength hsalt⟩

/-- A disk with an identity of 64 sevens below `/d`, sealed under the password `a`. -/
def storeUnderA : FileSystem :=
  let payload := Payload.sealed (.ofPassword "a" (Bytes.ofText "saltsalt"))
    (Block.ofBytes (List.replicate 16 0)) (List.replicate 64 7)
  ⟨.directory [("d", .directory [("storage", .directory
    [("salt", .file (Bytes.ofText "saltsalt")),
      ("identity", .directory [("identity_key", .file payload)])])])], []⟩

theorem run_load_storeUnderA :
    ((StorageLayout.freshVault ⟨"/d"⟩).load.run { disk := storeUnderA }).1 =
      (.ok .awaitingPassword, ⟨⟨"/d"⟩, .awaitingPassword
        (Payload.sealed (.ofPassword "a" (Bytes.ofText "saltsalt"))
          (Block.ofBytes (List.replicate 16 0)) (List.replicate 64 7))
        (some (Bytes.ofText "saltsalt"))⟩) :=
  run_load_sealedUnder (by rfl) (by rfl) (by rfl)

theorem answersOther_storeUnderA :
    ∃ v, ((StorageLayout.freshVault ⟨"/d"⟩).load.run { disk := storeUnderA }).1 =
        (.ok .awaitingPassword, v) ∧
      ∀ q, v.AnswersOther (List.replicate 64 7) (Bytes.ofText "saltsalt")
        (Block.ofBytes (List.replicate 16 0)) "a" q :=
  loaded_answersOther (by rfl) (by decide) (by rfl) (by rfl)

/-- A zero behind the password makes another password, which opens the vault as well. -/
theorem zero_behind_opens : "a\x00" ≠ "a" ∧
    ∃ v, ((StorageLayout.freshVault ⟨"/d"⟩).load.run { disk := storeUnderA }).1 =
        (.ok .awaitingPassword, v) ∧
      (v.supply "a\x00").Unlocks (List.replicate 64 7) := by
  have hblock : Hmac.keyBlock sha1 (Bytes.ofText "a\x00") =
      Hmac.keyBlock sha1 (Bytes.ofText "a") := by decide +kernel
  exact ⟨by decide, _, run_load_storeUnderA, (answersOther (by rfl) (by decide) _).opens hblock⟩

/-- Passwords that enter the derivation as different blocks may open the same vault, under every
salt. -/
theorem exists_other_opens (l : StorageLayout) (hlength : identity.length = Bundle.plainLength)
    (hsalt : salt ≠ []) (vector : Block) :
    ∃ p q, Hmac.keyBlock sha1 (Bytes.ofText p) ≠ Hmac.keyBlock sha1 (Bytes.ofText q) ∧
      (supply ⟨l, .awaitingPassword (Payload.sealed (.ofPassword p salt) vector identity)
        (some salt)⟩ q).Unlocks identity := by
  obtain ⟨p, q, hblocks, hkeys⟩ := KeyMaterial.exists_keys_eq_of_keyBlock_ne salt
  refine ⟨p, q, hblocks, ?_⟩
  rw [supply_unlocks_iff hlength hsalt]
  exact ⟨vector, by rw [hkeys]⟩

end Vault

end IdentityVault
