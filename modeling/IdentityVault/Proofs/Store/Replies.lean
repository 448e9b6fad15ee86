import IdentityVault.Proofs.Seal.Opening
import IdentityVault.Proofs.Store.RecordLife

/-! What a vault that awaits a password can answer to one. A sealed identity has a fixed length, and
this leaves few of the failures that a payload of any length can have. -/
namespace IdentityVault

namespace Payload

variable {keys : KeyMaterial} {payload text : Bytes} {cause : SealError}

/-- Five blocks hold the text and between one and sixteen bytes of padding. -/
theorem length_of_opened (hlength : payload.length = Bundle.sealedLength)
    (hopened : opened keys payload = .ok text) : 64 ≤ text.length ∧ text.length ≤ 79 := by
  obtain ⟨vector, rfl⟩ := eq_sealed_of_opened keys hopened
  rw [length_sealed_eq, Bundle.sealedLength] at hlength
  omega

/-- A payload of this length is not too short, so behind the right tag only its shape is wrong. -/
theorem eq_padding_of_opened (hlength : payload.length = Bundle.sealedLength)
    (hopened : opened keys payload = .error cause) (hother : cause ≠ .authentication) :
    cause = .padding := by
  cases cause with
  | truncated n =>
    have hshort := (((openedAs keys payload).truncated_iff n).1 hopened).1
    rw [hlength] at hshort
    exact absurd hshort (by decide)
  | authentication => exact absurd rfl hother
  | padding => rfl

end Payload

namespace Vault

/-- All that a vault that awaits a password can answer. -/
inductive Reply (v : Vault) : Except StoreError AttemptResult → Prop where
  | ready : Reply v (.ok .ready)
  | refused : Reply v (.ok .decryptionFailure)
  | missingSalt : Reply v (.error (.missingSalt v.layout.salt))
  | corruptBody : Reply v (.error (.corruptBody .padding))
  | corruptText {n : Nat} (long : 65 ≤ n) (short : n ≤ 79) : Reply v (.error (.corruptText n))

/-- What was loaded is the identity as this password seals it under the salt that was loaded. An
empty salt counts as none. -/
def HoldsUnder (v : Vault) (password : String) (identity : Bytes) : Prop :=
  ∃ salt keys vector, v.salt = some salt ∧ salt ≠ [] ∧
    KeyMaterial.derive password salt = .ok keys ∧ identity.length = 64 ∧
    v.bundle = some (.sealed (Payload.sealed keys vector identity))

/-- What a vault that awaits a password answers to this one. -/
structure RepliesWithin (v : Vault) (password : String) : Prop where
  loaded : ∃ payload, v.bundle = some (.sealed payload) ∧ payload.length = 128
  reply : v.Reply (v.supply password).outcome
  missingSalt_iff : (v.supply password).outcome = .error (.missingSalt v.layout.salt) ↔
    v.salt = none ∨ v.salt = some []
  ready_iff : (v.supply password).outcome = .ok .ready ↔
    ∃ identity, v.HoldsUnder password identity
  unlocks {identity : Bytes} (holds : v.HoldsUnder password identity) :
    (v.supply password).Unlocks identity

variable {v v' : Vault} {l : StorageLayout} {payload identity : Bytes} {salt : Option Bytes}
  {password : String} {outcome : Except StoreError AttemptResult}

theorem AttemptEnd.reply (h : AttemptEnd v password outcome v')
    (hasked : v.contents = .awaitingPassword payload salt)
    (hlength : payload.length = Bundle.sealedLength) : v.Reply outcome := by
  cases h with
  | failed hwhy =>
    cases hwhy with
    | invalidState hother => exact absurd (by simp [state, hasked]) hother
    | missingSalt => exact .missingSalt
    | corruptBody hawaits _ hother hopened =>
      cases hasked.symm.trans hawaits
      rw [Payload.eq_padding_of_opened hlength hopened hother]
      exact .corruptBody
    | corruptText hawaits _ hopened hdiffers =>
      cases hasked.symm.trans hawaits
      have hbounds := Payload.length_of_opened hlength hopened
      rw [Bundle.plainLength] at hdiffers
      exact .corruptText (by omega) hbounds.2
  | refused => exact .refused
  | unlocked => exact .ready

theorem AttemptEnd.missingSalt_iff (h : AttemptEnd v password outcome v')
    (hasked : v.contents = .awaitingPassword payload salt) :
    outcome = .error (.missingSalt v.layout.salt) ↔ salt = none ∨ salt = some [] := by
  cases h with
  | failed hwhy =>
    cases hwhy with
    | invalidState hother => exact absurd (by simp [state, hasked]) hother
    | missingSalt hawaits hmissing =>
      cases hasked.symm.trans hawaits
      refine ⟨fun _ => ?_, fun _ => rfl⟩
      cases salt with
      | none => exact .inl rfl
      | some salt => exact .inr (congrArg some hmissing)
    | corruptBody hawaits hpresent | corruptText hawaits hpresent =>
      cases hasked.symm.trans hawaits
      simp [hpresent]
  | refused hawaits hpresent | unlocked hawaits hpresent =>
    cases hasked.symm.trans hawaits
    simp [hpresent]

theorem AttemptEnd.exists_holdsUnder (h : AttemptEnd v password outcome v')
    (hready : outcome = .ok .ready) : ∃ identity, v.HoldsUnder password identity := by
  cases h with
  | failed | refused => cases hready
  | unlocked hawaits hpresent hopened hlength =>
    obtain ⟨vector, hpayload⟩ := Payload.eq_sealed_of_opened _ hopened
    refine ⟨_, _, _, vector, ?_, hpresent, KeyMaterial.derive_eq password _, hlength, ?_⟩
    · simp only [Vault.salt, hawaits]
    · simp only [bundle, hawaits, hpayload]

theorem HoldsUnder.unlocks (h : v.HoldsUnder password identity)
    (hasked : v.contents = .awaitingPassword payload salt) :
    (v.supply password).Unlocks identity := by
  obtain ⟨l, contents⟩ := v
  obtain ⟨salt, keys, vector, hsalt, hpresent, hkeys, hlength, hbundle⟩ := h
  cases hasked
  cases hsalt
  cases hbundle
  rw [supply_unlocks_iff hlength hpresent]
  rw [KeyMaterial.derive_eq, Except.ok.injEq] at hkeys
  exact ⟨vector, by rw [hkeys]⟩

theorem repliesWithin_of_awaiting (hasked : v.contents = .awaitingPassword payload salt)
    (hlength : payload.length = Bundle.sealedLength) (password : String) :
    v.RepliesWithin password where
  loaded := ⟨payload, by simp only [bundle, hasked], hlength⟩
  reply := (v.attemptEnd password).reply hasked hlength
  missingSalt_iff := by
    have hsalt : v.salt = salt := by simp only [Vault.salt, hasked]
    rw [hsalt]
    exact (v.attemptEnd password).missingSalt_iff hasked
  ready_iff := by
    refine ⟨(v.attemptEnd password).exists_holdsUnder, ?_⟩
    rintro ⟨identity, hholds⟩
    exact (hholds.unlocks hasked).outcome
  unlocks hholds := hholds.unlocks hasked

/-- Whatever became of the vault before, as long as it awaits a password. -/
theorem Run.repliesWithin {w : World} {past : List VaultDeed} {s : Vault × World}
    (h : Run l w past s) (hasked : s.1.state = .awaitingPassword) (password : String) :
    s.1.RepliesWithin password := by
  obtain ⟨payload, hbundle, hlength⟩ := h.coherent.awaitingPassword hasked
  obtain ⟨⟨l, contents⟩, w'⟩ := s
  cases contents with
  | unloaded | ready => cases hasked
  | awaitingPassword =>
    cases hbundle
    exact repliesWithin_of_awaiting rfl hlength password

set_option maxRecDepth 4000 in
/-- The identity is missing at first. -/
theorem repliesWithin_of_late_identity : ∃ s : Vault × World,
    s.1.contents = .awaitingPassword (List.replicate 128 7) (some (Bytes.ofText "saltsalt")) ∧
      s.1.RepliesWithin "guess" :=
  ⟨_, by rfl, Run.repliesWithin (l := ⟨"/d"⟩) (w := { disk := .empty })
    (.next (.next .start (.load _ _ fun _ => .empty))
      (.load _ _ fun _ => saltedStore (Bytes.ofText "saltsalt") (List.replicate 128 7)))
    (by rfl) "guess"⟩

end Vault

end IdentityVault
