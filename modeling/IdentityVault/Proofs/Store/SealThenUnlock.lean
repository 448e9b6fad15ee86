import IdentityVault.Proofs.Store.Probing
import IdentityVault.Proofs.Store.Protection

/-! A call that sealed the identity well leaves a disk from which the same password gets it back. -/
namespace IdentityVault

open Protection

variable {l : StorageLayout} {storage : List String} {identity : Bytes} {password : String}
  {d : SealDraft}

/-- A vault that reads a sealed identity and the salt after it is unlocked by its password. -/
theorem load_shown_sealed (disks : Nat → FileSystem)
    (hidentity : Shown l storage identity (.sealed password d) (disks 0))
    (hsalt : Shown l storage identity (.sealed password d) (disks 1))
    (hlength : identity.length = Bundle.plainLength) (w : World) :
    ∃ v, (l.freshVault.load.runAmid disks 0 w).1 = (.ok .awaitingPassword, v) ∧
      v.state = .awaitingPassword ∧ (v.supply password).Unlocks identity ∧
      (l.freshVault.load.runAmid disks 0 w).2.passwordRequests = w.passwordRequests + 1 := by
  have hd := hidentity.2.2.2
  have hbundle := d.length_bundle hd hlength password
  obtain ⟨hload, hrequests⟩ :=
    Vault.runAmid_load_sealed disks hidentity.bundle hbundle hsalt.salt w
  refine ⟨_, hload, rfl, ?_, hrequests⟩
  rw [Vault.supply_unlocks_iff hlength hd.salt_ne_nil]
  exact ⟨Block.ofBytes d.vector, by rw [SealDraft.bundle, hd.identity]⟩

/-- The identity is sealed, one password is asked for when it is loaded, this one unlocks it, and
it is not sealed again. -/
structure StorageLayout.SealedUnder (l : StorageLayout) (password : String) (identity : Bytes)
    (w : World) : Prop where
  probe : ∃ payload, (l.probe.run w).1 = .ok (.sealed payload) ∧
    payload.length = Bundle.sealedLength
  load : ∃ v, (l.freshVault.load.run w).1 = (.ok .awaitingPassword, v) ∧
    v.state = .awaitingPassword ∧ (v.supply password).Unlocks identity
  requests : (l.freshVault.load.run w).2.passwordRequests = w.passwordRequests + 1
  again (next : String) : (l.sealIdentity next).run w = (.error .alreadySealed, w)

theorem sealedUnder_of_shown {w : World} (h : Shown l storage identity (.sealed password d) w.disk)
    (hlength : identity.length = Bundle.plainLength) : l.SealedUnder password identity w := by
  have hbundle := d.length_bundle h.2.2.2 hlength password
  have hsealed := d.ofBytes_bundle h.2.2.2 hlength password
  obtain ⟨v, hload, hstate, hunlocks, hrequests⟩ :=
    load_shown_sealed (fun _ => w.disk) h h hlength w
  rw [← (Vault.readsOnly_load _).run_eq_runAmid] at hload hrequests
  have hfound : l.found w.disk = .ok (.sealed (d.bundle password)) := by
    rw [StorageLayout.found_of_content h.bundle, hsealed]
  refine ⟨⟨d.bundle password, ?_, hbundle⟩, ⟨v, hload, hstate, hunlocks⟩, hrequests, ?_⟩
  · rw [StorageLayout.run_probe, hfound]
  · intro next
    simp only [StorageLayout.sealIdentity, Program.bind_eq, Program.run_bind,
      StorageLayout.run_probe, hfound]
    rfl

/-- A call that returned well leaves the identity sealed under its password. -/
theorem exists_shown_of_ok {w : World} (hplain : w.disk.contentAt l.identityKey = .ok identity)
    (hlength : identity.length = Bundle.plainLength)
    (hok : ((l.sealIdentity password).run w).1 = .ok ()) : ∃ storage d,
      Shown l storage identity (.sealed password d) ((l.sealIdentity password).run w).2.disk := by
  obtain ⟨storage, hshown⟩ := exists_shown hplain
  have hreturned : ∃ c, Underway l storage identity password c
      (.done ((l.sealIdentity password).run w).1) ((l.sealIdentity password).run w).2 := by
    refine Program.run_induction
      (I := fun p w => ∃ c, Underway l storage identity password c p w) ?_ ⟨_, .start hshown _⟩
    rintro p w ⟨c, hunderway⟩
    rcases hunderway.step hlength with ⟨-, hnext⟩ | ⟨d, -, -, hnext⟩
    · exact ⟨c, hnext⟩
    · exact ⟨_, hnext⟩
  obtain ⟨c, hunderway⟩ := hreturned
  rw [hok] at hunderway
  obtain ⟨d, rfl⟩ := hunderway.sealed_of_ok
  exact ⟨storage, d, hunderway.shown⟩

/-- Sealing keeps the identity: whatever the salt file was and whatever was drawn, a call that
returned well left an identity that its password gives back. -/
theorem sealIdentity_ok_sealedUnder {w : World}
    (hplain : w.disk.contentAt l.identityKey = .ok identity)
    (hlength : identity.length = Bundle.plainLength)
    (hok : ((l.sealIdentity password).run w).1 = .ok ()) {later : World}
    (hdisk : later.disk = ((l.sealIdentity password).run w).2.disk) :
    l.SealedUnder password identity later := by
  obtain ⟨storage, d, hafter⟩ := exists_shown_of_ok hplain hlength hok
  rw [← hdisk] at hafter
  exact sealedUnder_of_shown hafter hlength

theorem sealedUnder_plainStore :
    StorageLayout.SealedUnder ⟨"/d"⟩ "" (List.replicate 64 7)
      ((StorageLayout.sealIdentity ⟨"/d"⟩ "").run
        { disk := plainStore (List.replicate 64 7) }).2 :=
  sealIdentity_ok_sealedUnder (w := { disk := plainStore (List.replicate 64 7) })
    (by rfl) (by rfl) (by rfl) rfl

end IdentityVault
