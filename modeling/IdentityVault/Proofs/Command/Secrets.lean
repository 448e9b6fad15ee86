import IdentityVault.Proofs.Command.SealAndUnlock
import IdentityVault.Proofs.Engine.Fingerprint
import IdentityVault.Proofs.Program.Alike
import IdentityVault.Proofs.Store.OtherPassword
import IdentityVault.Proofs.Unlock.AlikePasswords

/-! Where secrets do not show. Of a plain identity, nothing but the public key finds its way into a
report, a log, a text or an engine's answer. -/
namespace IdentityVault

/-- Disks that differ in the private key of a plain identity, and in nothing else. -/
structure StorageLayout.DifferInSecret (l : StorageLayout) (fs fs' : FileSystem)
    (publicKey secret secret' : Bytes) : Prop where
  workingDirectory : fs'.workingDirectory = fs.workingDirectory
  publicKey_length : publicKey.length = 32
  secret_length : secret.length = 32
  secret_length' : secret'.length = 32
  identity : ∃ place, fs.placeOf l.identityKey = .ok place ∧
    fs.standing? place = some (.file (publicKey ++ secret)) ∧
    fs'.standing? place = some (.file (publicKey ++ secret')) ∧
    ∀ other, other ≠ place → fs'.standing? other = fs.standing? other

/-- Plain identities with one public key, and a salt on both disks or on neither. -/
structure StorageLayout.SharePublicKey (l : StorageLayout) (fs fs' : FileSystem)
    (identity identity' : Bytes) : Prop where
  read : fs.contentAt l.identityKey = .ok identity
  read' : fs'.contentAt l.identityKey = .ok identity'
  length : identity.length = Bundle.plainLength
  length' : identity'.length = Bundle.plainLength
  publicKey : identity'.take KeyPair.publicKeyLength = identity.take KeyPair.publicKeyLength
  salt : fs'.exist l.salt = fs.exist l.salt

open FileSystem in
theorem StorageLayout.DifferInSecret.share {l : StorageLayout} {fs fs' : FileSystem}
    {publicKey secret secret' : Bytes} (h : l.DifferInSecret fs fs' publicKey secret secret') :
    l.SharePublicKey fs fs' (publicKey ++ secret) (publicKey ++ secret') := by
  obtain ⟨place, hplace, hstanding, hstanding', hothers⟩ := h.identity
  have hkeep : KeepsDirectories fs fs' := by
    refine ⟨h.workingDirectory, fun other hother => ?_⟩
    rw [hothers other, hother]
    rintro rfl
    rw [hstanding] at hother
    cases hother
  obtain ⟨parent, rfl, hnames⟩ :=
    names_of_placeOf (ShelfSlot.plain_name (.current .identity)) hplace
  have hread := hnames.contentAt_eq_ok.2 hstanding
  have hread' := (hnames.keepsDirectories hkeep).contentAt_eq_ok.2 hstanding'
  obtain ⟨storage, hstands⟩ := Stands.of_contentAt hread
  have hsalt := (hstands.names_current .salt).resolve
  have hidentity := hnames.resolve.symm.trans (hstands.names_current .identity).resolve
  refine ⟨hread, hread', ?_, ?_, ?_, exist_congr hsalt (hkeep.resolve hsalt) (hothers _ ?_)⟩
  · rw [List.length_append, h.publicKey_length, h.secret_length]
    rfl
  · rw [List.length_append, h.publicKey_length, h.secret_length']
    rfl
  · have htake (secret : Bytes) : (publicKey ++ secret).take KeyPair.publicKeyLength = publicKey :=
      List.take_left' h.publicKey_length
    rw [htake, htake]
  · cases hidentity
    exact fun heq => nomatch ShelfSlot.place_injective storage
      (show (ShelfSlot.current .salt).place storage = (ShelfSlot.current .identity).place storage
        from heq)

namespace Vault

/-- The texts by which a vault, its bundle and its key pair are inspected. -/
structure Texts where
  vault : String
  bundle : Option String
  keyPair : Option String

def texts (v : Vault) : Texts :=
  ⟨v.inspect, v.bundle.map Bundle.inspect, v.identity.map KeyPair.inspect⟩

/-- A plain identity is unlocked without a password, and the host has nothing to do. -/
theorem run_unlockFrom_plain {l : StorageLayout} {identity : Bytes} {w : World}
    (hread : w.disk.contentAt l.identityKey = .ok identity)
    (hlength : identity.length = Bundle.plainLength) (source : PasswordSource) :
    (unlockFrom l.freshVault source).run w = (.ok ⟨l, .ready identity none⟩,
      { w with emitted := w.emitted ++ [.event (logged .info "Unencrypted identity"),
        .event ⟨.debug, .unlocking, "Password host finished", []⟩] }) := by
  have hproceed : (UnlockSession.proceed UnlockSession.stepsToLoad
      { vault := l.freshVault }).run w =
        (UnlockSession.loaded (.ok .ready, ⟨l, .ready identity none⟩),
          { w with emitted := w.emitted ++ [.event (logged .info "Unencrypted identity")] }) := by
    simp [UnlockSession.stepsToLoad, UnlockSession.proceed, UnlockSession.advance,
      UnlockSession.next?, UnlockSession.load, StorageLayout.freshVault, load, readOptional,
      Program.perform, Program.log, Program.withEmissions, UnlockSession.forward, hread,
      World.answer, Bundle.ofBytes, hlength, UnlockSession.report, Reports.add, Program.logAll,
      UnlockSession.finish, UnlockSession.loaded]
  simp only [unlockFrom, Program.bind_eq, Program.run_bind, hproceed,
    UnlockSession.run_converse_finished source (s := UnlockSession.loaded (.ok .ready, _)) rfl rfl]
  simp [UnlockSession.loaded, UnlockSession.finish, UnlockSession.dropSender,
    UnlockSession.conclude, UnlockSession.result?]

end Vault

/-- The engine of a command, which has its tables. -/
theorem exists_registered : ∃ e, (StandIn.interface.register {} :
    Except (RegistrationError EngineError) (StandIn HostServices)) = .ok e := ⟨_, rfl⟩

/-- The rest of a command when the engine has answered. -/
def afterInstallation :
    Except (RegistrationError EngineError) String × Traced HostServices →
      Program (Except CommandError Unit)
  | (.error e, host) => do
    Program.log EngineInterface.openedEvent
    Program.logAll host.log
    Program.log (EngineInterface.closedEvent host.state)
    return .error (.registration e)
  | (.ok fingerprint, host) => announceUnlocked fingerprint host

theorem blind_afterInstallation
    (answer : Except (RegistrationError EngineError) String × Traced HostServices) :
    (afterInstallation answer).Blind := by
  obtain ⟨result, host⟩ := answer
  cases result with
  | error e =>
    exact .bind (.log _) fun _ => .bind (.logAll _) fun _ => .bind (.log _) fun _ => .done _
  | ok fingerprint =>
    exact .bind (.log _) fun _ => .bind (.logAll _) fun _ => .bind (.print _) fun _ =>
      .bind (.print _) fun _ => .bind (.log _) fun _ => .done _

/-- The rest of a command when the flow has ended. -/
def afterUnlock : Except UnlockingError Vault → Program (Except CommandError Unit)
  | .error e => .done (.error (.unlocking e))
  | .ok v =>
    match (StandIn.interface.register {} :
      Except (RegistrationError EngineError) (StandIn HostServices)) with
    | .error e => .done (.error (.registration e))
    | .ok engine =>
      afterInstallation ((Prod.fst <$> StandIn.interface.install engine v).run ⟨{}, []⟩)

theorem runUnlock_eq (s : Settings) (file : Option Path) :
    runUnlock s file = (PasswordSource.choose file).bind fun source =>
      (Vault.unlockFrom s.layout.freshVault source).bind afterUnlock := by
  unfold runUnlock
  simp only [Program.bind_eq]
  congr 1
  funext source
  congr 1
  funext reply
  cases reply with
  | error e => rfl
  | ok v =>
    obtain ⟨e, hregister⟩ := exists_registered
    simp only [afterUnlock, hregister]
    have hinstall : (Prod.fst <$> StandIn.interface.install e v).run ⟨{}, []⟩ =
        (((StandIn.interface.install e v).run ⟨{}, []⟩).1.1,
          ((StandIn.interface.install e v).run ⟨{}, []⟩).2) := rfl
    rw [hinstall]
    generalize (StandIn.interface.install e v).run ⟨{}, []⟩ = installed
    obtain ⟨⟨result, engine⟩, host⟩ := installed
    cases result <;> rfl

theorem blind_printAll (lines : List String) : (printAll lines).Blind := by
  induction lines with
  | nil => exact .done ()
  | cons line rest ih => exact .bind (.print line) fun _ => ih

theorem blind_choose (file : Option Path) : (PasswordSource.choose file).Blind := by
  cases file with
  | some p => exact .done _
  | none =>
    refine .bind (.variable _) fun reply => ?_
    cases reply <;> exact .done _

theorem disk_run_choose (file : Option Path) (w : World) :
    ((PasswordSource.choose file).run w).2.disk = w.disk := by
  cases file with
  | some p => rfl
  | none =>
    simp only [PasswordSource.choose, Program.perform, Program.bind_eq, Program.call_bind,
      Program.done_bind, Program.run_call, World.answer]
    cases w.environment.lookup passwordVariable <;> rfl

namespace StorageLayout.SharePublicKey

variable {l : StorageLayout} {w : World} {disk : FileSystem} {identity identity' : Bytes}

theorem keyPairs (h : l.SharePublicKey w.disk disk identity identity') :
    ∃ k k', KeyPair.ofBytes? identity = some k ∧ KeyPair.ofBytes? identity' = some k' ∧
      k'.publicKey = k.publicKey :=
  ⟨_, _, if_pos h.length, if_pos h.length', h.publicKey⟩

theorem fingerprint_eq (h : l.SharePublicKey w.disk disk identity identity') :
    (KeyPair.ofBytes? identity').map KeyPair.fingerprint =
      (KeyPair.ofBytes? identity).map KeyPair.fingerprint := by
  obtain ⟨k, k', hk, hk', hpublic⟩ := h.keyPairs
  rw [hk, hk', Option.map_some, Option.map_some, KeyPair.fingerprint, KeyPair.fingerprint, hpublic]

theorem inspect_eq (h : l.SharePublicKey w.disk disk identity identity') :
    Bundle.inspect (.plain identity') = Bundle.inspect (.plain identity) := by
  unfold Bundle.inspect
  dsimp only
  rw [h.length, h.length']

theorem texts_eq (h : l.SharePublicKey w.disk disk identity identity') :
    Vault.texts ⟨l, .ready identity' none⟩ = Vault.texts ⟨l, .ready identity none⟩ := by
  obtain ⟨k, k', hk, hk', hpublic⟩ := h.keyPairs
  have hkey : k'.inspect = k.inspect := by
    unfold KeyPair.inspect
    rw [hpublic]
  have hvault : Vault.inspect ⟨l, .ready identity' none⟩ =
      Vault.inspect ⟨l, .ready identity none⟩ := by
    unfold Vault.inspect
    dsimp only [Vault.state, Vault.bundle, Vault.salt, Vault.inspectOption]
    rw [h.inspect_eq]
  unfold Vault.texts
  rw [hvault]
  simp only [Vault.bundle, Option.map_some, h.inspect_eq, Vault.identity, hk, hk', hkey]

theorem alikeOn_probe (h : l.SharePublicKey w.disk disk identity identity') :
    (l.probe.bind fun found => .done (found.map Bundle.inspect)).AlikeOn w disk := by
  have hprobe {w : World} {identity : Bytes} (hread : w.disk.contentAt l.identityKey = .ok identity)
      (hlength : identity.length = Bundle.plainLength) :
      l.probe.run w = (.ok (.plain identity), w) := by
    rw [StorageLayout.run_probe, StorageLayout.found_of_content hread,
      Bundle.ofBytes_of_plainLength hlength]
  have hprobe' := hprobe (w := { w with disk := disk }) h.read' h.length'
  refine Program.alikeOn_bind_of_run (hprobe h.read h.length) hprobe' ?_ (Program.alikeOn_done ..)
  simp only [Except.map, h.inspect_eq]

theorem alikeOn_load (h : l.SharePublicKey w.disk disk identity identity') :
    (l.freshVault.load.bind fun loaded => .done (loaded.1, loaded.2.texts)).AlikeOn w disk := by
  have hload' := Vault.run_load_plain (w := { w with disk := disk }) h.read' h.length'
  refine Program.alikeOn_bind_of_run (Vault.run_load_plain h.read h.length) hload' ?_
    (Program.alikeOn_done ..)
  rw [h.texts_eq]

theorem alikeOn_collect (h : l.SharePublicKey w.disk disk identity identity') :
    (StatusReport.collect l).AlikeOn w disk := by
  have hcollect := StatusReport.run_collect_of_content h.read
    (Bundle.ofBytes_of_plainLength h.length)
  have hcollect' := StatusReport.run_collect_of_content (w := { w with disk := disk }) h.read'
    (Bundle.ofBytes_of_plainLength h.length')
  simp only [StatusReport.about, StatusReport.classify, h.fingerprint_eq, h.salt]
    at hcollect hcollect'
  unfold Program.AlikeOn
  rw [hcollect, hcollect']

/-- The stand-in and its host come to the same, but for the identity that the stand-in keeps. -/
theorem install_standIn_eq (h : l.SharePublicKey w.disk disk identity identity')
    (e : StandIn HostServices) :
    Prod.fst <$> StandIn.interface.install e ⟨l, .ready identity' none⟩ =
      Prod.fst <$> StandIn.interface.install e ⟨l, .ready identity none⟩ := by
  obtain ⟨k, k', hk, hk', hpublic⟩ := h.keyPairs
  have hfingerprint : k'.fingerprint = k.fingerprint := by
    unfold KeyPair.fingerprint
    rw [hpublic]
  rw [EngineInterface.install_standIn e (v := ⟨l, .ready identity none⟩) hk,
    EngineInterface.install_standIn e (v := ⟨l, .ready identity' none⟩) hk', hfingerprint]

theorem alikeOn_runUnlock {s : Settings}
    (h : s.layout.SharePublicKey w.disk disk identity identity') (file : Option Path) :
    (runUnlock s file).AlikeOn w disk := by
  rw [runUnlock_eq]
  refine (blind_choose file w disk).bind ?_
  have hdisk := disk_run_choose file w
  generalize (PasswordSource.choose file).run w = chosen at hdisk
  obtain ⟨source, w⟩ := chosen
  rw [← hdisk] at h
  have hafter : afterUnlock (.ok ⟨s.layout, .ready identity' none⟩) =
      afterUnlock (.ok ⟨s.layout, .ready identity none⟩) := by
    obtain ⟨e, hregister⟩ := exists_registered
    simp only [afterUnlock, hregister, h.install_standIn_eq]
  have hblind : (afterUnlock (.ok ⟨s.layout, .ready identity none⟩)).Blind := by
    obtain ⟨e, hregister⟩ := exists_registered
    simp only [afterUnlock, hregister]
    exact blind_afterInstallation _
  have hrun' := Vault.run_unlockFrom_plain (w := { w with disk := disk }) h.read' h.length' source
  exact Program.alikeOn_bind_of_run (Vault.run_unlockFrom_plain h.read h.length source) hrun'
    hafter (hblind _ _)

theorem alikeOn_runStatus {s : Settings}
    (h : s.layout.SharePublicKey w.disk disk identity identity') (json : Bool) :
    (runStatus s json).AlikeOn w disk := by
  refine h.alikeOn_collect.bind ?_
  cases ((StatusReport.collect s.layout).run w).1 with
  | error e => exact Program.alikeOn_done _ _ _
  | ok report => exact (blind_printAll _).bind (fun _ => .done _) _ _

end StorageLayout.SharePublicKey

/-- What does not tell a disk from another one with a plain identity of the same public key. -/
structure Settings.KeepsSecret (s : Settings) (w : World) (disk : FileSystem) : Prop where
  report : (StatusReport.collect s.layout).AlikeOn w disk
  status (json : Bool) : (runStatus s json).AlikeOn w disk
  unlock (file : Option Path) : (runUnlock s file).AlikeOn w disk
  bundle : (s.layout.probe.bind fun found => .done (found.map Bundle.inspect)).AlikeOn w disk
  load : (s.layout.freshVault.load.bind fun loaded =>
    .done (loaded.1, loaded.2.texts)).AlikeOn w disk
  install : ∃ v v', (s.layout.freshVault.load.run w).1 = (.ok .ready, v) ∧
    (s.layout.freshVault.load.run { w with disk := disk }).1 = (.ok .ready, v') ∧
    (∀ e : StandIn HostServices, Prod.fst <$> StandIn.interface.install e v' =
      Prod.fst <$> StandIn.interface.install e v) ∧
    ∀ {ω : Type} (i : EngineInterface ω HostServices) (engine engine' : ω)
      (t t' : Traced HostServices) (fingerprint fingerprint' : String),
      ((i.install engine v).run t).1.1 = .ok fingerprint →
      ((i.install engine' v').run t').1.1 = .ok fingerprint' → fingerprint' = fingerprint

theorem StorageLayout.SharePublicKey.keepsSecret {s : Settings} {w : World} {disk : FileSystem}
    {identity identity' : Bytes} (h : s.layout.SharePublicKey w.disk disk identity identity') :
    s.KeepsSecret w disk where
  report := h.alikeOn_collect
  status := h.alikeOn_runStatus
  unlock := h.alikeOn_runUnlock
  bundle := h.alikeOn_probe
  load := h.alikeOn_load
  install := by
    have hload' := Vault.run_load_plain (w := { w with disk := disk }) h.read' h.length'
    refine ⟨_, _, congrArg Prod.fst (Vault.run_load_plain h.read h.length),
      congrArg Prod.fst hload', h.install_standIn_eq, ?_⟩
    intro ω i engine engine' t t' fingerprint fingerprint' hok hok'
    obtain ⟨k, k', hk, hk', hpublic⟩ := h.keyPairs
    rw [EngineInterface.fingerprint_of_install (v := ⟨_, .ready identity none⟩) hk hok,
      EngineInterface.fingerprint_of_install (v := ⟨_, .ready identity' none⟩) hk' hok',
      KeyPair.fingerprint, KeyPair.fingerprint, hpublic]

/-- Passwords that enter the derivation as one block are not told apart. -/
theorem Vault.answersAlike_of_keyBlock {l : StorageLayout} {payload salt : Bytes} {p q : String}
    (hsalt : salt ≠ [])
    (hblock : Hmac.keyBlock sha1 (Bytes.ofText q) = Hmac.keyBlock sha1 (Bytes.ofText p)) :
    AnswersAlike ⟨l, .awaitingPassword payload (some salt)⟩ p q := by
  have hsupply : supply ⟨l, .awaitingPassword payload (some salt)⟩ p =
      supply ⟨l, .awaitingPassword payload (some salt)⟩ q := by
    rw [supply_eq_opening hsalt, supply_eq_opening hsalt, KeyMaterial.ofPassword_congr hblock]
  exact ⟨by rw [hsupply], fun _ => by rw [hsupply]⟩

/-- The private key of a plain identity does not show, and neither do passwords whose attempts come
to the same. -/
theorem secrets_do_not_show :
    (∀ {s : Settings} {w : World} {disk : FileSystem} {publicKey secret secret' : Bytes},
      s.layout.DifferInSecret w.disk disk publicKey secret secret' → s.KeepsSecret w disk) ∧
    ∀ {v : Vault} {w : World} {ps qs : List String},
      List.Forall₂ (v.load.run w).1.2.AnswersAlike ps qs → v.FlowsAlike w ps qs :=
  ⟨fun h => h.share.keepsSecret, Vault.flowsAlike⟩

theorem secrets_do_not_show_in_stores :
    Settings.KeepsSecret ⟨"/d", "info", none⟩ { disk := plainStore (List.replicate 64 7) }
        ((plainStore (List.replicate 64 7)).set ["d", "storage", "identity", "identity_key"]
          (some (.file (List.replicate 32 7 ++ List.replicate 32 8)))) ∧
      Vault.FlowsAlike (StorageLayout.freshVault ⟨"/d"⟩) { disk := Vault.storeUnderA }
        ["b", "a"] ["b\x00", "a\x00"] := by
  have hparent : (plainStore (List.replicate 64 7)).standing? ["d", "storage", "identity"] =
      some .directory := by rfl
  have hdiffer : StorageLayout.DifferInSecret ⟨"/d"⟩ (plainStore (List.replicate 64 7))
      ((plainStore (List.replicate 64 7)).set ["d", "storage", "identity", "identity_key"]
        (some (.file (List.replicate 32 7 ++ List.replicate 32 8))))
      (List.replicate 32 7) (List.replicate 32 7) (List.replicate 32 8) := by
    refine ⟨rfl, by rfl, by rfl, by rfl, _, by rfl, by rfl, by rfl, fun other hother => ?_⟩
    exact (FileSystem.standing?_set hparent (by decide +kernel)
      (some (List.replicate 32 7 ++ List.replicate 32 8)) other).trans (if_neg hother)
  refine ⟨secrets_do_not_show.1 hdiffer, secrets_do_not_show.2 ?_⟩
  rw [Vault.run_load_storeUnderA]
  exact .cons (Vault.answersAlike_of_keyBlock (by decide) (by decide +kernel))
    (.cons (Vault.answersAlike_of_keyBlock (by decide) (by decide +kernel)) .nil)

end IdentityVault
