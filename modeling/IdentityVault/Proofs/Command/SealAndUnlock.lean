import IdentityVault.Command.Run
import IdentityVault.Proofs.Command.PasswordFile
import IdentityVault.Proofs.Command.Status
import IdentityVault.Proofs.Command.UnlockFrom
import IdentityVault.Proofs.Engine.Installation
import IdentityVault.Proofs.Store.SealThenUnlock

/-! An identity that one command seals and another one unlocks, each with a password file of its
own. -/
namespace IdentityVault

/-- The places of a user's store. -/
abbrev Settings.layout (s : Settings) : StorageLayout := ⟨s.dataDirectory⟩

variable {s : Settings} {f g : Path} {w : World} {password : String}

/-- Sealing with a password file changes the disk as sealing with its password does. -/
theorem run_runSeal (hf : w.disk.HoldsPassword f password) :
    ((runSeal s (some f)).run w).2.disk = ((s.layout.sealIdentity password).run w).2.disk ∧
      (((runSeal s (some f)).run w).1 = .ok () →
        ((s.layout.sealIdentity password).run w).1 = .ok ()) := by
  simp only [runSeal, PasswordSource.choose, Program.pure_eq, Program.bind_eq, Program.done_bind,
    Program.run_bind, PasswordSource.run_readNew_file hf]
  cases (s.layout.sealIdentity password).run w with
  | mk result w' =>
    cases result with
    | error e => exact ⟨rfl, fun hok => by cases hok⟩
    | ok => exact ⟨rfl, fun _ => rfl⟩

/-- A vault that was not unlocked leaves everything as it was. -/
theorem run_runUnlock_error {e : UnlockingError}
    (hunlock : ((Vault.unlockFrom s.layout.freshVault (.file g)).run w).1 = .error e) :
    ((runUnlock s (some g)).run w).1 = .error (.unlocking e) ∧
      w.Kept ((runUnlock s (some g)).run w).2 := by
  have hquiet := Vault.quiet_unlockFrom (PasswordSource.isInteractive_file g) s.layout.freshVault
  have hkept := hquiet.kept w
  simp only [runUnlock, PasswordSource.choose, Program.pure_eq, Program.bind_eq, Program.done_bind,
    Program.run_bind]
  simp only [StorageLayout.freshVault] at hunlock hkept
  generalize (Vault.unlockFrom ⟨⟨s.dataDirectory⟩, .unloaded⟩ (.file g)).run w = unlocked at *
  rw [hunlock]
  exact ⟨rfl, hkept⟩

/-- The stand-in takes any identity from a host without other business. -/
theorem run_install_standIn {v : Vault} {k : KeyPair} {e₀ e : StandIn HostServices}
    (hregister : StandIn.interface.register e₀ = .ok e) (hidentity : v.identity = some k) :
    ((StandIn.interface.install e v).run ⟨{}, []⟩).1.1 = .ok k.fingerprint := by
  have hsound : HostThread.Sound ⟨⟨{}, []⟩, 0⟩ :=
    HostThread.Run.sound (show HostThread.Run [] [] _ from .start)
  have hguarded := EngineInterface.guarded_of_calls hsound hidentity
    (EngineInterface.calls_standIn (HostServices.joined_of_register hregister))
  rw [hguarded.reply_eq]
  rfl

/-- The program after a vault was unlocked. -/
def announceUnlocked (fingerprint : String) (host : Traced HostServices) :
    Program (Except CommandError Unit) := do
  Program.log EngineInterface.openedEvent
  Program.logAll host.log
  Program.print "✅ Identity unlocked"
  Program.print ("   Fingerprint: " ++ fingerprint)
  Program.log (EngineInterface.closedEvent host.state)
  return .ok ()

theorem run_announceUnlocked (fingerprint : String) (host : Traced HostServices) (w : World) :
    ((announceUnlocked fingerprint host).run w).1 = .ok () ∧
      ((announceUnlocked fingerprint host).run w).2.disk = w.disk ∧
      ((announceUnlocked fingerprint host).run w).2.standardOutput =
        w.standardOutput ++ ["✅ Identity unlocked", "   Fingerprint: " ++ fingerprint] := by
  have hlog (e : LogEvent) (w : World) := (Program.Quiet.log e).kept w
  have hlogAll (w : World) := (Program.Quiet.logAll host.log).kept w
  have hprint (line : String) (w : World) :
      ((Program.print line).run w).2.disk = w.disk := rfl
  simp only [announceUnlocked, Program.bind_eq, Program.run_bind, Program.pure_eq,
    Program.run_done, true_and, (hlog _ _).disk, (hlog _ _).standardOutput, hprint,
    Program.standardOutput_run_print, (hlogAll _).disk, (hlogAll _).standardOutput,
    List.append_assoc, List.cons_append, List.nil_append]

/-- A vault that was unlocked is installed in an engine, and its fingerprint is printed. -/
theorem run_runUnlock_ok {v : Vault} {k : KeyPair}
    (hunlock : ((Vault.unlockFrom s.layout.freshVault (.file g)).run w).1 = .ok v)
    (hidentity : v.identity = some k) :
    ((runUnlock s (some g)).run w).1 = .ok () ∧
      ((runUnlock s (some g)).run w).2.disk = w.disk ∧
      ((runUnlock s (some g)).run w).2.standardOutput =
        w.standardOutput ++ ["✅ Identity unlocked", "   Fingerprint: " ++ k.fingerprint] := by
  have hquiet := Vault.quiet_unlockFrom (PasswordSource.isInteractive_file g) s.layout.freshVault
  have hkept := hquiet.kept w
  simp only [StorageLayout.freshVault] at hunlock hkept
  obtain ⟨e, hregister⟩ : ∃ e, (StandIn.interface.register {} :
      Except (RegistrationError EngineError) (StandIn HostServices)) = .ok e := ⟨_, rfl⟩
  have hinstall := run_install_standIn hregister hidentity
  simp only [runUnlock, PasswordSource.choose, Program.pure_eq, Program.bind_eq, Program.done_bind,
    Program.run_bind]
  generalize (Vault.unlockFrom ⟨⟨s.dataDirectory⟩, .unloaded⟩ (.file g)).run w = unlocked at *
  rw [hunlock, ← hkept.disk, ← hkept.standardOutput]
  dsimp only
  rw [hregister]
  dsimp only
  generalize (StandIn.interface.install e v).run ⟨{}, []⟩ = installed at *
  obtain ⟨⟨result, engine⟩, host⟩ := installed
  cases hinstall
  exact run_announceUnlocked k.fingerprint host unlocked.2

/-- The report of the store at some moment, which is also what the command shows. -/
structure Settings.StatusIs (s : Settings) (w : World) (report : StatusReport) : Prop where
  collected : (StatusReport.collect s.layout).run w = (.ok report, w)
  shown (json : Bool) : ((runStatus s json).run w).1 = .ok () ∧
    ((runStatus s json).run w).2.standardOutput =
      w.standardOutput ++ if json then [report.json] else report.lines

theorem standardOutput_run_printAll (lines : List String) (w : World) :
    ((printAll lines).run w).2.standardOutput = w.standardOutput ++ lines := by
  induction lines generalizing w with
  | nil => exact (List.append_nil _).symm
  | cons line rest ih =>
    rw [printAll, Program.run_bind, ih, Program.standardOutput_run_print, List.append_assoc,
      List.singleton_append]

theorem statusIs_of_collected {report : StatusReport}
    (h : (StatusReport.collect s.layout).run w = (.ok report, w)) : s.StatusIs w report where
  collected := h
  shown json := by
    have hprinted := standardOutput_run_printAll
      (if json then [report.json] else report.lines) w
    simp only [runStatus, Program.bind_eq, Program.run_bind, h]
    exact ⟨rfl, hprinted⟩

/-- The path leads to none of the places that the store uses, not even for a while. -/
def StorageLayout.Apart (l : StorageLayout) (fs : FileSystem) (p : Path) : Prop :=
  ∀ slot : ShelfSlot, ¬fs.SamePlace p (slot.path l)

/-- Sealing leaves a password file alone that is no file of the store. -/
theorem holdsPassword_after_seal {l : StorageLayout} {storage : List String} {attempt : String}
    (hstands : l.Stands w.disk storage) (hapart : l.Apart w.disk g)
    (hg : w.disk.HoldsPassword g attempt) (password : String) :
    ((l.sealIdentity password).run w).2.disk.HoldsPassword g attempt := by
  obtain ⟨hkeeps, hothers⟩ := l.sealIdentity_leaves hstands password
  obtain ⟨content, ends, hcontent, htext⟩ := hg.content
  refine ⟨⟨content, ends, hkeeps.contentAt hcontent fun place hplace => ?_, htext⟩, hg.last,
    hg.ne_empty⟩
  apply hothers
  rintro ⟨slot, hsize, rfl⟩
  refine hapart slot ⟨_, hplace, ?_⟩
  unfold FileSystem.placeOf
  rw [hstands.resolve_path, if_neg (Nat.not_lt.2 hsize)]
  rfl

/-- What becomes of an identity that one command sealed, when another is given the file `g` with
the same password or with one that does not fit. -/
structure UnlocksAfterSeal (s : Settings) (g : Path) (password attempt : String)
    (w later : World) : Prop where
  opens : ∃ report fingerprint, s.StatusIs w report ∧ report.identity = .plain ∧
    report.fingerprint = some fingerprint ∧
    (attempt = password →
      ((runUnlock s (some g)).run later).1 = .ok () ∧
      ((runUnlock s (some g)).run later).2.disk = later.disk ∧
      ((runUnlock s (some g)).run later).2.standardOutput =
        later.standardOutput ++ ["✅ Identity unlocked", "   Fingerprint: " ++ fingerprint])
  sealed (w' : World) (h : w'.disk = later.disk) : ∃ report, s.StatusIs w' report ∧
    report.identity = .sealed ∧ report.saltPresent = true ∧ report.fingerprint = none
  refused (payload salt : Bytes) (keys : KeyMaterial)
    (hpayload : later.disk.contentAt s.layout.identityKey = .ok payload)
    (hsalt : later.disk.contentAt s.layout.salt = .ok salt)
    (hkeys : KeyMaterial.derive attempt salt = .ok keys)
    (hfails : Payload.opened keys payload = .error .authentication) :
    ((runUnlock s (some g)).run later).1 = .error (.unlocking (.incorrectPassword 1)) ∧
      (CommandError.unlocking (.incorrectPassword 1)).message =
        "Incorrect password (1 attempt(s))" ∧
      ((runUnlock s (some g)).run later).2.disk = later.disk ∧
      ((runUnlock s (some g)).run later).2.standardOutput = later.standardOutput

open Protection in
theorem unlocksAfterSeal_of_shown {storage : List String} {identity : Bytes} {attempt : String}
    {d : SealDraft} {later : World}
    (hidentity : w.disk.contentAt s.layout.identityKey = .ok identity)
    (hlength : identity.length = Bundle.plainLength)
    (hshown : Shown s.layout storage identity (.sealed password d) later.disk)
    (hg : later.disk.HoldsPassword g attempt) :
    UnlocksAfterSeal s g password attempt w later := by
  have hd := hshown.2.2.2
  have hbundle := d.length_bundle hd hlength password
  have hload := (Vault.runAmid_load_sealed (fun _ => later.disk) hshown.bundle hbundle
    hshown.salt later).1
  rw [← (Vault.readsOnly_load _).run_eq_runAmid] at hload
  -- The flow has come to one attempt on the vault that was loaded.
  have hunlock :=
    Vault.run_unlockFrom (PasswordSource.isInteractive_file g) s.layout.freshVault later
  rw [hload, PasswordSource.run_read_file hg] at hunlock
  have hplain := Bundle.ofBytes_of_plainLength hlength
  have hkey := KeyPair.ofBytes?_of_plainLength hlength
  refine ⟨?_, ?_, ?_⟩
  · have hbefore := StatusReport.run_collect_of_content hidentity hplain
    simp only [StatusReport.about, StatusReport.classify, hkey, Option.map_some] at hbefore
    refine ⟨_, _, statusIs_of_collected hbefore, rfl, rfl, ?_⟩
    rintro rfl
    have hunlocks : (Vault.supply ⟨s.layout, .awaitingPassword (d.bundle attempt)
        (some d.salt)⟩ attempt).Unlocks identity := by
      rw [Vault.supply_unlocks_iff hlength hd.salt_ne_nil]
      exact ⟨Block.ofBytes d.vector, by rw [SealDraft.bundle, hd.identity]⟩
    simp only [Vault.unlockedBy, UnlockSession.resolved, hunlocks.outcome] at hunlock
    exact run_runUnlock_ok hunlock hunlocks.vault.identity
  · intro w' hdisk
    have hsealed := d.ofBytes_bundle hd hlength password
    have hread := hshown.bundle
    have hsalt := FileSystem.exist_of_contentAt hshown.salt
    rw [← hdisk] at hread hsalt
    have hafter := StatusReport.run_collect_of_content hread hsealed
    simp only [StatusReport.about, StatusReport.classify, hsalt] at hafter
    exact ⟨_, statusIs_of_collected hafter, rfl, rfl, rfl⟩
  · intro payload salt keys hpayload hsalt hkeys hfails
    cases hpayload.symm.trans hshown.bundle
    cases hsalt.symm.trans hshown.salt
    have hrefused : (Vault.supply ⟨s.layout, .awaitingPassword (d.bundle password)
        (some d.salt)⟩ attempt).outcome = .ok .decryptionFailure :=
      Vault.supply_of_authentication hd.salt_ne_nil hkeys hfails
    simp only [Vault.unlockedBy, UnlockSession.resolved, hrefused] at hunlock
    obtain ⟨herror, hkept⟩ := run_runUnlock_error hunlock
    exact ⟨herror, rfl, hkept.disk, hkept.standardOutput⟩

/-- A command that sealed an identity well, with any settings and any password file, leaves it to a
command that unlocks it. The second one may be given another file, as long as that one is no file
of the store. -/
theorem unlocksAfterSeal_of_runSeal_ok {identity : Bytes} {attempt : String} {later : World}
    (hidentity : w.disk.contentAt s.layout.identityKey = .ok identity)
    (hlength : identity.length = 64) (hf : w.disk.HoldsPassword f password)
    (hg : w.disk.HoldsPassword g attempt) (hapart : s.layout.Apart w.disk g)
    (hok : ((runSeal s (some f)).run w).1 = .ok ())
    (hdisk : later.disk = ((runSeal s (some f)).run w).2.disk) :
    UnlocksAfterSeal s g password attempt w later := by
  obtain ⟨hseal, hsealed⟩ := run_runSeal (s := s) hf
  obtain ⟨storage, d, hshown⟩ := exists_shown_of_ok hidentity hlength (hsealed hok)
  obtain ⟨_, hstands⟩ := StorageLayout.Stands.of_contentAt hidentity
  have hgafter := holdsPassword_after_seal hstands hapart hg password
  rw [← hseal, ← hdisk] at hshown hgafter
  exact unlocksAfterSeal_of_shown hidentity hlength hshown hgafter

/-- A disk with a plain identity below `/d`, and one password in two files with other line ends. -/
def passwordStore (identity : Bytes) : FileSystem :=
  ⟨.directory [("d", .directory [("storage", .directory
      [("identity", .directory [("identity_key", .file identity)])])]),
    ("f", .file [112, 119, 10]), ("g", .file [112, 119, 13, 10, 10])], []⟩

theorem unlocksAfterSeal_passwordStore :
    UnlocksAfterSeal ⟨"/d", "info", none⟩ "/g" "pw" "pw"
      { disk := passwordStore (List.replicate 64 7) }
      ((runSeal ⟨"/d", "info", none⟩ (some "/f")).run
        { disk := passwordStore (List.replicate 64 7) }).2 := by
  have hlast (c : Char) (hc : "pw".toList.getLast? = some c) : c ≠ '\n' ∧ c ≠ '\r' := by
    obtain rfl : 'w' = c := by simpa using hc
    decide
  have hpassword (ends : String) (content : Bytes) (p : Path)
      (hcontent : (passwordStore (List.replicate 64 7)).contentAt p = .ok content)
      (htext : Bytes.toText? content = some ("pw" ++ ends))
      (hends : ∀ c ∈ ends.toList, c = '\n' ∨ c = '\r') :
      (passwordStore (List.replicate 64 7)).HoldsPassword p "pw" :=
    ⟨⟨content, ends, hcontent, htext, hends⟩, hlast, by decide⟩
  have hidentity : ({ disk := passwordStore (List.replicate 64 7) } : World).disk.contentAt
      (StorageLayout.identityKey ⟨"/d"⟩) = .ok (List.replicate 64 7) := by rfl
  refine unlocksAfterSeal_of_runSeal_ok hidentity (by rfl)
    (hpassword "\n" [112, 119, 10] "/f" (by rfl) (by decide +kernel) (by simp))
    (hpassword "\r\n\n" [112, 119, 13, 10, 10] "/g" (by rfl) (by decide +kernel) (by simp))
    ?_ (by rfl) rfl
  rintro (file | file) ⟨place, hplace, hslot⟩ <;> cases file <;> cases hplace <;> cases hslot

end IdentityVault
