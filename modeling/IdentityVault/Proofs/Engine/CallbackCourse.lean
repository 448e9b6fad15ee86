import IdentityVault.Engine.StandIn
import IdentityVault.Proofs.Engine.CallbackFront

/-! What a keyed hash asks of a provider that may fail or panic at any call. However it goes, the
context that was started is cleaned up once and the lock is given back once, and the engine learns
the first number that is not zero. -/
namespace IdentityVault

namespace Outcome

variable {α : Type}

/-- The number that the engine is given. A panic counts as an unknown error. -/
def code : Outcome α → Int
  | .returned _ => 0
  | .failed e => e.code
  | .panicked => -1000

def value? : Outcome α → Option α
  | .returned a => some a
  | .failed _ | .panicked => none

theorem code_eq_zero_iff {o : Outcome α} : o.code = 0 ↔ ∃ a, o = .returned a := by
  cases o with
  | returned a => simp [code]
  | failed e => simp [code, e.code_ne_zero]
  | panicked => simp [code]

theorem isSome_value?_iff {o : Outcome α} : o.value?.isSome ↔ o.code = 0 := by
  rw [code_eq_zero_iff]
  cases o <;> simp [value?]

end Outcome

/-- A panic leaves a line in the log and nothing else. -/
def Traced.noting {σ α : Type} (w : Traced σ) (e : LogEvent) : Outcome α → Traced σ
  | .returned _ | .failed _ => w
  | .panicked => { w with log := w.log ++ [e] }

namespace Callback

variable {σ α β : Type} {w w' : Traced σ}

def cryptoPanic : LogEvent := ⟨.error, .callbacks, "panic in engine crypto callback", []⟩

def namedPanic (name : String) : LogEvent :=
  ⟨.error, .callbacks, "panic in engine callback", [("callback", "\"" ++ name ++ "\"")]⟩

theorem state_noting {action : Callback σ (Outcome α)} {o : Outcome α} {e : LogEvent}
    (h : action.run w = (o, w')) : (w'.noting e o).state = (action.run w).2.state := by
  rw [h]
  cases o <;> rfl

theorem run_settle {action : Callback σ (Outcome α)} {o : Outcome α} (h : action.run w = (o, w'))
    (write : α → β) : (settle action write).run w =
      (⟨o.code, o.value?.map write⟩, w'.noting cryptoPanic o) := by
  cases o with
  | returned a => exact run_settle_returned h write
  | failed e => exact run_settle_failed h write
  | panicked =>
    simp only [settle, StateT.run_bind, h]
    rfl

/-- A callback that hands out what it got. -/
theorem run_settle_id (action : Callback σ (Outcome α)) (w : Traced σ) :
    (settle action id).run w = (⟨(action.run w).1.code, (action.run w).1.value?⟩,
      (action.run w).2.noting cryptoPanic (action.run w).1) := by
  have hrun : (settle action id).run w = _ := run_settle rfl id
  rwa [Option.map_id] at hrun

theorem run_shield {action : Callback σ (Outcome Unit)} {o : Outcome Unit}
    (h : action.run w = (o, w')) (name : String) :
    (shield name action).run w = ((), w'.noting (namedPanic name) o) := by
  simp only [shield, StateT.run_bind, h]
  cases o <;> rfl

theorem isSome_output_settle_iff (action : Callback σ (Outcome α)) (write : α → β) (w : Traced σ) :
    ((settle action write).run w).1.output.isSome ↔ ((settle action write).run w).1.code = 0 := by
  rw [run_settle (Prod.mk.eta (p := action.run w)).symm, Option.isSome_map]
  exact Outcome.isSome_value?_iff

end Callback

/-- A call of a provider, with its outcome. -/
inductive ProviderDeed where
  | locked (o : Outcome Unit)
  | started (key : Bytes) (o : Outcome Handle)
  | fed (h : Handle) (data : Bytes) (o : Outcome Unit)
  | finished (h : Handle) (o : Outcome Bytes)
  | cleaned (handle : Option Handle) (o : Outcome Unit)
  | unlocked (o : Outcome Unit)

namespace Provider

variable {σ : Type} {p : Provider σ} {w w' w'' : Traced σ} {h : Handle}

open Callback in
/-- What a call does to the state and the log. -/
inductive Takes (p : Provider σ) (w : Traced σ) : ProviderDeed → Traced σ → Prop where
  | locked {o : Outcome Unit} {w' : Traced σ} (run : p.lock.run w = (o, w')) :
      Takes p w (.locked o) (w'.noting (namedPanic "lock") o)
  | started {key : Bytes} {o : Outcome Handle} {w' : Traced σ}
      (run : (p.init key).run w = (o, w')) :
      Takes p w (.started key o) (w'.noting cryptoPanic o)
  | fed {h : Handle} {data : Bytes} {o : Outcome Unit} {w' : Traced σ}
      (run : (p.update h data).run w = (o, w')) :
      Takes p w (.fed h data o) (w'.noting cryptoPanic o)
  | finished {h : Handle} {o : Outcome Bytes} {w' : Traced σ}
      (run : (p.finish h).run w = (o, w')) :
      Takes p w (.finished h o) (w'.noting cryptoPanic o)
  | cleaned {handle : Option Handle} {o : Outcome Unit} {w' : Traced σ}
      (run : (p.cleanup handle).run w = (o, w')) :
      Takes p w (.cleaned handle o) (w'.noting (namedPanic "hmac_sha256_cleanup") o)
  | unlocked {o : Outcome Unit} {w' : Traced σ} (run : p.unlock.run w = (o, w')) :
      Takes p w (.unlocked o) (w'.noting (namedPanic "unlock") o)

/-- These calls and no others, in this order. -/
inductive Calls (p : Provider σ) : Traced σ → List ProviderDeed → Traced σ → Prop where
  | nil (w : Traced σ) : Calls p w [] w
  | cons {w w' w'' : Traced σ} {d : ProviderDeed} {rest : List ProviderDeed}
      (first : p.Takes w d w') (others : Calls p w' rest w'') : Calls p w (d :: rest) w''

theorem Takes.calls {d : ProviderDeed} (h : p.Takes w d w') : p.Calls w [d] w' :=
  .cons h (.nil w')

theorem Calls.append {first rest : List ProviderDeed} (h : p.Calls w first w')
    (h' : p.Calls w' rest w'') : p.Calls w (first ++ rest) w'' := by
  induction h with
  | nil => exact h'
  | cons taken _ ih => exact .cons taken (ih h')

theorem Calls.keeps {right : σ → Prop} {calls : List ProviderDeed}
    (hkeeps : ∀ {d w w'}, p.Takes w d w' → right w.state → right w'.state)
    (h : p.Calls w calls w') (hright : right w.state) : right w'.state := by
  induction h with
  | nil => exact hright
  | cons taken _ ih => exact ih (hkeeps taken hright)

/-- Every handle that is given out is the handle of some word, in each state that the provider
comes to from a right one. Handles are made by slot tables and from words, and neither makes any
other. -/
structure Addresses (p : Provider σ) (right : σ → Prop) : Prop where
  keeps {d : ProviderDeed} {w w' : Traced σ} (taken : p.Takes w d w') (hright : right w.state) :
    right w'.state
  word {key : Bytes} {h : Handle} {w w' : Traced σ}
    (given : p.Takes w (.started key (.returned h)) w') (hright : right w.state) :
    ∃ raw, Handle.ofRaw? raw = some h

theorem run_lock (p : Provider σ) (w : Traced σ) :
    ∃ o w', p.Takes w (.locked o) w' ∧ ((LockTable.ofProvider p).lock .valid).run w = ((), w') :=
  ⟨_, _, .locked rfl, Callback.run_shield rfl "lock"⟩

theorem run_unlock (p : Provider σ) (w : Traced σ) :
    ∃ o w', p.Takes w (.unlocked o) w' ∧
      ((LockTable.ofProvider p).unlock .valid).run w = ((), w') :=
  ⟨_, _, .unlocked rfl, Callback.run_shield rfl "unlock"⟩

theorem run_init (p : Provider σ) (key : Bytes) (w : Traced σ) :
    ∃ o w', p.Takes w (.started key o) w' ∧
      ((HmacTable.ofProvider p).init .valid (.bytes key) .valid).run w =
        (⟨o.code, o.value?.map Handle.toRaw⟩, w') :=
  ⟨_, _, .started rfl, Callback.run_settle rfl Handle.toRaw⟩

variable (hword : Handle.ofRaw? h.toRaw = some h)
include hword

theorem run_update (p : Provider σ) (data : Bytes) (w : Traced σ) :
    ∃ o w', p.Takes w (.fed h data o) w' ∧
      ((HmacTable.ofProvider p).update h.toRaw (.bytes data) .valid).run w =
        (⟨o.code, o.value?⟩, w') := by
  refine ⟨_, _, .fed rfl, ?_⟩
  simp only [HmacTable.ofProvider, hword, Buffer.content?]
  exact Callback.run_settle_id (p.update h data) w

theorem run_finish (p : Provider σ) (w : Traced σ) :
    ∃ o w', p.Takes w (.finished h o) w' ∧
      ((HmacTable.ofProvider p).finish h.toRaw .valid .valid).run w =
        (⟨o.code, o.value?⟩, w') := by
  refine ⟨_, _, .finished rfl, ?_⟩
  simp only [HmacTable.ofProvider, hword]
  exact Callback.run_settle_id (p.finish h) w

theorem run_cleanup (p : Provider σ) (w : Traced σ) :
    ∃ o w', p.Takes w (.cleaned (some h) o) w' ∧
      ((HmacTable.ofProvider p).cleanup h.toRaw .valid).run w = ((), w') := by
  refine ⟨_, _, .cleaned rfl, ?_⟩
  simp only [HmacTable.ofProvider, hword]
  exact Callback.run_shield rfl "hmac_sha256_cleanup"

end Provider

section Course

variable {h : Handle} {chunks : List Bytes}

/-- Feeding chunks in order, up to and including the first that is not taken. -/
inductive Feeds (h : Handle) :
    (chunks : List Bytes) → List ProviderDeed → Except EngineError Unit → Prop where
  | all : Feeds h [] [] (.ok ())
  | taken {chunk : Bytes} {rest : List Bytes} {calls : List ProviderDeed}
      {r : Except EngineError Unit} (others : Feeds h rest calls r) :
      Feeds h (chunk :: rest) (.fed h chunk (.returned ()) :: calls) r
  | refused {chunk : Bytes} {rest : List Bytes} {o : Outcome Unit} (failed : o.code ≠ 0) :
      Feeds h (chunk :: rest) [.fed h chunk o] (.error (.callback o.code))

/-- What the last call of a hash comes to. -/
def Outcome.digest : Outcome Bytes → Except EngineError Bytes
  | .returned digest => .ok digest
  | o => .error (.callback o.code)

theorem Outcome.digest_eq (o : Outcome Bytes) : o.digest =
    if o.code = 0 then .ok (o.value?.getD []) else .error (.callback o.code) := by
  cases o with
  | returned digest => rfl
  | failed e => rw [if_neg (by simp [code, e.code_ne_zero])]; rfl
  | panicked => rw [if_neg (by decide)]; rfl

/-- The calls of one hash. A context that was started is cleaned up last, and the hash is finished
before that if every chunk was taken. -/
inductive Hashes (key : Bytes) (chunks : List Bytes) :
    List ProviderDeed → Except EngineError Bytes → Prop where
  | refused {o : Outcome Handle} (failed : o.code ≠ 0) :
      Hashes key chunks [.started key o] (.error (.callback o.code))
  | unfinished {h : Handle} {feeding : List ProviderDeed} {e : EngineError} (cleaned : Outcome Unit)
      (feeds : Feeds h chunks feeding (.error e)) :
      Hashes key chunks
        (.started key (.returned h) :: (feeding ++ [.cleaned (some h) cleaned])) (.error e)
  | finished {h : Handle} {feeding : List ProviderDeed} (o : Outcome Bytes) (cleaned : Outcome Unit)
      (feeds : Feeds h chunks feeding (.ok ())) :
      Hashes key chunks
        (.started key (.returned h) ::
          (feeding ++ [.finished h o, .cleaned (some h) cleaned])) o.digest

/-- The calls of a hash between a lock and an unlock. -/
inductive HashesLocked (key : Bytes) (chunks : List Bytes) :
    List ProviderDeed → Except EngineError Bytes → Prop where
  | intro {calls : List ProviderDeed} {result : Except EngineError Bytes}
      (locked unlocked : Outcome Unit) (hashes : Hashes key chunks calls result) :
      HashesLocked key chunks (.locked locked :: (calls ++ [.unlocked unlocked])) result

namespace StandIn

variable {σ : Type} {p : Provider σ} {right : σ → Prop} {w : Traced σ}

theorem run_feed (p : Provider σ) (hword : Handle.ofRaw? h.toRaw = some h) (chunks : List Bytes)
    (w : Traced σ) :
    ∃ calls r w', Feeds h chunks calls r ∧ p.Calls w calls w' ∧
      (feed (.ofProvider p) h.toRaw chunks).run w = (r, w') := by
  induction chunks generalizing w with
  | nil => exact ⟨[], .ok (), w, .all, .nil w, rfl⟩
  | cons chunk rest ih =>
    obtain ⟨o, w₁, htakes, hupdate⟩ := Provider.run_update hword p chunk w
    by_cases hcode : o.code = 0
    · obtain ⟨a, rfl⟩ := Outcome.code_eq_zero_iff.1 hcode
      obtain ⟨calls, r, w', hfeeds, hcalls, hfeed⟩ := ih w₁
      refine ⟨_, r, w', .taken hfeeds, .cons htakes hcalls, ?_⟩
      simp only [feed, StateT.run_bind, hupdate]
      exact hfeed
    · refine ⟨_, _, w₁, .refused hcode, htakes.calls, ?_⟩
      simp only [feed, StateT.run_bind, hupdate]
      change (if o.code = 0 then _ else _ : Callback σ _).run w₁ = _
      rw [if_neg hcode]
      rfl

theorem run_runHmac_calls (haddresses : p.Addresses right) (hright : right w.state) (key : Bytes)
    (chunks : List Bytes) :
    ∃ calls r w', Hashes key chunks calls r ∧ p.Calls w calls w' ∧
      (runHmac (.ofProvider p) key chunks).run w = (r, w') := by
  obtain ⟨o, w₁, hstarted, hinit⟩ := p.run_init key w
  by_cases hcode : o.code = 0
  · obtain ⟨h, rfl⟩ := Outcome.code_eq_zero_iff.1 hcode
    have hword : Handle.ofRaw? h.toRaw = some h := by
      obtain ⟨raw, hraw⟩ := haddresses.word hstarted hright
      rwa [Handle.toRaw_of_ofRaw? hraw]
    obtain ⟨feeding, r, w₂, hfeeds, hfeeding, hfeed⟩ := run_feed p hword chunks w₁
    cases r with
    | error e =>
      obtain ⟨cleaned, w₃, hcleaned, hcleanup⟩ := Provider.run_cleanup hword p w₂
      refine ⟨_, _, w₃, .unfinished cleaned hfeeds,
        .cons hstarted (hfeeding.append hcleaned.calls), ?_⟩
      change _ = pure _ at hinit hfeed hcleanup
      simp [runHmac, hinit, hfeed, hcleanup, Outcome.code, Outcome.value?]
      rfl
    | ok _ =>
      obtain ⟨o, w₃, hfinished, hfinish⟩ := Provider.run_finish hword p w₂
      obtain ⟨cleaned, w₄, hcleaned, hcleanup⟩ := Provider.run_cleanup hword p w₃
      refine ⟨_, _, w₄, .finished o cleaned hfeeds,
        .cons hstarted (hfeeding.append (.cons hfinished hcleaned.calls)), ?_⟩
      change _ = pure _ at hinit hfeed hfinish hcleanup
      rw [Outcome.digest_eq]
      simp [runHmac, hinit, hfeed, hfinish, hcleanup, Outcome.code, Outcome.value?]
      rfl
  · refine ⟨_, _, w₁, .refused hcode, hstarted.calls, ?_⟩
    change _ = pure _ at hinit
    simp [runHmac, hinit, hcode]
    rfl

/-- The calls of a hash under the lock. -/
theorem run_hmacSha256_calls (haddresses : p.Addresses right) {e : StandIn σ}
    (hhmac : e.hmacTable = some (.ofProvider p)) (hlock : e.lockTable = some (.ofProvider p))
    (hright : right w.state) (key : Bytes) (chunks : List Bytes) :
    ∃ calls r w', HashesLocked key chunks calls r ∧ p.Calls w calls w' ∧
      (e.hmacSha256 key chunks).run w = (r, w') := by
  obtain ⟨locked, w₁, hlocked, hrunLock⟩ := p.run_lock w
  have hafter := haddresses.keeps hlocked hright
  obtain ⟨calls, r, w₂, hhashes, hcalls, hrun⟩ := run_runHmac_calls haddresses hafter key chunks
  obtain ⟨unlocked, w₃, hunlocked, hrunUnlock⟩ := p.run_unlock w₂
  refine ⟨_, r, w₃, .intro locked unlocked hhashes,
    .cons hlocked (hcalls.append hunlocked.calls), ?_⟩
  change _ = pure _ at hrunLock hrun hrunUnlock
  simp [hmacSha256, lock, unlock, hhmac, hlock, hrunLock, hrun, hrunUnlock]
  rfl

end StandIn

end Course

section Verdict

/-- The number that the engine learns from a call, if there is one. -/
def ProviderDeed.code? : ProviderDeed → Option Int
  | .started _ o => some o.code
  | .fed _ _ o => some o.code
  | .finished _ o => some o.code
  | .locked _ | .cleaned _ _ | .unlocked _ => none

def ProviderDeed.digest? : ProviderDeed → Option Bytes
  | .finished _ o => o.value?
  | _ => none

/-- The first number that is not zero. -/
def firstFailure (calls : List ProviderDeed) : Option Int :=
  (calls.filterMap ProviderDeed.code?).find? (· ≠ 0)

theorem firstFailure_append (calls rest : List ProviderDeed) :
    firstFailure (calls ++ rest) = (firstFailure calls).or (firstFailure rest) := by
  simp only [firstFailure, List.filterMap_append, List.find?_append]

theorem firstFailure_cons_of_zero {d : ProviderDeed} (hd : d.code?.getD 0 = 0)
    (calls : List ProviderDeed) : firstFailure (d :: calls) = firstFailure calls := by
  unfold firstFailure
  cases hcode : d.code? with
  | none => simp [hcode]
  | some code => simp_all

/-- What calls come to: the first failure, or else the digest. -/
def verdict (calls : List ProviderDeed) : Option (Except EngineError Bytes) :=
  match firstFailure calls with
  | some code => some (.error (.callback code))
  | none => (calls.findSome? ProviderDeed.digest?).map .ok

variable {h : Handle} {key : Bytes} {chunks : List Bytes} {calls : List ProviderDeed}

theorem verdict_of_failure {code : Int} (hfailure : firstFailure calls = some code) :
    verdict calls = some (.error (.callback code)) := by
  rw [verdict, hfailure]

theorem verdict_of_digest {digest : Bytes} (hfailure : firstFailure calls = none)
    (hdigest : calls.findSome? ProviderDeed.digest? = some digest) :
    verdict calls = some (.ok digest) := by
  simp only [verdict, hfailure, hdigest, Option.map_some]

theorem Feeds.digest?_eq_none {r : Except EngineError Unit} (hfeeds : Feeds h chunks calls r) :
    calls.findSome? ProviderDeed.digest? = none := by
  induction hfeeds with
  | all => rfl
  | taken _ ih => exact ih
  | refused => rfl

theorem Feeds.firstFailure_eq {r : Except EngineError Unit} (hfeeds : Feeds h chunks calls r) :
    (r = .ok () ∧ firstFailure calls = none) ∨
      ∃ code, r = .error (.callback code) ∧ firstFailure calls = some code := by
  induction hfeeds with
  | all => exact .inl ⟨rfl, rfl⟩
  | taken _ ih => simpa [firstFailure, ProviderDeed.code?, Outcome.code] using ih
  | refused failed => exact .inr ⟨_, rfl, by simp [firstFailure, ProviderDeed.code?, failed]⟩

/-- Neither the lock nor a start that succeeds is a failure. -/
theorem firstFailure_of_started (locked : Outcome Unit) (key : Bytes) (h : Handle)
    (feeding rest others : List ProviderDeed) :
    firstFailure (.locked locked :: (.started key (.returned h) :: (feeding ++ rest) ++ others)) =
      (firstFailure feeding).or (firstFailure (rest ++ others)) := by
  rw [firstFailure_cons_of_zero rfl, List.cons_append, firstFailure_cons_of_zero rfl,
    List.append_assoc, firstFailure_append]

theorem HashesLocked.verdict_eq {result : Except EngineError Bytes}
    (hhashes : HashesLocked key chunks calls result) : verdict calls = some result := by
  obtain ⟨locked, unlocked, hhashes⟩ := hhashes
  cases hhashes with
  | refused failed =>
    apply verdict_of_failure
    simp [firstFailure, ProviderDeed.code?, failed]
  | unfinished cleaned feeds =>
    obtain ⟨hr, -⟩ | ⟨code, hr, hfailure⟩ := feeds.firstFailure_eq
    · cases hr
    · cases hr
      apply verdict_of_failure
      rw [firstFailure_of_started, hfailure, Option.some_or]
  | finished o cleaned feeds =>
    obtain ⟨-, hnone⟩ | ⟨code, hr, -⟩ := feeds.firstFailure_eq
    · rw [Outcome.digest_eq]
      split_ifs with hcode
      · obtain ⟨digest, rfl⟩ := Outcome.code_eq_zero_iff.1 hcode
        apply verdict_of_digest
        · rw [firstFailure_of_started, hnone]
          rfl
        · simp [List.findSome?_cons, ProviderDeed.digest?, feeds.digest?_eq_none, Outcome.value?]
      · apply verdict_of_failure
        rw [firstFailure_of_started, hnone]
        simp [firstFailure, ProviderDeed.code?, hcode]
    · cases hr

end Verdict

/-- How an engine and a provider of its tables get on, whatever fails or panics. -/
structure Disciplined {σ : Type} (p : Provider σ) (right : σ → Prop) (e : StandIn σ) : Prop where
  hashes (key : Bytes) (chunks : List Bytes) {w : Traced σ} (hright : right w.state) :
    ∃ calls result w', (e.hmacSha256 key chunks).run w = (result, w') ∧
      HashesLocked key chunks calls result ∧ verdict calls = some result ∧ p.Calls w calls w' ∧
      right w'.state
  init_writes (output : Pointer) (key : Buffer) (user : Pointer) (w : Traced σ) :
    (((HmacTable.ofProvider p).init output key user).run w).1.output.isSome ↔
      (((HmacTable.ofProvider p).init output key user).run w).1.code = 0
  finish_writes (context : UInt64) (output user : Pointer) (w : Traced σ) :
    (((HmacTable.ofProvider p).finish context output user).run w).1.output.isSome ↔
      (((HmacTable.ofProvider p).finish context output user).run w).1.code = 0

theorem StandIn.disciplined {σ : Type} {p : Provider σ} {right : σ → Prop}
    (haddresses : p.Addresses right) {e : StandIn σ}
    (hhmac : e.hmacTable = some (.ofProvider p)) (hlock : e.lockTable = some (.ofProvider p)) :
    Disciplined p right e where
  hashes key chunks w hright := by
    obtain ⟨calls, result, w', hhashes, hcalls, hrun⟩ :=
      run_hmacSha256_calls haddresses hhmac hlock hright key chunks
    exact ⟨calls, result, w', hrun, hhashes, hhashes.verdict_eq, hcalls,
      hcalls.keeps haddresses.keeps hright⟩
  init_writes _ _ _ w := Callback.isSome_output_settle_iff _ _ w
  finish_writes _ _ _ w := Callback.isSome_output_settle_iff _ _ w

/-- It takes one chunk, panics at the next, and panics again when it cleans up and unlocks. -/
def Provider.brittle : Provider Nat where
  init _ := return .returned ⟨0, 0⟩
  update _ _ := do
    let taken ← Callback.state
    Callback.setState (taken + 1)
    return if taken = 0 then .returned () else .panicked
  finish _ := return .returned []
  cleanup _ := return .panicked
  lock := return .returned ()
  unlock := return .panicked

open Callback in
theorem StandIn.disciplined_brittle :
    ∃ calls, HashesLocked [1] [[2], [3], [4]] calls (.error (.callback (-1000))) ∧
      Provider.brittle.Calls ⟨0, []⟩ calls
        ⟨2, [cryptoPanic, namedPanic "hmac_sha256_cleanup", namedPanic "unlock"]⟩ := by
  have haddresses : Provider.brittle.Addresses fun _ => True := by
    refine ⟨fun _ _ => trivial, fun given _ => ?_⟩
    cases given with
    | started run =>
      cases run
      exact ⟨1, by decide⟩
  let e : StandIn Nat := { hmacTable := some (.ofProvider .brittle),
                           lockTable := some (.ofProvider .brittle) }
  have hdisciplined := disciplined (e := e) haddresses rfl rfl
  obtain ⟨calls, result, w', hrun, hhashes, -, hcalls, -⟩ :=
    hdisciplined.hashes [1] [[2], [3], [4]] (w := ⟨0, []⟩) trivial
  cases hrun
  exact ⟨calls, hhashes, hcalls⟩

namespace HostServices

theorem hmacs_unlockEngine (w : Traced HostServices) :
    (unlockEngine.run w).2.state.hmacs = w.state.hmacs := by
  cases hunlock : w.state.lock.unlock () with
  | ok lock =>
    simp only [unlockEngine, StateT.run_bind, Callback.run_state, pure_bind, hunlock]
    rfl
  | error e =>
    simp only [unlockEngine, StateT.run_bind, Callback.run_state, pure_bind, hunlock]
    rfl

/-- The services of a host are a provider of this kind, as long as their table is valid. -/
theorem addresses : provider.Addresses fun s => s.hmacs.Valid where
  keeps {d w w'} taken hvalid := by
    cases taken with
    | locked run =>
      rw [Callback.state_noting run]
      exact hvalid
    | @started key _ _ run =>
      rw [Callback.state_noting run]
      exact (turn_init w key).valid hvalid
    | @fed h data _ _ run =>
      rw [Callback.state_noting run]
      exact (turn_update w h data).valid hvalid
    | @finished h _ _ run =>
      rw [Callback.state_noting run]
      exact (turn_finish w h).valid hvalid
    | @cleaned handle _ _ run =>
      rw [Callback.state_noting run]
      exact (turn_cleanup w handle).valid hvalid
    | unlocked run =>
      rw [Callback.state_noting run]
      change (unlockEngine.run w).2.state.hmacs.Valid
      rwa [hmacs_unlockEngine]
  word {key h w w'} given hvalid := by
    cases given with
    | started run =>
      cases hinsert : w.state.hmacs.insert (.running key []) with
      | error e =>
        cases run.symm.trans (Answers.run_outcome (run_init_error hinsert))
      | ok taken =>
        obtain ⟨k, hmacs⟩ := taken
        cases run.symm.trans (Answers.run_outcome (run_init_ok hinsert))
        have hget : hmacs.get? h = some (.running key []) := by
          rw [SlotTable.get?_insert hvalid hinsert, Function.update_self]
        exact ⟨_, Handle.ofRaw?_toRaw ((hvalid.insert hinsert).index_lt hget).le⟩

end HostServices

end IdentityVault
