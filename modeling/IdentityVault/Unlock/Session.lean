import IdentityVault.Store.Vault
import IdentityVault.Unlock.Submission

/-! The unlock flow. A driver loads the vault and then tries each submitted password, until one
opens the vault, an attempt fails for good, or nobody is left to submit one. It reports every
attempt and asks again after a wrong password. One step of the driver changes one channel at most,
so that a host may act between any two changes. -/
namespace IdentityVault

inductive UnlockError where
  | store (cause : StoreError)
  | promptClosed
  deriving DecidableEq

def UnlockError.message : UnlockError → String
  | .store cause => cause.message
  | .promptClosed => "Password prompt closed before the identity was unlocked"

/-- Where the driver stands. -/
inductive UnlockPhase where
  | loading
  | waiting
  | trying (password : String)
  | tried (outcome : Except StoreError AttemptResult)
  | reported (result : AttemptResult)
  | finished (result : Except UnlockError Unit)

/-- The results of attempts, for a listener who may be gone. -/
structure Reports where
  results : List AttemptResult := []
  listening : Bool := true
  deriving DecidableEq

namespace Reports

def add (r : Reports) (result : AttemptResult) : Reports × List LogEvent :=
  if r.listening then ({ r with results := r.results ++ [result] }, [])
  else
    (r, [⟨.debug, .prompt, "store event dropped: no listener", [("event", result.name)]⟩])

def dropListener (r : Reports) : Reports := { r with listening := false }

end Reports

/-- The driver with its vault and the ends of all channels. -/
structure UnlockSession where
  vault : Vault
  phase : UnlockPhase := .loading
  requests : PromptChannel := {}
  submissions : SubmissionChannel := {}
  reports : Reports := {}

namespace UnlockSession

/-- The driver stops. Nothing that is submitted later is taken. -/
def finish (s : UnlockSession) (result : Except UnlockError Unit) : UnlockSession :=
  { s with phase := .finished result, submissions := s.submissions.dropReceiver }

/-- Send the requests of a program through the channel. -/
def forward : Emission → PromptChannel → Program PromptChannel
  | .passwordRequested, c => do
      let (c, log) := c.request
      Program.logAll log
      return c
  | e, c => do
      Program.perform (.emit e)
      return c

/-- Load the vault. A plain identity is ready at once. -/
def load (s : UnlockSession) : Program UnlockSession := do
  let ((result, vault), requests) ← s.vault.load.withEmissions forward s.requests
  let s := { s with vault := vault, requests := requests }
  match result with
  | .error e => return s.finish (.error (.store e))
  | .ok .ready => return { s with phase := .tried (.ok .ready) }
  | .ok _ => return { s with phase := .waiting }

/-- Try the password that was taken. -/
def attempt (s : UnlockSession) (password : String) : Program UnlockSession := do
  let (outcome, vault) ← s.vault.attempt password
  return { s with vault := vault, phase := .tried outcome }

/-- Report a result that is no error. -/
def report (s : UnlockSession) (result : AttemptResult) : Program UnlockSession := do
  let (reports, log) := s.reports.add result
  Program.logAll log
  return { s with reports := reports, phase := .reported result }

/-- Ask for another password. -/
def ask (s : UnlockSession) : Program UnlockSession := do
  let (requests, log) := s.requests.request
  Program.logAll log
  return { s with requests := requests, phase := .waiting }

/-- The next step of the driver, or nothing where it has to wait or has finished. -/
def next? (s : UnlockSession) : Option (Program UnlockSession) :=
  match s.phase with
  | .loading => some s.load
  | .waiting =>
      match s.submissions.take with
      | (.item password, submissions) =>
          some (.done { s with phase := .trying password, submissions := submissions })
      | (.disconnected, _) => some (.done (s.finish (.error .promptClosed)))
      | (.empty, _) => none
  | .trying password => some (s.attempt password)
  | .tried (.error e) => some (.done (s.finish (.error (.store e))))
  | .tried (.ok result) => some (s.report result)
  | .reported .ready => some (.done (s.finish (.ok ())))
  | .reported .decryptionFailure => some s.ask
  | .finished _ => none

/-- A step as a part of a program; waiting changes nothing. -/
def advance (s : UnlockSession) : Program UnlockSession := s.next?.getD (.done s)

/-- So many steps one after another. -/
def proceed : Nat → UnlockSession → Program UnlockSession
  | 0, s => return s
  | n + 1, s => do proceed n (← s.advance)

/-- Loading, the report of a vault that is ready at once, and the end. -/
def stepsToLoad : Nat := 3

/-- A password is taken and tried, and the result is reported; then comes the end or the next
request. -/
def stepsToTry : Nat := 4

/-- The result of a driver that has finished. -/
def result? (s : UnlockSession) : Option (Except UnlockError Unit) :=
  match s.phase with
  | .finished result => some result
  | _ => none

def submit (s : UnlockSession) (password : String) : UnlockSession :=
  { s with submissions := (s.submissions.submit password).2 }

def dropSender (s : UnlockSession) : UnlockSession :=
  { s with submissions := s.submissions.dropSender }

/-- Submit passwords one after another, each when the one before was tried, and then leave. -/
def answerAll : List String → UnlockSession → Program UnlockSession
  | [], s => s.dropSender.advance
  | password :: rest, s => do
      let s ← (s.submit password).proceed stepsToTry
      match s.result? with
      | some _ => return s
      | none => answerAll rest s

/-- The whole flow with a list of passwords. -/
def unlock (s : UnlockSession) (passwords : List String) : Program UnlockSession := do
  let s ← s.proceed stepsToLoad
  match s.result? with
  | some _ => return s
  | none => s.answerAll passwords

end UnlockSession

end IdentityVault
