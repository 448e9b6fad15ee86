import IdentityVault.Unlock.Prompt

/-! Submitted passwords on their way to the store. There is room for one. -/
namespace IdentityVault

inductive SubmitResult where
  | accepted
  | full
  | closed
  deriving DecidableEq

structure SubmissionChannel where
  slot : Option String := none
  sending : Bool := true
  receiving : Bool := true
  deriving DecidableEq

namespace SubmissionChannel

/-- The inspection text of a submitted password hides it. -/
def inspectPassword (_ : String) : String := "PasswordSubmitted(<redacted>)"

def submit (c : SubmissionChannel) (password : String) : SubmitResult × SubmissionChannel :=
  if c.receiving then
    match c.slot with
    | none => (.accepted, { c with slot := some password })
    | some _ => (.full, c)
  else (.closed, c)

/-- The submitted password. It arrives even when its sender is gone. -/
def take (c : SubmissionChannel) : Received String × SubmissionChannel :=
  match c.slot with
  | some password => (.item password, { c with slot := none })
  | none => (if c.sending then .empty else .disconnected, c)

def dropSender (c : SubmissionChannel) : SubmissionChannel := { c with sending := false }

def dropReceiver (c : SubmissionChannel) : SubmissionChannel :=
  { c with receiving := false, slot := none }

end SubmissionChannel

end IdentityVault
