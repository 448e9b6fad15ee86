import IdentityVault.Logging.Event

/-! Requests for a password, numbered from one, on their way to the host. -/
namespace IdentityVault

structure PasswordRequest where
  attempt : UInt32
  deriving DecidableEq

namespace PasswordRequest

/-- Whether an attempt failed before this request. -/
def isRetry (r : PasswordRequest) : Bool := 1 < r.attempt

def inspect (r : PasswordRequest) : String :=
  "PasswordRequested \x7b attempt: " ++ toString r.attempt.toNat ++ " \x7d"

end PasswordRequest

/-- What a receiver finds. -/
inductive Received (α : Type) where
  | item (a : α)
  | empty
  | disconnected
  deriving DecidableEq

/-- The requests that the host has not seen yet. Either end may be dropped. -/
structure PromptChannel where
  issued : UInt32 := 0
  pending : List PasswordRequest := []
  prompting : Bool := true
  listening : Bool := true
  deriving DecidableEq

namespace PromptChannel

/-- The next request. It is counted even when nobody listens. -/
def request (c : PromptChannel) : PromptChannel × List LogEvent :=
  let attempt := c.issued + 1
  if c.listening then
    ({ c with issued := attempt, pending := c.pending ++ [⟨attempt⟩] }, [])
  else
    ({ c with issued := attempt },
      [⟨.debug, .prompt, "password request dropped: host is gone",
        [("attempt", toString attempt.toNat)]⟩])

/-- The oldest pending request. What was sent before the prompt was dropped still arrives. -/
def receive (c : PromptChannel) : Received PasswordRequest × PromptChannel :=
  match c.pending with
  | r :: rest => (.item r, { c with pending := rest })
  | [] => (if c.prompting then .empty else .disconnected, c)

def dropPrompt (c : PromptChannel) : PromptChannel := { c with prompting := false }

def dropListener (c : PromptChannel) : PromptChannel :=
  { c with listening := false, pending := [] }

end PromptChannel

end IdentityVault
