import IdentityVault.Program.Call

/-! Programs as data: a value, or a call and what to do with its reply. A program can be run in a
model of its surroundings, run in earnest, cut off after any call, or interleaved with another. -/
namespace IdentityVault

inductive Program (α : Type) : Type 1 where
  | done (value : α)
  | call {β : Type} (c : Call β) (next : β → Program α)

namespace Program

variable {α β : Type}

def bind : Program α → (α → Program β) → Program β
  | .done a, f => f a
  | .call c next, f => .call c fun reply => (next reply).bind f

instance : Monad Program where
  pure := .done
  bind := bind

@[simp] theorem pure_eq (a : α) : (pure a : Program α) = .done a := rfl

@[simp] theorem bind_eq (p : Program α) (f : α → Program β) : p >>= f = p.bind f := rfl

@[simp] theorem done_bind (a : α) (f : α → Program β) : (done a).bind f = f a := rfl

@[simp] theorem call_bind {γ : Type} (c : Call γ) (next : γ → Program α) (f : α → Program β) :
    (call c next).bind f = .call c fun reply => (next reply).bind f := rfl

theorem bind_done (p : Program α) : p.bind .done = p := by
  induction p with
  | done a => rfl
  | call c next ih => simp [ih]

theorem bind_assoc {γ : Type} (p : Program α) (f : α → Program β) (g : β → Program γ) :
    (p.bind f).bind g = p.bind fun a => (f a).bind g := by
  induction p with
  | done a => rfl
  | call c next ih => simp [ih]

instance : LawfulMonad Program := LawfulMonad.mk' Program
  (fun p => bind_done p) (fun _ _ => rfl) bind_assoc

/-- A call whose reply is the result. -/
def perform (c : Call β) : Program β := .call c .done

def log (e : LogEvent) : Program Unit := perform (.emit (.event e))

def logAll : List LogEvent → Program Unit
  | [] => .done ()
  | e :: rest => (log e).bind fun _ => logAll rest

def print (line : String) : Program Unit := perform (.emit (.standardOutput line))

def complain (line : String) : Program Unit := perform (.emit (.standardError line))

/-- The text of a file. -/
def readText (p : Path) : Program (Except OsError String) := do
  match ← perform (.read p) with
  | .error e => return .error e
  | .ok content =>
      match Bytes.toText? content with
      | some text => return .ok text
      | none => return .error .invalidText

/-- Give every emission to a handler that keeps a state and may make calls of its own. -/
def withEmissions {σ : Type} (handler : Emission → σ → Program σ) :
    Program α → σ → Program (α × σ)
  | .done a, s => .done (a, s)
  | .call (.emit e) next, s => (handler e s).bind fun s => (next ()).withEmissions handler s
  | .call c next, s => .call c fun reply => (next reply).withEmissions handler s

end Program

end IdentityVault
