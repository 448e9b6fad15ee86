import IdentityVault.Engine.Provider

/-! The tables of functions that an engine calls. Each function checks the pointers it is given,
turns words into handles and failures into numbers, and lets no panic through. -/
namespace IdentityVault

/-- A pointer of which only matters whether it is null. -/
inductive Pointer where
  | null
  | valid
  deriving DecidableEq

/-- A pointer to bytes with their number. -/
inductive Buffer where
  | null (length : Nat)
  | bytes (content : Bytes)
  deriving DecidableEq

/-- The bytes of a buffer. A null pointer can only stand for none. -/
def Buffer.content? : Buffer → Option Bytes
  | .bytes content => some content
  | .null 0 => some []
  | .null _ => none

/-- What a function gives back: its number, and what it wrote through its output pointer. -/
structure Returned (α : Type) where
  code : Int
  output : Option α
  deriving DecidableEq

structure HmacTable (σ : Type) where
  init : (output : Pointer) → (key : Buffer) → (user : Pointer) → Callback σ (Returned UInt64)
  update : (context : UInt64) → (data : Buffer) → (user : Pointer) → Callback σ (Returned Unit)
  finish : (context : UInt64) → (output user : Pointer) → Callback σ (Returned Bytes)
  cleanup : (context : UInt64) → (user : Pointer) → Callback σ Unit

structure LockTable (σ : Type) where
  lock : (user : Pointer) → Callback σ Unit
  unlock : (user : Pointer) → Callback σ Unit

namespace Callback

variable {σ α β : Type}

def fail (e : CallbackError) : Callback σ (Outcome α) := return .failed e

/-- The number and the output of an outcome. A panic is logged and counts as unknown. -/
def settle (action : Callback σ (Outcome α)) (write : α → β) : Callback σ (Returned β) := do
  match ← action with
  | .returned a => return ⟨0, some (write a)⟩
  | .failed e => return ⟨e.code, none⟩
  | .panicked =>
    record ⟨.error, .callbacks, "panic in engine crypto callback", []⟩
    return ⟨CallbackError.unknown.code, none⟩

/-- A callback without a number; of a panic only a line in the log is left. -/
def shield (name : String) (action : Callback σ (Outcome Unit)) : Callback σ Unit := do
  match ← action with
  | .panicked =>
    record ⟨.error, .callbacks, "panic in engine callback", [("callback", "\"" ++ name ++ "\"")]⟩
  | _ => return ()

end Callback

open Callback in
def HmacTable.ofProvider {σ : Type} (p : Provider σ) : HmacTable σ where
  init output key user := settle
    (match user, output, key.content? with
      | .null, _, _ => fail .invalidArgument
      | _, .null, _ => fail .invalidArgument
      | _, _, none => fail .unknown
      | _, _, some key => p.init key) Handle.toRaw
  update context data user := settle
    (match user, Handle.ofRaw? context, data.content? with
      | .null, _, _ => fail .invalidArgument
      | _, none, _ => fail .computation
      | _, _, none => fail .computation
      | _, some h, some data => p.update h data) id
  finish context output user := settle
    (match user, output, Handle.ofRaw? context with
      | .null, _, _ => fail .invalidArgument
      | _, .null, _ => fail .invalidArgument
      | _, _, none => fail .unknown
      | _, _, some h => p.finish h) id
  cleanup context user := shield "hmac_sha256_cleanup"
    (match user with
      | .valid => p.cleanup (Handle.ofRaw? context)
      | .null => do
        record ⟨.error, .callbacks, "hmac cleanup called without provider", []⟩
        return .returned ())

open Callback in
def LockTable.ofProvider {σ : Type} (p : Provider σ) : LockTable σ where
  lock user := shield "lock"
    (match user with
      | .valid => p.lock
      | .null => do
        record ⟨.error, .callbacks, "engine lock called without user data", []⟩
        return .returned ())
  unlock user := shield "unlock"
    (match user with
      | .valid => p.unlock
      | .null => do
        record ⟨.error, .callbacks, "engine unlock called without user data", []⟩
        return .returned ())

end IdentityVault
