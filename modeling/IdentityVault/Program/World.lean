import IdentityVault.Program.Basic

/-! A model of a program's surroundings, and the run of a program in it. -/
namespace IdentityVault

structure World where
  disk : FileSystem
  /-- Variables of the environment. -/
  environment : List (String × String) := []
  /-- The lines that a user is going to type, if there is a terminal. -/
  terminal : Option (List String) := none
  /-- What the terminal has shown. -/
  shown : String := ""
  /-- The bytes that the generator is going to draw. -/
  entropy : Nat → UInt8 := fun _ => 0
  /-- What the clock shows. -/
  time : String := "1970-01-01T00:00:00.000000Z"
  /-- All that was given out, in order. -/
  emitted : List Emission := []

namespace World

/-- The reply to a call, and the surroundings after it. A question is shown with the line end
that the user types; a user who has no more lines types an empty one. -/
def answer {β : Type} : Call β → World → β × World
  | .read p, w => (w.disk.contentAt p, w)
  | .exist p, w => (w.disk.exist p, w)
  | .change c, w =>
      let (disk, reply) := c.apply w.disk
      (reply, { w with disk := disk })
  | .random count, w =>
      ((List.range count).map w.entropy, { w with entropy := fun i => w.entropy (i + count) })
  | .variable name, w => (w.environment.lookup name, w)
  | .ask question, w =>
      match w.terminal with
      | none => (.error .noSuchDevice, w)
      | some lines =>
          (.ok (lines.headD ""),
            { w with terminal := some lines.tail, shown := w.shown ++ question ++ "\n" })
  | .clock, w => (w.time, w)
  | .emit e, w => ((), { w with emitted := w.emitted ++ [e] })

/-- The log events among what was given out. -/
def log (w : World) : List LogEvent :=
  w.emitted.filterMap fun | .event e => some e | _ => none

def standardOutput (w : World) : List String :=
  w.emitted.filterMap fun | .standardOutput line => some line | _ => none

def standardError (w : World) : List String :=
  w.emitted.filterMap fun | .standardError line => some line | _ => none

/-- How often a password was asked for. -/
def passwordRequests (w : World) : Nat := w.emitted.count .passwordRequested

end World

namespace Program

variable {α β : Type}

def run : Program α → World → α × World
  | .done a, w => (a, w)
  | .call c next, w => (next (w.answer c).1).run (w.answer c).2

@[simp] theorem run_done (a : α) (w : World) : (done a).run w = (a, w) := rfl

@[simp] theorem run_call (c : Call β) (next : β → Program α) (w : World) :
    (call c next).run w = (next (w.answer c).1).run (w.answer c).2 := rfl

theorem run_bind (p : Program α) (f : α → Program β) (w : World) :
    (p.bind f).run w = (f (p.run w).1).run (p.run w).2 := by
  induction p generalizing w with
  | done a => rfl
  | call c next ih => exact ih _ _

end Program

end IdentityVault
