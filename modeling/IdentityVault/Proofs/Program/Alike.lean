import IdentityVault.Program.World

/-! Runs of one program in surroundings that are alike but for the disk. -/
namespace IdentityVault.Program

variable {α β : Type} {p : Program α} {w : World} {disk : FileSystem}

/-- On another disk, which it leaves as it is, the program returns the same, asks the same and gives
out the same. -/
def AlikeOn (p : Program α) (w : World) (disk : FileSystem) : Prop :=
  p.run { w with disk := disk } = ((p.run w).1, { (p.run w).2 with disk := disk })

theorem alikeOn_done (a : α) (w : World) (disk : FileSystem) : AlikeOn (.done a) w disk := rfl

theorem AlikeOn.bind {f : α → Program β} (hp : p.AlikeOn w disk)
    (hf : (f (p.run w).1).AlikeOn (p.run w).2 disk) : (p.bind f).AlikeOn w disk := by
  unfold AlikeOn at *
  rw [run_bind, run_bind, hp]
  exact hf

/-- The replies on the two disks may differ, as long as the rest does not tell them apart. -/
theorem alikeOn_bind_of_run {f : α → Program β} {a a' : α} {after : World}
    (hrun : p.run w = (a, after))
    (hrun' : p.run { w with disk := disk } = (a', { after with disk := disk }))
    (hsame : f a' = f a) (hrest : (f a).AlikeOn after disk) : (p.bind f).AlikeOn w disk := by
  unfold AlikeOn at *
  rw [run_bind, run_bind, hrun, hrun', hsame]
  exact hrest

/-- A program that does not look at the disk. -/
def Blind (p : Program α) : Prop := ∀ w disk, p.AlikeOn w disk

namespace Blind

theorem done (a : α) : Blind (.done a) := alikeOn_done a

theorem bind {f : α → Program β} (hp : p.Blind) (hf : ∀ a, (f a).Blind) : (p.bind f).Blind :=
  fun w disk => (hp w disk).bind (hf _ _ _)

theorem emit (e : Emission) : (perform (.emit e)).Blind := fun _ _ => rfl

theorem log (e : LogEvent) : (Program.log e).Blind := emit (.event e)

theorem print (line : String) : (Program.print line).Blind := emit (.standardOutput line)

theorem «variable» (name : String) : (perform (.variable name)).Blind := fun _ _ => rfl

theorem logAll (log : List LogEvent) : (Program.logAll log).Blind := by
  induction log with
  | nil => exact .done ()
  | cons e rest ih => exact .bind (.log e) fun _ => ih

end Blind

end IdentityVault.Program
