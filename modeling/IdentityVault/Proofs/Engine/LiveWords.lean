import IdentityVault.Proofs.Engine.OneThread
import IdentityVault.Proofs.Engine.StaleHandles

/-! Which words reach a value. Of all words of 64 bits they are the raw handles of the values that
the table holds, one for each, and every other word reaches nothing. -/
namespace IdentityVault

open TableDeed

variable {α : Type}

/-- The handle that a call looks up. -/
def TableCall.handle? : TableCall α → Option Handle
  | .get h | .change h _ | .remove h => some h
  | .insert _ => none

namespace TableDeed

/-- The raw handles of the values that were put in and not taken out. -/
def liveWords (past : List (TableDeed α)) : Set UInt64 :=
  {raw | ∃ h b, Holds past h b ∧ h.toRaw = raw}

end TableDeed

namespace SlotTable

variable {t t' : SlotTable α} {past : List (TableDeed α)} {c : TableCall α} {h k : Handle} {a b : α}
  {raw : UInt64} {o : Option α}

/-- The words that find something in a table with this past. -/
structure FindsLive (past : List (TableDeed α)) (t : SlotTable α) : Prop where
  /-- Whether a word is looked up to read a value, to change it or to take it out. -/
  found_iff {raw : UInt64} {h : Handle} {c : TableCall α} {o : Option α} {t' : SlotTable α}
    (word : Handle.ofRaw? raw = some h) (call : c.handle? = some h)
    (step : Step t (c, .found o) t') : o.isSome ↔ raw ∈ liveWords past
  isSome_ofRaw? (raw : UInt64) (live : raw ∈ liveWords past) : (Handle.ofRaw? raw).isSome
  injOn : Set.InjOn Handle.toRaw {h | ∃ b, Holds past h b}
  zero_notMem : 0 ∉ liveWords past
  size_eq : t.size = (liveWords past).ncard
  toRaw_insert (a : α) (h : Handle) (t' : SlotTable α) (taken : t.insert a = .ok (h, t')) :
    Handle.ofRaw? h.toRaw = some h

/-- All lookups find the same. -/
theorem found_of_step (hcall : c.handle? = some h) (hstep : Step t (c, .found o) t') :
    o = t.get? h := by
  cases hstep with
  | get | change =>
    cases hcall
    rfl
  | remove =>
    cases hcall
    exact remove_fst

theorem Valid.index_le_of_insert (hvalid : t.Valid) (hinsert : t.insert a = .ok (h, t')) :
    h.index.toNat ≤ maximumSlots := by
  have hget : t'.get? h = some a := by
    rw [get?_insert hvalid hinsert, Function.update_self]
  exact ((hvalid.insert hinsert).index_lt hget).le

theorem Run.index_le_of_holds (hrun : Run past t) (hholds : Holds past h b) :
    h.index.toNat ≤ maximumSlots :=
  (hrun.traces.valid.index_lt (hrun.get?_iff_holds.2 hholds)).le

/-- A handle that was decoded finds a value exactly when its word is live. -/
theorem Run.mem_liveWords_iff (hrun : Run past t) (hword : Handle.ofRaw? raw = some h) :
    raw ∈ liveWords past ↔ (t.get? h).isSome := by
  rw [Option.isSome_iff_exists]
  simp only [hrun.get?_iff_holds]
  constructor
  · rintro ⟨k, b, hholds, rfl⟩
    rw [Handle.ofRaw?_toRaw (hrun.index_le_of_holds hholds)] at hword
    cases hword
    exact ⟨b, hholds⟩
  · rintro ⟨b, hholds⟩
    exact ⟨h, b, hholds, Handle.toRaw_of_ofRaw? hword⟩

theorem Run.injOn_toRaw (hrun : Run past t) : Set.InjOn Handle.toRaw {h | ∃ b, Holds past h b} := by
  rintro h ⟨b, hb⟩ k ⟨c, hc⟩ hraw
  have hh := Handle.ofRaw?_toRaw (hrun.index_le_of_holds hb)
  rw [hraw, Handle.ofRaw?_toRaw (hrun.index_le_of_holds hc)] at hh
  exact (Option.some.inj hh).symm

theorem Run.size_eq_ncard_liveWords (hrun : Run past t) : t.size = (liveWords past).ncard := by
  have himage : liveWords past = Handle.toRaw '' {h | ∃ b, Holds past h b} := by
    ext raw
    simp [liveWords]
  have hbound : {h | (t.get? h).isSome} = {h | ∃ b, Holds past h b} := by
    ext h
    simp only [Set.mem_ofPred_eq, Option.isSome_iff_exists, hrun.get?_iff_holds]
  rw [himage, hrun.injOn_toRaw.ncard_image, ← hbound]
  exact hrun.traces.size

theorem Run.findsLive (hrun : Run past t) : FindsLive past t where
  found_iff word call step := by
    rw [found_of_step call step, hrun.mem_liveWords_iff word]
  isSome_ofRaw? raw live := by
    obtain ⟨h, b, hholds, rfl⟩ := live
    rw [Handle.ofRaw?_toRaw (hrun.index_le_of_holds hholds)]
    rfl
  injOn := hrun.injOn_toRaw
  zero_notMem := by
    rintro ⟨h, b, hholds, hzero⟩
    exact Handle.toRaw_ne_zero (hrun.index_le_of_holds hholds) hzero
  size_eq := hrun.size_eq_ncard_liveWords
  toRaw_insert _ _ _ taken := Handle.ofRaw?_toRaw (hrun.traces.valid.index_le_of_insert taken)

end SlotTable

namespace HostServices

variable {w : Traced HostServices} {raw : UInt64}

/-- A word that the functions of a host do nothing for. -/
structure Ignores (w : Traced HostServices) (raw : UInt64) : Prop where
  update (data : Buffer) (user : Pointer) :
    ((hmacTable.update raw data user).run w).2.state = w.state
  finish (output user : Pointer) : ((hmacTable.finish raw output user).run w).2.state = w.state
  cleanup (user : Pointer) : ((hmacTable.cleanup raw user).run w).2.state = w.state

theorem ignores_of_unbound
    (hunbound : ∀ h, Handle.ofRaw? raw = some h → w.state.hmacs.get? h = none) : Ignores w raw := by
  have hruns : ¬Runs w raw := by
    rintro ⟨h, hword, key, data, hget⟩
    rw [hunbound h hword] at hget
    cases hget
  refine ⟨fun data user => ?_, fun output user => ?_, fun user => ?_⟩
  · have hanswers := answers_update w raw data user
    exact hanswers.state_eq fun hcode => hruns (hanswers.zero_iff.1 hcode).2.2
  · have hanswers := answers_finish w raw output user
    exact hanswers.state_eq fun hcode => hruns (hanswers.zero_iff.1 hcode).2
  · cases user with
    | null => rfl
    | valid =>
      change ((HostServices.cleanup (Handle.ofRaw? raw)).run w).2.state = w.state
      cases hword : Handle.ofRaw? raw with
      | none => rfl
      | some h =>
        obtain ⟨e, hrun⟩ := run_cleanup_some w h
        rw [hrun, SlotTable.remove_of_none (hunbound h hword)]
        rfl

/-- Each turn of the keyed hashes is a call of their table, or none. -/
theorem exists_run_of_turn {past : List (TableDeed HmacState)} {t t' : SlotTable HmacState}
    {d : HmacDeed} (hrun : SlotTable.Run past t) (hturn : HmacTurn t d t') :
    ∃ past', SlotTable.Run past' t' := by
  cases hturn with
  | started inserted => exact ⟨_, hrun.next (.insert inserted)⟩
  | fed => exact ⟨_, hrun.next (.change _ _)⟩
  | signed => exact ⟨_, hrun.next (.change _ _)⟩
  | cleaned h => exact ⟨_, hrun.next (.remove h)⟩
  | full | unfed | unsigned | nothing => exact ⟨past, hrun⟩

end HostServices

namespace HostThread

variable {t t' : HostThread} {d : HostDeed} {past : List (TableDeed HmacState)}

theorem exists_run_of_turn (hsound : Sound t) (hturn : Turn t d t')
    (hrun : SlotTable.Run past t.host.state.hmacs) :
    ∃ past', SlotTable.Run past' t'.host.state.hmacs := by
  cases hturn with
  | direct _ c => exact HostServices.exists_run_of_turn hrun (c.turn t.host)
  | through _ c =>
    obtain hstate | ⟨direct, hdirect⟩ := HostServices.state_or_direct c hsound.valid
    · dsimp only
      rw [hstate]
      exact ⟨past, hrun⟩
    · dsimp only
      rw [hdirect]
      exact HostServices.exists_run_of_turn hrun (direct.turn t.host)
  | lock _ user =>
    cases user with
    | null => exact ⟨past, hrun⟩
    | valid =>
      rw [hsound.held.run_lock]
      exact ⟨past, hrun⟩
  | unlock _ user =>
    cases user with
    | null => exact ⟨past, hrun⟩
    | valid =>
      obtain ⟨log, hunlock⟩ := hsound.held.run_unlock
      rw [hunlock]
      exact ⟨past, hrun⟩
  | hold | drop => exact ⟨past, hrun⟩

/-- The contexts of a host are a table that began empty, whatever was called. -/
theorem Run.exists_run {log : List LogEvent} {deeds : List HostDeed} (h : Run log deeds t) :
    ∃ past, SlotTable.Run past t.host.state.hmacs := by
  induction h with
  | start => exact ⟨[], .start⟩
  | next before taken ih =>
    obtain ⟨past, hrun⟩ := ih
    exact exists_run_of_turn (Run.sound before) taken hrun

end HostThread

/-- Words as handles: which words stand for one, which of these find a value in a table that is in
use, and what a host does when it is given any of the others. -/
structure OnlyLiveWords : Prop where
  ofRaw?_eq_none_iff (raw : UInt64) : Handle.ofRaw? raw = none ↔ raw.toNat % 2 ^ 32 = 0
  toRaw_ofRaw? (raw : UInt64) (h : Handle) (word : Handle.ofRaw? raw = some h) : h.toRaw = raw
  table {α : Type} {past : List (TableDeed α)} {t : SlotTable α} (run : SlotTable.Run past t) :
    SlotTable.FindsLive past t
  host {past : List (TableDeed HmacState)} {w : Traced HostServices}
    (run : SlotTable.Run past w.state.hmacs) (raw : UInt64) (other : raw ∉ liveWords past) :
    HostServices.Ignores w raw
  reached {log : List LogEvent} {deeds : List HostDeed} {t : HostThread}
    (run : HostThread.Run log deeds t) : ∃ past, SlotTable.Run past t.host.state.hmacs

theorem only_live_words : OnlyLiveWords where
  ofRaw?_eq_none_iff _ := Handle.ofRaw?_eq_none_iff
  toRaw_ofRaw? _ _ word := Handle.toRaw_of_ofRaw? word
  table run := run.findsLive
  host run raw other := HostServices.ignores_of_unbound fun h word => by
    rw [← Option.not_isSome_iff_eq_none, ← run.mem_liveWords_iff word]
    exact other
  reached run := run.exists_run

/-- One word finds the value of a slot that was used before. The word of the old handle, one with a
generation to come and one with a slot to come find nothing. -/
theorem only_live_words_of_reused_slot : ∃ t : SlotTable Nat,
    SlotTable.FindsLive [(.insert 8, .issued ⟨0, 1⟩), (.remove ⟨0, 0⟩, .found (some 7)),
      (.insert 7, .issued ⟨0, 0⟩)] t ∧
    [0x100000001, 0x000000001, 0x200000001, 0x000000002].map
      (fun raw => (Handle.ofRaw? raw).bind t.get?) = [some 8, none, none, none] :=
  ⟨⟨[⟨1, some 8⟩], [], 1⟩,
    only_live_words.table
      (.next (.next (.next .start (.insert rfl)) (.remove ⟨0, 0⟩)) (.insert rfl)),
    by decide⟩

end IdentityVault
