import IdentityVault.Proofs.Engine.HandleMap
import IdentityVault.Proofs.Engine.HmacCalls

/-! Keyed hashes under any mix of calls. The deeds since a handle was given out tell what became of
its context, as long as no slot was used again 2^32 times. -/
namespace IdentityVault

namespace HmacDeed

/-- The handle that a deed gave out. -/
def issues : HmacDeed → Option Handle
  | (.init _, .started (.ok h)) => some h
  | _ => none

/-- The handles that were given out, the latest in front. -/
def issued (past : List HmacDeed) : List Handle := past.filterMap issues

abbrev calls (past : List HmacDeed) : List HmacCall := past.map Prod.fst

/-- What one deed fed into a context. -/
def piece (h : Handle) : HmacDeed → Bytes
  | (.update k data, .fed (.ok ())) => if k = h then data else []
  | _ => []

/-- The data of all updates of a context that succeeded, in order. -/
def fed (h : Handle) (past : List HmacDeed) : Bytes := past.reverse.flatMap (piece h)

/-- Whether a deed gave a digest for a handle. -/
def signs (h : Handle) : HmacDeed → Bool
  | (.finish k, .signed (.ok _)) => k = h
  | _ => false

/-- The key that a handle was given out for, and the deeds since. -/
def Since (past : List HmacDeed) (h : Handle) (key : Bytes) (later : List HmacDeed) : Prop :=
  ∃ earlier, past = later ++ (.init key, .started (.ok h)) :: earlier

/-- What is left of a context after some deeds. -/
def context (h : Handle) (key : Bytes) (later : List HmacDeed) : Option HmacState :=
  if .cleanup (some h) ∈ calls later then none
  else if .finish h ∈ calls later then some .finished
  else some (.running key (fed h later))

variable {past later later' : List HmacDeed} {d : HmacDeed} {h k : Handle} {key : Bytes}

theorem fed_cons : fed h (d :: past) = fed h past ++ piece h d := by
  simp [fed]

theorem since_cons : Since (d :: past) h key later' ↔
    d = (.init key, .started (.ok h)) ∧ later' = [] ∨
      ∃ later, later' = d :: later ∧ Since past h key later := by
  cases later' with
  | nil => simp [Since]
  | cons e later =>
    simp only [Since, List.cons_append, List.cons.injEq, reduceCtorEq, and_false, false_or]
    constructor
    · rintro ⟨earlier, rfl, rfl⟩
      exact ⟨later, ⟨rfl, rfl⟩, earlier, rfl⟩
    · rintro ⟨_, ⟨rfl, rfl⟩, earlier, rfl⟩
      exact ⟨earlier, rfl, rfl⟩

theorem Since.cons (h : Since past k key later) (d : HmacDeed) :
    Since (d :: past) k key (d :: later) :=
  since_cons.2 (.inr ⟨later, rfl, h⟩)

theorem Since.mem_issued (h : Since past k key later) : k ∈ issued past := by
  obtain ⟨earlier, rfl⟩ := h
  simp [issued, issues]

theorem exists_since (hissued : h ∈ issued past) : ∃ key later, Since past h key later := by
  obtain ⟨d, hmem, hd⟩ := List.mem_filterMap.1 hissued
  obtain ⟨later, earlier, rfl⟩ := List.append_of_mem hmem
  simp only [issues] at hd
  split at hd
  · cases hd
    exact ⟨_, later, earlier, rfl⟩
  · cases hd

theorem isRunning_context : HmacState.IsRunning (context h key later) ↔
    .cleanup (some h) ∉ calls later ∧ .finish h ∉ calls later := by
  simp only [context, HmacState.IsRunning]
  split_ifs <;> simp_all

theorem context_eq_running_iff {key' data : Bytes} :
    context h key later = some (.running key' data) ↔
      (.cleanup (some h) ∉ calls later ∧ .finish h ∉ calls later) ∧ key = key' ∧
        fed h later = data := by
  simp only [context]
  split_ifs <;> simp_all

theorem isSome_context :
    (context h key later).isSome ↔ .cleanup (some h) ∉ calls later := by
  simp only [context]
  split_ifs <;> simp_all

/-- A deed that neither ends a context nor feeds it. -/
theorem context_cons_of_idle (hcleanup : d.1 ≠ .cleanup (some h)) (hfinish : d.1 ≠ .finish h)
    (hpiece : piece h d = []) : context h key (d :: later) = context h key later := by
  simp only [context, calls, List.map_cons, List.mem_cons, hcleanup.symm, hfinish.symm, false_or,
    fed_cons, hpiece, List.append_nil]

end HmacDeed

open HmacDeed

/-- The contexts tell of the past. -/
structure HmacTraces (past : List HmacDeed) (t : SlotTable HmacState) : Prop where
  table : ∃ slots, t.Traces slots ∧ TableDeed.issued slots = issued past
  nodup : (issued past).Nodup
  known (h : Handle) (key : Bytes) (later : List HmacDeed) (hsince : Since past h key later) :
    t.get? h = context h key later
  unknown (h : Handle) (hnew : h ∉ issued past) : t.get? h = none
  signed (h : Handle) (hsigned : ∃ d ∈ past, signs h d) :
    ∃ key later, Since past h key later ∧ .finish h ∈ calls later
  once (h : Handle) : past.countP (signs h) ≤ 1

namespace HmacTraces

variable {past : List HmacDeed} {t t' : SlotTable HmacState} {d : HmacDeed} {h : Handle}

theorem start : HmacTraces [] .empty where
  table := ⟨[], .start, rfl⟩
  nodup := List.nodup_nil
  known h key later hsince := absurd hsince.mem_issued List.not_mem_nil
  unknown h _ := rfl
  signed h hsigned := by simp at hsigned
  once h := Nat.zero_le 1

theorem isSome_iff (htraces : HmacTraces past t) : (t.get? h).isSome ↔
    ∃ key later, Since past h key later ∧ .cleanup (some h) ∉ calls later := by
  constructor
  · intro hsome
    have hissued : h ∈ issued past := by
      by_contra hnew
      rw [htraces.unknown h hnew] at hsome
      cases hsome
    obtain ⟨key, later, hsince⟩ := exists_since hissued
    rw [htraces.known h key later hsince, isSome_context] at hsome
    exact ⟨key, later, hsince, hsome⟩
  · rintro ⟨key, later, hsince, hcleanup⟩
    rwa [htraces.known h key later hsince, isSome_context]

/-- A context that runs was neither finished nor cleaned up since it was set up. -/
theorem since_of_running (htraces : HmacTraces past t)
    (hruns : HmacState.IsRunning (t.get? h)) : ∃ key later, Since past h key later ∧
      .cleanup (some h) ∉ calls later ∧ .finish h ∉ calls later := by
  have hsome : (t.get? h).isSome := by
    obtain ⟨key, data, hget⟩ := hruns
    rw [hget]
    rfl
  obtain ⟨key, later, hsince, -⟩ := htraces.isSome_iff.1 hsome
  rw [htraces.known h key later hsince, isRunning_context] at hruns
  exact ⟨key, later, hsince, hruns⟩

theorem unsigned_of_running (htraces : HmacTraces past t)
    (hruns : HmacState.IsRunning (t.get? h)) : past.countP (signs h) = 0 := by
  rw [List.countP_eq_zero]
  intro d hd hsigns
  obtain ⟨key, later, hsince, hfinish⟩ := htraces.signed h ⟨d, hd, hsigns⟩
  rw [htraces.known h key later hsince, isRunning_context] at hruns
  exact hruns.2 hfinish

/-- A deed that gives no handle out: its effect on each context is what has to be known. -/
theorem next (htraces : HmacTraces past t) (hissues : issues d = none)
    (htable : ∃ slots, t'.Traces slots ∧ TableDeed.issued slots = issued past)
    (hknown : ∀ h key later, Since past h key later → t'.get? h = context h key (d :: later))
    (hunknown : ∀ h, t.get? h = none → t'.get? h = none)
    (hsigns : ∀ h, signs h d → d.1 = .finish h ∧ HmacState.IsRunning (t.get? h)) :
    HmacTraces (d :: past) t' := by
  have hissued : issued (d :: past) = issued past := List.filterMap_cons_none hissues
  refine ⟨?_, ?_, fun h key later hsince => ?_, fun h hnew => ?_, fun h hsigned => ?_, fun h => ?_⟩
  · rw [hissued]
    exact htable
  · rw [hissued]
    exact htraces.nodup
  · rcases since_cons.1 hsince with ⟨rfl, -⟩ | ⟨later, rfl, hbefore⟩
    · cases hissues
    · exact hknown h key later hbefore
  · rw [hissued] at hnew
    exact hunknown h (htraces.unknown h hnew)
  · obtain ⟨e, he, hsigned⟩ := hsigned
    rcases List.mem_cons.1 he with rfl | hpast
    · obtain ⟨hcall, hruns⟩ := hsigns h hsigned
      obtain ⟨key, later, hsince, -⟩ := htraces.since_of_running hruns
      exact ⟨key, e :: later, hsince.cons e, by simp [calls, hcall]⟩
    · obtain ⟨key, later, hsince, hfinish⟩ := htraces.signed h ⟨e, hpast, hsigned⟩
      exact ⟨key, d :: later, hsince.cons d, List.mem_cons_of_mem _ hfinish⟩
  · rw [List.countP_cons]
    split_ifs with hsigned
    · rw [htraces.unsigned_of_running (hsigns h hsigned).2]
    · exact htraces.once h

/-- A deed that changes nothing, ends no context and feeds none. -/
theorem idle (htraces : HmacTraces past t) (hissues : issues d = none)
    (hsigns : ∀ h, signs h d = false)
    (hothers : ∀ h, d.1 ≠ .cleanup (some h) ∧ d.1 ≠ .finish h ∧ piece h d = []) :
    HmacTraces (d :: past) t :=
  htraces.next hissues htraces.table
    (fun h key later hsince => by
      obtain ⟨hcleanup, hfinish, hpiece⟩ := hothers h
      rw [context_cons_of_idle hcleanup hfinish hpiece]
      exact htraces.known h key later hsince)
    (fun _ hnone => hnone)
    (fun h hd => by simp [hsigns h] at hd)

/-- A deed that reaches the context of one handle. -/
theorem reach {value : Option HmacState} (htraces : HmacTraces past t) (k : Handle)
    (hissues : issues d = none)
    (htable : ∃ slots, t'.Traces slots ∧ TableDeed.issued slots = issued past)
    (hget : t'.get? = Function.update t.get? k value) (hnone : t.get? k = none → value = none)
    (hothers : ∀ h, k ≠ h → d.1 ≠ .cleanup (some h) ∧ d.1 ≠ .finish h ∧ piece h d = [])
    (hknown : ∀ key later, t.get? k = context k key later → value = context k key (d :: later))
    (hsigns : ∀ h, signs h d → d.1 = .finish h ∧ HmacState.IsRunning (t.get? h)) :
    HmacTraces (d :: past) t' := by
  refine htraces.next hissues htable (fun h key later hsince => ?_) (fun h hh => ?_) hsigns
  · have hbefore := htraces.known h key later hsince
    rcases eq_or_ne k h with rfl | hne
    · rw [hget, Function.update_self]
      exact hknown key later hbefore
    · obtain ⟨hcleanup, hfinish, hpiece⟩ := hothers h hne
      rw [hget, Function.update_of_ne hne.symm, hbefore,
        context_cons_of_idle hcleanup hfinish hpiece]
  · rcases eq_or_ne k h with rfl | hne
    · rw [hget, Function.update_self]
      exact hnone hh
    · rwa [hget, Function.update_of_ne hne.symm]

theorem started {k : Handle} {key : Bytes} (htraces : HmacTraces past t)
    (hinsert : t.insert (.running key []) = .ok (k, t'))
    (hfew : (issued past).countP (fun h => h.index = k.index) < 2 ^ 32) :
    HmacTraces ((.init key, .started (.ok k)) :: past) t' := by
  obtain ⟨slots, htable, hslots⟩ := htraces.table
  have hget := SlotTable.get?_insert htable.valid hinsert
  have hfresh : k ∉ issued past := by
    -- A slot was emptied at most as often as it was used.
    have hvalues := htable.values k.index
    rw [hslots] at hvalues
    rw [← hslots]
    exact htable.fresh hinsert (by omega)
  have hissued : issued ((.init key, .started (.ok k)) :: past) = k :: issued past := rfl
  refine ⟨⟨_, htable.insert hinsert, ?_⟩, ?_, fun h key' later hsince => ?_, fun h hnew => ?_,
    fun h hsigned => ?_, fun h => ?_⟩
  · rw [TableDeed.issued_cons_issued, hslots, hissued]
  · rw [hissued]
    exact List.nodup_cons.2 ⟨hfresh, htraces.nodup⟩
  · rcases since_cons.1 hsince with ⟨hd, rfl⟩ | ⟨later, rfl, hbefore⟩
    · cases hd
      rw [hget, Function.update_self]
      rfl
    · have hne : h ≠ k := fun heq => hfresh (heq ▸ hbefore.mem_issued)
      rw [hget, Function.update_of_ne hne, context_cons_of_idle (by simp) (by simp) rfl]
      exact htraces.known h key' later hbefore
  · rw [hissued, List.mem_cons, not_or] at hnew
    rw [hget, Function.update_of_ne hnew.1]
    exact htraces.unknown h hnew.2
  · obtain ⟨e, he, hsigned⟩ := hsigned
    rcases List.mem_cons.1 he with rfl | hpast
    · cases hsigned
    · obtain ⟨key', later, hsince, hfinish⟩ := htraces.signed h ⟨e, hpast, hsigned⟩
      exact ⟨key', _ :: later, hsince.cons _, List.mem_cons_of_mem _ hfinish⟩
  · rw [List.countP_cons_of_neg (by simp [signs])]
    exact htraces.once h

theorem fed {k : Handle} {key earlier : Bytes} (htraces : HmacTraces past t) (data : Bytes)
    (hruns : t.get? k = some (.running key earlier)) :
    HmacTraces ((.update k data, .fed (.ok ())) :: past)
      (t.update k fun _ => .running key (earlier ++ data)) := by
  obtain ⟨slots, htable, hslots⟩ := htraces.table
  refine htraces.reach k rfl ⟨_, htable.change k _, hslots⟩ (SlotTable.get?_update t k _)
    (fun hnone => by rw [hnone, Option.map_none]) (fun h hne => ?_) (fun key' later hknown => ?_)
    (fun h hsigns => by cases hsigns)
  · simp [piece, hne]
  · rw [hruns, eq_comm, context_eq_running_iff] at hknown
    obtain ⟨hopen, rfl, rfl⟩ := hknown
    rw [hruns, Option.map_some, eq_comm, context_eq_running_iff, fed_cons]
    simpa [piece] using hopen

theorem finished {k : Handle} {key data digest : Bytes} (htraces : HmacTraces past t)
    (hruns : t.get? k = some (.running key data)) :
    HmacTraces ((.finish k, .signed (.ok digest)) :: past) (t.update k fun _ => .finished) := by
  obtain ⟨slots, htable, hslots⟩ := htraces.table
  refine htraces.reach k rfl ⟨_, htable.change k _, hslots⟩ (SlotTable.get?_update t k _)
    (fun hnone => by rw [hnone, Option.map_none]) (fun h hne => ?_) (fun key' later hknown => ?_)
    (fun h hsigns => ?_)
  · simp [piece, hne]
  · rw [hruns, eq_comm, context_eq_running_iff] at hknown
    simp [hruns, context, calls, hknown.1.1]
  · obtain rfl : k = h := of_decide_eq_true hsigns
    exact ⟨rfl, key, data, hruns⟩

/-- A context that was finished or cleaned up before is not finished again. -/
theorem unfinished {k : Handle} {e : CallbackError} (htraces : HmacTraces past t)
    (hstands : ¬HmacState.IsRunning (t.get? k)) :
    HmacTraces ((.finish k, .signed (.error e)) :: past) t := by
  refine htraces.reach k rfl htraces.table (Function.update_eq_self k t.get?).symm id
    (fun h hne => ?_) (fun key later hknown => ?_) (fun h hsigns => by cases hsigns)
  · simp [piece, hne]
  · rw [hknown, isRunning_context] at hstands
    rw [hknown]
    simp only [context, calls, List.map_cons, List.mem_cons, reduceCtorEq, false_or, true_or]
    split_ifs with hcleanup hfinish
    · rfl
    · rfl
    · exact absurd ⟨hcleanup, hfinish⟩ hstands

theorem cleaned (htraces : HmacTraces past t) (k : Handle) :
    HmacTraces ((.cleanup (some k), .cleaned) :: past) (t.remove k).2 := by
  obtain ⟨slots, htable, hslots⟩ := htraces.table
  refine htraces.reach k rfl ⟨_, htable.remove k, hslots⟩ (SlotTable.get?_remove t k)
    (fun _ => rfl) (fun h hne => ?_) (fun key later _ => ?_) (fun h hsigns => by cases hsigns)
  · simp [piece, hne]
  · simp [context, calls]

theorem turn (htraces : HmacTraces past t) (hturn : HmacTurn t d t')
    (hfew : ∀ slot, (issued (d :: past)).countP (fun h => h.index = slot) ≤ 2 ^ 32) :
    HmacTraces (d :: past) t' := by
  cases hturn with
  | @started key k _ inserted =>
    have hissued : issued ((.init key, .started (.ok k)) :: past) = k :: issued past := rfl
    have hslot := hfew k.index
    rw [hissued, List.countP_cons_of_pos (by simp)] at hslot
    exact htraces.started inserted (by omega)
  | full refused => exact htraces.idle rfl (fun _ => rfl) fun _ => by simp [piece]
  | fed data runs => exact htraces.fed data runs
  | unfed data stands => exact htraces.idle rfl (fun _ => rfl) fun _ => by simp [piece]
  | signed runs => exact htraces.finished runs
  | unsigned stands => exact htraces.unfinished stands
  | cleaned k => exact htraces.cleaned k
  | nothing => exact htraces.idle rfl (fun _ => rfl) fun _ => by simp [piece]

end HmacTraces

namespace HostServices

/-- Calls of the keyed hashes of one host that began with no context. -/
abbrev Run (lock : ReentrantLock Unit) (log : List LogEvent) :
    List HmacDeed → Traced HostServices → Prop :=
  History (fun w d w' => d.1.perform.run w = (d.2, w')) ⟨⟨lock, .empty⟩, log⟩

variable {lock : ReentrantLock Unit} {log : List LogEvent} {past : List HmacDeed}
  {w : Traced HostServices}

theorem issued_sublist_cons (d : HmacDeed) (past : List HmacDeed) :
    (issued past).Sublist (issued (d :: past)) :=
  (List.sublist_cons_self d past).filterMap issues

theorem Run.traces (h : Run lock log past w)
    (hfew : ∀ slot, (issued past).countP (fun h => h.index = slot) ≤ 2 ^ 32) :
    HmacTraces past w.state.hmacs := by
  induction h with
  | start => exact .start
  | @next past w w' d before taken ih =>
    have hturn := d.1.turn w
    rw [taken] at hturn
    refine (ih fun slot => ?_).turn hturn hfew
    exact ((issued_sublist_cons d past).countP_le).trans (hfew slot)

/-- A digest is that of the data fed since the handle was given out. A context takes data and gives
its digest up to the first finish or cleanup of its handle. -/
structure SignsRightly (past : List HmacDeed) (w : Traced HostServices) : Prop where
  issued_nodup : (issued past).Nodup
  issued_of_digest (h : Handle) (digest : Bytes) (hfinish : ((finish h).run w).1 = .ok digest) :
    h ∈ issued past
  digest (h : Handle) (key : Bytes) (later : List HmacDeed) (hsince : Since past h key later)
    (digest : Bytes) (hfinish : ((finish h).run w).1 = .ok digest) :
    digest = hmac sha256 key (fed h later)
  takes_data (h : Handle) (key : Bytes) (later : List HmacDeed) (hsince : Since past h key later)
    (hfinish : .finish h ∉ calls later) (hcleanup : .cleanup (some h) ∉ calls later)
    (data : Bytes) : ((update h data).run w).1 = .ok ()
  gives_digest (h : Handle) (key : Bytes) (later : List HmacDeed) (hsince : Since past h key later)
    (hfinish : .finish h ∉ calls later) (hcleanup : .cleanup (some h) ∉ calls later) :
    ∃ digest, ((finish h).run w).1 = .ok digest
  once (h : Handle) : past.countP (signs h) ≤ 1
  live : w.state.liveHmacs =
    {h | ∃ key later, Since past h key later ∧ .cleanup (some h) ∉ calls later}.ncard

theorem isRunning_of_digest {k : Handle} {digest : Bytes}
    (hfinish : ((finish k).run w).1 = .ok digest) :
    HmacState.IsRunning (w.state.hmacs.get? k) := by
  by_contra hstands
  obtain ⟨e, hrun⟩ := run_finish_of_not_running hstands
  rw [hrun] at hfinish
  cases hfinish

/-- Whatever calls are mixed with each other, each digest is right. -/
theorem Run.signsRightly (h : Run lock log past w)
    (hfew : ∀ slot, (issued past).countP (fun h => h.index = slot) ≤ 2 ^ 32) :
    SignsRightly past w := by
  have htraces := h.traces hfew
  obtain ⟨slots, htable, -⟩ := htraces.table
  have hopen : ∀ k key later, Since past k key later → .finish k ∉ calls later →
      .cleanup (some k) ∉ calls later →
      w.state.hmacs.get? k = some (.running key (fed k later)) := by
    intro k key later hsince hfinish hcleanup
    rw [htraces.known k key later hsince]
    exact context_eq_running_iff.2 ⟨⟨hcleanup, hfinish⟩, rfl, rfl⟩
  refine ⟨htraces.nodup, fun k digest hfinish => ?_, fun k key later hsince digest hfinish => ?_,
    fun k key later hsince hfinish hcleanup data => ?_,
    fun k key later hsince hfinish hcleanup => ?_, htraces.once, ?_⟩
  · obtain ⟨key, later, hsince, -⟩ := htraces.since_of_running (isRunning_of_digest hfinish)
    exact hsince.mem_issued
  · have hruns := isRunning_of_digest hfinish
    rw [htraces.known k key later hsince, isRunning_context] at hruns
    rw [run_finish_of_running (hopen k key later hsince hruns.2 hruns.1)] at hfinish
    cases hfinish
    rfl
  · rw [run_update_of_running (hopen k key later hsince hfinish hcleanup)]
  · rw [run_finish_of_running (hopen k key later hsince hfinish hcleanup)]
    exact ⟨_, rfl⟩
  · simp only [← htraces.isSome_iff]
    exact htable.size

/-- A slot is used again while its old handle is still about, and another handle was never given
out. -/
theorem signsRightly_of_reused_slot : ∃ w : Traced HostServices, w.state.liveHmacs = 1 ∧
    SignsRightly [(.update ⟨0, 1⟩ [4], .fed (.ok ())), (.finish ⟨0, 0⟩, .signed (.error .unknown)),
      (.init [3], .started (.ok ⟨0, 1⟩)), (.cleanup (some ⟨0, 0⟩), .cleaned),
      (.update ⟨7, 0⟩ [2], .fed (.error .computation)), (.update ⟨0, 0⟩ [1], .fed (.ok ())),
      (.init [], .started (.ok ⟨0, 0⟩))] w :=
  ⟨_, rfl, Run.signsRightly
    (show Run {} [] _ _ from .next (.next (.next (.next (.next (.next (.next .start rfl) rfl) rfl)
      rfl) rfl) rfl) rfl)
    fun _ => List.countP_le_length.trans (by decide)⟩

end HostServices

end IdentityVault
