import IdentityVault.Engine.CallbackTable
import IdentityVault.Proofs.Engine.HmacCalls
import IdentityVault.Proofs.Engine.RawHandles
import IdentityVault.Proofs.Program.History

/-! The keyed hashes of a host as an engine reaches them, through functions that take pointers and
words. Each function does what the direct call does, or nothing at all. -/
namespace IdentityVault

/-- A null pointer can only stand for no bytes. -/
def Buffer.Readable : Buffer → Prop
  | .null length => length = 0
  | .bytes _ => True

theorem Buffer.readable_iff (b : Buffer) : b.Readable ↔ b.content?.isSome := by
  cases b with
  | bytes content => simp [Readable, content?]
  | null length => cases length <;> simp [Readable, content?]

theorem CallbackError.code_ne_zero (e : CallbackError) : e.code ≠ 0 := by
  cases e <;> decide

namespace Callback

variable {σ α β : Type} {w w' : Traced σ} {action : Callback σ (Outcome α)} {a : α}

theorem run_settle_returned (hrun : action.run w = (.returned a, w')) (write : α → β) :
    (settle action write).run w = (⟨0, some (write a)⟩, w') := by
  simp only [settle, StateT.run_bind, hrun]
  rfl

theorem run_settle_failed {e : CallbackError} (hrun : action.run w = (.failed e, w'))
    (write : α → β) : (settle action write).run w = (⟨e.code, none⟩, w') := by
  simp only [settle, StateT.run_bind, hrun]
  rfl

end Callback

namespace HostServices

/-- The functions that the host hands to its engine. -/
abbrev hmacTable : HmacTable HostServices := .ofProvider provider

/-- How a function answers. It gives zero and ends as the direct call does when no pointer that it
needs is null and its other arguments are right. Else it gives another number, and neither writes
nor changes anything. -/
structure Answers {β : Type} (f : Callback HostServices (Returned β)) (w : Traced HostServices)
    (nulls right : Prop) (wrong : Int) (direct : β → Traced HostServices → Prop) : Prop where
  zero_iff : (f.run w).1.code = 0 ↔ ¬nulls ∧ right
  done (h : (f.run w).1.code = 0) :
    ∃ output w', f.run w = (⟨0, some output⟩, w') ∧ direct output w'
  output_eq (h : (f.run w).1.code ≠ 0) : (f.run w).1.output = none
  state_eq (h : (f.run w).1.code ≠ 0) : (f.run w).2.state = w.state
  code_of_null (h : nulls) : (f.run w).1.code = -22
  code_of_wrong (hpointers : ¬nulls) (h : ¬right) : (f.run w).1.code = wrong

namespace Answers

variable {β : Type} {f : Callback HostServices (Returned β)} {w w' : Traced HostServices}
  {nulls right : Prop} {wrong : Int} {direct : β → Traced HostServices → Prop}

theorem of_done {output : β} (hrun : f.run w = (⟨0, some output⟩, w')) (hpointers : ¬nulls)
    (hright : right) (hdirect : direct output w') : Answers f w nulls right wrong direct where
  zero_iff := by simp [hrun, hpointers, hright]
  done _ := ⟨output, w', hrun, hdirect⟩
  output_eq h := by simp [hrun] at h
  state_eq h := by simp [hrun] at h
  code_of_null h := absurd h hpointers
  code_of_wrong _ h := absurd hright h

theorem of_null (hrun : f.run w = (⟨-22, none⟩, w)) (hnulls : nulls) :
    Answers f w nulls right wrong direct where
  zero_iff := by simp [hrun, hnulls]
  done h := by simp [hrun] at h
  output_eq _ := by rw [hrun]
  state_eq _ := by rw [hrun]
  code_of_null _ := by rw [hrun]
  code_of_wrong hpointers := absurd hnulls hpointers

theorem of_wrong (hwrong : wrong ≠ 0) (hrun : f.run w = (⟨wrong, none⟩, w'))
    (hstate : w'.state = w.state) (hpointers : ¬nulls) (hright : ¬right) :
    Answers f w nulls right wrong direct where
  zero_iff := by simp [hrun, hwrong, hright]
  done h := absurd h (by rwa [hrun])
  output_eq _ := by rw [hrun]
  state_eq _ := by rw [hrun, hstate]
  code_of_null h := absurd h hpointers
  code_of_wrong _ _ := by rw [hrun]

section Provided

variable {α : Type} {action : Callback HostServices (Except CallbackError α)} {write : α → β}

theorem run_outcome {r : Except CallbackError α} (hrun : action.run w = (r, w')) :
    (do return outcome (← action) : Callback HostServices (Outcome α)).run w = (outcome r, w') := by
  simp only [StateT.run_bind, hrun]
  rfl

/-- A function that makes the direct call, which returns. -/
theorem of_ok {a : α}
    (hf : f.run w = (Callback.settle (do return outcome (← action)) write).run w)
    (hrun : action.run w = (.ok a, w')) (hpointers : ¬nulls) (hright : right)
    (hdirect : direct (write a) w') : Answers f w nulls right wrong direct := by
  rw [Callback.run_settle_returned (run_outcome hrun)] at hf
  exact of_done hf hpointers hright hdirect

/-- A function that makes the direct call, which fails without effect. -/
theorem of_error {e : CallbackError}
    (hf : f.run w = (Callback.settle (do return outcome (← action)) write).run w)
    (hrun : action.run w = (.error e, w')) (hstate : w'.state = w.state) (hcode : e.code = wrong)
    (hpointers : ¬nulls) (hright : ¬right) : Answers f w nulls right wrong direct := by
  rw [Callback.run_settle_failed (run_outcome hrun), hcode] at hf
  exact of_wrong (hcode ▸ e.code_ne_zero) hf hstate hpointers hright

end Provided

end Answers

/-- A word that stands for a running hash. -/
def Runs (w : Traced HostServices) (raw : UInt64) : Prop :=
  ∃ h, Handle.ofRaw? raw = some h ∧ HmacState.IsRunning (w.state.hmacs.get? h)

theorem runs_iff {w : Traced HostServices} {raw : UInt64} {h : Handle}
    (hraw : Handle.ofRaw? raw = some h) :
    Runs w raw ↔ HmacState.IsRunning (w.state.hmacs.get? h) := by
  simp [Runs, hraw]

theorem not_runs {w : Traced HostServices} {raw : UInt64} (hraw : Handle.ofRaw? raw = none) :
    ¬Runs w raw := by
  simp [Runs, hraw]

/-- What the functions do at some moment, when the words with a running hash are known. -/
structure Fronts (unfinished : UInt64 → Prop) (w : Traced HostServices) : Prop where
  init (output : Pointer) (key : Buffer) (user : Pointer) :
    Answers (hmacTable.init output key user) w (user = .null ∨ output = .null)
      (key.Readable ∧ w.state.liveHmacs < SlotTable.maximumSlots) (-1000) fun raw w' =>
        ∃ content h, key.content? = some content ∧
          (HostServices.init content).run w = (.ok h, w') ∧ raw = h.toRaw ∧ raw ≠ 0
  update (context : UInt64) (data : Buffer) (user : Pointer) :
    Answers (hmacTable.update context data user) w (user = .null)
      (data.Readable ∧ unfinished context) (-1) fun _ w' =>
        ∃ h content, h.toRaw = context ∧ data.content? = some content ∧
          (HostServices.update h content).run w = (.ok (), w')
  finish (context : UInt64) (output user : Pointer) :
    Answers (hmacTable.finish context output user) w (user = .null ∨ output = .null)
      (unfinished context) (-1000) fun digest w' =>
        ∃ h, h.toRaw = context ∧ (HostServices.finish h).run w = (.ok digest, w')
  cleanup_valid (context : UInt64) : (hmacTable.cleanup context .valid).run w =
    (HostServices.cleanup (Handle.ofRaw? context)).run w
  cleanup_null (context : UInt64) : ((hmacTable.cleanup context .null).run w).2.state = w.state

variable {w : Traced HostServices}

theorem answers_init (hvalid : w.state.hmacs.Valid) (output : Pointer) (key : Buffer)
    (user : Pointer) :
    Answers (hmacTable.init output key user) w (user = .null ∨ output = .null)
      (key.Readable ∧ w.state.liveHmacs < SlotTable.maximumSlots) (-1000) fun raw w' =>
        ∃ content h, key.content? = some content ∧
          (init content).run w = (.ok h, w') ∧ raw = h.toRaw ∧ raw ≠ 0 := by
  have hpointers : ¬(Pointer.valid = .null ∨ Pointer.valid = .null) := by decide
  cases user with
  | null => exact .of_null rfl (.inl rfl)
  | valid =>
    cases output with
    | null => exact .of_null rfl (.inr rfl)
    | valid =>
      cases hcontent : key.content? with
      | none =>
        refine .of_wrong (by decide) ?_ rfl hpointers (by simp [key.readable_iff, hcontent])
        simp only [HmacTable.ofProvider, hcontent]
        rfl
      | some content =>
        have hf : (hmacTable.init .valid key .valid).run w =
            (Callback.settle (do return outcome (← init content)) Handle.toRaw).run w := by
          simp only [HmacTable.ofProvider, hcontent]
          rfl
        cases hinsert : w.state.hmacs.insert (.running content []) with
        | error e =>
          obtain ⟨rfl, hfull⟩ := hvalid.insert_eq_error_iff.1 hinsert
          exact .of_error hf (run_init_error hinsert) rfl rfl hpointers
            fun hright => hfull.not_gt hright.2
        | ok taken =>
          obtain ⟨h, hmacs⟩ := taken
          have hroom : w.state.liveHmacs < SlotTable.maximumSlots := by
            by_contra hfull
            rw [hvalid.insert_eq_error_iff.2 ⟨rfl, Nat.le_of_not_lt hfull⟩] at hinsert
            cases hinsert
          have hget : hmacs.get? h = some (.running content []) := by
            rw [SlotTable.get?_insert hvalid hinsert, Function.update_self]
          have hraw := Handle.toRaw_ne_zero ((hvalid.insert hinsert).index_lt hget).le
          exact .of_ok hf (run_init_ok hinsert) hpointers
            ⟨by simp [key.readable_iff, hcontent], hroom⟩
            ⟨content, h, rfl, run_init_ok hinsert, rfl, hraw⟩

theorem answers_update (w : Traced HostServices) (context : UInt64) (data : Buffer)
    (user : Pointer) :
    Answers (hmacTable.update context data user) w (user = .null)
      (data.Readable ∧ Runs w context) (-1) fun _ w' =>
        ∃ h content, h.toRaw = context ∧ data.content? = some content ∧
          (update h content).run w = (.ok (), w') := by
  have hpointers : ¬Pointer.valid = .null := by decide
  cases user with
  | null => exact .of_null rfl rfl
  | valid =>
    cases hraw : Handle.ofRaw? context with
    | none =>
      refine .of_wrong (by decide) ?_ rfl hpointers fun hright => not_runs hraw hright.2
      simp only [HmacTable.ofProvider, hraw]
      rfl
    | some h =>
      cases hcontent : data.content? with
      | none =>
        refine .of_wrong (by decide) ?_ rfl hpointers (by simp [data.readable_iff, hcontent])
        simp only [HmacTable.ofProvider, hraw, hcontent]
        rfl
      | some content =>
        have hf : (hmacTable.update context data .valid).run w =
            (Callback.settle (do return outcome (← update h content)) id).run w := by
          simp only [HmacTable.ofProvider, hraw, hcontent]
          rfl
        rw [runs_iff hraw]
        by_cases hruns : HmacState.IsRunning (w.state.hmacs.get? h)
        · obtain ⟨key, fed, hget⟩ := hruns
          have hupdate := run_update_of_running hget content
          exact .of_ok hf hupdate hpointers
            ⟨by simp [data.readable_iff, hcontent], key, fed, hget⟩
            ⟨h, content, Handle.toRaw_of_ofRaw? hraw, rfl, hupdate⟩
        · obtain ⟨e, hupdate⟩ := run_update_of_not_running hruns content
          exact .of_error hf hupdate rfl rfl hpointers fun hright => hruns hright.2

theorem answers_finish (w : Traced HostServices) (context : UInt64) (output user : Pointer) :
    Answers (hmacTable.finish context output user) w (user = .null ∨ output = .null)
      (Runs w context) (-1000) fun digest w' =>
        ∃ h, h.toRaw = context ∧ (finish h).run w = (.ok digest, w') := by
  have hpointers : ¬(Pointer.valid = .null ∨ Pointer.valid = .null) := by decide
  cases user with
  | null => exact .of_null rfl (.inl rfl)
  | valid =>
    cases output with
    | null => exact .of_null rfl (.inr rfl)
    | valid =>
      cases hraw : Handle.ofRaw? context with
      | none =>
        refine .of_wrong (by decide) ?_ rfl hpointers (not_runs hraw)
        simp only [HmacTable.ofProvider, hraw]
        rfl
      | some h =>
        have hf : (hmacTable.finish context .valid .valid).run w =
            (Callback.settle (do return outcome (← finish h)) id).run w := by
          simp only [HmacTable.ofProvider, hraw]
          rfl
        rw [runs_iff hraw]
        by_cases hruns : HmacState.IsRunning (w.state.hmacs.get? h)
        · obtain ⟨key, fed, hget⟩ := hruns
          have hfinish := run_finish_of_running hget
          exact .of_ok hf hfinish hpointers ⟨key, fed, hget⟩
            ⟨h, Handle.toRaw_of_ofRaw? hraw, hfinish⟩
        · obtain ⟨e, hfinish⟩ := run_finish_of_not_running hruns
          exact .of_error hf hfinish rfl rfl hpointers hruns

/-- In a valid table the words that stand for running hashes are the ones that functions go by. -/
theorem fronts_of_valid (hvalid : w.state.hmacs.Valid) : Fronts (Runs w) w where
  init := answers_init hvalid
  update := answers_update w
  finish := answers_finish w
  cleanup_valid _ := rfl
  cleanup_null _ := rfl

end HostServices

inductive PointerCall where
  | init (output : Pointer) (key : Buffer) (user : Pointer)
  | update (context : UInt64) (data : Buffer) (user : Pointer)
  | finish (context : UInt64) (output user : Pointer)
  | cleanup (context : UInt64) (user : Pointer)

inductive PointerReply where
  | started (r : Returned UInt64)
  | fed (r : Returned Unit)
  | signed (r : Returned Bytes)
  | cleaned

abbrev PointerDeed := PointerCall × PointerReply

open HostServices in
def PointerCall.perform : PointerCall → Callback HostServices PointerReply
  | .init output key user => return .started (← hmacTable.init output key user)
  | .update context data user => return .fed (← hmacTable.update context data user)
  | .finish context output user => return .signed (← hmacTable.finish context output user)
  | .cleanup context user => do
    hmacTable.cleanup context user
    return .cleaned

/-- Whether a word was given out, and neither finished nor cleaned up since. -/
def Unfinished (raw : UInt64) : List PointerDeed → Prop
  | [] => False
  | (.init _ _ _, .started r) :: past => r.code = 0 ∧ r.output = some raw ∨ Unfinished raw past
  | (.finish context _ _, .signed r) :: past =>
      ¬(r.code = 0 ∧ context = raw) ∧ Unfinished raw past
  | (.cleanup context .valid, _) :: past => context ≠ raw ∧ Unfinished raw past
  | _ :: past => Unfinished raw past

namespace HostServices

/-- Calls through the functions of a host that began with no context. -/
abbrev PointerRun (lock : ReentrantLock Unit) (log : List LogEvent) :
    List PointerDeed → Traced HostServices → Prop :=
  History (fun w d w' => d.1.perform.run w = (d.2, w')) ⟨⟨lock, .empty⟩, log⟩

/-- The words that stand for running hashes are the unfinished ones. -/
structure PointerTraces (past : List PointerDeed) (w : Traced HostServices) : Prop where
  valid : w.state.hmacs.Valid
  unfinished (raw : UInt64) : Unfinished raw past ↔ Runs w raw

variable {w w' : Traced HostServices} {past : List PointerDeed} {d : PointerDeed}

/-- A change at one handle is a change at its word. -/
theorem runs_of_get? {h : Handle} {value : Option HmacState} {word : UInt64}
    (hword : Handle.ofRaw? word = some h)
    (hget : w'.state.hmacs.get? = Function.update w.state.hmacs.get? h value) (raw : UInt64) :
    Runs w' raw ↔ if raw = word then HmacState.IsRunning value else Runs w raw := by
  split_ifs with heq
  · rw [heq, runs_iff hword, hget, Function.update_self]
  · refine exists_congr fun k => and_congr_right fun hk => ?_
    have hne : k ≠ h := by
      rintro rfl
      exact heq ((Handle.toRaw_of_ofRaw? hk).symm.trans (Handle.toRaw_of_ofRaw? hword))
    rw [hget, Function.update_of_ne hne]

namespace PointerTraces

theorem start {lock : ReentrantLock Unit} {log : List LogEvent} :
    PointerTraces [] ⟨⟨lock, .empty⟩, log⟩ where
  valid := SlotTable.valid_empty
  unfinished raw := by
    refine ⟨False.elim, ?_⟩
    rintro ⟨h, -, key, data, hget⟩
    cases hget

theorem of_same (htraces : PointerTraces past w) (hstate : w'.state = w.state)
    (hdeed : ∀ raw, Unfinished raw (d :: past) ↔ Unfinished raw past) :
    PointerTraces (d :: past) w' where
  valid := by
    rw [hstate]
    exact htraces.valid
  unfinished raw := by
    rw [hdeed, htraces.unfinished, Runs, Runs, hstate]

theorem of_change {h : Handle} {value : Option HmacState} {word : UInt64}
    (htraces : PointerTraces past w) (hvalid : w'.state.hmacs.Valid)
    (hword : Handle.ofRaw? word = some h)
    (hget : w'.state.hmacs.get? = Function.update w.state.hmacs.get? h value)
    (hdeed : ∀ raw, Unfinished raw (d :: past) ↔
      if raw = word then HmacState.IsRunning value else Unfinished raw past) :
    PointerTraces (d :: past) w' where
  valid := hvalid
  unfinished raw := by
    rw [hdeed, runs_of_get? hword hget, htraces.unfinished]

theorem init (htraces : PointerTraces past w) (output : Pointer) (key : Buffer) (user : Pointer) :
    PointerTraces ((.init output key user, .started ((hmacTable.init output key user).run w).1) ::
      past) ((hmacTable.init output key user).run w).2 := by
  have hanswers := answers_init htraces.valid output key user
  by_cases hcode : ((hmacTable.init output key user).run w).1.code = 0
  · obtain ⟨raw, w', hrun, content, h, -, hdirect, rfl, -⟩ := hanswers.done hcode
    have hturn := turn_init w content
    rw [hdirect] at hturn
    cases hturn with
    | started inserted =>
      have hvalid := htraces.valid.insert inserted
      have hget := SlotTable.get?_insert htraces.valid inserted
      have hself : w'.state.hmacs.get? h = some (.running content []) := by
        rw [hget, Function.update_self]
      rw [hrun]
      refine htraces.of_change hvalid (Handle.ofRaw?_toRaw (hvalid.index_lt hself).le) hget
        fun raw => ?_
      by_cases hraw : raw = h.toRaw
      · simp [Unfinished, HmacState.IsRunning, hraw]
      · simp [Unfinished, hraw, Ne.symm hraw]
  · refine htraces.of_same (hanswers.state_eq hcode) fun raw => ?_
    simp [Unfinished, hcode]

theorem update (htraces : PointerTraces past w) (context : UInt64) (data : Buffer)
    (user : Pointer) :
    PointerTraces ((.update context data user,
      .fed ((hmacTable.update context data user).run w).1) :: past)
      ((hmacTable.update context data user).run w).2 := by
  have hanswers := answers_update w context data user
  by_cases hcode : ((hmacTable.update context data user).run w).1.code = 0
  · obtain ⟨_, w', hrun, h, content, rfl, -, hdirect⟩ := hanswers.done hcode
    have hruns : Unfinished h.toRaw past :=
      (htraces.unfinished h.toRaw).2 (hanswers.zero_iff.1 hcode).2.2
    have hturn := turn_update w h content
    rw [hdirect] at hturn
    generalize hafter : w'.state.hmacs = hmacs at hturn
    cases hturn with
    | fed _ runs =>
      rw [hrun]
      refine htraces.of_change (hafter ▸ htraces.valid.update h _)
        (Handle.ofRaw?_toRaw (htraces.valid.index_lt runs).le)
        (hafter ▸ SlotTable.get?_update _ h _) fun raw => ?_
      by_cases hraw : raw = h.toRaw
      · simp [Unfinished, HmacState.IsRunning, hraw, hruns, runs]
      · simp [Unfinished, hraw]
  · exact htraces.of_same (hanswers.state_eq hcode) fun raw => Iff.rfl

theorem finish (htraces : PointerTraces past w) (context : UInt64) (output user : Pointer) :
    PointerTraces ((.finish context output user,
      .signed ((hmacTable.finish context output user).run w).1) :: past)
      ((hmacTable.finish context output user).run w).2 := by
  have hanswers := answers_finish w context output user
  by_cases hcode : ((hmacTable.finish context output user).run w).1.code = 0
  · obtain ⟨digest, w', hrun, h, rfl, hdirect⟩ := hanswers.done hcode
    have hturn := turn_finish w h
    rw [hdirect] at hturn
    generalize hafter : w'.state.hmacs = hmacs at hturn
    cases hturn with
    | signed runs =>
      rw [hrun]
      refine htraces.of_change (hafter ▸ htraces.valid.update h _)
        (Handle.ofRaw?_toRaw (htraces.valid.index_lt runs).le)
        (hafter ▸ SlotTable.get?_update _ h _) fun raw => ?_
      by_cases hraw : raw = h.toRaw
      · simp [Unfinished, HmacState.IsRunning, hraw, runs]
      · simp [Unfinished, hraw, Ne.symm hraw]
  · refine htraces.of_same (hanswers.state_eq hcode) fun raw => ?_
    simp [Unfinished, hcode]

theorem cleanup (htraces : PointerTraces past w) (context : UInt64) (user : Pointer) :
    PointerTraces ((.cleanup context user, .cleaned) :: past)
      ((hmacTable.cleanup context user).run w).2 := by
  have hfronts := fronts_of_valid htraces.valid
  cases user with
  | null => exact htraces.of_same (hfronts.cleanup_null context) fun raw => Iff.rfl
  | valid =>
    rw [hfronts.cleanup_valid]
    cases hword : Handle.ofRaw? context with
    | none =>
      -- A word that is no handle was never given out, so that there is nothing to take back.
      refine htraces.of_same rfl fun raw => and_iff_right_of_imp fun hraw => ?_
      rintro rfl
      exact not_runs hword ((htraces.unfinished context).1 hraw)
    | some h =>
      obtain ⟨e, hrun⟩ := run_cleanup_some w h
      rw [hrun]
      refine htraces.of_change (htraces.valid.remove h) hword (SlotTable.get?_remove _ h)
        fun raw => ?_
      by_cases hraw : raw = context
      · simp [Unfinished, HmacState.IsRunning, hraw]
      · simp [Unfinished, hraw, Ne.symm hraw]

theorem step (htraces : PointerTraces past w) (c : PointerCall) :
    PointerTraces ((c, (c.perform.run w).1) :: past) (c.perform.run w).2 := by
  cases c with
  | init output key user => exact htraces.init output key user
  | update context data user => exact htraces.update context data user
  | finish context output user => exact htraces.finish context output user
  | cleanup context user => exact htraces.cleanup context user

end PointerTraces

variable {lock : ReentrantLock Unit} {log : List LogEvent}

theorem PointerRun.traces (h : PointerRun lock log past w) : PointerTraces past w := by
  induction h with
  | start => exact .start
  | @next past w w' d before taken ih =>
    have hstep := ih.step d.1
    rw [taken] at hstep
    exact hstep

/-- After any calls through them the functions are an exact front of the host. They either make the
direct call or leave everything as it was. -/
theorem PointerRun.fronts (h : PointerRun lock log past w) :
    Fronts (fun raw => Unfinished raw past) w := by
  have htraces : PointerTraces past w := PointerRun.traces h
  have hunfinished : (fun raw => Unfinished raw past) = Runs w :=
    funext fun raw => propext (htraces.unfinished raw)
  rw [hunfinished]
  exact fronts_of_valid htraces.valid

/-- A hash is fed between calls with a wrong word, a wrong buffer and no place for the digest. -/
theorem fronts_amid_refusals : ∃ w : Traced HostServices, w.state.liveHmacs = 1 ∧
    Fronts (fun raw => Unfinished raw
      [(.finish 1 .null .valid, .signed ⟨-22, none⟩), (.update 1 (.null 3) .valid, .fed ⟨-1, none⟩),
        (.update 1 (.bytes [5]) .valid, .fed ⟨0, some ()⟩),
        (.finish 0 .valid .valid, .signed ⟨-1000, none⟩),
        (.init .valid (.null 0) .valid, .started ⟨0, some 1⟩)]) w :=
  ⟨_, rfl, PointerRun.fronts
    (show PointerRun {} [] _ _ from
      .next (.next (.next (.next (.next .start rfl) rfl) rfl) rfl) rfl)⟩

end HostServices

end IdentityVault
