import IdentityVault.Unlock.Session

/-! What the ends of the channels do to them. -/
namespace IdentityVault

namespace PasswordRequest

/-- The requests with the numbers from one on. The numbers wrap round. -/
def upTo (n : Nat) : List PasswordRequest := (List.range' 1 n).map fun i => ⟨.ofNat i⟩

theorem upTo_succ (n : Nat) : upTo (n + 1) = upTo n ++ [⟨.ofNat n + 1⟩] := by
  have hnumber : UInt32.ofNat (1 + n) = .ofNat n + 1 := by
    rw [Nat.add_comm]
    exact UInt32.ofNat_add n 1
  rw [upTo, List.range'_1_concat, List.map_append, List.map_singleton, hnumber]
  rfl

theorem length_upTo (n : Nat) : (upTo n).length = n := by
  rw [upTo, List.length_map, List.length_range']

theorem map_attempt_upTo {n : Nat} (few : n < UInt32.size) :
    (upTo n).map (·.attempt.toNat) = List.range' 1 n := by
  rw [upTo, List.map_map]
  refine (List.map_congr_left fun i hi => ?_).trans (List.map_id _)
  obtain ⟨-, hlt⟩ := List.mem_range'_1.1 hi
  exact UInt32.toNat_ofNat_of_lt' (by omega)

end PasswordRequest

namespace PromptChannel

variable (c : PromptChannel)

@[simp] theorem issued_request : c.request.1.issued = c.issued + 1 := by
  unfold request
  split <;> rfl

@[simp] theorem listening_request : c.request.1.listening = c.listening := by
  unfold request
  split <;> rfl

@[simp] theorem prompting_request : c.request.1.prompting = c.prompting := by
  unfold request
  split <;> rfl

theorem pending_request (listening : c.listening = true) :
    c.request.1.pending = c.pending ++ [⟨c.issued + 1⟩] := by
  rw [request, if_pos listening]

theorem length_pending_request : c.request.1.pending.length ≤ c.pending.length + 1 := by
  unfold request
  split <;> simp

@[simp] theorem issued_receive : c.receive.2.issued = c.issued := by
  unfold receive
  split <;> rfl

@[simp] theorem listening_receive : c.receive.2.listening = c.listening := by
  unfold receive
  split <;> rfl

@[simp] theorem prompting_receive : c.receive.2.prompting = c.prompting := by
  unfold receive
  split <;> rfl

theorem pending_of_receive {r : PasswordRequest} (h : c.receive.1 = .item r) :
    c.pending = r :: c.receive.2.pending := by
  unfold receive at h ⊢
  cases hpending : c.pending with
  | nil =>
    rw [hpending] at h
    cases hprompting : c.prompting <;> simp [hprompting] at h
  | cons first rest =>
    rw [hpending] at h
    cases h
    rfl

theorem receive_of_pending {r : PasswordRequest} {rest : List PasswordRequest}
    (h : c.pending = r :: rest) : c.receive.1 = .item r := by
  rw [receive, h]

theorem receive_ne_empty (h : c.prompting = false) : c.receive.1 ≠ .empty := by
  unfold receive
  cases c.pending <;> simp [h]

/-- Nobody prompts any more, and all requests were received. -/
theorem disconnected_iff :
    c.receive.1 = .disconnected ↔ c.pending = [] ∧ c.prompting = false := by
  unfold receive
  cases c.pending with
  | nil => cases c.prompting <;> simp
  | cons r rest => simp

end PromptChannel

namespace SubmissionChannel

variable (c : SubmissionChannel) (password : String)

theorem submit_of_receiving (receiving : c.receiving = true)
    (room : (c.submit password).1 ≠ .full) :
    c.slot = none ∧ c.submit password = (.accepted, { c with slot := some password }) := by
  rw [submit, if_pos receiving] at room ⊢
  cases hslot : c.slot with
  | none => exact ⟨rfl, rfl⟩
  | some waiting =>
    rw [hslot] at room
    exact absurd rfl room

theorem submit_of_not_receiving (receiving : c.receiving = false) :
    c.submit password = (.closed, c) := by
  rw [submit, receiving]
  rfl

theorem submit_ne_full (slot : c.slot = none) : (c.submit password).1 ≠ .full := by
  rw [submit, slot]
  split <;> simp

@[simp] theorem sending_submit : (c.submit password).2.sending = c.sending := by
  unfold submit
  split
  · split <;> rfl
  · rfl

theorem length_slot_submit :
    (c.submit password).2.slot.toList.length ≤ c.slot.toList.length + 1 := by
  unfold submit
  split
  · split <;> simp
  · simp

end SubmissionChannel

namespace Reports

variable (r : Reports) (result : AttemptResult)

@[simp] theorem listening_add : (r.add result).1.listening = r.listening := by
  unfold add
  split <;> rfl

theorem results_add (listening : r.listening = true) :
    (r.add result).1.results = r.results ++ [result] := by
  rw [add, if_pos listening]

end Reports

end IdentityVault
