import IdentityVault.Proofs.Program.History
import IdentityVault.Proofs.Unlock.Channels
import Mathlib.Algebra.Group.Nat.Defs

/-! The numbers of the requests that a host receives. They count up from one as long as a number
holds the count: request 2^32 has the number zero, the one behind it is number one again, and
neither of the two counts as a retry. -/
namespace IdentityVault

namespace PasswordRequest

variable {l : List PasswordRequest} {r : PasswordRequest} {n i : Nat}

theorem getElem?_upTo (h : i < n) : (upTo n)[i]? = some ⟨.ofNat (i + 1)⟩ := by
  rw [upTo, List.getElem?_map, List.getElem?_range' h, Option.map_some, Nat.one_mul, Nat.add_comm]

/-- The number of a request is its place among all, as far as a number can tell. -/
theorem attempt_of_getElem?_upTo (h : (upTo n)[i]? = some r) :
    r.attempt.toNat = (i + 1) % 2 ^ 32 := by
  have hi : i < n := by
    have hlength := (List.getElem?_eq_some_iff.1 h).1
    rwa [length_upTo] at hlength
  rw [getElem?_upTo hi, Option.some.injEq] at h
  rw [← h]
  exact UInt32.toNat_ofNat'

theorem isRetry_iff : r.isRetry = true ↔ 2 ≤ r.attempt.toNat := by
  rw [isRetry, decide_eq_true_iff, UInt32.lt_iff_toNat_lt]
  exact Iff.rfl

/-- The first requests of many are a few themselves. -/
theorem eq_upTo_of_isPrefix (h : l <+: upTo n) : l = upTo l.length := by
  have hlength : l.length ≤ n := by
    have hle := h.length_le
    rwa [length_upTo] at hle
  obtain ⟨rest, happend⟩ := h
  apply List.ext_getElem?
  intro i
  by_cases hi : i < l.length
  · rw [getElem?_upTo hi, ← List.getElem?_append_left hi, happend,
      getElem?_upTo (Nat.lt_of_lt_of_le hi hlength)]
  · rw [List.getElem?_eq_none (Nat.le_of_not_lt hi),
      List.getElem?_eq_none (by rw [length_upTo]; exact Nat.le_of_not_lt hi)]

theorem map_attempt_upTo_iff :
    (upTo n).map (·.attempt.toNat) = List.range' 1 n ↔ n < 2 ^ 32 := by
  refine ⟨fun hmap => Nat.lt_of_not_le fun hmany => ?_, map_attempt_upTo⟩
  have hlast : 2 ^ 32 - 1 < n := by omega
  have hnumber := congrArg (·[2 ^ 32 - 1]?) hmap
  simp only [List.getElem?_map, getElem?_upTo hlast, List.getElem?_range' hlast] at hnumber
  cases hnumber

theorem retries_upTo_iff :
    (∀ i r, (upTo n)[i]? = some r → (r.isRetry = true ↔ 0 < i)) ↔ n < 2 ^ 32 := by
  constructor
  · refine fun hretries => Nat.lt_of_not_le fun hmany => ?_
    have hlast : 2 ^ 32 - 1 < n := by omega
    have hretry := (hretries _ _ (getElem?_upTo hlast)).2 (by decide)
    cases hretry
  · intro few i r hr
    have hi := (List.getElem?_eq_some_iff.1 hr).1
    rw [length_upTo] at hi
    rw [isRetry_iff, attempt_of_getElem?_upTo hr, Nat.mod_eq_of_lt (by omega)]
    omega

end PasswordRequest

open PasswordRequest

/-- What is done to a channel of requests. -/
inductive PromptDeed where
  | requested
  | received (r : Received PasswordRequest)
  | promptDropped
  | listenerDropped
  deriving DecidableEq

namespace PromptDeed

/-- The request that a deed brought the listener. -/
def item? : PromptDeed → Option PasswordRequest
  | .received (.item r) => some r
  | _ => none

/-- How many requests were made, whoever listened. -/
def requests (past : List PromptDeed) : Nat := past.count .requested

/-- The requests that were received, the first one in front. -/
def heard (past : List PromptDeed) : List PasswordRequest := past.reverse.filterMap item?

theorem requests_cons (d : PromptDeed) (past : List PromptDeed) :
    requests (d :: past) = requests past + if d = .requested then 1 else 0 := by
  simp [requests, List.count_cons]

theorem heard_cons (d : PromptDeed) (past : List PromptDeed) :
    heard (d :: past) = heard past ++ (item? d).toList := by
  rw [heard, List.reverse_cons, List.filterMap_append, heard]
  cases hitem : item? d <;> simp [hitem]

end PromptDeed

open PromptDeed

namespace PromptChannel

theorem receive_eq_self {c : PromptChannel} (h : ∀ r, c.receive.1 ≠ .item r) : c.receive.2 = c := by
  unfold receive at h ⊢
  cases hpending : c.pending with
  | nil => rfl
  | cons r rest =>
    rw [hpending] at h
    exact absurd rfl (h r)

/-- Each end is used until it is dropped. -/
inductive Step (c : PromptChannel) : PromptDeed → PromptChannel → Prop where
  | request (prompting : c.prompting = true) : Step c .requested c.request.1
  | receive (listening : c.listening = true) : Step c (.received c.receive.1) c.receive.2
  | dropPrompt (prompting : c.prompting = true) : Step c .promptDropped c.dropPrompt
  | dropListener (listening : c.listening = true) : Step c .listenerDropped c.dropListener

abbrev Run : List PromptDeed → PromptChannel → Prop := History Step {}

variable {c c' : PromptChannel} {past : List PromptDeed} {d : PromptDeed}

/-- The requests made so far were received, are on their way, or were lost with the listener. -/
structure Traces (past : List PromptDeed) (c : PromptChannel) : Prop where
  issued : c.issued = .ofNat (requests past)
  upTo : ∃ lost, heard past ++ c.pending ++ lost = upTo (requests past) ∧
    (c.listening = true → lost = [])

/-- A deed that makes no request and receives none. -/
theorem Traces.idle (htraces : Traces past c) (hmade : d ≠ .requested) (hitem : item? d = none) :
    Traces (d :: past) c := by
  have hrequests : requests (d :: past) = requests past := by
    rw [requests_cons, if_neg hmade, Nat.add_zero]
  have hheard : heard (d :: past) = heard past := by
    rw [heard_cons, hitem, Option.toList_none, List.append_nil]
  refine ⟨?_, ?_⟩
  · rw [hrequests]
    exact htraces.issued
  · rw [hrequests, hheard]
    exact htraces.upTo

theorem Traces.request (htraces : Traces past c) : Traces (.requested :: past) c.request.1 := by
  obtain ⟨lost, hupTo, hlost⟩ := htraces.upTo
  have hrequests : requests (.requested :: past) = requests past + 1 := requests_cons _ past
  have hheard : heard (.requested :: past) = heard past :=
    (heard_cons _ past).trans (List.append_nil _)
  refine ⟨?_, ?_⟩
  · rw [hrequests, c.issued_request, htraces.issued]
    exact (UInt32.ofNat_add _ 1).symm
  · rw [hrequests, hheard, c.listening_request, upTo_succ, ← hupTo, ← htraces.issued]
    cases hlistening : c.listening with
    | true =>
      refine ⟨[], ?_, fun _ => rfl⟩
      rw [c.pending_request hlistening, hlost hlistening]
      simp only [List.append_nil, List.append_assoc]
    | false =>
      refine ⟨lost ++ [⟨c.issued + 1⟩], ?_, nofun⟩
      rw [PromptChannel.request, hlistening]
      exact (List.append_assoc ..).symm

theorem Traces.receive (htraces : Traces past c) :
    Traces (.received c.receive.1 :: past) c.receive.2 := by
  cases hreceived : c.receive.1 with
  | item r =>
    obtain ⟨lost, hupTo, hlost⟩ := htraces.upTo
    have hrequests : requests (.received (.item r) :: past) = requests past := requests_cons _ past
    have hheard : heard (.received (.item r) :: past) = heard past ++ [r] := heard_cons _ past
    refine ⟨?_, lost, ?_, ?_⟩
    · rw [hrequests, c.issued_receive, htraces.issued]
    · rw [hrequests, hheard, ← hupTo, c.pending_of_receive hreceived]
      simp only [List.append_assoc, List.singleton_append]
    · rw [c.listening_receive]
      exact hlost
  | empty | disconnected =>
    rw [c.receive_eq_self (by simp [hreceived])]
    exact htraces.idle (by simp) rfl

theorem Traces.dropListener (htraces : Traces past c) :
    Traces (.listenerDropped :: past) c.dropListener := by
  have hidle := htraces.idle (d := .listenerDropped) (by simp) rfl
  obtain ⟨lost, hupTo, -⟩ := hidle.upTo
  refine ⟨hidle.issued, c.pending ++ lost, ?_, nofun⟩
  rw [← hupTo, PromptChannel.dropListener, List.append_nil, List.append_assoc]

theorem Traces.step (htraces : Traces past c) (hstep : Step c d c') : Traces (d :: past) c' := by
  cases hstep with
  | request => exact htraces.request
  | receive => exact htraces.receive
  | dropPrompt =>
    have hidle := htraces.idle (d := .promptDropped) (by simp) rfl
    exact ⟨hidle.issued, hidle.upTo⟩
  | dropListener => exact htraces.dropListener

theorem Run.traces (hrun : Run past c) : Traces past c := by
  induction hrun with
  | start => exact ⟨rfl, [], rfl, fun _ => rfl⟩
  | next _ taken ih => exact ih.step taken

/-- How the requests that were received are numbered. That they count up from one, and that all but
the first of them are retries, holds exactly for fewer than 2^32 of them. -/
structure Numbered (past : List PromptDeed) (c : PromptChannel) : Prop where
  isPrefix : heard past <+: upTo (requests past)
  complete (listening : c.listening = true) : heard past ++ c.pending = upTo (requests past)
  attempt (i : Nat) (r : PasswordRequest) (received : (heard past)[i]? = some r) :
    r.attempt.toNat = (i + 1) % 2 ^ 32
  isRetry_iff (i : Nat) (r : PasswordRequest) (received : (heard past)[i]? = some r) :
    r.isRetry = true ↔ 2 ≤ (i + 1) % 2 ^ 32
  count_up_iff : (heard past).map (·.attempt.toNat) = List.range' 1 (heard past).length ↔
    (heard past).length < 2 ^ 32
  retries_iff : (∀ i r, (heard past)[i]? = some r → (r.isRetry = true ↔ 0 < i)) ↔
    (heard past).length < 2 ^ 32

theorem Run.numbered (hrun : Run past c) : Numbered past c := by
  obtain ⟨lost, hupTo, hlost⟩ := (Run.traces hrun).upTo
  have hfirst : heard past <+: upTo (requests past) := by
    rw [← hupTo, List.append_assoc]
    exact List.prefix_append ..
  have hheard := eq_upTo_of_isPrefix hfirst
  refine ⟨hfirst, fun listening => ?_, fun i r received => ?_, fun i r received => ?_, ?_, ?_⟩
  · rw [← hupTo, hlost listening, List.append_nil]
  · rw [hheard] at received
    exact attempt_of_getElem?_upTo received
  · rw [hheard] at received
    rw [isRetry_iff, attempt_of_getElem?_upTo received]
  · rw [← map_attempt_upTo_iff, ← hheard]
  · rw [← retries_upTo_iff, ← hheard]

/-- A retry and a request that was lost when the listener left. -/
theorem numbered_until_listener_left : Numbered
    [.requested, .listenerDropped, .received (.item ⟨2⟩), .requested, .received (.item ⟨1⟩),
      .requested] { issued := 3, listening := false } :=
  Run.numbered (.next (.next (.next (.next (.next (.next .start (.request rfl)) (.receive rfl))
    (.request rfl)) (.receive rfl)) (.dropListener rfl)) (.request rfl))

/-- Any number of requests can be made, each received at once. -/
theorem exists_run (n : Nat) : ∃ past, Run past { issued := .ofNat n } ∧ heard past = upTo n := by
  induction n with
  | zero => exact ⟨[], .start, rfl⟩
  | succ n ih =>
    obtain ⟨past, hrun, hheard⟩ := ih
    refine ⟨.received (.item ⟨.ofNat n + 1⟩) :: .requested :: past, ?_, ?_⟩
    · rw [UInt32.ofNat_add n 1]
      exact (hrun.next (.request rfl)).next (.receive rfl)
    · rw [heard_cons, heard_cons, hheard, upTo_succ]
      exact congrArg (· ++ _) (List.append_nil _)

/-- Behind 2^32 requests that were received one by one the numbers start again. -/
theorem numbers_start_again : ∃ past c, Run past c ∧ (heard past).length = 2 ^ 32 + 1 ∧
    (heard past).map (·.attempt.toNat) ≠ List.range' 1 (2 ^ 32 + 1) ∧
    (heard past)[0]? = some ⟨1⟩ ∧ (heard past)[2 ^ 32 - 1]? = some ⟨0⟩ ∧
    (heard past)[2 ^ 32]? = some ⟨1⟩ ∧ isRetry ⟨0⟩ = false ∧ isRetry ⟨1⟩ = false := by
  obtain ⟨past, hrun, hheard⟩ := exists_run (2 ^ 32 + 1)
  refine ⟨past, _, hrun, ?_, ?_, ?_, ?_, ?_, rfl, rfl⟩ <;> rw [hheard]
  · exact length_upTo _
  · rw [ne_eq, map_attempt_upTo_iff]
    decide
  · exact getElem?_upTo (by decide)
  · exact getElem?_upTo (by decide)
  · exact getElem?_upTo (by decide)

end PromptChannel

end IdentityVault
