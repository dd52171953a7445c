import ResourceLookup.Proofs.Trace

/-!
# The course of an exchange

`Session.exchange` sends one request over and over as long as the verdict on its outcome is to
retry and repetitions are left. Its course is determined by one number, the count of repetitions
that it makes, which `StopsAt` characterizes and `StopsAt.exists_count` finds for every exchange.
`Session.repeatedTimes` is the session after so many repetitions, and `Session.exchange_eq` says
that the exchange ends with one more attempt and concludes from that attempt alone.
`Session.repeatedTimes_trace` writes out what the repetitions leave in the trace.

The transport may answer as it likes, so the outcomes are those that it gives to the request after
the requests sent before (`Session.nextOutcome`).
-/

set_option autoImplicit false
set_option relaxedAutoImplicit false

namespace ResourceLookup

/-- A loop that goes on while a test passes on the number of the round, and at most so many rounds
longer, goes on exactly `count` times. -/
structure StopsAt (test : Nat → Bool) (left count : Nat) : Prop where
  within : count ≤ left
  before : ∀ i < count, test i = true
  atEnd : count < left → test count = false

namespace StopsAt

variable {test : Nat → Bool} {left count : Nat}

/-- Every such loop goes on some number of times. -/
theorem exists_count (test : Nat → Bool) (left : Nat) : ∃ count, StopsAt test left count := by
  induction left with
  | zero => exact ⟨0, Nat.le_refl 0, by simp, by simp⟩
  | succ left ih =>
    obtain ⟨count, hwithin, hbefore, hatEnd⟩ := ih
    rcases Nat.lt_or_eq_of_le hwithin with hlt | rfl
    · exact ⟨count, by omega, hbefore, fun _ ↦ hatEnd hlt⟩
    · cases htest : test count with
      | false => exact ⟨count, by omega, hbefore, fun _ ↦ htest⟩
      | true =>
        refine ⟨count + 1, Nat.le_refl _, fun i hi ↦ ?_, fun hlt ↦ absurd hlt (by omega)⟩
        rcases Nat.lt_or_eq_of_le (Nat.le_of_lt_succ hi) with hlt | rfl
        · exact hbefore i hlt
        · exact htest

/-- A loop stops at the first round that fails, or where its bound is. -/
theorem min_of_first {first : Nat} (hbefore : ∀ i < first, test i = true)
    (hfirst : first < left → test first = false) : StopsAt test left (min first left) where
  within := Nat.min_le_right first left
  before i hi := hbefore i (by omega)
  atEnd hlt := by
    have hmin : min first left = first := by omega
    rw [hmin] at hlt ⊢
    exact hfirst hlt

/-- A loop that goes on is a loop with one round less that starts one round later. -/
theorem tail (hstops : StopsAt test left (count + 1)) :
    StopsAt (fun i ↦ test (i + 1)) (left - 1) count where
  within := by
    have hwithin := hstops.within
    omega
  before i hi := hstops.before (i + 1) (by omega)
  atEnd hlt := hstops.atEnd (by omega)

end StopsAt

namespace Verdict

variable {α : Type}

/-- Whether the verdict allows the request to be sent again. -/
def isRetryable : Verdict α → Bool
  | .retryable _ => true
  | .done _ | .intercepted _ | .final _ => false

/-- How an exchange ends whose last verdict this is. -/
def conclusion : Verdict α → Except ServiceError (Answer α)
  | .done response => .ok (.document response)
  | .intercepted hit => .ok (.intercepted hit)
  | .final error | .retryable error => .error error

/-- What is reported at the end of an exchange whose last verdict this is. -/
def closing : Verdict α → List Event
  | .done _ | .intercepted _ => []
  | .final error | .retryable error => [error.event]

end Verdict

/-- The pause before the repetition with that number, where `drawn` shares were drawn before. -/
def Client.drawnPause (client : Client) (number drawn : Nat) : Duration :=
  client.settings.retry.backoff.pause number (client.jitter drawn)

namespace Session

/-! ### Repetitions -/

/-- The session after an attempt whose request is to be repeated, the pause included. -/
def repeated (request : Request) (number : Nat) (session : Session) : Session :=
  ((session.attempted request).report .retrying).sleep
    ((session.attempted request).pauseBefore number)

/-- The session after so many repetitions, `number` counting those before. -/
def repeatedTimes (request : Request) (number : Nat) : Nat → Session → Session
  | 0, session => session
  | count + 1, session => repeatedTimes request (number + 1) count (session.repeated request number)

/-- What the transport answers to the request after it was sent so many times. -/
def nextOutcome (transport : Transport) (request : Request) (session : Session) (count : Nat) :
    Outcome :=
  transport (requestsIn session.trace ++ List.replicate count request) request

/-- The activities of one attempt that is repeated after a pause. -/
def round (client : Client) (request : Request) (pause : Duration) : List Activity :=
  announcement client ++ [.sent request, .event .retrying, .slept pause]

section Repetition

variable (request : Request) (number : Nat) (session : Session)

@[simp] theorem repeated_client : (session.repeated request number).client = session.client := by
  simp only [repeated, sleep_client, report_client, attempted_client]

/-- The pause before a repetition depends on the pauses before it only. -/
theorem pauseBefore_attempted :
    (session.attempted request).pauseBefore number = session.pauseBefore number := by
  have hpauses : pausesIn [.sent request] = [] := rfl
  simp only [pauseBefore, attempted_client, attempted_trace, pausesIn_append,
    pausesIn_announcement, hpauses, List.append_nil]

theorem repeated_trace : (session.repeated request number).trace =
    session.trace ++ round session.client request (session.pauseBefore number) := by
  simp only [repeated, sleep_trace, report_trace, attempted_trace, pauseBefore_attempted, round,
    List.append_assoc, List.cons_append, List.nil_append]

@[simp] theorem requestsIn_repeated :
    requestsIn (session.repeated request number).trace =
      requestsIn session.trace ++ [request] := by
  simp only [repeated_trace, round, requestsIn_append, requestsIn_announcement, List.nil_append]
  rfl

@[simp] theorem pausesIn_repeated :
    pausesIn (session.repeated request number).trace =
      pausesIn session.trace ++ [session.pauseBefore number] := by
  simp only [repeated_trace, round, pausesIn_append, pausesIn_announcement, List.nil_append]
  rfl

/-- After a repetition the transport has been asked once more. -/
theorem nextOutcome_repeated (transport : Transport) (count : Nat) :
    nextOutcome transport request (session.repeated request number) count =
      nextOutcome transport request session (count + 1) := by
  simp only [nextOutcome, requestsIn_repeated, List.append_assoc, List.singleton_append,
    List.replicate_succ]

@[simp] theorem repeatedTimes_client (count : Nat) :
    (session.repeatedTimes request number count).client = session.client := by
  induction count generalizing number session with
  | zero => rfl
  | succ count ih => rw [repeatedTimes, ih, repeated_client]

/-- Repetitions send their request once each. -/
theorem requestsIn_repeatedTimes (count : Nat) :
    requestsIn (session.repeatedTimes request number count).trace =
      requestsIn session.trace ++ List.replicate count request := by
  induction count generalizing number session with
  | zero => simp only [repeatedTimes, List.replicate_zero, List.append_nil]
  | succ count ih =>
    rw [repeatedTimes, ih, requestsIn_repeated, List.append_assoc, List.singleton_append,
      List.replicate_succ]

theorem drawnPause_pausesIn : session.client.drawnPause number (pausesIn session.trace).length =
    session.pauseBefore number := rfl

/-- Repetitions leave one round each, with the pauses in ascending order of their numbers. -/
theorem repeatedTimes_trace (count : Nat) :
    (session.repeatedTimes request number count).trace =
      session.trace ++ (List.range count).flatMap fun i ↦
        round session.client request
          (session.client.drawnPause (number + i) ((pausesIn session.trace).length + i)) := by
  induction count generalizing number session with
  | zero => simp only [repeatedTimes, List.range_zero, List.flatMap_nil, List.append_nil]
  | succ count ih =>
    rw [repeatedTimes, ih, repeated_client, repeated_trace, List.range_succ_eq_map,
      List.flatMap_cons, List.flatMap_map, List.append_assoc]
    simp only [← repeated_trace, pausesIn_repeated, List.length_append, List.length_singleton,
      Nat.add_zero, Nat.add_assoc, Nat.add_comm 1, drawnPause_pausesIn, Nat.succ_eq_add_one]

theorem wireIn_round (client : Client) (pause : Duration) :
    wireIn (round client request pause) = [.sent request, .slept pause] := by
  rw [round, wireIn_append, wireIn_announcement]
  rfl

/-- On the wire, repetitions are requests with a pause behind each. -/
theorem wireIn_repeatedTimes (count : Nat) :
    wireIn (session.repeatedTimes request number count).trace =
      wireIn session.trace ++ (List.range count).flatMap fun i ↦
        [.sent request, .slept (session.client.drawnPause (number + i)
          ((pausesIn session.trace).length + i))] := by
  rw [repeatedTimes_trace, wireIn_append]
  refine congrArg (wireIn session.trace ++ ·) ?_
  rw [wireIn, List.filter_flatMap]
  exact congrArg (List.flatMap · (List.range count))
    (funext fun i ↦ wireIn_round request session.client _)

end Repetition

/-! ### The exchange as a whole -/

section Exchange

variable {α : Type} (transport : Transport) (request : Request)
  (intercept : Response → Option α)

/-- The verdict on what the transport answers after the request was sent so many times. -/
def nextVerdict (session : Session) (count : Nat) : Verdict α :=
  session.client.judge request.url intercept (nextOutcome transport request session count)

/-- The end of an exchange: one attempt, and what its verdict means. -/
def settle (session : Session) : Except ServiceError (Answer α) × Session :=
  let verdict := nextVerdict transport request intercept session 0
  (verdict.conclusion, (session.attempted request).reportAll verdict.closing)

theorem attempt_eq_nextVerdict (session : Session) :
    attempt transport request intercept session =
      (nextVerdict transport request intercept session 0, session.attempted request) := by
  rw [attempt_eq, nextVerdict, nextOutcome, List.replicate_zero, List.append_nil]

/-- Without repetitions left an exchange is one attempt. -/
theorem exchange_zero (number : Nat) (session : Session) :
    exchange transport request intercept number 0 session =
      settle transport request intercept session := by
  rw [exchange, attempt_eq_nextVerdict, settle]
  cases nextVerdict transport request intercept session 0 <;>
    simp [Verdict.conclusion, Verdict.closing, fail]

/-- An exchange ends with the first attempt that must not be repeated. -/
theorem exchange_of_final (number left : Nat) (session : Session)
    (hfinal : (nextVerdict transport request intercept session 0).isRetryable = false) :
    exchange transport request intercept number left session =
      settle transport request intercept session := by
  cases left with
  | zero => exact exchange_zero transport request intercept number session
  | succ left =>
    rw [exchange, attempt_eq_nextVerdict, settle]
    cases hverdict : nextVerdict transport request intercept session 0 with
    | retryable error => simp [hverdict, Verdict.isRetryable] at hfinal
    | _ => simp [Verdict.conclusion, Verdict.closing, fail]

/-- An exchange goes on after an attempt that may be repeated. -/
theorem exchange_of_retryable (number left : Nat) (session : Session)
    (hretryable : (nextVerdict transport request intercept session 0).isRetryable = true) :
    exchange transport request intercept number (left + 1) session =
      exchange transport request intercept (number + 1) left
        (session.repeated request number) := by
  rw [exchange, attempt_eq_nextVerdict]
  cases hverdict : nextVerdict transport request intercept session 0 with
  | retryable error => rfl
  | _ => simp [hverdict, Verdict.isRetryable] at hretryable

theorem nextVerdict_repeated (number : Nat) (session : Session) (count : Nat) :
    nextVerdict transport request intercept (session.repeated request number) count =
      nextVerdict transport request intercept session (count + 1) := by
  simp only [nextVerdict, repeated_client, nextOutcome_repeated]

/-- The verdict on the next attempt after so many repetitions. -/
theorem nextVerdict_repeatedTimes (number count : Nat) (session : Session) :
    nextVerdict transport request intercept (session.repeatedTimes request number count) 0 =
      nextVerdict transport request intercept session count := by
  simp only [nextVerdict, nextOutcome, repeatedTimes_client, requestsIn_repeatedTimes,
    List.replicate_zero, List.append_nil]

/-- The course of an exchange. Assumes: a count of rounds at which repeating on the verdicts stops.
The exchange makes so many repetitions and ends with one more attempt. -/
theorem exchange_eq (number left count : Nat) (session : Session)
    (hstops : StopsAt (fun i ↦ (nextVerdict transport request intercept session i).isRetryable)
      left count) :
    exchange transport request intercept number left session =
      settle transport request intercept (session.repeatedTimes request number count) := by
  induction count generalizing number left session with
  | zero =>
    cases left with
    | zero => exact exchange_zero transport request intercept number session
    | succ left =>
      exact exchange_of_final transport request intercept number (left + 1) session
        (hstops.atEnd (Nat.succ_pos left))
  | succ count ih =>
    have hwithin := hstops.within
    obtain ⟨left, rfl⟩ : ∃ rest, left = rest + 1 := ⟨left - 1, by omega⟩
    rw [exchange_of_retryable transport request intercept number left session
      (hstops.before 0 (Nat.succ_pos count)), repeatedTimes]
    refine ih (number + 1) left (session.repeated request number) ?_
    simp only [nextVerdict_repeated]
    exact hstops.tail

end Exchange

end Session

end ResourceLookup
