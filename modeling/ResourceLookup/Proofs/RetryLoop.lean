import ResourceLookup.Proofs.NetworkCall

/-!
# How often a call is repeated

A call whose headers can be built sends its request once more for every outcome that may be retried,
up to the configured number of repetitions, with the configured pauses between its requests and
none behind the last, and answers to the last outcome alone. `NetworkCall.perform_repeats` says this
for every call, transport and configuration: an outcome at which repeating stops need not be
reached.
-/

set_option autoImplicit false
set_option relaxedAutoImplicit false

namespace ResourceLookup.NetworkCall

open Session

/-- Repetitions of a call. Assumes: a transport, a target that is admitted, headers that can be
built, `first` outcomes that may be retried, and behind them one that is final, unless no repetition
is left by then. The call sends the same request once more than it repeats it, makes the configured
pauses in ascending order of their numbers, one between each two requests, and returns what its last
outcome says. -/
theorem perform_repeats (call : NetworkCall) (session loaded : Session) (transport : Transport)
    (url : String) (headers : HeaderMap) (first : Nat)
    (htransport : session.client.transport = some transport)
    (htarget : call.target session.client = .ok url)
    (hheaders : session.ensureHeaders = (.ok headers, loaded))
    (hretryable : ∀ i < first, call.isRetryable session.client
      (nextOutcome transport ⟨call.method, url, headers⟩ session i) = true)
    (hfinal : first < session.client.settings.retry.retries → call.isRetryable session.client
      (nextOutcome transport ⟨call.method, url, headers⟩ session first) = false) :
    let client := session.client
    let request : Request := ⟨call.method, url, headers⟩
    let repetitions := min first client.settings.retry.retries
    let pause := fun i ↦
      client.settings.retry.backoff.pause i (client.jitter ((pausesIn session.trace).length + i))
    let (result, after) := call.perform session
    requestsIn after.trace =
        requestsIn session.trace ++ List.replicate (repetitions + 1) request ∧
      pausesIn after.trace = pausesIn session.trace ++ (List.range repetitions).map pause ∧
      wireIn after.trace = wireIn session.trace ++
        ((List.range repetitions).flatMap fun i ↦ [.sent request, .slept (pause i)]) ++
        [.sent request] ∧
      result = call.answerTo client url (nextOutcome transport request session repetitions) := by
  have hloading := loading_of_eq hheaders
  have houtcome : ∀ i, nextOutcome transport ⟨call.method, url, headers⟩ loaded i =
      nextOutcome transport ⟨call.method, url, headers⟩ session i := by
    intro i
    rw [nextOutcome, nextOutcome, hloading.requestsIn]
  have hstops : StopsAt
      (fun i ↦ call.isRetryable session.client
        (nextOutcome transport ⟨call.method, url, headers⟩ loaded i))
      session.client.settings.retry.retries
      (min first session.client.settings.retry.retries) := by
    simp only [houtcome]
    exact StopsAt.min_of_first hretryable hfinal
  have hpause : ∀ i drawn, loaded.client.drawnPause i drawn =
      session.client.settings.retry.backoff.pause i (session.client.jitter drawn) := by
    intro i drawn
    rw [Client.drawnPause, hloading.sameSetup.settings, hloading.sameSetup.jitter]
  rw [call.perform_of_loaded htransport htarget hheaders hstops]
  refine ⟨?_, ?_, ?_, ?_⟩
  · rw [requestsIn_ended, hloading.requestsIn]
  · simp only [pausesIn_ended, hloading.pausesIn, hpause]
  · simp only [wireIn_ended, hloading.wireIn, hloading.pausesIn, hpause]
  · rw [houtcome]

/-- A remote that does not answer in time, then is overloaded, and then knows no such product. -/
def reluctantRemote : Transport :=
  Transport.inTurn
    [.error (.timeout (Duration.ofSeconds 30)), .ok ⟨some .serviceUnavailable, Document.empty⟩,
      .ok ⟨StatusCode.ofNat? 404, Document.ofErrors [ErrorObject.ofDetail "no such product"]⟩]
    (.ok ⟨StatusCode.ofNat? 200, Document.empty⟩)

theorem perform_repeats_twice :
    let (result, after) := (NetworkCall.get "/v1/products/7").perform (plainSession reluctantRemote)
    requestsIn after.trace =
        List.replicate 3 ⟨.get, "https://products.example/v1/products/7", plainHeaders⟩ ∧
      (pausesIn after.trace).length = 2 ∧
      result = .error (.service ⟨"products", "https://products.example/v1/products/7",
        ⟨404, by decide⟩, ["no such product"], false, none, none⟩) := by
  have hretryable : ∀ i < 2, (NetworkCall.get "/v1/products/7").isRetryable
      (plainSession reluctantRemote).client (nextOutcome reluctantRemote
        ⟨.get, "https://products.example/v1/products/7", plainHeaders⟩
        (plainSession reluctantRemote) i) = true
    | 0, _ => rfl
    | 1, _ => rfl
  obtain ⟨hrequests, hpauses, -, hresult⟩ := perform_repeats (.get "/v1/products/7")
    (plainSession reluctantRemote) (plainSession reluctantRemote).ensureHeaders.2 reluctantRemote
    "https://products.example/v1/products/7" plainHeaders 2 rfl rfl rfl hretryable (fun _ ↦ rfl)
  exact ⟨hrequests, (congrArg List.length hpauses).trans rfl, hresult.trans rfl⟩

end ResourceLookup.NetworkCall
