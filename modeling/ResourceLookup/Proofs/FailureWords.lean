import ResourceLookup.Proofs.NetworkCall

/-!
# The words that tell a failure

Where the remote was not reached there is no status, and the category of the failure is looked for
in words (`categoryOfWords`). What is searched is one text: the name of the service, the address of
the request and the story of the failure with its causes, with fixed words around them. No marker
can stand across two of these parts (`infix_searched_iff`), so that the category is what the address
tells or what the failure tells, whichever comes first in the order of the categories
(`Client.classify_transportFailure`).

A timeout is told as one at every address (`categoryOfWords_timeout`). Any other failure may be told
as something else at an address that has a marker in it, and
`NetworkCall.perform_category_agrees_iff` says of two calls when they tell one failure alike.
-/

set_option autoImplicit false
set_option relaxedAutoImplicit false

namespace ResourceLookup

open Session

namespace FailureCategory

/-- The one of two categories that comes first in the order of `all`. -/
def earlier (first second : FailureCategory) : FailureCategory :=
  if first.rank ≤ second.rank then first else second

theorem rank_earlier (first second : FailureCategory) :
    (first.earlier second).rank = min first.rank second.rank := by
  rw [earlier]
  split
  · exact (Nat.min_eq_left ‹_›).symm
  · exact (Nat.min_eq_right (Nat.le_of_not_le ‹_›)).symm

theorem rank_inj {first second : FailureCategory} : first.rank = second.rank ↔ first = second := by
  have hplace : ∀ category : FailureCategory, all[category.rank]? = some category := by
    intro category
    cases category <;> rfl
  constructor
  · intro hrank
    exact Option.some.inj ((hplace first).symm.trans (hrank ▸ hplace second))
  · exact congrArg rank

theorem earlier_of_rank_le {first second : FailureCategory} (hrank : second.rank ≤ first.rank) :
    first.earlier second = second := by
  rw [← rank_inj, rank_earlier]
  exact Nat.min_eq_right hrank

/-- Next to a third category, two come to the same exactly if they are the same or neither comes
before it. -/
theorem earlier_eq_earlier_iff (first second third : FailureCategory) :
    first.earlier third = second.earlier third ↔
      first = second ∨ (third.rank ≤ first.rank ∧ third.rank ≤ second.rank) := by
  rw [← rank_inj, ← rank_inj, rank_earlier, rank_earlier]
  omega

end FailureCategory

/-! ### What words tell -/

/-- The words that tell a failure. -/
def failureMarkers : List String :=
  timeoutMarkers ++ connectionMarkers

/-- The category that the words of a text tell. -/
def categoryOfWords (text : String) : FailureCategory :=
  let folded := Text.foldForSearch text.toList
  if mentions timeoutMarkers folded then .timeout
  else if mentions connectionMarkers folded then .connectionError
  else .unknown

/-- Without a status, the category of a failure is what its type and its message tell. -/
theorem classify_of_httpStatus_eq_none {failure : FailureReport}
    (hstatus : failure.httpStatus = none) :
    classify failure = categoryOfWords (failure.errorType ++ " " ++ failure.message) := by
  rw [classify, hstatus]
  rfl

theorem mentions_iff {markers : List String} {text : List Char} :
    mentions markers text = true ↔ ∃ marker ∈ markers, marker.toList <:+: text := by
  simp only [mentions, List.any_eq_true, Text.occursIn_iff_isInfix]

/-- A whole tells what its parts tell. Assumes: the markers in it are those in the parts. -/
theorem categoryOfWords_eq_earlier {first second whole : String}
    (hparts : ∀ marker ∈ failureMarkers,
      marker.toList <:+: Text.foldForSearch whole.toList ↔
        marker.toList <:+: Text.foldForSearch first.toList ∨
          marker.toList <:+: Text.foldForSearch second.toList) :
    categoryOfWords whole = (categoryOfWords first).earlier (categoryOfWords second) := by
  have hmentions : ∀ markers, markers ⊆ failureMarkers →
      mentions markers (Text.foldForSearch whole.toList) =
        (mentions markers (Text.foldForSearch first.toList) ||
          mentions markers (Text.foldForSearch second.toList)) := by
    intro markers hmarkers
    rw [Bool.eq_iff_iff, Bool.or_eq_true, mentions_iff, mentions_iff, mentions_iff, ← exists_or]
    refine exists_congr fun marker ↦ ?_
    rw [← and_or_left]
    exact and_congr_right fun hmem ↦ hparts marker (hmarkers hmem)
  simp only [categoryOfWords]
  rw [hmentions timeoutMarkers (List.subset_append_left _ _),
    hmentions connectionMarkers (List.subset_append_right _ _)]
  cases mentions timeoutMarkers (Text.foldForSearch first.toList) <;>
  cases mentions timeoutMarkers (Text.foldForSearch second.toList) <;>
  cases mentions connectionMarkers (Text.foldForSearch first.toList) <;>
  cases mentions connectionMarkers (Text.foldForSearch second.toList) <;> rfl

/-! ### The text that is searched -/

section Searching

variable {marker : String}

/-- No marker has the mark that stands between the texts of a chain, or a digit of the status that
is reported. -/
theorem not_mem_of_failureMarkers :
    ∀ marker ∈ failureMarkers, ':' ∉ marker.toList ∧ '5' ∉ marker.toList := by
  decide +kernel

/-- No marker begins in the fixed words in front of a part of the searched text. -/
theorem clear_of_lead :
    ∀ marker ∈ failureMarkers, ∀ lead ∈ ["transporterror ", "03: ", " "],
      ¬ marker.toList <:+: lead.toList ∧
        ∀ i < marker.toList.length, ¬ marker.toList.take (i + 1) <:+ lead.toList := by
  decide +kernel

/-- No marker ends in the fixed words behind the address. -/
theorem clear_of_verdict :
    ∀ marker ∈ failureMarkers, ¬ marker.toList <:+: " failed with http ".toList ∧
      ∀ i < marker.toList.length, ¬ marker.toList.drop i <+: " failed with http ".toList := by
  decide +kernel

/-- What is found behind fixed words in front of a part is found in the part. -/
theorem infix_lead_append_iff (hmarker : marker ∈ failureMarkers) {lead : String}
    (hlead : lead ∈ ["transporterror ", "03: ", " "]) (text : List Char) :
    marker.toList <:+: lead.toList ++ text ↔ marker.toList <:+: text := by
  obtain ⟨habsent, hclear⟩ := clear_of_lead marker hmarker lead hlead
  exact Text.infix_append_left_iff habsent hclear text

/-- A text that is told twice, the second time with more behind it, tells what it tells then. -/
theorem infix_twice_iff (hmarker : marker ∈ failureMarkers) {text whole : List Char}
    (hstarts : text <+: whole) :
    marker.toList <:+: text ++ ':' :: (" ".toList ++ whole) ↔ marker.toList <:+: whole := by
  rw [Text.infix_append_cons_iff (not_mem_of_failureMarkers marker hmarker).1,
    infix_lead_append_iff hmarker (by simp)]
  exact or_iff_right_of_imp fun htext ↦ htext.trans hstarts.isInfix

/-- In the searched text, a marker is found in the address or in the story of the failure. -/
theorem infix_searched_iff (hmarker : marker ∈ failureMarkers) {address message story : List Char}
    (hstarts : message <+: story) :
    marker.toList <:+: "transporterror ".toList ++ (address ++ (" failed with http ".toList ++
        '5' :: ("03: ".toList ++ (message ++ ':' :: (" ".toList ++ story))))) ↔
      marker.toList <:+: address ∨ marker.toList <:+: story := by
  obtain ⟨habsent, hclear⟩ := clear_of_verdict marker hmarker
  rw [infix_lead_append_iff hmarker (by simp), ← List.append_assoc,
    Text.infix_append_cons_iff (not_mem_of_failureMarkers marker hmarker).2,
    Text.infix_append_right_iff habsent hclear, infix_lead_append_iff hmarker (by simp),
    infix_twice_iff hmarker hstarts]

end Searching

/-- A chain begins with the text of the error. -/
theorem CauseChain.text_prefix_joined (chain : CauseChain) :
    chain.text.toList <+: chain.joined.toList := by
  rw [joined]
  cases chain.causes with
  | nil => simp only [String.intercalate_singleton, List.prefix_rfl]
  | cons cause causes =>
    rw [String.intercalate_cons_cons, String.toList_append, String.toList_append,
      List.append_assoc]
    exact List.prefix_append _ _

namespace Client

variable (client : Client) (url : String) (failure : TransportError)

/-- What stands in front of the story of a failure: the name of the service and the address of the
request. -/
def addressWords : String :=
  client.service ++ " " ++ url

/-- The report of a failure to reach the remote tells the address, the made-up status and the
failure with its causes. -/
theorem transportFailure_message :
    (client.transportFailure url failure).report.message =
      client.addressWords url ++ " failed with HTTP 503: " ++ failure.message ++ ": " ++
        failure.chain.joined := by
  have hmessage : (client.transportFailure url failure).message =
      client.addressWords url ++ " failed with HTTP " ++ "503" ++ (": " ++ failure.message) := by
    have hcode : (client.transportFailure url failure).status.code = 503 := rfl
    have hdigits : toString 503 = "503" := rfl
    have hdetails : (client.transportFailure url failure).details = [failure.message] := rfl
    rw [ServiceError.message, hcode, hdigits, hdetails, String.intercalate_singleton]
    rfl
  have hverdict : " failed with HTTP 503: " = " failed with HTTP " ++ "503" ++ ": " := by decide
  show String.intercalate ": " ((client.transportFailure url failure).message ::
    failure.chain.text :: failure.chain.causes) = _
  rw [String.intercalate_cons_cons, hmessage, hverdict]
  simp only [String.append_assoc]
  rfl

/-- What is searched is the address and the story of the failure, with the fixed words around them
in lower case. -/
theorem foldForSearch_transportFailure :
    Text.foldForSearch ("TransportError" ++ " " ++
        (client.transportFailure url failure).report.message).toList =
      "transporterror ".toList ++ (Text.foldForSearch (client.addressWords url).toList ++
        (" failed with http ".toList ++ '5' :: ("03: ".toList ++
          (Text.foldForSearch failure.message.toList ++ ':' :: (" ".toList ++
            Text.foldForSearch failure.chain.joined.toList))))) := by
  have hlead : Text.foldForSearch ("TransportError" ++ " ").toList = "transporterror ".toList := by
    decide
  have hverdict : Text.foldForSearch " failed with HTTP 503: ".toList =
      " failed with http ".toList ++ '5' :: "03: ".toList := by decide
  have hmark : Text.foldForSearch ": ".toList = ':' :: " ".toList := by decide
  rw [transportFailure_message, String.toList_append, Text.foldForSearch_append, hlead]
  simp only [String.toList_append, Text.foldForSearch_append, hverdict, hmark, List.append_assoc,
    List.cons_append]

/-- The category of a failure to reach the remote is what the address tells or what the failure
tells, whichever comes first. -/
theorem classify_transportFailure :
    classify (client.transportFailure url failure).report =
      (categoryOfWords (client.addressWords url)).earlier
        (categoryOfWords failure.chain.joined) := by
  rw [classify_of_httpStatus_eq_none rfl]
  refine categoryOfWords_eq_earlier fun marker hmarker ↦ ?_
  have hstarts : Text.foldForSearch failure.message.toList <+:
      Text.foldForSearch failure.chain.joined.toList := failure.chain.text_prefix_joined.map _
  rw [← infix_searched_iff hmarker hstarts, ← client.foldForSearch_transportFailure url failure]
  rfl

end Client

/-! ### Failures of calls -/

/-- The words of a text tell a timeout, a connection failure or nothing. -/
theorem rank_timeout_le_categoryOfWords (text : String) :
    FailureCategory.timeout.rank ≤ (categoryOfWords text).rank := by
  simp only [categoryOfWords]
  split
  · exact Nat.le_refl _
  · split <;> decide

/-- A timeout is told as one. -/
theorem categoryOfWords_timeout (limit : Duration) :
    categoryOfWords (TransportError.timeout limit).chain.joined = .timeout := by
  have hstarts : "request timed out after ".toList <+:
      (TransportError.timeout limit).chain.joined.toList := by
    refine List.IsPrefix.trans ?_ (TransportError.timeout limit).chain.text_prefix_joined
    show _ <+: ("request timed out after " ++ toString limit.millis ++ "ms").toList
    rw [String.toList_append, String.toList_append, List.append_assoc]
    exact List.prefix_append _ _
  have hword : "timed out".toList <:+: Text.foldForSearch "request timed out after ".toList := by
    decide +kernel
  have hmentions : mentions timeoutMarkers
      (Text.foldForSearch (TransportError.timeout limit).chain.joined.toList) = true :=
    mentions_iff.mpr ⟨"timed out", by decide, hword.trans (hstarts.map _).isInfix⟩
  rw [categoryOfWords, if_pos hmentions]

/-- An address adds nothing to a failure: it tells nothing that comes before what the failure tells
itself. -/
def Client.AddsNothing (client : Client) (url : String) (failure : TransportError) : Prop :=
  (categoryOfWords failure.chain.joined).rank ≤ (categoryOfWords (client.addressWords url)).rank

/-- An address without markers adds nothing to any failure. -/
theorem Client.addsNothing_of_unknown {client : Client} {url : String}
    (hunknown : categoryOfWords (client.addressWords url) = .unknown) (failure : TransportError) :
    client.AddsNothing url failure := by
  rw [AddsNothing, hunknown]
  cases categoryOfWords failure.chain.joined <;> decide

namespace NetworkCall

variable {call call' : NetworkCall} {session session' : Session} {failure : TransportError}

/-- A call that did not reach the remote to the last fails with the error of that failure. -/
theorem perform_of_unreached (hunreached : failure.isUnreached = true)
    (hlast : call.LastConsumed session (.error failure)) :
    ∃ url, call.target session.client = .ok url ∧
      (call.perform session).1 =
        .error (.service (session.client.transportFailure url failure)) := by
  obtain ⟨url, htarget, hanswer⟩ := call.answer_at_target_of_lastConsumed hlast
  refine ⟨url, htarget, hanswer.trans ?_⟩
  cases failure with
  | timeout limit => rfl
  | connect cause => rfl
  | io cause => rfl
  | malformed status cause => cases hunreached
  | bodyTooLarge status limit => cases hunreached
  | invalidUri bad reason => cases hunreached

/-- Two calls that end in the same failure to reach the remote, from two clients and at two
addresses: the category of the error is what the address tells or what the failure tells, whichever
comes first. So the two get one category exactly if their addresses tell the same, or neither
address adds anything; and a timeout is told as one by both. -/
theorem perform_category_agrees_iff (hunreached : failure.isUnreached = true)
    (hlast : call.LastConsumed session (.error failure))
    (hlast' : call'.LastConsumed session' (.error failure)) :
    ∃ url url' error error',
      call.target session.client = .ok url ∧ call'.target session'.client = .ok url' ∧
      (call.perform session).1 = .error (.service error) ∧
      (call'.perform session').1 = .error (.service error') ∧
      classify error.report = (categoryOfWords (session.client.addressWords url)).earlier
        (categoryOfWords failure.chain.joined) ∧
      classify error'.report = (categoryOfWords (session'.client.addressWords url')).earlier
        (categoryOfWords failure.chain.joined) ∧
      (classify error.report = classify error'.report ↔
        categoryOfWords (session.client.addressWords url) =
            categoryOfWords (session'.client.addressWords url') ∨
          (session.client.AddsNothing url failure ∧
            session'.client.AddsNothing url' failure)) ∧
      ∀ limit, failure = .timeout limit →
        classify error.report = .timeout ∧ classify error'.report = .timeout := by
  obtain ⟨url, htarget, hfailed⟩ := perform_of_unreached hunreached hlast
  obtain ⟨url', htarget', hfailed'⟩ := perform_of_unreached hunreached hlast'
  have hcategory := session.client.classify_transportFailure url failure
  have hcategory' := session'.client.classify_transportFailure url' failure
  refine ⟨url, url', _, _, htarget, htarget', hfailed, hfailed', hcategory, hcategory', ?_, ?_⟩
  · rw [hcategory, hcategory']
    exact FailureCategory.earlier_eq_earlier_iff _ _ _
  · rintro limit rfl
    rw [hcategory, hcategory', categoryOfWords_timeout]
    exact ⟨FailureCategory.earlier_of_rank_le (rank_timeout_le_categoryOfWords _),
      FailureCategory.earlier_of_rank_le (rank_timeout_le_categoryOfWords _)⟩

/-- A connection that could not be made. -/
def noConnection : TransportError :=
  .connect ⟨"tcp connect error", []⟩

/-- A remote to which no connection can be made. -/
def closedRemote : Transport :=
  fun _ _ ↦ .error noConnection

/-- A client of another service behind the same transport. -/
def ordersSession (transport : Transport) : Session :=
  Session.start { plainClient transport with
    service := "orders"
    baseUri := "https://orders.example" }

theorem perform_category_agrees_iff_orders :
    ∃ error error',
      ((NetworkCall.get "/v1/products").perform (plainSession closedRemote)).1 =
        .error (.service error) ∧
      ((NetworkCall.post "/v1/orders" (.object [])).perform (ordersSession closedRemote)).1 =
        .error (.service error') ∧
      classify error.report = classify error'.report := by
  have hlast : (NetworkCall.get "/v1/products").LastConsumed (plainSession closedRemote)
      (.error noConnection) := ⟨by decide, closedRemote, rfl, rfl⟩
  have hlast' : (NetworkCall.post "/v1/orders" (.object [])).LastConsumed
      (ordersSession closedRemote) (.error noConnection) := ⟨by decide, closedRemote, rfl, rfl⟩
  obtain ⟨url, url', error, error', htarget, htarget', hfailed, hfailed', -, -, hagree, -⟩ :=
    perform_category_agrees_iff rfl hlast hlast'
  obtain rfl : "https://products.example/v1/products" = url := Except.ok.inj htarget
  obtain rfl : "https://orders.example/v1/orders" = url' := Except.ok.inj htarget'
  exact ⟨error, error', hfailed, hfailed', hagree.mpr
    (.inr ⟨Client.addsNothing_of_unknown (by decide +kernel) _,
      Client.addsNothing_of_unknown (by decide +kernel) _⟩)⟩

/-- Two calls that end in one failure to connect, of which one is told as a timeout, since its
address has the word in it. -/
theorem perform_category_differs :
    ∃ error error',
      ((NetworkCall.get "/v1/products").perform (plainSession closedRemote)).1 =
        .error (.service error) ∧
      ((NetworkCall.get "/v1/timeouts").perform (plainSession closedRemote)).1 =
        .error (.service error') ∧
      classify error.report = .connectionError ∧ classify error'.report = .timeout := by
  have hown : categoryOfWords noConnection.chain.joined = .connectionError := by decide +kernel
  refine ⟨(plainClient closedRemote).transportFailure "https://products.example/v1/products"
      noConnection,
    (plainClient closedRemote).transportFailure "https://products.example/v1/timeouts"
      noConnection, rfl, rfl, ?_, ?_⟩
  · have haddress : categoryOfWords ((plainClient closedRemote).addressWords
        "https://products.example/v1/products") = .unknown := by decide +kernel
    rw [Client.classify_transportFailure, haddress, hown]
    rfl
  · have haddress : categoryOfWords ((plainClient closedRemote).addressWords
        "https://products.example/v1/timeouts") = .timeout := by decide +kernel
    rw [Client.classify_transportFailure, haddress, hown]
    rfl

end NetworkCall

end ResourceLookup
