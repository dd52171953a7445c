import ResourceLookup.Proofs.Operations
import ResourceLookup.Proofs.QueryStrings

/-!
# Calls with parameters

Names and values are sent in the address of a GET request or in the body of a POST request.

In an address they are behind what the caller's path already asks for, all of them and in order, and
the address keeps to the limit of the settings (`Session.fetchByQuery_carries_pairs`): a path is
short enough if it leaves an octet of the limit beside the base address, and that is the one that
the slash between the two takes (`Client.utf8ByteSize_urlFor_le`).

A body is an object, which has a name once. Of several values that are given for one name it has the
last (`Session.fetchByQuery_posts_last`), and the others are lost
(`Session.fetchByQuery_posts_repeated`).
-/

set_option autoImplicit false
set_option relaxedAutoImplicit false

namespace ResourceLookup

open Session

/-! ### The length of addresses -/

theorem Text.utf8ByteSize_trimStart_le (mark : Char) (text : String) :
    (trimStart mark text).utf8ByteSize ≤ text.utf8ByteSize := by
  have hparts : octets text = (text.toList.takeWhile (· == mark)).flatMap String.utf8EncodeChar ++
      octets (trimStart mark text) := by
    rw [trimStart, octets_ofList, ← List.flatMap_append, List.takeWhile_append_dropWhile, octets_eq]
  rw [← length_octets, ← length_octets, hparts, List.length_append]
  exact Nat.le_add_left _ _

/-- The address of a path that is short enough keeps to the limit of the settings. -/
theorem Client.utf8ByteSize_urlFor_le {client : Client} {path : String}
    (hfits : client.fitsUrl path = true) :
    (client.urlFor path).utf8ByteSize ≤ client.settings.maxUrlLength := by
  have hshort : path.utf8ByteSize < client.settings.maxUrlLength - client.baseUri.utf8ByteSize :=
    of_decide_eq_true hfits
  rw [urlFor]
  split
  · omega
  · have hslash : "/".utf8ByteSize = 1 := rfl
    have htrimmed := Text.utf8ByteSize_trimStart_le '/' path
    rw [String.utf8ByteSize_append, String.utf8ByteSize_append, hslash]
    omega

/-! ### Parameters in an address -/

/-- What a call sends behind a few reports has its method, and goes to its target. -/
theorem NetworkCall.exists_sent (call : NetworkCall) (session : Session) (events : List Event) :
    ∃ sent, requestsIn (call.perform (session.reportAll events)).2.trace =
        requestsIn session.trace ++ sent ∧
      ∀ request ∈ sent, request.call = call.method ∧
        call.target session.client = .ok request.url := by
  have hbefore : requestsIn (session.reportAll events).trace = requestsIn session.trace := by
    rw [reportAll_trace, requestsIn_append, requestsIn_map_event, List.append_nil]
  rcases call.requestsIn_perform (session.reportAll events) with
    hnothing | ⟨url, headers, count, htarget, hsent⟩
  · exact ⟨[], by rw [hnothing, hbefore, List.append_nil], nofun⟩
  · rw [hbefore] at hsent
    refine ⟨_, hsent, fun request hrequest ↦ ?_⟩
    obtain rfl := List.eq_of_mem_replicate hrequest
    exact ⟨rfl, htarget⟩

/-- A target that is admitted is the address of the path. -/
theorem Client.eq_urlFor_of_scopedUrl {client : Client} {path url : String}
    (hscoped : client.scopedUrl path = .ok url) : url = client.urlFor path := by
  rw [scopedUrl] at hscoped
  split at hscoped
  · cases hscoped
  · exact (Except.ok.inj hscoped).symm

namespace Session

/-- Names and values are sent by GET requests or, where a GET request is not allowed, by POST
requests, never by both. The path of a GET request is safe and asks for what the caller's path asks
for, followed by the names and values in their order and number; and its address keeps to the limit
of the settings. -/
theorem fetchByQuery_carries_pairs (path : String) (pairs : List (String × String))
    (session : Session) :
    ∃ (call : NetworkCall) (events : List Event) (sent : List Request),
      session.fetchByQuery path (.ofTexts pairs) = call.perform (session.reportAll events) ∧
      requestsIn (session.fetchByQuery path (.ofTexts pairs)).2.trace =
        requestsIn session.trace ++ sent ∧
      ((∃ target, call = .get target ∧ isSafePath target = true ∧
          Form.decodeQuery (Form.queryPart target) =
            Form.decodeQuery (Form.queryPart path) ++ pairs ∧
          ∀ request ∈ sent, request.call = .get ∧
            request.url.utf8ByteSize ≤ session.client.settings.maxUrlLength) ∨
        session.client.allowsGet (withQuery path (Form.queryOfPairs pairs)) = false ∧
          ∃ body, call = .post path body ∧ ∀ request ∈ sent, request.call = .post body) := by
  have hquery := Form.encodeQuery_ofTexts pairs
  cases hallows : session.client.allowsGet (withQuery path (Form.queryOfPairs pairs)) with
  | true =>
    obtain ⟨events, hperform⟩ := Operation.fetchByQuery_of_allowsGet hquery hallows
    obtain ⟨sent, hsent, hrequests⟩ := NetworkCall.exists_sent _ session events
    rw [← hperform] at hsent
    rw [Client.allowsGet, Bool.and_eq_true] at hallows
    refine ⟨_, events, sent, hperform, hsent, .inl ⟨_, rfl, hallows.1,
      Form.decodeQuery_queryPart_withQuery path pairs, fun request hrequest ↦ ?_⟩⟩
    obtain ⟨hmethod, htarget⟩ := hrequests request hrequest
    rw [Client.eq_urlFor_of_scopedUrl htarget]
    exact ⟨hmethod, Client.utf8ByteSize_urlFor_le hallows.2⟩
  | false =>
    obtain ⟨events, hperform⟩ := Operation.fetchByQuery_of_not_allowsGet hquery hallows
    obtain ⟨sent, hsent, hrequests⟩ := NetworkCall.exists_sent _ session events
    rw [← hperform] at hsent
    exact ⟨_, events, sent, hperform, hsent,
      .inr ⟨rfl, _, rfl, fun request hrequest ↦ (hrequests request hrequest).1⟩⟩

end Session

/-! ### Parameters in a body -/

namespace Form

variable {pairs : List (String × String)} {name text : String}

/-- A text is given with a name, and no later one is. -/
def IsLast (pairs : List (String × String)) (name text : String) : Prop :=
  ∃ before behind, pairs = before ++ (name, text) :: behind ∧ name ∉ behind.map Prod.fst

theorem IsLast.mem (hlast : IsLast pairs name text) : (name, text) ∈ pairs := by
  obtain ⟨before, behind, rfl, -⟩ := hlast
  exact List.mem_append_right before List.mem_cons_self

/-- Of the texts that are given with a name one is the last. -/
theorem exists_isLast (hname : name ∈ pairs.map Prod.fst) : ∃ text, IsLast pairs name text := by
  induction pairs with
  | nil => cases hname
  | cons pair rest ih =>
    by_cases hrest : name ∈ rest.map Prod.fst
    · obtain ⟨text, before, behind, rfl, hbehind⟩ := ih hrest
      exact ⟨text, pair :: before, behind, rfl, hbehind⟩
    · obtain rfl := (List.mem_cons.mp hname).resolve_right hrest
      exact ⟨pair.2, [], rest, rfl, hrest⟩

/-- Names and values as the members of a body. -/
def members (pairs : List (String × String)) : List (String × Json) :=
  Json.sortMembers (pairs.map fun (name, value) ↦ (name, .string value))

theorem queryBody_queryOfPairs (pairs : List (String × String)) :
    Session.queryBody (queryOfPairs pairs) = .object (members pairs) := by
  rw [Session.queryBody, decodeQuery_queryOfPairs]
  rfl

/-- What a body has under a name is the last text that is given with it. -/
theorem lookup_members_eq_some_iff {value : Json} :
    Json.lookup name (members pairs) = some value ↔
      ∃ text, value = .string text ∧ IsLast pairs name text := by
  -- The last pair of a name is the first one from behind.
  have hsplit : ∀ before behind : List (String × String), ∀ text,
      pairs.reverse = before ++ (name, text) :: behind ↔
        pairs = behind.reverse ++ (name, text) :: before.reverse := by
    intro before behind text
    rw [List.reverse_eq_iff, List.reverse_append, List.reverse_cons, List.append_assoc,
      List.singleton_append]
  rw [members, Json.lookup_sortMembers, Json.lookup_eq_some_iff, ← List.map_reverse]
  constructor
  · rintro ⟨before, behind, hmembers, hbefore⟩
    obtain ⟨before, rest, hpairs, rfl, hrest⟩ := List.map_eq_append_iff.mp hmembers
    obtain ⟨⟨key, text⟩, behind, rfl, hpair, rfl⟩ := List.map_eq_cons_iff.mp hrest
    obtain ⟨rfl, rfl⟩ := Prod.mk.inj hpair
    refine ⟨text, rfl, behind.reverse, before.reverse, (hsplit _ _ _).mp hpairs, ?_⟩
    rw [List.map_map] at hbefore
    rwa [List.map_reverse, List.mem_reverse]
  · rintro ⟨text, rfl, before, behind, hpairs, hbehind⟩
    rw [← List.reverse_reverse before, ← List.reverse_reverse behind] at hpairs
    refine ⟨_, _, by rw [(hsplit _ _ _).mpr hpairs, List.map_append, List.map_cons], ?_⟩
    rw [List.map_map]
    rwa [← List.mem_reverse, ← List.map_reverse] at hbehind

/-- Every pair can be read back from a body exactly if no name is given with two texts. -/
theorem lookup_members_of_mem_iff :
    (∀ pair ∈ pairs, Json.lookup pair.1 (members pairs) = some (.string pair.2)) ↔
      ∀ first ∈ pairs, ∀ second ∈ pairs, first.1 = second.1 → first.2 = second.2 := by
  constructor
  · intro hread first hfirst second hsecond hname
    have htext := (hread first hfirst).symm.trans (hname ▸ hread second hsecond)
    exact Json.string.inj (Option.some.inj htext)
  · intro hsame pair hpair
    obtain ⟨text, hlast⟩ := exists_isLast (List.mem_map_of_mem hpair)
    obtain rfl : text = pair.2 := hsame _ hlast.mem pair hpair rfl
    exact lookup_members_eq_some_iff.mpr ⟨_, rfl, hlast⟩

end Form

namespace Session

/-- Of the texts that are given with one name the last arrives. Assumes: the parameters are not
allowed in the address. They are sent as an object, which has each name once and under it the last
text that is given with it; every pair can be read back exactly if no name is given with two
texts. -/
theorem fetchByQuery_posts_last (path : String) (pairs : List (String × String))
    {session : Session}
    (hposts : session.client.allowsGet (withQuery path (Form.queryOfPairs pairs)) = false) :
    ∃ (members : List (String × Json)) (events : List Event) (sent : List Request),
      session.fetchByQuery path (.ofTexts pairs) =
        (NetworkCall.post path (.object members)).perform (session.reportAll events) ∧
      requestsIn (session.fetchByQuery path (.ofTexts pairs)).2.trace =
        requestsIn session.trace ++ sent ∧
      (∀ request ∈ sent, request.call = .post (.object members)) ∧
      members.Pairwise (fun first second ↦ first.1 < second.1) ∧
      (∀ name value, Json.lookup name members = some value ↔
        ∃ text, value = .string text ∧ Form.IsLast pairs name text) ∧
      ((∀ pair ∈ pairs, Json.lookup pair.1 members = some (.string pair.2)) ↔
        ∀ first ∈ pairs, ∀ second ∈ pairs, first.1 = second.1 → first.2 = second.2) := by
  obtain ⟨events, hperform⟩ :=
    Operation.fetchByQuery_of_not_allowsGet (Form.encodeQuery_ofTexts pairs) hposts
  rw [Form.queryBody_queryOfPairs] at hperform
  obtain ⟨sent, hsent, hrequests⟩ := NetworkCall.exists_sent _ session events
  rw [← hperform] at hsent
  exact ⟨_, events, sent, hperform, hsent, fun request hrequest ↦ (hrequests request hrequest).1,
    Json.pairwise_sortMembers _, fun _ _ ↦ Form.lookup_members_eq_some_iff,
    Form.lookup_members_of_mem_iff⟩

/-- A remote that answers every request with an empty document. -/
def quietRemote : Transport :=
  fun _ _ ↦ .ok ⟨StatusCode.ofNat? 200, Document.empty⟩

/-- A text that may not stand in an address, and two tags. -/
def taggedSearch : List (String × String) :=
  [("q", "<b>"), ("tag", "red"), ("tag", "blue")]

theorem fetchByQuery_posts_last_tag :
    (plainSession quietRemote).client.allowsGet
        (withQuery "/v1/search" (Form.queryOfPairs taggedSearch)) = false ∧
      ∃ members events, (plainSession quietRemote).fetchByQuery "/v1/search"
            (.ofTexts taggedSearch) =
          (NetworkCall.post "/v1/search" (.object members)).perform
            ((plainSession quietRemote).reportAll events) ∧
        Json.lookup "tag" members = some (.string "blue") := by
  have hposts : (plainSession quietRemote).client.allowsGet
      (withQuery "/v1/search" (Form.queryOfPairs taggedSearch)) = false := by decide +kernel
  obtain ⟨members, events, sent, hperform, -, -, -, hlast, -⟩ :=
    fetchByQuery_posts_last "/v1/search" taggedSearch hposts
  refine ⟨hposts, members, events, hperform, (hlast _ _).mpr ⟨"blue", rfl, ?_⟩⟩
  exact ⟨[("q", "<b>"), ("tag", "red")], [], rfl, List.not_mem_nil⟩

/-- A tag that does not arrive, because another one is given behind it. -/
theorem fetchByQuery_posts_repeated :
    ¬ ∀ request ∈ requestsIn ((plainSession quietRemote).fetchByQuery "/v1/search"
          (.ofTexts taggedSearch)).2.trace,
        ∀ members, request.call = .post (.object members) →
          ∀ pair ∈ taggedSearch, Json.lookup pair.1 members = some (.string pair.2) := by
  have hsent : requestsIn ((plainSession quietRemote).fetchByQuery "/v1/search"
        (.ofTexts taggedSearch)).2.trace =
      [⟨.post (.object [("q", .string "<b>"), ("tag", .string "blue")]),
        "https://products.example/v1/search", plainHeaders⟩] := by
    decide +kernel
  intro hcarries
  rw [hsent] at hcarries
  have hred := hcarries _ List.mem_cons_self _ rfl ("tag", "red") (by decide)
  exact absurd hred (by decide)

end Session

end ResourceLookup
