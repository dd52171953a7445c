import ResourceLookup.Proofs.Operations
import ResourceLookup.Repository.Fetch
import ResourceLookup.Repository.Fleet

/-!
# The clock of a client

No operation of a client turns its clock back (`Operation.now_le_perform`): only the pauses before
repetitions move it. The usual ways to fetch are operations of a client, so that they are hooks
which do not turn the clock back (`FetchPlan.steady`).
-/

set_option autoImplicit false
set_option relaxedAutoImplicit false

namespace ResourceLookup

namespace Session

@[simp] theorem announce_now (session : Session) : session.announce.now = session.now := by
  unfold announce
  split <;> rfl

@[simp] theorem attempted_now (request : Request) (session : Session) :
    (session.attempted request).now = session.now :=
  announce_now session

/-- The pause before a repetition moves the clock on. -/
theorem now_le_repeated (request : Request) (number : Nat) (session : Session) :
    session.now ≤ (session.repeated request number).now := by
  have hsleep : (session.repeated request number).now = (session.attempted request).now +
      ((session.attempted request).pauseBefore number).millisRoundedUp * 1000000 := rfl
  rw [hsleep, attempted_now]
  exact Nat.le_add_right _ _

theorem now_le_repeatedTimes (request : Request) (number count : Nat) (session : Session) :
    session.now ≤ (session.repeatedTimes request number count).now := by
  induction count generalizing number session with
  | zero => exact Nat.le_refl session.now
  | succ count ih =>
    exact Nat.le_trans (now_le_repeated request number session)
      (ih (number + 1) (session.repeated request number))

variable {session loaded holder : Session} {token : Secret}
  {result : Except ConfigurationError HeaderMap}

theorem Holding.now_eq (hholding : Holding session token holder) : holder.now = session.now := by
  cases hholding <;> rfl

/-- Loading headers takes no time. -/
theorem Loading.now_eq (hloading : Loading session result loaded) : loaded.now = session.now := by
  cases hloading with
  | kept headers hheaders => rfl
  | refused error hheaders htoken hrefused => rfl
  | unbuilt token holder invalid steps hheaders hholding hbuild => exact hholding.now_eq
  | built token holder headers steps hheaders hholding hbuild => exact hholding.now_eq

end Session

theorem NetworkCall.Course.now_le {call : NetworkCall} {session after : Session}
    {result : Except RemoteError Fetched} (hcourse : call.Course session result after) :
    session.now ≤ after.now := by
  cases hcourse with
  | astray error htarget => exact Nat.le_refl session.now
  | disconnected url htarget htransport => exact Nat.le_refl session.now
  | unloaded url transport error loaded htarget htransport hheaders =>
    exact Nat.le_of_eq (Session.loading_of_eq hheaders).now_eq.symm
  | exchanged url transport headers loaded count htarget htransport hheaders hstops =>
    have hended : (call.ended session.client transport ⟨call.method, url, headers⟩ loaded
        count).now = ((loaded.repeatedTimes ⟨call.method, url, headers⟩ 0 count).attempted
          ⟨call.method, url, headers⟩).now := rfl
    rw [hended, Session.attempted_now, ← (Session.loading_of_eq hheaders).now_eq]
    exact Session.now_le_repeatedTimes _ 0 count loaded

theorem Operation.Course.now_le {operation : Operation} {session after : Session}
    (hcourse : operation.Course session after) : session.now ≤ after.now := by
  cases hcourse with
  | quiet events patterns hcall => exact Nat.le_refl session.now
  | calling call events hcall => exact (call.course (session.reportAll events)).now_le

/-- No operation of a client turns its clock back. -/
theorem Operation.now_le_perform (operation : Operation) (session : Session) :
    session.now ≤ (operation.perform session).now :=
  (operation.course session).now_le

namespace FetchPlan

theorem now_le_keepFetched {operation : Session → Except RemoteError Fetched × Session}
    (hoperation : ∀ session, session.now ≤ (operation session).2.now) (repository : Repository) :
    repository.session.now ≤
      (keepFetched (repository.withSession operation)).2.session.now := by
  have hlater := hoperation repository.session
  rw [Repository.withSession]
  generalize operation repository.session = brought at hlater ⊢
  rcases brought with ⟨error | response | hit, after⟩ <;> exact hlater

theorem now_le_get (path : String) (session : Session) :
    session.now ≤ (session.get path).2.now :=
  ((NetworkCall.get path).course session).now_le

theorem now_le_fetchEach (path : String) (ids : List String) (repository : Repository) :
    repository.session.now ≤ (fetchEach path ids repository).2.session.now := by
  induction ids generalizing repository with
  | nil => exact Nat.le_refl _
  | cons id rest ih =>
    have hlater := now_le_get (path ++ "/" ++ id) repository.session
    rw [fetchEach, Repository.withSession]
    generalize Session.get (path ++ "/" ++ id) repository.session = brought at hlater ⊢
    rcases brought with ⟨error | response | hit, after⟩
    · exact hlater
    · exact Nat.le_trans hlater
        (ih (Repository.cacheSingle response.document { repository with session := after }).2)
    · exact Nat.le_trans hlater (ih { repository with session := after })

/-- The usual ways to fetch do not turn the clock back. -/
def steady (plan : FetchPlan) : SteadyFetch where
  fetch := plan.fetch
  steady ids repository := by
    cases plan with
    | query path =>
      rw [fetch]
      exact now_le_keepFetched (Operation.fetchByQuery path _).now_le_perform repository
    | address path =>
      rw [fetch]
      exact now_le_keepFetched (now_le_get _) repository
    | body path =>
      have hlater := (Operation.network (.post path (idsBody ids))).now_le_perform
        repository.session
      rw [Operation.perform, NetworkCall.perform] at hlater
      rw [fetch, Repository.withSession]
      generalize Session.post path (idsBody ids) repository.session = posted at hlater ⊢
      rcases posted with ⟨error | response, after⟩ <;> exact hlater
    | oneByOne path => exact now_le_fetchEach path ids repository
    | nothing => exact Nat.le_refl _
    | failing cause => exact Nat.le_refl _

end FetchPlan

end ResourceLookup
