import HotShotConsensus.Steps

namespace HotShotConsensus

-- What the task sends on output_event_stream, in order.
def applicationEvents (out : List Output) : List Event :=
  out.filterMap fun
    | .emit event => some event
    | _ => none

-- The views of the ViewFinished events among them.
def finishedViews (out : List Output) : List Nat :=
  (applicationEvents out).filterMap fun
    | ⟨view,.viewFinished _⟩ => some view
    | _ => none

@[simp] theorem applicationEvents_nil : applicationEvents [] = [] := rfl

@[simp] theorem applicationEvents_cons (output : Output) (out : List Output) :
    applicationEvents (output :: out) = (match output with
      | .emit event => [event]
      | _ => []) ++ applicationEvents out := by
  cases output <;> rfl

@[simp] theorem applicationEvents_append (first second : List Output) :
    applicationEvents (first ++ second) = applicationEvents first ++ applicationEvents second :=
  List.filterMap_append _ _ _

@[simp] theorem finishedViews_append (first second : List Output) :
    finishedViews (first ++ second) = finishedViews first ++ finishedViews second := by
  simp [finishedViews,List.filterMap_append]

theorem applicationEvents_eq_nil {out : List Output} (quiet : ∀ output ∈ out, ∀ event, output ≠ .emit event) :
    applicationEvents out = [] :=
  List.filterMap_eq_nil_iff.mpr fun output mem => by
    cases output with
    | emit event => exact absurd rfl (quiet _ mem event)
    | _ => rfl

@[simp] theorem applicationEvents_collectVote (leader : Nat → Nat) (membership : Membership)
    (signed : SimpleVote → Bool) (formed : SimpleCertificate → HotShotEvent) (publicKey : Nat)
    (slot : Option VoteCollectionTaskState) (vote : SimpleVote) :
    applicationEvents (collectVote leader membership signed formed publicKey slot vote).2 = [] := by
  obtain ⟨cert,sent⟩ := collectVote_outputs leader membership signed formed publicKey slot vote
  rw [sent]
  cases cert <;> rfl

theorem AllSilent.applicationEvents_eq {out : List Output} (silent : AllSilent out) : applicationEvents out = [] :=
  applicationEvents_eq_nil fun _ mem _ same => by subst same; exact silent _ mem

-- Only two steps move the view, each up to the view it names: a ViewChange that update_view accepts,
-- which also sends ViewFinished for the view left, and a QuorumProposalRecv whose helper moves to
-- the proposal's view. Every other step keeps the view, and no step but the first finishes one.
theorem handle_views {env : Env} {s next : ConsensusTaskState} {event : HotShotEvent} {out : List Output}
    (ran : handle env s event = some (next,out)) :
    (next.curView = s.curView ∧ finishedViews out = []) ∨
    (∃ newView, event = .viewChange newView ∧ s.curView < newView ∧ next.curView = newView ∧
      finishedViews out = [s.curView]) ∨
    (∃ proposal sender, event = .quorumProposalRecv proposal sender ∧ s.curView < proposal.viewNumber ∧
      next.curView = proposal.viewNumber ∧ finishedViews out = []) := by
  rcases handle_arms ran with ⟨proposal,rfl⟩ | ⟨newView,rfl⟩ | ⟨proposal,sender,rfl⟩ | ⟨vote,rfl,rfl,rfl⟩ |
    ⟨vote,rfl,rfl,rfl⟩ | ⟨view,rfl,rfl,sent,silent,rfl | ⟨-,rfl⟩⟩ | quiet
  · obtain ⟨frame,decided,rest,rfl,silent,rfl | ⟨leaves,leafChain,qc,blockSize,rfl⟩⟩ := handle_validated_arm ran <;>
      exact .inl ⟨frame.curView,by simp [finishedViews,silent.applicationEvents_eq]⟩
  · obtain ⟨-,-,-,⟨same,-,silent⟩ | ⟨above,moved,-,changed,silent,rfl⟩⟩ := handle_viewChange_arm ran
    · exact .inl ⟨same,by simp [finishedViews,silent.applicationEvents_eq]⟩
    · exact .inr (.inl ⟨newView,rfl,above,moved,by simp [finishedViews,silent.applicationEvents_eq]⟩)
  · obtain ⟨-,-,-,silent,⟨same,-⟩ | ⟨above,moved,-⟩⟩ := handle_proposalRecv_arm ran
    · exact .inl ⟨same,by simp [finishedViews,silent.applicationEvents_eq]⟩
    · exact .inr (.inr ⟨proposal,sender,rfl,above,moved,by simp [finishedViews,silent.applicationEvents_eq]⟩)
  · exact .inl ⟨rfl,by simp [finishedViews]⟩
  · exact .inl ⟨rfl,by simp [finishedViews]⟩
  · exact .inl ⟨rfl,by simp [finishedViews,silent.applicationEvents_eq]⟩
  · exact .inl ⟨rfl,by simp [finishedViews,silent.applicationEvents_eq]⟩
  · exact .inl ⟨quiet.curView,by simp [finishedViews,quiet.outputs.applicationEvents_eq]⟩

-- The view an event asks the node to move to: a ViewChange's, or that of the proposal a
-- QuorumProposalRecv delivers.
def askedView : HotShotEvent → Option Nat
  | .viewChange view => some view
  | .quorumProposalRecv proposal _ => some proposal.viewNumber
  | _ => none

theorem views_progress (env : Env) (events : List HotShotEvent) :
    ∀ s final out, runEvents env s events = some (final,out) →
      s.curView ≤ final.curView ∧
      (final.curView = s.curView ∨ ∃ event ∈ events, askedView event = some final.curView) ∧
      (finishedViews out).Pairwise (· < ·) ∧
      ∀ view ∈ finishedViews out, s.curView ≤ view ∧ view < final.curView := by
  induction events with
  | nil =>
    intro s final out ran
    obtain ⟨rfl,rfl⟩ := runEvents_nil ran
    simp [finishedViews]
  | cons event rest ih =>
    intro s final out ran
    obtain ⟨next,first,more,handled,restRan,rfl⟩ := runEvents_cons ran
    obtain ⟨rises,requested,sorted,bounded⟩ := ih next final more restRan
    have step : s.curView ≤ next.curView ∧ (next.curView = s.curView ∨ askedView event = some next.curView) ∧
        (finishedViews first).Pairwise (· < ·) ∧ ∀ view ∈ finishedViews first, s.curView ≤ view ∧ view < next.curView := by
      rcases handle_views handled with ⟨same,quiet⟩ | ⟨newView,rfl,above,moved,finished⟩ |
        ⟨proposal,sender,rfl,above,moved,quiet⟩
      · simp [same,quiet]
      · simp [askedView,moved,finished,above,above.le]
      · simp [askedView,moved,quiet,above.le]
    obtain ⟨stepRises,asked,stepSorted,stepBounded⟩ := step
    refine ⟨stepRises.trans rises,?_,?_,fun view mem => ?_⟩
    · rcases requested with landed | ⟨asking,mem,named⟩
      · rcases asked with same | here
        · exact .inl (landed.trans same)
        · exact .inr ⟨event,List.mem_cons_self _ _,landed ▸ here⟩
      · exact .inr ⟨asking,List.mem_cons_of_mem _ mem,named⟩
    · rw [finishedViews_append,List.pairwise_append]
      exact ⟨stepSorted,sorted,fun older inFirst newer inMore =>
        (stepBounded older inFirst).2.trans_le (bounded newer inMore).1⟩
    · rcases List.mem_append.mp ((finishedViews_append _ _) ▸ mem) with inFirst | inMore
      · exact ⟨(stepBounded view inFirst).1,(stepBounded view inFirst).2.trans_le rises⟩
      · exact ⟨stepRises.trans (bounded view inMore).1,(bounded view inMore).2⟩

-- The views of the ViewTimeout events among what the application receives.
def timedOutViews (out : List Output) : List Nat :=
  (applicationEvents out).filterMap fun
    | ⟨view,.viewTimeout _⟩ => some view
    | _ => none

@[simp] theorem timedOutViews_append (first second : List Output) :
    timedOutViews (first ++ second) = timedOutViews first ++ timedOutViews second := by
  simp [timedOutViews,List.filterMap_append]

theorem handle_timeouts {env : Env} {s next : ConsensusTaskState} {event : HotShotEvent} {out : List Output}
    (ran : handle env s event = some (next,out)) :
    timedOutViews out = [] ∨ ∃ view, event = .timeout view ∧ s.curView < view ∧ next.curView = s.curView ∧
      timedOutViews out = [view] ∧ finishedViews out = [] := by
  rcases handle_arms ran with ⟨proposal,rfl⟩ | ⟨newView,rfl⟩ | ⟨proposal,sender,rfl⟩ | ⟨vote,rfl,rfl,rfl⟩ |
    ⟨vote,rfl,rfl,rfl⟩ | ⟨view,rfl,rfl,sent,silent,rfl | ⟨late,rfl⟩⟩ | quiet
  · obtain ⟨-,decided,rest,rfl,silent,rfl | ⟨leaves,leafChain,qc,blockSize,rfl⟩⟩ := handle_validated_arm ran <;>
      exact .inl (by simp [timedOutViews,silent.applicationEvents_eq])
  · obtain ⟨-,-,-,⟨-,-,silent⟩ | ⟨-,-,-,changed,silent,rfl⟩⟩ := handle_viewChange_arm ran <;>
      exact .inl (by simp [timedOutViews,silent.applicationEvents_eq])
  · exact .inl (by simp [timedOutViews,(handle_proposalRecv_arm ran).2.2.2.1.applicationEvents_eq])
  · exact .inl (by simp [timedOutViews])
  · exact .inl (by simp [timedOutViews])
  · exact .inl (by simp [timedOutViews,silent.applicationEvents_eq])
  · exact .inr ⟨view,rfl,late,rfl,by simp [timedOutViews,silent.applicationEvents_eq],
      by simp [finishedViews,silent.applicationEvents_eq]⟩
  · exact .inl (by simp [timedOutViews,quiet.outputs.applicationEvents_eq])

theorem timeouts_after_finished_views (env : Env) (events : List HotShotEvent) :
    ∀ s final out, runEvents env s events = some (final,out) →
      (∀ view ∈ timedOutViews out, s.curView < view) ∧
      ∀ pre post, out = pre ++ post →
        ∀ finished ∈ finishedViews pre, ∀ timedOut ∈ timedOutViews post, finished < timedOut := by
  induction events with
  | nil =>
    intro s final out ran
    obtain ⟨rfl,rfl⟩ := runEvents_nil ran
    refine ⟨by simp [timedOutViews],fun pre post split => ?_⟩
    obtain ⟨rfl,rfl⟩ := List.append_eq_nil.mp split.symm
    simp [finishedViews]
  | cons event rest ih =>
    intro s final out ran
    obtain ⟨next,first,more,handled,restRan,rfl⟩ := runEvents_cons ran
    obtain ⟨above,ordered⟩ := ih next final more restRan
    have step : s.curView ≤ next.curView ∧ ∀ view ∈ finishedViews first, view < next.curView := by
      rcases handle_views handled with ⟨same,quiet⟩ | ⟨newView,-,rises,moved,finished⟩ | ⟨_,_,-,rises,moved,quiet⟩
      · simp [same,quiet]
      · simp [moved,finished,rises.le,rises]
      · simp [moved,quiet,rises.le]
    have timedOut : (∀ view ∈ timedOutViews first, s.curView < view) ∧
        (timedOutViews first = [] ∨ finishedViews first = []) := by
      rcases handle_timeouts handled with quiet | ⟨view,-,late,-,sent,quiet⟩
      · simp [quiet]
      · simp [sent,quiet,late]
    refine ⟨fun view mem => ?_,fun pre post split => ?_⟩
    · rcases List.mem_append.mp ((timedOutViews_append _ _) ▸ mem) with mem | mem
      · exact timedOut.1 view mem
      · exact step.1.trans_lt (above view mem)
    intro finished isFinished late isTimedOut
    rcases List.append_eq_append_iff.mp split with ⟨mid,rfl,rfl⟩ | ⟨mid,rfl,rfl⟩
    · rcases List.mem_append.mp ((finishedViews_append _ _) ▸ isFinished) with inFirst | inMid
      · exact (step.2 _ inFirst).trans (above late (by simp [isTimedOut]))
      · exact ordered mid post rfl finished inMid late isTimedOut
    · have inFirst : finished ∈ finishedViews (pre ++ mid) := by simp [isFinished]
      rcases List.mem_append.mp ((timedOutViews_append _ _) ▸ isTimedOut) with inMid | inMore
      · have sentFirst : late ∈ timedOutViews (pre ++ mid) := by simp [inMid]
        rcases timedOut.2 with quiet | quiet
        · rw [quiet] at sentFirst
          cases sentFirst
        · rw [quiet] at inFirst
          cases inFirst
      · exact (step.2 _ inFirst).trans (above late inMore)

-- From view 0: a view change to 3, one to 2 that update_view refuses, a proposal for view 5 whose
-- receipt moves the node there, and a view change to 4 that comes too late.
def viewChanges : List HotShotEvent :=
  [.viewChange 3,.viewChange 2,.quorumProposalRecv ⟨⟨0,0⟩,5,⟨4,0,[]⟩,none,none⟩ 0,.viewChange 4]

def viewChangeRun : ConsensusTaskState × List Output :=
  (runEvents receivingNodes (idleNode (leafStore [] 0 0)) viewChanges).getD (idleNode (leafStore [] 0 0),[])

theorem view_changes_progress :
    runEvents receivingNodes (idleNode (leafStore [] 0 0)) viewChanges = some (viewChangeRun.1,viewChangeRun.2) ∧
      ((idleNode (leafStore [] 0 0)).curView ≤ viewChangeRun.1.curView ∧
        (viewChangeRun.1.curView = (idleNode (leafStore [] 0 0)).curView ∨
          ∃ event ∈ viewChanges, askedView event = some viewChangeRun.1.curView) ∧
        (finishedViews viewChangeRun.2).Pairwise (· < ·) ∧
        ∀ view ∈ finishedViews viewChangeRun.2,
          (idleNode (leafStore [] 0 0)).curView ≤ view ∧ view < viewChangeRun.1.curView) :=
  ⟨rfl,views_progress receivingNodes viewChanges _ _ _ rfl⟩

-- View changes to 3 and then 5, with timeouts for views 5, 4 and 6 between and after them: the
-- one for view 4 arrives when the node is already at view 5 and is dropped.
def stallEvents : List HotShotEvent :=
  [.viewChange 3,.timeout 5,.viewChange 5,.timeout 4,.timeout 6]

def stallRun : ConsensusTaskState × List Output :=
  (runEvents fourNodes (idleNode (leafStore [] 0 0)) stallEvents).getD (idleNode (leafStore [] 0 0),[])

theorem stalled_views_time_out_late :
    runEvents fourNodes (idleNode (leafStore [] 0 0)) stallEvents = some (stallRun.1,stallRun.2) ∧
      ((∀ view ∈ timedOutViews stallRun.2, (idleNode (leafStore [] 0 0)).curView < view) ∧
        ∀ pre post, stallRun.2 = pre ++ post →
          ∀ finished ∈ finishedViews pre, ∀ timedOut ∈ timedOutViews post, finished < timedOut) :=
  ⟨rfl,timeouts_after_finished_views fourNodes stallEvents _ _ _ rfl⟩

end HotShotConsensus
