import HotShotConsensus.Runs

namespace HotShotConsensus

-- An output that neither reaches the application nor hands a certificate on: anything but an
-- emitted event and a QCFormed broadcast.
def Silent : Output → Prop
  | .emit _ | .broadcast (.qcFormed _) => False
  | _ => True

def AllSilent (out : List Output) : Prop := ∀ output ∈ out, Silent output

@[simp] theorem allSilent_nil : AllSilent [] := fun _ absent => nomatch absent

@[simp] theorem allSilent_cons (output : Output) (out : List Output) :
    AllSilent (output :: out) ↔ Silent output ∧ AllSilent out := List.forall_mem_cons

@[simp] theorem allSilent_append (first second : List Output) :
    AllSilent (first ++ second) ↔ AllSilent first ∧ AllSilent second := List.forall_mem_append

@[simp] theorem allSilent_map_cancel (tasks : List TaskHandle) : AllSilent (tasks.map .cancel) :=
  fun _ mem => by obtain ⟨task,-,rfl⟩ := List.mem_map.mp mem; trivial

@[simp] theorem allSilent_voteIfAble (env : Env) (s : ConsensusTaskState) : AllSilent (voteIfAble env s).2 :=
  fun _ mem => by obtain ⟨vote,rfl⟩ := voteIfAble_sends mem; trivial

@[simp] theorem allSilent_publishProposal (env : Env) (view : Nat) (s : ConsensusTaskState) :
    AllSilent (publishProposal env view s).2 :=
  fun _ mem => by rw [publishProposal_spawns _ _ _ mem]; trivial

@[simp] theorem allSilent_upgradeVersion (newView : Nat) (s : ConsensusTaskState) :
    AllSilent (upgradeVersion newView s).2 := by
  unfold upgradeVersion; split <;> (try split) <;> simp [Silent]

@[simp] theorem allSilent_followThrough (env : Env) (s : ConsensusTaskState) (proposal : QuorumProposal)
    (walk : DecideWalk) : AllSilent (followThrough env s proposal walk).2 := fun output mem => by
  rcases followThrough_outputs env s proposal walk output mem with ⟨_,rfl⟩ | ⟨_,rfl⟩ | ⟨_,rfl⟩ <;> trivial

theorem ProposalRecvStep.silent {proposal : QuorumProposal} {s next : ConsensusTaskState} {out : List Output}
    (step : ProposalRecvStep proposal s next out) : AllSilent out := fun output mem => by
  rcases step.outputs output mem with relayed | ⟨task,rfl⟩ | rfl | rfl
  · unfold Relayed at relayed
    split at relayed <;> trivial
  all_goals trivial

-- What most steps keep: the view, the timeout task, both collectors and the key.
structure StepFrame (s next : ConsensusTaskState) : Prop where
  curView : next.curView = s.curView
  timeoutTask : next.timeoutTask = s.timeoutTask
  voteCollector : next.voteCollector = s.voteCollector
  timeoutVoteCollector : next.timeoutVoteCollector = s.timeoutVoteCollector
  publicKey : next.publicKey = s.publicKey

-- A step that keeps them and sends only silent outputs.
structure QuietStep (s next : ConsensusTaskState) (out : List Output) extends StepFrame s next : Prop where
  outputs : AllSilent out

-- The arms of handle: QuorumProposalValidated, ViewChange and QuorumProposalRecv, each with its own
-- inversion lemma; the two vote arms, which hand the vote to their collector; Timeout, which
-- changes no state and tells the application of a timeout only for a view above the current one;
-- and every other arm, a quiet step.
theorem handle_arms {env : Env} {s next : ConsensusTaskState} {event : HotShotEvent} {out : List Output}
    (ran : handle env s event = some (next,out)) :
    (∃ proposal, event = .quorumProposalValidated proposal) ∨ (∃ newView, event = .viewChange newView) ∨
    (∃ proposal sender, event = .quorumProposalRecv proposal sender) ∨
    (∃ vote, event = .quorumVoteRecv vote ∧
      let collected := collectVote env.quorumMembership.leader env.quorumMembership env.voteSigned
        (fun qc => .qcFormed (.inl qc)) s.publicKey s.voteCollector vote
      next = { s with voteCollector := collected.1 } ∧ out = collected.2) ∨
    (∃ vote, event = .timeoutVoteRecv vote ∧
      let collected := collectVote env.timeoutMembership.leader env.quorumMembership env.voteSigned
        (fun tc => .qcFormed (.inr tc)) s.publicKey s.timeoutVoteCollector vote
      next = { s with timeoutVoteCollector := collected.1 } ∧ out = collected.2) ∨
    (∃ view, event = .timeout view ∧ next = s ∧ ∃ sent, AllSilent sent ∧
      (out = sent ∨ s.curView < view ∧ out = sent ++ [.emit ⟨view,.viewTimeout view⟩,.emit ⟨view,.replicaViewTimeout view⟩])) ∨
    QuietStep s next out := by
  have arms := handle_arms_of ran
  cases event with
  | quorumProposalValidated proposal => exact .inl ⟨proposal,rfl⟩
  | viewChange newView => exact .inr (.inl ⟨newView,rfl⟩)
  | quorumProposalRecv proposal sender => exact .inr (.inr (.inl ⟨proposal,sender,rfl⟩))
  | quorumVoteRecv vote =>
    obtain ⟨rfl,rfl⟩ := Prod.ext_iff.mp (Option.some.inj arms)
    exact .inr (.inr (.inr (.inl ⟨vote,rfl,rfl,rfl⟩)))
  | timeoutVoteRecv vote =>
    obtain ⟨rfl,rfl⟩ := Prod.ext_iff.mp (Option.some.inj arms)
    exact .inr (.inr (.inr (.inr (.inl ⟨vote,rfl,rfl,rfl⟩))))
  | timeout view =>
    refine .inr (.inr (.inr (.inr (.inr (.inl ⟨view,rfl,?_⟩)))))
    simp only [handleArms] at arms
    split_ifs at arms
    · cases arms
      exact ⟨rfl,[],by simp,.inl rfl⟩
    · cases arms
      exact ⟨rfl,[],by simp,.inl rfl⟩
    · split at arms <;> cases arms
      · exact ⟨rfl,_,by simp [Silent],.inl rfl⟩
      · exact ⟨rfl,[.quorumIntent (.cancelPollForVotes view),.quorumIntent (.cancelPollForProposal view),
          .broadcast (.timeoutVoteSend _)],by simp [Silent],.inr ⟨by omega,rfl⟩⟩
  | qcFormed certificate =>
    refine .inr (.inr (.inr (.inr (.inr (.inr ?_)))))
    cases certificate <;> obtain ⟨rfl,rfl⟩ := Prod.ext_iff.mp (Option.some.inj arms) <;>
      exact ⟨⟨by simp,by simp,by simp,by simp,by simp⟩,by simp [Silent]⟩
  | _ =>
    refine .inr (.inr (.inr (.inr (.inr (.inr ?_)))))
    simp only [handleArms] at arms
    repeat' split at arms
    all_goals obtain ⟨rfl,rfl⟩ := Prod.ext_iff.mp (Option.some.inj arms)
    all_goals exact ⟨⟨by simp [tryVote],by simp [tryVote],by simp [tryVote],by simp [tryVote],by simp [tryVote]⟩,
      by simp [tryVote,Silent]⟩

theorem handle_proposalRecv_arm {env : Env} {s next : ConsensusTaskState} {proposal : QuorumProposal} {sender : Nat}
    {out : List Output} (ran : handle env s (.quorumProposalRecv proposal sender) = some (next,out)) :
    next.voteCollector = s.voteCollector ∧ next.timeoutVoteCollector = s.timeoutVoteCollector ∧
    next.publicKey = s.publicKey ∧ AllSilent out ∧
    ((next.curView = s.curView ∧ next.timeoutTask = s.timeoutTask) ∨
      (s.curView < proposal.viewNumber ∧ next.curView = proposal.viewNumber ∧
        next.timeoutTask = some (.timeout proposal.viewNumber))) := by
  obtain ⟨received,sent,step,⟨rfl,rfl⟩ | ⟨current,rfl,rfl⟩⟩ := handle_proposalRecv ran
  · exact ⟨step.voteCollector,step.timeoutVoteCollector,step.publicKey,step.silent,step.view⟩
  · exact ⟨step.voteCollector,step.timeoutVoteCollector,step.publicKey,by simp [step.silent],step.view⟩

theorem handle_validated_arm {env : Env} {s next : ConsensusTaskState} {proposal : QuorumProposal}
    {out : List Output} (ran : handle env s (.quorumProposalValidated proposal) = some (next,out)) :
    StepFrame s next ∧ ∃ decided rest, out = decided ++ rest ∧ AllSilent rest ∧
      (decided = [] ∨ ∃ leaves leafChain qc blockSize,
        decided = [.broadcast (.leafDecided leaves),.emit ⟨s.consensus.lastDecidedView,.decide leafChain qc blockSize⟩]) := by
  obtain ⟨walk,consensus,decided,rest,-,committed,followed,rfl⟩ := handleQuorumProposalValidated_eq (handle_arms_of ran)
  obtain ⟨rfl,rfl⟩ := Prod.ext_iff.mp followed
  obtain ⟨-,-,undecidedCase,decidedCase⟩ := commitWalk_some committed
  refine ⟨⟨by simp,by simp,by simp,by simp,by simp⟩,decided,_,rfl,by simp,?_⟩
  cases reached : walk.newDecideReached
  · exact .inl (undecidedCase reached).2.1
  · obtain ⟨qc,-,-,outputs,-⟩ := decidedCase reached
    exact .inr ⟨_,_,_,_,outputs⟩

theorem handle_viewChange_arm {env : Env} {s next : ConsensusTaskState} {newView : Nat} {out : List Output}
    (ran : handle env s (.viewChange newView) = some (next,out)) :
    next.voteCollector = s.voteCollector ∧ next.timeoutVoteCollector = s.timeoutVoteCollector ∧
    next.publicKey = s.publicKey ∧
    ((next.curView = s.curView ∧ next.timeoutTask = s.timeoutTask ∧ AllSilent out) ∨
      (s.curView < newView ∧ next.curView = newView ∧ next.timeoutTask = some (.timeout newView) ∧
        ∃ changed, AllSilent changed ∧ out = changed ++ [.emit ⟨s.curView,.viewFinished s.curView⟩])) := by
  have arms := handle_arms_of ran
  simp only [handleArms] at arms
  split at arms <;> obtain ⟨rfl,rfl⟩ := Prod.ext_iff.mp (Option.some.inj arms)
  · exact ⟨by simp,by simp,by simp,.inl ⟨by simp,by simp,by simp [Silent]⟩⟩
  · rename_i moved
    obtain ⟨above,rfl,rfl,rfl⟩ := updateView_moves moved
    exact ⟨by simp,by simp,by simp,.inr ⟨by simpa using above,rfl,rfl,_,by simp [Silent],rfl⟩⟩

end HotShotConsensus
