import HotShotConsensus.Steps

namespace HotShotConsensus

-- What the node votes on: a VID share reaches the store only after validate_disperse accepts it,
-- a DA certificate only under its own view, and a vote only through vote_if_able, from what the
-- store then holds.
theorem handle_publicKey {env : Env} {s next : ConsensusTaskState} {event : HotShotEvent} {out : List Output}
    (ran : handle env s event = some (next,out)) : next.publicKey = s.publicKey := by
  rcases handle_arms ran with ⟨proposal,rfl⟩ | ⟨newView,rfl⟩ | ⟨proposal,sender,rfl⟩ | ⟨vote,rfl,rfl,rfl⟩ |
    ⟨vote,rfl,rfl,rfl⟩ | ⟨view,rfl,rfl,-⟩ | quiet
  · exact (handle_validated_arm ran).1.publicKey
  · exact (handle_viewChange_arm ran).2.2.1
  · exact (handle_proposalRecv_arm ran).2.2.1
  · rfl
  · rfl
  · rfl
  · exact quiet.publicKey

theorem handle_vidShares {env : Env} {s next : ConsensusTaskState} {event : HotShotEvent} {out : List Output}
    (ran : handle env s event = some (next,out)) :
    (∃ disperse, validateDisperse env s disperse = true ∧
      next.consensus.vidShares = (s.consensus.insertVidShare disperse.viewNumber disperse.recipientKey disperse).vidShares) ∨
    ∀ view, next.consensus.vidShares view = none ∨ next.consensus.vidShares view = s.consensus.vidShares view := by
  rcases handle_consensus ran with ⟨proposal,rfl⟩ | ⟨_,_,-,stored,-⟩ | ⟨_,-,stored⟩ | ⟨_,-,stored⟩ |
    ⟨disperse,rfl,-⟩ | stored
  · obtain ⟨walk,decided,-,-,committed,-⟩ := handleQuorumProposalValidated_some (handle_arms_of ran)
    exact .inr (commitWalk_vidShares committed)
  · exact .inr fun _ => .inr (by rw [stored])
  · exact .inr fun _ => .inr (by rw [stored])
  · exact .inr fun _ => .inr (by rw [stored]; rfl)
  · replace ran := handle_arms_of ran
    simp only [handleArms] at ran
    split_ifs at ran with stale invalid
    all_goals obtain ⟨rfl,-⟩ := Prod.ext_iff.mp (Option.some.inj ran)
    · exact .inr fun _ => .inr rfl
    · exact .inr fun _ => .inr rfl
    all_goals exact .inl ⟨disperse,by simpa using invalid,by simp [tryVote]⟩
  · exact .inr fun _ => .inr (by rw [stored])

-- The store invariants a vote rests on.
def SharesVerified (env : Env) (s : ConsensusTaskState) : Prop :=
  ∀ view shares key share, s.consensus.vidShares view = some shares → shares key = some share →
    validateDisperse env s share = true ∧ share.viewNumber = view ∧ share.recipientKey = key

theorem handle_validateDisperse {env : Env} {s next : ConsensusTaskState} {event : HotShotEvent} {out : List Output}
    (ran : handle env s event = some (next,out)) : validateDisperse env next = validateDisperse env s := by
  funext share
  simp [validateDisperse,handle_publicKey ran]

theorem handle_sharesVerified {env : Env} {s next : ConsensusTaskState} {event : HotShotEvent} {out : List Output}
    (ran : handle env s event = some (next,out)) (verified : SharesVerified env s) : SharesVerified env next := by
  intro view shares key share found held
  rw [handle_validateDisperse ran]
  rcases handle_vidShares ran with ⟨disperse,valid,filed⟩ | kept
  · simp only [filed,Consensus.insertVidShare] at found
    split_ifs at found with atView
    · cases found
      dsimp only at held
      split_ifs at held with atKey
      · cases held
        exact ⟨valid,atView.symm,atKey.symm⟩
      · cases old : s.consensus.vidShares disperse.viewNumber with
        | none => simp [old] at held
        | some earlier =>
          rw [old,Option.getD_some] at held
          exact verified _ _ _ _ (atView ▸ old) held
    · exact verified _ _ _ _ found held
  · rcases kept view with gone | same
    · rw [gone] at found
      cases found
    · exact verified _ _ _ _ (same ▸ found) held

theorem stored_vid_shares_verified (env : Env) (events : List HotShotEvent) (s final : ConsensusTaskState)
    (out : List Output) (verified : SharesVerified env s) (ran : runEvents env s events = some (final,out)) :
    SharesVerified env final :=
  runEvents_preserves (SharesVerified env) (fun _ _ _ _ holds handled => handle_sharesVerified handled holds)
    events s final out verified ran

-- A share from the leader and one signed by no node, which validate_disperse refuses.
def shareEvents : List HotShotEvent :=
  [.vidShareRecv ⟨1,1,7,0,0⟩,.vidShareRecv ⟨1,2,7,0,9⟩]

def shareRun : ConsensusTaskState × List Output :=
  (runEvents fourNodes (idleNode (leafStore [] 0 0)) shareEvents).getD (idleNode (leafStore [] 0 0),[])

theorem received_shares_verified :
    SharesVerified fourNodes (idleNode (leafStore [] 0 0)) ∧
      runEvents fourNodes (idleNode (leafStore [] 0 0)) shareEvents = some (shareRun.1,shareRun.2) ∧
      SharesVerified fourNodes shareRun.1 :=
  have empty : SharesVerified fourNodes (idleNode (leafStore [] 0 0)) := fun _ _ _ _ found => nomatch found
  ⟨empty,rfl,stored_vid_shares_verified fourNodes shareEvents _ _ _ empty rfl⟩

def DaCertsFiled (s : ConsensusTaskState) : Prop :=
  ∀ view cert, s.consensus.savedDaCerts view = some cert → cert.viewNumber = view

theorem handle_daCertsFiled {env : Env} {s next : ConsensusTaskState} {event : HotShotEvent} {out : List Output}
    (ran : handle env s event = some (next,out)) (filed : DaCertsFiled s) : DaCertsFiled next := by
  intro view cert found
  rcases handle_consensus ran with ⟨proposal,rfl⟩ | ⟨_,_,-,stored,-⟩ | ⟨_,-,stored⟩ | ⟨received,-,stored⟩ |
    ⟨_,-,stored⟩ | stored
  · obtain ⟨walk,consensus,decided,rest,-,committed,followed,-⟩ := handleQuorumProposalValidated_eq (handle_arms_of ran)
    obtain ⟨rfl,-⟩ := Prod.ext_iff.mp followed
    obtain ⟨-,-,undecidedCase,decidedCase⟩ := commitWalk_some committed
    simp only [followThrough_consensus] at found
    cases reached : walk.newDecideReached
    · exact filed view cert (by simpa [(undecidedCase reached).2.2] using found)
    · obtain ⟨-,-,-,-,collected⟩ := decidedCase reached
      rw [collected view] at found
      split_ifs at found
      exact filed view cert found
  · rw [stored] at found
    exact filed view cert found
  · exact filed view cert (by simpa [stored] using found)
  · rw [stored,Consensus.insertDaCert_savedDaCerts] at found
    split_ifs at found with atView
    · cases found
      exact atView.symm
    · exact filed view cert found
  · exact filed view cert (by simpa [stored] using found)
  · exact filed view cert (stored ▸ found)

@[simp] theorem quorumVotes_nil : quorumVotes [] = [] := rfl

@[simp] theorem quorumVotes_cons (output : Output) (out : List Output) :
    quorumVotes (output :: out) = (match output with
      | .broadcast (.quorumVoteSend vote) => [vote]
      | _ => []) ++ quorumVotes out := by
  cases output with
  | broadcast event => cases event <;> rfl
  | _ => rfl

@[simp] theorem quorumVotes_append (first second : List Output) :
    quorumVotes (first ++ second) = quorumVotes first ++ quorumVotes second :=
  List.filterMap_append _ _ _

@[simp] theorem quorumVotes_map_cancel (tasks : List TaskHandle) : quorumVotes (tasks.map .cancel) = [] := by
  induction tasks <;> simp [*]

@[simp] theorem quorumVotes_publishProposal (env : Env) (view : Nat) (s : ConsensusTaskState) :
    quorumVotes (publishProposal env view s).2 = [] := by
  rcases publishProposal_outputs env view s with sent | sent <;> simp [sent]

@[simp] theorem quorumVotes_publishProposal_if (env : Env) (proposes : Prop) [Decidable proposes] (view : Nat)
    (s : ConsensusTaskState) : quorumVotes (if proposes then publishProposal env view s else (s,[])).2 = [] := by
  split <;> simp

@[simp] theorem quorumVotes_upgradeVersion (newView : Nat) (s : ConsensusTaskState) :
    quorumVotes (upgradeVersion newView s).2 = [] := by
  unfold upgradeVersion; split <;> (try split) <;> rfl

@[simp] theorem quorumVotes_collectVote (leader : Nat → Nat) (membership : Membership)
    (signed : SimpleVote → Bool) (certificate : SimpleCertificate → QuorumCertificate ⊕ TimeoutCertificate)
    (publicKey : Nat) (slot : Option VoteCollectionTaskState) (vote : SimpleVote) :
    quorumVotes (collectVote leader membership signed (fun c => .qcFormed (certificate c)) publicKey slot vote).2 = [] := by
  obtain ⟨cert,sent⟩ := collectVote_outputs leader membership signed (fun c => .qcFormed (certificate c)) publicKey slot vote
  rw [sent]
  cases cert <;> rfl

theorem ProposalRecvStep.quorumVotes_eq {proposal : QuorumProposal} {s next : ConsensusTaskState} {out : List Output}
    (step : ProposalRecvStep proposal s next out) : quorumVotes out = [] :=
  List.filterMap_eq_nil_iff.mpr fun output mem => by
    rcases step.outputs output mem with relayed | ⟨task,rfl⟩ | rfl | rfl
    · unfold Relayed at relayed
      split at relayed <;> first | rfl | exact relayed.elim
    all_goals rfl

-- What a vote of this node rests on in a store.
def VoteBacked (env : Env) (publicKey : Nat) (consensus : Consensus) (vote : QuorumVote) : Prop :=
  vote.signer = publicKey ∧ ∃ proposal shares share cert,
    vote.data = env.commit (Leaf.fromQuorumProposal proposal) ∧
    consensus.vidShares proposal.viewNumber = some shares ∧ shares publicKey = some share ∧
    env.appendVid share = true ∧ consensus.savedDaCerts proposal.viewNumber = some cert ∧
    env.isValidCert cert env.committeeMembership = true ∧ cert.data = proposal.blockHeader.payloadCommitment ∧
    vote.viewNumber = cert.viewNumber

theorem voteIfAble_backed {env : Env} {t : ConsensusTaskState} {vote : QuorumVote}
    (sent : vote ∈ quorumVotes (voteIfAble env t).2) : VoteBacked env t.publicKey t.consensus vote := by
  rcases voteIfAble_cases env t with refused | ⟨proposal,cert,share,signature,ready,sends⟩
  · simp [refused] at sent
  · simp only [sends,quorumVotes_cons,quorumVotes_nil,List.append_nil,List.mem_singleton] at sent
    obtain ⟨shares,atView,mine⟩ := ready.vidShare
    subst sent
    exact ⟨rfl,proposal,shares,share,cert,rfl,atView,mine,ready.stored,ready.daCert,ready.daValid,ready.payload,rfl⟩

theorem tryVote_backed {env : Env} {t : ConsensusTaskState} {vote : QuorumVote}
    (sent : vote ∈ quorumVotes (tryVote env t).2) : VoteBacked env t.publicKey (tryVote env t).1.consensus vote :=
  voteIfAble_backed sent

theorem followThrough_votes_backed {env : Env} {s : ConsensusTaskState} {proposal : QuorumProposal}
    {walk : DecideWalk} {vote : QuorumVote} (sent : vote ∈ quorumVotes (followThrough env s proposal walk).2) :
    VoteBacked env s.publicKey s.consensus vote := by
  simp only [followThrough,tryVote,quorumVotes_append,List.mem_append] at sent
  rcases sent with (cancelled | proposed) | voted
  · split at cancelled <;> simp [cancelTasks,drainTasks_eq] at cancelled
  · split at proposed <;> simp at proposed
  · have backed := voteIfAble_backed voted
    split_ifs at backed <;> simpa using backed

theorem handle_votes_backed {env : Env} {s next : ConsensusTaskState} {event : HotShotEvent} {out : List Output}
    (ran : handle env s event = some (next,out)) : ∀ vote ∈ quorumVotes out, VoteBacked env s.publicKey next.consensus vote := by
  intro vote sent
  have arms := handle_arms_of ran
  cases event with
  | quorumProposalRecv proposal sender =>
    obtain ⟨received,relayed,step,⟨rfl,rfl⟩ | ⟨current,rfl,rfl⟩⟩ := handle_proposalRecv ran
    · simp [step.quorumVotes_eq] at sent
    · rw [quorumVotes_append,step.quorumVotes_eq,List.nil_append] at sent
      simpa [step.publicKey] using tryVote_backed sent
  | quorumProposalValidated proposal =>
    obtain ⟨walk,consensus,decided,rest,-,committed,followed,rfl⟩ := handleQuorumProposalValidated_eq arms
    obtain ⟨rfl,rfl⟩ := Prod.ext_iff.mp followed
    have quiet : quorumVotes decided = [] := by
      obtain ⟨-,-,undecidedCase,decidedCase⟩ := commitWalk_some committed
      cases reached : walk.newDecideReached
      · simp [(undecidedCase reached).2.1,quorumVotes]
      · obtain ⟨qc,-,-,outputs,-⟩ := decidedCase reached
        simp [outputs,quorumVotes]
    rw [quorumVotes_append,quiet,List.nil_append] at sent
    simpa using followThrough_votes_backed sent
  | daCertificateRecv cert =>
    obtain ⟨rfl,rfl⟩ := Prod.ext_iff.mp (Option.some.inj arms)
    rw [quorumVotes_append,List.mem_append] at sent
    rcases sent with intent | voted
    · simp at intent
    · exact tryVote_backed voted
  | vidShareRecv disperse =>
    simp only [handleArms] at arms
    split_ifs at arms <;> obtain ⟨rfl,rfl⟩ := Prod.ext_iff.mp (Option.some.inj arms)
    · simp at sent
    · simp at sent
    · simp at sent
    · simp only [quorumVotes_cons] at sent
      exact tryVote_backed sent
  | quorumVoteRecv received =>
    obtain ⟨rfl,rfl⟩ := Prod.ext_iff.mp (Option.some.inj arms)
    simp at sent
  | timeoutVoteRecv received =>
    obtain ⟨rfl,rfl⟩ := Prod.ext_iff.mp (Option.some.inj arms)
    simp at sent
  | qcFormed certificate =>
    cases certificate <;> obtain ⟨rfl,rfl⟩ := Prod.ext_iff.mp (Option.some.inj arms) <;> simp at sent
  | viewChange newView =>
    simp only [handleArms] at arms
    split at arms <;> obtain ⟨rfl,rfl⟩ := Prod.ext_iff.mp (Option.some.inj arms)
    · simp at sent
    · rename_i moved
      obtain ⟨-,-,-,rfl⟩ := updateView_moves moved
      simp at sent
  | sendPayloadCommitmentAndMetadata payloadCommitment builderCommitment metadata view fee =>
    obtain ⟨rfl,rfl⟩ := Prod.ext_iff.mp (Option.some.inj arms)
    simp at sent
  | viewSyncFinalizeCertificate2Recv cert =>
    simp only [handleArms] at arms
    split at arms <;> obtain ⟨rfl,rfl⟩ := Prod.ext_iff.mp (Option.some.inj arms) <;> simp at sent
  | _ =>
    simp only [handleArms] at arms
    repeat' split at arms
    all_goals obtain ⟨rfl,rfl⟩ := Prod.ext_iff.mp (Option.some.inj arms)
    all_goals simp [quorumVotes] at sent

theorem runEvents_vote_sender {env : Env} {vote : QuorumVote} (events : List HotShotEvent) :
    ∀ s final out, runEvents env s events = some (final,out) → vote ∈ quorumVotes out →
      ∃ pre event post mid before after sent, events = pre ++ event :: post ∧
        runEvents env s pre = some (mid,before) ∧ handle env mid event = some (after,sent) ∧ vote ∈ quorumVotes sent := by
  induction events with
  | nil =>
    intro s final out ran sent
    obtain ⟨rfl,rfl⟩ := runEvents_nil ran
    simp at sent
  | cons event rest ih =>
    intro s final out ran sent
    obtain ⟨next,first,more,handled,restRan,rfl⟩ := runEvents_cons ran
    rw [quorumVotes_append,List.mem_append] at sent
    rcases sent with now | later
    · exact ⟨[],event,rest,s,[],next,first,rfl,rfl,handled,now⟩
    · obtain ⟨pre,sender,post,mid,before,after,sent,rfl,reached,ran,mem⟩ := ih next final more restRan later
      exact ⟨event :: pre,sender,post,mid,first ++ before,after,sent,rfl,by simp [runEvents,handled,reached],ran,mem⟩

theorem votes_rest_on_available_data (env : Env) (events : List HotShotEvent) (s final : ConsensusTaskState)
    (out : List Output) (verified : SharesVerified env s) (filed : DaCertsFiled s)
    (ran : runEvents env s events = some (final,out)) :
    ∀ vote ∈ quorumVotes out, ∃ pre event post mid before after sent, events = pre ++ event :: post ∧
      runEvents env s pre = some (mid,before) ∧ handle env mid event = some (after,sent) ∧ vote ∈ quorumVotes sent ∧
      vote.signer = s.publicKey ∧ ∃ proposal shares share cert,
        vote.data = env.commit (Leaf.fromQuorumProposal proposal) ∧ vote.viewNumber = proposal.viewNumber ∧
        after.consensus.vidShares proposal.viewNumber = some shares ∧ shares s.publicKey = some share ∧
        share.viewNumber = proposal.viewNumber ∧ share.recipientKey = s.publicKey ∧
        validateDisperse env s share = true ∧ env.appendVid share = true ∧
        after.consensus.savedDaCerts proposal.viewNumber = some cert ∧ cert.viewNumber = proposal.viewNumber ∧
        env.isValidCert cert env.committeeMembership = true ∧ cert.data = proposal.blockHeader.payloadCommitment := by
  intro vote sentIn
  obtain ⟨pre,event,post,mid,before,after,sent,rfl,reached,handled,now⟩ :=
    runEvents_vote_sender _ s final out ran sentIn
  have sameKey : mid.publicKey = s.publicKey :=
    runEvents_preserves (·.publicKey = s.publicKey) (fun _ _ _ _ same step => (handle_publicKey step).trans same)
      pre s mid before rfl reached
  have sameCheck : validateDisperse env mid = validateDisperse env s := by
    funext share
    simp [validateDisperse,sameKey]
  have midVerified := stored_vid_shares_verified env pre s mid before verified reached
  have midFiled := runEvents_preserves DaCertsFiled (fun _ _ _ _ holds step => handle_daCertsFiled step holds)
    pre s mid before filed reached
  obtain ⟨signer,proposal,shares,share,cert,data,atView,mine,stored,daCert,daValid,payload,view⟩ :=
    handle_votes_backed handled vote now
  obtain ⟨valid,shareView,recipient⟩ := handle_sharesVerified handled midVerified _ _ _ _ atView mine
  have certView := handle_daCertsFiled handled midFiled _ _ daCert
  rw [handle_validateDisperse handled,sameCheck] at valid
  rw [sameKey] at signer mine recipient
  exact ⟨pre,event,post,mid,before,after,sent,rfl,reached,handled,now,signer,proposal,shares,share,cert,data,
    view.trans certView,atView,mine,shareView,recipient,valid,stored,daCert,certView,daValid,payload⟩

-- Node 1 holds its share for view 1, receives the DA certificate and validates the proposal.
def availableEvents : List HotShotEvent :=
  [.daCertificateRecv ⟨1,9,[0,1,2]⟩,.quorumProposalValidated proposalA]

def availableRun : ConsensusTaskState × List Output :=
  (runEvents fourNodes (idleNode (votingStore none)) availableEvents).getD (idleNode (votingStore none),[])

theorem vote_on_available_data :
    SharesVerified fourNodes (idleNode (votingStore none)) ∧ DaCertsFiled (idleNode (votingStore none)) ∧
      runEvents fourNodes (idleNode (votingStore none)) availableEvents = some (availableRun.1,availableRun.2) ∧
      ∀ vote ∈ quorumVotes availableRun.2, ∃ pre event post mid before after sent,
        availableEvents = pre ++ event :: post ∧ runEvents fourNodes (idleNode (votingStore none)) pre = some (mid,before) ∧
        handle fourNodes mid event = some (after,sent) ∧ vote ∈ quorumVotes sent ∧
        vote.signer = (idleNode (votingStore none)).publicKey ∧ ∃ proposal shares share cert,
          vote.data = fourNodes.commit (Leaf.fromQuorumProposal proposal) ∧ vote.viewNumber = proposal.viewNumber ∧
          after.consensus.vidShares proposal.viewNumber = some shares ∧
          shares (idleNode (votingStore none)).publicKey = some share ∧
          share.viewNumber = proposal.viewNumber ∧ share.recipientKey = (idleNode (votingStore none)).publicKey ∧
          validateDisperse fourNodes (idleNode (votingStore none)) share = true ∧ fourNodes.appendVid share = true ∧
          after.consensus.savedDaCerts proposal.viewNumber = some cert ∧ cert.viewNumber = proposal.viewNumber ∧
          fourNodes.isValidCert cert fourNodes.committeeMembership = true ∧
          cert.data = proposal.blockHeader.payloadCommitment :=
  have verified : SharesVerified fourNodes (idleNode (votingStore none)) := by
    intro view shares key share found held
    simp only [idleNode,votingStore] at found
    split_ifs at found with atView
    cases found
    subst atView
    dsimp only at held
    split_ifs at held with atKey
    cases held
    subst atKey
    decide
  have filed : DaCertsFiled (idleNode (votingStore none)) := fun view _ found => by
    simp [idleNode,votingStore] at found
  ⟨verified,filed,rfl,votes_rest_on_available_data fourNodes availableEvents _ _ _ verified filed rfl⟩

end HotShotConsensus
