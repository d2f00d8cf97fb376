import HotShotConsensus.Task

namespace HotShotConsensus

-- The interim check of vote_if_able: between versions only the null block may be voted for.
-- It asks about the node's current view, not the proposal's.
def interimRefusal (env : Env) (s : ConsensusTaskState) (proposal : QuorumProposal) : Bool :=
  match s.decidedUpgradeCert with
  | some upgrade => env.inInterim upgrade s.curView &&
      some proposal.blockHeader.payloadCommitment != env.nullBlockCommitment env.quorumMembership.totalNodes
  | none => false

def voteIfAble (env : Env) (s : ConsensusTaskState) : Bool × List Output :=
  if !env.quorumMembership.hasStake s.publicKey then (false,[]) else
  match s.currentProposal with
  | none => (false,[])
  | some proposal =>
    match s.consensus.vidShares proposal.viewNumber with
    | none => (false,[])
    | some vidShares =>
      if interimRefusal env s proposal then (false,[]) else
      match s.consensus.savedDaCerts proposal.viewNumber with
      | none => (false,[])
      | some cert =>
        match s.consensus.leaf proposal.justifyQc.data with
        | none => (false,[])
        | some parent =>
          if (Leaf.fromQuorumProposal proposal).parentCommitment ≠ env.commit parent then (false,[]) else
          if !env.isValidCert cert env.committeeMembership then (false,[]) else
          if cert.data ≠ proposal.blockHeader.payloadCommitment then (false,[]) else
          match env.createSignedVote s.privateKey (env.commit (Leaf.fromQuorumProposal proposal))
            cert.viewNumber with
          | none => (false,[])
          | some signature =>
            match vidShares s.publicKey with
            | none => (false,[])
            | some share =>
              if !env.appendVid share then (false,[])
              else (true,[.broadcast (.quorumVoteSend
                ⟨s.publicKey,signature,env.commit (Leaf.fromQuorumProposal proposal),cert.viewNumber⟩)])

-- The "if self.vote_if_able(..) { self.current_proposal = None; }" that follows every change that
-- can make a vote possible.
def tryVote (env : Env) (s : ConsensusTaskState) : ConsensusTaskState × List Output :=
  ({ s with currentProposal := if (voteIfAble env s).1 then none else s.currentProposal },(voteIfAble env s).2)

@[simp] theorem tryVote_consensus (env : Env) (s : ConsensusTaskState) :
    (tryVote env s).1.consensus = s.consensus := rfl

@[simp] theorem tryVote_version (env : Env) (s : ConsensusTaskState) :
    (tryVote env s).1.version = s.version := rfl

@[simp] theorem tryVote_decidedUpgradeCert (env : Env) (s : ConsensusTaskState) :
    (tryVote env s).1.decidedUpgradeCert = s.decidedUpgradeCert := rfl

@[simp] theorem tryVote_curView (env : Env) (s : ConsensusTaskState) : (tryVote env s).1.curView = s.curView := rfl

@[simp] theorem tryVote_timeoutTask (env : Env) (s : ConsensusTaskState) :
    (tryVote env s).1.timeoutTask = s.timeoutTask := rfl

@[simp] theorem tryVote_spawnedTasks (env : Env) (s : ConsensusTaskState) :
    (tryVote env s).1.spawnedTasks = s.spawnedTasks := rfl

@[simp] theorem tryVote_voteCollector (env : Env) (s : ConsensusTaskState) :
    (tryVote env s).1.voteCollector = s.voteCollector := rfl

@[simp] theorem tryVote_timeoutVoteCollector (env : Env) (s : ConsensusTaskState) :
    (tryVote env s).1.timeoutVoteCollector = s.timeoutVoteCollector := rfl

@[simp] theorem tryVote_publicKey (env : Env) (s : ConsensusTaskState) : (tryVote env s).1.publicKey = s.publicKey := rfl

-- Everything vote_if_able needs, for the proposal, DA certificate, own VID share and signature
-- the state determines; interimView is the view whose upgrade interim forces the null block.
structure VoteReady (env : Env) (s : ConsensusTaskState) (interimView : Nat) (proposal : QuorumProposal)
    (cert : DaCertificate) (share : VidDisperseShare) (signature : Nat) : Prop where
  staked : env.quorumMembership.hasStake s.publicKey = true
  current : s.currentProposal = some proposal
  vidShare : ∃ shares, s.consensus.vidShares proposal.viewNumber = some shares ∧ shares s.publicKey = some share
  stored : env.appendVid share = true
  daCert : s.consensus.savedDaCerts proposal.viewNumber = some cert
  daValid : env.isValidCert cert env.committeeMembership = true
  payload : cert.data = proposal.blockHeader.payloadCommitment
  parent : ∃ parent, s.consensus.leaf proposal.justifyQc.data = some parent ∧
    env.commit parent = (Leaf.fromQuorumProposal proposal).parentCommitment
  nullBlock : ∀ upgrade, s.decidedUpgradeCert = some upgrade → env.inInterim upgrade interimView = true →
    env.nullBlockCommitment env.quorumMembership.totalNodes = some proposal.blockHeader.payloadCommitment
  signed : env.createSignedVote s.privateKey (env.commit (Leaf.fromQuorumProposal proposal)) cert.viewNumber =
    some signature

-- The vote vote_if_able signs: this node's, on the proposal's leaf, at the DA certificate's view.
def quorumVote (env : Env) (s : ConsensusTaskState) (proposal : QuorumProposal) (cert : DaCertificate)
    (signature : Nat) : QuorumVote :=
  ⟨s.publicKey,signature,env.commit (Leaf.fromQuorumProposal proposal),cert.viewNumber⟩

theorem interimRefusal_eq_false {env : Env} {s : ConsensusTaskState} {proposal : QuorumProposal} :
    interimRefusal env s proposal = false ↔
      ∀ upgrade, s.decidedUpgradeCert = some upgrade → env.inInterim upgrade s.curView = true →
        env.nullBlockCommitment env.quorumMembership.totalNodes = some proposal.blockHeader.payloadCommitment := by
  unfold interimRefusal
  cases current : s.decidedUpgradeCert with
  | none => simp
  | some upgrade =>
    cases interim : env.inInterim upgrade s.curView
    · simp [interim]
    · simpa [interim] using eq_comm

theorem voteIfAble_ready {env : Env} {s : ConsensusTaskState} {proposal : QuorumProposal}
    {cert : DaCertificate} {share : VidDisperseShare} {signature : Nat}
    (ready : VoteReady env s s.curView proposal cert share signature) :
    voteIfAble env s = (true,[.broadcast (.quorumVoteSend (quorumVote env s proposal cert signature))]) := by
  obtain ⟨shares,atView,mine⟩ := ready.vidShare
  obtain ⟨parent,found,linked⟩ := ready.parent
  have allowed := interimRefusal_eq_false.mpr ready.nullBlock
  simp only [voteIfAble,ready.staked,ready.current,atView,allowed,ready.daCert,found,linked,ready.daValid,
    ready.payload,ready.signed,mine,ready.stored,quorumVote,Bool.not_true,Bool.not_false,ne_eq,not_true_eq_false,
    if_false,Bool.false_eq_true]

theorem voteIfAble_cases (env : Env) (s : ConsensusTaskState) :
    voteIfAble env s = (false,[]) ∨ ∃ proposal cert share signature,
      VoteReady env s s.curView proposal cert share signature ∧
        voteIfAble env s = (true,[.broadcast (.quorumVoteSend (quorumVote env s proposal cert signature))]) := by
  by_cases ready : ∃ proposal cert share signature, VoteReady env s s.curView proposal cert share signature
  · obtain ⟨proposal,cert,share,signature,ready⟩ := ready
    exact .inr ⟨proposal,cert,share,signature,ready,voteIfAble_ready ready⟩
  refine .inl ?_
  unfold voteIfAble
  cases staked : env.quorumMembership.hasStake s.publicKey
  · rfl
  cases current : s.currentProposal with
  | none => rfl
  | some proposal =>
  simp only [Bool.not_true,Bool.false_eq_true,if_false]
  cases atView : s.consensus.vidShares proposal.viewNumber with
  | none => rfl
  | some shares =>
  simp only
  cases allowed : interimRefusal env s proposal
  swap
  · rfl
  simp only [Bool.false_eq_true,if_false]
  cases daCert : s.consensus.savedDaCerts proposal.viewNumber with
  | none => rfl
  | some cert =>
  cases found : s.consensus.leaf proposal.justifyQc.data with
  | none => rfl
  | some parent =>
  simp only
  split_ifs with linked daValid payload
  · rfl
  · rfl
  · rfl
  cases signed : env.createSignedVote s.privateKey (env.commit (Leaf.fromQuorumProposal proposal)) cert.viewNumber with
  | none => rfl
  | some signature =>
  cases mine : shares s.publicKey with
  | none => rfl
  | some share =>
  simp only
  cases stored : env.appendVid share
  · rfl
  exact absurd ⟨proposal,cert,share,signature,⟨staked,current,⟨shares,atView,mine⟩,stored,daCert,
    by simpa using daValid,not_not.mp payload,⟨parent,found,(not_not.mp linked).symm⟩,
    interimRefusal_eq_false.mp allowed,signed⟩⟩ ready

theorem voteIfAble_sends {env : Env} {s : ConsensusTaskState} {output : Output}
    (mem : output ∈ (voteIfAble env s).2) : ∃ vote, output = .broadcast (.quorumVoteSend vote) := by
  rcases voteIfAble_cases env s with refused | ⟨_,_,_,_,_,sent⟩
  · simp [refused] at mem
  · exact ⟨_,by simpa [sent] using mem⟩

theorem cancelledTasks_voteIfAble (env : Env) (s : ConsensusTaskState) : cancelledTasks (voteIfAble env s).2 = [] :=
  List.filterMap_eq_nil_iff.mpr fun output mem => by obtain ⟨vote,rfl⟩ := voteIfAble_sends mem; rfl

end HotShotConsensus
