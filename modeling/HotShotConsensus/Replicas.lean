import HotShotConsensus.Runs
import Mathlib.Logic.Relation

namespace HotShotConsensus

-- Many replicas, each running handle on its own task state, over the record of everything each
-- has sent. A Byzantine node runs no task: it may sign anything, and its leader may propose
-- anything.
structure Network where
  replicas : Nat → ConsensusTaskState
  sent : List (Nat × Output)

def Network.record (net : Network) (r : Nat) (next : ConsensusTaskState) (out : List Output) : Network :=
  ⟨fun n => if n = r then next else net.replicas n,net.sent ++ out.map (r,·)⟩

def genesisQc (env : Env) : QuorumCertificate :=
  ⟨0,env.commit genesisLeaf,[]⟩

-- Replica n at view 0 holding only the genesis leaf, validated at view 0 and decided.
def genesisReplica (env : Env) (n : Nat) : ConsensusTaskState :=
  ⟨n,n,⟨fun view => if view = 0 then some (env.commit genesisLeaf) else none,[(env.commit genesisLeaf,genesisLeaf)],
    fun _ => none,fun _ => none,fun _ => none,0,0,genesisQc env⟩,0,none,none,none,none,[],none,none,none,0,none⟩

def genesisNetwork (env : Env) : Network :=
  ⟨genesisReplica env,[]⟩

-- A QC is valid when it is the genesis QC, or when a quorum of distinct staked nodes signed it
-- and each honest signer did send that vote.
def validQc (env : Env) (byzantine : Nat → Bool) (net : Network) (qc : QuorumCertificate) : Bool :=
  qc == genesisQc env ||
    (decide qc.signers.Nodup && env.quorumMembership.successThreshold ≤ qc.signers.length &&
      qc.signers.all fun signer => env.quorumMembership.hasStake signer &&
        (byzantine signer || net.sent.any fun (n,output) => n == signer && match output with
          | .broadcast (.quorumVoteSend vote) => vote.data == qc.data && vote.viewNumber == qc.viewNumber
          | _ => false))

-- Whether the parent links from a commitment reach the target within the fuel.
def reaches (leaves : List (Nat × Leaf)) (target : Nat) : Nat → Nat → Bool
  | 0,_ => false
  | fuel+1,next => next == target || match leaves.lookup next with
    | some leaf => reaches leaves target fuel leaf.parentCommitment
    | none => false

-- The condition under which QuorumProposalValidated is raised: the proposal's justify-QC is newer
-- than the lock, or the proposal extends the leaf recorded at the locked view.
def safeToExtend (s : ConsensusTaskState) (proposal : QuorumProposal) : Bool :=
  s.consensus.lockedView < proposal.justifyQc.viewNumber ||
    match s.consensus.validatedStateMap s.consensus.lockedView with
    | some locked => reaches s.consensus.savedLeaves locked (s.consensus.savedLeaves.length + 1) proposal.justifyQc.data
    | none => false

/-- Modelled from the spec: the store side of proposal validation in proposal_helpers. Leaves
enter the store upon validation: the proposal's leaf is saved under its commitment and recorded
as the validated leaf of its view, replacing any earlier one. -/
def validateProposal (env : Env) (s : ConsensusTaskState) (proposal : QuorumProposal) : ConsensusTaskState :=
  { s with consensus := { s.consensus with
      validatedStateMap := fun view => if view = proposal.viewNumber then
        some (env.commit (Leaf.fromQuorumProposal proposal)) else s.consensus.validatedStateMap view
      savedLeaves := (env.commit (Leaf.fromQuorumProposal proposal),Leaf.fromQuorumProposal proposal) ::
        s.consensus.savedLeaves } }

-- What a replica may be handed besides validated proposals: votes an honest node sent or a
-- Byzantine node signed, the events its own task raised, and whatever the DA, VID, view-sync and
-- timer tasks produce.
def admissible (byzantine : Nat → Bool) (net : Network) (r : Nat) : HotShotEvent → Bool
  | .quorumVoteRecv vote => byzantine vote.signer || net.sent.contains (vote.signer,.broadcast (.quorumVoteSend vote))
  | .timeoutVoteRecv vote => byzantine vote.signer || net.sent.contains (vote.signer,.broadcast (.timeoutVoteSend vote))
  | .qcFormed cert => net.sent.contains (r,.broadcast (.qcFormed cert))
  | .quorumProposalValidated _ => false
  | _ => true

inductive Step (env : Env) (byzantine : Nat → Bool) : Network → Network → Prop
  | validate {net : Network} {r : Nat} {proposal : QuorumProposal} {next : ConsensusTaskState} {out : List Output} :
      byzantine r = false → validQc env byzantine net proposal.justifyQc = true →
      safeToExtend (net.replicas r) proposal = true →
      handle env (validateProposal env (net.replicas r) proposal) (.quorumProposalValidated proposal) =
        some (next,out) →
      Step env byzantine net (net.record r next out)
  | deliver {net : Network} {r : Nat} {event : HotShotEvent} {next : ConsensusTaskState} {out : List Output} :
      byzantine r = false → admissible byzantine net r event = true →
      handle env (net.replicas r) event = some (next,out) → Step env byzantine net (net.record r next out)

inductive Action where
  | validate (replica : Nat) (proposal : QuorumProposal)
  | deliver (replica : Nat) (event : HotShotEvent)

-- The step of an action when its guard holds.
def perform (env : Env) (byzantine : Nat → Bool) (net : Network) : Action → Option Network
  | .validate r proposal =>
    if byzantine r = false ∧ validQc env byzantine net proposal.justifyQc = true ∧
        safeToExtend (net.replicas r) proposal = true then
      (handle env (validateProposal env (net.replicas r) proposal) (.quorumProposalValidated proposal)).map
        fun (next,out) => net.record r next out
    else none
  | .deliver r event =>
    if byzantine r = false ∧ admissible byzantine net r event = true then
      (handle env (net.replicas r) event).map fun (next,out) => net.record r next out
    else none

def performAll (env : Env) (byzantine : Nat → Bool) : Network → List Action → Option Network
  | net,[] => some net
  | net,action :: rest => (perform env byzantine net action).bind (performAll env byzantine · rest)

theorem perform_step {env : Env} {byzantine : Nat → Bool} {net next : Network} {action : Action}
    (performed : perform env byzantine net action = some next) : Step env byzantine net next := by
  cases action with
  | validate r proposal =>
    simp only [perform] at performed
    split_ifs at performed with guard
    obtain ⟨⟨after,out⟩,handled,rfl⟩ := Option.map_eq_some'.mp performed
    exact .validate guard.1 guard.2.1 guard.2.2 handled
  | deliver r event =>
    simp only [perform] at performed
    split_ifs at performed with guard
    obtain ⟨⟨after,out⟩,handled,rfl⟩ := Option.map_eq_some'.mp performed
    exact .deliver guard.1 guard.2 handled

theorem performAll_reachable {env : Env} {byzantine : Nat → Bool} (actions : List Action) :
    ∀ {net final : Network}, performAll env byzantine net actions = some final →
      Relation.ReflTransGen (Step env byzantine) net final := by
  induction actions with
  | nil =>
    intro net final performed
    cases performed
    exact .refl
  | cons action rest ih =>
    intro net final performed
    obtain ⟨middle,first,later⟩ := Option.bind_eq_some.mp performed
    exact .head (perform_step first) (ih later)

-- The leaves replica r has delivered to the application in Decide events.
def decidedLeaves (net : Network) (r : Nat) : List Leaf :=
  net.sent.flatMap fun
    | (n,.emit ⟨_,.decide leafChain _ _⟩) => if n = r then leafChain.map (·.leaf) else []
    | _ => []

-- older is leaf or one of its ancestors: the parent links from leaf reach it.
inductive Extends (commit : Leaf → Nat) (older : Leaf) : Leaf → Prop
  | refl : Extends commit older older
  | child {parent leaf : Leaf} : Extends commit older parent → leaf.parentCommitment = commit parent →
      Extends commit older leaf

-- Under fourNodes only a leaf of commitment one can stand above a child of the genesis
-- commitment, and such a leaf has no parent at all.
theorem extends_genesis_child {older leaf : Leaf} (above : Extends fourNodes.commit older leaf)
    (child : fourNodes.commit leaf = 1 ∨ leaf.parentCommitment = 1) :
    older = leaf ∨ fourNodes.commit older = 1 := by
  induction above with
  | refl => exact .inl rfl
  | @child parent leaf _ linked ih =>
    have commitment : fourNodes.commit parent = 1 := by
      rcases child with root | onGenesis
      · have parentless : leaf.parentCommitment = 0 := by
          simp only [fourNodes] at root
          omega
        have positive : 0 < fourNodes.commit parent := by
          simp only [fourNodes]
          omega
        omega
      · omega
    rcases ih (.inl commitment) with rfl | root
    · exact .inr commitment
    · exact .inr root

-- Node 0 leads every view and is Byzantine. It proposes A1 on genesis and A2 on A1 to node 1,
-- and D2, C3 and E4 on genesis, C4 on C3 and proposals on the QCs of D2 and E4. Nodes 2 and 3
-- vote for A1, D2, C3 and E4, once per view.
def conflictA1 : QuorumProposal := ⟨⟨0,0⟩,1,genesisQc fourNodes,none,none⟩
def conflictA2 : QuorumProposal := ⟨⟨0,0⟩,2,⟨1,3,[0,2,3]⟩,none,none⟩
def conflictD2 : QuorumProposal := ⟨⟨0,1⟩,2,genesisQc fourNodes,none,none⟩
def conflictP3 : QuorumProposal := ⟨⟨0,0⟩,3,⟨2,8,[0,2,3]⟩,none,none⟩
def conflictC3 : QuorumProposal := ⟨⟨0,1⟩,3,genesisQc fourNodes,none,none⟩
def conflictE4 : QuorumProposal := ⟨⟨0,1⟩,4,genesisQc fourNodes,none,none⟩
def conflictC4 : QuorumProposal := ⟨⟨5,0⟩,4,⟨3,9,[0,2,3]⟩,none,none⟩
def conflictP5 : QuorumProposal := ⟨⟨0,0⟩,5,⟨4,10,[0,2,3]⟩,none,none⟩

-- Node h receives its VID share and the DA certificate for the proposal's view, validates the
-- proposal and votes.
def voteFor (h : Nat) (proposal : QuorumProposal) : List Action :=
  [.deliver h (.vidShareRecv ⟨proposal.viewNumber,h,0,0,0⟩),
    .deliver h (.daCertificateRecv ⟨proposal.viewNumber,0,[0,1,2]⟩),.validate h proposal]

def conflictSchedule : List Action :=
  ([conflictA1,conflictD2,conflictC3,conflictE4].flatMap fun proposal => voteFor 2 proposal ++ voteFor 3 proposal) ++
    [.validate 1 conflictA1,.validate 1 conflictA2,.validate 1 conflictP3,
      .validate 2 conflictC4,.validate 2 conflictP5]

def conflictNetwork : Network :=
  (performAll fourNodes (· == 0) (genesisNetwork fourNodes) conflictSchedule).getD (genesisNetwork fourNodes)

-- Node 1 decides A1 through the uncertified A2 it validated at view 2, node 2 decides C3 through
-- the uncertified C4 it validated at view 4: the walk starts at the leaf each recorded for the
-- justify-QC's view, not at the leaf the QC certifies. No honest node votes twice in a view.
theorem honest_replicas_decide_conflicting_leaves :
    ∃ net, Relation.ReflTransGen (Step fourNodes (· == 0)) (genesisNetwork fourNodes) net ∧
      Leaf.fromQuorumProposal conflictA1 ∈ decidedLeaves net 1 ∧
      Leaf.fromQuorumProposal conflictC3 ∈ decidedLeaves net 2 ∧
      (Leaf.fromQuorumProposal conflictA1).viewNumber ≤ (Leaf.fromQuorumProposal conflictC3).viewNumber ∧
      ¬Extends fourNodes.commit (Leaf.fromQuorumProposal conflictA1) (Leaf.fromQuorumProposal conflictC3) := by
  refine ⟨conflictNetwork,performAll_reachable conflictSchedule rfl,by decide,by decide,by decide,fun above => ?_⟩
  rcases extends_genesis_child above (.inr rfl) with same | root
  · exact absurd same (by decide)
  · exact absurd root (by decide)

end HotShotConsensus
