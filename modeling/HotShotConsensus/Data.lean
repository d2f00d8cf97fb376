import Mathlib.Data.List.Basic

namespace HotShotConsensus

-- Views, commitments, keys and signatures are the u64 and digest newtypes of hotshot_types.
-- They are unbounded naturals here; ViewArithmetic says where the width of a view matters.

structure BlockHeader where
  payloadCommitment : Nat
  metadata : Nat
  deriving DecidableEq, Repr

-- One record for every SimpleCertificate kind: data is the certified value (leaf commitment,
-- timed-out view, DA payload commitment, view-sync round), signers the aggregated keys.
structure SimpleCertificate where
  viewNumber : Nat
  data : Nat
  signers : List Nat
  deriving DecidableEq, Repr

abbrev QuorumCertificate := SimpleCertificate
abbrev TimeoutCertificate := SimpleCertificate
abbrev DaCertificate := SimpleCertificate
abbrev ViewSyncFinalizeCertificate2 := SimpleCertificate

structure UpgradeCertificate where
  viewNumber : Nat
  newVersion : Nat
  oldVersionLastView : Nat
  newVersionFirstView : Nat
  decideBy : Nat
  deriving DecidableEq, Repr

structure SimpleVote where
  signer : Nat
  signature : Nat
  data : Nat
  viewNumber : Nat
  deriving DecidableEq, Repr

abbrev QuorumVote := SimpleVote
abbrev TimeoutVote := SimpleVote

inductive ViewChangeEvidence where
  | timeout (certificate : TimeoutCertificate)
  | viewSync (certificate : ViewSyncFinalizeCertificate2)
  deriving DecidableEq, Repr

-- blockPayload is the payload filled in from saved_payloads, absent on a fresh leaf.
structure Leaf where
  viewNumber : Nat
  justifyQc : QuorumCertificate
  parentCommitment : Nat
  blockHeader : BlockHeader
  upgradeCertificate : Option UpgradeCertificate
  blockPayload : Option Nat
  deriving DecidableEq, Repr

structure QuorumProposal where
  blockHeader : BlockHeader
  viewNumber : Nat
  justifyQc : QuorumCertificate
  upgradeCertificate : Option UpgradeCertificate
  proposalCertificate : Option ViewChangeEvidence
  deriving DecidableEq, Repr

/-- Modelled from the spec: Leaf::from_quorum_proposal of hotshot_types. A proposal's leaf
extends the leaf its justify-QC certifies and carries no payload yet. -/
def Leaf.fromQuorumProposal (proposal : QuorumProposal) : Leaf :=
  ⟨proposal.viewNumber,proposal.justifyQc,proposal.justifyQc.data,proposal.blockHeader,
    proposal.upgradeCertificate,none⟩

-- A Proposal<VidDisperseShare>: the share and the signature over its payload commitment.
structure VidDisperseShare where
  viewNumber : Nat
  recipientKey : Nat
  payloadCommitment : Nat
  share : Nat
  signature : Nat
  deriving DecidableEq, Repr

structure CommitmentAndMetadata where
  commitment : Nat
  builderCommitment : Nat
  metadata : Nat
  fee : Nat
  blockView : Nat
  deriving DecidableEq, Repr

-- The validated state and delta of LeafInfo are opaque to this task and left out.
structure LeafInfo where
  leaf : Leaf
  vidShare : Option VidDisperseShare
  deriving DecidableEq, Repr

inductive HotShotEvent where
  | quorumProposalRecv (proposal : QuorumProposal) (sender : Nat)
  | quorumProposalValidated (proposal : QuorumProposal)
  | quorumVoteRecv (vote : QuorumVote)
  | timeoutVoteRecv (vote : TimeoutVote)
  | qcFormed (certificate : QuorumCertificate ⊕ TimeoutCertificate)
  | upgradeCertificateFormed (certificate : UpgradeCertificate)
  | daCertificateRecv (certificate : DaCertificate)
  | vidShareRecv (disperse : VidDisperseShare)
  | viewChange (view : Nat)
  | timeout (view : Nat)
  | sendPayloadCommitmentAndMetadata (payloadCommitment builderCommitment metadata view fee : Nat)
  | viewSyncFinalizeCertificate2Recv (certificate : ViewSyncFinalizeCertificate2)
  | shutdown
  | quorumVoteSend (vote : QuorumVote)
  | timeoutVoteSend (vote : TimeoutVote)
  | leafDecided (leaves : List Leaf)
  | versionUpgrade (version : Nat)
  deriving DecidableEq, Repr

inductive EventType where
  | decide (leafChain : List LeafInfo) (qc : QuorumCertificate) (blockSize : Option Nat)
  | viewFinished (viewNumber : Nat)
  | viewTimeout (viewNumber : Nat)
  | replicaViewTimeout (viewNumber : Nat)
  deriving DecidableEq, Repr

structure Event where
  viewNumber : Nat
  event : EventType
  deriving DecidableEq, Repr

inductive ConsensusIntentEvent where
  | pollForProposal (view : Nat)
  | pollForVotes (view : Nat)
  | pollForVidDisperse (view : Nat)
  | pollForDac (view : Nat)
  | cancelPollForProposal (view : Nat)
  | cancelPollForVotes (view : Nat)
  | cancelPollForVidDisperse (view : Nat)
  | cancelPollForDac (view : Nat)
  deriving DecidableEq, Repr

-- Spawned sub-tasks are named by what they were spawned for.
inductive TaskHandle where
  | proposal (view : Nat)
  | timeout (view : Nat)
  deriving DecidableEq, Repr

-- Every side effect of handle, in the order the code performs it.
inductive Output where
  | broadcast (event : HotShotEvent)
  | emit (event : Event)
  | quorumIntent (intent : ConsensusIntentEvent)
  | committeeIntent (intent : ConsensusIntentEvent)
  | spawn (task : TaskHandle)
  | cancel (task : TaskHandle)
  deriving DecidableEq, Repr

-- The Membership trait as the task queries it.
structure Membership where
  leader : Nat → Nat
  hasStake : Nat → Bool
  totalNodes : Nat
  stakedCommittee : Nat → List Nat
  successThreshold : Nat

end HotShotConsensus
