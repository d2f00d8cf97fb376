import HotShotConsensus.Decide

namespace HotShotConsensus

-- ViewNumber wraps a u64. Its + and the - on the inner u64 leave the type past UInt64.size - 1
-- and below 0: a build with overflow checks panics there, a release build wraps.
inductive ViewOp where
  | add (view amount : Nat)
  | sub (view amount : Nat)
  deriving DecidableEq, Repr

def ViewOp.overflows : ViewOp → Bool
  | .add view amount => UInt64.size ≤ view + amount
  | .sub view amount => view < amount

-- The value the rest of the model uses, and the value a release build goes on with.
def ViewOp.exact : ViewOp → Nat
  | .add view amount => view + amount
  | .sub view amount => view - amount

def ViewOp.wrapped : ViewOp → Nat
  | .add view amount => (view + amount) % UInt64.size
  | .sub view amount => (view + UInt64.size - amount) % UInt64.size

def ViewOp.view : ViewOp → Nat
  | .add view _ => view
  | .sub view _ => view

-- On a u64 operand the unbounded arithmetic of the model is the code's exactly when nothing
-- overflows.
theorem ViewOp.wrapped_eq_exact (op : ViewOp) (operand : op.view < UInt64.size) (fits : op.overflows = false) :
    op.wrapped = op.exact := by
  cases op with
  | add view amount =>
    simp only [overflows,decide_eq_false_iff_not,Nat.not_le] at fits
    exact Nat.mod_eq_of_lt fits
  | sub operandView amount =>
    simp only [overflows,decide_eq_false_iff_not,Nat.not_lt] at fits
    simp only [ViewOp.view] at operand
    simp only [wrapped,exact]
    rw [show operandView + UInt64.size - amount = operandView - amount + UInt64.size by omega,Nat.add_mod_right]
    exact Nat.mod_eq_of_lt (by omega)

-- The arithmetic of QuorumProposalValidated after the walk: the views-per-decide metric subtracts
-- the new anchor from cur_view (mod.rs:525-526), then the next view is taken and, when the node
-- proposes, the view after the high QC's.
def decideArithmetic (env : Env) (s : ConsensusTaskState) (proposal : QuorumProposal) : List ViewOp :=
  match chainWalk env { s with currentProposal := some proposal } proposal with
  | none => []
  | some walk =>
    match commitWalk s.consensus walk with
    | none => []
    | some _ =>
      (if walk.newDecideReached then [.sub s.curView walk.newAnchorView] else []) ++ .add proposal.viewNumber 1 ::
        if env.quorumMembership.leader (proposal.viewNumber + 1) = s.publicKey ∧
            s.consensus.highQc.viewNumber = proposal.viewNumber
        then [.add s.consensus.highQc.viewNumber 1] else []

-- SendPayloadCommitmentAndMetadata adds one to the high QC's view when the node leads the payload's
-- view, and to a timeout certificate's view when one is still held as evidence after that.
def payloadArithmetic (env : Env) (s : ConsensusTaskState) (view : Nat) : List ViewOp :=
  let first := if env.quorumMembership.leader view = s.publicKey ∧ s.consensus.highQc.viewNumber + 1 = view
    then publishProposal env view s else (s,[])
  (if env.quorumMembership.leader view = s.publicKey then [.add s.consensus.highQc.viewNumber 1] else []) ++
    match first.1.proposalCert with
    | some (.timeout tc) => [.add tc.viewNumber 1]
    | _ => []

-- The view arithmetic of each arm of handle, in the order it is evaluated. Left out: the walk's
-- consecutive-view test on each stored leaf (mod.rs:411), and the arguments of log lines, which
-- are evaluated only when their level is enabled (the error! after a vote arm's leader check asks
-- for view + 1 and the leader of view + 2).
def eventViewArithmetic (env : Env) (s : ConsensusTaskState) : HotShotEvent → List ViewOp
  | .quorumProposalValidated proposal => .add proposal.justifyQc.viewNumber 1 :: decideArithmetic env s proposal
  | .quorumVoteRecv vote | .timeoutVoteRecv vote => [.add vote.viewNumber 1]
  | .qcFormed (.inl qc) => [.add qc.viewNumber 1]
  | .qcFormed (.inr tc) => [.add tc.viewNumber 1]
  | .upgradeCertificateFormed _ => [.add s.curView 3]
  | .vidShareRecv disperse => [.add disperse.viewNumber 1]
  | .viewChange _ => [.add s.curView 1]
  | .sendPayloadCommitmentAndMetadata payloadCommitment builderCommitment metadata view fee =>
    payloadArithmetic env
      { s with payloadCommitmentAndMetadata := some ⟨payloadCommitment,builderCommitment,metadata,fee,view⟩ } view
  | .viewSyncFinalizeCertificate2Recv cert =>
    if env.isValidCert cert env.quorumMembership then [.sub cert.viewNumber 1] else []
  | _ => []

theorem peer_arithmetic_overflows (env : Env) (s : ConsensusTaskState) (vote : SimpleVote)
    (disperse : VidDisperseShare) (cert : ViewSyncFinalizeCertificate2) :
    ((eventViewArithmetic env s (.quorumVoteRecv vote)).any (·.overflows) = true ↔ UInt64.size ≤ vote.viewNumber + 1) ∧
    ((eventViewArithmetic env s (.timeoutVoteRecv vote)).any (·.overflows) = true ↔ UInt64.size ≤ vote.viewNumber + 1) ∧
    ((eventViewArithmetic env s (.vidShareRecv disperse)).any (·.overflows) = true ↔
      UInt64.size ≤ disperse.viewNumber + 1) ∧
    ((eventViewArithmetic env s (.viewSyncFinalizeCertificate2Recv cert)).any (·.overflows) = true ↔
      env.isValidCert cert env.quorumMembership = true ∧ cert.viewNumber = 0) := by
  refine ⟨by simp [eventViewArithmetic,ViewOp.overflows],by simp [eventViewArithmetic,ViewOp.overflows],
    by simp [eventViewArithmetic,ViewOp.overflows],?_⟩
  cases valid : env.isValidCert cert env.quorumMembership <;> simp [eventViewArithmetic,ViewOp.overflows,valid]

theorem vote_at_max_view_overflows (env : Env) (s : ConsensusTaskState) (signer signature data : Nat) :
    (eventViewArithmetic env s (.quorumVoteRecv ⟨signer,signature,data,UInt64.size - 1⟩)).head? =
        some (.add (UInt64.size - 1) 1) ∧
      (ViewOp.add (UInt64.size - 1) 1).overflows = true ∧ (ViewOp.add (UInt64.size - 1) 1).wrapped = 0 :=
  ⟨rfl,by decide,by decide⟩

end HotShotConsensus
