import HotShotConsensus.Store
import HotShotConsensus.VoteCollection
import Mathlib.Data.List.Count

namespace HotShotConsensus

-- ConsensusTaskState with the shared consensus record and version inlined. The networks, the
-- output stream and storage are the Output log and the collaborators of Env; the timer lengths
-- and the node id only shape timing and logs.
structure ConsensusTaskState where
  publicKey : Nat
  privateKey : Nat
  consensus : Consensus
  curView : Nat
  payloadCommitmentAndMetadata : Option CommitmentAndMetadata
  voteCollector : Option VoteCollectionTaskState
  timeoutVoteCollector : Option VoteCollectionTaskState
  timeoutTask : Option TaskHandle
  spawnedTasks : List (Nat × List TaskHandle)
  formedUpgradeCertificate : Option UpgradeCertificate
  proposalCert : Option ViewChangeEvidence
  decidedUpgradeCert : Option UpgradeCertificate
  version : Nat
  currentProposal : Option QuorumProposal

/-- Modelled from the spec: update_view of the view_change module. A view at or below the current
one is refused and changes nothing. Otherwise the old timeout task is cancelled, the view moves,
polling starts for the new view, a timeout task for it is armed and ViewChange is broadcast. -/
def updateView (newView curView : Nat) (timeoutTask : Option TaskHandle) :
    Except Unit (Nat × Option TaskHandle × List Output) :=
  if newView ≤ curView then .error ()
  else .ok (newView,some (.timeout newView),
    timeoutTask.toList.map .cancel ++
      [.quorumIntent (.pollForProposal newView),.quorumIntent (.pollForVotes newView),
        .quorumIntent (.pollForVidDisperse newView),.quorumIntent (.pollForDac newView),
        .spawn (.timeout newView),.broadcast (.viewChange newView)])

theorem updateView_moves {newView curView view : Nat} {timeoutTask armed : Option TaskHandle}
    {changed : List Output} (moved : updateView newView curView timeoutTask = .ok (view,armed,changed)) :
    curView < newView ∧ view = newView ∧ armed = some (.timeout newView) ∧
      changed = timeoutTask.toList.map .cancel ++
        [.quorumIntent (.pollForProposal newView),.quorumIntent (.pollForVotes newView),
          .quorumIntent (.pollForVidDisperse newView),.quorumIntent (.pollForDac newView),
          .spawn (.timeout newView),.broadcast (.viewChange newView)] := by
  unfold updateView at moved
  split at moved
  · cases moved
  · cases moved
    exact ⟨by omega,rfl,rfl,rfl⟩

-- What handle_quorum_proposal_recv may send besides what update_view sends: network polls and
-- its verdict on the proposal.
def Relayed : Output → Prop
  | .quorumIntent _ | .committeeIntent _ | .broadcast (.quorumProposalValidated _) => True
  | _ => False

-- handle_quorum_proposal_recv of proposal_helpers is not in src. It is handed the task state and the
-- event sender (mod.rs:373-375), and the spec bounds what it does with them: it records what it
-- observes in the store (saved leaves, validated states, and the high QC, whose view only advances,
-- spec 5), moves the view only through update_view to the proposal's (spec 8, scenario 2), and
-- writes nothing else the dispatcher owns (spec 4.6).
structure ProposalRecvStep (proposal : QuorumProposal) (s next : ConsensusTaskState) (out : List Output) :
    Prop where
  frame : next = { s with
    curView := next.curView, timeoutTask := next.timeoutTask
    consensus := { s.consensus with
      savedLeaves := next.consensus.savedLeaves, validatedStateMap := next.consensus.validatedStateMap
      highQc := next.consensus.highQc } }
  highQc : s.consensus.highQc.viewNumber ≤ next.consensus.highQc.viewNumber
  moves : (next.curView = s.curView ∧ next.timeoutTask = s.timeoutTask ∧ ∀ output ∈ out, Relayed output) ∨
    ∃ changed sent, updateView proposal.viewNumber s.curView s.timeoutTask = .ok (next.curView,next.timeoutTask,changed) ∧
      out.Perm (changed ++ sent) ∧ ∀ output ∈ sent, Relayed output

section ProposalRecv
variable {proposal : QuorumProposal} {s next : ConsensusTaskState} {out : List Output}

theorem ProposalRecvStep.consensus (step : ProposalRecvStep proposal s next out) :
    next.consensus = { s.consensus with
      savedLeaves := next.consensus.savedLeaves, validatedStateMap := next.consensus.validatedStateMap
      highQc := next.consensus.highQc } :=
  (congrArg ConsensusTaskState.consensus step.frame :)

theorem ProposalRecvStep.publicKey (step : ProposalRecvStep proposal s next out) : next.publicKey = s.publicKey :=
  (congrArg ConsensusTaskState.publicKey step.frame :)

theorem ProposalRecvStep.voteCollector (step : ProposalRecvStep proposal s next out) :
    next.voteCollector = s.voteCollector :=
  (congrArg ConsensusTaskState.voteCollector step.frame :)

theorem ProposalRecvStep.timeoutVoteCollector (step : ProposalRecvStep proposal s next out) :
    next.timeoutVoteCollector = s.timeoutVoteCollector :=
  (congrArg ConsensusTaskState.timeoutVoteCollector step.frame :)

theorem ProposalRecvStep.spawnedTasks (step : ProposalRecvStep proposal s next out) :
    next.spawnedTasks = s.spawnedTasks :=
  (congrArg ConsensusTaskState.spawnedTasks step.frame :)

theorem ProposalRecvStep.formedUpgradeCertificate (step : ProposalRecvStep proposal s next out) :
    next.formedUpgradeCertificate = s.formedUpgradeCertificate :=
  (congrArg ConsensusTaskState.formedUpgradeCertificate step.frame :)

theorem ProposalRecvStep.view (step : ProposalRecvStep proposal s next out) :
    (next.curView = s.curView ∧ next.timeoutTask = s.timeoutTask) ∨
      (s.curView < proposal.viewNumber ∧ next.curView = proposal.viewNumber ∧
        next.timeoutTask = some (.timeout proposal.viewNumber)) := by
  rcases step.moves with ⟨same,timer,-⟩ | ⟨changed,sent,moved,-⟩
  · exact .inl ⟨same,timer⟩
  · obtain ⟨above,landed,armed,-⟩ := updateView_moves moved
    exact .inr ⟨above,landed,armed⟩

theorem ProposalRecvStep.outputs (step : ProposalRecvStep proposal s next out) :
    ∀ output ∈ out, Relayed output ∨ (∃ task, output = .cancel task) ∨
      output = .spawn (.timeout proposal.viewNumber) ∨ output = .broadcast (.viewChange proposal.viewNumber) := by
  intro output mem
  rcases step.moves with ⟨-,-,relayed⟩ | ⟨changed,sent,moved,perm,relayed⟩
  · exact .inl (relayed output mem)
  obtain ⟨-,-,-,rfl⟩ := updateView_moves moved
  rcases List.mem_append.mp (perm.subset mem) with fromView | fromSent
  · simp only [List.mem_append,List.mem_map,Option.mem_toList,List.mem_cons,List.not_mem_nil,or_false] at fromView
    rcases fromView with ⟨task,-,rfl⟩ | rfl | rfl | rfl | rfl | rfl | rfl
    all_goals simp [Relayed]
  · exact .inl (relayed output fromSent)

end ProposalRecv

-- Everything the task is built with or calls out to, fixed for a run: the three memberships, the
-- commitment and signature schemes, certificate checks, storage and payload decoding, whether the
-- build checks u64 overflow, and the two helpers of proposal_helpers that src leaves out, with what
-- the spec lets the proposal-receipt one do.
structure Env where
  quorumMembership : Membership
  timeoutMembership : Membership
  committeeMembership : Membership
  commit : Leaf → Nat
  validate : Nat → Nat → Nat → Bool
  voteSigned : SimpleVote → Bool
  isValidCert : SimpleCertificate → Membership → Bool
  inInterim : UpgradeCertificate → Nat → Bool
  nullBlockCommitment : Nat → Option Nat
  createSignedVote : Nat → Nat → Nat → Option Nat
  appendVid : VidDisperseShare → Bool
  updateHighQc : QuorumCertificate → Bool
  fromBytes : Nat → Nat → Nat
  transactionCommitments : Nat → Nat → List Nat
  overflowChecks : Bool
  proposeIfAble : Nat → ConsensusTaskState → Bool
  handleQuorumProposalRecv : QuorumProposal → Nat → ConsensusTaskState →
    (ConsensusTaskState × List Output) × Except Unit (Option QuorumProposal)
  proposalRecvStep : ∀ proposal sender s, ProposalRecvStep proposal s
    (handleQuorumProposalRecv proposal sender s).1.1 (handleQuorumProposalRecv proposal sender s).1.2

-- Four equally staked nodes with keys 0 to 3, node 0 leading every view, a threshold of three,
-- signatures that name their signer, and commitments above their parent's; a release build, a
-- producer that runs once per view (spec 4.4), and a proposal-receipt helper that does nothing.
def fourNodes : Env :=
  let membership : Membership := ⟨fun _ => 0,fun key => decide (key < 4),4,fun _ => [0,1,2,3],3⟩
  { quorumMembership := membership
    timeoutMembership := membership
    committeeMembership := membership
    commit := fun leaf => leaf.parentCommitment + 1 + leaf.viewNumber + 4 * leaf.blockHeader.metadata
    validate := fun key signature _ => decide (signature = key)
    voteSigned := fun vote => decide (vote.signature = vote.signer)
    isValidCert := fun cert members => decide (members.successThreshold ≤ cert.signers.length)
    inInterim := fun upgrade view => decide (upgrade.oldVersionLastView < view ∧ view < upgrade.newVersionFirstView)
    nullBlockCommitment := fun _ => some 0
    createSignedVote := fun key _ _ => some key
    appendVid := fun _ => true
    updateHighQc := fun _ => true
    fromBytes := fun encoded _ => encoded
    transactionCommitments := fun payload _ => [payload]
    overflowChecks := false
    proposeIfAble := fun view s => !((s.spawnedTasks.lookup view).getD []).contains (.proposal view)
    handleQuorumProposalRecv := fun _ _ s => ((s,[]),.ok none)
    proposalRecvStep := fun _ _ _ => ⟨rfl,le_rfl,.inl ⟨rfl,rfl,fun _ absent => nomatch absent⟩⟩ }

-- A proposal-receipt helper as spec 8 has it behave: it saves the proposal's leaf, adopts its
-- justify-QC when that is newer than the high QC, moves to the proposal's view through update_view
-- and hands the proposal back.
def receiveProposal (commit : Leaf → Nat) (proposal : QuorumProposal) (s : ConsensusTaskState) :
    (ConsensusTaskState × List Output) × Except Unit (Option QuorumProposal) :=
  let stored := { s with consensus := { s.consensus with
    savedLeaves := (commit (Leaf.fromQuorumProposal proposal),Leaf.fromQuorumProposal proposal) :: s.consensus.savedLeaves
    highQc := if s.consensus.highQc.viewNumber < proposal.justifyQc.viewNumber then proposal.justifyQc
      else s.consensus.highQc } }
  match updateView proposal.viewNumber s.curView s.timeoutTask with
  | .ok (view,timer,changed) => (({ stored with curView := view, timeoutTask := timer },changed),.ok (some proposal))
  | .error _ => ((stored,[]),.ok (some proposal))

theorem receiveProposal_step (commit : Leaf → Nat) (proposal : QuorumProposal) (s : ConsensusTaskState) :
    ProposalRecvStep proposal s (receiveProposal commit proposal s).1.1 (receiveProposal commit proposal s).1.2 := by
  have raised : s.consensus.highQc.viewNumber ≤ (if s.consensus.highQc.viewNumber < proposal.justifyQc.viewNumber
      then proposal.justifyQc else s.consensus.highQc).viewNumber := by
    split_ifs <;> omega
  unfold receiveProposal
  cases moved : updateView proposal.viewNumber s.curView s.timeoutTask with
  | ok result => exact ⟨rfl,raised,.inr ⟨result.2.2,[],moved,by simp,by simp⟩⟩
  | error _ => exact ⟨rfl,raised,.inl ⟨rfl,rfl,by simp⟩⟩

-- fourNodes with that helper.
def receivingNodes : Env :=
  { fourNodes with
    handleQuorumProposalRecv := fun proposal _ s => receiveProposal fourNodes.commit proposal s
    proposalRecvStep := fun proposal _ s => receiveProposal_step fourNodes.commit proposal s }

-- A store for fourNodes that holds the given leaves under their commitments, each recorded as
-- validated at its view, and nothing else.
def leafStore (leaves : List Leaf) (lockedView lastDecidedView : Nat) : Consensus where
  validatedStateMap view := (leaves.find? (·.viewNumber = view)).map fourNodes.commit
  savedLeaves := leaves.map fun leaf => (fourNodes.commit leaf,leaf)
  savedPayloads _ := none
  savedDaCerts _ := none
  vidShares _ := none
  lockedView := lockedView
  lastDecidedView := lastDecidedView
  highQc := ⟨0,0,[]⟩

-- Node 1 at view 0 over a store, with no proposal, collector, task or certificate.
def idleNode (consensus : Consensus) : ConsensusTaskState :=
  ⟨1,1,consensus,0,none,none,none,none,[],none,none,none,0,none⟩

-- The share is signed by the view's leader, by this node, or by a staked DA member.
def validateDisperse (env : Env) (s : ConsensusTaskState) (disperse : VidDisperseShare) : Bool :=
  env.validate (env.quorumMembership.leader disperse.viewNumber) disperse.signature disperse.payloadCommitment ||
    env.validate s.publicKey disperse.signature disperse.payloadCommitment ||
    (env.committeeMembership.stakedCommittee disperse.viewNumber).any fun member =>
      env.validate member disperse.signature disperse.payloadCommitment

-- spawned_tasks is a BTreeMap, kept as a list sorted by view.
-- entry(view).or_default().push(task)
def pushTask (view : Nat) (task : TaskHandle) : List (Nat × List TaskHandle) → List (Nat × List TaskHandle)
  | [] => [(view,[task])]
  | (key,tasks) :: rest =>
    if key = view then (key,tasks ++ [task]) :: rest
    else if view < key then (view,[task]) :: (key,tasks) :: rest
    else (key,tasks) :: pushTask view task rest

-- The pop_first loop of cancel_tasks over the entries split_off left below the view.
def drainTasks : List (Nat × List TaskHandle) → List Output
  | [] => []
  | (_,tasks) :: rest => tasks.map .cancel ++ drainTasks rest

def cancelTasks (tasks : List (Nat × List TaskHandle)) (view : Nat) : List (Nat × List TaskHandle) × List Output :=
  (tasks.filter fun entry => view ≤ entry.1,drainTasks (tasks.filter fun entry => entry.1 < view))

theorem drainTasks_eq (tasks : List (Nat × List TaskHandle)) :
    drainTasks tasks = (tasks.flatMap (·.2)).map .cancel := by
  induction tasks with
  | nil => rfl
  | cons entry rest ih => simp [drainTasks,ih]

theorem drainTasks_cancels (tasks : List (Nat × List TaskHandle)) :
    ∀ output ∈ drainTasks tasks, ∃ task, output = .cancel task := by
  intro output mem
  rw [drainTasks_eq] at mem
  obtain ⟨task,-,rfl⟩ := List.mem_map.mp mem
  exact ⟨task,rfl⟩

-- The tasks an output list cancels, in order.
def cancelledTasks (out : List Output) : List TaskHandle :=
  out.filterMap fun
    | .cancel task => some task
    | _ => none

@[simp] theorem cancelledTasks_nil : cancelledTasks [] = [] := rfl

@[simp] theorem cancelledTasks_append (first second : List Output) :
    cancelledTasks (first ++ second) = cancelledTasks first ++ cancelledTasks second :=
  List.filterMap_append _ _ _

theorem cancelledTasks_drainTasks (tasks : List (Nat × List TaskHandle)) :
    cancelledTasks (drainTasks tasks) = tasks.flatMap (·.2) := by
  simp [drainTasks_eq,cancelledTasks,List.filterMap_map,Function.comp_def]

theorem lookup_filter_above (view key : Nat) (tasks : List (Nat × List TaskHandle)) :
    (tasks.filter fun entry => view ≤ entry.1).lookup key = if view ≤ key then tasks.lookup key else none := by
  induction tasks with
  | nil => simp
  | cons entry rest ih =>
    obtain ⟨k,handles⟩ := entry
    by_cases same : key = k
    · subst same
      by_cases above : view ≤ key <;> simp [List.filter_cons,above,ih]
    · have differ : (key == k) = false := beq_eq_false_iff_ne.mpr same
      by_cases above : view ≤ k <;> simp [List.filter_cons,List.lookup_cons,above,differ,ih]

theorem cancel_tasks_restricts (tasks : List (Nat × List TaskHandle)) (view : Nat) :
    (∀ key, (cancelTasks tasks view).1.lookup key = if view ≤ key then tasks.lookup key else none) ∧
    (cancelTasks tasks view).2 = ((tasks.filter fun entry => entry.1 < view).flatMap (·.2)).map .cancel ∧
    ∀ task, (cancelTasks tasks view).2.count (.cancel task) =
      ((tasks.filter fun entry => entry.1 < view).flatMap (·.2)).count task := by
  refine ⟨fun key => lookup_filter_above view key tasks,drainTasks_eq _,fun task => ?_⟩
  rw [cancelTasks,drainTasks_eq]
  exact List.count_map_of_injective _ _ (fun _ _ same => Output.cancel.inj same) task

/-- Modelled from the spec: publish_proposal_if_able, which is not in src. When the producer's
checks pass it spawns the producer sub-task for the view, which takes the payload commitment and
proposal certificate it consumes and leaves both cleared (4.4, step 4); otherwise it fails and
leaves them. -/
def publishProposalIfAble (env : Env) (view : Nat) (s : ConsensusTaskState) :
    Except Unit TaskHandle × Option CommitmentAndMetadata × Option ViewChangeEvidence :=
  if env.proposeIfAble view s then (.ok (.proposal view),none,none)
  else (.error (),s.payloadCommitmentAndMetadata,s.proposalCert)

-- ConsensusTaskState::publish_proposal: the payload commitment and proposal certificate are handed
-- over by &mut, and the handle that comes back is registered under the view.
def publishProposal (env : Env) (view : Nat) (s : ConsensusTaskState) : ConsensusTaskState × List Output :=
  let (result,payload,cert) := publishProposalIfAble env view s
  let s := { s with payloadCommitmentAndMetadata := payload, proposalCert := cert }
  match result with
  | .ok handle => ({ s with spawnedTasks := pushTask view handle s.spawnedTasks },[.spawn handle])
  | .error _ => (s,[])

theorem publishProposal_eq (env : Env) (view : Nat) (s : ConsensusTaskState) :
    publishProposal env view s = if env.proposeIfAble view s then
      ({ s with
        payloadCommitmentAndMetadata := none, proposalCert := none
        spawnedTasks := pushTask view (.proposal view) s.spawnedTasks },[.spawn (.proposal view)])
    else (s,[]) := by
  unfold publishProposal publishProposalIfAble; cases env.proposeIfAble view s <;> rfl

section Publish
variable (env : Env) (view : Nat) (s : ConsensusTaskState)

@[simp] theorem publishProposal_consensus : (publishProposal env view s).1.consensus = s.consensus := by
  rw [publishProposal_eq]; split <;> rfl

@[simp] theorem publishProposal_version : (publishProposal env view s).1.version = s.version := by
  rw [publishProposal_eq]; split <;> rfl

@[simp] theorem publishProposal_decidedUpgradeCert :
    (publishProposal env view s).1.decidedUpgradeCert = s.decidedUpgradeCert := by
  rw [publishProposal_eq]; split <;> rfl

@[simp] theorem publishProposal_currentProposal :
    (publishProposal env view s).1.currentProposal = s.currentProposal := by
  rw [publishProposal_eq]; split <;> rfl

@[simp] theorem publishProposal_voteCollector : (publishProposal env view s).1.voteCollector = s.voteCollector := by
  rw [publishProposal_eq]; split <;> rfl

@[simp] theorem publishProposal_timeoutVoteCollector :
    (publishProposal env view s).1.timeoutVoteCollector = s.timeoutVoteCollector := by
  rw [publishProposal_eq]; split <;> rfl

@[simp] theorem publishProposal_curView : (publishProposal env view s).1.curView = s.curView := by
  rw [publishProposal_eq]; split <;> rfl

@[simp] theorem publishProposal_timeoutTask : (publishProposal env view s).1.timeoutTask = s.timeoutTask := by
  rw [publishProposal_eq]; split <;> rfl

@[simp] theorem publishProposal_publicKey : (publishProposal env view s).1.publicKey = s.publicKey := by
  rw [publishProposal_eq]; split <;> rfl

@[simp] theorem publishProposal_formedUpgradeCertificate :
    (publishProposal env view s).1.formedUpgradeCertificate = s.formedUpgradeCertificate := by
  rw [publishProposal_eq]; split <;> rfl

theorem publishProposal_outputs :
    (publishProposal env view s).2 = [] ∨ (publishProposal env view s).2 = [.spawn (.proposal view)] := by
  rw [publishProposal_eq]; split <;> simp

theorem publishProposal_spawns {output : Output} (mem : output ∈ (publishProposal env view s).2) :
    output = .spawn (.proposal view) := by
  rcases publishProposal_outputs env view s with none | spawned <;> simp_all

end Publish

end HotShotConsensus
