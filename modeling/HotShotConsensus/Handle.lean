import HotShotConsensus.ViewArithmetic

namespace HotShotConsensus

-- The version switch of the ViewChange arm, made before update_view is asked whether the view
-- moves.
def upgradeVersion (newView : Nat) (s : ConsensusTaskState) : ConsensusTaskState × List Output :=
  match s.decidedUpgradeCert with
  | some cert => if newView = cert.newVersionFirstView then
      ({ s with version := cert.newVersion },[.broadcast (.versionUpgrade cert.newVersion)])
    else (s,[])
  | none => (s,[])

@[simp] theorem upgradeVersion_consensus (newView : Nat) (s : ConsensusTaskState) :
    (upgradeVersion newView s).1.consensus = s.consensus := by
  unfold upgradeVersion; split <;> (try split) <;> rfl

@[simp] theorem upgradeVersion_curView (newView : Nat) (s : ConsensusTaskState) :
    (upgradeVersion newView s).1.curView = s.curView := by
  unfold upgradeVersion; split <;> (try split) <;> rfl

@[simp] theorem upgradeVersion_timeoutTask (newView : Nat) (s : ConsensusTaskState) :
    (upgradeVersion newView s).1.timeoutTask = s.timeoutTask := by
  unfold upgradeVersion; split <;> (try split) <;> rfl

@[simp] theorem upgradeVersion_spawnedTasks (newView : Nat) (s : ConsensusTaskState) :
    (upgradeVersion newView s).1.spawnedTasks = s.spawnedTasks := by
  unfold upgradeVersion; split <;> (try split) <;> rfl

@[simp] theorem upgradeVersion_voteCollector (newView : Nat) (s : ConsensusTaskState) :
    (upgradeVersion newView s).1.voteCollector = s.voteCollector := by
  unfold upgradeVersion; split <;> (try split) <;> rfl

@[simp] theorem upgradeVersion_timeoutVoteCollector (newView : Nat) (s : ConsensusTaskState) :
    (upgradeVersion newView s).1.timeoutVoteCollector = s.timeoutVoteCollector := by
  unfold upgradeVersion; split <;> (try split) <;> rfl

@[simp] theorem upgradeVersion_publicKey (newView : Nat) (s : ConsensusTaskState) :
    (upgradeVersion newView s).1.publicKey = s.publicKey := by
  unfold upgradeVersion; split <;> (try split) <;> rfl

@[simp] theorem upgradeVersion_formedUpgradeCertificate (newView : Nat) (s : ConsensusTaskState) :
    (upgradeVersion newView s).1.formedUpgradeCertificate = s.formedUpgradeCertificate := by
  unfold upgradeVersion; split <;> (try split) <;> rfl

-- The arms of ConsensusTaskState::handle as built without the dependency-tasks feature. Each
-- returns the new state and what it sent, in order; none is a run that never returns (the walk
-- going round a cycle, or the unwrap of new_decide_qc panicking).
def handleArms (env : Env) (s : ConsensusTaskState) : HotShotEvent → Option (ConsensusTaskState × List Output)
  | .quorumProposalRecv proposal sender =>
    let received := env.handleQuorumProposalRecv proposal sender s
    match received.2 with
    | .ok (some current) =>
      let voted := tryVote env { received.1.1 with currentProposal := some current }
      some (voted.1,received.1.2 ++ voted.2)
    | _ => some received.1
  | .quorumProposalValidated proposal => handleQuorumProposalValidated env s proposal
  | .quorumVoteRecv vote =>
    let collected := collectVote env.quorumMembership.leader env.quorumMembership env.voteSigned
      (fun qc => .qcFormed (.inl qc)) s.publicKey s.voteCollector vote
    some ({ s with voteCollector := collected.1 },collected.2)
  | .timeoutVoteRecv vote =>
    -- the timeout leader collects, with an accumulator over the quorum membership
    let collected := collectVote env.timeoutMembership.leader env.quorumMembership env.voteSigned
      (fun tc => .qcFormed (.inr tc)) s.publicKey s.timeoutVoteCollector vote
    some ({ s with timeoutVoteCollector := collected.1 },collected.2)
  | .qcFormed (.inr tc) =>
    let proposed := publishProposal env (tc.viewNumber + 1) { s with proposalCert := some (.timeout tc) }
    some (proposed.1,.quorumIntent (.cancelPollForVotes tc.viewNumber) :: proposed.2)
  | .qcFormed (.inl qc) =>
    -- a failed update_high_qc in storage is only logged
    let proposed := publishProposal env (qc.viewNumber + 1) { s with consensus := { s.consensus with highQc := qc } }
    some (proposed.1,.quorumIntent (.cancelPollForVotes qc.viewNumber) :: proposed.2)
  | .upgradeCertificateFormed cert =>
    some (if s.curView + 3 ≤ cert.decideBy then { s with formedUpgradeCertificate := some cert } else s,[])
  | .daCertificateRecv cert =>
    let voted := tryVote env { s with consensus := s.consensus.insertDaCert cert.viewNumber cert }
    some (voted.1,[.quorumIntent (.cancelPollForDac cert.viewNumber),
      .committeeIntent (.cancelPollForVotes cert.viewNumber)] ++ voted.2)
  | .vidShareRecv disperse =>
    if disperse.viewNumber + 1 < s.curView then some (s,[]) else
    if !validateDisperse env s disperse then some (s,[]) else
    let s := { s with consensus := s.consensus.insertVidShare disperse.viewNumber disperse.recipientKey disperse }
    if disperse.recipientKey ≠ s.publicKey then some (s,[]) else
    let voted := tryVote env s
    some (voted.1,.quorumIntent (.cancelPollForVidDisperse disperse.viewNumber) :: voted.2)
  | .viewChange newView =>
    let polled : List Output := [.quorumIntent (.pollForVidDisperse (s.curView + 1))]
    let upgraded := upgradeVersion newView s
    let payload := match upgraded.1.payloadCommitmentAndMetadata with
      | some stored => if stored.blockView < s.curView then none else some stored
      | none => none
    let t := { upgraded.1 with payloadCommitmentAndMetadata := payload }
    match updateView newView t.curView t.timeoutTask with
    | .error _ => some (t,polled ++ upgraded.2)
    | .ok (curView,timeoutTask,changed) =>
      some ({ t with curView := curView, timeoutTask := timeoutTask },
        polled ++ upgraded.2 ++ changed ++ [.emit ⟨s.curView,.viewFinished s.curView⟩])
  | .timeout view =>
    if view ≤ s.curView then some (s,[]) else
    if !env.timeoutMembership.hasStake s.publicKey then some (s,[]) else
    let cancelled : List Output := [.quorumIntent (.cancelPollForVotes view),.quorumIntent (.cancelPollForProposal view)]
    match env.createSignedVote s.privateKey view view with
    | none => some (s,cancelled)
    | some signature => some (s,cancelled ++ [.broadcast (.timeoutVoteSend ⟨s.publicKey,signature,view,view⟩),
        .emit ⟨view,.viewTimeout view⟩,.emit ⟨view,.replicaViewTimeout view⟩])
  | .sendPayloadCommitmentAndMetadata payloadCommitment builderCommitment metadata view fee =>
    let s := { s with payloadCommitmentAndMetadata := some ⟨payloadCommitment,builderCommitment,metadata,fee,view⟩ }
    let first := if env.quorumMembership.leader view = s.publicKey ∧ s.consensus.highQc.viewNumber + 1 = view
      then publishProposal env view s else (s,[])
    let evidence : Bool := match first.1.proposalCert with
      | some (.timeout tc) => env.quorumMembership.leader (tc.viewNumber + 1) == s.publicKey
      | some (.viewSync vsc) => env.quorumMembership.leader vsc.viewNumber == s.publicKey
      | none => false
    let second := if evidence then publishProposal env view first.1 else (first.1,[])
    some (second.1,first.2 ++ second.2)
  | .viewSyncFinalizeCertificate2Recv cert =>
    if !env.isValidCert cert env.quorumMembership then some (s,[]) else
    let s := { s with proposalCert := some (.viewSync cert) }
    let proposed := if env.quorumMembership.leader cert.viewNumber = s.publicKey
      then publishProposal env cert.viewNumber s else (s,[])
    some (proposed.1,.quorumIntent (.cancelPollForVotes (cert.viewNumber - 1)) :: proposed.2)
  | _ => some (s,[])

-- ConsensusTaskState::handle. A build with overflow checks panics at the first view operation
-- that leaves the u64 range, and then the task never returns.
def handle (env : Env) (s : ConsensusTaskState) (event : HotShotEvent) : Option (ConsensusTaskState × List Output) :=
  if env.overflowChecks && (eventViewArithmetic env s event).any (·.overflows) then none
  else handleArms env s event

theorem handle_arms_of {env : Env} {s : ConsensusTaskState} {event : HotShotEvent}
    {result : ConsensusTaskState × List Output} (ran : handle env s event = some result) :
    handleArms env s event = some result := by
  unfold handle at ran
  split at ran
  · cases ran
  · exact ran

theorem handle_of_quiet {env : Env} {s : ConsensusTaskState} {event : HotShotEvent}
    (quiet : eventViewArithmetic env s event = []) : handle env s event = handleArms env s event := by
  simp [handle,quiet]

theorem max_view_vote_panics {env : Env} (checked : env.overflowChecks = true) (s : ConsensusTaskState)
    (signer signature data : Nat) : handle env s (.quorumVoteRecv ⟨signer,signature,data,UInt64.size - 1⟩) = none := by
  simp [handle,checked,eventViewArithmetic,ViewOp.overflows]

theorem handle_proposalRecv {env : Env} {s next : ConsensusTaskState} {proposal : QuorumProposal} {sender : Nat}
    {out : List Output} (ran : handle env s (.quorumProposalRecv proposal sender) = some (next,out)) :
    ∃ received sent, ProposalRecvStep proposal s received sent ∧
      ((next = received ∧ out = sent) ∨ ∃ current,
        next = (tryVote env { received with currentProposal := some current }).1 ∧
        out = sent ++ (voteIfAble env { received with currentProposal := some current }).2) := by
  have step := env.proposalRecvStep proposal sender s
  replace ran := handle_arms_of ran
  simp only [handleArms] at ran
  split at ran <;> obtain ⟨rfl,rfl⟩ := Prod.ext_iff.mp (Option.some.inj ran)
  · exact ⟨_,_,step,.inr ⟨_,rfl,rfl⟩⟩
  · exact ⟨_,_,step,.inl ⟨rfl,rfl⟩⟩

-- What any event does to the shared record: QuorumProposalValidated runs the decide rule, the
-- proposal-receipt helper records leaves, validated states and a high QC no older, QCFormed with a
-- QC sets the high QC, a DA certificate or VID share is inserted, and nothing else writes.
theorem handle_consensus {env : Env} {s next : ConsensusTaskState} {event : HotShotEvent} {out : List Output}
    (ran : handle env s event = some (next,out)) :
    (∃ proposal, event = .quorumProposalValidated proposal) ∨
    (∃ proposal sender, event = .quorumProposalRecv proposal sender ∧
      next.consensus = { s.consensus with
        savedLeaves := next.consensus.savedLeaves, validatedStateMap := next.consensus.validatedStateMap
        highQc := next.consensus.highQc } ∧
      s.consensus.highQc.viewNumber ≤ next.consensus.highQc.viewNumber) ∨
    (∃ qc, event = .qcFormed (.inl qc) ∧ next.consensus = { s.consensus with highQc := qc }) ∨
    (∃ cert, event = .daCertificateRecv cert ∧ next.consensus = s.consensus.insertDaCert cert.viewNumber cert) ∨
    (∃ disperse, event = .vidShareRecv disperse ∧
      next.consensus = s.consensus.insertVidShare disperse.viewNumber disperse.recipientKey disperse) ∨
    next.consensus = s.consensus := by
  have arms := handle_arms_of ran
  cases event with
  | quorumProposalValidated proposal => exact .inl ⟨proposal,rfl⟩
  | quorumProposalRecv proposal sender =>
    obtain ⟨received,sent,step,⟨rfl,-⟩ | ⟨current,rfl,-⟩⟩ := handle_proposalRecv ran <;>
      exact .inr (.inl ⟨proposal,sender,rfl,step.consensus,step.highQc⟩)
  | qcFormed certificate =>
    cases certificate with
    | inl qc =>
      simp only [handleArms,Option.some.injEq,Prod.ext_iff] at arms
      exact .inr (.inr (.inl ⟨qc,rfl,by rw [← arms.1]; simp⟩))
    | inr tc =>
      simp only [handleArms,Option.some.injEq,Prod.ext_iff] at arms
      exact .inr (.inr (.inr (.inr (.inr (by rw [← arms.1]; simp)))))
  | daCertificateRecv cert =>
    simp only [handleArms,Option.some.injEq,Prod.ext_iff] at arms
    exact .inr (.inr (.inr (.inl ⟨cert,rfl,by rw [← arms.1]; simp⟩)))
  | vidShareRecv disperse =>
    simp only [handleArms] at arms
    split_ifs at arms <;> simp only [Option.some.injEq,Prod.ext_iff] at arms <;> rw [← arms.1]
    · exact .inr (.inr (.inr (.inr (.inr rfl))))
    · exact .inr (.inr (.inr (.inr (.inr rfl))))
    · exact .inr (.inr (.inr (.inr (.inl ⟨disperse,rfl,rfl⟩))))
    · exact .inr (.inr (.inr (.inr (.inl ⟨disperse,rfl,by simp⟩))))
  | _ =>
    refine .inr (.inr (.inr (.inr (.inr ?_))))
    simp only [handleArms] at arms
    repeat' split at arms
    all_goals obtain ⟨rfl,-⟩ := Prod.ext_iff.mp (Option.some.inj arms)
    all_goals simp

-- What a QuorumProposalValidated does to the lock and the anchor, in the terms of the rules the
-- walk applies: the lock moves to the justify-QC's view exactly when Locks holds, the anchor to
-- the view below it exactly when Decides holds, and only a decide emits anything to the application.
structure LockDecideRule (s next : ConsensusTaskState) (proposal : QuorumProposal) (out : List Output) : Prop where
  locks : Locks s.consensus proposal → next.consensus.lockedView = proposal.justifyQc.viewNumber
  keepsLock : ¬Locks s.consensus proposal → next.consensus.lockedView = s.consensus.lockedView
  decides : Decides s.consensus proposal →
    next.consensus.lastDecidedView + 1 = proposal.justifyQc.viewNumber ∧
      next.consensus.lastDecidedView < next.consensus.lockedView ∧
      ∃ locking leafChain blockSize, startLeaf s.consensus proposal.justifyQc.viewNumber = some locking ∧
        .emit ⟨s.consensus.lastDecidedView,.decide leafChain locking.justifyQc blockSize⟩ ∈ out
  keepsAnchor : ¬Decides s.consensus proposal →
    next.consensus.lastDecidedView = s.consensus.lastDecidedView ∧ ∀ event, .emit event ∉ out

theorem chainWalk_commits {env : Env} {s : ConsensusTaskState} {proposal : QuorumProposal} {walk : DecideWalk}
    (walked : chainWalk env s proposal = some walk) : commitWalk s.consensus walk ≠ none := by
  cases decided : walk.newDecideReached
  · simp [commitWalk,decided]
  · obtain ⟨-,locking,-,qc⟩ := (chainWalk_flags walked).2.2.2 decided
    simp [commitWalk,decided,qc]

theorem handle_validated_rule {env : Env} {s next : ConsensusTaskState} {proposal : QuorumProposal}
    {out : List Output} (ran : handle env s (.quorumProposalValidated proposal) = some (next,out)) :
    LockDecideRule s next proposal out := by
  obtain ⟨walk,decided,rest,walked,committed,-,-,rfl,restOnly⟩ := handleQuorumProposalValidated_some (handle_arms_of ran)
  obtain ⟨lockIff,lockView,decideIff,decideFacts⟩ := chainWalk_flags walked
  obtain ⟨locked,-,undecidedCase,decidedCase⟩ := commitWalk_some committed
  have noEmit : ∀ event, .emit event ∉ rest := fun event mem => by
    rcases restOnly _ mem with ⟨_,absurd⟩ | ⟨_,absurd⟩ | ⟨_,absurd⟩ <;> cases absurd
  refine ⟨fun locks => ?_,fun unlocked => ?_,fun decides => ?_,fun undecided => ?_⟩
  · rw [locked,if_pos (lockIff.mpr locks),lockView (lockIff.mpr locks)]
  · rw [locked,if_neg (mt lockIff.mp unlocked)]
  · have reached := decideIff.mpr decides
    obtain ⟨qc,found,anchored,outputs,-⟩ := decidedCase reached
    obtain ⟨below,locking,start,qcEq⟩ := decideFacts reached
    have lockedAt := lockIff.mpr (decides_locks decides)
    rw [qcEq,Option.some.injEq] at found
    subst found
    refine ⟨by rw [anchored,below],?_,locking,walk.leafViews,some walk.includedTxns.length,start,by simp [outputs]⟩
    rw [anchored,locked,if_pos lockedAt,lockView lockedAt]
    omega
  · have unreached : walk.newDecideReached = false := by simpa using mt decideIff.mp undecided
    obtain ⟨anchored,silent,-⟩ := undecidedCase unreached
    exact ⟨anchored,by simpa [silent] using noEmit⟩

-- Under overflow checks a decide whose new anchor is above cur_view panics at the views-per-decide
-- metric (mod.rs:525-526), after LeafDecided is sent and before the Decide event is.
theorem decide_above_view_panics {env : Env} {s : ConsensusTaskState} {proposal : QuorumProposal}
    (checked : env.overflowChecks = true) (decides : Decides s.consensus proposal)
    (above : s.curView + 1 < proposal.justifyQc.viewNumber) :
    handle env s (.quorumProposalValidated proposal) = none := by
  cases walked : chainWalk env { s with currentProposal := some proposal } proposal with
  | none => simp [handle,handleArms,handleQuorumProposalValidated,walked]
  | some walk =>
    obtain ⟨qc,committed⟩ := Option.ne_none_iff_exists'.mp (chainWalk_commits walked)
    have reached := (chainWalk_flags walked).2.2.1.mpr decides
    have anchor := ((chainWalk_flags walked).2.2.2 reached).1
    have overflows : (eventViewArithmetic env s (.quorumProposalValidated proposal)).any (·.overflows) = true := by
      simp only [eventViewArithmetic,decideArithmetic,walked,committed,reached,if_true,List.any_cons,
        List.any_append,List.any_cons,ViewOp.overflows]
      simp only [decide_eq_true (show s.curView < walk.newAnchorView by omega),Bool.or_true,Bool.true_or]
    simp [handle,checked,overflows]

-- TaskState::filter: true for the events the task drops, every event but the twelve handle has an
-- arm for and Shutdown.
def ConsensusTaskState.filter (_ : ConsensusTaskState) : HotShotEvent → Bool
  | .quorumProposalRecv _ _ | .quorumVoteRecv _ | .quorumProposalValidated _ | .qcFormed _
  | .upgradeCertificateFormed _ | .daCertificateRecv _ | .viewChange _
  | .sendPayloadCommitmentAndMetadata _ _ _ _ _ | .timeout _ | .timeoutVoteRecv _ | .vidShareRecv _
  | .viewSyncFinalizeCertificate2Recv _ | .shutdown => false
  | _ => true

-- TaskState::should_shutdown
def shouldShutdown : HotShotEvent → Bool
  | .shutdown => true
  | _ => false

-- TaskState::handle_event: the event goes to handle, and the task is never asked to stop.
def handleEvent (env : Env) (event : HotShotEvent) (s : ConsensusTaskState) :
    Option ((ConsensusTaskState × List Output) × Option Unit) :=
  (handle env s event).map fun done => (done,none)

end HotShotConsensus
