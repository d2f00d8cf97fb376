import HotShotConsensus.Steps
import Mathlib.Data.List.Dedup

namespace HotShotConsensus

-- The transaction commitments of a leaf's payload, when it has one.
def payloadTxns (env : Env) (leaf : Leaf) : List Nat :=
  match leaf.blockPayload with
  | some payload => env.transactionCommitments payload leaf.blockHeader.metadata
  | none => []

-- The certificate a decided leaf hands to decided_upgrade_cert: its own, unless already too late.
def adoptedCert (view : Nat) (leaf : Leaf) : Option UpgradeCertificate :=
  leaf.upgradeCertificate.filter fun cert => view ≤ cert.decideBy

-- The HashSet of included transactions, grown by insert.
theorem foldl_insert (txns acc : List Nat) (distinct : acc.Nodup) :
    (txns.foldl (fun txns txn => txns.insert txn) acc).Nodup ∧
      ∀ txn, txn ∈ txns.foldl (fun txns txn => txns.insert txn) acc ↔ txn ∈ acc ∨ txn ∈ txns := by
  induction txns generalizing acc with
  | nil => simp [distinct]
  | cons first rest ih =>
    obtain ⟨distinct',members⟩ := ih (acc.insert first) (distinct.insert)
    refine ⟨distinct',fun txn => ?_⟩
    rw [List.foldl_cons,members,List.mem_insert_iff,List.mem_cons]
    exact or_assoc.trans or_left_comm

-- What the walk has collected against the walk it started from: decided_upgrade_cert is the last
-- certificate adopted from the decided leaves (the start's when none was), included_txns holds
-- each transaction of the leaf chain's payloads once, and nothing is collected before a decide.
structure Collected (env : Env) (view : Nat) (start walk : DecideWalk) : Prop where
  cert : walk.decidedUpgradeCert = ((walk.leafsDecided.filterMap (adoptedCert view)).getLast?).or start.decidedUpgradeCert
  distinct : walk.includedTxns.Nodup
  txns : ∀ txn, txn ∈ walk.includedTxns ↔ txn ∈ walk.leafViews.flatMap fun info => payloadTxns env info.leaf
  undecided : walk.newDecideReached = false → walk.leafsDecided = []
  chain : walk.leafViews.map (·.leaf) = walk.leafsDecided

section Walk
variable {env : Env} {consensus : Consensus} {publicKey view : Nat} {start : DecideWalk}

theorem collected_empty {walk : DecideWalk} (cert : walk.decidedUpgradeCert = start.decidedUpgradeCert)
    (views : walk.leafViews = []) (decided : walk.leafsDecided = []) (txns : walk.includedTxns = []) :
    Collected env view start walk :=
  ⟨by simp [cert,decided],by simp [txns],by simp [txns,views],fun _ => decided,by simp [views,decided]⟩

theorem extendChain_keeps {walk next : DecideWalk} {leaf : Leaf} (extended : extendChain walk leaf = some next) :
    next.decidedUpgradeCert = walk.decidedUpgradeCert ∧ next.leafViews = walk.leafViews ∧
      next.leafsDecided = walk.leafsDecided ∧ next.includedTxns = walk.includedTxns := by
  unfold extendChain at extended
  split at extended
  · cases extended
    split_ifs <;> exact ⟨rfl,rfl,rfl,rfl⟩
  · cases extended

@[simp] theorem adoptedCert_fillPayload (leaf : Leaf) :
    adoptedCert view (fillPayload env consensus leaf) = adoptedCert view leaf := by
  simp [adoptedCert]

theorem collectDecided_cert (walk : DecideWalk) (leaf : Leaf) :
    (collectDecided env consensus publicKey view walk leaf).decidedUpgradeCert =
      (adoptedCert view leaf).or walk.decidedUpgradeCert := by
  cases found : leaf.upgradeCertificate with
  | none => simp [collectDecided,adoptedCert,found]
  | some upgrade =>
    by_cases late : upgrade.decideBy < view
    · simp [collectDecided,adoptedCert,found,late,Option.filter,Nat.not_le.mpr late]
    · simp [collectDecided,adoptedCert,found,late,Option.filter,Nat.le_of_not_lt late]

theorem collectDecided_collected {walk : DecideWalk} (leaf : Leaf) (reached : walk.newDecideReached = true)
    (kept : Collected env view start walk) :
    Collected env view start (collectDecided env consensus publicKey view walk leaf) := by
  obtain ⟨cert,distinct,txns,-,chain⟩ := kept
  have grown : (collectDecided env consensus publicKey view walk leaf).includedTxns.Nodup ∧
      ∀ txn, txn ∈ (collectDecided env consensus publicKey view walk leaf).includedTxns ↔
        txn ∈ walk.includedTxns ∨ txn ∈ payloadTxns env (fillPayload env consensus leaf) := by
    have added := foldl_insert (payloadTxns env (fillPayload env consensus leaf)) walk.includedTxns distinct
    simp only [collectDecided]
    split <;> rename_i filled <;> simp only [payloadTxns,filled,fillPayload_blockHeader] at added ⊢
    · exact added
    · simpa using distinct
  refine ⟨?_,grown.1,fun txn => ?_,fun undecided => by simp [collectDecided,reached] at undecided,
    by simp [collectDecided,chain]⟩
  · rw [collectDecided_cert,cert]
    cases adopt : adoptedCert view leaf <;> simp [collectDecided,adopt]
  · rw [grown.2,txns]
    simp [collectDecided]

theorem Collected.transfer {walk next : DecideWalk} (kept : Collected env view start walk)
    (same : next.decidedUpgradeCert = walk.decidedUpgradeCert ∧ next.leafViews = walk.leafViews ∧
      next.leafsDecided = walk.leafsDecided ∧ next.includedTxns = walk.includedTxns)
    (undecided : next.newDecideReached = false → walk.leafsDecided = []) : Collected env view start next := by
  obtain ⟨cert,views,decided,txns⟩ := same
  exact ⟨by rw [cert,decided]; exact kept.cert,by rw [txns]; exact kept.distinct,by rw [txns,views]; exact kept.txns,
    fun unreached => by rw [decided]; exact undecided unreached,by rw [views,decided]; exact kept.chain⟩

theorem decideVisitor_collected {walk : DecideWalk} (leaf : Leaf) (kept : Collected env view start walk) :
    Collected env view start (decideVisitor env consensus publicKey view walk leaf).1 := by
  unfold decideVisitor
  cases reached : walk.newDecideReached
  · simp only [Bool.false_eq_true,if_false]
    cases extended : extendChain walk leaf with
    | none => exact kept
    | some next =>
      have moved := kept.transfer (extendChain_keeps extended) fun _ => kept.undecided reached
      dsimp only
      split
      · exact collectDecided_collected leaf ‹_› moved
      · exact moved
  · simp only [↓reduceIte,reached]
    exact collectDecided_collected leaf reached kept

theorem visitAll_collected (path : List Leaf) {walk : DecideWalk} (kept : Collected env view start walk) :
    Collected env view start (visitAll (decideVisitor env consensus publicKey view) walk path).1 := by
  induction path generalizing walk with
  | nil => exact kept
  | cons leaf rest ih =>
    have stepped : Collected env view start (decideVisitor env consensus publicKey view walk leaf).1 :=
      decideVisitor_collected leaf kept
    simp only [visitAll]
    split <;> rename_i next _ visited <;> rw [visited] at stepped
    · exact stepped
    · exact ih stepped

end Walk

theorem chainWalk_collected {env : Env} {s : ConsensusTaskState} {proposal : QuorumProposal} {walk : DecideWalk}
    (walked : chainWalk env s proposal = some walk) :
    Collected env proposal.viewNumber (startWalk s proposal.viewNumber) walk := by
  rw [chainWalk_eq walked]
  split
  · exact visitAll_collected _ (collected_empty rfl rfl rfl rfl)
  · exact collected_empty rfl rfl rfl rfl

theorem Collected.blockSize {env : Env} {view : Nat} {start walk : DecideWalk} (kept : Collected env view start walk) :
    walk.includedTxns.length = (walk.leafViews.flatMap fun info => payloadTxns env info.leaf).dedup.length :=
  ((List.perm_ext_iff_of_nodup kept.distinct (List.nodup_dedup _)).mpr fun txn => by
    rw [List.mem_dedup]; exact kept.txns txn).length_eq

theorem chainWalk_anchor {env : Env} {s : ConsensusTaskState} {proposal : QuorumProposal} {walk : DecideWalk}
    (walked : chainWalk env s proposal = some walk) (reached : walk.newDecideReached = true) :
    ∃ locking anchor, startLeaf s.consensus proposal.justifyQc.viewNumber = some locking ∧
      s.consensus.leaf locking.parentCommitment = some anchor ∧ anchor.viewNumber ≠ s.consensus.lastDecidedView ∧
      walk.newAnchorView = anchor.viewNumber ∧ walk.newDecideQc = some locking.justifyQc ∧
      (walk.leafViews.map (·.leaf)).head? = some (fillPayload env s.consensus anchor) := by
  rcases chainWalk_outcome walked with ⟨-,-,unreached⟩ | ⟨-,-,-,-,-,-,-,unreached⟩ |
    ⟨decides,locking,anchor,-,start,parent,-,-,rfl⟩
  · exact absurd reached (by simp [unreached])
  · exact absurd reached (by simp [unreached])
  · obtain ⟨-,anchor',parent',-,fresh⟩ := (decides_at start).1 decides
    rw [parent,Option.some.injEq] at parent'
    subst parent'
    refine ⟨locking,anchor,start,parent,fresh,by simp [collectDecided,anchorWalk],
      by simp [collectDecided,anchorWalk,lockWalk],?_⟩
    rw [(foldl_collectDecided_leaves _ _).2]
    simp [collectDecided,anchorWalk,lockWalk,startWalk]

theorem validated_outputs_decided {env : Env} {s next : ConsensusTaskState} {proposal : QuorumProposal}
    {out : List Output} (ran : handle env s (.quorumProposalValidated proposal) = some (next,out)) :
    ∃ walk decided, chainWalk env s proposal = some walk ∧ commitWalk s.consensus walk = some (next.consensus,decided) ∧
      next.decidedUpgradeCert = walk.decidedUpgradeCert ∧
      (∀ leaves, .broadcast (.leafDecided leaves) ∈ out → .broadcast (.leafDecided leaves) ∈ decided) ∧
      (∀ event, .emit event ∈ out → .emit event ∈ decided) ∧ decided ⊆ out := by
  obtain ⟨walk,decided,rest,walked,committed,-,cert,rfl,restOnly⟩ :=
    handleQuorumProposalValidated_some (handle_arms_of ran)
  have notRest : ∀ output ∈ rest, (∀ leaves, output ≠ .broadcast (.leafDecided leaves)) ∧ ∀ event, output ≠ .emit event := by
    intro output mem
    rcases restOnly output mem with ⟨_,rfl⟩ | ⟨_,rfl⟩ | ⟨_,rfl⟩ <;> simp
  refine ⟨walk,decided,walked,committed,cert,fun leaves mem => ?_,fun event mem => ?_,List.subset_append_left _ _⟩
  · rcases List.mem_append.mp mem with mem | mem
    · exact mem
    · exact absurd rfl ((notRest _ mem).1 leaves)
  · rcases List.mem_append.mp mem with mem | mem
    · exact mem
    · exact absurd rfl ((notRest _ mem).2 event)

-- Each saved leaf's justify-QC names its parent's commitment and, when the parent is saved, its view.
def LeavesJustified (consensus : Consensus) : Prop :=
  ∀ commitment leaf, consensus.leaf commitment = some leaf →
    leaf.justifyQc.data = leaf.parentCommitment ∧
      ∀ parent, consensus.leaf leaf.parentCommitment = some parent → leaf.justifyQc.viewNumber = parent.viewNumber

theorem startLeaf_saved {consensus : Consensus} {view : Nat} {leaf : Leaf} (start : startLeaf consensus view = some leaf) :
    ∃ commitment, consensus.leaf commitment = some leaf := by
  obtain ⟨commitment,-,found⟩ := Option.bind_eq_some.mp start
  exact ⟨commitment,found⟩

theorem validated_decide_event {env : Env} {s next : ConsensusTaskState} {proposal : QuorumProposal}
    {out : List Output} {view : Nat} {leafChain : List LeafInfo} {qc : QuorumCertificate} {blockSize : Option Nat}
    (ran : handle env s (.quorumProposalValidated proposal) = some (next,out))
    (emitted : .emit ⟨view,.decide leafChain qc blockSize⟩ ∈ out) :
    view = s.consensus.lastDecidedView ∧ view ≠ next.consensus.lastDecidedView ∧
    (LeavesJustified s.consensus → ∃ anchor, (leafChain.map (·.leaf)).head? = some (fillPayload env s.consensus anchor) ∧
      s.consensus.leaf qc.data = some anchor ∧ qc.viewNumber = anchor.viewNumber) ∧
    blockSize = some (leafChain.flatMap fun info => payloadTxns env info.leaf).dedup.length := by
  obtain ⟨walk,decided,walked,committed,-,-,fromDecided,-⟩ := validated_outputs_decided ran
  obtain ⟨-,-,undecidedCase,decidedCase⟩ := commitWalk_some committed
  cases reached : walk.newDecideReached
  · simpa [(undecidedCase reached).2.1] using fromDecided _ emitted
  obtain ⟨qc',found,anchored,outputs,-⟩ := decidedCase reached
  have fields := fromDecided _ emitted
  simp only [outputs,List.mem_cons,Output.emit.injEq,Event.mk.injEq,EventType.decide.injEq,reduceCtorEq,
    List.not_mem_nil,false_or,or_false] at fields
  obtain ⟨rfl,rfl,rfl,rfl⟩ := fields
  obtain ⟨locking,anchor,start,parent,fresh,anchorView,decideQc,first⟩ := chainWalk_anchor walked reached
  rw [decideQc,Option.some.injEq] at found
  subst found
  refine ⟨rfl,by rw [anchored,anchorView]; exact Ne.symm fresh,fun justified => ?_,
    by rw [(chainWalk_collected walked).blockSize]⟩
  obtain ⟨commitment,saved⟩ := startLeaf_saved start
  obtain ⟨named,parentView⟩ := justified commitment locking saved
  exact ⟨anchor,first,by rw [named]; exact parent,parentView anchor parent⟩

theorem validated_decide_pairs {env : Env} {s next : ConsensusTaskState} {proposal : QuorumProposal}
    {out : List Output} {view : Nat} {leafChain : List LeafInfo} {qc : QuorumCertificate} {blockSize : Option Nat}
    (ran : handle env s (.quorumProposalValidated proposal) = some (next,out))
    (emitted : .emit ⟨view,.decide leafChain qc blockSize⟩ ∈ out) :
    ∃ rest, out = .broadcast (.leafDecided (leafChain.map (·.leaf))) :: .emit ⟨view,.decide leafChain qc blockSize⟩ :: rest ∧
      ∀ output ∈ rest, (∃ task, output = .cancel task) ∨ (∃ task, output = .spawn task) ∨
        ∃ vote, output = .broadcast (.quorumVoteSend vote) := by
  obtain ⟨walk,decided,rest,walked,committed,-,-,rfl,restOnly⟩ :=
    handleQuorumProposalValidated_some (handle_arms_of ran)
  have notRest : .emit ⟨view,.decide leafChain qc blockSize⟩ ∉ rest := fun mem => by
    rcases restOnly _ mem with ⟨_,absurd⟩ | ⟨_,absurd⟩ | ⟨_,absurd⟩ <;> cases absurd
  obtain ⟨-,-,undecidedCase,decidedCase⟩ := commitWalk_some committed
  cases reached : walk.newDecideReached
  · rw [(undecidedCase reached).2.1,List.nil_append] at emitted
    exact absurd emitted notRest
  obtain ⟨qc',-,-,outputs,-⟩ := decidedCase reached
  rw [outputs] at emitted ⊢
  rcases List.mem_append.mp emitted with mem | mem
  · simp only [List.mem_cons,Output.emit.injEq,Event.mk.injEq,EventType.decide.injEq,reduceCtorEq,
      List.not_mem_nil,false_or,or_false] at mem
    obtain ⟨rfl,rfl,rfl,rfl⟩ := mem
    exact ⟨rest,by rw [(chainWalk_collected walked).chain]; rfl,restOnly⟩
  · exact absurd mem notRest

-- A chain of leaves as a decide reports it: from the leaf at the new anchor view down the parent
-- links, none at the old anchor view, ending just above the old anchor's leaf or just above a
-- commitment the store does not hold.
structure DecidedChain (consensus : Consensus) (newAnchorView : Nat) (anchor : Leaf) (path : List Leaf) : Prop where
  anchorView : anchor.viewNumber = newAnchorView
  linked : (anchor :: path).Chain' fun newer older => consensus.leaf newer.parentCommitment = some older
  fresh : ∀ leaf ∈ anchor :: path, leaf.viewNumber ≠ consensus.lastDecidedView
  stops : consensus.leaf (nextAfter anchor.parentCommitment path) = none ∨
    ∃ older, consensus.leaf (nextAfter anchor.parentCommitment path) = some older ∧
      older.viewNumber = consensus.lastDecidedView

theorem ancestry_decided_chain {consensus : Consensus} {anchor : Leaf} {fuel : Nat}
    (fresh : anchor.viewNumber ≠ consensus.lastDecidedView)
    (acyclic : (ancestry consensus.savedLeaves (.exclusive consensus.lastDecidedView) fuel anchor.parentCommitment).2 ≠ .cycle) :
    DecidedChain consensus anchor.viewNumber anchor
      (ancestry consensus.savedLeaves (.exclusive consensus.lastDecidedView) fuel anchor.parentCommitment).1 := by
  obtain ⟨atTerminator,atMissing⟩ := ancestry_end consensus.savedLeaves consensus.lastDecidedView fuel anchor.parentCommitment
  refine ⟨rfl,List.chain'_cons'.mpr ⟨fun older first => ancestry_head _ _ _ _ older first,ancestry_chain _ _ _ _⟩,
    ?_,?_⟩
  · intro leaf mem
    rcases List.mem_cons.mp mem with rfl | below
    · exact fresh
    · exact ancestry_exclusive_ne _ _ _ _ leaf below
  · cases last : (ancestry consensus.savedLeaves (.exclusive consensus.lastDecidedView) fuel anchor.parentCommitment).2 with
    | terminator => exact .inr (atTerminator last)
    | missing => exact .inl (atMissing last)
    | cycle => exact absurd last acyclic

theorem decided_chain_shape {env : Env} {s next : ConsensusTaskState} {proposal : QuorumProposal}
    {out : List Output} {view : Nat} {leafChain : List LeafInfo} {qc : QuorumCertificate} {blockSize : Option Nat}
    (ran : handle env s (.quorumProposalValidated proposal) = some (next,out))
    (emitted : .emit ⟨view,.decide leafChain qc blockSize⟩ ∈ out) :
    ∃ anchor path, leafChain.map (·.leaf) = (anchor :: path).map (fillPayload env s.consensus) ∧
      DecidedChain s.consensus next.consensus.lastDecidedView anchor path := by
  obtain ⟨walk,decided,walked,committed,-,-,fromDecided,-⟩ := validated_outputs_decided ran
  obtain ⟨-,-,undecidedCase,decidedCase⟩ := commitWalk_some committed
  have inDecided := fromDecided _ emitted
  rcases chainWalk_outcome walked with ⟨-,-,unreached⟩ | ⟨-,-,-,-,-,-,-,unreached⟩ |
    ⟨decides,locking,anchor,fuel,start,parent,-,acyclic,rfl⟩
  · simp [(undecidedCase unreached).2.1] at inDecided
  · simp [(undecidedCase unreached).2.1] at inDecided
  · obtain ⟨-,anchor',parent',-,fresh⟩ := (decides_at start).1 decides
    rw [parent,Option.some.injEq] at parent'
    subst parent'
    obtain ⟨qc',-,anchored,outputs,-⟩ := decidedCase (by simp [collectDecided,anchorWalk])
    simp only [outputs,List.mem_cons,Output.emit.injEq,Event.mk.injEq,EventType.decide.injEq,reduceCtorEq,
      List.not_mem_nil,false_or,or_false] at inDecided
    obtain ⟨-,rfl,-,-⟩ := inDecided
    refine ⟨anchor,(ancestry s.consensus.savedLeaves (.exclusive s.consensus.lastDecidedView) fuel
      anchor.parentCommitment).1,?_,?_⟩
    · rw [(foldl_collectDecided_leaves _ _).2]
      simp [collectDecided,anchorWalk,lockWalk,startWalk]
    · rw [anchored]
      simpa [collectDecided,anchorWalk] using ancestry_decided_chain fresh acyclic

theorem validated_upgrade_cert {env : Env} {s next : ConsensusTaskState} {proposal : QuorumProposal}
    {out : List Output} (ran : handle env s (.quorumProposalValidated proposal) = some (next,out)) :
    (∀ leaves, .broadcast (.leafDecided leaves) ∈ out →
      next.decidedUpgradeCert = ((leaves.filterMap (adoptedCert proposal.viewNumber)).getLast?).or s.decidedUpgradeCert) ∧
    ((∀ leaves, .broadcast (.leafDecided leaves) ∉ out) → next.decidedUpgradeCert = s.decidedUpgradeCert) := by
  obtain ⟨walk,decided,walked,committed,cert,published,-,included⟩ := validated_outputs_decided ran
  have kept := chainWalk_collected walked
  obtain ⟨-,-,undecidedCase,decidedCase⟩ := commitWalk_some committed
  cases reached : walk.newDecideReached
  · obtain ⟨-,silent,-⟩ := undecidedCase reached
    refine ⟨fun leaves mem => by simpa [silent] using published leaves mem,fun _ => ?_⟩
    rw [cert,kept.cert,kept.undecided reached]
    rfl
  · obtain ⟨qc,-,-,outputs,-⟩ := decidedCase reached
    refine ⟨fun leaves mem => ?_,fun none => absurd (included (by simp [outputs])) (none walk.leafsDecided)⟩
    have same : leaves = walk.leafsDecided := by simpa [outputs] using published leaves mem
    rw [same,cert,kept.cert]
    rfl

-- The views the Decide events of an output list are stamped with.
def decideViews (out : List Output) : List Nat :=
  out.filterMap fun
    | .emit ⟨view,.decide _ _ _⟩ => some view
    | _ => none

@[simp] theorem decideViews_nil : decideViews [] = [] := rfl

@[simp] theorem decideViews_cons (output : Output) (out : List Output) :
    decideViews (output :: out) = (match output with
      | .emit ⟨view,.decide _ _ _⟩ => [view]
      | _ => []) ++ decideViews out := by
  rcases output with _ | ⟨view,_ | _ | _ | _⟩ | _ | _ | _ | _ <;> rfl

@[simp] theorem decideViews_append (first second : List Output) :
    decideViews (first ++ second) = decideViews first ++ decideViews second :=
  List.filterMap_append _ _ _

theorem decideViews_eq_nil {out : List Output}
    (quiet : ∀ output ∈ out, ∀ view leafChain qc blockSize, output ≠ .emit ⟨view,.decide leafChain qc blockSize⟩) :
    decideViews out = [] :=
  List.filterMap_eq_nil_iff.mpr fun output mem => by
    rcases output with _ | ⟨view,⟨leafChain,qc,blockSize⟩ | _ | _ | _⟩ | _ | _ | _ | _
    all_goals first | rfl | exact absurd rfl (quiet _ mem view leafChain qc blockSize)

@[simp] theorem decideViews_collectVote (leader : Nat → Nat) (membership : Membership) (signed : SimpleVote → Bool)
    (formed : SimpleCertificate → HotShotEvent) (publicKey : Nat) (slot : Option VoteCollectionTaskState)
    (vote : SimpleVote) : decideViews (collectVote leader membership signed formed publicKey slot vote).2 = [] := by
  obtain ⟨cert,sent⟩ := collectVote_outputs leader membership signed formed publicKey slot vote
  rw [sent]
  cases cert <;> rfl

theorem AllSilent.decideViews_eq {out : List Output} (silent : AllSilent out) : decideViews out = [] :=
  decideViews_eq_nil fun _ mem _ _ _ _ same => by subst same; exact silent _ mem

theorem handle_decideViews {env : Env} {s next : ConsensusTaskState} {event : HotShotEvent} {out : List Output}
    (ran : handle env s event = some (next,out)) :
    decideViews out = [] ∨ ∃ proposal, event = .quorumProposalValidated proposal ∧
      decideViews out = [s.consensus.lastDecidedView] ∧
      s.consensus.lastDecidedView ≠ next.consensus.lastDecidedView := by
  rcases handle_arms ran with ⟨proposal,rfl⟩ | ⟨newView,rfl⟩ | ⟨proposal,sender,rfl⟩ | ⟨vote,rfl,rfl,rfl⟩ |
    ⟨vote,rfl,rfl,rfl⟩ | ⟨view,rfl,rfl,sent,silent,rfl | ⟨-,rfl⟩⟩ | quiet
  · obtain ⟨walk,decided,rest,walked,committed,-,-,rfl,restOnly⟩ :=
      handleQuorumProposalValidated_some (handle_arms_of ran)
    have quietRest : decideViews rest = [] := decideViews_eq_nil fun output mem => by
      rcases restOnly output mem with ⟨_,rfl⟩ | ⟨_,rfl⟩ | ⟨_,rfl⟩ <;> simp
    obtain ⟨-,-,undecidedCase,decidedCase⟩ := commitWalk_some committed
    cases reached : walk.newDecideReached
    · exact .inl (by simp [(undecidedCase reached).2.1,quietRest])
    · obtain ⟨qc,-,anchored,outputs,-⟩ := decidedCase reached
      obtain ⟨locking,anchor,-,-,fresh,anchorView,-⟩ := chainWalk_anchor walked reached
      exact .inr ⟨proposal,rfl,by simp [outputs,quietRest],by rw [anchored,anchorView]; exact Ne.symm fresh⟩
  · obtain ⟨-,-,-,⟨-,-,silent⟩ | ⟨-,-,-,changed,silent,rfl⟩⟩ := handle_viewChange_arm ran <;>
      exact .inl (by simp [silent.decideViews_eq])
  · exact .inl (handle_proposalRecv_arm ran).2.2.2.1.decideViews_eq
  · exact .inl (by simp)
  · exact .inl (by simp)
  · exact .inl silent.decideViews_eq
  · exact .inl (by simp [silent.decideViews_eq])
  · exact .inl quiet.outputs.decideViews_eq

theorem decide_views_rise_under_guard (env : Env) (events : List HotShotEvent) :
    ∀ sent s final out, AnchorBelowLock s → everyStep env lockGuard sent s events = true →
      runEvents env s events = some (final,out) →
      (decideViews out).Pairwise (· < ·) ∧
        (∀ view ∈ decideViews out, s.consensus.lastDecidedView ≤ view ∧ view < final.consensus.lastDecidedView) ∧
        s.consensus.lastDecidedView ≤ final.consensus.lastDecidedView := by
  induction events with
  | nil =>
    intro sent s final out _ _ ran
    obtain ⟨rfl,rfl⟩ := runEvents_nil ran
    simp
  | cons event rest ih =>
    intro sent s final out below guarded ran
    obtain ⟨next,first,more,handled,restRan,rfl⟩ := runEvents_cons ran
    obtain ⟨checked,restGuarded⟩ := everyStep_cons guarded handled
    obtain ⟨nextBelow,rises⟩ := guarded_step_anchor checked below handled
    obtain ⟨sorted,bounded,ends⟩ := ih _ next final more nextBelow restGuarded restRan
    rcases handle_decideViews handled with quiet | ⟨proposal,rfl,decided,moved⟩
    · rw [decideViews_append,quiet,List.nil_append]
      exact ⟨sorted,fun view mem => ⟨rises.trans (bounded view mem).1,(bounded view mem).2⟩,rises.trans ends⟩
    · have strict : s.consensus.lastDecidedView < next.consensus.lastDecidedView := lt_of_le_of_ne rises moved
      rw [decideViews_append,decided,List.singleton_append]
      refine ⟨List.pairwise_cons.mpr ⟨fun view mem => strict.trans_le (bounded view mem).1,sorted⟩,?_,rises.trans ends⟩
      intro view mem
      rcases List.mem_cons.mp mem with rfl | mem
      · exact ⟨le_rfl,strict.trans_le ends⟩
      · exact ⟨(strict.trans_le (bounded view mem).1).le,(bounded view mem).2⟩

-- Two upgrade certificates, both still in time for a proposal at view 5.
def newerUpgrade : UpgradeCertificate := ⟨3,2,10,11,100⟩

def olderUpgrade : UpgradeCertificate := ⟨1,3,20,21,100⟩

-- Leaves at views 4 to 1, each naming its parent's commitment and view; the leaves at views 3
-- and 1 carry the upgrade certificates. The anchor is at view 0, whose leaf is not saved.
def chainLeaves : List Leaf :=
  [⟨4,⟨3,9,[]⟩,9,⟨0,0⟩,none,none⟩,⟨3,⟨2,5,[]⟩,5,⟨0,0⟩,some newerUpgrade,none⟩,
    ⟨2,⟨1,2,[]⟩,2,⟨0,0⟩,none,none⟩,⟨1,⟨0,0,[]⟩,0,⟨0,0⟩,some olderUpgrade,none⟩]

def chainProposal : QuorumProposal :=
  ⟨⟨0,0⟩,5,⟨4,14,[]⟩,none,none⟩

def chainResult : ConsensusTaskState × List Output :=
  (handle fourNodes (idleNode (leafStore chainLeaves 0 0)) (.quorumProposalValidated chainProposal)).getD
    (idleNode (leafStore chainLeaves 0 0),[])

theorem chain_store_justified : LeavesJustified (leafStore chainLeaves 0 0) := by
  intro commitment leaf found
  obtain ⟨before,after,split,-⟩ := List.lookup_eq_some_iff.mp found
  have saved : (commitment,leaf) ∈ (leafStore chainLeaves 0 0).savedLeaves := by rw [split]; simp
  simp [leafStore,chainLeaves,fourNodes] at saved
  rcases saved with ⟨rfl,rfl⟩ | ⟨rfl,rfl⟩ | ⟨rfl,rfl⟩ | ⟨rfl,rfl⟩ <;> refine ⟨rfl,fun parent saved => ?_⟩ <;>
    simp [Consensus.leaf,leafStore,chainLeaves,fourNodes,List.lookup_cons] at saved <;> subst saved <;> rfl

theorem decide_stamped_with_old_anchor :
    LeavesJustified (leafStore chainLeaves 0 0) ∧
      handle fourNodes (idleNode (leafStore chainLeaves 0 0)) (.quorumProposalValidated chainProposal) =
        some (chainResult.1,chainResult.2) ∧
      decideViews chainResult.2 = [0] ∧ chainResult.1.consensus.lastDecidedView = 3 :=
  ⟨chain_store_justified,rfl,by decide,by decide⟩

theorem oldest_upgrade_cert_adopted :
    handle fourNodes (idleNode (leafStore chainLeaves 0 0)) (.quorumProposalValidated chainProposal) =
        some (chainResult.1,chainResult.2) ∧
      .broadcast (.leafDecided (chainLeaves.drop 1)) ∈ chainResult.2 ∧
      chainResult.1.decidedUpgradeCert = some olderUpgrade ∧ olderUpgrade ≠ newerUpgrade :=
  ⟨rfl,by decide,by decide,by decide⟩

-- The node over the same store at view 5, which no anchor the decide moves to is above.
def deciderNode : ConsensusTaskState := { idleNode (leafStore chainLeaves 0 0) with curView := 5 }

def deciderResult : ConsensusTaskState × List Output :=
  (handle fourNodes deciderNode (.quorumProposalValidated chainProposal)).getD (deciderNode,[])

def chainDecided : List LeafInfo := (chainLeaves.drop 1).map (⟨·,none⟩)

theorem chain_decide_follows_leaf_decided :
    handle fourNodes deciderNode (.quorumProposalValidated chainProposal) = some (deciderResult.1,deciderResult.2) ∧
      .emit ⟨0,.decide chainDecided ⟨3,9,[]⟩ (some 0)⟩ ∈ deciderResult.2 ∧
      ∃ rest, deciderResult.2 = .broadcast (.leafDecided (chainDecided.map (·.leaf))) ::
          .emit ⟨0,.decide chainDecided ⟨3,9,[]⟩ (some 0)⟩ :: rest ∧
        ∀ output ∈ rest, (∃ task, output = .cancel task) ∨ (∃ task, output = .spawn task) ∨
          ∃ vote, output = .broadcast (.quorumVoteSend vote) :=
  have ran : handle fourNodes deciderNode (.quorumProposalValidated chainProposal) =
      some (deciderResult.1,deciderResult.2) := rfl
  have emitted : Output.emit ⟨0,.decide chainDecided ⟨3,9,[]⟩ (some 0)⟩ ∈ deciderResult.2 := by decide
  ⟨ran,emitted,validated_decide_pairs ran emitted⟩

theorem chain_decide_event_fields :
    handle fourNodes deciderNode (.quorumProposalValidated chainProposal) = some (deciderResult.1,deciderResult.2) ∧
      .emit ⟨0,.decide chainDecided ⟨3,9,[]⟩ (some 0)⟩ ∈ deciderResult.2 ∧
      LeavesJustified deciderNode.consensus ∧
      (0 = deciderNode.consensus.lastDecidedView ∧ 0 ≠ deciderResult.1.consensus.lastDecidedView ∧
        (LeavesJustified deciderNode.consensus → ∃ anchor, (chainDecided.map (·.leaf)).head? =
            some (fillPayload fourNodes deciderNode.consensus anchor) ∧
          deciderNode.consensus.leaf 9 = some anchor ∧ 3 = anchor.viewNumber) ∧
        some 0 = some (chainDecided.flatMap fun info => payloadTxns fourNodes info.leaf).dedup.length) :=
  have ran : handle fourNodes deciderNode (.quorumProposalValidated chainProposal) =
      some (deciderResult.1,deciderResult.2) := rfl
  have emitted : Output.emit ⟨0,.decide chainDecided ⟨3,9,[]⟩ (some 0)⟩ ∈ deciderResult.2 := by decide
  ⟨ran,emitted,chain_store_justified,validated_decide_event ran emitted⟩

theorem chain_upgrade_cert_adopted :
    handle fourNodes deciderNode (.quorumProposalValidated chainProposal) = some (deciderResult.1,deciderResult.2) ∧
      (∀ leaves, .broadcast (.leafDecided leaves) ∈ deciderResult.2 →
        deciderResult.1.decidedUpgradeCert = ((leaves.filterMap (adoptedCert chainProposal.viewNumber)).getLast?).or
          deciderNode.decidedUpgradeCert) ∧
      ((∀ leaves, .broadcast (.leafDecided leaves) ∉ deciderResult.2) →
        deciderResult.1.decidedUpgradeCert = deciderNode.decidedUpgradeCert) :=
  have ran : handle fourNodes deciderNode (.quorumProposalValidated chainProposal) =
      some (deciderResult.1,deciderResult.2) := rfl
  ⟨ran,validated_upgrade_cert ran⟩

-- Producers registered for views 0 and 7: the decide to 3 cancels the first.
def registryNode : ConsensusTaskState :=
  { deciderNode with spawnedTasks := [(0,[.proposal 0]),(7,[.proposal 7])] }

-- One leaf longer, with a proposal at view 6 on top: two decides, to 3 and then to 4.
def longerChain : List Leaf := ⟨5,⟨4,14,[]⟩,14,⟨0,0⟩,none,none⟩ :: chainLeaves

def longerNode : ConsensusTaskState := { idleNode (leafStore longerChain 0 0) with curView := 6 }

def proposalOnLonger : QuorumProposal := ⟨⟨0,0⟩,6,⟨5,20,[]⟩,none,none⟩

def twoDecides : List HotShotEvent :=
  [.quorumProposalValidated chainProposal,.quorumProposalValidated proposalOnLonger]

def twoDecidesRun : ConsensusTaskState × List Output :=
  (runEvents fourNodes longerNode twoDecides).getD (longerNode,[])

theorem two_decides_keep_anchor :
    AnchorBelowLock longerNode ∧ everyStep fourNodes lockGuard [] longerNode twoDecides = true ∧
      runEvents fourNodes longerNode twoDecides = some (twoDecidesRun.1,twoDecidesRun.2) ∧
      (AnchorBelowLock twoDecidesRun.1 ∧
        longerNode.consensus.lastDecidedView ≤ twoDecidesRun.1.consensus.lastDecidedView) :=
  have below : AnchorBelowLock longerNode := Nat.le_refl 0
  have guarded : everyStep fourNodes lockGuard [] longerNode twoDecides = true := by decide
  ⟨below,guarded,rfl,anchor_monotone_under_guard fourNodes [] _ _ _ _ below guarded rfl⟩

theorem two_decides_report_rising_views :
    AnchorBelowLock longerNode ∧ everyStep fourNodes lockGuard [] longerNode twoDecides = true ∧
      runEvents fourNodes longerNode twoDecides = some (twoDecidesRun.1,twoDecidesRun.2) ∧
      ((decideViews twoDecidesRun.2).Pairwise (· < ·) ∧
        (∀ view ∈ decideViews twoDecidesRun.2, longerNode.consensus.lastDecidedView ≤ view ∧
          view < twoDecidesRun.1.consensus.lastDecidedView) ∧
        longerNode.consensus.lastDecidedView ≤ twoDecidesRun.1.consensus.lastDecidedView) :=
  have below : AnchorBelowLock longerNode := Nat.le_refl 0
  have guarded : everyStep fourNodes lockGuard [] longerNode twoDecides = true := by decide
  ⟨below,guarded,rfl,decide_views_rise_under_guard fourNodes twoDecides [] _ _ _ below guarded rfl⟩

-- Leaves at views 5, 4 and 3, the oldest naming a parent the store does not hold.
def gapLeaves : List Leaf :=
  [⟨5,⟨4,108,[]⟩,108,⟨0,0⟩,none,none⟩,⟨4,⟨3,103,[]⟩,103,⟨0,0⟩,none,none⟩,⟨3,⟨2,99,[]⟩,99,⟨0,0⟩,none,none⟩]

def gapNode : ConsensusTaskState := { idleNode (leafStore gapLeaves 1 1) with curView := 6 }

def gapProposal : QuorumProposal :=
  ⟨⟨0,0⟩,6,⟨5,114,[]⟩,none,none⟩

-- The walk error below the new anchor is only logged, and the decide goes out short of the old anchor.
theorem decide_despite_missing_ancestor :
    (visitLeafAncestors gapNode.consensus 5 (.exclusive 1) (decideVisitor fourNodes gapNode.consensus 1 6)
        { startWalk gapNode 6 with currentChainLength := 1 }).map (·.2) = some (.error .leafNotFound) ∧
      gapNode.consensus.leaf 99 = none ∧
      (handle fourNodes gapNode (.quorumProposalValidated gapProposal)).map (·.2.take 2) =
        some [.broadcast (.leafDecided (gapLeaves.drop 1)),
          .emit ⟨1,.decide ((gapLeaves.drop 1).map (⟨·,none⟩)) ⟨4,108,[]⟩ (some 0)⟩] :=
  ⟨rfl,rfl,rfl⟩

end HotShotConsensus
