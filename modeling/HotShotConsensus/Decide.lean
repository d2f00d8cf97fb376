import HotShotConsensus.Vote

namespace HotShotConsensus

-- The locals the QuorumProposalValidated arm threads through its ancestor-walk closure,
-- together with decided_upgrade_cert, which the closure assigns on self.
structure DecideWalk where
  lastViewNumberVisited : Nat
  currentChainLength : Nat
  newLockedView : Nat
  newCommitReached : Bool
  newDecideQc : Option QuorumCertificate
  newAnchorView : Nat
  newDecideReached : Bool
  leafViews : List LeafInfo
  leafsDecided : List Leaf
  includedTxns : List Nat
  decidedUpgradeCert : Option UpgradeCertificate

-- fill_block_payload_unchecked with the payload saved for the leaf's view, when there is one.
def fillPayload (env : Env) (consensus : Consensus) (leaf : Leaf) : Leaf :=
  match consensus.savedPayloads leaf.viewNumber with
  | some encoded => { leaf with blockPayload := some (env.fromBytes encoded leaf.blockHeader.metadata) }
  | none => leaf

@[simp] theorem fillPayload_upgradeCertificate (env : Env) (consensus : Consensus) (leaf : Leaf) :
    (fillPayload env consensus leaf).upgradeCertificate = leaf.upgradeCertificate := by
  unfold fillPayload; split <;> rfl

@[simp] theorem fillPayload_blockHeader (env : Env) (consensus : Consensus) (leaf : Leaf) :
    (fillPayload env consensus leaf).blockHeader = leaf.blockHeader := by
  unfold fillPayload; split <;> rfl

-- What the closure does with each leaf once the three-chain is found: adopt an upgrade
-- certificate still in time, fill the payload, attach this node's VID share, record transactions.
def collectDecided (env : Env) (consensus : Consensus) (publicKey view : Nat) (walk : DecideWalk)
    (leaf : Leaf) : DecideWalk :=
  { walk with
    decidedUpgradeCert := match leaf.upgradeCertificate with
      | some cert => if cert.decideBy < view then walk.decidedUpgradeCert else some cert
      | none => walk.decidedUpgradeCert
    leafViews := walk.leafViews ++
      [⟨fillPayload env consensus leaf,((consensus.vidShares leaf.viewNumber).getD fun _ => none) publicKey⟩]
    leafsDecided := walk.leafsDecided ++ [fillPayload env consensus leaf]
    includedTxns := match (fillPayload env consensus leaf).blockPayload with
      | some payload => (env.transactionCommitments payload leaf.blockHeader.metadata).foldl
          (fun txns txn => txns.insert txn) walk.includedTxns
      | none => walk.includedTxns }

-- The chain-extension step before a decide: the leaf must sit one view below the last visited.
def extendChain (walk : DecideWalk) (leaf : Leaf) : Option DecideWalk :=
  if walk.lastViewNumberVisited = leaf.viewNumber + 1 then
    let walk := { walk with
      lastViewNumberVisited := leaf.viewNumber, currentChainLength := walk.currentChainLength + 1 }
    some (if walk.currentChainLength = 2 then
        { walk with newLockedView := leaf.viewNumber, newCommitReached := true, newDecideQc := some leaf.justifyQc }
      else if walk.currentChainLength = 3 then
        { walk with newAnchorView := leaf.viewNumber, newDecideReached := true }
      else walk)
  else none

-- The closure passed to visit_leaf_ancestors.
def decideVisitor (env : Env) (consensus : Consensus) (publicKey view : Nat) (walk : DecideWalk)
    (leaf : Leaf) : DecideWalk × Bool :=
  match if walk.newDecideReached then some walk else extendChain walk leaf with
  | none => (walk,false)
  | some walk => (if walk.newDecideReached then collectDecided env consensus publicKey view walk leaf else walk,true)

def startWalk (s : ConsensusTaskState) (view : Nat) : DecideWalk :=
  ⟨view,0,s.consensus.lockedView,false,none,s.consensus.lastDecidedView,false,[],[],[],s.decidedUpgradeCert⟩

-- Phase one: on a consecutive parent the walk goes back from the justify-QC's view, exclusive of
-- the last decided view. Its error is only logged, so the walk's state is kept either way.
def chainWalk (env : Env) (s : ConsensusTaskState) (proposal : QuorumProposal) : Option DecideWalk :=
  if proposal.justifyQc.viewNumber + 1 = proposal.viewNumber then
    (visitLeafAncestors s.consensus proposal.justifyQc.viewNumber (.exclusive s.consensus.lastDecidedView)
      (decideVisitor env s.consensus s.publicKey proposal.viewNumber)
      { startWalk s proposal.viewNumber with currentChainLength := 1 }).map (·.1)
  else some (startWalk s proposal.viewNumber)

-- Phase two, under the write lock: move the lock, and on a decide publish LeafDecided, build the
-- Decide event while last_decided_view still holds the old anchor, collect garbage and move the
-- anchor. The unwrap of new_decide_qc is the none branch.
def commitWalk (consensus : Consensus) (walk : DecideWalk) : Option (Consensus × List Output) :=
  let consensus := if walk.newCommitReached then { consensus with lockedView := walk.newLockedView } else consensus
  if walk.newDecideReached then
    match walk.newDecideQc with
    | none => none
    | some qc => some
      ({ consensus.collectGarbage consensus.lastDecidedView walk.newAnchorView with
          lastDecidedView := walk.newAnchorView },
        [.broadcast (.leafDecided walk.leafsDecided),
          .emit ⟨consensus.lastDecidedView,.decide walk.leafViews qc (some walk.includedTxns.length)⟩])
  else some (consensus,[])

-- Phase three, without the lock: cancel tasks below a new anchor, propose as the next leader
-- when the high QC is this proposal's, then try to vote.
def followThrough (env : Env) (s : ConsensusTaskState) (proposal : QuorumProposal) (walk : DecideWalk) :
    ConsensusTaskState × List Output :=
  let cancelled := if walk.newDecideReached then cancelTasks s.spawnedTasks walk.newAnchorView
    else (s.spawnedTasks,[])
  let s := { s with spawnedTasks := cancelled.1 }
  let proposed := if env.quorumMembership.leader (proposal.viewNumber + 1) = s.publicKey ∧
      s.consensus.highQc.viewNumber = proposal.viewNumber then
      publishProposal env (s.consensus.highQc.viewNumber + 1) s
    else (s,[])
  let voted := tryVote env proposed.1
  (voted.1,cancelled.2 ++ proposed.2 ++ voted.2)

def handleQuorumProposalValidated (env : Env) (s : ConsensusTaskState) (proposal : QuorumProposal) :
    Option (ConsensusTaskState × List Output) :=
  let s := { s with currentProposal := some proposal }
  match chainWalk env s proposal with
  | none => none
  | some walk =>
    match commitWalk s.consensus walk with
    | none => none
    | some (consensus,decided) =>
      let next := followThrough env { s with consensus := consensus, decidedUpgradeCert := walk.decidedUpgradeCert }
        proposal walk
      some (next.1,decided ++ next.2)

-- The walk after the leaf that locks, and after the leaf that becomes the new anchor.
def lockWalk (walk : DecideWalk) (leaf : Leaf) : DecideWalk :=
  { walk with
    lastViewNumberVisited := leaf.viewNumber, currentChainLength := 2, newLockedView := leaf.viewNumber,
    newCommitReached := true, newDecideQc := some leaf.justifyQc }

def anchorWalk (walk : DecideWalk) (leaf : Leaf) : DecideWalk :=
  { walk with
    lastViewNumberVisited := leaf.viewNumber, currentChainLength := 3, newAnchorView := leaf.viewNumber,
    newDecideReached := true }

section Visitor
variable {env : Env} {consensus : Consensus} {publicKey view : Nat}

theorem visitAll_decided {walk : DecideWalk} (reached : walk.newDecideReached = true) (path : List Leaf) :
    visitAll (decideVisitor env consensus publicKey view) walk path =
      (path.foldl (collectDecided env consensus publicKey view) walk,false) := by
  induction path generalizing walk with
  | nil => rfl
  | cons leaf rest ih =>
    simp only [visitAll,decideVisitor,reached,if_true]
    exact ih reached

theorem visitAll_decides {walk : DecideWalk} (first : walk.currentChainLength = 1)
    (undecided : walk.newDecideReached = false) {locking anchor : Leaf} (older : List Leaf)
    (below : walk.lastViewNumberVisited = locking.viewNumber + 1)
    (linked : locking.viewNumber = anchor.viewNumber + 1) :
    visitAll (decideVisitor env consensus publicKey view) walk (locking :: anchor :: older) =
      (older.foldl (collectDecided env consensus publicKey view)
        (collectDecided env consensus publicKey view (anchorWalk (lockWalk walk locking) anchor) anchor),false) := by
  simp only [visitAll,decideVisitor,undecided,extendChain,below,first,if_true,if_false,Bool.false_eq_true]
  simpa [lockWalk,anchorWalk,linked] using @visitAll_decided env consensus publicKey view
    (collectDecided env consensus publicKey view (anchorWalk (lockWalk walk locking) anchor) anchor) rfl older

theorem visitAll_start {walk : DecideWalk} (first : walk.currentChainLength = 1)
    (undecided : walk.newDecideReached = false) (path : List Leaf) :
    (visitAll (decideVisitor env consensus publicKey view) walk path).1 =
      match path with
      | [] => walk
      | locking :: rest =>
        if walk.lastViewNumberVisited = locking.viewNumber + 1 then
          match rest with
          | [] => lockWalk walk locking
          | anchor :: older =>
            if locking.viewNumber = anchor.viewNumber + 1 then
              older.foldl (collectDecided env consensus publicKey view)
                (collectDecided env consensus publicKey view (anchorWalk (lockWalk walk locking) anchor) anchor)
            else lockWalk walk locking
        else walk := by
  rcases path with _ | ⟨locking,_ | ⟨anchor,older⟩⟩
  · rfl
  · by_cases consecutive : walk.lastViewNumberVisited = locking.viewNumber + 1 <;>
      simp [visitAll,decideVisitor,undecided,extendChain,consecutive,first,lockWalk]
  · by_cases consecutive : walk.lastViewNumberVisited = locking.viewNumber + 1
    · by_cases linked : locking.viewNumber = anchor.viewNumber + 1
      · simp [visitAll_decides first undecided older consecutive linked,consecutive,linked]
      · simp [visitAll,decideVisitor,undecided,extendChain,consecutive,first,linked,lockWalk]
    · simp [visitAll,decideVisitor,undecided,extendChain,consecutive]

theorem foldl_collectDecided_keeps {α : Type} (field : DecideWalk → α)
    (keeps : ∀ walk leaf, field (collectDecided env consensus publicKey view walk leaf) = field walk)
    (path : List Leaf) (walk : DecideWalk) :
    field (path.foldl (collectDecided env consensus publicKey view) walk) = field walk := by
  induction path generalizing walk with
  | nil => rfl
  | cons leaf rest ih => exact (ih _).trans (keeps walk leaf)

@[simp] theorem foldl_collectDecided_newCommitReached (path : List Leaf) (walk : DecideWalk) :
    (path.foldl (collectDecided env consensus publicKey view) walk).newCommitReached = walk.newCommitReached :=
  foldl_collectDecided_keeps (·.newCommitReached) (fun _ _ => rfl) path walk

@[simp] theorem foldl_collectDecided_newLockedView (path : List Leaf) (walk : DecideWalk) :
    (path.foldl (collectDecided env consensus publicKey view) walk).newLockedView = walk.newLockedView :=
  foldl_collectDecided_keeps (·.newLockedView) (fun _ _ => rfl) path walk

@[simp] theorem foldl_collectDecided_newDecideQc (path : List Leaf) (walk : DecideWalk) :
    (path.foldl (collectDecided env consensus publicKey view) walk).newDecideQc = walk.newDecideQc :=
  foldl_collectDecided_keeps (·.newDecideQc) (fun _ _ => rfl) path walk

@[simp] theorem foldl_collectDecided_newDecideReached (path : List Leaf) (walk : DecideWalk) :
    (path.foldl (collectDecided env consensus publicKey view) walk).newDecideReached = walk.newDecideReached :=
  foldl_collectDecided_keeps (·.newDecideReached) (fun _ _ => rfl) path walk

@[simp] theorem foldl_collectDecided_newAnchorView (path : List Leaf) (walk : DecideWalk) :
    (path.foldl (collectDecided env consensus publicKey view) walk).newAnchorView = walk.newAnchorView :=
  foldl_collectDecided_keeps (·.newAnchorView) (fun _ _ => rfl) path walk

theorem foldl_collectDecided_leaves (path : List Leaf) (walk : DecideWalk) :
    (path.foldl (collectDecided env consensus publicKey view) walk).leafsDecided =
        walk.leafsDecided ++ path.map (fillPayload env consensus) ∧
      (path.foldl (collectDecided env consensus publicKey view) walk).leafViews.map (·.leaf) =
        walk.leafViews.map (·.leaf) ++ path.map (fillPayload env consensus) := by
  induction path generalizing walk with
  | nil => simp
  | cons leaf rest ih =>
    obtain ⟨decided,views⟩ := ih (collectDecided env consensus publicKey view walk leaf)
    rw [List.foldl_cons]
    exact ⟨by rw [decided]; simp [collectDecided],by rw [views]; simp [collectDecided]⟩

end Visitor

-- The leaf validated_state_map records for a view: where visit_leaf_ancestors starts.
def startLeaf (consensus : Consensus) (view : Nat) : Option Leaf :=
  (consensus.validatedStateMap view).bind consensus.leaf

-- The leaves a walk from a view passes before the visitor judges them.
def walkPath (consensus : Consensus) (view : Nat) : List Leaf :=
  match consensus.validatedStateMap view with
  | none => []
  | some next => (ancestry consensus.savedLeaves (.exclusive consensus.lastDecidedView)
      (consensus.savedLeaves.length + 1) next).1

-- How that walk ends when the visitor does not stop it.
def walkEnd (consensus : Consensus) (view : Nat) : WalkEnd :=
  match consensus.validatedStateMap view with
  | none => .missing
  | some next => (ancestry consensus.savedLeaves (.exclusive consensus.lastDecidedView)
      (consensus.savedLeaves.length + 1) next).2

-- The lock rule as the code applies it: a consecutive parent whose recorded leaf is at the
-- justify-QC's view and is not the last decided view (which the walk excludes).
def Locks (consensus : Consensus) (proposal : QuorumProposal) : Prop :=
  proposal.justifyQc.viewNumber + 1 = proposal.viewNumber ∧
    ∃ locking, startLeaf consensus proposal.justifyQc.viewNumber = some locking ∧
      locking.viewNumber = proposal.justifyQc.viewNumber ∧ locking.viewNumber ≠ consensus.lastDecidedView

-- The decide rule: in addition the locked leaf's parent is saved, one view below, and not at the
-- last decided view.
def Decides (consensus : Consensus) (proposal : QuorumProposal) : Prop :=
  proposal.justifyQc.viewNumber + 1 = proposal.viewNumber ∧
    ∃ locking anchor, startLeaf consensus proposal.justifyQc.viewNumber = some locking ∧
      locking.viewNumber = proposal.justifyQc.viewNumber ∧ locking.viewNumber ≠ consensus.lastDecidedView ∧
      consensus.leaf locking.parentCommitment = some anchor ∧ anchor.viewNumber + 1 = locking.viewNumber ∧
      anchor.viewNumber ≠ consensus.lastDecidedView

theorem decides_locks {consensus : Consensus} {proposal : QuorumProposal} (decides : Decides consensus proposal) :
    Locks consensus proposal := by
  obtain ⟨consecutive,locking,anchor,start,view,fresh,-⟩ := decides
  exact ⟨consecutive,locking,start,view,fresh⟩

theorem locks_at {consensus : Consensus} {proposal : QuorumProposal} {locking : Leaf}
    (start : startLeaf consensus proposal.justifyQc.viewNumber = some locking) :
    Locks consensus proposal ↔ proposal.justifyQc.viewNumber + 1 = proposal.viewNumber ∧
      locking.viewNumber = proposal.justifyQc.viewNumber ∧ locking.viewNumber ≠ consensus.lastDecidedView := by
  simp [Locks,start]

theorem decides_at {consensus : Consensus} {proposal : QuorumProposal} {locking : Leaf}
    (start : startLeaf consensus proposal.justifyQc.viewNumber = some locking) :
    Decides consensus proposal ↔ Locks consensus proposal ∧ ∃ anchor,
      consensus.leaf locking.parentCommitment = some anchor ∧ anchor.viewNumber + 1 = locking.viewNumber ∧
      anchor.viewNumber ≠ consensus.lastDecidedView := by
  simp [Decides,locks_at start,start,and_assoc]

theorem ancestry_exclusive_cons {leaves : List (Nat × Leaf)} {anchorView fuel next : Nat} {leaf : Leaf}
    (found : leaves.lookup next = some leaf) (fresh : leaf.viewNumber ≠ anchorView) :
    ancestry leaves (.exclusive anchorView) (fuel + 1) next =
      (leaf :: (ancestry leaves (.exclusive anchorView) fuel leaf.parentCommitment).1,
        (ancestry leaves (.exclusive anchorView) fuel leaf.parentCommitment).2) := by
  simp [ancestry,found,Ne.symm fresh]

theorem ancestry_exclusive_nil {leaves : List (Nat × Leaf)} {anchorView fuel next : Nat}
    (stops : ∀ leaf, leaves.lookup next = some leaf → leaf.viewNumber = anchorView) :
    (ancestry leaves (.exclusive anchorView) (fuel + 1) next).1 = [] := by
  cases found : leaves.lookup next with
  | none => simp [ancestry,found]
  | some leaf => simp [ancestry,found,stops leaf found]

theorem lookup_length {leaves : List (Nat × Leaf)} {next : Nat} {leaf : Leaf}
    (found : leaves.lookup next = some leaf) : ∃ fuel, leaves.length = fuel + 1 := by
  cases leaves with
  | nil => simp at found
  | cons entry rest => exact ⟨rest.length,rfl⟩

theorem walkResult_fst {acc : σ} {stopped : Bool} {last : WalkEnd} {result : σ × Except WalkError Unit}
    (walked : walkResult acc stopped last = some result) : result.1 = acc := by
  cases last <;> cases stopped <;> simp [walkResult] at walked <;> rw [← walked]

-- The walk of phase one is the visitor run over the walk path from chain length one.
theorem chainWalk_eq {env : Env} {s : ConsensusTaskState} {proposal : QuorumProposal} {walk : DecideWalk}
    (walked : chainWalk env s proposal = some walk) :
    walk = if proposal.justifyQc.viewNumber + 1 = proposal.viewNumber then
      (visitAll (decideVisitor env s.consensus s.publicKey proposal.viewNumber)
        { startWalk s proposal.viewNumber with currentChainLength := 1 }
        (walkPath s.consensus proposal.justifyQc.viewNumber)).1
      else startWalk s proposal.viewNumber := by
  unfold chainWalk at walked
  split at walked
  · rename_i consecutive
    simp only [consecutive,if_true]
    unfold visitLeafAncestors at walked
    unfold walkPath
    revert walked
    cases s.consensus.validatedStateMap proposal.justifyQc.viewNumber with
    | none =>
      intro walked
      simp only [Option.map_some',Option.some.injEq] at walked
      rw [← walked]
      rfl
    | some next =>
      intro walked
      dsimp only at walked ⊢
      rw [visitFrom_eq] at walked
      obtain ⟨result,walkedResult,rfl⟩ := Option.map_eq_some'.mp walked
      exact walkResult_fst walkedResult
  · rename_i consecutive
    simp only [consecutive,if_false]
    exact (Option.some.inj walked).symm

theorem walkPath_eq (consensus : Consensus) (view : Nat) :
    walkPath consensus view = match startLeaf consensus view with
      | none => []
      | some locking => if locking.viewNumber = consensus.lastDecidedView then [] else
          locking :: (ancestry consensus.savedLeaves (.exclusive consensus.lastDecidedView)
            consensus.savedLeaves.length locking.parentCommitment).1 := by
  unfold walkPath startLeaf
  cases consensus.validatedStateMap view with
  | none => rfl
  | some next =>
    cases found : consensus.savedLeaves.lookup next with
    | none => simp [ancestry,found,Consensus.leaf]
    | some locking =>
      by_cases stops : locking.viewNumber = consensus.lastDecidedView
      · simp [ancestry,found,stops,Consensus.leaf]
      · simp [ancestry,found,stops,Ne.symm stops,Consensus.leaf]

theorem chainWalk_returns {env : Env} {s : ConsensusTaskState} {proposal : QuorumProposal} {walk : DecideWalk}
    (walked : chainWalk env s proposal = some walk) (consecutive : proposal.justifyQc.viewNumber + 1 = proposal.viewNumber)
    (unstopped : (visitAll (decideVisitor env s.consensus s.publicKey proposal.viewNumber)
      { startWalk s proposal.viewNumber with currentChainLength := 1 }
      (walkPath s.consensus proposal.justifyQc.viewNumber)).2 = false) :
    walkEnd s.consensus proposal.justifyQc.viewNumber ≠ .cycle := by
  unfold chainWalk visitLeafAncestors at walked
  unfold walkEnd
  unfold walkPath at unstopped
  rw [if_pos consecutive] at walked
  split at walked
  · rename_i missing
    simp [missing]
  · rename_i next recorded
    simp only [recorded] at unstopped ⊢
    rw [visitFrom_eq,unstopped] at walked
    intro cycle
    simp [cycle,walkResult] at walked

theorem walkEnd_eq (consensus : Consensus) (view : Nat) :
    walkEnd consensus view = match startLeaf consensus view with
      | none => .missing
      | some locking => if locking.viewNumber = consensus.lastDecidedView then .terminator else
          (ancestry consensus.savedLeaves (.exclusive consensus.lastDecidedView)
            consensus.savedLeaves.length locking.parentCommitment).2 := by
  unfold walkEnd startLeaf
  cases consensus.validatedStateMap view with
  | none => rfl
  | some next =>
    cases found : consensus.savedLeaves.lookup next with
    | none => simp [ancestry,found,Consensus.leaf]
    | some locking =>
      by_cases stops : locking.viewNumber = consensus.lastDecidedView
      · simp [ancestry,found,stops,Consensus.leaf]
      · simp [ancestry,found,stops,Ne.symm stops,Consensus.leaf]

-- The three outcomes of phase one, read off the store: no lock, a lock without a decide, or a
-- decide whose walk runs from the new anchor leaf down the ancestry without going round a cycle.
theorem chainWalk_outcome {env : Env} {s : ConsensusTaskState} {proposal : QuorumProposal}
    {walk : DecideWalk} (walked : chainWalk env s proposal = some walk) :
    (¬Locks s.consensus proposal ∧ walk.newCommitReached = false ∧ walk.newDecideReached = false) ∨
    (Locks s.consensus proposal ∧ ¬Decides s.consensus proposal ∧
      ∃ locking, startLeaf s.consensus proposal.justifyQc.viewNumber = some locking ∧
        walk.newCommitReached = true ∧ walk.newLockedView = locking.viewNumber ∧
        walk.newDecideQc = some locking.justifyQc ∧ walk.newDecideReached = false) ∨
    (Decides s.consensus proposal ∧
      ∃ locking anchor fuel, startLeaf s.consensus proposal.justifyQc.viewNumber = some locking ∧
        s.consensus.leaf locking.parentCommitment = some anchor ∧ s.consensus.savedLeaves.length = fuel + 1 ∧
        (ancestry s.consensus.savedLeaves (.exclusive s.consensus.lastDecidedView) fuel
          anchor.parentCommitment).2 ≠ .cycle ∧
        walk = (ancestry s.consensus.savedLeaves (.exclusive s.consensus.lastDecidedView) fuel
            anchor.parentCommitment).1.foldl (collectDecided env s.consensus s.publicKey proposal.viewNumber)
          (collectDecided env s.consensus s.publicKey proposal.viewNumber
            (anchorWalk (lockWalk { startWalk s proposal.viewNumber with currentChainLength := 1 } locking) anchor)
            anchor)) := by
  have shape := chainWalk_eq walked
  by_cases consecutive : proposal.justifyQc.viewNumber + 1 = proposal.viewNumber
  swap
  · simp only [consecutive,if_false] at shape
    subst shape
    exact .inl ⟨fun locks => consecutive locks.1,rfl,rfl⟩
  simp only [consecutive,if_true] at shape
  rw [visitAll_start rfl rfl,walkPath_eq] at shape
  cases start : startLeaf s.consensus proposal.justifyQc.viewNumber with
  | none =>
    simp only [start] at shape
    subst shape
    exact .inl ⟨fun ⟨_,locking,found,_⟩ => by simp [start] at found,rfl,rfl⟩
  | some locking =>
  simp only [start] at shape
  by_cases excluded : locking.viewNumber = s.consensus.lastDecidedView
  · simp only [excluded,if_true] at shape
    subst shape
    exact .inl ⟨by simp [locks_at start,excluded],rfl,rfl⟩
  simp only [excluded,if_false] at shape
  by_cases below : proposal.viewNumber = locking.viewNumber + 1
  swap
  · simp only [startWalk,below,if_false] at shape
    subst shape
    exact .inl ⟨by rw [locks_at start]; omega,rfl,rfl⟩
  have locks : Locks s.consensus proposal := (locks_at start).2 ⟨consecutive,by omega,excluded⟩
  obtain ⟨fuel,length⟩ := lookup_length (show s.consensus.savedLeaves.lookup _ = some locking from by
    simpa [startLeaf,Consensus.leaf] using (Option.bind_eq_some.mp start).choose_spec.2)
  simp only [length] at shape
  rw [if_pos (show (startWalk s proposal.viewNumber).lastViewNumberVisited = _ from below)] at shape
  have lockOnly : walk = lockWalk { startWalk s proposal.viewNumber with currentChainLength := 1 } locking →
      ¬Decides s.consensus proposal →
      Locks s.consensus proposal ∧ ¬Decides s.consensus proposal ∧
        ∃ other, some locking = some other ∧
          walk.newCommitReached = true ∧ walk.newLockedView = other.viewNumber ∧
          walk.newDecideQc = some other.justifyQc ∧ walk.newDecideReached = false := by
    rintro rfl undecided
    exact ⟨locks,undecided,locking,rfl,rfl,rfl,rfl,rfl⟩
  cases parent : s.consensus.leaf locking.parentCommitment with
  | none =>
    rw [ancestry_exclusive_nil (fun leaf found => Option.noConfusion (found.symm.trans parent))] at shape
    exact .inr (.inl (lockOnly shape (by simp [decides_at start,parent])))
  | some anchor =>
  by_cases anchorExcluded : anchor.viewNumber = s.consensus.lastDecidedView
  · rw [ancestry_exclusive_nil (fun leaf found => by
      obtain rfl := Option.some.inj (found.symm.trans parent); exact anchorExcluded)] at shape
    exact .inr (.inl (lockOnly shape (by simp [decides_at start,parent,anchorExcluded])))
  have tail := @ancestry_exclusive_cons _ _ fuel _ _ (by simpa [Consensus.leaf] using parent) anchorExcluded
  rw [tail] at shape
  dsimp only at shape
  by_cases linked : locking.viewNumber = anchor.viewNumber + 1
  swap
  · rw [if_neg linked] at shape
    exact .inr (.inl (lockOnly shape (by simp [decides_at start,parent]; omega)))
  rw [if_pos linked] at shape
  refine .inr (.inr ⟨(decides_at start).2 ⟨locks,anchor,parent,by omega,anchorExcluded⟩,
    locking,anchor,fuel,rfl,parent,length,?_,shape⟩)
  have unstopped := congrArg Prod.snd (@visitAll_decides env s.consensus s.publicKey proposal.viewNumber
    { startWalk s proposal.viewNumber with currentChainLength := 1 } rfl rfl _ _
    (ancestry s.consensus.savedLeaves (.exclusive s.consensus.lastDecidedView) fuel anchor.parentCommitment).1
    below linked)
  have returns := chainWalk_returns walked consecutive (by
    rw [walkPath_eq,start]
    simp only [excluded,if_false,length,tail]
    exact unstopped)
  rw [walkEnd_eq,start] at returns
  simpa only [excluded,if_false,length,tail] using returns

theorem commitWalk_some {consensus next : Consensus} {walk : DecideWalk} {out : List Output}
    (committed : commitWalk consensus walk = some (next,out)) :
    next.lockedView = (if walk.newCommitReached then walk.newLockedView else consensus.lockedView) ∧
    next.highQc = consensus.highQc ∧
    (walk.newDecideReached = false →
      next.lastDecidedView = consensus.lastDecidedView ∧ out = [] ∧ next.savedDaCerts = consensus.savedDaCerts) ∧
    (walk.newDecideReached = true → ∃ qc, walk.newDecideQc = some qc ∧
      next.lastDecidedView = walk.newAnchorView ∧
      out = [.broadcast (.leafDecided walk.leafsDecided),
        .emit ⟨consensus.lastDecidedView,.decide walk.leafViews qc (some walk.includedTxns.length)⟩] ∧
      ∀ view, next.savedDaCerts view = if view < walk.newAnchorView then none else consensus.savedDaCerts view) := by
  unfold commitWalk at committed
  cases decide : walk.newDecideReached
  · simp only [decide,Bool.false_eq_true,if_false,Option.some.injEq] at committed
    cases committed
    split_ifs <;> simp
  · simp only [decide,if_true] at committed
    split at committed
    · cases committed
    · rename_i qc found
      cases committed
      split_ifs <;> simp [found]

theorem commitWalk_vidShares {consensus next : Consensus} {walk : DecideWalk} {out : List Output}
    (committed : commitWalk consensus walk = some (next,out)) (view : Nat) :
    next.vidShares view = none ∨ next.vidShares view = consensus.vidShares view := by
  unfold commitWalk at committed
  split_ifs at committed <;> (try split at committed) <;> cases committed <;>
    simp only [Consensus.collectGarbage] <;> (try split_ifs) <;> simp

-- Phase three leaves the shared record alone.
@[simp] theorem followThrough_consensus (env : Env) (s : ConsensusTaskState) (proposal : QuorumProposal)
    (walk : DecideWalk) : (followThrough env s proposal walk).1.consensus = s.consensus := by
  simp only [followThrough]
  split_ifs <;> simp

@[simp] theorem followThrough_version (env : Env) (s : ConsensusTaskState) (proposal : QuorumProposal)
    (walk : DecideWalk) : (followThrough env s proposal walk).1.version = s.version := by
  simp only [followThrough]
  split_ifs <;> simp

@[simp] theorem followThrough_decidedUpgradeCert (env : Env) (s : ConsensusTaskState) (proposal : QuorumProposal)
    (walk : DecideWalk) : (followThrough env s proposal walk).1.decidedUpgradeCert = s.decidedUpgradeCert := by
  simp only [followThrough]
  split_ifs <;> simp

@[simp] theorem followThrough_curView (env : Env) (s : ConsensusTaskState) (proposal : QuorumProposal)
    (walk : DecideWalk) : (followThrough env s proposal walk).1.curView = s.curView := by
  simp only [followThrough]
  split_ifs <;> simp

@[simp] theorem followThrough_timeoutTask (env : Env) (s : ConsensusTaskState) (proposal : QuorumProposal)
    (walk : DecideWalk) : (followThrough env s proposal walk).1.timeoutTask = s.timeoutTask := by
  simp only [followThrough]
  split_ifs <;> simp

@[simp] theorem followThrough_voteCollector (env : Env) (s : ConsensusTaskState) (proposal : QuorumProposal)
    (walk : DecideWalk) : (followThrough env s proposal walk).1.voteCollector = s.voteCollector := by
  simp only [followThrough]
  split_ifs <;> simp

@[simp] theorem followThrough_timeoutVoteCollector (env : Env) (s : ConsensusTaskState) (proposal : QuorumProposal)
    (walk : DecideWalk) : (followThrough env s proposal walk).1.timeoutVoteCollector = s.timeoutVoteCollector := by
  simp only [followThrough]
  split_ifs <;> simp

@[simp] theorem followThrough_publicKey (env : Env) (s : ConsensusTaskState) (proposal : QuorumProposal)
    (walk : DecideWalk) : (followThrough env s proposal walk).1.publicKey = s.publicKey := by
  simp only [followThrough]
  split_ifs <;> simp

@[simp] theorem followThrough_formedUpgradeCertificate (env : Env) (s : ConsensusTaskState) (proposal : QuorumProposal)
    (walk : DecideWalk) : (followThrough env s proposal walk).1.formedUpgradeCertificate = s.formedUpgradeCertificate := by
  simp only [followThrough]
  split_ifs <;> simp [tryVote]

theorem chainWalk_flags {env : Env} {s : ConsensusTaskState} {proposal : QuorumProposal} {walk : DecideWalk}
    (walked : chainWalk env s proposal = some walk) :
    (walk.newCommitReached = true ↔ Locks s.consensus proposal) ∧
    (walk.newCommitReached = true → walk.newLockedView = proposal.justifyQc.viewNumber) ∧
    (walk.newDecideReached = true ↔ Decides s.consensus proposal) ∧
    (walk.newDecideReached = true → walk.newAnchorView + 1 = proposal.justifyQc.viewNumber ∧
      ∃ locking, startLeaf s.consensus proposal.justifyQc.viewNumber = some locking ∧
        walk.newDecideQc = some locking.justifyQc) := by
  rcases chainWalk_outcome walked with ⟨unlocked,commit,decided⟩ |
    ⟨locks,undecided,locking,start,commit,locked,-,decided⟩ | ⟨decides,locking,anchor,-,start,parent,-,-,rfl⟩
  · refine ⟨by simp [commit,unlocked],by simp [commit],?_,by simp [decided]⟩
    simpa [decided] using fun decides => unlocked (decides_locks decides)
  · obtain ⟨-,view,-⟩ := (locks_at start).1 locks
    simp [commit,decided,locked,view,locks,undecided]
  · obtain ⟨locks,anchor',parent',linked,-⟩ := (decides_at start).1 decides
    rw [parent,Option.some.injEq] at parent'
    subst parent'
    obtain ⟨-,view,-⟩ := (locks_at start).1 locks
    simp [collectDecided,anchorWalk,lockWalk,locks,decides,start,view,linked]

theorem walkResult_none {acc : σ} {stopped : Bool} {last : WalkEnd}
    (diverged : walkResult acc stopped last = none) : last = .cycle := by
  cases last <;> cases stopped <;> simp [walkResult] at diverged ⊢

theorem chainWalk_none {env : Env} {s : ConsensusTaskState} {proposal : QuorumProposal}
    (diverged : chainWalk env s proposal = none) :
    proposal.justifyQc.viewNumber + 1 = proposal.viewNumber ∧
      walkEnd s.consensus proposal.justifyQc.viewNumber = .cycle := by
  unfold chainWalk at diverged
  split at diverged
  · rename_i consecutive
    refine ⟨consecutive,?_⟩
    unfold visitLeafAncestors at diverged
    unfold walkEnd
    revert diverged
    cases s.consensus.validatedStateMap proposal.justifyQc.viewNumber with
    | none => simp
    | some next =>
      intro diverged
      dsimp only at diverged ⊢
      rw [Option.map_eq_none',visitFrom_eq] at diverged
      exact walkResult_none diverged
  · simp at diverged

theorem followThrough_outputs (env : Env) (s : ConsensusTaskState) (proposal : QuorumProposal)
    (walk : DecideWalk) : ∀ output ∈ (followThrough env s proposal walk).2,
      (∃ task, output = .cancel task) ∨ (∃ task, output = .spawn task) ∨
        ∃ vote, output = .broadcast (.quorumVoteSend vote) := by
  intro output mem
  simp only [followThrough,tryVote,List.mem_append] at mem
  rcases mem with (cancelled | proposed) | voted
  · split at cancelled
    · exact .inl (drainTasks_cancels _ output cancelled)
    · simp at cancelled
  · split at proposed
    · exact .inr (.inl ⟨_,publishProposal_spawns _ _ _ proposed⟩)
    · simp at proposed
  · exact .inr (.inr (voteIfAble_sends voted))

theorem handleQuorumProposalValidated_some {env : Env} {s next : ConsensusTaskState} {proposal : QuorumProposal}
    {out : List Output} (ran : handleQuorumProposalValidated env s proposal = some (next,out)) :
    ∃ walk decided rest, chainWalk env s proposal = some walk ∧
      commitWalk s.consensus walk = some (next.consensus,decided) ∧ next.version = s.version ∧
      next.decidedUpgradeCert = walk.decidedUpgradeCert ∧ out = decided ++ rest ∧ ∀ output ∈ rest, (∃ task, output = .cancel task) ∨ (∃ task, output = .spawn task) ∨
        ∃ vote, output = .broadcast (.quorumVoteSend vote) := by
  simp only [handleQuorumProposalValidated] at ran
  split at ran
  · cases ran
  · rename_i walk walked
    split at ran
    · cases ran
    · rename_i consensus decided committed
      cases ran
      exact ⟨walk,decided,_,walked,by simpa using committed,by simp,by simp,rfl,followThrough_outputs _ _ _ _⟩

theorem handleQuorumProposalValidated_eq {env : Env} {s next : ConsensusTaskState} {proposal : QuorumProposal}
    {out : List Output} (ran : handleQuorumProposalValidated env s proposal = some (next,out)) :
    ∃ walk consensus decided rest, chainWalk env s proposal = some walk ∧
      commitWalk s.consensus walk = some (consensus,decided) ∧
      followThrough env
        { s with currentProposal := some proposal, consensus := consensus, decidedUpgradeCert := walk.decidedUpgradeCert }
        proposal walk = (next,rest) ∧ out = decided ++ rest := by
  simp only [handleQuorumProposalValidated] at ran
  split at ran
  · cases ran
  · rename_i walk walked
    split at ran
    · cases ran
    · rename_i consensus decided committed
      simp only [Option.some.injEq,Prod.mk.injEq] at ran
      exact ⟨walk,consensus,decided,_,walked,committed,Prod.ext ran.1 rfl,ran.2.symm⟩

end HotShotConsensus
