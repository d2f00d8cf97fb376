import HotShotConsensus.Handle

namespace HotShotConsensus

-- handle applied to each event in turn, with everything it sent; none when one of them never
-- returns.
def runEvents (env : Env) : ConsensusTaskState → List HotShotEvent → Option (ConsensusTaskState × List Output)
  | s,[] => some (s,[])
  | s,event :: rest => (handle env s event).bind fun (next,out) =>
    (runEvents env next rest).map fun (final,more) => (final,out ++ more)

-- Whether a check holds at every event of a run, at the state it meets and after all that was
-- sent before it.
def everyStep (env : Env) (check : List Output → ConsensusTaskState → HotShotEvent → Bool) :
    List Output → ConsensusTaskState → List HotShotEvent → Bool
  | _,_,[] => true
  | sent,s,event :: rest => check sent s event && match handle env s event with
    | some (next,out) => everyStep env check (sent ++ out) next rest
    | none => true

-- The votes and certificates among what the task sent.
def quorumVotes (out : List Output) : List QuorumVote :=
  out.filterMap fun | .broadcast (.quorumVoteSend vote) => some vote | _ => none

def formedQc : Output → Option QuorumCertificate
  | .broadcast (.qcFormed (.inl qc)) => some qc
  | _ => none

def formedTc : Output → Option TimeoutCertificate
  | .broadcast (.qcFormed (.inr tc)) => some tc
  | _ => none

theorem runEvents_nil {env : Env} {s final : ConsensusTaskState} {out : List Output}
    (ran : runEvents env s [] = some (final,out)) : final = s ∧ out = [] := by
  simp only [runEvents,Option.some.injEq,Prod.mk.injEq] at ran
  exact ⟨ran.1.symm,ran.2.symm⟩

theorem runEvents_cons {env : Env} {s final : ConsensusTaskState} {event : HotShotEvent}
    {rest : List HotShotEvent} {out : List Output} (ran : runEvents env s (event :: rest) = some (final,out)) :
    ∃ next first more, handle env s event = some (next,first) ∧ runEvents env next rest = some (final,more) ∧
      out = first ++ more := by
  simp only [runEvents,Option.bind_eq_some,Option.map_eq_some',Prod.exists,Prod.mk.injEq] at ran
  obtain ⟨next,first,handled,final',more,rest,rfl,rfl⟩ := ran
  exact ⟨next,first,more,handled,rest,rfl⟩

theorem everyStep_cons {env : Env} {check : List Output → ConsensusTaskState → HotShotEvent → Bool}
    {sent : List Output} {s next : ConsensusTaskState} {event : HotShotEvent} {rest : List HotShotEvent}
    {out : List Output} (guarded : everyStep env check sent s (event :: rest) = true)
    (handled : handle env s event = some (next,out)) :
    check sent s event = true ∧ everyStep env check (sent ++ out) next rest = true := by
  simpa [everyStep,handled] using guarded

-- Invariants and measures carried along a run, by induction on its events.
theorem runEvents_guarded {env : Env} {check : List Output → ConsensusTaskState → HotShotEvent → Bool}
    (invariant : ConsensusTaskState → Prop)
    (step : ∀ sent s event next out, check sent s event = true → invariant s →
      handle env s event = some (next,out) → invariant next)
    (events : List HotShotEvent) :
    ∀ sent s final out, everyStep env check sent s events = true → invariant s →
      runEvents env s events = some (final,out) → invariant final := by
  induction events with
  | nil =>
    intro sent s final out _ holds ran
    rwa [(runEvents_nil ran).1]
  | cons event rest ih =>
    intro sent s final out guarded holds ran
    obtain ⟨next,first,more,handled,restRan,-⟩ := runEvents_cons ran
    obtain ⟨checked,restGuarded⟩ := everyStep_cons guarded handled
    exact ih _ next final more restGuarded (step sent s event next first checked holds handled) restRan

theorem runEvents_monotone {env : Env} {check : List Output → ConsensusTaskState → HotShotEvent → Bool}
    (measure : ConsensusTaskState → Nat)
    (step : ∀ sent s event next out, check sent s event = true → handle env s event = some (next,out) →
      measure s ≤ measure next)
    (events : List HotShotEvent) :
    ∀ sent s final out, everyStep env check sent s events = true → runEvents env s events = some (final,out) →
      measure s ≤ measure final := fun sent s final out guarded ran =>
  runEvents_guarded (fun t => measure s ≤ measure t)
    (fun sent t event next out checked above handled => above.trans (step sent t event next out checked handled))
    events sent s final out guarded le_rfl ran

theorem runEvents_preserves {env : Env} (invariant : ConsensusTaskState → Prop)
    (step : ∀ s event next out, invariant s → handle env s event = some (next,out) → invariant next)
    (events : List HotShotEvent) :
    ∀ s final out, invariant s → runEvents env s events = some (final,out) → invariant final := by
  induction events with
  | nil =>
    intro s final out holds ran
    rwa [(runEvents_nil ran).1]
  | cons event rest ih =>
    intro s final out holds ran
    obtain ⟨next,first,more,handled,restRan,-⟩ := runEvents_cons ran
    exact ih next final more (step s event next first holds handled) restRan

section Lock

-- The guard a proposal validator is expected to give: a validated proposal's justify-QC is not
-- below the lock it meets.
def lockGuard (_ : List Output) (s : ConsensusTaskState) : HotShotEvent → Bool
  | .quorumProposalValidated proposal => s.consensus.lockedView ≤ proposal.justifyQc.viewNumber
  | _ => true

theorem handle_lockedView {env : Env} {s next : ConsensusTaskState} {event : HotShotEvent} {out : List Output}
    (ran : handle env s event = some (next,out)) :
    next.consensus.lockedView = s.consensus.lockedView ∨
      ∃ proposal, event = .quorumProposalValidated proposal ∧
        next.consensus.lockedView = proposal.justifyQc.viewNumber := by
  rcases handle_consensus ran with ⟨proposal,rfl⟩ | ⟨_,_,_,stored,-⟩ | ⟨_,_,stored⟩ | ⟨_,_,stored⟩ | ⟨_,_,stored⟩ |
    stored
  · have rule := handle_validated_rule ran
    by_cases locks : Locks s.consensus proposal
    · exact .inr ⟨proposal,rfl,rule.locks locks⟩
    · exact .inl (rule.keepsLock locks)
  all_goals exact .inl (by rw [stored]; try rfl)

theorem locked_view_monotone_under_guard (env : Env) (s final : ConsensusTaskState) (events : List HotShotEvent)
    (out : List Output) (guarded : everyStep env lockGuard [] s events = true)
    (ran : runEvents env s events = some (final,out)) :
    s.consensus.lockedView ≤ final.consensus.lockedView := by
  refine runEvents_monotone (fun s => s.consensus.lockedView) ?_ events [] s final out guarded ran
  intro _ s event next out checked handled
  rcases handle_lockedView handled with same | ⟨proposal,rfl,moved⟩
  · exact same.ge
  · simpa [lockGuard,moved] using checked

-- Two leaves at views 5 and 9 whose parents the store does not hold, lock and anchor at 0.
def twoLeaves : List Leaf :=
  [⟨9,⟨8,0,[]⟩,0,⟨0,0⟩,none,none⟩,⟨5,⟨4,0,[]⟩,0,⟨0,0⟩,none,none⟩]

def proposalOnNine : QuorumProposal :=
  ⟨⟨0,0⟩,10,⟨9,10,[]⟩,none,none⟩

def proposalOnFive : QuorumProposal :=
  ⟨⟨0,0⟩,6,⟨5,6,[]⟩,none,none⟩

def inOrderRun : ConsensusTaskState × List Output :=
  (runEvents fourNodes (idleNode (leafStore twoLeaves 0 0))
    [.quorumProposalValidated proposalOnFive,.quorumProposalValidated proposalOnNine]).getD
    (idleNode (leafStore twoLeaves 0 0),[])

theorem in_order_lock_rises :
    everyStep fourNodes lockGuard [] (idleNode (leafStore twoLeaves 0 0))
        [.quorumProposalValidated proposalOnFive,.quorumProposalValidated proposalOnNine] = true ∧
      runEvents fourNodes (idleNode (leafStore twoLeaves 0 0))
        [.quorumProposalValidated proposalOnFive,.quorumProposalValidated proposalOnNine] =
        some (inOrderRun.1,inOrderRun.2) ∧
      (idleNode (leafStore twoLeaves 0 0)).consensus.lockedView ≤ inOrderRun.1.consensus.lockedView :=
  have guarded : everyStep fourNodes lockGuard [] (idleNode (leafStore twoLeaves 0 0))
      [.quorumProposalValidated proposalOnFive,.quorumProposalValidated proposalOnNine] = true := by decide
  ⟨guarded,rfl,locked_view_monotone_under_guard fourNodes _ inOrderRun.1 _ inOrderRun.2 guarded rfl⟩

-- Validated out of order, the proposals on views 9 and 5 move the lock back to 5.
theorem lock_moves_back_out_of_order :
    (runEvents fourNodes (idleNode (leafStore twoLeaves 0 0)) [.quorumProposalValidated proposalOnNine]).map
        (·.1.consensus.lockedView) = some 9 ∧
      (runEvents fourNodes (idleNode (leafStore twoLeaves 0 0))
        [.quorumProposalValidated proposalOnNine,.quorumProposalValidated proposalOnFive]).map
        (·.1.consensus.lockedView) = some 5 := by
  decide

end Lock

section Anchor

-- The anchor is not above the lock. A decide leaves it one view below the lock it sets.
def AnchorBelowLock (s : ConsensusTaskState) : Prop :=
  s.consensus.lastDecidedView ≤ s.consensus.lockedView

theorem handle_lastDecidedView {env : Env} {s next : ConsensusTaskState} {event : HotShotEvent}
    {out : List Output} (ran : handle env s event = some (next,out)) :
    next.consensus.lastDecidedView = s.consensus.lastDecidedView ∨
      ∃ proposal, event = .quorumProposalValidated proposal ∧ Decides s.consensus proposal ∧
        next.consensus.lastDecidedView + 1 = proposal.justifyQc.viewNumber ∧
        next.consensus.lastDecidedView < next.consensus.lockedView := by
  rcases handle_consensus ran with ⟨proposal,rfl⟩ | ⟨_,_,_,stored,-⟩ | ⟨_,_,stored⟩ | ⟨_,_,stored⟩ | ⟨_,_,stored⟩ |
    stored
  · have rule := handle_validated_rule ran
    by_cases decides : Decides s.consensus proposal
    · exact .inr ⟨proposal,rfl,decides,(rule.decides decides).1,(rule.decides decides).2.1⟩
    · exact .inl (rule.keepsAnchor decides).1
  all_goals exact .inl (by rw [stored]; try rfl)

theorem guarded_step_anchor {env : Env} {sent : List Output} {s next : ConsensusTaskState}
    {event : HotShotEvent} {out : List Output} (checked : lockGuard sent s event = true)
    (below : AnchorBelowLock s) (ran : handle env s event = some (next,out)) :
    AnchorBelowLock next ∧ s.consensus.lastDecidedView ≤ next.consensus.lastDecidedView := by
  unfold AnchorBelowLock at *
  rcases handle_lastDecidedView ran with same | ⟨proposal,rfl,decides,anchored,locked⟩
  · rcases handle_lockedView ran with kept | ⟨proposal,rfl,moved⟩
    · omega
    · simp only [lockGuard,decide_eq_true_eq] at checked
      omega
  · obtain ⟨-,locking,-,view,fresh⟩ := decides_locks decides
    simp only [lockGuard,decide_eq_true_eq] at checked
    omega

-- From a state whose anchor is not above its lock, a run the lock guard admits never moves the
-- anchor back; the step of lock_and_decide_below_anchor is one the guard refuses.
theorem anchor_monotone_under_guard (env : Env) (sent : List Output) (s final : ConsensusTaskState)
    (events : List HotShotEvent) (out : List Output) (below : AnchorBelowLock s)
    (guarded : everyStep env lockGuard sent s events = true) (ran : runEvents env s events = some (final,out)) :
    AnchorBelowLock final ∧ s.consensus.lastDecidedView ≤ final.consensus.lastDecidedView :=
  runEvents_guarded (fun t => AnchorBelowLock t ∧ s.consensus.lastDecidedView ≤ t.consensus.lastDecidedView)
    (fun _ _ _ _ _ checked holds handled =>
      have stepped := guarded_step_anchor checked holds.1 handled
      ⟨stepped.1,holds.2.trans stepped.2⟩)
    events sent s final out guarded ⟨below,le_rfl⟩ ran

end Anchor

section HighQc

-- The guard on a formed QC: it is not older than the high QC it meets.
def highQcGuard (_ : List Output) (s : ConsensusTaskState) : HotShotEvent → Bool
  | .qcFormed (.inl qc) => s.consensus.highQc.viewNumber ≤ qc.viewNumber
  | _ => true

theorem handle_highQc {env : Env} {s next : ConsensusTaskState} {event : HotShotEvent} {out : List Output}
    (ran : handle env s event = some (next,out)) :
    s.consensus.highQc.viewNumber ≤ next.consensus.highQc.viewNumber ∨
      ∃ qc, event = .qcFormed (.inl qc) ∧ next.consensus.highQc = qc := by
  rcases handle_consensus ran with ⟨proposal,rfl⟩ | ⟨_,_,_,-,raised⟩ | ⟨qc,rfl,stored⟩ | ⟨_,_,stored⟩ | ⟨_,_,stored⟩ |
    stored
  · obtain ⟨walk,decided,-,-,committed,-⟩ := handleQuorumProposalValidated_some (handle_arms_of ran)
    exact .inl (congrArg (·.viewNumber) (commitWalk_some committed).2.1).ge
  · exact .inl raised
  · exact .inr ⟨qc,rfl,by simp [stored]⟩
  all_goals exact .inl (by simp [stored])

theorem high_qc_monotone_under_guard (env : Env) (s final : ConsensusTaskState) (events : List HotShotEvent)
    (out : List Output) (guarded : everyStep env highQcGuard [] s events = true)
    (ran : runEvents env s events = some (final,out)) :
    s.consensus.highQc.viewNumber ≤ final.consensus.highQc.viewNumber := by
  refine runEvents_monotone (fun s => s.consensus.highQc.viewNumber) ?_ events [] s final out guarded ran
  intro _ s event next out checked handled
  rcases handle_highQc handled with raised | ⟨qc,rfl,set⟩
  · exact raised
  · simpa [highQcGuard,set] using checked

-- QCs for views 3 and 7 formed in order, with a proposal received between them whose justify-QC,
-- for view 5, the helper adopts.
def risingQcs : List HotShotEvent :=
  [.qcFormed (.inl ⟨3,0,[]⟩),.quorumProposalRecv proposalOnFive 0,.qcFormed (.inl ⟨7,0,[]⟩)]

def risingRun : ConsensusTaskState × List Output :=
  (runEvents receivingNodes (idleNode (leafStore twoLeaves 0 0)) risingQcs).getD (idleNode (leafStore twoLeaves 0 0),[])

theorem rising_qcs_raise_high_qc :
    everyStep receivingNodes highQcGuard [] (idleNode (leafStore twoLeaves 0 0)) risingQcs = true ∧
      runEvents receivingNodes (idleNode (leafStore twoLeaves 0 0)) risingQcs = some (risingRun.1,risingRun.2) ∧
      (idleNode (leafStore twoLeaves 0 0)).consensus.highQc.viewNumber ≤ risingRun.1.consensus.highQc.viewNumber :=
  have guarded : everyStep receivingNodes highQcGuard [] (idleNode (leafStore twoLeaves 0 0)) risingQcs = true := by
    decide
  ⟨guarded,rfl,high_qc_monotone_under_guard receivingNodes _ risingRun.1 _ risingRun.2 guarded rfl⟩

-- A QC formed late, for view 3, replaces a high QC at view 7.
theorem late_qc_lowers_high_qc :
    (runEvents fourNodes (idleNode (leafStore twoLeaves 0 0)) [.qcFormed (.inl ⟨7,0,[]⟩),.qcFormed (.inl ⟨3,0,[]⟩)]).map
      (·.1.consensus.highQc.viewNumber) = some 3 := by
  decide

end HighQc

section Slots

-- No vote reaches a collector slot for a view at or below a certificate already formed through it.
def freshQuorumVote (sent : List Output) (_ : ConsensusTaskState) : HotShotEvent → Bool
  | .quorumVoteRecv vote => (sent.filterMap formedQc).all (·.viewNumber < vote.viewNumber)
  | _ => true

def freshTimeoutVote (sent : List Output) (_ : ConsensusTaskState) : HotShotEvent → Bool
  | .timeoutVoteRecv vote => (sent.filterMap formedTc).all (·.viewNumber < vote.viewNumber)
  | _ => true

variable {env : Env} {wrap : SimpleVote → HotShotEvent} {pick : Output → Option SimpleCertificate}
  {slot : ConsensusTaskState → Option VoteCollectionTaskState}
  {check : List Output → ConsensusTaskState → HotShotEvent → Bool}

theorem slot_run_increasing
    (step : ∀ s vote (certified : List Nat), (∀ view ∈ certified, view < vote.viewNumber) →
      SlotAbove certified (slot s) → ∀ next out, handle env s (wrap vote) = some (next,out) →
        ∃ cert : Option SimpleCertificate, out.filterMap pick = cert.toList ∧
          (∀ c ∈ cert, ∀ view ∈ certified, view < c.viewNumber) ∧
          SlotAbove (certified ++ (cert.map (·.viewNumber)).toList) (slot next))
    (fresh : ∀ sent s vote, check sent s (wrap vote) = true →
      ∀ c ∈ sent.filterMap pick, c.viewNumber < vote.viewNumber)
    (votes : List SimpleVote) :
    ∀ s sent final out, SlotAbove ((sent.filterMap pick).map (·.viewNumber)) (slot s) →
      ((sent.filterMap pick).map (·.viewNumber)).Chain' (· < ·) →
      everyStep env check sent s (votes.map wrap) = true → runEvents env s (votes.map wrap) = some (final,out) →
      (((sent ++ out).filterMap pick).map (·.viewNumber)).Chain' (· < ·) := by
  induction votes with
  | nil =>
    intro s sent final out _ sorted _ ran
    simpa [(runEvents_nil ran).2] using sorted
  | cons vote rest ih =>
    intro s sent final out above sorted guarded ran
    obtain ⟨next,first,more,handled,restRan,rfl⟩ := runEvents_cons ran
    obtain ⟨checked,restGuarded⟩ := everyStep_cons guarded handled
    have below : ∀ view ∈ (sent.filterMap pick).map (·.viewNumber), view < vote.viewNumber := by
      intro view mem
      obtain ⟨c,picked,rfl⟩ := List.mem_map.mp mem
      exact fresh sent s vote checked c picked
    obtain ⟨cert,picked,rises,above'⟩ := step s vote _ below above next first handled
    have extended : ((sent ++ first).filterMap pick).map (·.viewNumber) =
        (sent.filterMap pick).map (·.viewNumber) ++ (cert.map (·.viewNumber)).toList := by
      cases cert <;> simp [List.filterMap_append,picked]
    rw [← List.append_assoc]
    refine ih next (sent ++ first) final more (extended ▸ above') ?_ restGuarded restRan
    rw [extended]
    refine List.Chain'.append sorted (by cases cert <;> simp) ?_
    intro last isLast c isCert
    cases cert with
    | none => simp at isCert
    | some c' =>
      simp only [Option.map_some',Option.toList_some,List.head?_cons,Option.mem_def,Option.some.injEq] at isCert
      subst isCert
      exact rises c' rfl last (List.mem_of_getLast?_eq_some isLast)

theorem quorum_slot_step (s : ConsensusTaskState) (vote : QuorumVote) (certified : List Nat)
    (fresh : ∀ view ∈ certified, view < vote.viewNumber) (above : SlotAbove certified s.voteCollector)
    (next : ConsensusTaskState) (out : List Output) (handled : handle env s (.quorumVoteRecv vote) = some (next,out)) :
    ∃ cert : Option SimpleCertificate, out.filterMap formedQc = cert.toList ∧
      (∀ c ∈ cert, ∀ view ∈ certified, view < c.viewNumber) ∧
      SlotAbove (certified ++ (cert.map (·.viewNumber)).toList) next.voteCollector := by
  replace handled := handle_arms_of handled
  simp only [handleArms,Option.some.injEq,Prod.ext_iff] at handled
  obtain ⟨rfl,rfl⟩ := handled
  obtain ⟨cert,sent,rises,above'⟩ := @collectVote_step env.quorumMembership.leader env.quorumMembership
    env.voteSigned (fun qc => .qcFormed (.inl qc)) s.publicKey _ _ _ fresh above
  exact ⟨cert,by cases cert <;> simp [sent,formedQc],rises,above'⟩

theorem timeout_slot_step (s : ConsensusTaskState) (vote : TimeoutVote) (certified : List Nat)
    (fresh : ∀ view ∈ certified, view < vote.viewNumber) (above : SlotAbove certified s.timeoutVoteCollector)
    (next : ConsensusTaskState) (out : List Output) (handled : handle env s (.timeoutVoteRecv vote) = some (next,out)) :
    ∃ cert : Option SimpleCertificate, out.filterMap formedTc = cert.toList ∧
      (∀ c ∈ cert, ∀ view ∈ certified, view < c.viewNumber) ∧
      SlotAbove (certified ++ (cert.map (·.viewNumber)).toList) next.timeoutVoteCollector := by
  replace handled := handle_arms_of handled
  simp only [handleArms,Option.some.injEq,Prod.ext_iff] at handled
  obtain ⟨rfl,rfl⟩ := handled
  obtain ⟨cert,sent,rises,above'⟩ := @collectVote_step env.timeoutMembership.leader env.quorumMembership
    env.voteSigned (fun tc => .qcFormed (.inr tc)) s.publicKey _ _ _ fresh above
  exact ⟨cert,by cases cert <;> simp [sent,formedTc],rises,above'⟩

end Slots

theorem collector_certificates_rise (env : Env) (s : ConsensusTaskState) (votes : List SimpleVote) :
    (∀ final out, everyStep env freshQuorumVote [] s (votes.map .quorumVoteRecv) = true →
      runEvents env s (votes.map .quorumVoteRecv) = some (final,out) →
      ((out.filterMap formedQc).map (·.viewNumber)).Chain' (· < ·)) ∧
    (∀ final out, everyStep env freshTimeoutVote [] s (votes.map .timeoutVoteRecv) = true →
      runEvents env s (votes.map .timeoutVoteRecv) = some (final,out) →
      ((out.filterMap formedTc).map (·.viewNumber)).Chain' (· < ·)) := by
  constructor
  · intro final out guarded ran
    simpa using @slot_run_increasing env .quorumVoteRecv formedQc (·.voteCollector) freshQuorumVote
      quorum_slot_step (fun sent _ vote checked => by simpa only [freshQuorumVote,List.all_eq_true,decide_eq_true_eq] using checked) votes s [] final out
      (by simp [SlotAbove]) List.chain'_nil guarded ran
  · intro final out guarded ran
    simpa using @slot_run_increasing env .timeoutVoteRecv formedTc (·.timeoutVoteCollector) freshTimeoutVote
      timeout_slot_step (fun sent _ vote checked => by simpa only [freshTimeoutVote,List.all_eq_true,decide_eq_true_eq] using checked) votes s [] final out
      (by simp [SlotAbove]) List.chain'_nil guarded ran

-- Node 0, the leader of every view, and three signed votes for one leaf at view 5.
def leaderNode : ConsensusTaskState :=
  { idleNode (leafStore [] 0 0) with publicKey := 0, privateKey := 0 }

def threeVotes : List SimpleVote :=
  [⟨1,1,9,5⟩,⟨2,2,9,5⟩,⟨3,3,9,5⟩]

-- Three votes for view 5, then three for view 6 once the first certificate has emptied the slot.
def twoRounds : List SimpleVote :=
  threeVotes ++ threeVotes.map fun vote => { vote with viewNumber := 6 }

def quorumRun : ConsensusTaskState × List Output :=
  (runEvents fourNodes leaderNode (twoRounds.map .quorumVoteRecv)).getD (leaderNode,[])

def timeoutRun : ConsensusTaskState × List Output :=
  (runEvents fourNodes leaderNode (twoRounds.map .timeoutVoteRecv)).getD (leaderNode,[])

theorem two_rounds_certify_in_order :
    (everyStep fourNodes freshQuorumVote [] leaderNode (twoRounds.map .quorumVoteRecv) = true ∧
      runEvents fourNodes leaderNode (twoRounds.map .quorumVoteRecv) = some (quorumRun.1,quorumRun.2) ∧
      (quorumRun.2.filterMap formedQc).map (·.viewNumber) = [5,6] ∧
      ((quorumRun.2.filterMap formedQc).map (·.viewNumber)).Chain' (· < ·)) ∧
    (everyStep fourNodes freshTimeoutVote [] leaderNode (twoRounds.map .timeoutVoteRecv) = true ∧
      runEvents fourNodes leaderNode (twoRounds.map .timeoutVoteRecv) = some (timeoutRun.1,timeoutRun.2) ∧
      (timeoutRun.2.filterMap formedTc).map (·.viewNumber) = [5,6] ∧
      ((timeoutRun.2.filterMap formedTc).map (·.viewNumber)).Chain' (· < ·)) :=
  have quorumFresh : everyStep fourNodes freshQuorumVote [] leaderNode (twoRounds.map .quorumVoteRecv) = true := by
    decide
  have timeoutFresh : everyStep fourNodes freshTimeoutVote [] leaderNode (twoRounds.map .timeoutVoteRecv) = true := by
    decide
  ⟨⟨quorumFresh,rfl,by decide,(collector_certificates_rise fourNodes leaderNode twoRounds).1 _ _ quorumFresh rfl⟩,
    ⟨timeoutFresh,rfl,by decide,(collector_certificates_rise fourNodes leaderNode twoRounds).2 _ _ timeoutFresh rfl⟩⟩

-- The same three votes twice: the emptied slot starts afresh and certifies view 5 again.
theorem repeated_votes_certify_twice :
    (runEvents fourNodes leaderNode ((threeVotes ++ threeVotes).map .quorumVoteRecv)).map
        (fun run => (run.2.filterMap formedQc).map (·.viewNumber)) = some [5,5] ∧
      (runEvents fourNodes leaderNode ((threeVotes ++ threeVotes).map .timeoutVoteRecv)).map
        (fun run => (run.2.filterMap formedTc).map (·.viewNumber)) = some [5,5] := by
  decide

section Voting

-- The genesis leaf, and two proposals for view 1 on it, as an equivocating leader sends them.
def genesisLeaf : Leaf :=
  ⟨0,⟨0,0,[]⟩,0,⟨0,0⟩,none,none⟩

def proposalA : QuorumProposal :=
  ⟨⟨9,0⟩,1,⟨0,1,[]⟩,none,none⟩

def proposalB : QuorumProposal :=
  ⟨⟨9,1⟩,1,⟨0,1,[]⟩,none,none⟩

-- Node 1 holding its VID share for view 1 and the given DA certificate for view 1.
def votingStore (daCert : Option DaCertificate) : Consensus :=
  { leafStore [genesisLeaf] 0 0 with
    savedDaCerts := fun view => if view = 1 then daCert else none
    vidShares := fun view => if view = 1 then some fun key => if key = 1 then some ⟨1,1,9,0,0⟩ else none
      else none }

-- Nothing records that a vote was sent for a view: the second proposal for view 1 is voted for too.
theorem votes_twice_in_view_one :
    (runEvents fourNodes (idleNode (votingStore (some ⟨1,9,[0,1,2]⟩)))
        [.quorumProposalValidated proposalA,.quorumProposalValidated proposalB]).map (quorumVotes ·.2) =
      some [⟨1,1,3,1⟩,⟨1,1,7,1⟩] := by
  decide

theorem da_certificate_stored_unchecked (env : Env) (s : ConsensusTaskState) (cert : DaCertificate) :
    ∃ next out, handle env s (.daCertificateRecv cert) = some (next,out) ∧
      next.consensus.savedDaCerts cert.viewNumber = some cert :=
  ⟨_,_,handle_of_quiet rfl,by simp⟩

-- Whichever DA certificate for view 1 came last decides whether the node votes.
theorem forged_da_certificate_decides_vote :
    fourNodes.isValidCert ⟨1,5,[3]⟩ fourNodes.committeeMembership = false ∧
    (runEvents fourNodes (idleNode (votingStore none))
        [.daCertificateRecv ⟨1,9,[0,1,2]⟩,.daCertificateRecv ⟨1,5,[3]⟩,.quorumProposalValidated proposalA]).map
        (fun run => (run.1.consensus.savedDaCerts 1,quorumVotes run.2)) = some (some ⟨1,5,[3]⟩,[]) ∧
    (runEvents fourNodes (idleNode (votingStore none))
        [.daCertificateRecv ⟨1,5,[3]⟩,.daCertificateRecv ⟨1,9,[0,1,2]⟩,.quorumProposalValidated proposalA]).map
        (fun run => (run.1.consensus.savedDaCerts 1,quorumVotes run.2)) = some (some ⟨1,9,[0,1,2]⟩,[⟨1,1,3,1⟩]) := by
  decide

end Voting

section Upgrade

-- Node 1 at view 5 with a decided upgrade to version 2 from view 6.
def upgradeNode : ConsensusTaskState :=
  { idleNode (leafStore [] 0 0) with curView := 5, decidedUpgradeCert := some ⟨3,2,4,6,10⟩ }

theorem refused_view_change_upgrades (env : Env) (s : ConsensusTaskState) (cert : UpgradeCertificate)
    (decided : s.decidedUpgradeCert = some cert) (refused : cert.newVersionFirstView ≤ s.curView)
    (fits : s.curView + 1 < UInt64.size) :
    ∃ next out, handle env s (.viewChange cert.newVersionFirstView) = some (next,out) ∧
      next.curView = s.curView ∧ next.version = cert.newVersion ∧
      .broadcast (.versionUpgrade cert.newVersion) ∈ out := by
  simp [handle,handleArms,eventViewArithmetic,ViewOp.overflows,Nat.not_le.mpr fits,upgradeVersion,decided,
    updateView,refused]
  exact ⟨_,_,⟨rfl,rfl⟩,rfl,rfl,by simp⟩

example : ∃ next out, handle fourNodes { upgradeNode with curView := 6 } (.viewChange 6) = some (next,out) ∧
    next.curView = 6 ∧ next.version = 2 ∧ .broadcast (.versionUpgrade 2) ∈ out :=
  refused_view_change_upgrades fourNodes { upgradeNode with curView := 6 } ⟨3,2,4,6,10⟩ rfl (by decide) (by decide)

-- ViewChange(6) twice, as update_view rebroadcasts it: VersionUpgrade goes out twice.
theorem version_upgrade_announced_twice :
    (runEvents fourNodes upgradeNode [.viewChange 6,.viewChange 6]).map
      (fun run => (run.1.curView,run.2.count (.broadcast (.versionUpgrade 2)))) = some (6,2) := by
  decide

end Upgrade

end HotShotConsensus
