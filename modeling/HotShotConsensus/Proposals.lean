import HotShotConsensus.TaskLedger
import HotShotConsensus.Certificates
import HotShotConsensus.Availability

namespace HotShotConsensus

-- The views of the producer tasks among what the task spawned, in order.
def producerViews (out : List Output) : List Nat :=
  (spawnedHandles out).filterMap fun
    | .proposal view => some view
    | .timeout _ => none

-- The views of the payloads a run hands the task.
def payloadViews (events : List HotShotEvent) : List Nat :=
  events.filterMap fun
    | .sendPayloadCommitmentAndMetadata _ _ _ view _ => some view
    | _ => none

@[simp] theorem producerViews_append (first second : List Output) :
    producerViews (first ++ second) = producerViews first ++ producerViews second := by
  simp only [producerViews,spawnedHandles_append,List.filterMap_append]

@[simp] theorem producerViews_intent (intent : ConsensusIntentEvent) (out : List Output) :
    producerViews (.quorumIntent intent :: out) = producerViews out := rfl

theorem producerViews_eq_nil {out : List Output} (none : spawnedHandles out = []) : producerViews out = [] := by
  rw [producerViews,none,List.filterMap_nil]

theorem producerViews_publishProposal {env : Env} {view other : Nat} {s : ConsensusTaskState}
    (mem : other ∈ producerViews (publishProposal env view s).2) : other = view := by
  rcases publishProposal_outputs env view s with none | spawned <;> simp_all [producerViews]

theorem producerViews_publishProposal_if {env : Env} {proposes : Prop} [Decidable proposes] {view other : Nat}
    {s : ConsensusTaskState} (mem : other ∈ producerViews (if proposes then publishProposal env view s else (s,[])).2) :
    proposes ∧ other = view := by
  split at mem
  · exact ⟨‹_›,producerViews_publishProposal mem⟩
  · simp [producerViews] at mem

theorem ProposalRecvStep.producerViews_eq {proposal : QuorumProposal} {s next : ConsensusTaskState}
    {out : List Output} (step : ProposalRecvStep proposal s next out) : producerViews out = [] := by
  refine List.filterMap_eq_nil_iff.mpr fun task mem => ?_
  obtain ⟨output,mem,found⟩ := List.mem_filterMap.mp mem
  rcases step.outputs output mem with relayed | ⟨_,rfl⟩ | rfl | rfl
  · unfold Relayed at relayed
    split at relayed <;> first | cases found | exact relayed.elim
  all_goals cases found <;> rfl

theorem followThrough_producers {env : Env} {s : ConsensusTaskState} {proposal : QuorumProposal}
    {walk : DecideWalk} {view : Nat} (spawned : view ∈ producerViews (followThrough env s proposal walk).2) :
    env.quorumMembership.leader view = s.publicKey := by
  simp only [followThrough,tryVote,producerViews_append,List.mem_append] at spawned
  rcases spawned with (cancelled | proposed) | voted
  · split at cancelled <;> simp [producerViews] at cancelled
  · obtain ⟨⟨leads,atProposal⟩,rfl⟩ := producerViews_publishProposal_if proposed
    rw [atProposal]
    exact leads
  · simp [producerViews] at voted

theorem handle_producers {env : Env} {s next : ConsensusTaskState} {event : HotShotEvent} {out : List Output}
    (ran : handle env s event = some (next,out)) {view : Nat} (spawned : view ∈ producerViews out) :
    env.quorumMembership.leader view = s.publicKey ∨
    (∃ qc, event = .qcFormed (.inl qc) ∧ view = qc.viewNumber + 1) ∨
    (∃ tc, event = .qcFormed (.inr tc) ∧ view = tc.viewNumber + 1) ∨
    view ∈ payloadViews [event] := by
  rcases handle_task_arms ran with ⟨proposal,sender,rfl⟩ | ⟨proposal,rfl⟩ | ⟨newView,rfl⟩ | ⟨certificate,rfl⟩ |
    ⟨payloadCommitment,builderCommitment,metadata,payloadView,fee,rfl⟩ | ⟨cert,rfl⟩ | ⟨-,none,-⟩
  · obtain ⟨received,relayed,step,⟨rfl,rfl⟩ | ⟨current,rfl,rfl⟩⟩ := handle_proposalRecv ran
    · rw [step.producerViews_eq] at spawned
      cases spawned
    · rw [producerViews_append,step.producerViews_eq,producerViews_eq_nil (spawnedHandles_voteIfAble env _)] at spawned
      cases spawned
  · obtain ⟨walk,consensus,decided,rest,-,committed,followed,rfl⟩ := handleQuorumProposalValidated_eq (handle_arms_of ran)
    obtain ⟨rfl,rfl⟩ := Prod.ext_iff.mp followed
    have quiet : spawnedHandles decided = [] := by
      obtain ⟨-,-,undecidedCase,decidedCase⟩ := commitWalk_some committed
      cases reached : walk.newDecideReached
      · simp [(undecidedCase reached).2.1]
      · obtain ⟨qc,-,-,outputs,-⟩ := decidedCase reached
        simp [outputs]
    rw [producerViews_append,producerViews_eq_nil quiet,List.nil_append] at spawned
    have leads := followThrough_producers spawned
    exact .inl leads
  all_goals replace ran := handle_arms_of ran; simp only [handleArms] at ran
  · split at ran <;> obtain ⟨rfl,rfl⟩ := Prod.ext_iff.mp (Option.some.inj ran)
    · simp [producerViews] at spawned
    · rename_i moved
      obtain ⟨-,-,-,rfl⟩ := updateView_moves moved
      simp [producerViews] at spawned
  · cases certificate with
    | inl qc =>
      obtain ⟨rfl,rfl⟩ := Prod.ext_iff.mp (Option.some.inj ran)
      exact .inr (.inl ⟨qc,rfl,producerViews_publishProposal spawned⟩)
    | inr tc =>
      obtain ⟨rfl,rfl⟩ := Prod.ext_iff.mp (Option.some.inj ran)
      exact .inr (.inr (.inl ⟨tc,rfl,producerViews_publishProposal spawned⟩))
  · obtain ⟨rfl,rfl⟩ := Prod.ext_iff.mp (Option.some.inj ran)
    rw [producerViews_append,List.mem_append] at spawned
    refine .inr (.inr (.inr (List.mem_singleton.mpr ?_)))
    rcases spawned with first | second
    · exact (producerViews_publishProposal_if first).2
    · exact (producerViews_publishProposal_if second).2
  · split at ran <;> obtain ⟨rfl,rfl⟩ := Prod.ext_iff.mp (Option.some.inj ran)
    · simp [producerViews] at spawned
    · rw [producerViews_intent] at spawned
      obtain ⟨leads,rfl⟩ := producerViews_publishProposal_if spawned
      exact .inl leads
  · simp [producerViews_eq_nil none] at spawned

-- The collector a certificate comes from runs at the leader of the view after it: the QC
-- collector by the quorum membership, the TC collector by the timeout membership.
def LeadsNext (env : Env) (publicKey : Nat) : QuorumCertificate ⊕ TimeoutCertificate → Prop
  | .inl qc => env.quorumMembership.leader (qc.viewNumber + 1) = publicKey
  | .inr tc => env.timeoutMembership.leader (tc.viewNumber + 1) = publicKey

theorem handle_formed_leads {env : Env} {s next : ConsensusTaskState} {event : HotShotEvent} {out : List Output}
    (ran : handle env s event = some (next,out)) : ∀ c ∈ formedCertificates out, LeadsNext env s.publicKey c := by
  rcases handle_collectors ran with ⟨-,-,none⟩ | ⟨vote,rfl,-,collected⟩ | ⟨vote,rfl,-,collected⟩
  · simp [none]
  · obtain ⟨cert,sent,leads⟩ := collectVote_leader env.quorumMembership.leader env.quorumMembership env.voteSigned
      (fun qc => .qcFormed (.inl qc)) s.publicKey s.voteCollector vote
    rw [collected] at sent
    cases cert <;> simp_all [LeadsNext]
  · obtain ⟨cert,sent,leads⟩ := collectVote_leader env.timeoutMembership.leader env.quorumMembership env.voteSigned
      (fun tc => .qcFormed (.inr tc)) s.publicKey s.timeoutVoteCollector vote
    rw [collected] at sent
    cases cert <;> simp_all [LeadsNext]

-- The task's own event loop: each QCFormed it handles carries a certificate it sent before.
def ownCertificates (sent : List Output) (_ : ConsensusTaskState) : HotShotEvent → Bool
  | .qcFormed certificate => (formedCertificates sent).any (· = certificate)
  | _ => true

theorem producers_for_led_views (env : Env) (events : List HotShotEvent) :
    ∀ sent s final out, (∀ c ∈ formedCertificates sent, LeadsNext env s.publicKey c) →
      everyStep env ownCertificates sent s events = true → runEvents env s events = some (final,out) →
      ∀ view ∈ producerViews out, env.quorumMembership.leader view = s.publicKey ∨
        env.timeoutMembership.leader view = s.publicKey ∨ view ∈ payloadViews events := by
  induction events with
  | nil =>
    intro sent s final out _ _ ran
    obtain ⟨rfl,rfl⟩ := runEvents_nil ran
    simp [producerViews]
  | cons event rest ih =>
    intro sent s final out led loop ran view mem
    obtain ⟨next,first,more,handled,restRan,rfl⟩ := runEvents_cons ran
    obtain ⟨checked,restLoop⟩ := everyStep_cons loop handled
    have sameKey := handle_publicKey handled
    have payloads : payloadViews (event :: rest) = payloadViews [event] ++ payloadViews rest :=
      List.filterMap_append [event] rest _
    rw [payloads,List.mem_append]
    rcases List.mem_append.mp (producerViews_append first more ▸ mem) with mem | mem
    · rcases handle_producers handled mem with leads | ⟨qc,rfl,rfl⟩ | ⟨tc,rfl,rfl⟩ | paid
      · exact .inl leads
      · exact .inl (led (.inl qc) (by simpa [ownCertificates] using checked))
      · exact .inr (.inl (led (.inr tc) (by simpa [ownCertificates] using checked)))
      · exact .inr (.inr (.inl paid))
    · have restLed : ∀ c ∈ formedCertificates (sent ++ first), LeadsNext env next.publicKey c := by
        intro c formed
        rw [sameKey]
        rcases List.mem_append.mp (formedCertificates_append sent first ▸ formed) with old | new
        · exact led c old
        · exact handle_formed_leads handled c new
      rw [← sameKey]
      exact (ih (sent ++ first) next final more restLed restLoop restRan view mem).imp_right (Or.imp_right .inr)

-- The leader of view 6 collects three votes for view 5, forms the QC and is handed it back: it
-- spawns the producer of view 6.
def ownQcEvents : List HotShotEvent :=
  threeVotes.map .quorumVoteRecv ++ [.qcFormed (.inl ⟨5,9,[1,2,3]⟩)]

def ownQcRun : ConsensusTaskState × List Output :=
  (runEvents fourNodes leaderNode ownQcEvents).getD (leaderNode,[])

theorem own_qc_producer_led :
    everyStep fourNodes ownCertificates [] leaderNode ownQcEvents = true ∧
      runEvents fourNodes leaderNode ownQcEvents = some (ownQcRun.1,ownQcRun.2) ∧
      ∀ view ∈ producerViews ownQcRun.2, fourNodes.quorumMembership.leader view = leaderNode.publicKey ∨
        fourNodes.timeoutMembership.leader view = leaderNode.publicKey ∨ view ∈ payloadViews ownQcEvents :=
  have loop : everyStep fourNodes ownCertificates [] leaderNode ownQcEvents = true := by decide
  ⟨loop,rfl,producers_for_led_views fourNodes ownQcEvents [] leaderNode _ _ (fun _ absent => nomatch absent) loop rfl⟩

-- Four nodes whose leaders rotate with the view.
def rotatingNodes : Env :=
  let membership := { fourNodes.quorumMembership with leader := fun view => view % 4 }
  { fourNodes with quorumMembership := membership, timeoutMembership := membership }

-- The payload case taken: node 1, already running the producer of view 1, forms the TC of view 0
-- as leader of view 1 and is handed it back. publish_proposal declines and hands the certificate
-- back, and a payload for view 6, which node 2 leads, then has node 1 spawn the producer of view 6.
example : (runEvents rotatingNodes { idleNode (leafStore [] 0 0) with spawnedTasks := [(1,[.proposal 1])] }
    ([⟨1,1,0,0⟩,⟨2,2,0,0⟩,⟨3,3,0,0⟩].map .timeoutVoteRecv ++
      [.qcFormed (.inr ⟨0,0,[1,2,3]⟩),.sendPayloadCommitmentAndMetadata 0 0 0 6 0])).map
        (fun run => producerViews run.2) = some [6] := by
  decide

end HotShotConsensus
