import HotShotConsensus.Steps

namespace HotShotConsensus

-- The certificates the vote collectors send on: QCFormed with a QC or a TC.
def formedCertificates (out : List Output) : List (QuorumCertificate ⊕ TimeoutCertificate) :=
  out.filterMap fun
    | .broadcast (.qcFormed certificate) => some certificate
    | _ => none

-- The votes a run delivers to each collector, in order.
def quorumVotesIn (events : List HotShotEvent) : List QuorumVote :=
  events.filterMap fun
    | .quorumVoteRecv vote => some vote
    | _ => none

def timeoutVotesIn (events : List HotShotEvent) : List TimeoutVote :=
  events.filterMap fun
    | .timeoutVoteRecv vote => some vote
    | _ => none

@[simp] theorem formedCertificates_nil : formedCertificates [] = [] := rfl

@[simp] theorem formedCertificates_cons (output : Output) (out : List Output) :
    formedCertificates (output :: out) = (match output with
      | .broadcast (.qcFormed certificate) => [certificate]
      | _ => []) ++ formedCertificates out := by
  cases output with
  | broadcast event => cases event <;> rfl
  | _ => rfl

@[simp] theorem formedCertificates_append (first second : List Output) :
    formedCertificates (first ++ second) = formedCertificates first ++ formedCertificates second :=
  List.filterMap_append _ _ _

theorem formedCertificates_eq_nil {out : List Output}
    (quiet : ∀ output ∈ out, ∀ certificate, output ≠ .broadcast (.qcFormed certificate)) :
    formedCertificates out = [] := by
  refine List.filterMap_eq_nil_iff.mpr fun output mem => ?_
  cases output with
  | broadcast event =>
    cases event with
    | qcFormed certificate => exact absurd rfl (quiet _ mem certificate)
    | _ => rfl
  | _ => rfl

theorem AllSilent.formedCertificates_eq {out : List Output} (silent : AllSilent out) : formedCertificates out = [] :=
  formedCertificates_eq_nil fun _ mem _ same => by subst same; exact silent _ mem

theorem handle_collectors {env : Env} {s next : ConsensusTaskState} {event : HotShotEvent} {out : List Output}
    (ran : handle env s event = some (next,out)) :
    (next.voteCollector = s.voteCollector ∧ next.timeoutVoteCollector = s.timeoutVoteCollector ∧
      formedCertificates out = []) ∨
    (∃ vote, event = .quorumVoteRecv vote ∧ next.timeoutVoteCollector = s.timeoutVoteCollector ∧
      collectVote env.quorumMembership.leader env.quorumMembership env.voteSigned (fun qc => .qcFormed (.inl qc))
        s.publicKey s.voteCollector vote = (next.voteCollector,out)) ∨
    (∃ vote, event = .timeoutVoteRecv vote ∧ next.voteCollector = s.voteCollector ∧
      collectVote env.timeoutMembership.leader env.quorumMembership env.voteSigned (fun tc => .qcFormed (.inr tc))
        s.publicKey s.timeoutVoteCollector vote = (next.timeoutVoteCollector,out)) := by
  rcases handle_arms ran with ⟨proposal,rfl⟩ | ⟨newView,rfl⟩ | ⟨proposal,sender,rfl⟩ | ⟨vote,rfl,rfl,rfl⟩ |
    ⟨vote,rfl,rfl,rfl⟩ | ⟨view,rfl,rfl,sent,silent,rfl | ⟨-,rfl⟩⟩ | quiet
  · obtain ⟨frame,decided,rest,rfl,silent,rfl | ⟨leaves,leafChain,qc,blockSize,rfl⟩⟩ := handle_validated_arm ran <;>
      exact .inl ⟨frame.voteCollector,frame.timeoutVoteCollector,by simp [silent.formedCertificates_eq]⟩
  · obtain ⟨same,sameTimeout,-,⟨-,-,silent⟩ | ⟨-,-,-,changed,silent,rfl⟩⟩ := handle_viewChange_arm ran <;>
      exact .inl ⟨same,sameTimeout,by simp [silent.formedCertificates_eq]⟩
  · obtain ⟨same,sameTimeout,-,silent,-⟩ := handle_proposalRecv_arm ran
    exact .inl ⟨same,sameTimeout,silent.formedCertificates_eq⟩
  · exact .inr (.inl ⟨vote,rfl,rfl,rfl⟩)
  · exact .inr (.inr ⟨vote,rfl,rfl,rfl⟩)
  · exact .inl ⟨rfl,rfl,silent.formedCertificates_eq⟩
  · exact .inl ⟨rfl,rfl,by simp [silent.formedCertificates_eq]⟩
  · exact .inl ⟨quiet.voteCollector,quiet.timeoutVoteCollector,quiet.outputs.formedCertificates_eq⟩

theorem collected_backed {membership : Membership} {signed : SimpleVote → Bool} {held : List SimpleVote}
    {leader : Nat → Nat} {inject : SimpleCertificate → QuorumCertificate ⊕ TimeoutCertificate} {publicKey : Nat}
    {slot next : Option VoteCollectionTaskState} {vote : SimpleVote} {out : List Output}
    (backed : SlotBacked membership signed held slot)
    (collected : collectVote leader membership signed (fun c => .qcFormed (inject c)) publicKey slot vote = (next,out)) :
    ∃ cert : Option SimpleCertificate, formedCertificates out = cert.toList.map inject ∧
      (∀ c ∈ cert, CertBacked membership signed (vote :: held) c) ∧ SlotBacked membership signed (vote :: held) next := by
  obtain ⟨cert,sent,formed,slot⟩ := @collectVote_backed membership signed held leader
    (fun c => .qcFormed (inject c)) publicKey slot vote backed
  rw [collected] at sent slot
  exact ⟨cert,by rw [show out = _ from sent]; cases cert <;> rfl,formed,slot⟩

theorem backed_taking_vote {membership : Membership} {signed : SimpleVote → Bool} {held received : List SimpleVote}
    {vote : SimpleVote} {cert : Option SimpleCertificate} {later : SimpleCertificate → Prop}
    (formed : ∀ c ∈ cert, CertBacked membership signed (vote :: held) c)
    (rest : ∀ c, later c → CertBacked membership signed (vote :: held ++ received) c) :
    ∀ c, c ∈ cert ∨ later c → CertBacked membership signed (held ++ vote :: received) c := by
  have moved : vote :: held ++ received ⊆ held ++ vote :: received := List.perm_middle.symm.subset
  rintro c (now | afterwards)
  · exact (formed c now).mono ((List.cons_subset_cons _ (List.subset_append_left _ _)).trans moved)
  · exact (rest c afterwards).mono moved

-- The timeout collector counts against the quorum membership, as the code builds its accumulator.
theorem formed_certificates_backed (env : Env) (events : List HotShotEvent) :
    ∀ heldQuorum heldTimeout s final out,
      SlotBacked env.quorumMembership env.voteSigned heldQuorum s.voteCollector →
      SlotBacked env.quorumMembership env.voteSigned heldTimeout s.timeoutVoteCollector →
      runEvents env s events = some (final,out) →
      (∀ qc, .inl qc ∈ formedCertificates out →
        CertBacked env.quorumMembership env.voteSigned (heldQuorum ++ quorumVotesIn events) qc) ∧
      (∀ tc, .inr tc ∈ formedCertificates out →
        CertBacked env.quorumMembership env.voteSigned (heldTimeout ++ timeoutVotesIn events) tc) := by
  induction events with
  | nil =>
    intro heldQuorum heldTimeout s final out _ _ ran
    obtain ⟨rfl,rfl⟩ := runEvents_nil ran
    simp
  | cons event rest ih =>
    intro heldQuorum heldTimeout s final out quorumBacked timeoutBacked ran
    obtain ⟨next,first,more,handled,restRan,rfl⟩ := runEvents_cons ran
    simp only [formedCertificates_append,List.mem_append]
    rcases handle_collectors handled with ⟨sameQuorum,sameTimeout,quiet⟩ | ⟨vote,rfl,sameTimeout,collected⟩ |
      ⟨vote,rfl,sameQuorum,collected⟩
    · -- the votes of the rest of the run are among those of the whole run
      have later : ∀ (held : List SimpleVote) (pick : HotShotEvent → Option SimpleVote),
          held ++ rest.filterMap pick ⊆ held ++ (event :: rest).filterMap pick :=
        fun held pick => (((List.sublist_cons_self _ _).filterMap pick).append_left held).subset
      obtain ⟨restQuorum,restTimeout⟩ :=
        ih heldQuorum heldTimeout next final more (sameQuorum ▸ quorumBacked) (sameTimeout ▸ timeoutBacked) restRan
      simp only [quiet,List.not_mem_nil,false_or]
      exact ⟨fun qc mem => (restQuorum qc mem).mono (later _ _),fun tc mem => (restTimeout tc mem).mono (later _ _)⟩
    · obtain ⟨cert,firstCerts,formed,slot⟩ := collected_backed quorumBacked collected
      obtain ⟨restQuorum,restTimeout⟩ :=
        ih (vote :: heldQuorum) heldTimeout next final more slot (sameTimeout ▸ timeoutBacked) restRan
      simp only [firstCerts,List.mem_map,Option.mem_toList,Sum.inl.injEq,exists_eq_right,reduceCtorEq,
        and_false,exists_false,false_or]
      exact ⟨backed_taking_vote formed restQuorum,restTimeout⟩
    · obtain ⟨cert,firstCerts,formed,slot⟩ := collected_backed timeoutBacked collected
      obtain ⟨restQuorum,restTimeout⟩ :=
        ih heldQuorum (vote :: heldTimeout) next final more (sameQuorum ▸ quorumBacked) slot restRan
      simp only [firstCerts,List.mem_map,Option.mem_toList,Sum.inr.injEq,exists_eq_right,reduceCtorEq,
        and_false,exists_false,false_or]
      exact ⟨restQuorum,backed_taking_vote formed restTimeout⟩

-- Three votes, then three timeout votes, for view 5 at the leader, from empty collectors: each
-- collector forms a certificate for view 5 signed by nodes 1, 2 and 3.
def certificateEvents : List HotShotEvent :=
  threeVotes.map .quorumVoteRecv ++ threeVotes.map .timeoutVoteRecv

def certificateRun : ConsensusTaskState × List Output :=
  (runEvents fourNodes leaderNode certificateEvents).getD (leaderNode,[])

theorem leader_certificates_backed :
    SlotBacked fourNodes.quorumMembership fourNodes.voteSigned [] leaderNode.voteCollector ∧
      SlotBacked fourNodes.quorumMembership fourNodes.voteSigned [] leaderNode.timeoutVoteCollector ∧
      runEvents fourNodes leaderNode certificateEvents = some (certificateRun.1,certificateRun.2) ∧
      (∀ qc, .inl qc ∈ formedCertificates certificateRun.2 →
        CertBacked fourNodes.quorumMembership fourNodes.voteSigned ([] ++ quorumVotesIn certificateEvents) qc) ∧
      (∀ tc, .inr tc ∈ formedCertificates certificateRun.2 →
        CertBacked fourNodes.quorumMembership fourNodes.voteSigned ([] ++ timeoutVotesIn certificateEvents) tc) :=
  have empty : SlotBacked fourNodes.quorumMembership fourNodes.voteSigned [] none := fun _ found => nomatch found
  ⟨empty,empty,rfl,formed_certificates_backed fourNodes certificateEvents [] [] _ _ _ empty empty rfl⟩

end HotShotConsensus
