import HotShotConsensus.Data
import Mathlib.Data.List.Nodup

namespace HotShotConsensus

-- The state of one vote-collection task: its view and the votes it has accepted.
structure VoteCollectionTaskState where
  view : Nat
  votes : List SimpleVote
  deriving DecidableEq, Repr

/-- Modelled from the spec: VoteCollectionTaskState::handle_event of the vote_collection module.
A vote for another view, with a bad signature, from outside the membership or from a signer
already counted is ignored; when the votes for one value first reach the success threshold the
certificate is formed and the accumulator is finished. -/
def accumulate (membership : Membership) (signed : SimpleVote → Bool)
    (acc : VoteCollectionTaskState) (vote : SimpleVote) : VoteCollectionTaskState ⊕ SimpleCertificate :=
  if vote.viewNumber ≠ acc.view ∨ signed vote = false ∨ membership.hasStake vote.signer = false ∨
      vote.signer ∈ acc.votes.map (·.signer) then .inl acc
  else
    let backing := (acc.votes ++ [vote]).filter (·.data = vote.data)
    if membership.successThreshold ≤ backing.length then .inr ⟨acc.view,vote.data,backing.map (·.signer)⟩
    else .inl ⟨acc.view,acc.votes ++ [vote]⟩

/-- Modelled from the spec: create_vote_accumulator. The first vote starts an accumulator for its
view; there is none when that vote is rejected or already completes a certificate. -/
def createVoteAccumulator (membership : Membership) (signed : SimpleVote → Bool) (vote : SimpleVote) :
    Option VoteCollectionTaskState × Option SimpleCertificate :=
  match accumulate membership signed ⟨vote.viewNumber,[]⟩ vote with
  | .inl acc => (if acc.votes = [] then none else some acc,none)
  | .inr cert => (none,some cert)

-- The QuorumVoteRecv and TimeoutVoteRecv arms of handle, which differ only in the values passed:
-- the leader of the next view collects; a vote for a newer view starts a new accumulator, any
-- other goes to the current one, and a finished accumulator empties the slot.
def collectVote (leader : Nat → Nat) (membership : Membership) (signed : SimpleVote → Bool)
    (formed : SimpleCertificate → HotShotEvent) (publicKey : Nat)
    (slot : Option VoteCollectionTaskState) (vote : SimpleVote) :
    Option VoteCollectionTaskState × List Output :=
  if leader (vote.viewNumber + 1) ≠ publicKey then (slot,[]) else
  let start := match createVoteAccumulator membership signed vote with
    | (slot,cert) => (slot,cert.toList.map fun cert => .broadcast (formed cert))
  match slot with
  | none => start
  | some acc =>
    if acc.view < vote.viewNumber then start
    else match accumulate membership signed acc vote with
      | .inl acc => (some acc,[])
      | .inr cert => (none,[.broadcast (formed cert)])

theorem accumulate_view {membership : Membership} {signed : SimpleVote → Bool}
    {acc next : VoteCollectionTaskState} {vote : SimpleVote}
    (kept : accumulate membership signed acc vote = .inl next) : next.view = acc.view := by
  unfold accumulate at kept
  split at kept
  · cases kept; rfl
  · dsimp only at kept
    split at kept <;> cases kept; rfl

theorem accumulate_certificate {membership : Membership} {signed : SimpleVote → Bool}
    {acc : VoteCollectionTaskState} {vote : SimpleVote} {cert : SimpleCertificate}
    (formed : accumulate membership signed acc vote = .inr cert) :
    cert.viewNumber = acc.view ∧ vote.viewNumber = acc.view := by
  unfold accumulate at formed
  split at formed
  · cases formed
  · rename_i fresh
    dsimp only at formed
    split at formed <;> cases formed
    exact ⟨rfl,by simp only [not_or] at fresh; exact not_not.mp fresh.1⟩

theorem createVoteAccumulator_cases (membership : Membership) (signed : SimpleVote → Bool)
    (vote : SimpleVote) :
    (∃ acc, createVoteAccumulator membership signed vote = (some acc,none) ∧ acc.view = vote.viewNumber) ∨
    createVoteAccumulator membership signed vote = (none,none) ∨
    ∃ cert, createVoteAccumulator membership signed vote = (none,some cert) ∧
      cert.viewNumber = vote.viewNumber := by
  unfold createVoteAccumulator
  split
  · rename_i acc kept
    by_cases empty : acc.votes = []
    · simp [empty]
    · exact .inl ⟨acc,by simp [empty],accumulate_view kept⟩
  · rename_i cert formed
    exact .inr (.inr ⟨cert,rfl,(accumulate_certificate formed).1⟩)

-- Every view certified so far lies below the view of the accumulator in the slot.
def SlotAbove (certified : List Nat) (slot : Option VoteCollectionTaskState) : Prop :=
  ∀ acc, slot = some acc → ∀ view ∈ certified, view < acc.view

theorem slotAbove_none (certified : List Nat) : SlotAbove certified none := by
  simp [SlotAbove]

theorem createVoteAccumulator_above {membership : Membership} {signed : SimpleVote → Bool}
    {certified : List Nat} {vote : SimpleVote} (fresh : ∀ view ∈ certified, view < vote.viewNumber) :
    (∀ c ∈ (createVoteAccumulator membership signed vote).2, ∀ view ∈ certified, view < c.viewNumber) ∧
      SlotAbove (certified ++ ((createVoteAccumulator membership signed vote).2.map (·.viewNumber)).toList)
        (createVoteAccumulator membership signed vote).1 := by
  rcases createVoteAccumulator_cases membership signed vote with ⟨acc,made,view⟩ | made | ⟨cert,made,view⟩ <;>
    rw [made]
  · exact ⟨by simp,by rintro _ ⟨⟩; simpa [view] using fresh⟩
  · exact ⟨by simp,slotAbove_none _⟩
  · exact ⟨by rintro _ ⟨⟩; simpa [view] using fresh,slotAbove_none _⟩

theorem collectVote_step {leader : Nat → Nat} {membership : Membership} {signed : SimpleVote → Bool}
    {formed : SimpleCertificate → HotShotEvent} {publicKey : Nat} {certified : List Nat}
    {slot : Option VoteCollectionTaskState} {vote : SimpleVote}
    (fresh : ∀ view ∈ certified, view < vote.viewNumber) (above : SlotAbove certified slot) :
    ∃ cert : Option SimpleCertificate,
      (collectVote leader membership signed formed publicKey slot vote).2 =
        cert.toList.map (fun cert => .broadcast (formed cert)) ∧
      (∀ c ∈ cert, ∀ view ∈ certified, view < c.viewNumber) ∧
      SlotAbove (certified ++ (cert.map (·.viewNumber)).toList)
        (collectVote leader membership signed formed publicKey slot vote).1 := by
  unfold collectVote
  split
  · exact ⟨none,rfl,by simp,by simpa using above⟩
  · cases slot with
    | none => exact ⟨_,rfl,createVoteAccumulator_above fresh⟩
    | some acc =>
      simp only
      split
      · exact ⟨_,rfl,createVoteAccumulator_above fresh⟩
      · split
        · rename_i next kept
          refine ⟨none,rfl,by simp,?_⟩
          intro slotAcc same
          cases same
          simpa [accumulate_view kept] using above acc rfl
        · rename_i cert formedCert
          refine ⟨some cert,rfl,?_,by simpa using slotAbove_none _⟩
          intro c same
          cases same
          simpa [(accumulate_certificate formedCert).1] using above acc rfl

theorem collectVote_outputs (leader : Nat → Nat) (membership : Membership) (signed : SimpleVote → Bool)
    (formed : SimpleCertificate → HotShotEvent) (publicKey : Nat) (slot : Option VoteCollectionTaskState)
    (vote : SimpleVote) : ∃ cert : Option SimpleCertificate,
      (collectVote leader membership signed formed publicKey slot vote).2 = cert.toList.map fun cert => .broadcast (formed cert) :=
  let ⟨cert,sent,_⟩ := @collectVote_step leader membership signed formed publicKey [] slot vote
    (fun _ absent => absurd absent (List.not_mem_nil _)) (fun _ _ _ absent => absurd absent (List.not_mem_nil _))
  ⟨cert,sent⟩

-- The leader check is on the vote's view, and a certificate is formed for that view: collecting
-- forms one only at the leader of the view after it.
theorem collectVote_leader (leader : Nat → Nat) (membership : Membership) (signed : SimpleVote → Bool)
    (formed : SimpleCertificate → HotShotEvent) (publicKey : Nat) (slot : Option VoteCollectionTaskState)
    (vote : SimpleVote) : ∃ cert : Option SimpleCertificate,
      (collectVote leader membership signed formed publicKey slot vote).2 = cert.toList.map (fun cert => .broadcast (formed cert)) ∧
      ∀ c ∈ cert, leader (c.viewNumber + 1) = publicKey := by
  unfold collectVote
  split
  · exact ⟨none,rfl,by simp⟩
  rename_i leads
  rw [not_not] at leads
  have started : ∀ c ∈ (createVoteAccumulator membership signed vote).2, leader (c.viewNumber + 1) = publicKey := by
    rcases createVoteAccumulator_cases membership signed vote with ⟨_,made,_⟩ | made | ⟨cert,made,view⟩
    · simp [made]
    · simp [made]
    · simp [made,view,leads]
  cases slot with
  | none => exact ⟨_,rfl,started⟩
  | some acc =>
    simp only
    split
    · exact ⟨_,rfl,started⟩
    split
    · exact ⟨none,rfl,by simp⟩
    · rename_i cert done
      obtain ⟨certView,voteView⟩ := accumulate_certificate done
      exact ⟨some cert,rfl,fun c same => by cases same; rwa [certView,← voteView]⟩

-- The votes an accumulator holds: each one received, for its view, validly signed and from a
-- staked key, and no signer twice.
def Backed (membership : Membership) (signed : SimpleVote → Bool) (received : List SimpleVote)
    (acc : VoteCollectionTaskState) : Prop :=
  (acc.votes.map (·.signer)).Nodup ∧ ∀ vote ∈ acc.votes, vote ∈ received ∧ vote.viewNumber = acc.view ∧
    signed vote = true ∧ membership.hasStake vote.signer = true

def SlotBacked (membership : Membership) (signed : SimpleVote → Bool) (received : List SimpleVote)
    (slot : Option VoteCollectionTaskState) : Prop :=
  ∀ acc, slot = some acc → Backed membership signed received acc

-- A certificate the received votes carry: its signers are distinct and reach the success
-- threshold, and each sent a received, validly signed vote for its view and value from a staked key.
def CertBacked (membership : Membership) (signed : SimpleVote → Bool) (received : List SimpleVote)
    (cert : SimpleCertificate) : Prop :=
  cert.signers.Nodup ∧ membership.successThreshold ≤ cert.signers.length ∧
    ∀ signer ∈ cert.signers, ∃ vote ∈ received, vote.signer = signer ∧ vote.viewNumber = cert.viewNumber ∧
      vote.data = cert.data ∧ signed vote = true ∧ membership.hasStake signer = true

section Backing
variable {membership : Membership} {signed : SimpleVote → Bool} {received more : List SimpleVote}

theorem Backed.mono {acc : VoteCollectionTaskState} (backed : Backed membership signed received acc)
    (sub : received ⊆ more) : Backed membership signed more acc :=
  ⟨backed.1,fun vote mem => let ⟨got,rest⟩ := backed.2 vote mem; ⟨sub got,rest⟩⟩

theorem SlotBacked.mono {slot : Option VoteCollectionTaskState} (backed : SlotBacked membership signed received slot)
    (sub : received ⊆ more) : SlotBacked membership signed more slot :=
  fun acc found => (backed acc found).mono sub

theorem CertBacked.mono {cert : SimpleCertificate} (backed : CertBacked membership signed received cert)
    (sub : received ⊆ more) : CertBacked membership signed more cert :=
  ⟨backed.1,backed.2.1,fun signer mem => let ⟨vote,got,rest⟩ := backed.2.2 signer mem; ⟨vote,sub got,rest⟩⟩

theorem accumulate_backed {acc : VoteCollectionTaskState} {vote : SimpleVote}
    (backed : Backed membership signed received acc) :
    (∀ next, accumulate membership signed acc vote = .inl next → Backed membership signed (vote :: received) next) ∧
    (∀ cert, accumulate membership signed acc vote = .inr cert →
      CertBacked membership signed (vote :: received) cert) := by
  have wider := backed.mono (List.subset_cons_self vote received)
  unfold accumulate
  split
  · exact ⟨fun next kept => by cases kept; exact wider,fun cert formed => (nomatch formed)⟩
  rename_i fresh
  simp only [not_or,not_not,Bool.not_eq_false] at fresh
  obtain ⟨sameView,isSigned,staked,newSigner⟩ := fresh
  have extended : Backed membership signed (vote :: received) ⟨acc.view,acc.votes ++ [vote]⟩ := by
    refine ⟨by simpa [List.nodup_append] using And.intro backed.1 newSigner,fun other mem => ?_⟩
    rcases List.mem_append.mp mem with old | new
    · exact wider.2 other old
    · obtain rfl := List.mem_singleton.mp new
      exact ⟨List.mem_cons_self _ _,sameView,isSigned,staked⟩
  dsimp only
  split
  · rename_i reached
    refine ⟨fun next kept => (nomatch kept),fun cert formed => ?_⟩
    cases formed
    refine ⟨extended.1.sublist ((List.filter_sublist _).map _),by simpa using reached,fun signer mem => ?_⟩
    obtain ⟨other,picked,rfl⟩ := List.mem_map.mp mem
    obtain ⟨held,sameData⟩ := List.mem_filter.mp picked
    obtain ⟨got,view,otherSigned,otherStaked⟩ := extended.2 other held
    exact ⟨other,got,rfl,view,of_decide_eq_true sameData,otherSigned,otherStaked⟩
  · exact ⟨fun next kept => by cases kept; exact extended,fun cert formed => (nomatch formed)⟩

theorem createVoteAccumulator_backed (vote : SimpleVote) :
    SlotBacked membership signed (vote :: received) (createVoteAccumulator membership signed vote).1 ∧
      ∀ cert ∈ (createVoteAccumulator membership signed vote).2,
        CertBacked membership signed (vote :: received) cert := by
  have empty : Backed membership signed received ⟨vote.viewNumber,[]⟩ :=
    ⟨List.nodup_nil,fun _ absent => absurd absent (List.not_mem_nil _)⟩
  obtain ⟨kept,formed⟩ := @accumulate_backed membership signed received _ vote empty
  unfold createVoteAccumulator
  split
  · rename_i acc taken
    refine ⟨fun found same => ?_,fun _ absent => (nomatch absent)⟩
    split_ifs at same
    cases same
    exact kept _ taken
  · rename_i cert done
    exact ⟨fun _ absent => (nomatch absent),fun found same => by cases same; exact formed _ done⟩

theorem collectVote_backed {leader : Nat → Nat} {formed : SimpleCertificate → HotShotEvent} {publicKey : Nat}
    {slot : Option VoteCollectionTaskState} {vote : SimpleVote} (backed : SlotBacked membership signed received slot) :
    ∃ cert : Option SimpleCertificate,
      (collectVote leader membership signed formed publicKey slot vote).2 =
        cert.toList.map (fun cert => .broadcast (formed cert)) ∧
      (∀ c ∈ cert, CertBacked membership signed (vote :: received) c) ∧
      SlotBacked membership signed (vote :: received) (collectVote leader membership signed formed publicKey slot vote).1 := by
  have started := @createVoteAccumulator_backed membership signed received vote
  unfold collectVote
  split
  · exact ⟨none,rfl,by simp,backed.mono (List.subset_cons_self _ _)⟩
  cases slot with
  | none => exact ⟨_,rfl,started.2,started.1⟩
  | some acc =>
    simp only
    split
    · exact ⟨_,rfl,started.2,started.1⟩
    obtain ⟨kept,completed⟩ := @accumulate_backed membership signed received acc vote (backed acc rfl)
    split
    · rename_i next taken
      exact ⟨none,rfl,by simp,fun _ same => by cases same; exact kept next taken⟩
    · rename_i cert done
      exact ⟨some cert,rfl,fun c same => by cases same; exact completed cert done,fun _ absent => (nomatch absent)⟩

end Backing

end HotShotConsensus
