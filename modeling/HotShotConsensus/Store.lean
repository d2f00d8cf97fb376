import HotShotConsensus.Data
import Mathlib.Data.List.Chain

namespace HotShotConsensus

-- The shared Consensus record as this task reads and writes it. saved_leaves is a finite map
-- kept as an association list, newest entry first; the view-keyed maps are functions.
structure Consensus where
  validatedStateMap : Nat → Option Nat
  savedLeaves : List (Nat × Leaf)
  savedPayloads : Nat → Option Nat
  savedDaCerts : Nat → Option DaCertificate
  vidShares : Nat → Option (Nat → Option VidDisperseShare)
  lockedView : Nat
  lastDecidedView : Nat
  highQc : QuorumCertificate

namespace Consensus

def leaf (s : Consensus) (commitment : Nat) : Option Leaf := s.savedLeaves.lookup commitment

-- saved_da_certs.insert(view, cert)
def insertDaCert (s : Consensus) (view : Nat) (cert : DaCertificate) : Consensus :=
  { s with savedDaCerts := fun v => if v = view then some cert else s.savedDaCerts v }

-- vid_shares.entry(view).or_default().insert(key, share)
def insertVidShare (s : Consensus) (view key : Nat) (share : VidDisperseShare) : Consensus :=
  { s with vidShares := fun v =>
      if v = view then some fun k => if k = key then some share else ((s.vidShares view).getD fun _ => none) k
      else s.vidShares v }

/-- Modelled from the spec: Consensus::collect_garbage of hotshot_types. It drops the leaves,
payloads, VID shares and DA certificates of every view below the new anchor. -/
def collectGarbage (s : Consensus) (_oldAnchorView newAnchorView : Nat) : Consensus :=
  { s with
    validatedStateMap := fun v => if v < newAnchorView then none else s.validatedStateMap v
    savedLeaves := s.savedLeaves.filter fun entry => newAnchorView ≤ entry.2.viewNumber
    savedPayloads := fun v => if v < newAnchorView then none else s.savedPayloads v
    savedDaCerts := fun v => if v < newAnchorView then none else s.savedDaCerts v
    vidShares := fun v => if v < newAnchorView then none else s.vidShares v }

@[simp] theorem insertDaCert_savedDaCerts (s : Consensus) (view v : Nat) (cert : DaCertificate) :
    (s.insertDaCert view cert).savedDaCerts v = if v = view then some cert else s.savedDaCerts v := rfl
@[simp] theorem insertDaCert_lockedView (s : Consensus) (view : Nat) (cert : DaCertificate) :
    (s.insertDaCert view cert).lockedView = s.lockedView := rfl
@[simp] theorem insertDaCert_lastDecidedView (s : Consensus) (view : Nat) (cert : DaCertificate) :
    (s.insertDaCert view cert).lastDecidedView = s.lastDecidedView := rfl
@[simp] theorem insertDaCert_highQc (s : Consensus) (view : Nat) (cert : DaCertificate) :
    (s.insertDaCert view cert).highQc = s.highQc := rfl
@[simp] theorem insertVidShare_savedDaCerts (s : Consensus) (view key : Nat) (share : VidDisperseShare) :
    (s.insertVidShare view key share).savedDaCerts = s.savedDaCerts := rfl
@[simp] theorem insertVidShare_lockedView (s : Consensus) (view key : Nat) (share : VidDisperseShare) :
    (s.insertVidShare view key share).lockedView = s.lockedView := rfl
@[simp] theorem insertVidShare_lastDecidedView (s : Consensus) (view key : Nat) (share : VidDisperseShare) :
    (s.insertVidShare view key share).lastDecidedView = s.lastDecidedView := rfl
@[simp] theorem insertVidShare_highQc (s : Consensus) (view key : Nat) (share : VidDisperseShare) :
    (s.insertVidShare view key share).highQc = s.highQc := rfl
@[simp] theorem collectGarbage_savedDaCerts (s : Consensus) (old new v : Nat) :
    (s.collectGarbage old new).savedDaCerts v = if v < new then none else s.savedDaCerts v := rfl
@[simp] theorem collectGarbage_lockedView (s : Consensus) (old new : Nat) :
    (s.collectGarbage old new).lockedView = s.lockedView := rfl
@[simp] theorem collectGarbage_lastDecidedView (s : Consensus) (old new : Nat) :
    (s.collectGarbage old new).lastDecidedView = s.lastDecidedView := rfl
@[simp] theorem collectGarbage_highQc (s : Consensus) (old new : Nat) :
    (s.collectGarbage old new).highQc = s.highQc := rfl

end Consensus

inductive Terminator where
  | exclusive (view : Nat)
  | inclusive (view : Nat)
  deriving DecidableEq, Repr

inductive WalkError where
  | viewMissing
  | leafNotFound
  deriving DecidableEq, Repr

-- Each round looks the next ancestor up, stops before it at an exclusive terminator, hands it
-- to the visitor, and stops after it at an inclusive one. Running out of fuel means the walk has
-- looked up more leaves than saved_leaves holds, so it is going round a cycle for ever.
def visitFrom (leaves : List (Nat × Leaf)) (terminator : Terminator)
    (visitor : σ → Leaf → σ × Bool) : Nat → Nat → σ → Option (σ × Except WalkError Unit)
  | 0, _, _ => none
  | fuel+1, next, acc =>
    match leaves.lookup next with
    | none => some (acc,.error .leafNotFound)
    | some leaf =>
      if terminator = .exclusive leaf.viewNumber then some (acc,.ok ()) else
      match visitor acc leaf with
      | (acc,false) => some (acc,.ok ())
      | (acc,true) =>
        if terminator = .inclusive leaf.viewNumber then some (acc,.ok ())
        else visitFrom leaves terminator visitor fuel leaf.parentCommitment acc

/-- Modelled from the spec: Consensus::visit_leaf_ancestors of hotshot_types, with the start
leaf included as the one call in this task asks. The walk starts at the leaf recorded for the
view and follows parent commitments; a missing ancestor is an error. -/
def visitLeafAncestors (s : Consensus) (startFrom : Nat) (terminator : Terminator)
    (visitor : σ → Leaf → σ × Bool) (acc : σ) : Option (σ × Except WalkError Unit) :=
  match s.validatedStateMap startFrom with
  | none => some (acc,.error .viewMissing)
  | some next => visitFrom s.savedLeaves terminator visitor (s.savedLeaves.length + 1) next acc

-- How a walk the visitor never stops ends.
inductive WalkEnd where
  | terminator
  | missing
  | cycle
  deriving DecidableEq, Repr

-- The leaves such a walk visits, newest first, and how it ends.
def ancestry (leaves : List (Nat × Leaf)) (terminator : Terminator) : Nat → Nat → List Leaf × WalkEnd
  | 0, _ => ([],.cycle)
  | fuel+1, next =>
    match leaves.lookup next with
    | none => ([],.missing)
    | some leaf =>
      if terminator = .exclusive leaf.viewNumber then ([],.terminator)
      else if terminator = .inclusive leaf.viewNumber then ([leaf],.terminator)
      else
        let rest := ancestry leaves terminator fuel leaf.parentCommitment
        (leaf :: rest.1,rest.2)

-- The visitor run over a list of leaves; the flag records that it asked to stop.
def visitAll (visitor : σ → Leaf → σ × Bool) : σ → List Leaf → σ × Bool
  | acc, [] => (acc,false)
  | acc, leaf :: rest =>
    match visitor acc leaf with
    | (acc,false) => (acc,true)
    | (acc,true) => visitAll visitor acc rest

def walkResult (acc : σ) (stopped : Bool) : WalkEnd → Option (σ × Except WalkError Unit)
  | .terminator => some (acc,.ok ())
  | .missing => some (acc,if stopped then .ok () else .error .leafNotFound)
  | .cycle => if stopped then some (acc,.ok ()) else none

theorem walkResult_stopped (acc : σ) (last : WalkEnd) : walkResult acc true last = some (acc,.ok ()) := by
  cases last <;> rfl

-- The walk is the visitor folded over the ancestry: the path does not depend on the visitor.
theorem visitFrom_eq (leaves : List (Nat × Leaf)) (terminator : Terminator)
    (visitor : σ → Leaf → σ × Bool) (fuel next : Nat) (acc : σ) :
    visitFrom leaves terminator visitor fuel next acc =
      walkResult (visitAll visitor acc (ancestry leaves terminator fuel next).1).1
        (visitAll visitor acc (ancestry leaves terminator fuel next).1).2
        (ancestry leaves terminator fuel next).2 := by
  induction fuel generalizing next acc with
  | zero => rfl
  | succ fuel ih =>
    cases found : leaves.lookup next with
    | none => simp [visitFrom,ancestry,found,visitAll,walkResult]
    | some leaf =>
      by_cases atExclusive : terminator = .exclusive leaf.viewNumber
      · simp [visitFrom,ancestry,found,atExclusive,visitAll,walkResult]
      · rcases visited : visitor acc leaf with ⟨after,_ | _⟩ <;>
          by_cases atInclusive : terminator = .inclusive leaf.viewNumber <;>
          simp [visitFrom,ancestry,found,atExclusive,atInclusive,visited,visitAll,
            walkResult_stopped,ih]
        rfl

-- The commitment a path of leaves points at after its last (oldest) leaf.
def nextAfter : Nat → List Leaf → Nat
  | next, [] => next
  | _, leaf :: rest => nextAfter leaf.parentCommitment rest

theorem ancestry_head (leaves : List (Nat × Leaf)) (terminator : Terminator) (fuel next : Nat)
    (leaf : Leaf) (first : (ancestry leaves terminator fuel next).1.head? = some leaf) :
    leaves.lookup next = some leaf := by
  cases fuel with
  | zero => simp [ancestry] at first
  | succ fuel =>
    unfold ancestry at first
    split at first
    · simp at first
    · rename_i found
      split at first
      · simp at first
      · split at first <;> simp_all

theorem ancestry_chain (leaves : List (Nat × Leaf)) (terminator : Terminator) (fuel next : Nat) :
    (ancestry leaves terminator fuel next).1.Chain'
      fun newer older => leaves.lookup newer.parentCommitment = some older := by
  induction fuel generalizing next with
  | zero => simp [ancestry]
  | succ fuel ih =>
    unfold ancestry
    split
    · simp
    · split
      · simp
      · split
        · simp
        · rename_i leaf _ _ _
          refine List.chain'_cons'.mpr ⟨fun older first => ?_,ih leaf.parentCommitment⟩
          exact ancestry_head leaves terminator fuel _ older first

theorem ancestry_exclusive_ne (leaves : List (Nat × Leaf)) (view fuel next : Nat) :
    ∀ leaf ∈ (ancestry leaves (.exclusive view) fuel next).1, leaf.viewNumber ≠ view := by
  induction fuel generalizing next with
  | zero => simp [ancestry]
  | succ fuel ih =>
    unfold ancestry
    split
    · simp
    · rename_i leaf _
      by_cases atView : leaf.viewNumber = view
      · simp [atView]
      · simpa [atView,Ne.symm atView] using ih leaf.parentCommitment

theorem ancestry_end (leaves : List (Nat × Leaf)) (view fuel next : Nat) :
    ((ancestry leaves (.exclusive view) fuel next).2 = .terminator →
      ∃ leaf, leaves.lookup (nextAfter next (ancestry leaves (.exclusive view) fuel next).1) = some leaf ∧
        leaf.viewNumber = view) ∧
    ((ancestry leaves (.exclusive view) fuel next).2 = .missing →
      leaves.lookup (nextAfter next (ancestry leaves (.exclusive view) fuel next).1) = none) := by
  induction fuel generalizing next with
  | zero => simp [ancestry]
  | succ fuel ih =>
    unfold ancestry
    split
    · rename_i found
      simp [nextAfter,found]
    · rename_i leaf found
      by_cases atView : leaf.viewNumber = view
      · simp [atView,nextAfter,found]
      · simpa [atView,Ne.symm atView,nextAfter] using ih leaf.parentCommitment

end HotShotConsensus
