import HotShotConsensus.Decided
import HotShotConsensus.ViewChange

namespace HotShotConsensus

-- The tasks a list of outputs spawns, in order.
def spawnedHandles (out : List Output) : List TaskHandle :=
  out.filterMap fun
    | .spawn task => some task
    | _ => none

-- The tasks the consensus task holds a handle to: those registered in spawned_tasks, and the
-- timeout task.
def liveTasks (s : ConsensusTaskState) : List TaskHandle :=
  s.spawnedTasks.flatMap (·.2) ++ s.timeoutTask.toList

-- What a stretch of the task's life does to the tasks it holds: the tasks held before, with those
-- spawned, are the tasks held after, with those cancelled.
def Conserves (before after : ConsensusTaskState) (out : List Output) : Prop :=
  (liveTasks before ++ spawnedHandles out).Perm (liveTasks after ++ cancelledTasks out)

@[simp] theorem spawnedHandles_nil : spawnedHandles [] = [] := rfl

@[simp] theorem spawnedHandles_cons (output : Output) (out : List Output) :
    spawnedHandles (output :: out) = (match output with
      | .spawn task => [task]
      | _ => []) ++ spawnedHandles out := by
  cases output <;> rfl

@[simp] theorem spawnedHandles_append (first second : List Output) :
    spawnedHandles (first ++ second) = spawnedHandles first ++ spawnedHandles second :=
  List.filterMap_append _ _ _

@[simp] theorem cancelledTasks_cons (output : Output) (out : List Output) :
    cancelledTasks (output :: out) = (match output with
      | .cancel task => [task]
      | _ => []) ++ cancelledTasks out := by
  cases output <;> rfl

@[simp] theorem spawnedHandles_map_cancel (tasks : List TaskHandle) : spawnedHandles (tasks.map .cancel) = [] := by
  induction tasks <;> simp [*]

@[simp] theorem cancelledTasks_map_cancel (tasks : List TaskHandle) : cancelledTasks (tasks.map .cancel) = tasks := by
  induction tasks <;> simp [*]

@[simp] theorem spawnedHandles_voteIfAble (env : Env) (s : ConsensusTaskState) :
    spawnedHandles (voteIfAble env s).2 = [] :=
  List.filterMap_eq_nil_iff.mpr fun _ mem => by obtain ⟨vote,rfl⟩ := voteIfAble_sends mem; rfl

@[simp] theorem spawnedHandles_collectVote (leader : Nat → Nat) (membership : Membership)
    (signed : SimpleVote → Bool) (formed : SimpleCertificate → HotShotEvent) (publicKey : Nat)
    (slot : Option VoteCollectionTaskState) (vote : SimpleVote) :
    spawnedHandles (collectVote leader membership signed formed publicKey slot vote).2 = [] ∧
      cancelledTasks (collectVote leader membership signed formed publicKey slot vote).2 = [] := by
  obtain ⟨cert,sent⟩ := collectVote_outputs leader membership signed formed publicKey slot vote
  rw [sent]
  cases cert <;> exact ⟨rfl,rfl⟩

@[simp] theorem spawnedHandles_upgradeVersion (newView : Nat) (s : ConsensusTaskState) :
    spawnedHandles (upgradeVersion newView s).2 = [] ∧ cancelledTasks (upgradeVersion newView s).2 = [] := by
  unfold upgradeVersion; split <;> (try split) <;> exact ⟨rfl,rfl⟩

@[simp] theorem spawnedHandles_cancelTasks (tasks : List (Nat × List TaskHandle)) (view : Nat) :
    spawnedHandles (cancelTasks tasks view).2 = [] := by
  simp [cancelTasks,drainTasks_eq]

theorem Conserves.append {s next final : ConsensusTaskState} {first more : List Output}
    (step : Conserves s next first) (rest : Conserves next final more) : Conserves s final (first ++ more) := by
  rw [Conserves,List.perm_iff_count] at *
  intro task
  have stepCount := step task
  have restCount := rest task
  simp only [spawnedHandles_append,cancelledTasks_append,List.count_append] at *
  omega

theorem Conserves.congr {s s' next : ConsensusTaskState} {out out' : List Output}
    (held : liveTasks s = liveTasks s') (spawned : spawnedHandles out = spawnedHandles out')
    (cancelled : cancelledTasks out = cancelledTasks out') (kept : Conserves s' next out') : Conserves s next out := by
  rwa [Conserves,held,spawned,cancelled]

theorem conserves_quiet {s next : ConsensusTaskState} {out : List Output} (held : liveTasks next = liveTasks s)
    (spawned : spawnedHandles out = []) (cancelled : cancelledTasks out = []) : Conserves s next out := by
  rw [Conserves,held,spawned,cancelled]

theorem Conserves.of_perm {s next : ConsensusTaskState} {out out' : List Output} (perm : out.Perm out')
    (kept : Conserves s next out') : Conserves s next out :=
  ((perm.filterMap _).append_left _).trans (kept.trans ((perm.filterMap _).append_left _).symm)

theorem relayed_quiet {out : List Output} (relayed : ∀ output ∈ out, Relayed output) :
    spawnedHandles out = [] ∧ cancelledTasks out = [] := by
  constructor <;> refine List.filterMap_eq_nil_iff.mpr fun output mem => ?_ <;>
    have := relayed output mem <;> cases output <;> simp_all [Relayed]

theorem updateView_conserves {s next : ConsensusTaskState} {newView view : Nat} {armed : Option TaskHandle}
    {changed : List Output} (moved : updateView newView s.curView s.timeoutTask = .ok (view,armed,changed))
    (held : next.spawnedTasks = s.spawnedTasks) (timer : next.timeoutTask = armed) : Conserves s next changed := by
  obtain ⟨-,-,rfl,rfl⟩ := updateView_moves moved
  rw [Conserves,List.perm_iff_count]
  intro task
  simp [liveTasks,held,timer,List.count_append,List.count_cons]

theorem ProposalRecvStep.conserves {proposal : QuorumProposal} {s next : ConsensusTaskState} {out : List Output}
    (step : ProposalRecvStep proposal s next out) : Conserves s next out := by
  rcases step.moves with ⟨-,timer,relayed⟩ | ⟨changed,sent,moved,perm,relayed⟩
  · obtain ⟨spawned,cancelled⟩ := relayed_quiet relayed
    exact conserves_quiet (by simp [liveTasks,step.spawnedTasks,timer]) spawned cancelled
  · obtain ⟨spawned,cancelled⟩ := relayed_quiet relayed
    exact (((updateView_conserves moved step.spawnedTasks rfl).append (conserves_quiet rfl spawned cancelled))).of_perm perm

theorem pushTask_perm (view : Nat) (task : TaskHandle) (tasks : List (Nat × List TaskHandle)) :
    ((pushTask view task tasks).flatMap (·.2)).Perm (tasks.flatMap (·.2) ++ [task]) := by
  induction tasks with
  | nil => simp [pushTask]
  | cons entry rest ih =>
    obtain ⟨key,handles⟩ := entry
    simp only [pushTask]
    split_ifs
    · simpa only [List.flatMap_cons,List.append_assoc] using List.perm_append_comm.append_left handles
    · simpa only [List.flatMap_cons] using List.perm_append_comm
    · simpa only [List.flatMap_cons,List.append_assoc] using ih.append_left handles

theorem cancelTasks_perm (tasks : List (Nat × List TaskHandle)) (view : Nat) :
    ((cancelTasks tasks view).1.flatMap (·.2) ++ cancelledTasks (cancelTasks tasks view).2).Perm
      (tasks.flatMap (·.2)) := by
  rw [cancelTasks,cancelledTasks_drainTasks,← List.flatMap_append]
  refine List.Perm.flatMap_right _ ?_
  have below : tasks.filter (fun entry => decide (entry.1 < view)) = tasks.filter fun entry => !decide (view ≤ entry.1) :=
    List.filter_congr fun entry _ => by rw [Bool.eq_iff_iff]; simp
  rw [below]
  exact List.filter_append_perm _ tasks

theorem publishProposal_conserves (env : Env) (view : Nat) (s : ConsensusTaskState) :
    Conserves s (publishProposal env view s).1 (publishProposal env view s).2 := by
  rw [publishProposal_eq]
  split
  · rw [Conserves,List.perm_iff_count]
    intro task
    have filed := (pushTask_perm view (.proposal view) s.spawnedTasks).count_eq task
    simp [liveTasks,List.count_append] at filed ⊢
    omega
  · exact conserves_quiet rfl rfl rfl

theorem publishProposal_if_conserves (env : Env) (proposes : Prop) [Decidable proposes] (view : Nat)
    (s : ConsensusTaskState) :
    Conserves s (if proposes then publishProposal env view s else (s,[])).1
      (if proposes then publishProposal env view s else (s,[])).2 := by
  split
  · exact publishProposal_conserves env view s
  · exact conserves_quiet rfl rfl rfl

theorem followThrough_conserves (env : Env) (s : ConsensusTaskState) (proposal : QuorumProposal)
    (walk : DecideWalk) : Conserves s (followThrough env s proposal walk).1 (followThrough env s proposal walk).2 := by
  have cancelled : Conserves s { s with spawnedTasks := (if walk.newDecideReached then
      cancelTasks s.spawnedTasks walk.newAnchorView else (s.spawnedTasks,[])).1 }
      (if walk.newDecideReached then cancelTasks s.spawnedTasks walk.newAnchorView else (s.spawnedTasks,[])).2 := by
    split
    · rw [Conserves,List.perm_iff_count]
      intro task
      have kept := (cancelTasks_perm s.spawnedTasks walk.newAnchorView).count_eq task
      simp only [liveTasks,List.count_append,spawnedHandles_cancelTasks,List.count_nil] at kept ⊢
      omega
    · exact conserves_quiet rfl rfl rfl
  exact (cancelled.append (publishProposal_if_conserves _ _ _ _)).append
    (conserves_quiet rfl (spawnedHandles_voteIfAble env _) (cancelledTasks_voteIfAble env _))

-- The arms that touch no task: every arm but QuorumProposalRecv, QuorumProposalValidated,
-- ViewChange, QCFormed, SendPayloadCommitmentAndMetadata and ViewSyncFinalizeCertificate2Recv keeps
-- the registry and the timeout task, and spawns and cancels nothing.
theorem handle_task_arms {env : Env} {s next : ConsensusTaskState} {event : HotShotEvent} {out : List Output}
    (ran : handle env s event = some (next,out)) :
    (∃ proposal sender, event = .quorumProposalRecv proposal sender) ∨
    (∃ proposal, event = .quorumProposalValidated proposal) ∨ (∃ newView, event = .viewChange newView) ∨
    (∃ certificate, event = .qcFormed certificate) ∨
    (∃ payloadCommitment builderCommitment metadata view fee,
      event = .sendPayloadCommitmentAndMetadata payloadCommitment builderCommitment metadata view fee) ∨
    (∃ cert, event = .viewSyncFinalizeCertificate2Recv cert) ∨
    (liveTasks next = liveTasks s ∧ spawnedHandles out = [] ∧ cancelledTasks out = []) := by
  have arms := handle_arms_of ran
  cases event with
  | quorumProposalRecv proposal sender => exact .inl ⟨proposal,sender,rfl⟩
  | quorumProposalValidated proposal => exact .inr (.inl ⟨proposal,rfl⟩)
  | viewChange newView => exact .inr (.inr (.inl ⟨newView,rfl⟩))
  | qcFormed certificate => exact .inr (.inr (.inr (.inl ⟨certificate,rfl⟩)))
  | sendPayloadCommitmentAndMetadata payloadCommitment builderCommitment metadata view fee =>
    exact .inr (.inr (.inr (.inr (.inl ⟨payloadCommitment,builderCommitment,metadata,view,fee,rfl⟩))))
  | viewSyncFinalizeCertificate2Recv cert => exact .inr (.inr (.inr (.inr (.inr (.inl ⟨cert,rfl⟩)))))
  | _ =>
    refine .inr (.inr (.inr (.inr (.inr (.inr ?_)))))
    simp only [handleArms] at arms
    repeat' split at arms
    all_goals obtain ⟨rfl,rfl⟩ := Prod.ext_iff.mp (Option.some.inj arms)
    all_goals exact ⟨rfl,by simp [tryVote],by simp [tryVote,cancelledTasks_voteIfAble]⟩

theorem handle_conserves {env : Env} {s next : ConsensusTaskState} {event : HotShotEvent} {out : List Output}
    (ran : handle env s event = some (next,out)) : Conserves s next out := by
  rcases handle_task_arms ran with ⟨proposal,sender,rfl⟩ | ⟨proposal,rfl⟩ | ⟨newView,rfl⟩ | ⟨certificate,rfl⟩ |
    ⟨payloadCommitment,builderCommitment,metadata,view,fee,rfl⟩ | ⟨cert,rfl⟩ | ⟨held,spawned,cancelled⟩
  · obtain ⟨received,sent,step,⟨rfl,rfl⟩ | ⟨current,rfl,rfl⟩⟩ := handle_proposalRecv ran
    · exact step.conserves
    · exact step.conserves.append
        (conserves_quiet (by simp [liveTasks]) (spawnedHandles_voteIfAble env _) (cancelledTasks_voteIfAble env _))
  · obtain ⟨walk,consensus,decided,rest,-,committed,followed,rfl⟩ := handleQuorumProposalValidated_eq (handle_arms_of ran)
    obtain ⟨rfl,rfl⟩ := Prod.ext_iff.mp followed
    have quiet : spawnedHandles decided = [] ∧ cancelledTasks decided = [] := by
      obtain ⟨-,-,undecidedCase,decidedCase⟩ := commitWalk_some committed
      cases reached : walk.newDecideReached
      · simp [(undecidedCase reached).2.1]
      · obtain ⟨qc,-,-,outputs,-⟩ := decidedCase reached
        simp [outputs]
    refine Conserves.congr ?_ ?_ ?_ (followThrough_conserves env _ proposal walk) <;> simp [liveTasks,quiet]
  all_goals replace ran := handle_arms_of ran; simp only [handleArms] at ran
  · split at ran <;> obtain ⟨rfl,rfl⟩ := Prod.ext_iff.mp (Option.some.inj ran)
    · exact conserves_quiet (by simp [liveTasks]) (by simp) (by simp)
    · rename_i moved
      refine Conserves.congr ?_ ?_ ?_ (updateView_conserves moved rfl rfl) <;> simp [liveTasks]
  · cases certificate <;> obtain ⟨rfl,rfl⟩ := Prod.ext_iff.mp (Option.some.inj ran) <;>
      refine Conserves.congr ?_ ?_ ?_ (publishProposal_conserves _ _ _) <;> simp [liveTasks]
  · obtain ⟨rfl,rfl⟩ := Prod.ext_iff.mp (Option.some.inj ran)
    refine Conserves.congr ?_ rfl rfl ((publishProposal_if_conserves _ _ _ _).append (publishProposal_if_conserves _ _ _ _))
    simp [liveTasks]
  · split at ran <;> obtain ⟨rfl,rfl⟩ := Prod.ext_iff.mp (Option.some.inj ran)
    · exact conserves_quiet rfl rfl rfl
    · refine Conserves.congr ?_ ?_ ?_ (publishProposal_if_conserves _ _ _ _) <;> simp [liveTasks]
  · exact conserves_quiet held spawned cancelled

theorem runs_conserve_tasks (env : Env) (events : List HotShotEvent) :
    ∀ s final out, runEvents env s events = some (final,out) →
      (liveTasks s ++ spawnedHandles out).Perm (liveTasks final ++ cancelledTasks out) := by
  induction events with
  | nil =>
    intro s final out ran
    obtain ⟨rfl,rfl⟩ := runEvents_nil ran
    exact List.Perm.refl _
  | cons event rest ih =>
    intro s final out ran
    obtain ⟨next,first,more,handled,restRan,rfl⟩ := runEvents_cons ran
    exact (handle_conserves handled).append (ih next final more restRan)

-- Node 1 over the four-leaf chain at view 5, holding producer tasks for views 0 and 7: a view
-- change and a received proposal each arm a timeout task and cancel the one before, and the decide
-- at view 3 cancels the producer below it.
def ledgerEvents : List HotShotEvent :=
  [.viewChange 6,.quorumProposalRecv ⟨⟨0,0⟩,7,⟨0,0,[]⟩,none,none⟩ 0,.quorumProposalValidated chainProposal]

def ledgerRun : ConsensusTaskState × List Output :=
  (runEvents receivingNodes registryNode ledgerEvents).getD (registryNode,[])

theorem ledger_run_conserves :
    runEvents receivingNodes registryNode ledgerEvents = some (ledgerRun.1,ledgerRun.2) ∧
      (liveTasks registryNode ++ spawnedHandles ledgerRun.2).Perm (liveTasks ledgerRun.1 ++ cancelledTasks ledgerRun.2) :=
  ⟨rfl,runs_conserve_tasks receivingNodes ledgerEvents _ _ _ rfl⟩

end HotShotConsensus
