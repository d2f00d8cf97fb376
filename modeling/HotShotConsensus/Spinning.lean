import Mathlib.Data.List.Basic

namespace HotShotConsensus

-- Spin the node up or down.
inductive UpDown where
  | up
  | down
  deriving DecidableEq, Repr

-- A change in node state: the index of the node, the view on which to take action, and whether to
-- spin it up or down.
structure ChangeNode where
  idx : Nat
  view : Nat
  updown : UpDown
  deriving DecidableEq, Repr

-- The state of the spinning task: the handles of the test's nodes, each standing for the node its
-- shut_down stops, and the lists of changes still to make.
structure SpinningTask where
  handles : List Nat
  changes : List (List ChangeNode)
  deriving DecidableEq, Repr

-- The description a test gives: lists of changes, each with the time to sleep before it.
structure SpinningTaskDescription where
  nodeChanges : List (Nat × List ChangeNode)
  deriving DecidableEq, Repr

namespace SpinningTask

-- What one list of changes shuts down: for each Down change, in order, the node at its index when
-- there is one. Up is left to do in the source and does nothing, and the view is not read.
def shutDowns (handles : List Nat) (nodesToChange : List ChangeNode) : List Nat :=
  nodesToChange.filterMap fun change =>
    match change.updown with
    | .up => none
    | .down => handles[change.idx]?

-- The message handler: state.changes.pop() takes the last list of changes, which is then applied.
def handleMessage (state : SpinningTask) : SpinningTask × List Nat :=
  match state.changes.getLast? with
  | none => (state,[])
  | some nodesToChange => ({ state with changes := state.changes.dropLast },shutDowns state.handles nodesToChange)

-- The stream generator: each call takes the next index from the shared counter and, while there is
-- a duration at it, yields a message that comes after sleeping that long.
def nextSleep (sleepDurations : List Nat) (atomicIdx : Nat) : Option Nat × Nat :=
  (sleepDurations[atomicIdx]?,atomicIdx + 1)

-- The messages of the generated stream over a number of polls: it ends at the first poll that
-- yields nothing.
def generatedSleeps (sleepDurations : List Nat) : Nat → Nat → List Nat
  | 0,_ => []
  | polls + 1,atomicIdx =>
    match nextSleep sleepDurations atomicIdx with
    | (some duration,next) => duration :: generatedSleeps sleepDurations polls next
    | (none,_) => []

-- The task handling the messages of its stream in turn, each paired with the nodes it shuts down.
def spin : List Nat → SpinningTask → SpinningTask × List (Nat × List Nat)
  | [],state => (state,[])
  | duration :: rest,state =>
    let first := handleMessage state
    let later := spin rest first.1
    (later.1,(duration,first.2) :: later.2)

end SpinningTask

open SpinningTask

theorem generatedSleeps_eq (sleepDurations : List Nat) (polls atomicIdx : Nat) :
    generatedSleeps sleepDurations polls atomicIdx = (sleepDurations.drop atomicIdx).take polls := by
  induction polls generalizing atomicIdx with
  | zero => rfl
  | succ polls ih =>
    by_cases inside : atomicIdx < sleepDurations.length
    · simp only [generatedSleeps,nextSleep,List.getElem?_eq_getElem inside]
      rw [ih,List.drop_eq_getElem_cons inside,List.take_succ_cons]
    · simp only [generatedSleeps,nextSleep,List.getElem?_eq_none (Nat.le_of_not_lt inside)]
      rw [List.drop_eq_nil_of_le (Nat.le_of_not_lt inside),List.take_nil]

theorem spin_pairs (durations : List Nat) (state : SpinningTask) :
    spin durations state =
      ({ state with changes := state.changes.take (state.changes.length - durations.length) },
        durations.zip (state.changes.reverse.map (shutDowns state.handles) ++
          List.replicate (durations.length - state.changes.length) [])) := by
  induction durations generalizing state with
  | nil => simp [spin]
  | cons duration rest ih =>
    obtain ⟨handles,changes⟩ := state
    rcases List.eq_nil_or_concat changes with rfl | ⟨earlier,last,rfl⟩
    · have idle : handleMessage ⟨handles,[]⟩ = (⟨handles,[]⟩,[]) := rfl
      simp only [spin,idle,ih]
      simp [List.replicate_succ]
    · have popped : handleMessage ⟨handles,earlier ++ [last]⟩ = (⟨handles,earlier⟩,shutDowns handles last) := by
        simp [handleMessage]
      simp only [List.concat_eq_append,spin,popped,ih]
      simp [List.take_append_of_le_length (Nat.sub_le earlier.length rest.length),Nat.add_sub_add_right]

-- A list of changes and the duration it is given with in the description are paired only when
-- the state holds the lists in reverse.
theorem spinning_schedule (description : SpinningTaskDescription) (state : SpinningTask) :
    spin (generatedSleeps (description.nodeChanges.map (·.1)) (description.nodeChanges.length + 1) 0) state =
      ({ state with changes := state.changes.take (state.changes.length - description.nodeChanges.length) },
        (description.nodeChanges.map (·.1)).zip (state.changes.reverse.map (shutDowns state.handles) ++
          List.replicate (description.nodeChanges.length - state.changes.length) [])) := by
  rw [generatedSleeps_eq,List.drop_zero,List.take_of_length_le (by simp),spin_pairs,List.length_map]

-- Two lists of changes, in schedule order: after sleeping 1 the node at index 2 goes down, which
-- the description gave with the second duration.
example : (spin [1,2] ⟨[10,11,12],[[⟨0,1,.down⟩],[⟨2,5,.down⟩,⟨1,5,.up⟩]]⟩).2 = [(1,[12]),(2,[10])] := by decide

end HotShotConsensus
