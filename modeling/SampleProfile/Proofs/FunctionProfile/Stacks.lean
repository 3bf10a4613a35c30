import SampleProfile.Proofs.Attribution.Account
import SampleProfile.Proofs.FunctionProfile.Nested

/-!
# Profiles of sampled stacks

Adding the samples of a stack walks from its outermost frame inwards (`addStack_calledBy`,
`addStack_alone`), while merging goes through two profiles at once.  Both add up the same numbers:
`merge_ofStacks` says that the profiles of two lists of stacks merge into the profile of all of
them, added in any order.
-/

namespace SampleProfile

/-- Samples of one inline stack, which has at least one frame. -/
structure StackSamples where
  innermost : Frame
  /-- The frames around the innermost one, outwards. -/
  outer : Stack := []
  samples : UInt64
deriving DecidableEq

namespace StackSamples

def stack (entry : StackSamples) : Stack :=
  entry.innermost :: entry.outer

/-- The frame of the function that the samples belong to. -/
def outermost (entry : StackSamples) : Frame :=
  entry.stack.getLast (List.cons_ne_nil _ _)

def place (entry : StackSamples) : Place where
  path := (Stack.calls entry.stack).reverse
  offset := entry.innermost.offset

theorem place?_stack (entry : StackSamples) : Stack.place? entry.stack = some entry.place := rfl

/-- The samples of the function, inlined into one that calls it. -/
def calledBy (entry : StackSamples) (caller : Frame) : StackSamples :=
  { entry with outer := entry.outer ++ [caller] }

/-- The call of the function in the one that calls it. -/
def callFrom (entry : StackSamples) (caller : Frame) : Callsite where
  offset := caller.offset
  callee := entry.outermost.function

theorem calls_concat (innermost : Frame) (outer : Stack) (caller : Frame) :
    Stack.calls (innermost :: (outer ++ [caller])) =
      Stack.calls (innermost :: outer) ++
        [⟨caller.offset, ((innermost :: outer).getLast (List.cons_ne_nil _ _)).function⟩] := by
  induction outer generalizing innermost with
  | nil => rfl
  | cons next rest inductionHypothesis =>
      rw [List.cons_append, Stack.calls, inductionHypothesis, Stack.calls, List.cons_append,
        List.getLast_cons (List.cons_ne_nil next rest)]

theorem place_calledBy (entry : StackSamples) (caller : Frame) :
    (entry.calledBy caller).place =
      ⟨entry.callFrom caller :: entry.place.path, entry.place.offset⟩ := by
  rw [place, stack, calledBy, calls_concat, List.reverse_append]
  rfl

/-- The samples as a visit to their function. -/
def visit (entry : StackSamples) : Landing × UInt64 :=
  (⟨entry.outermost.function, entry.place, false⟩, entry.samples)

end StackSamples

namespace FunctionProfile

/-- Adds the samples of a stack to the profile of its outermost function. -/
def addStack (profile : FunctionProfile) (entry : StackSamples) : FunctionProfile :=
  profile.record entry.place entry.samples

/-- The profile of a list of stacks. -/
def ofStacks (entries : List StackSamples) : FunctionProfile :=
  entries.foldl addStack empty

/-! ## Walking down a stack -/

/-- A single frame charges the function and counts at its own position. -/
theorem addStack_alone (profile : FunctionProfile) (frame : Frame) (samples : UInt64) :
    let added := profile.addStack { innermost := frame, samples }
    (added.root = (profile.root.charge samples).atPosition frame.offset fun position =>
        { position with count := position.count.accumulate (.execution samples) }) ∧
      ∀ call, added.inlined? call = profile.inlined? call :=
  ⟨root_record_nil .., inlined?_record_nil samples profile frame.offset⟩

/-- A frame around a stack charges its function, and the samples go on behind the call, where a
profile is made if there is none. -/
theorem addStack_calledBy (profile : FunctionProfile) (entry : StackSamples) (caller : Frame) :
    let added := profile.addStack (entry.calledBy caller)
    added.root = profile.root.charge entry.samples ∧
      ∀ call, added.inlined? call =
        if entry.callFrom caller = call then
          some (((profile.inlined? call).getD empty).addStack entry)
        else
          profile.inlined? call := by
  intro added
  have walked : added = profile.record
      ⟨entry.callFrom caller :: entry.place.path, entry.place.offset⟩ entry.samples := by
    rw [← StackSamples.place_calledBy]
    rfl
  rw [walked]
  refine ⟨root_record_cons .., fun call => ?_⟩
  rw [inlined?_record_cons]
  by_cases here : entry.callFrom caller = call
  · rw [if_pos here, if_pos here, here]
    rfl
  · rw [if_neg here, if_neg here]

/-! ## Adding up -/

variable {profile : FunctionProfile} {visits : Visits}

theorem Accounts.foldl_addStack (accounts : profile.Accounts visits)
    (entries : List StackSamples) :
    (entries.foldl addStack profile).Accounts (visits ++ entries.map StackSamples.visit) := by
  induction entries generalizing profile visits with
  | nil => simpa using accounts
  | cons entry rest inductionHypothesis =>
      have added : (profile.addStack entry).Accounts (visits ++ [entry.visit]) :=
        accounts.count entry.visit.1 entry.samples
      have finished := inductionHypothesis added
      rwa [List.append_assoc] at finished

theorem accounts_ofStacks (entries : List StackSamples) :
    (ofStacks entries).Accounts (entries.map StackSamples.visit) :=
  accounts_empty.foldl_addStack entries

/-- Merging the profiles of two lists of stacks gives the profile of all the stacks together,
whatever order they are added in, and that profile holds at every instance and position what the
stacks count there. -/
theorem merge_ofStacks (left right all : List StackSamples)
    (reordered : all.Perm (left ++ right)) :
    (ofStacks left).merge (ofStacks right) = ofStacks all ∧
      (ofStacks all).Accounts (all.map StackSamples.visit) := by
  -- Both sides account for the same visits, in another order, and what a profile accounts for
  -- determines it.
  have merged := (accounts_ofStacks left).merge (accounts_ofStacks right)
  have sameVisits : SameTallies (left.map StackSamples.visit ++ right.map StackSamples.visit)
      (all.map StackSamples.visit) := by
    rw [← List.map_append]
    exact .of_perm (reordered.symm.map _)
  exact ⟨(merged.congr sameVisits).unique (accounts_ofStacks all), accounts_ofStacks all⟩

/-- Two stacks that share a call, with a count that stops, and a position that is reached without
samples. -/
theorem merge_ofStacks_saturated :
    let caller : Frame := ⟨"foo", 10, 14, 0⟩
    let hot : StackSamples := ⟨⟨"helper", 100, 103, 0⟩, [caller], countLimit⟩
    let warm : StackSamples := ⟨⟨"leaf", 1, 2, 0⟩, [⟨"helper", 100, 105, 0⟩, caller], 7⟩
    let unsampled : StackSamples := ⟨⟨"foo", 10, 8, 3⟩, [], 0⟩
    let profile := ofStacks [unsampled, warm, hot, warm]
    [unsampled, warm, hot, warm].Perm ([hot, warm] ++ [warm, unsampled]) ∧
      (ofStacks [hot, warm]).merge (ofStacks [warm, unsampled]) = profile ∧
      (profile.nodeAt [⟨⟨4, 0⟩, "helper"⟩]).total = countLimit ∧
      (profile.nodeAt [⟨⟨4, 0⟩, "helper"⟩, ⟨⟨5, 0⟩, "leaf"⟩]).total = 14 ∧
      ⟨0, 3⟩ ∈ (profile.nodeAt []).positions := by
  intro caller hot warm unsampled profile
  have reordered : [unsampled, warm, hot, warm].Perm ([hot, warm] ++ [warm, unsampled]) := by
    decide
  obtain ⟨merged, accounts⟩ := merge_ofStacks _ _ _ reordered
  refine ⟨reordered, merged, ?_, ?_, ?_⟩
  · rw [accounts.total_eq]
    decide
  · rw [accounts.total_eq]
    decide
  · rw [Std.ExtTreeMap.mem_iff_isSome_getElem?, accounts.position_eq]
    decide

end FunctionProfile

end SampleProfile
