import Std.Data.ExtTreeMap

/-!
# Inline stacks and places

An instruction belongs to a chain of functions inlined into each other.  A `Stack` lists that chain
from the innermost frame outwards; the `Place` of a stack is the same information read from the
outermost function inwards, with every line counted from the declaration of its function.
-/

namespace SampleProfile

/-- A source position inside a function, relative to the line that declares the function. -/
structure LineOffset where
  line : UInt32
  discriminator : UInt32
deriving DecidableEq, Repr

namespace LineOffset

/-- Line first, discriminator second. -/
def order : LineOffset → LineOffset → Ordering :=
  compareLex (compareOn line) (compareOn discriminator)

instance : Ord LineOffset := ⟨order⟩

instance : Std.TransOrd LineOffset :=
  inferInstanceAs (Std.TransCmp (compareLex (compareOn line) (compareOn discriminator)))

instance : Std.LawfulEqOrd LineOffset where
  eq_of_compare {left right} equal := by
    have both : (compare left.line right.line).then
        (compare left.discriminator right.discriminator) = .eq := equal
    rw [Ordering.then_eq_eq] at both
    have sameLine := Std.LawfulEqOrd.eq_of_compare both.1
    have sameDiscriminator := Std.LawfulEqOrd.eq_of_compare both.2
    cases left
    cases right
    simp_all

/-- The line, followed by a point and the discriminator unless that is zero. -/
def render (offset : LineOffset) : String :=
  if offset.discriminator = 0 then
    toString offset.line.toNat
  else
    toString offset.line.toNat ++ "." ++ toString offset.discriminator.toNat

end LineOffset

/-- One function of an inline stack. -/
structure Frame where
  /-- Linkage name of the function. -/
  function : String
  /-- Line that declares the function, zero if unknown. -/
  startLine : UInt32
  /-- The sampled line in the innermost frame, the line of the call in all others. -/
  line : UInt32
  discriminator : UInt32
deriving DecidableEq, Repr

/-- The position of a frame inside its function; lines before the declaration count as the
declaration. -/
def Frame.offset (frame : Frame) : LineOffset where
  line := if frame.line < frame.startLine then 0 else frame.line - frame.startLine
  discriminator := frame.discriminator

/-- Frames of one instruction, innermost first. -/
abbrev Stack := List Frame

/-- An inlined call: where it stands in the caller, and the function called. -/
structure Callsite where
  offset : LineOffset
  callee : String
deriving DecidableEq, Repr

namespace Callsite

/-- Position first, callee second. -/
def order : Callsite → Callsite → Ordering :=
  compareLex (compareOn offset) (compareOn callee)

instance : Ord Callsite := ⟨order⟩

instance : Std.TransOrd Callsite :=
  inferInstanceAs (Std.TransCmp (compareLex (compareOn offset) (compareOn callee)))

instance : Std.LawfulEqOrd Callsite where
  eq_of_compare {left right} equal := by
    have both : (compare left.offset right.offset).then
        (compare left.callee right.callee) = .eq := equal
    rw [Ordering.then_eq_eq] at both
    have sameOffset := Std.LawfulEqOrd.eq_of_compare both.1
    have sameCallee := Std.LawfulEqOrd.eq_of_compare both.2
    cases left
    cases right
    simp_all

end Callsite

/-- The inlined calls that lead from a function to one of the instances inlined into it, outermost
first. -/
abbrev Path := List Callsite

namespace Path

/-- All instances passed on the way down a path: the function itself first, the end of the path
last. -/
def ancestors : Path → List Path
  | [] => [[]]
  | call :: rest => [] :: (ancestors rest).map (call :: ·)

/-- The instances passed on the way are those whose paths the given path extends. -/
theorem mem_ancestors {inner path : Path} :
    inner ∈ ancestors path ↔ inner <+: path := by
  induction path generalizing inner with
  | nil => simp [ancestors]
  | cons call rest inductionHypothesis =>
      cases inner with
      | nil => simp [ancestors]
      | cons first others =>
          simp only [ancestors, List.mem_cons, reduceCtorEq, List.mem_map,
            List.cons.injEq, false_or, List.cons_prefix_cons,
            inductionHypothesis]
          constructor
          · rintro ⟨_, extended, rfl, rfl⟩
            exact ⟨rfl, extended⟩
          · rintro ⟨rfl, extended⟩
            exact ⟨others, extended, rfl, rfl⟩

end Path

/-- A source position reached through inlined calls. -/
structure Place where
  path : Path
  offset : LineOffset
deriving DecidableEq, Repr

/-- The inlined calls of a stack, innermost first. -/
def Stack.calls : Stack → List Callsite
  | callee :: caller :: outer =>
      ⟨caller.offset, callee.function⟩ :: Stack.calls (caller :: outer)
  | _ => []

/-- The calls pair every frame with the frame around it. -/
theorem Stack.calls_eq_zipWith (stack : Stack) :
    Stack.calls stack =
      List.zipWith (fun callee caller => ⟨caller.offset, callee.function⟩) stack stack.tail := by
  induction stack with
  | nil => rfl
  | cons callee outer inductionHypothesis =>
      cases outer with
      | nil => rfl
      | cons caller rest =>
          rw [Stack.calls, inductionHypothesis]
          rfl

/-- The place of the innermost frame inside the outermost function; an empty stack has none. -/
def Stack.place? (stack : Stack) : Option Place :=
  stack.head?.map fun innermost => ⟨(Stack.calls stack).reverse, innermost.offset⟩

theorem Stack.place?_cons (innermost : Frame) (outer : Stack) :
    Stack.place? (innermost :: outer) =
      some {
        path := (List.zipWith (fun callee caller => ⟨caller.offset, callee.function⟩)
          (innermost :: outer) outer).reverse
        offset := innermost.offset } := by
  rw [Stack.place?, calls_eq_zipWith]
  rfl

end SampleProfile
