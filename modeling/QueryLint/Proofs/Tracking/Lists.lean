import QueryLint.Proofs.Schema.Resolution
import QueryLint.Proofs.Walk.Enumeration
import QueryLint.Tracking.Site

/-!
# Inputs inside list values

Main statement: `Document.namedType_input_of_lists`. Below its list and non-null layers, what a
value is given for does not change on the way into list values, however many there are and whatever
layers there are.

`Tracker.Above` describes the input types that have come onto the stack of a tracker since some
event, by the nodes that have been entered since and not left. It is kept by every event
(`Tracker.Above.enter`, `Tracker.Above.leave`), so it holds all along (`Tracker.Above.run`).
-/

namespace QueryLint

open QueryLint.Language

/-- The nodes that are open after the events, the innermost first, if these are open before them.
There is no answer if the events leave a node when none is open. -/
def Event.opened : List Node → List Event → Option (List Node)
  | opened, [] => some opened
  | opened, .enter node :: rest => Event.opened (node :: opened) rest
  | opened, .visit _ :: rest | opened, .mention _ :: rest => Event.opened opened rest
  | [], .leave _ :: _ => none
  | _ :: opened, .leave _ :: rest => Event.opened opened rest

/-- What is left at the end of a walk has been entered before. -/
theorem Event.exists_closed_of_append {around : List Node} {first rest : List Event}
    (h : Closed around (first ++ rest)) : ∃ outer, Closed outer rest := by
  induction first generalizing around with
  | nil => exact ⟨around, h⟩
  | cons event first ih =>
      cases event with
      | enter | visit | mention => exact ih h
      | leave => exact ih h.2

/-- The kinds of node that bring an input type into force. -/
def NodeKind.bringsInput : NodeKind → Bool
  | .variableDefinition | .argument | .list | .objectField => true
  | _ => false

namespace Tracker

/-- The stack has one input type on top of the base for each opened node that brings one into force.
A list brings in what is in force around it, but for the layers. -/
inductive Above (base : List (Option ResolvedType)) :
    List Node → List (Option ResolvedType) → Prop
  | nothing : Above base [] base
  | list {node : Node} {opened : List Node} {inputs : List (Option ResolvedType)}
      {input : Option ResolvedType} (hkind : node.kind = .list) (h : Above base opened inputs)
      (hinput : input.map ResolvedType.namedType =
        inputs.head?.join.map ResolvedType.namedType) :
      Above base (node :: opened) (input :: inputs)
  | giver {node : Node} {opened : List Node} {inputs : List (Option ResolvedType)}
      (hkind : node.kind.bringsInput) (hlist : node.kind ≠ .list) (h : Above base opened inputs)
      (input : Option ResolvedType) : Above base (node :: opened) (input :: inputs)
  | other {node : Node} {opened : List Node} {inputs : List (Option ResolvedType)}
      (hkind : ¬ node.kind.bringsInput) (h : Above base opened inputs) :
      Above base (node :: opened) inputs

theorem inputs_leave (tracker : Tracker) (kind : NodeKind) :
    (tracker.leave kind).inputs =
      if kind.bringsInput then tracker.inputs.tail else tracker.inputs := by
  cases kind <;> rfl

/-- A node without parts leaves no input type behind. -/
theorem inputs_leave_enter (schema : Schema) (tracker : Tracker) (node : Node) :
    ((tracker.enter schema node).leave node.kind).inputs = tracker.inputs := by
  cases node <;> rfl

namespace Above

variable {base : List (Option ResolvedType)} {opened : List Node} {tracker : Tracker}

theorem enter (h : Above base opened tracker.inputs) (schema : Schema) (node : Node) :
    Above base (node :: opened) (tracker.enter schema node).inputs := by
  cases node with
  | list span items =>
      refine .list rfl h ?_
      rw [Option.map_map]
      exact congrArg (Option.map · tracker.context.input) (funext ResolvedType.namedType_itemType)
  | variableDefinition | argument | objectField =>
      exact .giver rfl (by simp [Node.kind]) h _
  | _ => exact .other (by simp [Node.kind, NodeKind.bringsInput]) h

theorem leave {node : Node} (h : Above base (node :: opened) tracker.inputs) :
    Above base opened (tracker.leave node.kind).inputs := by
  rw [inputs_leave]
  generalize tracker.inputs = inputs at h
  cases h with
  | list hkind h =>
      rw [hkind]
      exact h
  | giver hkind _ h =>
      rw [if_pos hkind]
      exact h
  | other hkind h =>
      rw [if_neg hkind]
      exact h

/-- In a walk the stack is described by the nodes that are open, event by event. -/
theorem run (schema : Schema) {around : List Node} {first rest : List Event} {inside : List Node}
    (hclosed : Event.Closed (opened ++ around) (first ++ rest))
    (hopened : Event.opened opened first = some inside) (h : Above base opened tracker.inputs) :
    Above base inside (tracker.run schema first).inputs := by
  induction first generalizing opened tracker with
  | nil =>
      cases hopened
      exact h
  | cons event first ih =>
      cases event with
      | enter node => exact ih hclosed hopened (h.enter schema node)
      | visit node =>
          refine ih hclosed hopened ?_
          show Above base opened ((tracker.enter schema node).leave node.kind).inputs
          rw [inputs_leave_enter]
          exact h
      | mention name => exact ih hclosed hopened h
      | leave node =>
          cases opened with
          | nil => cases hopened
          | cons top opened =>
              obtain ⟨htop, hclosed⟩ := hclosed
              cases htop
              exact ih hclosed hopened h.leave

/-- Inside lists only, the input type in force is the one below them but for the layers. -/
theorem namedType_eq {inputs : List (Option ResolvedType)} (h : Above base opened inputs)
    (hlists : ∀ node ∈ opened, node.kind = .list) :
    inputs.head?.join.map ResolvedType.namedType =
      base.head?.join.map ResolvedType.namedType := by
  induction h with
  | nothing => rfl
  | list _ _ hinput ih =>
      exact hinput.trans (ih fun node hnode ↦ hlists node (List.mem_cons_of_mem _ hnode))
  | giver _ hlist => exact absurd (hlists _ List.mem_cons_self) hlist
  | other hkind =>
      rw [hlists _ List.mem_cons_self] at hkind
      exact absurd rfl hkind

end Above

end Tracker

/-- Inside any nesting of list values the input type in force has the innermost type of the one that
is in force where the node begins in which these stand. -/
theorem Language.Document.namedType_input_of_lists (schema : Schema) {document : Document}
    {before inner after : List Event} {giver : Node} {lists : List Node}
    (h : document.events = before ++ .enter giver :: (inner ++ after))
    (hopened : Event.opened [] inner = some lists) (hlists : ∀ node ∈ lists, node.kind = .list) :
    (Tracker.start.run schema (before ++ .enter giver :: inner)).context.input.map
        ResolvedType.namedType =
      (Tracker.start.run schema (before ++ [.enter giver])).context.input.map
        ResolvedType.namedType := by
  obtain ⟨outer, hclosed⟩ := Event.exists_closed_of_append (h ▸ document.closed_events)
  have hclosed : Event.Closed ([] ++ giver :: outer) (inner ++ after) := hclosed
  have hinner : before ++ .enter giver :: inner = (before ++ [.enter giver]) ++ inner := by simp
  rw [hinner, Tracker.run_append]
  exact (Tracker.Above.run schema hclosed hopened .nothing).namedType_eq hlists

end QueryLint
