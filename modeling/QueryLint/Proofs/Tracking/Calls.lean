import QueryLint.Tracking.Site

/-!
# Calls to a tracker

A walk tells a tracker which nodes begin and end. A `Call` is one such message. Of a node that
begins it carries what the tracker reads of it, as far as the text has it: a text with syntax errors
can leave out any name. Calls can be made in any order, also in one that no walk takes.

Main statement: `Tracker.run_eq_after`. The tracker after some events of a walk is the tracker after
the calls that they make.
-/

namespace QueryLint

open QueryLint.Language

/-- What a tracker reads of a node that begins. What the text leaves out is `none`. -/
inductive Opening where
  | operation (kind : OperationKind)
  | fragment (condition : Option String)
  /-- The outer option is the type condition, the inner one its name. -/
  | inlineFragment (condition : Option (Option String))
  | selectionSet
  | field (name : Option String)
  | directive (name : Option String)
  | variableDefinition (type : Option TypeRef)
  | argument (name : Option String)
  | list
  | objectField (name : Option String)
  | enumValue (name : Option String)

/-- The kind of node that begins. -/
def Opening.kind : Opening → NodeKind
  | operation _ => .operation
  | fragment _ => .fragment
  | inlineFragment _ => .inlineFragment
  | selectionSet => .selectionSet
  | field _ => .field
  | directive _ => .directive
  | variableDefinition _ => .variableDefinition
  | argument _ => .argument
  | list => .list
  | objectField _ => .objectField
  | enumValue _ => .enumValue

/-- What a tracker reads of a node. Of a document, a fragment spread and a named type it reads
nothing. -/
def Node.opening? : Node → Option Opening
  | operation it => some (.operation it.kind)
  | fragment it => some (.fragment (some it.condition.text))
  | inlineFragment it => some (.inlineFragment (it.condition.map fun name ↦ some name.text))
  | selectionSet _ => some .selectionSet
  | field it => some (.field (some it.name.text))
  | directive it => some (.directive (some it.name.text))
  | variableDefinition it => some (.variableDefinition (some (.ofExpr it.type)))
  | argument it => some (.argument (some it.name.text))
  | list _ _ => some .list
  | objectField it => some (.objectField (some it.name.text))
  | enumValue name => some (.enumValue (some name.text))
  | document _ | spread _ _ | namedType _ => none

theorem Node.kind_of_opening? {node : Node} {opening : Opening}
    (h : node.opening? = some opening) : opening.kind = node.kind := by
  cases node with
  | document | spread | namedType => cases h
  | _ => cases h; rfl

/-- One message to a tracker. -/
inductive Call where
  | enter (opening : Opening)
  | leave (kind : NodeKind)

/-- The calls of a node whose parts make the given calls. -/
def Call.around (opening : Opening) (parts : List Call) : List Call :=
  enter opening :: (parts ++ [leave opening.kind])

/-- The calls that an event of a walk makes. -/
def Event.calls : Event → List Call
  | .enter node => node.opening?.toList.map .enter
  | .leave node => node.opening?.toList.map fun opening ↦ .leave opening.kind
  | .visit node => node.opening?.toList.flatMap fun opening ↦ Call.around opening []
  | .mention _ => []

namespace Tracker

/-- The tracker in a node that begins. A name that is left out stands for nothing. -/
def opened (schema : Schema) (opening : Opening) (tracker : Tracker) : Tracker :=
  let here := tracker.context
  match opening with
  | .operation kind => tracker.pushType (schema.operationType? kind)
  | .fragment condition => tracker.pushType (condition.bind schema.conditionType?)
  | .inlineFragment condition =>
    tracker.pushType <|
      match condition with
      | some name => name.bind schema.conditionType?
      | none => here.type.map fun type ↦ .named type.namedType
  | .selectionSet =>
    { tracker with parents := here.type.bind ResolvedType.parentType? :: tracker.parents }
  | .field name =>
    let definition := name.bind fun name ↦ here.parent.bind (·.selectable? name)
    { tracker with
      fields := definition :: tracker.fields
      types := definition.bind (schema.outputType? ·.type) :: tracker.types }
  | .directive name => { tracker with directive := name.bind schema.directive? }
  | .variableDefinition type => tracker.pushInput (type.bind schema.inputType?)
  | .argument name =>
    tracker.pushInput <|
      (name.bind fun name ↦ tracker.arguments?.bind (·.get? name)).bind (schema.inputType? ·.type)
  | .list => tracker.pushInput (here.input.map ResolvedType.itemType)
  | .objectField name =>
    tracker.pushInput <|
      (name.bind fun name ↦ here.input.bind (·.namedType.inputField? name)).bind
        (schema.inputType? ·.type)
  | .enumValue name =>
    { tracker with
      enumValue := name.bind fun name ↦ here.input.bind (·.namedType.enumValue? name) }

/-- The tracker after a call. -/
def call (schema : Schema) (tracker : Tracker) : Call → Tracker
  | .enter opening => tracker.opened schema opening
  | .leave kind => tracker.leave kind

/-- The tracker after some calls. -/
def after (schema : Schema) (tracker : Tracker) (calls : List Call) : Tracker :=
  calls.foldl (call schema) tracker

section

variable (schema : Schema) (tracker : Tracker)

@[simp] theorem after_nil : tracker.after schema [] = tracker := rfl

@[simp] theorem after_cons (call : Call) (rest : List Call) :
    tracker.after schema (call :: rest) = (tracker.call schema call).after schema rest := rfl

@[simp] theorem after_append (first second : List Call) :
    tracker.after schema (first ++ second) =
      (tracker.after schema first).after schema second :=
  List.foldl_append

/-- After the calls of a node the tracker has left it. -/
theorem after_around (opening : Opening) (parts : List Call) :
    tracker.after schema (Call.around opening parts) =
      ((tracker.opened schema opening).after schema parts).leave opening.kind := by
  rw [Call.around, after_cons, after_append]
  rfl

/-- A tracker reads nothing else of a node that it enters. -/
theorem enter_eq_opened (node : Node) :
    tracker.enter schema node = node.opening?.elim tracker (tracker.opened schema) := by
  cases node with
  | inlineFragment fragment =>
      obtain ⟨span, condition, directives, selections⟩ := fragment
      cases condition <;> rfl
  | _ => rfl

/-- Nothing is left of a node that a tracker reads nothing of. -/
theorem leave_of_opening?_eq_none {node : Node} (h : node.opening? = none) :
    tracker.leave node.kind = tracker := by
  cases node with
  | document | spread | namedType => rfl
  | _ => cases h

theorem step_eq_after (event : Event) :
    tracker.step schema event = tracker.after schema event.calls := by
  cases event with
  | mention name => rfl
  | enter node =>
      show tracker.enter schema node = _
      rw [enter_eq_opened]
      cases h : node.opening? <;> simp [Event.calls, h, call]
  | leave node =>
      show tracker.leave node.kind = _
      cases h : node.opening? with
      | none => simp [Event.calls, h, tracker.leave_of_opening?_eq_none h]
      | some opening => simp [Event.calls, h, call, Node.kind_of_opening? h]
  | visit node =>
      show (tracker.enter schema node).leave node.kind = _
      rw [enter_eq_opened]
      cases h : node.opening? with
      | none => simp [Event.calls, h, tracker.leave_of_opening?_eq_none h]
      | some opening =>
          simp [Event.calls, h, after_around, Node.kind_of_opening? h]

/-- A walk does to a tracker what its calls do. -/
theorem run_eq_after (events : List Event) :
    tracker.run schema events = tracker.after schema (events.flatMap Event.calls) := by
  induction events generalizing tracker with
  | nil => rfl
  | cons event rest ih =>
      rw [List.flatMap_cons, after_append, ← step_eq_after, ← ih]
      rfl

end

end Tracker

end QueryLint
