import QueryLint.Walk.Event

/-!
# The places of a document

A `Construct` is anything that the grammar has in a document. `Construct.parts` lists what stands
directly in it, in the order of the text and whether or not a walk goes there, and
`Construct.event?` tells which constructs a walk has an event for. A `Place` leads down from part to
part. So `Document.meeting` says what a walk should meet at every place, without walking.

Names are left out, other than those of types and variables. The default of an input value is kept
as it is written, so nothing stands in it.
-/

namespace QueryLint.Language

/-- The definition is an operation or a fragment. -/
def Definition.isExecutable : Definition → Bool
  | .operation _ | .fragment _ => true
  | .schema _ | .directive _ | .type _ | .extendSchema _ | .extendType _ => false

/-- A construct of the grammar in a document. -/
inductive Construct where
  | definition (it : Definition)
  | variableDefinition (it : VariableDefinition)
  /-- The variable that a definition declares; as a value, a variable is a construct of its own. -/
  | declared (name : Name)
  | type (it : TypeExpr)
  | namedType (name : Name)
  | value (it : Value)
  | objectField (it : ObjectField)
  | argument (it : Argument)
  | directive (it : Directive)
  | selectionSet (it : SelectionSet)
  | selection (it : Selection)
  | rootDefinition (it : RootDefinition)
  | fieldDefinition (it : FieldDefinition)
  | inputValueDefinition (it : InputValueDefinition)
  | enumValueDefinition (it : EnumValueDefinition)

namespace Construct

/-- What follows the name of a type. Interfaces stand before the directives, all else after them. -/
def ofBody (directives : List Construct) : TypeBody → List Construct
  | .scalar => directives
  | .object interfaces fields | .interface interfaces fields =>
    interfaces.map namedType ++ directives ++ fields.map fieldDefinition
  | .union members => directives ++ members.map namedType
  | .enum values => directives ++ values.map enumValueDefinition
  | .input fields => directives ++ fields.map inputValueDefinition

/-- What stands directly in a construct, in the order of the text. -/
def parts : Construct → List Construct
  | definition (.operation it) =>
    it.variableDefinitions.map variableDefinition ++ it.directives.map directive ++
      [selectionSet it.selections]
  | definition (.fragment it) =>
    namedType it.condition :: (it.directives.map directive ++ [selectionSet it.selections])
  | definition (.schema it) | definition (.extendSchema it) =>
    it.directives.map directive ++ it.roots.map rootDefinition
  | definition (.directive it) => it.arguments.map inputValueDefinition
  | definition (.type it) | definition (.extendType it) =>
    ofBody (it.directives.map directive) it.body
  | variableDefinition it =>
    declared it.name :: type it.type ::
      (it.default.toList.map value ++ it.directives.map directive)
  | type (.named name _) => [namedType name]
  | type (.list item _) => [type item]
  | value (.list _ items) => items.map value
  | value (.object _ fields) => fields.map objectField
  | objectField it => it.value.toList.map value
  | argument it => it.value.toList.map value
  | directive it => it.arguments.map argument
  | selectionSet it => it.items.map selection
  | selection (.field it) =>
    it.arguments.map argument ++ it.directives.map directive ++
      it.selections.toList.map selectionSet
  | selection (.inline it) =>
    it.condition.toList.map namedType ++ it.directives.map directive ++
      [selectionSet it.selections]
  | selection (.spread _ _ directives) => directives.map directive
  | rootDefinition it => it.type.toList.map namedType
  | fieldDefinition it =>
    it.arguments.map inputValueDefinition ++ type it.type :: it.directives.map directive
  | inputValueDefinition it => type it.type :: it.directives.map directive
  | enumValueDefinition it => it.directives.map directive
  | declared _ | namedType _ => []
  | value (.var _ _) | value (.int _ _) | value (.float _ _) | value (.string _ _)
  | value (.boolean _ _) | value (.null _) | value (.enum _) => []

/-- The event of a walk at which a construct begins, if there is one. -/
def event? : Construct → Option Event
  | definition (.operation it) => some (.enter (.operation it))
  | definition (.fragment it) => some (.enter (.fragment it))
  | variableDefinition it => some (.enter (.variableDefinition it))
  | declared name | value (.var _ name) => some (.mention name)
  | namedType name => some (.visit (.namedType name))
  | value (.enum name) => some (.visit (.enumValue name))
  | value (.list span items) => some (.enter (.list span items))
  | objectField it => some (.enter (.objectField it))
  | argument it => some (.enter (.argument it))
  | directive it => some (.enter (.directive it))
  | selectionSet it => some (.enter (.selectionSet it))
  | selection (.field it) => some (.enter (.field it))
  | selection (.inline it) => some (.enter (.inlineFragment it))
  | selection (.spread span name _) => some (.visit (.spread span name))
  | definition (.schema _) | definition (.directive _) | definition (.type _)
  | definition (.extendSchema _) | definition (.extendType _) => none
  | value (.int _ _) | value (.float _ _) | value (.string _ _) | value (.boolean _ _)
  | value (.null _) | value (.object _ _) => none
  | type _ | rootDefinition _ | fieldDefinition _ | inputValueDefinition _
  | enumValueDefinition _ => none

/-- The nodes that are open among the parts of a construct, if these are open around it. -/
def inside (around : List Node) (here : Construct) : List Node :=
  match here.event? with
  | some (.enter node) => node :: around
  | _ => around

end Construct

/-- A way down from a construct: which of its parts to go to, which of the parts of that, and so on.
Places are ordered like the words of a dictionary, so a construct comes before its parts and these
come before whatever follows it. -/
abbrev Place := List Nat

/-- What a walk meets: an event that begins something, and the nodes open around it, the innermost
first. -/
structure Meeting where
  around : List Node
  event : Event

/-- What a walk should meet at a place below a construct. -/
def Construct.meeting (around : List Node) (here : Construct) : Place → Option Meeting
  | [] => here.event?.map (Meeting.mk around)
  | index :: place => here.parts[index]?.bind fun part ↦ part.meeting (here.inside around) place

/-- What a walk should meet at a place of a definition: nothing in a type system definition. -/
def Definition.meeting (around : List Node) (it : Definition) (place : Place) : Option Meeting :=
  if it.isExecutable then (Construct.definition it).meeting around place else none

/-- What a walk should meet at a place of a document. -/
def Document.meeting (document : Document) : Place → Option Meeting
  | [] => some ⟨[], .enter (.document document)⟩
  | index :: place => document.definitions[index]?.bind fun it ↦
      it.meeting [.document document] place

end QueryLint.Language

namespace QueryLint.Event

open QueryLint.Language

/-- What the events of a walk meet, each with the nodes that were entered and not yet left. -/
def meetings : List Node → List Event → List Meeting
  | _, [] => []
  | around, .enter node :: rest => ⟨around, .enter node⟩ :: meetings (node :: around) rest
  | around, .visit node :: rest => ⟨around, .visit node⟩ :: meetings around rest
  | around, .mention name :: rest => ⟨around, .mention name⟩ :: meetings around rest
  | around, .leave _ :: rest => meetings around.tail rest

/-- Every node that is left is the innermost of those entered and not yet left, and in the end none
is open. -/
def Closed : List Node → List Event → Prop
  | around, [] => around = []
  | around, .enter node :: rest => Closed (node :: around) rest
  | around, .visit _ :: rest | around, .mention _ :: rest => Closed around rest
  | around, .leave node :: rest => around.head? = some node ∧ Closed around.tail rest

end QueryLint.Event
