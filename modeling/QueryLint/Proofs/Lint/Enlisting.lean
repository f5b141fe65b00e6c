import QueryLint.Proofs.Lint.Findings
import QueryLint.Proofs.Lint.Growth
import QueryLint.Proofs.Tracking.Lists
import QueryLint.Proofs.Walk.Rows

/-!
# Single values as lists of one

A single value can stand for a list of one. Main statement: `Linter.check_enlisted`. Writing the
list out, at any value and any number of times, changes nothing about deprecations.

`Construct.Enlisted` relates rows of constructs that differ in such lists only. Under scopes that no
look-up tells apart they have the same findings (`Construct.Enlisted.findings_eq`).
-/

namespace QueryLint

open QueryLint.Language

namespace Language

/-- The second row says what the first one says, with some values in lists of one. Ranges may
differ. -/
inductive Construct.Enlisted : List Construct → List Construct → Prop
  | nil : Enlisted [] []
  | cons {here there : Construct} {rest others : List Construct} (hhead : here.head = there.head)
      (hparts : Enlisted here.parts there.parts) (hrest : Enlisted rest others) :
      Enlisted (here :: rest) (there :: others)
  /-- The value comes into a list. It may have lists of one in it already. -/
  | enlist (span : Span) {single item : Value} {rest others : List Construct}
      (hvalue : Enlisted [.value single] [.value item]) (hrest : Enlisted rest others) :
      Enlisted (.value single :: rest) (.value (.list span [item]) :: others)

/-- The second document is the first one with some values in lists of one. -/
def Document.Enlisted (document other : Document) : Prop :=
  Construct.Enlisted (document.definitions.map .definition) (other.definitions.map .definition)

end Language

/-- Every row says what it says, without further lists. -/
theorem Language.Construct.Enlisted.refl (row : List Construct) : Enlisted row row := by
  induction row using row_induction with
  | nil => exact .nil
  | cons here rest hparts hrest => exact .cons rfl hparts hrest

/-- Rows with lists of one in some places have the same findings. -/
theorem Language.Construct.Enlisted.findings_eq {schema : Schema} {row others : List Construct}
    (h : Enlisted row others) {scope other : Scope} (halike : scope.Alike other) :
    scope.findings schema row = other.findings schema others := by
  induction h generalizing scope other with
  | nil => rfl
  | cons hhead _ _ ihparts ihrest =>
      exact halike.findings_cons hhead (ihparts (halike.into_of_head_eq schema hhead))
        (ihrest halike)
  | @enlist span single item rest others _ _ ihvalue ihrest =>
      have hinside := halike.trans (.into_list schema other span [item])
      calc scope.findings schema (.value single :: rest)
          = scope.findings schema [.value single] ++ scope.findings schema rest :=
            scope.findings_append schema [.value single] rest
        _ = (other.into schema (.value (.list span [item]))).findings schema [.value item] ++
              other.findings schema others := by
            rw [ihvalue hinside, ihrest halike]
        -- A list has no message of its own.
        _ = other.findings schema (.value (.list span [item]) :: others) :=
            (other.findings_cons schema (.value (.list span [item])) others).symm

namespace Linter

/-- Where values are put into lists of one, any number of times, the same is reported about
deprecations, in the same order. Inside list values the input type in force has the innermost type
of the one that is in force where the node begins in which these stand. -/
theorem check_enlisted (schema : Schema) :
    (∀ document other : Document, Relation.ReflTransGen Document.Enlisted document other →
      ∀ severity : Severity,
        ((empty.add Rules.noDeprecated severity).check schema other).map (·.message) =
          ((empty.add Rules.noDeprecated severity).check schema document).map (·.message)) ∧
      ∀ (document : Document) (before inner after : List Event) (giver : Node) (lists : List Node),
        document.events = before ++ .enter giver :: (inner ++ after) →
        Event.opened [] inner = some lists → (∀ node ∈ lists, node.kind = .list) →
          (Tracker.start.run schema (before ++ .enter giver :: inner)).context.input.map
              ResolvedType.namedType =
            (Tracker.start.run schema (before ++ [.enter giver])).context.input.map
              ResolvedType.namedType := by
  refine ⟨?_, ?_⟩
  · intro document other h severity
    exact map_message_check_of_steps severity (fun hstep ↦ hstep.findings_eq (.refl .outside)) h
  · intro document before inner after giver lists h hopened hlists
    exact document.namedType_input_of_lists schema h hopened hlists

/-- An input object and the deprecated value in it are put into lists, and then the outer list once
more. Inside both outer lists the input object is in force. -/
theorem check_enlisted_twice :
    let schema := Schema.ofText <| "enum E \x7b A B @deprecated \x7d input I \x7b e: E \x7d " ++
      "type Query \x7b f(x: [I!]): Int \x7d"
    let linter := empty.add Rules.noDeprecated .warning
    let name (text : String) : Name := ⟨text, default⟩
    let object (value : Value) : Value := .object default [⟨default, name "e", some value⟩]
    let single := object (.enum (name "B"))
    let inside := object (.list default [.enum (name "B")])
    let once := Value.list default [inside]
    let twice := Value.list default [once]
    let lists : List Node := [.list default [inside], .list default [once]]
    let argument (value : Value) : Argument := ⟨default, name "x", some value⟩
    let field (value : Value) : Field := ⟨default, none, name "f", [argument value], [], none⟩
    let set (value : Value) : SelectionSet := ⟨default, [.field (field value)]⟩
    let operation (value : Value) : Operation := ⟨default, .query, none, [], [], set value⟩
    let document (value : Value) : Document := ⟨default, [.operation (operation value)]⟩
    let before : List Event :=
      [.enter (.document (document twice)), .enter (.operation (operation twice)),
        .enter (.selectionSet (set twice)), .enter (.field (field twice))]
    let inner : List Event := [.enter (.list default [once]), .enter (.list default [inside])]
    Relation.ReflTransGen Document.Enlisted (document single) (document twice) ∧
      (linter.check schema (document single)).map (·.message) =
        ["The enum value E.B is deprecated. No longer supported"] ∧
      (linter.check schema (document twice)).map (·.message) =
        ["The enum value E.B is deprecated. No longer supported"] ∧
      Event.opened [] inner = some lists ∧
      (Tracker.start.run schema (before ++ .enter (.argument (argument twice)) :: inner)
        ).context.input.map (·.namedType.name) = some "I" := by
  intro schema linter name object single inside once twice lists argument field set operation
    document before inner
  have hobject {value other : Value} (h : Construct.Enlisted [.value value] [.value other]) :
      Construct.Enlisted [.value (object value)] [.value (object other)] :=
    .cons rfl (.cons rfl h .nil) .nil
  have hdocument {value other : Value} (h : Construct.Enlisted [.value value] [.value other]) :
      (document value).Enlisted (document other) :=
    .cons rfl (.cons rfl (.cons rfl (.cons rfl h .nil) .nil) .nil) .nil
  have hfirst : (document single).Enlisted (document once) :=
    hdocument (.enlist default (hobject (.enlist default (.refl _) .nil)) .nil)
  have hsecond : (document once).Enlisted (document twice) :=
    hdocument (.enlist default (.refl _) .nil)
  have hsteps := (Relation.ReflTransGen.single hfirst).tail hsecond
  have hopened : Event.opened [] inner = some lists := rfl
  obtain ⟨after, hevents⟩ : ∃ after, (document twice).events =
      before ++ .enter (.argument (argument twice)) :: (inner ++ after) := by
    simp [document, operation, set, field, argument, twice, once, before, inner, Document.events,
      Definition.events, Operation.events, SelectionSet.events, eventsOfSelections,
      Selection.events, Field.events, Argument.events, eventsOfOptional, Value.events,
      eventsOfItems, Event.around]
  have hlists : ∀ node ∈ lists, node.kind = .list := by simp [lists, Node.kind]
  obtain ⟨hmessages, hinput⟩ := check_enlisted schema
  have hsingle : (linter.check schema (document single)).map (·.message) =
      ["The enum value E.B is deprecated. No longer supported"] := by decide +kernel
  have hinside := hinput _ before inner _ _ lists hevents hopened hlists
  refine ⟨hsteps, hsingle, (hmessages _ _ hsteps .warning).trans hsingle, hopened, ?_⟩
  have hname := congrArg (Option.map TypeDef.name) hinside
  rw [Option.map_map, Option.map_map] at hname
  exact hname.trans (by decide +kernel)

end Linter

end QueryLint
