import Mathlib.Data.List.Basic
import QueryLint.Proofs.Walk.Places

/-!
# Walks enumerate places

Main statements: `Document.enumerates_meetings` and `Document.closed_events`. A walk meets all that
has an event in an operation or a fragment, each once and in the order of the places, and it leaves
what it enters in the opposite order.

The proof goes over the tree. `Walks` says of the events of some things in a row that they meet what
is below these. Rows are put together by `Walks.append`, where the places of the second row are
moved to behind the first, and `Construct.Walked.single` is the step from the parts of a construct
to the construct.
-/

namespace QueryLint.Language

/-! ## Rows -/

/-- What is met at a place below things in a row, by what is met below each of them. -/
def meetingIn (row : List (Place → Option Meeting)) : Place → Option Meeting
  | [] => none
  | index :: place => row[index]?.bind fun part ↦ part place

/-- The place of the same thing after others have been put in front of its row. -/
def Place.after (count : Nat) : Place → Place
  | [] => []
  | index :: place => (count + index) :: place

theorem Place.after_lt_after {count : Nat} {first second : Place} (h : first < second) :
    Place.after count first < Place.after count second := by
  match first, second, h with
  | [], _ :: _, _ => exact List.nil_lt_cons _ _
  | _ :: _, _ :: _, h =>
      rcases List.cons_lt_cons_iff.mp h with hindex | ⟨rfl, hrest⟩
      · exact List.cons_lt_cons_iff.mpr (.inl (Nat.add_lt_add_left hindex count))
      · exact List.cons_lt_cons_iff.mpr (.inr ⟨rfl, hrest⟩)

section

variable {first second : List (Place → Option Meeting)} {place other : Place}

theorem lt_length_of_isSome {index : Nat} (h : (meetingIn first (index :: place)).isSome) :
    index < first.length := by
  cases hpart : first[index]? with
  | none =>
      rw [meetingIn, hpart] at h
      cases h
  | some part => exact (List.getElem?_eq_some_iff.mp hpart).1

theorem meetingIn_append_of_isSome (h : (meetingIn first place).isSome) :
    meetingIn (first ++ second) place = meetingIn first place := by
  cases place with
  | nil => rfl
  | cons index place =>
      rw [meetingIn, List.getElem?_append_left (lt_length_of_isSome h), meetingIn]

theorem meetingIn_append_after :
    meetingIn (first ++ second) (Place.after first.length place) = meetingIn second place := by
  cases place with
  | nil => rfl
  | cons index place =>
      have hindex := Nat.le_add_right first.length index
      simp [meetingIn, Place.after, List.getElem?_append_right hindex]

/-- What is met below two rows is met below one of them. -/
theorem isSome_meetingIn_append_iff :
    (meetingIn (first ++ second) place).isSome ↔ (meetingIn first place).isSome ∨
      ∃ other, (meetingIn second other).isSome ∧ Place.after first.length other = place := by
  constructor
  · intro h
    cases place with
    | nil => cases h
    | cons index place =>
        rcases Nat.lt_or_ge index first.length with hindex | hindex
        · rw [meetingIn, List.getElem?_append_left hindex] at h
          exact .inl h
        · refine .inr ⟨(index - first.length) :: place, ?_, ?_⟩
          · rwa [meetingIn, List.getElem?_append_right hindex] at h
          · rw [Place.after, Nat.add_sub_cancel' hindex]
  · rintro (h | ⟨other, h, rfl⟩)
    · rwa [meetingIn_append_of_isSome h]
    · rwa [meetingIn_append_after]

/-- What is met below one row comes before what is met below the next. -/
theorem lt_after_of_isSome (hfirst : (meetingIn first place).isSome)
    (hsecond : (meetingIn second other).isSome) : place < Place.after first.length other := by
  cases place with
  | nil => cases hfirst
  | cons index place =>
      cases other with
      | nil => cases hsecond
      | cons offset other =>
          have hindex := Nat.lt_add_right offset (lt_length_of_isSome hfirst)
          exact List.cons_lt_cons_iff.mpr (.inl hindex)

end

/-! ## Enumerations -/

/-- These are the meetings at all places, each once and in the order of the places. -/
def Enumerates (meeting : Place → Option Meeting) (found : List Meeting) : Prop :=
  ∃ places : List Place, places.Pairwise (· < ·) ∧
    (∀ place, place ∈ places ↔ (meeting place).isSome) ∧ places.filterMap meeting = found

namespace Enumerates

theorem nil : Enumerates (meetingIn []) [] := by
  refine ⟨[], .nil, fun place ↦ ?_, rfl⟩
  cases place <;> simp [meetingIn]

theorem append {first second : List (Place → Option Meeting)} {found others : List Meeting}
    (hfirst : Enumerates (meetingIn first) found) (hsecond : Enumerates (meetingIn second) others) :
    Enumerates (meetingIn (first ++ second)) (found ++ others) := by
  obtain ⟨places, hsorted, hmem, rfl⟩ := hfirst
  obtain ⟨later, hlater, hmemLater, rfl⟩ := hsecond
  refine ⟨places ++ later.map (Place.after first.length), ?_, fun place ↦ ?_, ?_⟩
  · rw [List.pairwise_append]
    refine ⟨hsorted, ?_, fun place hplace other hother ↦ ?_⟩
    · exact hlater.map _ fun _ _ ↦ Place.after_lt_after
    · obtain ⟨moved, hmoved, rfl⟩ := List.mem_map.mp hother
      exact lt_after_of_isSome ((hmem place).mp hplace) ((hmemLater moved).mp hmoved)
  · rw [List.mem_append, List.mem_map, isSome_meetingIn_append_iff, hmem]
    simp only [hmemLater]
  · rw [List.filterMap_append, List.filterMap_map]
    congr 1
    · exact List.filterMap_congr fun place hplace ↦
        meetingIn_append_of_isSome ((hmem place).mp hplace)
    · exact List.filterMap_congr fun place _ ↦ meetingIn_append_after

/-- Something begins before its parts. -/
theorem cons {meeting : Place → Option Meeting} {row : List (Place → Option Meeting)}
    {found : List Meeting} (hrow : Enumerates (meetingIn row) found)
    (hparts : ∀ index place, meeting (index :: place) = meetingIn row (index :: place)) :
    Enumerates meeting ((meeting []).toList ++ found) := by
  obtain ⟨places, hsorted, hmem, rfl⟩ := hrow
  have hbelow {place : Place} (h : (meetingIn row place).isSome) :
      [] < place ∧ meeting place = meetingIn row place := by
    cases place with
    | nil => cases h
    | cons index place => exact ⟨List.nil_lt_cons _ _, hparts index place⟩
  refine ⟨(meeting []).toList.map (fun _ ↦ []) ++ places, ?_, fun place ↦ ?_, ?_⟩
  · rw [List.pairwise_append]
    refine ⟨by cases meeting [] <;> simp, hsorted, fun place hplace other hother ↦ ?_⟩
    obtain ⟨_, -, rfl⟩ := List.mem_map.mp hplace
    exact (hbelow ((hmem other).mp hother)).1
  · rw [List.mem_append, hmem]
    cases place with
    | nil => cases meeting [] <;> simp [meetingIn]
    | cons index place => simp [hparts]
  · rw [List.filterMap_append]
    congr 1
    · cases h : meeting [] <;> simp [h]
    · exact List.filterMap_congr fun place hplace ↦ (hbelow ((hmem place).mp hplace)).2

theorem singleton {meeting : Place → Option Meeting} {found : List Meeting}
    (h : Enumerates meeting found) : Enumerates (meetingIn [meeting]) found := by
  obtain ⟨places, hsorted, hmem, rfl⟩ := h
  refine ⟨places.map (0 :: ·), ?_, fun place ↦ ?_, ?_⟩
  · exact hsorted.map _ fun _ _ hlt ↦ List.cons_lt_cons_iff.mpr (.inr ⟨rfl, hlt⟩)
  · match place with
    | [] => simp [meetingIn]
    | 0 :: place => simp [meetingIn, hmem]
    | (_ + 1) :: place => simp [meetingIn]
  · rw [List.filterMap_map]
    rfl

end Enumerates

/-! ## Walks -/

/-- With these nodes open, the events meet what is below a row, in its order, and close all that
they open. -/
structure Walks (around : List Node) (row : List (Place → Option Meeting)) (events : List Event) :
    Prop where
  enumerates : Enumerates (meetingIn row) (Event.meetings around events)
  meetings_append (rest : List Event) :
    Event.meetings around (events ++ rest) =
      Event.meetings around events ++ Event.meetings around rest
  closed_append {rest : List Event} (h : Event.Closed around rest) :
    Event.Closed around (events ++ rest)

namespace Walks

variable {around : List Node}

theorem nil : Walks around [] [] := ⟨.nil, fun _ ↦ rfl, fun h ↦ h⟩

theorem append {first second : List (Place → Option Meeting)} {events others : List Event}
    (hfirst : Walks around first events) (hsecond : Walks around second others) :
    Walks around (first ++ second) (events ++ others) where
  enumerates := by
    rw [hfirst.meetings_append]
    exact hfirst.enumerates.append hsecond.enumerates
  meetings_append rest := by
    rw [List.append_assoc, hfirst.meetings_append, hfirst.meetings_append,
      hsecond.meetings_append, List.append_assoc]
  closed_append h := by
    rw [List.append_assoc]
    exact hfirst.closed_append (hsecond.closed_append h)

theorem flatMap {α : Type} {meeting : α → Place → Option Meeting} {events : α → List Event}
    (h : ∀ item, Walks around [meeting item] (events item)) (items : List α) :
    Walks around (items.map meeting) (items.flatMap events) := by
  induction items with
  | nil => exact nil
  | cons item rest ih =>
      rw [List.flatMap_cons]
      exact (h item).append ih

/-- Around a walk inside it a node is met before anything else. -/
theorem meetings_around {node : Node} {row : List (Place → Option Meeting)} {events : List Event}
    (h : Walks (node :: around) row events) (rest : List Event) :
    Event.meetings around (Event.around node events ++ rest) =
      ⟨around, .enter node⟩ :: (Event.meetings (node :: around) events ++
        Event.meetings around rest) := by
  simp [Event.around, Event.meetings, h.meetings_append]

/-- After a walk inside it a node can be left. -/
theorem closed_around {node : Node} {row : List (Place → Option Meeting)} {events : List Event}
    (h : Walks (node :: around) row events) {rest : List Event} (hrest : Event.Closed around rest) :
    Event.Closed around (Event.around node events ++ rest) := by
  have hleave : Event.Closed (node :: around) (.leave node :: rest) := ⟨rfl, hrest⟩
  simpa [Event.around, Event.Closed] using h.closed_append hleave

/-- Where there is nothing to meet, a walk does nothing. -/
theorem nothing : Walks around [fun _ ↦ none] [] where
  enumerates := by
    refine .singleton ⟨[], .nil, fun place ↦ ?_, rfl⟩
    simp
  meetings_append _ := rfl
  closed_append h := h

end Walks

namespace Construct

/-- The events of a construct whose parts have the given events. -/
def surround (here : Construct) (parts : List Event) : List Event :=
  match here.event? with
  | none => parts
  | some (.enter node) => Event.around node parts
  | some event => event :: parts

theorem event?_ne_leave (here : Construct) (node : Node) : here.event? ≠ some (.leave node) := by
  cases here with
  | definition it => cases it <;> simp [event?]
  | value it => cases it <;> simp [event?]
  | selection it => cases it <;> simp [event?]
  | _ => simp [event?]

theorem meeting_cons (around : List Node) (here : Construct) (index : Nat) (place : Place) :
    here.meeting around (index :: place) =
      meetingIn (here.parts.map (Construct.meeting (here.inside around))) (index :: place) := by
  rw [Construct.meeting, meetingIn, List.getElem?_map, Option.bind_map]
  rfl

/-- With these nodes open, the events are those of a walk over the constructs. -/
def Walked (around : List Node) (constructs : List Construct) (events : List Event) : Prop :=
  Walks around (constructs.map (Construct.meeting around)) events

namespace Walked

variable {around : List Node}

/-- A construct is walked if its parts are, with the node that it opens, if it opens one. -/
theorem single (here : Construct) {events : List Event}
    (h : Walked (here.inside around) here.parts events) :
    Walked around [here] (here.surround events) := by
  have hall := (h.enumerates.cons (here.meeting_cons around)).singleton
  simp only [Walked, Construct.meeting, surround, inside] at h hall ⊢
  cases hevent : here.event? with
  | none =>
      rw [hevent] at h hall
      exact ⟨hall, h.meetings_append, h.closed_append⟩
  | some event =>
      rw [hevent] at h hall
      cases event with
      | enter node =>
          have hwhole := h.meetings_around []
          simp only [List.append_nil, Event.meetings] at hwhole
          refine ⟨hwhole ▸ hall, fun rest ↦ ?_, fun hrest ↦ h.closed_around hrest⟩
          rw [h.meetings_around, hwhole, List.cons_append]
      | leave node => exact absurd hevent (here.event?_ne_leave node)
      | visit | mention =>
          refine ⟨hall, fun rest ↦ ?_, fun hrest ↦ h.closed_append hrest⟩
          exact congrArg _ (h.meetings_append rest)

theorem nil : Walked around [] [] := Walks.nil

theorem append {first second : List Construct} {events others : List Event}
    (hfirst : Walked around first events) (hsecond : Walked around second others) :
    Walked around (first ++ second) (events ++ others) := by
  unfold Walked
  rw [List.map_append]
  exact Walks.append hfirst hsecond

theorem flatMap {α : Type} {construct : α → Construct} {events : α → List Event}
    (h : ∀ item, Walked around [construct item] (events item)) (items : List α) :
    Walked around (items.map construct) (items.flatMap events) := by
  unfold Walked
  rw [List.map_map]
  exact Walks.flatMap h items

theorem of_type (it : TypeExpr) : Walked around [.type it] it.events := by
  induction it with
  | named name required =>
      exact .single (.type (.named name required)) (.single (.namedType name) nil)
  | list item required ih => exact .single (.type (.list item required)) ih

mutual
theorem of_value (around : List Node) (it : Value) : Walked around [.value it] it.events := by
  cases it with
  | list span items => exact .single (.value (.list span items)) (of_items _ items)
  | object span fields => exact .single (.value (.object span fields)) (of_fields _ fields)
  | var span name => exact .single (.value (.var span name)) nil
  | enum name => exact .single (.value (.enum name)) nil
  | int span text => exact .single (.value (.int span text)) nil
  | float span text => exact .single (.value (.float span text)) nil
  | string span text => exact .single (.value (.string span text)) nil
  | boolean span value => exact .single (.value (.boolean span value)) nil
  | null span => exact .single (.value (.null span)) nil

theorem of_items (around : List Node) (items : List Value) :
    Walked around (items.map .value) (eventsOfItems items) := by
  cases items with
  | nil => exact nil
  | cons item rest => exact (of_value around item).append (of_items around rest)

theorem of_objectField (around : List Node) (it : ObjectField) :
    Walked around [.objectField it] it.events := by
  obtain ⟨span, name, value⟩ := it
  cases value with
  | none => exact .single (.objectField ⟨span, name, none⟩) nil
  | some value => exact .single (.objectField ⟨span, name, some value⟩) (of_value _ value)

theorem of_fields (around : List Node) (fields : List ObjectField) :
    Walked around (fields.map .objectField) (eventsOfFields fields) := by
  cases fields with
  | nil => exact nil
  | cons field rest => exact (of_objectField around field).append (of_fields around rest)
end

theorem of_optional (value : Option Value) :
    Walked around (value.toList.map .value) (eventsOfOptional value) := by
  cases value with
  | none => exact nil
  | some value => exact of_value around value

theorem of_argument (it : Argument) : Walked around [.argument it] it.events :=
  .single (.argument it) (of_optional it.value)

theorem of_directive (it : Directive) : Walked around [.directive it] it.events :=
  .single (.directive it) (flatMap of_argument it.arguments)

theorem of_directives (directives : List Directive) :
    Walked around (directives.map .directive) (directives.flatMap Directive.events) :=
  flatMap of_directive directives

theorem of_condition (condition : Option Name) :
    Walked around (condition.toList.map .namedType) (eventsOfCondition condition) := by
  cases condition with
  | none => exact nil
  | some name => exact .single (.namedType name) nil

mutual
theorem of_field (around : List Node) (it : Field) :
    Walked around [.selection (.field it)] it.events := by
  obtain ⟨span, aliasName, name, arguments, directives, selections⟩ := it
  have hparts (inner : List Node) : Walked inner _ _ :=
    (flatMap of_argument arguments).append (of_directives directives)
  cases selections with
  | none =>
      have hall (inner : List Node) :
          Walked inner (arguments.map .argument ++ directives.map .directive ++ [])
            (arguments.flatMap Argument.events ++ directives.flatMap Directive.events) := by
        rw [List.append_nil]
        exact hparts inner
      exact .single
        (.selection (.field ⟨span, aliasName, name, arguments, directives, none⟩))
        (hall _)
  | some selections =>
      have hall (inner : List Node) := (hparts inner).append (of_selectionSet inner selections)
      exact .single
        (.selection (.field ⟨span, aliasName, name, arguments, directives, some selections⟩))
        (hall _)

theorem of_inlineFragment (around : List Node) (it : InlineFragment) :
    Walked around [.selection (.inline it)] it.events := by
  obtain ⟨span, condition, directives, selections⟩ := it
  have hparts (inner : List Node) : Walked inner _ _ :=
    (of_condition condition).append (of_directives directives)
  have hall (inner : List Node) := (hparts inner).append (of_selectionSet inner selections)
  exact .single (.selection (.inline ⟨span, condition, directives, selections⟩)) (hall _)

theorem of_selectionSet (around : List Node) (it : SelectionSet) :
    Walked around [.selectionSet it] it.events := by
  obtain ⟨span, items⟩ := it
  exact .single (.selectionSet ⟨span, items⟩) (of_selections _ items)

theorem of_selection (around : List Node) (it : Selection) :
    Walked around [.selection it] it.events := by
  cases it with
  | field it => exact of_field around it
  | inline it => exact of_inlineFragment around it
  | spread span name directives =>
      exact .single (.selection (.spread span name directives)) (of_directives directives)

theorem of_selections (around : List Node) (items : List Selection) :
    Walked around (items.map .selection) (eventsOfSelections items) := by
  cases items with
  | nil => exact nil
  | cons item rest => exact (of_selection around item).append (of_selections around rest)
end

theorem of_variableDefinition (it : VariableDefinition) :
    Walked around [.variableDefinition it] it.events := by
  have hname (inner : List Node) : Walked inner _ _ := .single (.declared it.name) nil
  have hparts (inner : List Node) : Walked inner _ _ :=
    (of_optional it.default).append (of_directives it.directives)
  have hall (inner : List Node) := (hname inner).append ((of_type it.type).append (hparts inner))
  exact .single (.variableDefinition it) (hall _)

theorem of_operation (it : Operation) : Walked around [.definition (.operation it)] it.events := by
  have hparts (inner : List Node) : Walked inner _ _ :=
    (flatMap of_variableDefinition it.variableDefinitions).append (of_directives it.directives)
  have hall (inner : List Node) := (hparts inner).append (of_selectionSet inner it.selections)
  exact .single (.definition (.operation it)) (hall _)

theorem of_fragment (it : Fragment) : Walked around [.definition (.fragment it)] it.events := by
  have hcondition (inner : List Node) : Walked inner _ _ := .single (.namedType it.condition) nil
  have hparts (inner : List Node) :=
    (of_directives it.directives).append (of_selectionSet inner it.selections)
  have hall (inner : List Node) := (hcondition inner).append (hparts inner)
  exact .single (.definition (.fragment it)) (hall _)

/-- In a row of definitions only the operations and fragments are walked. -/
theorem of_definitions (definitions : List Definition) :
    Walked around ((definitions.filter Definition.isExecutable).map .definition)
      (definitions.flatMap Definition.events) := by
  induction definitions with
  | nil => exact nil
  | cons definition rest ih =>
      cases definition with
      | operation it => exact (of_operation it).append ih
      | fragment it => exact (of_fragment it).append ih
      | schema | directive | type | extendSchema | extendType => exact ih

end Walked

end Construct

theorem Definition.walks (around : List Node) (it : Definition) :
    Walks around [it.meeting around] it.events := by
  cases it with
  | operation it => exact Construct.Walked.of_operation it
  | fragment it => exact Construct.Walked.of_fragment it
  | schema | directive | type | extendSchema | extendType => exact .nothing

namespace Document

variable (document : Document)

theorem walks_definitions :
    Walks [.document document] (document.definitions.map (Definition.meeting [.document document]))
      (document.definitions.flatMap Definition.events) :=
  .flatMap (Definition.walks [.document document]) document.definitions

theorem meetings_events : Event.meetings [] document.events =
    ⟨[], .enter (.document document)⟩ ::
      Event.meetings [.document document] (document.definitions.flatMap Definition.events) := by
  have hmeetings := document.walks_definitions.meetings_around []
  rwa [List.append_nil, Event.meetings, List.append_nil] at hmeetings

theorem enumerates_meetings :
    Enumerates document.meeting (Event.meetings [] document.events) := by
  have hbelow (index : Nat) (place : Place) : document.meeting (index :: place) =
      meetingIn (document.definitions.map (Definition.meeting [.document document]))
        (index :: place) := by
    rw [meeting, meetingIn, List.getElem?_map, Option.bind_map]
    rfl
  rw [meetings_events]
  exact document.walks_definitions.enumerates.cons hbelow

theorem closed_events : Event.Closed [] document.events := by
  have hclosed : Event.Closed [] (_ ++ []) := document.walks_definitions.closed_around rfl
  rwa [List.append_nil] at hclosed

end Document

end QueryLint.Language
