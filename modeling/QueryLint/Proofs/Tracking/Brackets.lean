import QueryLint.Proofs.Tracking.Calls

/-!
# Bracketed calls

Calls are bracketed if every node that begins also ends, after the nodes that began in it. Main
statements: bracketed calls leave the stacks of a tracker as they were (`Bracketed.sameStacks`), and
while they are made the stacks never get below where they were (`Bracketed.standsOn`).

The directive and the enum value in force are not on stacks, so bracketed calls can lose them.
-/

namespace QueryLint

/-- Every node that begins ends, after the nodes that began in it. -/
inductive Bracketed : List Call → Prop
  | nil : Bracketed []
  | around (opening : Opening) {parts : List Call} (hparts : Bracketed parts) :
      Bracketed (Call.around opening parts)
  | append {first second : List Call} (hfirst : Bracketed first) (hsecond : Bracketed second) :
      Bracketed (first ++ second)

namespace Tracker

/-- The stacks of the two trackers are the same. -/
structure SameStacks (tracker other : Tracker) : Prop where
  types : tracker.types = other.types
  parents : tracker.parents = other.parents
  fields : tracker.fields = other.fields
  inputs : tracker.inputs = other.inputs

/-- The stacks of the second tracker are at the bottom of those of the first. -/
structure StandsOn (tracker base : Tracker) : Prop where
  types : base.types <:+ tracker.types
  parents : base.parents <:+ tracker.parents
  fields : base.fields <:+ tracker.fields
  inputs : base.inputs <:+ tracker.inputs

variable {schema : Schema} {tracker other base : Tracker}

theorem SameStacks.refl (tracker : Tracker) : tracker.SameStacks tracker := ⟨rfl, rfl, rfl, rfl⟩

theorem SameStacks.trans {last : Tracker} (h : tracker.SameStacks other)
    (hlast : other.SameStacks last) : tracker.SameStacks last :=
  ⟨h.types.trans hlast.types, h.parents.trans hlast.parents, h.fields.trans hlast.fields,
    h.inputs.trans hlast.inputs⟩

/-- What leaving does to the stacks depends on the stacks alone. -/
theorem SameStacks.leave (h : tracker.SameStacks other) (kind : NodeKind) :
    (tracker.leave kind).SameStacks (other.leave kind) := by
  cases kind with
  | operation | fragment | inlineFragment => exact { h with types := congrArg List.tail h.types }
  | selectionSet => exact { h with parents := congrArg List.tail h.parents }
  | field =>
      exact { h with
        fields := congrArg List.tail h.fields
        types := congrArg List.tail h.types }
  | variableDefinition | argument | list | objectField =>
      exact { h with inputs := congrArg List.tail h.inputs }
  | directive | enumValue | document | spread | namedType => exact { h with }

/-- Leaving a node takes off what entering it put on. -/
theorem sameStacks_leave_opened (schema : Schema) (tracker : Tracker) (opening : Opening) :
    ((tracker.opened schema opening).leave opening.kind).SameStacks tracker := by
  cases opening <;> exact ⟨rfl, rfl, rfl, rfl⟩

theorem SameStacks.standsOn (h : tracker.SameStacks base) : tracker.StandsOn base :=
  ⟨h.types ▸ List.suffix_rfl, h.parents ▸ List.suffix_rfl, h.fields ▸ List.suffix_rfl,
    h.inputs ▸ List.suffix_rfl⟩

theorem StandsOn.trans (h : tracker.StandsOn other) (hbase : other.StandsOn base) :
    tracker.StandsOn base :=
  ⟨hbase.types.trans h.types, hbase.parents.trans h.parents, hbase.fields.trans h.fields,
    hbase.inputs.trans h.inputs⟩

/-- Entering a node takes nothing off. -/
theorem standsOn_opened (schema : Schema) (tracker : Tracker) (opening : Opening) :
    (tracker.opened schema opening).StandsOn tracker := by
  have hkeep {α : Type} (stack : List α) : stack <:+ stack := List.suffix_rfl
  have hpush {α : Type} (top : α) (stack : List α) : stack <:+ top :: stack :=
    List.suffix_cons top stack
  cases opening with
  | operation | fragment | inlineFragment => exact ⟨hpush _ _, hkeep _, hkeep _, hkeep _⟩
  | selectionSet => exact ⟨hkeep _, hpush _ _, hkeep _, hkeep _⟩
  | field => exact ⟨hpush _ _, hkeep _, hpush _ _, hkeep _⟩
  | variableDefinition | argument | list | objectField =>
      exact ⟨hkeep _, hkeep _, hkeep _, hpush _ _⟩
  | directive | enumValue => exact ⟨hkeep _, hkeep _, hkeep _, hkeep _⟩

end Tracker

namespace Bracketed

/-- Bracketed calls leave the stacks as they were. -/
theorem sameStacks {calls : List Call} (h : Bracketed calls) (schema : Schema)
    (tracker : Tracker) : (tracker.after schema calls).SameStacks tracker := by
  induction h generalizing tracker with
  | nil => exact .refl tracker
  | around opening _ ih =>
      rw [Tracker.after_around]
      have hinside := (ih (tracker.opened schema opening)).leave opening.kind
      exact hinside.trans (Tracker.sameStacks_leave_opened schema tracker opening)
  | append _ _ ihfirst ihsecond =>
      rw [Tracker.after_append]
      exact (ihsecond (tracker.after schema _)).trans (ihfirst tracker)

/-- While bracketed calls are made, all that was on the stacks stays on them. -/
theorem standsOn {calls : List Call} (h : Bracketed calls) (schema : Schema) (tracker : Tracker)
    {made : List Call} (hmade : made <+: calls) :
    (tracker.after schema made).StandsOn tracker := by
  induction h generalizing tracker made with
  | nil =>
      rw [List.prefix_nil.mp hmade]
      exact (Tracker.SameStacks.refl tracker).standsOn
  | @around opening parts hparts ih =>
      -- The node has not begun, or is open, or has ended.
      rcases List.prefix_cons_iff.mp hmade with rfl | ⟨inside, rfl, hinside⟩
      · exact (Tracker.SameStacks.refl tracker).standsOn
      · rcases List.prefix_concat_iff.mp hinside with rfl | hopen
        · exact ((hparts.around opening).sameStacks schema tracker).standsOn
        · exact (ih (tracker.opened schema opening) hopen).trans
            (Tracker.standsOn_opened schema tracker opening)
  | @append first second hfirst _ ihfirst ihsecond =>
      have hfirstMade := List.prefix_append first second
      rcases List.prefix_or_prefix_of_prefix hmade hfirstMade with hearly | ⟨late, rfl⟩
      · exact ihfirst tracker hearly
      · have hlate := (List.prefix_append_right_inj first).mp hmade
        rw [Tracker.after_append]
        exact (ihsecond (tracker.after schema first) hlate).trans
          (hfirst.sameStacks schema tracker).standsOn

end Bracketed

end QueryLint
