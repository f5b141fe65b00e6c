import QueryLint.Tracking.Tracker
import QueryLint.Walk.Event

/-!
# The sites of a document

A `Site` is a node with what is in force there. `Document.sites` lists the sites of a document in
the order of the walk: every node once, when it begins.
-/

namespace QueryLint

open QueryLint.Language

/-- A node of a document with what is in force there. -/
structure Site where
  node : Node
  context : Context

namespace Tracker

/-- The tracker after one event of a walk. -/
def step (schema : Schema) (tracker : Tracker) : Event → Tracker
  | .enter node => tracker.enter schema node
  | .leave node => tracker.leave node.kind
  | .visit node => (tracker.enter schema node).leave node.kind
  | .mention _ => tracker

/-- The tracker after some events of a walk. -/
def run (schema : Schema) (tracker : Tracker) (events : List Event) : Tracker :=
  events.foldl (step schema) tracker

/-- The sites that begin at one event of a walk. -/
def sitesAt (schema : Schema) (tracker : Tracker) (event : Event) : List Site :=
  event.begins?.toList.map fun node ↦ ⟨node, (tracker.enter schema node).context⟩

/-- The sites of a walk. -/
def sites (schema : Schema) (tracker : Tracker) : List Event → List Site
  | [] => []
  | event :: rest => tracker.sitesAt schema event ++ sites schema (tracker.step schema event) rest

/-- The sites of two walks in a row. -/
theorem sites_append (schema : Schema) (tracker : Tracker) (first second : List Event) :
    tracker.sites schema (first ++ second) =
      tracker.sites schema first ++ (tracker.run schema first).sites schema second := by
  induction first generalizing tracker with
  | nil => simp [sites, run]
  | cons event rest ih => simp [sites, ih, run]

/-- Two walks in a row. -/
theorem run_append (schema : Schema) (tracker : Tracker) (first second : List Event) :
    tracker.run schema (first ++ second) = (tracker.run schema first).run schema second := by
  simp [run]

end Tracker

/-- The sites of a document in the order of the walk. -/
def Language.Document.sites (schema : Schema) (document : Document) : List Site :=
  Tracker.start.sites schema document.events

end QueryLint
