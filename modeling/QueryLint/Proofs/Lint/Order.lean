import QueryLint.Proofs.Lint.Growth
import QueryLint.Proofs.Walk.Order

/-!
# Diagnostics along the text

Main statement: `Linter.check_along_text`. Every diagnostic is about one node, and along a list of
diagnostics no node begins before the one of an earlier diagnostic.

A handler is asked about a node when a walk comes to it. In a document that is laid out, walks come
to nodes in the order in which these begin (`Document.LaidOut.pairwise_sites`).
-/

namespace QueryLint

open QueryLint.Language

/-- What begins in a walk is what its meetings begin. -/
theorem Event.filterMap_begins?_meetings (around : List Node) (events : List Event) :
    (meetings around events).filterMap (·.event.begins?) = events.filterMap begins? := by
  induction events generalizing around with
  | nil => rfl
  | cons event rest ih =>
      cases event with
      | enter node | visit node => exact congrArg (List.cons node) (ih _)
      | leave | mention => exact ih _

theorem Event.span_of_begins? {event : Event} {node : Node} (h : event.begins? = some node) :
    event.span = node.span := by
  cases event <;> cases h <;> rfl

namespace Language

/-! ## Where meetings begin -/

/-- What is met in constructs that are laid out does not end before it begins. -/
theorem LaidOut.start_le_stop {start stop : Nat} {row : List Construct}
    (h : LaidOut start stop row) {around : List Node} {place : Place} {meeting : Meeting}
    (hmeeting : meetingIn (row.map (Construct.meeting around)) place = some meeting) :
    meeting.event.span.start ≤ meeting.event.span.stop := by
  induction h generalizing around place with
  | nil h => cases place <;> cases hmeeting
  | @cons start stop span here rest hspan _ hparts _ ihparts ihrest =>
      match place, hmeeting with
      | [0], hmeeting =>
          obtain ⟨event, hevent, rfl⟩ := Option.map_eq_some_iff.mp hmeeting
          have hsame := hspan.symm.trans (Construct.span?_of_event? hevent)
          rw [← Option.some_inj.mp hsame]
          exact hparts.le
      | 0 :: index :: place, hmeeting =>
          replace hmeeting : here.meeting around (index :: place) = some meeting := hmeeting
          rw [Construct.meeting_cons] at hmeeting
          exact ihparts hmeeting
      | (index + 1) :: place, hmeeting => exact @ihrest around (index :: place) hmeeting

/-- What is met first begins first, if it does not end before it begins. -/
theorem Meeting.Precedes.start_le {first second : Meeting} (h : first.Precedes second)
    (hfirst : first.event.span.start ≤ first.event.span.stop) :
    first.event.span.start ≤ second.event.span.start := by
  rcases h with hbefore | ⟨hinside, -⟩
  · exact Nat.le_trans hfirst hbefore
  · exact hinside

namespace Document

variable {document : Document}

theorem LaidOut.start_le_stop_of_mem (h : document.LaidOut) {meeting : Meeting}
    (hmeeting : meeting ∈ Event.meetings [] document.events) :
    meeting.event.span.start ≤ meeting.event.span.stop := by
  have hwalks : Construct.Walked [.document document] _ _ := .of_definitions document.definitions
  rw [meetings_events, List.mem_cons] at hmeeting
  rcases hmeeting with rfl | hmeeting
  · exact Language.LaidOut.le h
  · obtain ⟨places, -, -, hfound⟩ := hwalks.enumerates
    rw [← hfound] at hmeeting
    obtain ⟨place, -, hplace⟩ := List.mem_filterMap.mp hmeeting
    exact Language.LaidOut.start_le_stop h hplace

/-- The sites of a document that is laid out begin one after the other or at the same place. -/
theorem LaidOut.pairwise_sites (h : document.LaidOut) (schema : Schema) :
    (document.sites schema).Pairwise fun first second ↦
      first.node.span.start ≤ second.node.span.start := by
  have hmeetings : (Event.meetings [] document.events).Pairwise fun first second ↦
      first.event.span.start ≤ second.event.span.start :=
    h.pairwise.imp_of_mem fun hfirst _ hprecedes ↦
      hprecedes.start_le (h.start_le_stop_of_mem hfirst)
  have hnodes : (document.sites schema).map Site.node =
      (Event.meetings [] document.events).filterMap (·.event.begins?) := by
    rw [Event.filterMap_begins?_meetings]
    exact Tracker.start.map_node_sites schema document.events
  rw [← List.pairwise_map (f := Site.node)
    (R := fun first second ↦ first.span.start ≤ second.span.start), hnodes,
    List.pairwise_filterMap]
  refine hmeetings.imp ?_
  intro first second hle node hnode other hother
  rwa [← Event.span_of_begins? hnode, ← Event.span_of_begins? hother]

end Document

end Language

/-! ## Diagnostics -/

namespace Linter

/-- What is found at a site is about its node. -/
theorem nodes_of_mem_checkSite {linter : Linter} {site : Site} {diagnostic : Diagnostic}
    (h : diagnostic ∈ linter.checkSite site) : diagnostic.nodes = [site.node.toRef] := by
  rw [checkSite_eq_flatMap_check] at h
  obtain ⟨active, -, h⟩ := List.mem_flatMap.mp h
  obtain ⟨message, -, rfl⟩ := List.mem_map.mp h
  rfl

/-- Every diagnostic is about one node. In a document that is laid out, so in every document that is
read from a text, the nodes of diagnostics begin one after the other or at the same place, whatever
rules there are and however often. -/
theorem check_along_text (linter : Linter) (schema : Schema) (document : Document) :
    (∀ diagnostic ∈ linter.check schema document, ∃ node, diagnostic.nodes = [node]) ∧
      (document.LaidOut →
        ((linter.check schema document).flatMap (·.nodes)).Pairwise fun first second ↦
          first.span.start ≤ second.span.start) ∧
      ∀ text, Document.read text = .ok document → document.LaidOut := by
  have hcheck : linter.check schema document =
      (document.sites schema).flatMap linter.checkSite := rfl
  refine ⟨?_, ?_, ?_⟩
  · intro diagnostic h
    rw [hcheck] at h
    obtain ⟨site, -, h⟩ := List.mem_flatMap.mp h
    exact ⟨site.node.toRef, nodes_of_mem_checkSite h⟩
  · intro h
    have hnode {site : Site} {node : NodeRef}
        (h : node ∈ (linter.checkSite site).flatMap (·.nodes)) : node = site.node.toRef := by
      obtain ⟨diagnostic, hmem, h⟩ := List.mem_flatMap.mp h
      rw [nodes_of_mem_checkSite hmem] at h
      exact List.mem_singleton.mp h
    rw [hcheck, List.flatMap_assoc, List.pairwise_flatMap]
    refine ⟨?_, ?_⟩
    · intro site _
      refine List.pairwise_of_forall_mem_list ?_
      intro first hfirst second hsecond
      rw [hnode hfirst, hnode hsecond]
    · refine (h.pairwise_sites schema).imp ?_
      intro site later hle first hfirst second hsecond
      rw [hnode hfirst, hnode hsecond]
      exact hle
  · intro text hread
    exact Document.laidOut_of_read hread

/-- All rules of the catalogue, one of them twice, and a selection set that stands alone. -/
theorem check_along_text_repeated :
    let linter : Linter := ⟨[⟨Rules.noDeprecated, .warning⟩, ⟨Rules.requiredFields ["id"], .error⟩,
      ⟨Rules.typeNames, .info⟩, ⟨Rules.operationNames, .error⟩, ⟨Rules.noDeprecated, .error⟩]⟩
    let schema := Schema.ofText "type Query \x7b id: ID old: Query @deprecated \x7d"
    let text := "\x7b old \x7b x: old \x7d ... on query \x7b old \x7d \x7d " ++
      "fragment F on Query \x7b old \x7d"
    let document := Document.ofText text
    let nodes := (linter.check schema document).flatMap (·.nodes)
    document.LaidOut ∧ nodes.map (·.span.start) = [0, 2, 2, 2, 8, 8, 8, 24, 40, 62, 62, 62] ∧
      nodes.Pairwise fun first second ↦ first.span.start ≤ second.span.start := by
  intro linter schema text document nodes
  obtain ⟨found, hfound⟩ : ∃ found, (Document.read text).toOption = some found :=
    Option.isSome_iff_exists.mp (by decide +kernel)
  have hdocument : Document.read text = .ok document := by
    show _ = Except.ok ((Document.read text).toOption.getD ⟨default, []⟩)
    rw [hfound]
    exact toOption_eq_some_iff.mp hfound
  obtain ⟨-, halong, hread⟩ := check_along_text linter schema document
  have hlaid := hread text hdocument
  exact ⟨hlaid, by decide +kernel, halong hlaid⟩

end Linter

end QueryLint
