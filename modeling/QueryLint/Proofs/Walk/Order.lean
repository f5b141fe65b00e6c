import QueryLint.Proofs.Grammar.Document
import QueryLint.Proofs.Walk.Enumeration
import QueryLint.Proofs.Walk.Layout

/-!
# Walks go along the text

Main statement: `Document.events_enumerate`. A walk meets all that has an event in an operation or a
fragment, each once and in the order of the places, and it leaves what it enters in the opposite
order. In a document that is read from a text, this is the order in which it stands there.

The places order what is met by the grammar. That this is the order of the ranges too follows for
constructs that are laid out (`LaidOut.precedes`), and reading a text lays them out.
-/

namespace QueryLint

open QueryLint.Language

/-- The range of what an event tells of. -/
def Event.span : Event → Span
  | enter node | leave node | visit node => node.span
  | mention name => name.span

namespace Language

/-- What is met first ends before the other begins, or contains it. -/
def Meeting.Precedes (first second : Meeting) : Prop :=
  first.event.span.stop ≤ second.event.span.start ∨
    first.event.span.start ≤ second.event.span.start ∧
      second.event.span.stop ≤ first.event.span.stop

theorem Construct.span?_of_event? {here : Construct} {event : Event}
    (h : here.event? = some event) : here.span? = some event.span := by
  cases here with
  | definition it => cases it <;> cases h <;> rfl
  | value it => cases it <;> cases h <;> rfl
  | selection it => cases it <;> cases h <;> rfl
  | _ => cases h <;> rfl

/-- What a meeting tells of lies in the range from `start` to `stop`. -/
def Meeting.Within (start stop : Nat) (meeting : Meeting) : Prop :=
  start ≤ meeting.event.span.start ∧ meeting.event.span.stop ≤ stop

/-- All that is met below constructs in a row lies in a range. -/
def MeetsWithin (start stop : Nat) (row : List Construct) : Prop :=
  ∀ around place meeting,
    meetingIn (row.map (Construct.meeting around)) place = some meeting → meeting.Within start stop

/-- What is met at a construct or below it lies in the range of the construct. -/
theorem Construct.within_of_meeting {here : Construct} {span : Span}
    (hspan : here.span? = some span) (hparts : MeetsWithin span.start span.stop here.parts)
    {around : List Node} {place : Place} {meeting : Meeting}
    (h : here.meeting around place = some meeting) : meeting.Within span.start span.stop := by
  cases place with
  | nil =>
      obtain ⟨event, hevent, rfl⟩ := Option.map_eq_some_iff.mp h
      rw [Construct.span?_of_event? hevent, Option.some_inj] at hspan
      subst hspan
      exact ⟨Nat.le_refl _, Nat.le_refl _⟩
  | cons index place =>
      rw [Construct.meeting_cons] at h
      exact hparts _ _ _ h

namespace LaidOut

variable {start stop : Nat} {row : List Construct}

theorem meetsWithin (h : LaidOut start stop row) : MeetsWithin start stop row := by
  induction h with
  | nil h =>
      intro around place meeting hmeeting
      cases place <;> cases hmeeting
  | @cons start stop span here rest hspan hstart hparts hrest ihparts ihrest =>
      intro around place meeting hmeeting
      match place, hmeeting with
      | 0 :: place, hmeeting =>
          obtain ⟨hbegin, hend⟩ := Construct.within_of_meeting hspan ihparts hmeeting
          exact ⟨Nat.le_trans hstart hbegin, Nat.le_trans hend hrest.le⟩
      | (index + 1) :: place, hmeeting =>
          obtain ⟨hbegin, hend⟩ := ihrest around (index :: place) meeting hmeeting
          exact ⟨Nat.le_trans hstart (Nat.le_trans hparts.le hbegin), hend⟩

/-- What is met at an earlier place precedes in the text. -/
theorem precedes (h : LaidOut start stop row) {around : List Node} {place later : Place}
    (hlt : place < later) {first second : Meeting}
    (hfirst : meetingIn (row.map (Construct.meeting around)) place = some first)
    (hsecond : meetingIn (row.map (Construct.meeting around)) later = some second) :
    first.Precedes second := by
  induction h generalizing around place later with
  | nil h => cases place <;> cases hfirst
  | @cons start stop span here rest hspan hstart hparts hrest ihparts ihrest =>
      match place, later, hlt, hfirst, hsecond with
      | 0 :: place, (index + 1) :: later, _, hfirst, hsecond =>
          have hend := (Construct.within_of_meeting hspan hparts.meetsWithin hfirst).2
          have hbegin := (hrest.meetsWithin around (index :: later) second hsecond).1
          exact .inl (Nat.le_trans hend hbegin)
      | (index + 1) :: place, (offset + 1) :: later, hlt, hfirst, hsecond =>
          have hlater : index :: place < offset :: later := by
            simpa [List.cons_lt_cons_iff] using hlt
          exact ihrest hlater hfirst hsecond
      | 0 :: [], 0 :: index :: later, _, hfirst, hsecond =>
          obtain ⟨event, hevent, rfl⟩ := Option.map_eq_some_iff.mp hfirst
          have hsame : span = event.span :=
            Option.some_inj.mp (hspan.symm.trans (Construct.span?_of_event? hevent))
          have hwithin := Construct.within_of_meeting hspan hparts.meetsWithin hsecond
          rw [hsame] at hwithin
          exact .inr hwithin
      | 0 :: index :: place, 0 :: offset :: later, hlt, hfirst, hsecond =>
          replace hfirst : here.meeting around (index :: place) = some first := hfirst
          replace hsecond : here.meeting around (offset :: later) = some second := hsecond
          rw [Construct.meeting_cons] at hfirst hsecond
          refine ihparts ?_ hfirst hsecond
          simpa using hlt
      | (_ + 1) :: _, 0 :: _, hlt, _, _ => simp [List.cons_lt_cons_iff] at hlt
      | 0 :: _ :: _, [0], hlt, _, _ => simp at hlt

end LaidOut

/-- A relation that goes along the order of places goes along an enumeration. -/
theorem Enumerates.pairwise {meeting : Place → Option Meeting} {found : List Meeting}
    (h : Enumerates meeting found) {relation : Meeting → Meeting → Prop}
    (hrelation : ∀ place later first second, place < later → meeting place = some first →
      meeting later = some second → relation first second) : found.Pairwise relation := by
  obtain ⟨places, hsorted, -, rfl⟩ := h
  rw [List.pairwise_filterMap]
  exact hsorted.imp fun hlt first hfirst second hsecond ↦
    hrelation _ _ first second hlt hfirst hsecond

namespace Document

theorem LaidOut.pairwise {document : Document} (h : document.LaidOut) :
    (Event.meetings [] document.events).Pairwise Meeting.Precedes := by
  have hwalks : Construct.Walked [.document document] _ _ := .of_definitions document.definitions
  rw [meetings_events, List.pairwise_cons]
  refine ⟨fun meeting hmeeting ↦ ?_, ?_⟩
  · obtain ⟨places, -, -, hfound⟩ := hwalks.enumerates
    rw [← hfound] at hmeeting
    obtain ⟨place, -, hplace⟩ := List.mem_filterMap.mp hmeeting
    exact .inr (Language.LaidOut.meetsWithin h _ place meeting hplace)
  · exact hwalks.enumerates.pairwise fun _ _ _ _ hlt ↦ Language.LaidOut.precedes h hlt

/-- The meetings of a walk are those at the places of the document: all that has an event in an
operation or a fragment, each once, with what is open around it, and in the order of the places.
What the walk enters it leaves in the opposite order. If the document has been read from a text,
what is met earlier stands there before what is met later, or around it. -/
theorem events_enumerate (document : Document) :
    Enumerates document.meeting (Event.meetings [] document.events) ∧
      Event.Closed [] document.events ∧
        ∀ text, read text = .ok document →
          (Event.meetings [] document.events).Pairwise Meeting.Precedes :=
  ⟨document.enumerates_meetings, document.closed_events, fun _ h ↦ (laidOut_of_read h).pairwise⟩

/-- In this text nothing is met of the type, and all else is met along the text. -/
theorem events_enumerate_query :
    let text := "scalar T @d query($v: [T] = [A]) @d \x7b a(x: \x7by: $v\x7d) ...F @e \x7d"
    let met (document : Document) := (Event.meetings [] document.events).map fun it ↦
      (it.event.span.start, it.event.span.stop)
    let ranges := [(0, 61), (12, 61), (18, 31), (19, 20), (23, 24), (28, 31), (29, 30), (33, 35),
      (36, 61), (38, 51), (40, 50), (44, 49), (48, 49), (52, 59), (57, 59)]
    ∃ document, read text = .ok document ∧ met document = ranges ∧
      (Event.meetings [] document.events).Pairwise Meeting.Precedes := by
  intro text met ranges
  have hmet : (read text).toOption.map met = some ranges := by decide +kernel
  cases hread : read text with
  | error =>
      rw [hread] at hmet
      cases hmet
  | ok document =>
      rw [hread] at hmet
      have halong := (events_enumerate document).2.2 text hread
      exact ⟨document, rfl, Option.some_inj.mp hmet, halong⟩

end Document

end Language

end QueryLint
