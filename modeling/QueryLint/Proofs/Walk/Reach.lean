import Mathlib.Logic.Relation
import QueryLint.Proofs.Walk.Requests

/-!
# How far a request reaches

Main statement: `SelectionSet.requests_within_one`. A selection set requests the fields to which one
comes through at most one inline fragment. So the order of selections makes no difference, nor do
fragment spreads, nor what stands in the inline fragments of inline fragments, and what is requested
stays so where selections are added.

`Edited` relates selections before and after a change that can be made in the set or in inline
fragments at any depth. It keeps the names of fields, which is all that a request sees of them. What
one selection adds to the reach of those around it is `Selection.Contributes`.
-/

namespace QueryLint.Language

/-- From the first selections one comes to the second ones through this many inline fragments, each
directly in the one before. -/
inductive Descends : Nat → List Selection → List Selection → Prop
  | here (items : List Selection) : Descends 0 items items
  | into {count : Nat} {items inner : List Selection} {fragment : InlineFragment}
      (hmem : .inline fragment ∈ items)
      (hinside : Descends count fragment.selections.items inner) : Descends (count + 1) items inner

/-- A field of this name is among selections to which one comes through at most `bound` inline
fragments. -/
def ReachesWithin (bound : Nat) (items : List Selection) (name : String) : Prop :=
  ∃ count ≤ bound, ∃ inner, Descends count items inner ∧ Selects inner name

/-- The selection is a field of this name, or an inline fragment through which one comes to one. -/
def Selection.Contributes (bound : Nat) (name : String) : Selection → Prop
  | .field it => it.name.text = name
  | .inline it => ∃ less, bound = less + 1 ∧ ReachesWithin less it.selections.items name
  | .spread _ _ _ => False

/-- What can be reached is what the selections contribute, each for itself. -/
theorem reachesWithin_iff {bound : Nat} {items : List Selection} {name : String} :
    ReachesWithin bound items name ↔ ∃ item ∈ items, item.Contributes bound name := by
  constructor
  · rintro ⟨count, hcount, inner, hdescends, hselects⟩
    cases hdescends with
    | here =>
        obtain ⟨field, hmem, hname⟩ := hselects
        exact ⟨.field field, hmem, hname⟩
    | @into count _ _ fragment hmem hinside =>
        obtain ⟨less, rfl⟩ := Nat.exists_eq_add_of_le' (Nat.one_le_of_lt hcount)
        exact ⟨.inline fragment, hmem, less, rfl, count, Nat.le_of_succ_le_succ hcount, inner,
          hinside, hselects⟩
  · rintro ⟨item, hmem, hitem⟩
    cases item with
    | field field => exact ⟨0, Nat.zero_le bound, items, .here items, field, hmem, hitem⟩
    | inline fragment =>
        obtain ⟨less, rfl, count, hcount, inner, hinside, hselects⟩ := hitem
        exact ⟨count + 1, Nat.succ_le_succ hcount, inner, .into hmem hinside, hselects⟩
    | spread span target directives => exact hitem.elim

theorem reachesWithin_cons {bound : Nat} {item : Selection} {items : List Selection}
    {name : String} :
    ReachesWithin bound (item :: items) name ↔
      item.Contributes bound name ∨ ReachesWithin bound items name := by
  simp only [reachesWithin_iff, List.mem_cons, or_and_right, exists_or, exists_eq_left]

theorem not_reachesWithin_nil (bound : Nat) (name : String) : ¬ ReachesWithin bound [] name := by
  simp [reachesWithin_iff]

/-- A selection set reaches a field exactly if one comes to it through at most one inline fragment. -/
theorem SelectionSet.reaches_iff_reachesWithin (set : SelectionSet) (name : String) :
    set.Reaches name ↔ ReachesWithin 1 set.items name := by
  rw [reachesWithin_iff]
  constructor
  · rintro (⟨field, hmem, hname⟩ | ⟨fragment, hmem, hselects⟩)
    · exact ⟨.field field, hmem, hname⟩
    · exact ⟨.inline fragment, hmem, 0, rfl, 0, Nat.le_refl 0, _, .here _, hselects⟩
  · rintro ⟨item, hmem, hitem⟩
    cases item with
    | field field => exact .inl ⟨field, hmem, hitem⟩
    | inline fragment =>
        obtain ⟨less, hless, count, hcount, inner, hinside, hselects⟩ := hitem
        obtain rfl : less = 0 := (Nat.succ.inj hless).symm
        cases hinside with
        | here => exact .inr ⟨fragment, hmem, hselects⟩
        | into => exact absurd hcount (Nat.not_succ_le_zero _)
    | spread span target directives => exact hitem.elim

theorem isRequested_eq_true_iff (set : SelectionSet) (name : String) :
    isRequested (some set) name = true ↔ ReachesWithin 1 set.items name :=
  (set.requests_iff_reaches name).trans (set.reaches_iff_reachesWithin name)

/-! ## Changes to selections -/

/-- The second selections come from the first ones by steps, in the selections themselves or in
inline fragments at any depth. Besides, fields keep no more than their names, and inline fragments
and fragment spreads no more than their places. -/
inductive Edited (step : List Selection → List Selection → Prop) :
    List Selection → List Selection → Prop
  | nil : Edited step [] []
  | field {it other : Field} {items others : List Selection}
      (hname : it.name.text = other.name.text) (hrest : Edited step items others) :
      Edited step (.field it :: items) (.field other :: others)
  | inline {it other : InlineFragment} {items others : List Selection}
      (hinside : Edited step it.selections.items other.selections.items)
      (hrest : Edited step items others) :
      Edited step (.inline it :: items) (.inline other :: others)
  | spread {span otherSpan : Span} {name other : Name} {directives otherDirectives : List Directive}
      {items others : List Selection} (hrest : Edited step items others) :
      Edited step (.spread span name directives :: items)
        (.spread otherSpan other otherDirectives :: others)
  | edit {items others : List Selection} (hstep : step items others) : Edited step items others

/-- The second selections are the first ones without the fragment spread in front. -/
def OmitsSpread (items others : List Selection) : Prop :=
  ∃ span name directives, items = .spread span name directives :: others

/-- The second selections are the first ones with one more in front. -/
def AddsSelection (items others : List Selection) : Prop :=
  ∃ item, others = item :: items

/-- The two agree but for what stands in inline fragments that are nested deeper than `depth`. Of
fields the names agree, of inline fragments and fragment spreads the places. -/
inductive AgreesTo : Nat → List Selection → List Selection → Prop
  | nil {depth : Nat} : AgreesTo depth [] []
  | field {depth : Nat} {it other : Field} {items others : List Selection}
      (hname : it.name.text = other.name.text) (hrest : AgreesTo depth items others) :
      AgreesTo depth (.field it :: items) (.field other :: others)
  | inline {depth : Nat} {it other : InlineFragment} {items others : List Selection}
      (hinside : AgreesTo depth it.selections.items other.selections.items)
      (hrest : AgreesTo (depth + 1) items others) :
      AgreesTo (depth + 1) (.inline it :: items) (.inline other :: others)
  | deeper {it other : InlineFragment} {items others : List Selection}
      (hrest : AgreesTo 0 items others) :
      AgreesTo 0 (.inline it :: items) (.inline other :: others)
  | spread {depth : Nat} {span otherSpan : Span} {name other : Name}
      {directives otherDirectives : List Directive} {items others : List Selection}
      (hrest : AgreesTo depth items others) :
      AgreesTo depth (.spread span name directives :: items)
        (.spread otherSpan other otherDirectives :: others)

section

variable {step : List Selection → List Selection → Prop} {items others : List Selection}
  {bound : Nat} {name : String}

/-- A change can be taken back by the steps taken back. -/
theorem Edited.flip (h : Edited step items others) : Edited (flip step) others items := by
  induction h with
  | nil => exact .nil
  | field hname _ ihrest => exact .field hname.symm ihrest
  | inline _ _ ihinside ihrest => exact .inline ihinside ihrest
  | spread _ ihrest => exact .spread ihrest
  | edit hstep => exact .edit hstep

/-- A change keeps in reach what its steps keep in reach. -/
theorem Edited.reachesWithin
    (hstep : ∀ items others, step items others → ∀ bound, ReachesWithin bound items name →
      ReachesWithin bound others name)
    (h : Edited step items others) (hreach : ReachesWithin bound items name) :
    ReachesWithin bound others name := by
  induction h generalizing bound with
  | nil => exact hreach
  | field hname _ ihrest =>
      refine reachesWithin_cons.mpr ((reachesWithin_cons.mp hreach).imp ?_ ihrest)
      exact fun hfield ↦ hname.symm.trans hfield
  | inline _ _ ihinside ihrest =>
      refine reachesWithin_cons.mpr ((reachesWithin_cons.mp hreach).imp ?_ ihrest)
      rintro ⟨less, hless, hinside⟩
      exact ⟨less, hless, ihinside hinside⟩
  | spread _ ihrest => exact reachesWithin_cons.mpr ((reachesWithin_cons.mp hreach).imp id ihrest)
  | edit hedit => exact hstep _ _ hedit bound hreach

/-- Any number of changes keep in reach what the steps keep in reach. -/
theorem reachesWithin_of_edits
    (hstep : ∀ items others, step items others → ∀ bound, ReachesWithin bound items name →
      ReachesWithin bound others name)
    (h : Relation.ReflTransGen (Edited step) items others)
    (hreach : ReachesWithin bound items name) : ReachesWithin bound others name := by
  induction h with
  | refl => exact hreach
  | tail _ hedited ih => exact hedited.reachesWithin hstep ih

/-- Changes whose steps make no difference make none. -/
theorem reachesWithin_iff_of_edits
    (hstep : ∀ items others, step items others → ∀ bound, ReachesWithin bound items name ↔
      ReachesWithin bound others name)
    (h : Relation.ReflTransGen (Edited step) items others) :
    ReachesWithin bound items name ↔ ReachesWithin bound others name := by
  constructor
  · exact reachesWithin_of_edits (fun _ _ hedit bound ↦ (hstep _ _ hedit bound).mp) h
  · have hback : Relation.ReflTransGen (Edited (flip step)) others items :=
      Relation.ReflTransGen.mono (fun _ _ ↦ Edited.flip) _ _ (Relation.reflTransGen_swap.mpr h)
    exact reachesWithin_of_edits (fun _ _ hedit bound ↦ (hstep _ _ hedit bound).mpr) hback

theorem AgreesTo.symm {depth : Nat} (h : AgreesTo depth items others) :
    AgreesTo depth others items := by
  induction h with
  | nil => exact .nil
  | field hname _ ihrest => exact .field hname.symm ihrest
  | inline _ _ ihinside ihrest => exact .inline ihinside ihrest
  | deeper _ ihrest => exact .deeper ihrest
  | spread _ ihrest => exact .spread ihrest

/-- What is nested deeper than one can come makes no difference. -/
theorem AgreesTo.reachesWithin (h : AgreesTo bound items others)
    (hreach : ReachesWithin bound items name) : ReachesWithin bound others name := by
  induction h with
  | nil => exact hreach
  | field hname _ ihrest =>
      refine reachesWithin_cons.mpr ((reachesWithin_cons.mp hreach).imp ?_ ihrest)
      exact fun hfield ↦ hname.symm.trans hfield
  | inline _ _ ihinside ihrest =>
      refine reachesWithin_cons.mpr ((reachesWithin_cons.mp hreach).imp ?_ ihrest)
      rintro ⟨less, hless, hinside⟩
      cases hless
      exact ⟨_, rfl, ihinside hinside⟩
  | deeper _ ihrest =>
      refine reachesWithin_cons.mpr ((reachesWithin_cons.mp hreach).imp ?_ ihrest)
      rintro ⟨less, hless, -⟩
      cases hless
  | spread _ ihrest => exact reachesWithin_cons.mpr ((reachesWithin_cons.mp hreach).imp id ihrest)

/-! ## The steps of changes -/

theorem reachesWithin_iff_of_perm (h : items.Perm others) :
    ReachesWithin bound items name ↔ ReachesWithin bound others name := by
  simp only [reachesWithin_iff, h.mem_iff]

theorem OmitsSpread.reachesWithin_iff (h : OmitsSpread items others) :
    ReachesWithin bound items name ↔ ReachesWithin bound others name := by
  obtain ⟨span, target, directives, rfl⟩ := h
  exact reachesWithin_cons.trans (or_iff_right id)

theorem AddsSelection.reachesWithin (h : AddsSelection items others)
    (hreach : ReachesWithin bound items name) : ReachesWithin bound others name := by
  obtain ⟨item, rfl⟩ := h
  exact reachesWithin_cons.mpr (.inr hreach)

end

/-- A selection set requests the fields to which one comes through at most one inline fragment, and
none to which one does not come through inline fragments at all. What is requested stays the same
where selections are put in another order, or fragment spreads are left out, in the set or in inline
fragments, or where anything changes inside the inline fragments of inline fragments. Where
selections are added, whatever was requested still is. -/
theorem SelectionSet.requests_within_one (set : SelectionSet) (name : String) :
    (isRequested (some set) name = true ↔ ReachesWithin 1 set.items name) ∧
      ((∀ bound, ¬ ReachesWithin bound set.items name) → isRequested (some set) name = false) ∧
      (∀ other : SelectionSet,
        Relation.ReflTransGen (Edited List.Perm) set.items other.items ∨
          Relation.ReflTransGen (Edited OmitsSpread) set.items other.items ∨
            AgreesTo 1 set.items other.items →
          isRequested (some other) name = isRequested (some set) name) ∧
      ∀ other : SelectionSet,
        Relation.ReflTransGen (Edited AddsSelection) set.items other.items →
          isRequested (some set) name = true → isRequested (some other) name = true := by
  refine ⟨isRequested_eq_true_iff set name, fun h ↦ ?_, fun other h ↦ ?_, fun other h ↦ ?_⟩
  · exact Bool.eq_false_iff.mpr fun hset ↦ h 1 ((isRequested_eq_true_iff set name).mp hset)
  · rw [Bool.eq_iff_iff, isRequested_eq_true_iff, isRequested_eq_true_iff]
    rcases h with h | h | h
    · exact (reachesWithin_iff_of_edits (fun _ _ hperm _ ↦ reachesWithin_iff_of_perm hperm) h).symm
    · exact (reachesWithin_iff_of_edits (fun _ _ homits _ ↦ homits.reachesWithin_iff) h).symm
    · exact ⟨h.symm.reachesWithin, h.reachesWithin⟩
  · rw [isRequested_eq_true_iff, isRequested_eq_true_iff]
    exact reachesWithin_of_edits (fun _ _ hadds _ ↦ hadds.reachesWithin) h

/-- A field in an inline fragment, with a fragment spread and an inline fragment of its own beside
it, and the same set with these in another order, without the spread, with other contents further
inside, and with a selection more. -/
theorem SelectionSet.requests_within_one_nested :
    let name (text : String) : Name := ⟨text, default⟩
    let field (text : String) : Selection := .field ⟨default, none, name text, [], [], none⟩
    let inline (items : List Selection) : Selection := .inline ⟨default, none, [], ⟨default, items⟩⟩
    let spread : Selection := .spread default (name "Rest") []
    let set (items : List Selection) : SelectionSet := ⟨default, [inline items]⟩
    let given := set [spread, field "id", inline [field "key"]]
    isRequested (some given) "id" = true ∧ isRequested (some given) "key" = false ∧
      (∀ bound, ¬ ReachesWithin bound given.items "any") ∧
      isRequested (some given) "any" = false ∧
      isRequested (some (set [field "id", spread, inline [field "key"]])) "key" = false ∧
        isRequested (some (set [field "id", inline [field "key"]])) "id" = true ∧
          isRequested (some (set [spread, field "id", inline []])) "key" = false ∧
            isRequested (some (set [spread, field "id", inline [field "old", field "key"]])) "id" =
              true := by
  intro name field inline spread set given
  obtain ⟨hid, -, hsameId, hmoreId⟩ := requests_within_one given "id"
  obtain ⟨hkey, -, hsameKey, -⟩ := requests_within_one given "key"
  obtain ⟨-, hany, -⟩ := requests_within_one given "any"
  have hnone : ∀ bound, ¬ ReachesWithin bound given.items "any" := by
    intro bound
    simp [given, set, spread, field, inline, name, reachesWithin_cons, not_reachesWithin_nil,
      Selection.Contributes]
  have hgivenId : isRequested (some given) "id" = true := by decide
  have hgivenKey : isRequested (some given) "key" = false := by decide
  refine ⟨hgivenId, hgivenKey, hnone, hany hnone, ?_, ?_, ?_, ?_⟩
  · refine (hsameKey _ (.inl (.single (.inline (.edit ?_) .nil)))).trans hgivenKey
    exact List.Perm.swap ..
  · refine (hsameId _ (.inr (.inl (.single (.inline (.edit ?_) .nil))))).trans hgivenId
    exact ⟨_, _, _, rfl⟩
  · refine (hsameKey _ (.inr (.inr (.inline ?_ .nil)))).trans hgivenKey
    exact .spread (.field rfl (.deeper .nil))
  · refine hmoreId _ (.single (.inline (.spread (.field rfl (.inline (.edit ?_) .nil))) .nil)) ?_
    · exact ⟨field "old", rfl⟩
    · exact hgivenId

end QueryLint.Language
