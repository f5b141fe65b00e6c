import Mathlib.Data.List.Basic
import QueryLint.Lint.Linter
import QueryLint.Proofs.Tracking.Agreement

/-!
# Grouping handlers does not show

A linter groups the handlers of all its rules by kind before it walks a document. Main statement:
`Linter.check_eq_contributions`. What it reports is the plain nested loop over sites, rules and
handlers, and the part of it that comes from one rule is what a linter of that rule alone reports.

`Dispatcher.handlersFor_register` says what one registration changes. A dispatcher for many rules
is that many registrations, one by one (`dispatcher_eq_foldl_register`), so each group holds the
handlers for its kind in the order in which they came.
-/

namespace QueryLint

open QueryLint.Language

/-- The handlers of a rule for nodes of a kind, ready to report at a severity. -/
def Rule.registrations (rule : Rule) (severity : Severity) (kind : NodeKind) :
    List Registration :=
  (rule.handlers.filter (·.1 = kind)).map fun entry ↦ ⟨rule.name, severity, entry.2⟩

/-- A rule reports what its handlers for the kind of the node report. -/
theorem Rule.check_eq_flatMap_reports (rule : Rule) (severity : Severity) (site : Site) :
    rule.check severity site =
      (rule.registrations severity site.node.kind).flatMap (·.reports site) := by
  unfold Rule.check Rule.messages Rule.registrations
  induction rule.handlers with
  | nil => rfl
  | cons entry rest ih =>
      rw [List.flatMap_cons, List.map_append, ih]
      by_cases h : entry.1 = site.node.kind
      · simp [h, Registration.reports]
      · simp [h]

namespace Dispatcher

/-! ## Groups -/

/-- The handlers for nodes of a kind. -/
def handlersFor (dispatcher : Dispatcher) (kind : NodeKind) : List Registration :=
  (dispatcher.group? kind).getD []

/-- Enrolling a handler makes or extends the group of its kind and touches no other. -/
theorem find?_enroll (kind other : NodeKind) (registration : Registration)
    (groups : List (NodeKind × List Registration)) :
    ((enroll kind registration groups).find? (·.1 == other)).map Prod.snd =
      if other = kind then
        some (((groups.find? (·.1 == kind)).map Prod.snd).getD [] ++ [registration])
      else (groups.find? (·.1 == other)).map Prod.snd := by
  induction groups with
  | nil =>
      by_cases h : other = kind
      · simp [enroll, h]
      · have hne : (kind == other) = false := by simpa using fun e ↦ h e.symm
        simp [enroll, h, hne]
  | cons group rest ih =>
      by_cases hgroup : group.1 = kind
      · by_cases h : other = kind
        · simp [enroll, hgroup, h]
        · have hne : (kind == other) = false := by simpa using fun e ↦ h e.symm
          simp [enroll, hgroup, h, hne]
      · rw [enroll, if_neg hgroup]
        by_cases hother : group.1 = other
        · have h : other ≠ kind := fun e ↦ hgroup (hother.trans e)
          simp [hother, h]
        · rw [List.find?_cons_of_neg (by simpa using hother), ih,
            List.find?_cons_of_neg (by simpa using hgroup),
            List.find?_cons_of_neg (by simpa using hother)]

/-- A registered handler comes last in the group of its kind. -/
theorem group?_register (dispatcher : Dispatcher) (kind other : NodeKind)
    (registration : Registration) :
    (dispatcher.register kind registration).group? other =
      if other = kind then some (dispatcher.handlersFor kind ++ [registration])
      else dispatcher.group? other :=
  find?_enroll kind other registration dispatcher.groups

theorem handlersFor_register (dispatcher : Dispatcher) (kind other : NodeKind)
    (registration : Registration) :
    (dispatcher.register kind registration).handlersFor other =
      dispatcher.handlersFor other ++ if kind = other then [registration] else [] := by
  unfold handlersFor
  rw [group?_register]
  by_cases h : other = kind
  · subst h
    simp [handlersFor]
  · have hne : kind ≠ other := fun e ↦ h e.symm
    simp [h, hne]

/-- Registering handlers one by one appends to every group those for its kind, in their order. -/
theorem handlersFor_foldl_register (dispatcher : Dispatcher) (kind : NodeKind)
    (entries : List (NodeKind × Registration)) :
    (entries.foldl (fun dispatcher entry ↦ dispatcher.register entry.1 entry.2)
      dispatcher).handlersFor kind =
      dispatcher.handlersFor kind ++ (entries.filter (·.1 = kind)).map Prod.snd := by
  induction entries generalizing dispatcher with
  | nil => simp
  | cons entry rest ih =>
      rw [List.foldl_cons, ih, handlersFor_register]
      by_cases h : entry.1 = kind
      · simp [h]
      · simp [h]

/-- Registering handlers one by one adds the kinds that they are for. -/
theorem handles_foldl_register (dispatcher : Dispatcher) (kind : NodeKind)
    (entries : List (NodeKind × Registration)) :
    (entries.foldl (fun dispatcher entry ↦ dispatcher.register entry.1 entry.2)
      dispatcher).handles kind =
      (dispatcher.handles kind || (entries.map Prod.fst).contains kind) := by
  induction entries generalizing dispatcher with
  | nil => simp
  | cons entry rest ih =>
      rw [List.foldl_cons, ih, handles, handles, group?_register]
      by_cases h : kind = entry.1
      · simp [h]
      · have hne : (kind == entry.1) = false := by simpa using h
        simp [h, hne]

/-- A node is dispatched to the handlers for its kind, whether there is a group or not. -/
theorem dispatch_eq_flatMap_reports (dispatcher : Dispatcher) (site : Site) :
    dispatcher.dispatch site =
      (dispatcher.handlersFor site.node.kind).flatMap (·.reports site) := by
  unfold dispatch handlersFor
  cases dispatcher.group? site.node.kind with
  | none => rfl
  | some group => rfl

end Dispatcher

namespace Linter

/-! ## Rules together -/

/-- The handlers of all rules with their kinds, rule by rule. -/
def entries (linter : Linter) : List (NodeKind × Registration) :=
  linter.rules.flatMap fun active ↦
    active.rule.handlers.map fun entry ↦
      (entry.1, ⟨active.rule.name, active.severity, entry.2⟩)

/-- Adding rule after rule registers all their handlers one by one. -/
theorem dispatcher_eq_foldl_register (linter : Linter) :
    linter.dispatcher =
      linter.entries.foldl (fun dispatcher entry ↦ dispatcher.register entry.1 entry.2)
        .empty := by
  unfold dispatcher entries Dispatcher.add
  rw [List.foldl_flatMap]
  simp only [List.foldl_map]

/-- The group of a kind holds the handlers of the rules, in the order of the rules. -/
theorem handlersFor_dispatcher (linter : Linter) (kind : NodeKind) :
    linter.dispatcher.handlersFor kind =
      linter.rules.flatMap fun active ↦ active.rule.registrations active.severity kind := by
  rw [dispatcher_eq_foldl_register, Dispatcher.handlersFor_foldl_register, entries,
    List.filter_flatMap, List.map_flatMap]
  -- The fold starts at the dispatcher without groups, which has handlers for nothing.
  show [] ++ _ = _
  rw [List.nil_append]
  refine List.flatMap_congr fun active _ ↦ ?_
  rw [Rule.registrations, List.filter_map, List.map_map]
  rfl

/-- A linter looks at the kinds of node that some rule of it looks at. -/
theorem handles_eq_any_kinds (linter : Linter) (kind : NodeKind) :
    linter.handles kind = linter.rules.any (·.rule.kinds.contains kind) := by
  rw [handles, dispatcher_eq_foldl_register, Dispatcher.handles_foldl_register]
  show (false || _) = _
  rw [Bool.false_or, entries, List.map_flatMap, List.contains_flatMap]
  refine List.any_congr rfl fun active ↦ ?_
  rw [List.map_map]
  rfl

/-- At a site the rules report one after the other, each as if it were alone. -/
theorem checkSite_eq_flatMap_check (linter : Linter) (site : Site) :
    linter.checkSite site =
      linter.rules.flatMap fun active ↦ active.rule.check active.severity site := by
  rw [checkSite, Dispatcher.dispatch_eq_flatMap_reports, handlersFor_dispatcher,
    List.flatMap_assoc]
  refine List.flatMap_congr fun active _ ↦ ?_
  exact (active.rule.check_eq_flatMap_reports active.severity site).symm

/-- A linter reports rule by rule at one site after the other. -/
theorem check_eq_flatMap_check (linter : Linter) (schema : Schema) (document : Document) :
    linter.check schema document =
      (document.sites schema).flatMap fun site ↦
        linter.rules.flatMap fun active ↦ active.rule.check active.severity site := by
  unfold check
  exact List.flatMap_congr fun site _ ↦ linter.checkSite_eq_flatMap_check site

/-- A linter with one rule reports what the rule reports, site by site. -/
theorem check_add_empty (rule : Rule) (severity : Severity) (schema : Schema)
    (document : Document) :
    (empty.add rule severity).check schema document =
      (document.sites schema).flatMap (rule.check severity) := by
  rw [check_eq_flatMap_check]
  simp [empty, add]

/-- A linter with one rule reports along a walk what the rule reports at linked sites, since all
sites of a walk are linked. -/
theorem check_add_empty_of_linked {rule : Rule} {severity : Severity} {schema : Schema}
    {report : Site → List Diagnostic}
    (h : ∀ site : Site, site.Linked schema → rule.check severity site = report site)
    (document : Document) :
    (empty.add rule severity).check schema document =
      (document.sites schema).flatMap report := by
  rw [check_add_empty]
  exact List.flatMap_congr fun site hsite ↦ h site (Site.linked_of_mem hsite)

/-- The nested loop over the sites of a document, the rules of a linter and the handlers of each
rule for the kind of the node. A diagnostic stands with the place of its rule among the rules. -/
def contributions (linter : Linter) (schema : Schema) (document : Document) :
    List (Nat × Diagnostic) :=
  (document.sites schema).flatMap fun site ↦
    linter.rules.zipIdx.flatMap fun (active, place) ↦
      active.rule.handlers.flatMap fun (kind, handler) ↦
        if kind = site.node.kind then
          (handler site).map fun message ↦
            (place, ⟨message, active.rule.name, active.severity, [site.node.toRef]⟩)
        else []

/-- At a site the loop goes over what each rule reports, under the place of the rule. -/
theorem contributions_eq_flatMap_check (linter : Linter) (schema : Schema)
    (document : Document) :
    linter.contributions schema document =
      (document.sites schema).flatMap fun site ↦
        linter.rules.zipIdx.flatMap fun entry ↦
          (entry.1.rule.check entry.1.severity site).map (Prod.mk entry.2) := by
  unfold contributions
  refine List.flatMap_congr fun site _ ↦ List.flatMap_congr fun entry _ ↦ ?_
  simp only [Rule.check, Rule.messages, List.map_map, List.map_flatMap]
  refine List.flatMap_congr fun handler _ ↦ ?_
  by_cases h : handler.1 = site.node.kind
  · simp [h, Function.comp_def]
  · simp [h]

/-- Of blocks that stand under consecutive places, one place keeps its own block. -/
theorem map_snd_filter_zipIdx {α β : Type} (block : α → List β) (items : List α)
    (first place : Nat) :
    (((items.zipIdx first).flatMap fun entry ↦ (block entry.1).map (Prod.mk entry.2)).filter
      (·.1 = place)).map Prod.snd =
      if first ≤ place then (items[place - first]?).toList.flatMap block else [] := by
  induction items generalizing first with
  | nil => simp
  | cons item rest ih =>
      rw [List.zipIdx_cons, List.flatMap_cons, List.filter_append, List.map_append, ih]
      -- The place comes later, or is that of the first block, or has gone by.
      rcases Nat.lt_trichotomy first place with h | h | h
      · have hindex : place - first = place - (first + 1) + 1 := by omega
        have hle : first ≤ place := Nat.le_of_lt h
        simp [List.filter_map, Function.comp_def, Nat.ne_of_lt h, hle, Nat.succ_le_of_lt h, hindex]
      · subst h
        have hlt : ¬ first + 1 ≤ first := by omega
        simp [List.filter_map, Function.comp_def, hlt]
      · have hle : ¬ first ≤ place := by omega
        have hlt : ¬ first + 1 ≤ place := by omega
        have hne : first ≠ place := by omega
        simp [List.filter_map, Function.comp_def, hle, hlt, hne]

/-- A linter reports what the nested loop over sites, rules and handlers lists. The part of it that
comes from one rule is what a linter of that rule alone reports, whatever the other rules are. -/
theorem check_eq_contributions (linter : Linter) (schema : Schema) (document : Document) :
    linter.check schema document =
        (linter.contributions schema document).map Prod.snd ∧
      ∀ place : Fin linter.rules.length,
        ((linter.contributions schema document).filter (·.1 = place.val)).map Prod.snd =
          (empty.add linter.rules[place].rule linter.rules[place].severity).check schema
            document := by
  rw [contributions_eq_flatMap_check]
  refine ⟨?_, ?_⟩
  · have hforget (site : Site) :
        (linter.rules.zipIdx.flatMap fun entry ↦ entry.1.rule.check entry.1.severity site) =
          linter.rules.flatMap fun active ↦ active.rule.check active.severity site := by
      have hmap := List.flatMap_map Prod.fst
        (fun active : ActiveRule ↦ active.rule.check active.severity site) linter.rules.zipIdx
      rw [List.zipIdx_map_fst] at hmap
      exact hmap.symm
    simp [check_eq_flatMap_check, List.map_flatMap, Function.comp_def, hforget]
  · intro place
    rw [check_add_empty, List.filter_flatMap, List.map_flatMap]
    refine List.flatMap_congr fun site _ ↦ ?_
    rw [map_snd_filter_zipIdx (fun active : ActiveRule ↦ active.rule.check active.severity site)]
    simp

end Linter

end QueryLint
