import Mathlib.Data.List.Infix

/-!
# Computations that can fail

When a computation in steps has a result: each step has one, and the next step goes on from it.

When it has none: it fails with the first error that there is (`Settles`). A computation with one
step for each item of a list fails with the error of the first item that has one
(`Settles.foldlM`).
-/

namespace QueryLint

variable {ε α β : Type}

theorem bind_eq_ok_iff {first : Except ε α} {next : α → Except ε β} {result : β} :
    (first >>= next) = .ok result ↔
      ∃ value, first = .ok value ∧ next value = .ok result := by
  cases first <;> simp [bind, Except.bind]

theorem toOption_eq_some_iff {computation : Except ε α} {value : α} :
    computation.toOption = some value ↔ computation = .ok value := by
  cases computation <;> simp [Except.toOption]

/-- Errors can be changed in each part of a computation. -/
theorem mapError_bind {ε' : Type} (change : ε → ε') (first : Except ε α) (next : α → Except ε β) :
    (first >>= next).mapError change =
      first.mapError change >>= fun value ↦ (next value).mapError change := by
  cases first <;> rfl

section

variable {step : β → α → Except ε β} {start result : β}

theorem foldlM_nil_eq_ok_iff : List.foldlM step start [] = .ok result ↔ result = start := by
  rw [List.foldlM_nil]
  exact ⟨fun h ↦ (Except.ok.inj h).symm, fun h ↦ congrArg Except.ok h.symm⟩

theorem foldlM_cons_eq_ok_iff {item : α} {rest : List α} :
    (item :: rest).foldlM step start = .ok result ↔
      ∃ next, step start item = .ok next ∧ rest.foldlM step next = .ok result := by
  rw [List.foldlM_cons, bind_eq_ok_iff]

/-- What every step keeps, a run keeps. -/
theorem foldlM_keeps {kept : β → Prop}
    (hstep : ∀ state item next, kept state → step state item = .ok next → kept next)
    {items : List α} (hstart : kept start) (h : items.foldlM step start = .ok result) :
    kept result := by
  induction items generalizing start with
  | nil =>
      cases foldlM_nil_eq_ok_iff.mp h
      exact hstart
  | cons item rest ih =>
      obtain ⟨next, hnext, hrest⟩ := foldlM_cons_eq_ok_iff.mp h
      exact ih (hstep start item next hstart hnext) hrest

/-- Errors can be changed in every step or in the end. -/
theorem foldlM_mapError {ε' : Type} (change : ε → ε') (step : β → α → Except ε β) (items : List α)
    (start : β) :
    items.foldlM (fun state item ↦ (step state item).mapError change) start =
      (items.foldlM step start).mapError change := by
  induction items generalizing start with
  | nil => rfl
  | cons item rest ih =>
      simp only [List.foldlM_cons, mapError_bind, ih]

end

/-! ## The first error -/

/-- A computation fails with the given error, or has a good result if none is given. -/
inductive Settles (good : α → Prop) : Option ε → Except ε α → Prop
  | failed (error : ε) : Settles good (some error) (.error error)
  | finished {value : α} (h : good value) : Settles good none (.ok value)

/-- The error of the first item that has one. Whether an item has one depends on those before it. -/
def firstError? (error? : List α → α → Option ε) (items : List α) : Option ε :=
  (items.inits.zip items).findSome? fun (before, item) ↦ error? before item

theorem firstError?_cons (error? : List α → α → Option ε) (item : α) (rest : List α) :
    firstError? error? (item :: rest) =
      (error? [] item <|> firstError? (fun before ↦ error? (item :: before)) rest) := by
  unfold firstError?
  rw [List.inits_cons, List.zip_cons_cons, List.findSome?_cons, List.zip_map_left,
    List.findSome?_map]
  show (match error? [] item with
    | some error => some error
    | none => _) = _
  cases error? [] item <;> rfl

theorem firstError?_concat (error? : List α → α → Option ε) (items : List α) (item : α) :
    firstError? error? (items ++ [item]) = (firstError? error? items <|> error? items item) := by
  induction items generalizing error? with
  | nil => simp [firstError?]
  | cons first rest ih =>
      rw [List.cons_append, firstError?_cons, ih, firstError?_cons]
      cases error? [] first <;> rfl

/-- If it does not depend on the items before, each item can be looked at by itself. -/
theorem firstError?_const (error? : α → Option ε) (items : List α) :
    firstError? (fun _ ↦ error?) items = items.findSome? error? := by
  induction items with
  | nil => rfl
  | cons item rest ih =>
      rw [firstError?_cons, ih, List.findSome?_cons]
      cases error? item <;> rfl

namespace Settles

variable {good : α → Prop} {error? : Option ε} {computation : Except ε α}

theorem eq_error_iff (h : Settles good error? computation) (error : ε) :
    computation = .error error ↔ error? = some error := by
  cases h <;> simp

theorem exists_ok_iff (h : Settles good error? computation) :
    (∃ value, computation = .ok value) ↔ error? = none := by
  cases h <;> simp

theorem good_of_ok {value : α} (h : Settles good error? (.ok value)) : good value := by
  cases h with
  | finished h => exact h

theorem bind {good' : β → Prop} {later? : Option ε} {next : α → Except ε β}
    (h : Settles good error? computation)
    (hnext : ∀ value, good value → Settles good' later? (next value)) :
    Settles good' (error? <|> later?) (computation >>= next) := by
  cases h with
  | failed error => exact failed error
  | finished hgood => exact hnext _ hgood

theorem map {good' : β → Prop} {f : α → β} (h : Settles good error? computation)
    (hf : ∀ value, good value → good' (f value)) : Settles good' error? (computation.map f) := by
  cases h with
  | failed error => exact failed error
  | finished hgood => exact finished (hf _ hgood)

/-- What every step keeps, with one more item, a run keeps with all of them. -/
theorem foldlM (kept : List α → β → Prop) {error? : List α → α → Option ε}
    {step : β → α → Except ε β}
    (hstep : ∀ before item state, kept before state →
      Settles (kept (before ++ [item])) (error? before item) (step state item))
    {items : List α} {start : β} (hstart : kept [] start) :
    Settles (kept items) (firstError? error? items) (items.foldlM step start) := by
  induction items generalizing kept error? start with
  | nil => exact finished hstart
  | cons item rest ih =>
      rw [firstError?_cons, List.foldlM_cons]
      refine (hstep [] item start hstart).bind fun next hnext ↦ ?_
      exact ih (fun before ↦ kept (item :: before)) (fun before ↦ hstep (item :: before)) hnext

end Settles

end QueryLint
