import QueryLint.Proofs.Walk.Places

/-!
# Constructs in a text

`LaidOut start stop row` says that constructs in a row lie one after the other between two offsets,
and so do the parts of each in its own range. So it puts the order of the parts, which is that of
the grammar, together with the ranges, which are where the parts stand.
-/

namespace QueryLint.Language

/-- The range of a construct, if it is kept. A type and a variable have the range of the name in
them. -/
def Construct.span? : Construct → Option Span
  | definition (.operation it) => some it.span
  | definition (.fragment it) => some it.span
  | definition (.schema _) | definition (.directive _) | definition (.type _)
  | definition (.extendSchema _) | definition (.extendType _) => none
  | variableDefinition it => some it.span
  | declared name | namedType name | value (.var _ name) => some name.span
  | type it => some it.name.span
  | value it => some it.span
  | objectField it => some it.span
  | argument it => some it.span
  | directive it => some it.span
  | selectionSet it => some it.span
  | selection (.field it) => some it.span
  | selection (.inline it) => some it.span
  | selection (.spread span _ _) => some span
  | rootDefinition _ | fieldDefinition _ | inputValueDefinition _ | enumValueDefinition _ => none

/-- Constructs lie between two offsets, one after the other, and the parts of each lie so in its own
range. -/
inductive LaidOut : Nat → Nat → List Construct → Prop
  | nil {start stop : Nat} (h : start ≤ stop) : LaidOut start stop []
  | cons {start stop : Nat} {span : Span} {here : Construct} {rest : List Construct}
      (hspan : here.span? = some span) (hstart : start ≤ span.start)
      (hparts : LaidOut span.start span.stop here.parts) (hrest : LaidOut span.stop stop rest) :
      LaidOut start stop (here :: rest)

namespace LaidOut

variable {start stop : Nat} {row : List Construct}

theorem le (h : LaidOut start stop row) : start ≤ stop := by
  induction h with
  | nil h => exact h
  | cons _ hstart _ _ ihparts ihrest =>
      exact Nat.le_trans hstart (Nat.le_trans ihparts ihrest)

theorem mono {outerStart outerStop : Nat} (h : LaidOut start stop row)
    (hstart : outerStart ≤ start) (hstop : stop ≤ outerStop) :
    LaidOut outerStart outerStop row := by
  induction h generalizing outerStart with
  | nil h => exact .nil (Nat.le_trans hstart (Nat.le_trans h hstop))
  | cons hspan hbegin hparts _ _ ihrest =>
      exact .cons hspan (Nat.le_trans hstart hbegin) hparts (ihrest (Nat.le_refl _) hstop)

theorem append {middle : Nat} {others : List Construct} (h : LaidOut start middle row)
    (hothers : LaidOut middle stop others) : LaidOut start stop (row ++ others) := by
  induction h with
  | nil h => exact hothers.mono h (Nat.le_refl _)
  | cons hspan hstart hparts _ _ ihrest => exact .cons hspan hstart hparts (ihrest hothers)

/-- A construct can have the range of its only part. -/
theorem around {inner outer : Construct} (h : LaidOut start stop [inner])
    (hspan : outer.span? = inner.span?) (hparts : outer.parts = [inner]) :
    LaidOut start stop [outer] := by
  cases h with
  | cons hinner hstart hin hrest =>
      have hone := hin.cons hinner (Nat.le_refl _) (.nil (Nat.le_refl _))
      rw [← hparts] at hone
      exact .cons (hspan.trans hinner) hstart hone hrest

end LaidOut

/-- The operations and fragments of a document lie in its range, one after the other. -/
def Document.LaidOut (document : Document) : Prop :=
  Language.LaidOut document.span.start document.span.stop
    ((document.definitions.filter Definition.isExecutable).map .definition)

end QueryLint.Language
