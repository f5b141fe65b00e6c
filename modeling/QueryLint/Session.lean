import QueryLint.Lint.Linter

/-!
# Sessions

A `Session` checks one text after the other. It has a schema and a linter, both of which can be
replaced, and it keeps what was found until that is taken out.
-/

namespace QueryLint

open QueryLint.Language

/-- A schema, a linter and the diagnostics that were not taken out yet. -/
structure Session where
  schema : Schema
  linter : Linter
  log : List Diagnostic

namespace Session

/-- A session without types, rules and diagnostics. -/
def start : Session := ⟨.empty, .empty, []⟩

/-- Add a diagnostic. -/
def push (session : Session) (diagnostic : Diagnostic) : Session :=
  { session with log := session.log ++ [diagnostic] }

/-- Add a diagnostic about the whole of a document. -/
def report (session : Session) (document : Document) (message rule : String)
    (severity : Severity) : Session :=
  session.push ⟨message, rule, severity, [(Node.document document).toRef]⟩

/-- What the rules find in a text. -/
def findings (session : Session) (text : String) : List Diagnostic :=
  session.linter.checkText session.schema text

/-- Check a text and keep what the rules find. -/
def check (session : Session) (text : String) : Session :=
  { session with log := session.log ++ session.findings text }

/-- Take the diagnostics out. -/
def clear (session : Session) : Session :=
  { session with log := [] }

end Session

end QueryLint
