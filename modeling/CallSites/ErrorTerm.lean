import CallSites.Error

/-!
# How errors come about

Errors are raised, wrapped and put together as they travel from where something goes wrong to where
it is told.  A term of errors records such a journey; `ErrorTerm.build` is the outcome at its end,
which is no error at all if none was raised on the way.

What an error says is given by a template, a text in which each `%s` stands for the next argument
and `%%` for a percent sign.  Filling never fails: a slot without an argument, an argument without a
slot, and a percent sign at the very end are marked in the result instead.
-/

namespace CallSites

namespace Text

/-- What is written for the arguments that no slot has taken. -/
def leftover (args : List String) : String :=
  if args.isEmpty then "" else "%!(EXTRA " ++ joinWith ("string=" ++ ·) ", " args ++ ")"

/-- Fills the slots of a template, given as characters, from left to right. -/
def fillChars : List Char → List String → String
  | [], args => leftover args
  | ['%'], args => "%!(NOVERB)" ++ leftover args
  | '%' :: '%' :: rest, args => "%" ++ fillChars rest args
  | '%' :: 's' :: rest, a :: args => a ++ fillChars rest args
  | '%' :: 's' :: rest, [] => "%!s(MISSING)" ++ fillChars rest []
  | c :: rest, args => String.singleton c ++ fillChars rest args

/-- Fills the slots of a template from left to right. -/
def fill (template : String) (args : List String) : String :=
  fillChars template.toList args

end Text

/-- How an outcome comes about. -/
inductive ErrorTerm where
  /-- Nothing goes wrong. -/
  | fine
  /-- An error with a given cause is raised. -/
  | plain (c : Cause)
  /-- A dependency is missing, described by a template. -/
  | lacking (template : String) (args : List String)
  /-- A dependency is missing, and it is not said which. -/
  | lackingSome
  /-- An internal error is raised, described by a template. -/
  | faulty (template : String) (args : List String)
  /-- An outcome is marked as internal if it is an error. -/
  | marked (t : ErrorTerm)
  /-- A filled template is put directly in front of an outcome if it is an error. -/
  | headed (template : String) (args : List String) (t : ErrorTerm)
  /-- A filled template and a colon are put in front of an outcome if it is an error. -/
  | noted (template : String) (args : List String) (t : ErrorTerm)
  /-- Two outcomes are found together. -/
  | both (t u : ErrorTerm)
deriving DecidableEq, Inhabited

/-- The outcome that comes about. -/
def ErrorTerm.build : ErrorTerm → Option Error
  | .fine => none
  | .plain c => some (.cause c)
  | .lacking template args => some (.lacks (.other (Text.fill template args)))
  | .lackingSome => some (.missing none)
  | .faulty template args => some (.fault (.text (Text.fill template args)))
  | .marked t => t.build.map Error.asInternal
  | .headed template args t => t.build.map (.context (Text.fill template args))
  | .noted template args t => t.build.map (.context (Text.fill template args ++ ": "))
  | .both t u => Error.append t.build u.build

end CallSites
