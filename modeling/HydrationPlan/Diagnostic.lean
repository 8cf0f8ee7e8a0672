import HydrationPlan.Coordinates

/-!
# Diagnostics

What a compilation reports to the author of a schema. Only errors make it fail.
-/

namespace HydrationPlan

inductive Severity
  | error
  | warning
deriving DecidableEq, Repr

structure Label where
  coordinates : Coordinates
  message : String
deriving DecidableEq, Repr

structure Diagnostic where
  severity : Severity
  code : String
  title : String
  message : Option String
  labels : List Label
deriving DecidableEq, Repr

namespace Diagnostic

def isError (d : Diagnostic) : Bool := d.severity == .error

def isWarning (d : Diagnostic) : Bool := d.severity == .warning

def withMessage (d : Diagnostic) (message : String) : Diagnostic :=
  { d with message := some message }

def labelled (d : Diagnostic) (coordinates : Coordinates) (message : String) : Diagnostic :=
  { d with labels := d.labels ++ [⟨coordinates, message⟩] }

def ofError (code title : String) : Diagnostic := ⟨.error, code, title, none, []⟩

def ofWarning (code title : String) : Diagnostic := ⟨.warning, code, title, none, []⟩

end Diagnostic

structure Report where
  diagnostics : List Diagnostic
deriving DecidableEq, Repr

namespace Report

def empty : Report := ⟨[]⟩

def add (r : Report) (d : Diagnostic) : Report := ⟨r.diagnostics ++ [d]⟩

def addAll (r : Report) (ds : List Diagnostic) : Report := ⟨r.diagnostics ++ ds⟩

def errors (r : Report) : List Diagnostic := r.diagnostics.filter Diagnostic.isError

def warnings (r : Report) : List Diagnostic := r.diagnostics.filter Diagnostic.isWarning

def hasErrors (r : Report) : Bool := r.diagnostics.any Diagnostic.isError

def errorCount (r : Report) : Nat := r.errors.length

def size (r : Report) : Nat := r.diagnostics.length

def isEmpty (r : Report) : Bool := r.diagnostics.isEmpty

end Report

end HydrationPlan
