import ComponentSpec.Diagnostic.Fault

/-!
# ComponentSpec.Diagnostic.Report

Failures as they are reported: a kind, a message, and the component at fault if one is known.
-/

namespace ComponentSpec

structure Diagnostic where
  kind : Kind
  message : String
  component : Option String
deriving DecidableEq

namespace Diagnostic

def ofFault (f : Fault) : Diagnostic := ⟨f.kind, f.message, none⟩

/-- Names the component at fault, unless one is already named. -/
def inComponent (name : String) (d : Diagnostic) : Diagnostic :=
  { d with component := d.component.or (some name) }

def ofFaultIn (name : String) (f : Fault) : Diagnostic := (ofFault f).inComponent name

def display (d : Diagnostic) : String := d.kind.code ++ ": " ++ d.message

/-- The code, the category, the component if there is one, and the message. -/
def format (d : Diagnostic) : String :=
  let place := match d.component with
    | some name => " in component " ++ name
    | none => ""
  d.kind.code ++ " (" ++ d.kind.category.describe ++ ")" ++ place ++ ": " ++ d.message

end Diagnostic

end ComponentSpec
