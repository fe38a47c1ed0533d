/-
# Types.Declaration -- classes and interfaces

A declaration names a type and its direct supertypes.  Every class but
`java.lang.Object` extends it unless it says otherwise; an interface has no
superclass, so what it extends is an interface too.
-/

namespace DeferredBinding.Types

set_option autoImplicit false

/-- The root of every hierarchy. -/
def objectName : String := "java.lang.Object"

inductive Kind where
  | classKind
  | interfaceKind
  deriving DecidableEq, Repr

def Kind.label : Kind → String
  | .classKind => "class"
  | .interfaceKind => "interface"

/-- A declared type with its direct supertypes. -/
structure Declaration where
  name : String
  kind : Kind
  superclass : Option String
  interfaces : List String
  deriving DecidableEq, Repr

namespace Declaration

/-- A class directly below the root, or the root itself. -/
def ofClass (name : String) : Declaration :=
  { name
    kind := .classKind
    superclass := if name = objectName then none else some objectName
    interfaces := [] }

/-- An interface that extends nothing. -/
def ofInterface (name : String) : Declaration :=
  { name, kind := .interfaceKind, superclass := none, interfaces := [] }

def ofKind : Kind → String → Declaration
  | .classKind => ofClass
  | .interfaceKind => ofInterface

/-- Implement, or for an interface extend, one more interface. -/
def implements (d : Declaration) (parent : String) : Declaration :=
  { d with interfaces := d.interfaces ++ [parent] }

/-- Extend `parent`: a class has one superclass, an interface one parent more. -/
def extends_ (d : Declaration) (parent : String) : Declaration :=
  match d.kind with
  | .classKind => { d with superclass := some parent }
  | .interfaceKind => d.implements parent

/-- The direct supertypes, the superclass first. -/
def supertypes (d : Declaration) : List String :=
  d.superclass.toList ++ d.interfaces

end Declaration

end DeferredBinding.Types
