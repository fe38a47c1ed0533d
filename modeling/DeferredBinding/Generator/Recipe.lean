/-
# Generator.Recipe -- generators described by data

A recipe says how a generator arrives at its answer: by decorating the requested
type, by reading a property or the declared types, by handing the request on to
another generator, or never.

A recipe that hands the request on makes a helper of the other generator and asks
it.  A chain of such recipes could close on itself, so it may have at most
`longestChain` links.
-/
import DeferredBinding.Generator.Basic

namespace DeferredBinding

set_option autoImplicit false

/-- How a generator arrives at its answer. -/
inductive Recipe where
  | suffix (text : String)
  | silentSuffix (text : String)
  | fixed (text : String)
  | fails (reason : String)
  | selectionOf (property : String)
  | configurationOf (property : String)
  | knownType
  | handOn (generator : String)
  deriving DecidableEq, Repr

namespace Recipe

/-- The number of links a chain of recipes may have. -/
def longestChain : Nat := 1000

/-- A property value for a generator, whose refusals are plain text. -/
def reading {α : Type} (result : Except Property.Error α) : Except String α :=
  result.mapError Property.Error.message

/-- Whether the instances of a recipe leave no lines. -/
def isSilent : Recipe → Bool
  | .silentSuffix _ => true
  | _ => false

/-- Follow a recipe through at most `links` further generators. -/
def follow (ctx : Context Recipe) (type : String) : Nat → Census → Recipe → Production
  | _, _, .suffix text => { answer := .ok (type ++ text) }
  | _, _, .silentSuffix text => { answer := .ok (type ++ text) }
  | _, _, .fixed text => { answer := .ok text }
  | _, _, .fails reason => { answer := .error reason }
  | _, _, .selectionOf property =>
      { answer := (reading (ctx.properties.selection property)).map fun value =>
          type ++ "_" ++ value }
  | _, _, .configurationOf property =>
      { answer := (reading (ctx.properties.configuration property)).map fun values =>
          type ++ "[" ++ ",".intercalate values ++ "]" }
  | _, _, .knownType =>
      { answer := if (ctx.types.find? type).isSome then .ok (type ++ "_Known")
          else .error "no such type" }
  | links, census, .handOn name =>
      match links, ctx.generators name with
      | _, none => { answer := .error "no delegate" }
      | 0, some _ => { answer := .error "too many delegates" }
      | links + 1, some other =>
          let made := census.make name other.isSilent
          let production := follow ctx type links made.2 other
          { answer := production.answer.map fun answer => "via " ++ answer
            made := (if other.isSilent then { silent := 1 } else { numbered := 1 } : Census).plus
              production.made
            helpers := (made.1, .created) :: (made.1, .asked type) :: production.helpers }

instance : Generator Recipe where
  silent := isSilent
  produce recipe ctx census type := follow ctx type longestChain census recipe

end Recipe

end DeferredBinding
