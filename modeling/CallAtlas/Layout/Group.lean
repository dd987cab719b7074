import CallAtlas.Function.Naming
import CallAtlas.Graph.Basic

/-!
# Groups of nodes

The groups in which a grid shows nodes, in the order in which they are shown. What
is neither exported nor asynchronous is told apart by its name.
-/

namespace CallAtlas

/-- A group of nodes. -/
inductive NodeGroup where
  | exported
  | async
  | method
  /-- Arguments of the hook with an index. -/
  | hook (index : Nat)
  /-- Functions in attributes of elements. -/
  | handler
  | function
  /-- Arguments of other calls. -/
  | other
  deriving DecidableEq, Inhabited, Repr

namespace NodeGroup

/-- Whether a name was put together from a binding and a target. -/
def isComposed (name : String) : Bool :=
  name.toList.getLast? == some ')' && (Naming.afterLast? [' ', '('] name.toList).isSome

/-- Whether a name is that of a function in an attribute whose element has no name. -/
def isHandlerName (name : String) : Bool :=
  name == Naming.handlerLabel ||
    Naming.handlerSuffix.toList.reverse.isPrefixOf name.toList.reverse

/-- The index of the hook in a name. -/
def hookIndex? (name : String) : Option Nat :=
  (Naming.hook? name).bind fun hook => Naming.hooks.findIdx? (· == hook)

/-- The group of a function. -/
def ofFunction (f : FunctionInfo) : NodeGroup :=
  if f.isExported then exported
  else if f.isAsync then async
  else if f.isMethod && !isComposed f.name then method
  else match hookIndex? f.name with
    | some i => hook i
    | none =>
      if isHandlerName f.name then handler
      else if isComposed f.name then other
      else function

/-- The name of the hook with an index. -/
def hookName (index : Nat) : String := Naming.hooks[index]?.getD "hook"

/-- The label of a group. -/
def title : NodeGroup → String
  | exported => "Exported"
  | async => "Async"
  | method => "Methods"
  | hook i => hookName i ++ " callbacks"
  | handler => "JSX handlers"
  | function => "Functions"
  | other => "Other"

/-- The part of an id that tells a group. -/
def slug : NodeGroup → String
  | exported => "exported"
  | async => "async"
  | method => "method"
  | hook i => (hookName i).map Char.toLower
  | handler => "jsx-handler"
  | function => "function"
  | other => "other"

/-- The place of a group among all groups. -/
def place : NodeGroup → Nat
  | exported => 0
  | async => 1
  | method => 2
  | hook i => 3 + min i Naming.hooks.length
  | handler => 4 + Naming.hooks.length
  | function => 5 + Naming.hooks.length
  | other => 6 + Naming.hooks.length

end NodeGroup

end CallAtlas
