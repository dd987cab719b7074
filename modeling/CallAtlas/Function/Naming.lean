import CallAtlas.Syntax.Tree
import CallAtlas.Function.Basic

/-!
# How functions are named

Some functions write their name; others have it from the place where they stand:
the variable, field or key that they are the value of, the call that they are the
first argument of, or the attribute of an element. Members are named behind their
owner, `Owner.member`, and arguments of calls before the target of the call,
`binding (target)`.
-/

namespace CallAtlas

namespace Naming

/-! ## Kinds of nodes -/

/-- Declarations that write their name. -/
def declarations : List String := ["function_declaration", "generator_function_declaration"]

/-- Functions that stand where a value stands. -/
def expressions : List String :=
  ["arrow_function", "function_expression", "function", "generator_function"]

/-- A member of a class or an object that is a function. -/
def method : String := "method_definition"

/-- A field of a class. -/
def fields : List String := ["public_field_definition", "field_definition"]

/-- Classes. -/
def classes : List String := ["class_declaration", "abstract_class_declaration", "class"]

/-- Whether a kind is a declaration of a function. -/
def isDeclaration (kind : String) : Bool := declarations.contains kind

/-- Whether a kind is a function that stands where a value stands. -/
def isExpression (kind : String) : Bool := expressions.contains kind

/-- Whether a kind opens the body of a function. -/
def isFunction (kind : String) : Bool := isDeclaration kind || isExpression kind || kind == method

/-! ## Parts of names -/

/-- The text of a node unless it is empty. -/
def textOf? (source : SourceText) (t : SyntaxTree) : Option String :=
  let text := t.text source
  if text.isEmpty then none else some text

/-- The text of a node if it is an identifier. -/
def identifier? (source : SourceText) (t : SyntaxTree) : Option String :=
  if t.kind = "identifier" then some (t.text source) else none

/-- The text under the field `name` unless it is empty. -/
def writtenName? (source : SourceText) (t : SyntaxTree) : Option String :=
  (t.child? "name").bind (textOf? source)

/-- The identifier under the field `name`. -/
def boundName? (source : SourceText) (t : SyntaxTree) : Option String :=
  (t.child? "name").bind (identifier? source)

/-- A member behind its owner, or alone where no owner is known. -/
def qualify (owner : Option String) (member : String) : String :=
  match owner with
  | some owner => owner ++ "." ++ member
  | none => member

/-- The nearest class around a place. -/
def enclosingClass? (p : Place) : Option Place := p.ancestor? fun q => classes.contains q.kind

/-- The name of the nearest class around a place. -/
def enclosingClassName? (source : SourceText) (p : Place) : Option String :=
  (enclosingClass? p).bind fun c => writtenName? source c.tree

/-- The variable to which the object at a place is bound. -/
def objectBinding? (source : SourceText) (p : Place) : Option String := do
  let declarator ← p.parent?
  if declarator.kind = "variable_declarator" then boundName? source declarator.tree else none

/-! ## Targets of calls -/

/-- Kinds of nodes at which a dotted path can begin. -/
def pathHeads : List String :=
  ["identifier", "this", "super", "property_identifier", "private_property_identifier"]

mutual

/-- The parts of a dotted path, `tail` behind them. A path begins after the last
object that is no part of a path; the property of a member must be there. -/
def pathParts (source : SourceText) (tail : List String) (t : SyntaxTree) :
    Option (List String) :=
  match t with
  | .node i cs =>
    if pathHeads.contains i.kind then some (source.slice i.start i.stop :: tail)
    else if i.kind = "member_expression" then
      match cs.find? (SyntaxTree.isUnder "property") with
      | some property => objectParts source (property.text source :: tail) cs
      | none => none
    else if tail.isEmpty then none
    else some tail

/-- The parts of the path of the first child under the field `object`. -/
def objectParts (source : SourceText) (tail : List String) (cs : List SyntaxTree) :
    Option (List String) :=
  match cs with
  | [] => some tail
  | c :: rest =>
    if c.isUnder "object" then pathParts source tail c else objectParts source tail rest

end

/-- What a call calls: an identifier or a dotted path. -/
def target? (source : SourceText) (call : SyntaxTree) : Option String := do
  let called ← call.child? "function"
  if called.kind = "identifier" then some (called.text source)
  else if called.kind = "member_expression" then
    (pathParts source [] called).map (".".intercalate ·)
  else none

/-- Kinds of nodes through which the value of a call is passed on. -/
def wrappers : List String :=
  ["await_expression", "parenthesized_expression", "as_expression", "non_null_expression"]

/-- The variable to which the value of a call is bound. -/
def callBinding? (source : SourceText) (call : Place) : Option String := do
  let receiver ← call.ancestor? fun p => !wrappers.contains p.kind
  if receiver.kind = "variable_declarator" then boundName? source receiver.tree else none

/-! ## Names -/

/-- What stands for the variable where the value of a call is bound to none. -/
def callbackLabel : String := "callback"

/-- The name of a function in an attribute without a name. -/
def handlerLabel : String := "JSX event handler"

/-- What stands behind the name of an attribute where the element has none. -/
def handlerSuffix : String := " handler"

/-- The name of an argument of a call: the binding and then the target. -/
def callbackName (binding : Option String) (target : String) : String :=
  binding.getD callbackLabel ++ " (" ++ target ++ ")"

/-- The name of a function in the arguments at a place. Only a first argument has
one. -/
def argumentName? (source : SourceText) (p arguments : Place) : Option String := do
  if !p.isFirstNamed then none
  let call ← arguments.parent?
  if call.kind ≠ "call_expression" then none
  let target ← target? source call.tree
  return callbackName (callBinding? source call) target

/-- Kinds of nodes that name an attribute. -/
def attributeNames : List String := ["property_identifier", "identifier", "jsx_namespace_name"]

/-- Kinds of nodes that name an element and hold its attributes. -/
def elements : List String := ["jsx_opening_element", "jsx_self_closing_element"]

/-- The name of the function in an attribute: `Tag.attribute` as far as known. -/
def handlerName (source : SourceText) (attr : Place) : String :=
  let name := do
    let first ← attr.tree.namedChildren.head?
    if attributeNames.contains first.kind then textOf? source first else none
  let tag := do
    let element ← attr.parent?
    if elements.contains element.kind then writtenName? source element.tree else none
  match tag, name with
  | some tag, some name => tag ++ "." ++ name
  | none, some name => name ++ handlerSuffix
  | _, none => handlerLabel

/-- The name of a function that stands where a value stands, as the value of the
node above it. -/
def valueName? (source : SourceText) (p parent : Place) : Option String :=
  if parent.kind = "variable_declarator" then
    if p.isField "value" then boundName? source parent.tree else none
  else if fields.contains parent.kind then
    if p.isField "value" then
      (writtenName? source parent.tree).map (qualify (enclosingClassName? source parent))
    else none
  else if parent.kind = "pair" then
    if p.isField "value" then do
      let member ← (parent.tree.child? "key").bind (textOf? source)
      let owner := do
        let object ← parent.parent?
        if object.kind = "object" then objectBinding? source object else none
      return qualify owner member
    else none
  else if parent.kind = "arguments" then argumentName? source p parent
  else if parent.kind = "jsx_expression" then do
    let attr ← parent.parent?
    if attr.kind = "jsx_attribute" then some (handlerName source attr) else none
  else none

/-- The name of a method, behind the class or the object that it is a member of. -/
def methodName? (source : SourceText) (p : Place) : Option String := do
  let member ← writtenName? source p.tree
  let parent ← p.parent?
  let owner :=
    if parent.kind = "class_body" then enclosingClassName? source p
    else if parent.kind = "object" then objectBinding? source parent
    else none
  return qualify owner member

/-- The name of the function at a place. -/
def name? (source : SourceText) (p : Place) : Option String :=
  if isDeclaration p.kind then writtenName? source p.tree
  else if p.kind = method then methodName? source p
  else if isExpression p.kind then p.parent?.bind (valueName? source p)
  else none

/-! ## Hooks -/

/-- Call targets that are hooks. -/
def hooks : List String :=
  ["useCallback", "useMemo", "useEffect", "useLayoutEffect", "useState", "useReducer"]

/-- The part of a text after the last place where a mark stands. -/
def afterLast? (mark text : List Char) : Option (List Char) :=
  go none text
where
  go (last : Option (List Char)) : List Char → Option (List Char)
    | [] => last
    | c :: cs =>
      go (if mark.isPrefixOf (c :: cs) then some ((c :: cs).drop mark.length) else last) cs

/-- The target in the name of an argument of a call. -/
def targetOf? (name : String) : Option (List Char) :=
  match name.toList.reverse with
  | ')' :: rest => afterLast? [' ', '('] rest.reverse
  | _ => none

/-- The hook to which a function is an argument, going by its name. -/
def hook? (name : String) : Option String := do
  let target ← targetOf? name
  let member := String.ofList ((afterLast? ['.'] target).getD target)
  hooks.find? (· == member)

end Naming

end CallAtlas
