import CallAtlas.Analysis.Source
import CallAtlas.Grammar.JavaScript
import CallAtlas.Grammar.TypeScript
import CallAtlas.Parse.Tree

/-!
# The parsers of the dialects

Only the last dialect has to describe what is wrong with a text, so only its parser
goes on after errors. The others stop there, and the tree of the text is then one
error. Parsers remember the states that they have met.
-/

namespace CallAtlas

/-- One parser per dialect. -/
structure Parsers where
  tsx : Parser
  typescript : Parser
  javascript : Parser

namespace Parsers

/-- The parsers before any text. -/
def initial : Parsers :=
  { tsx := .strict (Grammar.TypeScript.grammar true).language true
    typescript := .strict (Grammar.TypeScript.grammar false).language true
    javascript := .recovering Grammar.JavaScript.grammar.language false }

/-- A tree that says no more than that a text has errors. -/
def errorTree (source : SourceText) : SyntaxTree :=
  .node
    { kind := "ERROR", named := true, field := none, isError := true, isMissing := false
      hasError := true, start := 0, stop := source.size
      startPoint := source.point 0, stopPoint := source.point source.size } []

/-- The tree that a parser gives. -/
def treeOf (source : SourceText) (result : Option Subtree × Parser) : SyntaxTree :=
  (result.1.bind (Subtree.toTree result.2 source)).getD (errorTree source)

/-- Parses a text in a dialect. -/
def parse (dialect : Dialect) (source : SourceText) : StateM Parsers SyntaxTree :=
  fun ⟨tsx, typescript, javascript⟩ =>
    match dialect with
    | .tsx =>
      let result := tsx.parse source
      (treeOf source result, ⟨result.2, typescript, javascript⟩)
    | .typescript =>
      let result := typescript.parse source
      (treeOf source result, ⟨tsx, result.2, javascript⟩)
    | .javascript =>
      let result := javascript.parse source
      (treeOf source result, ⟨tsx, typescript, result.2⟩)

end Parsers

end CallAtlas
