import CallAtlas.Grammar.JavaScript

/-!
# The TypeScript grammars

JavaScript with types, in two dialects: one keeps the markup elements, the other
gives up elements for type assertions in angle brackets.
-/

namespace CallAtlas

namespace Grammar.TypeScript

open Rule Body

/-- The rule of that name in the grammar without types. -/
def base (name : String) : Body := JavaScript.grammar.rule name

/-- The expressions that mention a type. -/
def typedExpressions : List Body :=
  ["as_expression", "satisfies_expression", "instantiation_expression", "internal_module"]

/-- The expressions that both dialects know, and the one in which they differ. -/
def untypedExpressions (elements : Bool) : List Body :=
  if elements then [base "expression"]
  else
    ("type_assertion" : Body) ::
      (base "expression").alternatives.filter (fun r => r ≠ ("_jsx_element" : Body))

/-- The rules that types change. With `elements` an expression may be a markup element,
without it may be a type assertion in angle brackets. -/
def changed (elements : Bool) : List (String × Body) := [
  ("export_statement",
    choice [
      base "export_statement",
      seq [lit "export", lit "type", "export_clause", maybe "_from_clause", "_semicolon"],
      seq [lit "export", lit "import", "import_alias"],
      seq [lit "export", lit "=", "expression", "_semicolon"],
      seq [lit "export", lit "as", lit "namespace", "identifier", "_semicolon"]]),
  ("export_specifier", seq [maybe (anyOf ["type", "typeof"]), base "export_specifier"]),
  ("declaration",
    choice [
      base "declaration", "function_signature", "abstract_class_declaration", "module",
      ranked "declare" "internal_module", "type_alias_declaration", "enum_declaration",
      "interface_declaration", "import_alias", "ambient_declaration"]),
  ("import_statement",
    seq [
      lit "import", maybe (anyOf ["type", "typeof"]),
      choice [
        seq ["import_clause", "_from_clause"], "import_require_clause",
        .field "source" "string"],
      maybe "import_attribute", "_semicolon"]),
  ("import_clause",
    choice [
      "namespace_import", "named_imports",
      seq [
        "_import_identifier",
        maybe (seq [lit ",", choice ["namespace_import", "named_imports"]])]]),
  ("import_specifier",
    seq [
      maybe (anyOf ["type", "typeof"]),
      choice [
        .field "name" "_import_identifier",
        seq [
          .field "name" (choice ["_module_export_name", as "identifier" (lit "type")]),
          lit "as", .field "alias" "_import_identifier"]]]),
  ("variable_declarator",
    choice [
      seq [
        .field "name" (choice ["identifier", "_destructuring_pattern"]),
        .field "type" (maybe "type_annotation"), maybe "_initializer"],
      ranked "declare" (seq [
        .field "name" "identifier", lit "!", .field "type" "type_annotation"])]),
  ("catch_clause",
    seq [
      lit "catch",
      maybe (seq [
        lit "(", .field "parameter" (choice ["identifier", "_destructuring_pattern"]),
        maybe (.field "type" "type_annotation"), lit ")"]),
      .field "body" "statement_block"]),
  ("parenthesized_expression",
    seq [
      lit "(",
      choice [
        seq ["expression", .field "type" (maybe "type_annotation")], "sequence_expression"],
      lit ")"]),
  ("expression", choice (typedExpressions ++ untypedExpressions elements)),
  ("primary_expression", choice [base "primary_expression", "non_null_expression"]),
  ("jsx_opening_element", .dynamic (-1) (seq ["_jsx_start_opening_element", lit ">"])),
  ("jsx_self_closing_element", .dynamic (-1) (seq ["_jsx_start_opening_element", lit "/>"])),
  ("class",
    ranked "literal" (seq [
      repeat0 (.field "decorator" "decorator"), lit "class",
      .field "name" (maybe "_type_identifier"),
      .field "type_parameters" (maybe "type_parameters"), maybe "class_heritage",
      .field "body" "class_body"])),
  ("class_declaration",
    leftward "declare" (seq [
      repeat0 (.field "decorator" "decorator"), lit "class", .field "name" "_type_identifier",
      .field "type_parameters" (maybe "type_parameters"), maybe "class_heritage",
      .field "body" "class_body", maybe "_automatic_semicolon"])),
  ("class_heritage",
    choice [seq ["extends_clause", maybe "implements_clause"], "implements_clause"]),
  ("_call_signature",
    seq [
      .field "type_parameters" (maybe "type_parameters"),
      .field "parameters" "formal_parameters",
      .field "return_type" (maybe (choice [
        "type_annotation", "asserts_annotation", "type_predicate_annotation"]))]),
  ("_formal_parameter", choice ["required_parameter", "optional_parameter"]),
  ("call_expression",
    choice [
      ranked "call" (seq [
        .field "function" (choice ["expression", "import"]),
        .field "type_arguments" (maybe "type_arguments"), .field "arguments" "arguments"]),
      ranked "template_call" (seq [
        .field "function" (choice ["primary_expression", "new_expression"]),
        .field "arguments" "template_string"]),
      ranked "member" (seq [
        .field "function" "primary_expression", lit "?.",
        .field "type_arguments" (maybe "type_arguments"), .field "arguments" "arguments"])]),
  ("new_expression",
    rightward "new" (seq [
      lit "new", .field "constructor" "primary_expression",
      .field "type_arguments" (maybe "type_arguments"),
      .field "arguments" (maybe "arguments")])),
  ("_lhs_expression", choice [base "_lhs_expression", "non_null_expression"]),
  ("assignment_expression",
    rightward "assign" (seq [
      .field "left" (choice ["parenthesized_expression", "_lhs_expression"]), lit "=",
      .field "right" "expression"])),
  ("_augmented_assignment_lhs",
    choice [base "_augmented_assignment_lhs", "non_null_expression"]),
  ("decorator",
    seq [
      lit "@",
      choice [
        "identifier", as "member_expression" "decorator_member_expression",
        as "call_expression" "decorator_call_expression",
        as "parenthesized_expression" "decorator_parenthesized_expression"]]),
  ("decorator_call_expression",
    ranked "call" (seq [
      .field "function" (choice [
        "identifier", as "member_expression" "decorator_member_expression"]),
      maybe (.field "type_arguments" "type_arguments"), .field "arguments" "arguments"])),
  ("class_body",
    seq [
      openBrace,
      repeat0 (choice [
        seq [
          repeat0 (.field "decorator" "decorator"), "method_definition", maybe "_semicolon"],
        seq ["method_signature", choice ["_function_signature_automatic_semicolon", lit ","]],
        "class_static_block",
        seq [
          choice [
            "abstract_method_signature", "index_signature", "method_signature",
            "public_field_definition"],
          choice ["_semicolon", lit ","]],
        lit ";"]),
      closeBrace]),
  ("method_definition",
    leftward plain (seq [
      maybe "accessibility_modifier", maybe (lit "static"), maybe "override_modifier",
      maybe (lit "readonly"), maybe (lit "async"), maybe (anyOf ["get", "set", "*"]),
      .field "name" "_property_name", maybe (lit "?"), "_call_signature",
      .field "body" "statement_block"])),
  ("_reserved_identifier",
    choice [
      anyOf [
        "declare", "namespace", "type", "public", "private", "protected", "override", "readonly",
        "module", "any", "number", "boolean", "string", "symbol", "export", "object", "new",
        "readonly"],
      base "_reserved_identifier"])]

/-- Class members, signatures and the expressions that mention types. -/
def declarations : List (String × Body) := [
  ("public_field_definition",
    seq [
      repeat0 (.field "decorator" "decorator"),
      maybe (choice [
        seq [lit "declare", maybe "accessibility_modifier"],
        seq ["accessibility_modifier", maybe (lit "declare")]]),
      choice [
        seq [maybe (lit "static"), maybe "override_modifier", maybe (lit "readonly")],
        seq [maybe (lit "abstract"), maybe (lit "readonly")],
        seq [maybe (lit "readonly"), maybe (lit "abstract")], maybe (lit "accessor")],
      .field "name" "_property_name", maybe (anyOf ["?", "!"]),
      .field "type" (maybe "type_annotation"), maybe "_initializer"]),
  ("_jsx_start_opening_element",
    seq [
      lit "<",
      maybe (seq [
        choice [
          .field "name" (choice ["_jsx_identifier", "jsx_namespace_name"]),
          seq [
            .field "name" (choice ["identifier", as "member_expression" "nested_identifier"]),
            .field "type_arguments" (maybe "type_arguments")]],
        repeat0 (.field "attribute" "_jsx_attribute")])]),
  ("_import_identifier", choice ["identifier", as "identifier" (lit "type")]),
  ("non_null_expression", leftward "unary" (seq ["expression", lit "!"])),
  ("method_signature",
    seq [
      maybe "accessibility_modifier", maybe (lit "static"), maybe "override_modifier",
      maybe (lit "readonly"), maybe (lit "async"), maybe (anyOf ["get", "set", "*"]),
      .field "name" "_property_name", maybe (lit "?"), "_call_signature"]),
  ("abstract_method_signature",
    seq [
      maybe "accessibility_modifier", lit "abstract", maybe "override_modifier",
      maybe (anyOf ["get", "set", "*"]), .field "name" "_property_name", maybe (lit "?"),
      "_call_signature"]),
  ("function_signature",
    seq [
      maybe (lit "async"), lit "function", .field "name" "identifier", "_call_signature",
      choice ["_semicolon", "_function_signature_automatic_semicolon"]]),
  ("decorator_parenthesized_expression",
    seq [
      lit "(",
      choice [
        "identifier", as "member_expression" "decorator_member_expression",
        as "call_expression" "decorator_call_expression"],
      lit ")"]),
  ("type_assertion", leftward "unary" (seq ["type_arguments", "expression"])),
  ("as_expression",
    leftward "binary" (seq ["expression", lit "as", choice [lit "const", "type"]])),
  ("satisfies_expression", leftward "binary" (seq ["expression", lit "satisfies", "type"])),
  ("instantiation_expression",
    ranked "instantiation" (seq ["expression", .field "type_arguments" "type_arguments"])),
  ("import_require_clause",
    seq ["identifier", lit "=", lit "require", lit "(", .field "source" "string", lit ")"]),
  ("extends_clause", seq [lit "extends", commaSep1 "_extends_clause_single"]),
  ("_extends_clause_single",
    ranked "extends" (seq [
      .field "value" "expression", .field "type_arguments" (maybe "type_arguments")])),
  ("implements_clause", seq [lit "implements", commaSep1 "type"])]

/-- Ambient declarations, modules, interfaces, enumerations and aliases. -/
def modules : List (String × Body) := [
  ("ambient_declaration",
    seq [
      lit "declare",
      choice [
        "declaration", seq [lit "global", "statement_block"],
        seq [
          lit "module", lit ".", as "property_identifier" "identifier", lit ":", "type",
          "_semicolon"]]]),
  ("abstract_class_declaration",
    ranked "declare" (seq [
      repeat0 (.field "decorator" "decorator"), lit "abstract", lit "class",
      .field "name" "_type_identifier", .field "type_parameters" (maybe "type_parameters"),
      maybe "class_heritage", .field "body" "class_body"])),
  ("module", seq [lit "module", "_module"]),
  ("internal_module", seq [lit "namespace", "_module"]),
  ("_module",
    rightward plain (seq [
      .field "name" (choice ["string", "identifier", "nested_identifier"]),
      .field "body" (maybe "statement_block")])),
  ("import_alias",
    seq [
      lit "import", "identifier", lit "=", choice ["identifier", "nested_identifier"],
      "_semicolon"]),
  ("nested_type_identifier",
    ranked "member" (seq [
      .field "module" (choice ["identifier", "nested_identifier"]), lit ".",
      .field "name" "_type_identifier"])),
  ("interface_declaration",
    seq [
      lit "interface", .field "name" "_type_identifier",
      .field "type_parameters" (maybe "type_parameters"), maybe "extends_type_clause",
      .field "body" (as "interface_body" "object_type")]),
  ("extends_type_clause",
    seq [
      lit "extends",
      commaSep1 (.field "type" (choice [
        "_type_identifier", "nested_type_identifier", "generic_type"]))]),
  ("enum_declaration",
    seq [
      maybe (lit "const"), lit "enum", .field "name" "identifier", .field "body" "enum_body"]),
  ("enum_body",
    seq [
      openBrace,
      maybe (seq [
        commaSep1 (choice [.field "name" "_property_name", "enum_assignment"]),
        maybe (lit ",")]),
      closeBrace]),
  ("enum_assignment", seq [.field "name" "_property_name", "_initializer"]),
  ("type_alias_declaration",
    seq [
      lit "type", .field "name" "_type_identifier",
      .field "type_parameters" (maybe "type_parameters"), lit "=", .field "value" "type",
      "_semicolon"])]

/-- Parameters and annotations. -/
def parameters : List (String × Body) := [
  ("accessibility_modifier", anyOf ["public", "private", "protected"]),
  ("override_modifier", lit "override"),
  ("required_parameter",
    seq ["_parameter_name", .field "type" (maybe "type_annotation"), maybe "_initializer"]),
  ("optional_parameter",
    seq [
      "_parameter_name", lit "?", .field "type" (maybe "type_annotation"),
      maybe "_initializer"]),
  ("_parameter_name",
    seq [
      repeat0 (.field "decorator" "decorator"), maybe "accessibility_modifier",
      maybe "override_modifier", maybe (lit "readonly"),
      .field "pattern" (choice ["pattern", "this"])]),
  ("omitting_type_annotation", seq [lit "-?:", "type"]),
  ("adding_type_annotation", seq [lit "+?:", "type"]),
  ("opting_type_annotation", seq [lit "?:", "type"]),
  ("type_annotation", seq [lit ":", "type"]),
  ("_type_query_member_expression_in_type_annotation",
    seq [
      .field "object" (choice [
        "import", as "member_expression" "_type_query_member_expression_in_type_annotation",
        as "call_expression" "_type_query_call_expression_in_type_annotation"]),
      lit ".",
      .field "property" (choice [
        "private_property_identifier", as "property_identifier" "identifier"])]),
  ("_type_query_call_expression_in_type_annotation",
    seq [
      .field "function" (choice [
        "import", as "member_expression" "_type_query_member_expression_in_type_annotation"]),
      .field "arguments" "arguments"]),
  ("asserts", seq [lit "asserts", choice ["type_predicate", "identifier", "this"]]),
  ("asserts_annotation", seq [seq [lit ":", "asserts"]])]

/-- Types and queries of types. -/
def types : List (String × Body) := [
  ("type",
    choice [
      "primary_type", "function_type", "readonly_type", "constructor_type", "infer_type",
      ranked (.number (-1))
        (as "member_expression" "_type_query_member_expression_in_type_annotation"),
      ranked (.number (-1))
        (as "call_expression" "_type_query_call_expression_in_type_annotation")]),
  ("tuple_parameter",
    seq [.field "name" (choice ["identifier", "rest_pattern"]), .field "type" "type_annotation"]),
  ("optional_tuple_parameter",
    seq [.field "name" "identifier", lit "?", .field "type" "type_annotation"]),
  ("optional_type", seq ["type", lit "?"]),
  ("rest_type", seq [lit "...", "type"]),
  ("_tuple_type_member",
    choice [
      as "required_parameter" "tuple_parameter",
      as "optional_parameter" "optional_tuple_parameter", "optional_type", "rest_type", "type"]),
  ("constructor_type",
    leftward plain (seq [
      maybe (lit "abstract"), lit "new",
      .field "type_parameters" (maybe "type_parameters"),
      .field "parameters" "formal_parameters", lit "=>", .field "type" "type"])),
  ("primary_type",
    choice [
      "parenthesized_type", "predefined_type", "_type_identifier", "nested_type_identifier",
      "generic_type", "object_type", "array_type", "tuple_type", "flow_maybe_type",
      "type_query", "index_type_query", as "this_type" "this", "existential_type",
      "literal_type", "lookup_type", "conditional_type", "template_literal_type",
      "intersection_type", "union_type", lit "const"]),
  ("template_type", seq [lit "$\x7b", choice ["primary_type", "infer_type"], closeBrace]),
  ("template_literal_type",
    seq [
      lit "`", repeat0 (choice [as "string_fragment" "_template_chars", "template_type"]),
      lit "`"]),
  ("infer_type",
    rightward plain (seq [
      lit "infer", "_type_identifier", maybe (seq [lit "extends", "type"])])),
  ("conditional_type",
    rightward plain (seq [
      .field "left" "type", lit "extends", .field "right" "type", lit "?",
      .field "consequence" "type", lit ":", .field "alternative" "type"])),
  ("generic_type",
    ranked "call" (seq [
      .field "name" (choice ["_type_identifier", "nested_type_identifier"]),
      .field "type_arguments" "type_arguments"])),
  ("type_predicate",
    seq [
      .field "name" (choice ["identifier", "this", as "identifier" "predefined_type"]),
      lit "is", .field "type" "type"]),
  ("type_predicate_annotation", seq [seq [lit ":", "type_predicate"]]),
  ("_type_query_member_expression",
    seq [
      .field "object" (choice [
        "identifier", "this", as "subscript_expression" "_type_query_subscript_expression",
        as "member_expression" "_type_query_member_expression",
        as "call_expression" "_type_query_call_expression"]),
      anyOf [".", "?."],
      .field "property" (choice [
        "private_property_identifier", as "property_identifier" "identifier"])]),
  ("_type_query_subscript_expression",
    seq [
      .field "object" (choice [
        "identifier", "this", as "subscript_expression" "_type_query_subscript_expression",
        as "member_expression" "_type_query_member_expression",
        as "call_expression" "_type_query_call_expression"]),
      maybe (lit "?."), lit "[",
      .field "index" (choice ["predefined_type", "string", "number"]), lit "]"]),
  ("_type_query_call_expression",
    seq [
      .field "function" (choice [
        "import", "identifier", as "member_expression" "_type_query_member_expression",
        as "subscript_expression" "_type_query_subscript_expression"]),
      .field "arguments" "arguments"]),
  ("_type_query_instantiation_expression",
    seq [
      .field "function" (choice [
        "import", "identifier", as "member_expression" "_type_query_member_expression",
        as "subscript_expression" "_type_query_subscript_expression"]),
      .field "type_arguments" "type_arguments"]),
  ("type_query",
    rightward plain (seq [
      lit "typeof",
      choice [
        as "subscript_expression" "_type_query_subscript_expression",
        as "member_expression" "_type_query_member_expression",
        as "call_expression" "_type_query_call_expression",
        as "instantiation_expression" "_type_query_instantiation_expression", "identifier",
        "this"]])),
  ("index_type_query", seq [lit "keyof", "primary_type"]),
  ("lookup_type", seq ["primary_type", lit "[", "type", lit "]"]),
  ("mapped_type_clause",
    seq [
      .field "name" "_type_identifier", lit "in", .field "type" "type",
      maybe (seq [lit "as", .field "alias" "type"])]),
  ("literal_type",
    choice [
      as "unary_expression" "_number", "number", "string", "true", "false", "null", "undefined"]),
  ("_number",
    leftward (.number 1) (seq [.field "operator" (anyOf ["-", "+"]), .field "argument" "number"])),
  ("existential_type", lit "*"),
  ("flow_maybe_type", rightward plain (seq [lit "?", "primary_type"])),
  ("parenthesized_type", seq [lit "(", "type", lit ")"]),
  ("predefined_type",
    choice [
      lit "any", lit "number", lit "boolean", lit "string", lit "symbol",
      asText "unique symbol" (seq [lit "unique", lit "symbol"]), lit "void", lit "unknown",
      lit "string", lit "never", lit "object"])]

/-- Type arguments, object types, signatures and compound types. -/
def typeForms : List (String × Body) := [
  ("type_arguments", seq [lit "<", commaSep1 "type", maybe (lit ","), lit ">"]),
  ("object_type",
    seq [
      anyOf ["\x7b", "\x7b|"],
      maybe (seq [
        maybe (anyOf [",", ";"]),
        seq [
          choice [
            "export_statement", "property_signature", "call_signature", "construct_signature",
            "index_signature", "method_signature"],
          repeat0 (seq [
            choice [lit ",", "_semicolon"],
            choice [
              "export_statement", "property_signature", "call_signature", "construct_signature",
              "index_signature", "method_signature"]])],
        maybe (choice [lit ",", "_semicolon"])]),
      anyOf ["\x7d", "|\x7d"]]),
  ("call_signature", "_call_signature"),
  ("property_signature",
    seq [
      maybe "accessibility_modifier", maybe (lit "static"), maybe "override_modifier",
      maybe (lit "readonly"), .field "name" "_property_name", maybe (lit "?"),
      .field "type" (maybe "type_annotation")]),
  ("type_parameters", seq [lit "<", commaSep1 "type_parameter", maybe (lit ","), lit ">"]),
  ("type_parameter",
    seq [
      maybe (lit "const"), .field "name" "_type_identifier",
      .field "constraint" (maybe "constraint"), .field "value" (maybe "default_type")]),
  ("default_type", seq [lit "=", "type"]),
  ("constraint", seq [anyOf ["extends", ":"], "type"]),
  ("construct_signature",
    seq [
      maybe (lit "abstract"), lit "new",
      .field "type_parameters" (maybe "type_parameters"),
      .field "parameters" "formal_parameters", .field "type" (maybe "type_annotation")]),
  ("index_signature",
    seq [
      maybe (seq [.field "sign" (maybe (anyOf ["-", "+"])), lit "readonly"]), lit "[",
      choice [
        seq [
          .field "name" (choice ["identifier", as "identifier" "_reserved_identifier"]),
          lit ":", .field "index_type" "type"],
        "mapped_type_clause"],
      lit "]",
      .field "type" (choice [
        "type_annotation", "omitting_type_annotation", "adding_type_annotation",
        "opting_type_annotation"])]),
  ("array_type", seq ["primary_type", lit "[", lit "]"]),
  ("tuple_type", seq [lit "[", commaSep "_tuple_type_member", maybe (lit ","), lit "]"]),
  ("readonly_type", seq [lit "readonly", "type"]),
  ("union_type", leftward plain (seq [maybe "type", lit "|", "type"])),
  ("intersection_type", leftward plain (seq [maybe "type", lit "&", "type"])),
  ("function_type",
    leftward plain (seq [
      .field "type_parameters" (maybe "type_parameters"),
      .field "parameters" "formal_parameters", lit "=>",
      .field "return_type" (choice ["type", "asserts", "type_predicate"])])),
  ("_type_identifier", as "type_identifier" "identifier")]

/-- Readings from the strongest to the weakest, after those of the grammar without types. -/
def precedences : List (List Rank) := [
  [.level "call", .level "instantiation", .level "unary", .level "binary",
   .rule "await_expression", .rule "arrow_function"],
  [.level "extends", .level "instantiation"],
  [.rule "intersection_type", .rule "union_type", .rule "conditional_type",
   .rule "function_type", .level "binary", .rule "type_predicate", .rule "readonly_type"],
  [.rule "mapped_type_clause", .rule "primary_expression"],
  [.rule "accessibility_modifier", .rule "primary_expression"],
  [.level "unary_void", .rule "expression"],
  [.rule "extends_clause", .rule "primary_expression"],
  [.level "unary", .level "assign"],
  [.level "declare", .rule "expression"],
  [.rule "predefined_type", .rule "unary_expression"],
  [.rule "type", .rule "flow_maybe_type"],
  [.rule "tuple_type", .rule "array_type", .rule "pattern", .rule "type"],
  [.rule "readonly_type", .rule "pattern"],
  [.rule "readonly_type", .rule "primary_expression"],
  [.rule "type_query", .rule "subscript_expression", .rule "expression"],
  [.rule "type_query", .rule "_type_query_subscript_expression"],
  [.rule "nested_type_identifier", .rule "generic_type", .rule "primary_type",
   .rule "lookup_type", .rule "index_type_query", .rule "type"],
  [.rule "as_expression", .rule "satisfies_expression", .rule "primary_type"],
  [.rule "_type_query_member_expression", .rule "member_expression"],
  [.rule "member_expression", .rule "_type_query_member_expression_in_type_annotation"],
  [.rule "_type_query_member_expression", .rule "primary_expression"],
  [.rule "_type_query_subscript_expression", .rule "subscript_expression"],
  [.rule "_type_query_subscript_expression", .rule "primary_expression"],
  [.rule "_type_query_call_expression", .rule "primary_expression"],
  [.rule "_type_query_instantiation_expression", .rule "primary_expression"],
  [.rule "type_query", .rule "primary_expression"],
  [.rule "override_modifier", .rule "primary_expression"],
  [.rule "decorator_call_expression", .rule "decorator"],
  [.rule "literal_type", .rule "pattern"],
  [.rule "predefined_type", .rule "pattern"],
  [.rule "call_expression", .rule "_type_query_call_expression"],
  [.rule "call_expression", .rule "_type_query_call_expression_in_type_annotation"],
  [.rule "new_expression", .rule "primary_expression"],
  [.rule "meta_property", .rule "primary_expression"],
  [.rule "construct_signature", .rule "_property_name"]]

/-- The grammar of one dialect. -/
def grammar (elements : Bool) : Grammar where
  rules := Grammar.override JavaScript.grammar.rules
    (changed elements ++ declarations ++ modules ++ parameters ++ types ++ typeForms)
  externals := JavaScript.grammar.externals ++
    [.only "_function_signature_automatic_semicolon", .only "__error_recovery"]
  extras := JavaScript.grammar.extras
  supertypes := JavaScript.grammar.supertypes ++ ["type", "primary_type"]
  inlined := JavaScript.grammar.inlined.filter
      (fun name => name ≠ "_formal_parameter" && name ≠ "_call_signature") ++
    ["_type_identifier", "_jsx_start_opening_element"]
  precedences := JavaScript.grammar.precedences ++ precedences
  word := "identifier"

end Grammar.TypeScript

end CallAtlas
