import CallAtlas.Grammar.Lexemes

/-!
# The JavaScript grammar

JavaScript with markup elements. Names that begin with an underscore group
alternatives and are not shown in the tree.
-/

namespace CallAtlas

namespace Grammar.JavaScript

open Rule Body

/-- Programs, imports and exports. -/
def modules : List (String × Body) := [
  ("program", seq [maybe "hash_bang_line", repeat0 "statement"]),
  ("hash_bang_line", token Lexeme.hashBangLine),
  ("export_statement",
    choice [
      seq [
        lit "export",
        choice [
          seq [lit "*", "_from_clause"], seq ["namespace_export", "_from_clause"],
          seq ["export_clause", "_from_clause"], "export_clause"],
        "_semicolon"],
      seq [
        repeat0 (.field "decorator" "decorator"), lit "export",
        choice [
          .field "declaration" "declaration",
          seq [
            lit "default",
            choice [
              .field "declaration" "declaration",
              seq [.field "value" "expression", "_semicolon"]]]]]]),
  ("namespace_export", seq [lit "*", lit "as", "_module_export_name"]),
  ("export_clause", seq [openBrace, commaSep "export_specifier", maybe (lit ","), closeBrace]),
  ("export_specifier",
    seq [
      .field "name" "_module_export_name",
      maybe (seq [lit "as", .field "alias" "_module_export_name"])]),
  ("_module_export_name", choice ["identifier", "string"]),
  ("declaration",
    choice [
      "function_declaration", "generator_function_declaration", "class_declaration",
      "lexical_declaration", "variable_declaration"]),
  ("import", lit "import"),
  ("import_statement",
    seq [
      lit "import", choice [seq ["import_clause", "_from_clause"], .field "source" "string"],
      maybe "import_attribute", "_semicolon"]),
  ("import_clause",
    choice [
      "namespace_import", "named_imports",
      seq ["identifier", maybe (seq [lit ",", choice ["namespace_import", "named_imports"]])]]),
  ("_from_clause", seq [lit "from", .field "source" "string"]),
  ("namespace_import", seq [lit "*", lit "as", "identifier"]),
  ("named_imports", seq [openBrace, commaSep "import_specifier", maybe (lit ","), closeBrace]),
  ("import_specifier",
    choice [
      .field "name" "identifier",
      seq [.field "name" "_module_export_name", lit "as", .field "alias" "identifier"]]),
  ("import_attribute", seq [lit "with", "object"])]

/-- Statements and declarations. -/
def statements : List (String × Body) := [
  ("statement",
    choice [
      "export_statement", "import_statement", "debugger_statement", "expression_statement",
      "declaration", "statement_block", "if_statement", "switch_statement", "for_statement",
      "for_in_statement", "while_statement", "do_statement", "try_statement", "with_statement",
      "break_statement", "continue_statement", "return_statement", "throw_statement",
      "empty_statement", "labeled_statement"]),
  ("expression_statement", seq ["_expressions", "_semicolon"]),
  ("variable_declaration", seq [lit "var", commaSep1 "variable_declarator", "_semicolon"]),
  ("lexical_declaration",
    seq [.field "kind" (anyOf ["let", "const"]), commaSep1 "variable_declarator", "_semicolon"]),
  ("variable_declarator",
    seq [
      .field "name" (choice ["identifier", "_destructuring_pattern"]), maybe "_initializer"]),
  ("statement_block",
    rightward plain (seq [
      openBrace, repeat0 "statement", closeBrace, maybe "_automatic_semicolon"])),
  ("else_clause", seq [lit "else", "statement"]),
  ("if_statement",
    rightward plain (seq [
      lit "if", .field "condition" "parenthesized_expression", .field "consequence" "statement",
      maybe (.field "alternative" "else_clause")])),
  ("switch_statement",
    seq [lit "switch", .field "value" "parenthesized_expression", .field "body" "switch_body"]),
  ("for_statement",
    seq [
      lit "for", lit "(",
      choice [
        .field "initializer" (choice ["lexical_declaration", "variable_declaration"]),
        seq [.field "initializer" "_expressions", lit ";"],
        .field "initializer" "empty_statement"],
      .field "condition" (choice [seq ["_expressions", lit ";"], "empty_statement"]),
      .field "increment" (maybe "_expressions"), lit ")", .field "body" "statement"]),
  ("for_in_statement",
    seq [lit "for", maybe (lit "await"), "_for_header", .field "body" "statement"]),
  ("_for_header",
    seq [
      lit "(",
      choice [
        .field "left" (choice ["_lhs_expression", "parenthesized_expression"]),
        seq [
          .field "kind" (lit "var"),
          .field "left" (choice ["identifier", "_destructuring_pattern"]),
          maybe "_initializer"],
        seq [
          .field "kind" (anyOf ["let", "const"]),
          .field "left" (choice ["identifier", "_destructuring_pattern"]),
          maybe "_automatic_semicolon"]],
      .field "operator" (anyOf ["in", "of"]), .field "right" "_expressions", lit ")"]),
  ("while_statement",
    seq [lit "while", .field "condition" "parenthesized_expression", .field "body" "statement"]),
  ("do_statement",
    rightward plain (seq [
      lit "do", .field "body" "statement", lit "while",
      .field "condition" "parenthesized_expression", maybe "_semicolon"])),
  ("try_statement",
    seq [
      lit "try", .field "body" "statement_block", maybe (.field "handler" "catch_clause"),
      maybe (.field "finalizer" "finally_clause")]),
  ("with_statement",
    seq [lit "with", .field "object" "parenthesized_expression", .field "body" "statement"]),
  ("break_statement",
    seq [
      lit "break", .field "label" (maybe (as "statement_identifier" "identifier")),
      "_semicolon"]),
  ("continue_statement",
    seq [
      lit "continue", .field "label" (maybe (as "statement_identifier" "identifier")),
      "_semicolon"]),
  ("debugger_statement", seq [lit "debugger", "_semicolon"]),
  ("return_statement", seq [lit "return", maybe "_expressions", "_semicolon"]),
  ("throw_statement", seq [lit "throw", "_expressions", "_semicolon"]),
  ("empty_statement", lit ";"),
  ("labeled_statement",
    .dynamic (-1) (seq [
      .field "label" (as "statement_identifier" (choice ["identifier", "_reserved_identifier"])),
      lit ":", .field "body" "statement"])),
  ("switch_body", seq [openBrace, repeat0 (choice ["switch_case", "switch_default"]), closeBrace]),
  ("switch_case",
    seq [
      lit "case", .field "value" "_expressions", lit ":", .field "body" (repeat0 "statement")]),
  ("switch_default", seq [lit "default", lit ":", .field "body" (repeat0 "statement")]),
  ("catch_clause",
    seq [
      lit "catch",
      maybe (seq [
        lit "(", .field "parameter" (choice ["identifier", "_destructuring_pattern"]), lit ")"]),
      .field "body" "statement_block"]),
  ("finally_clause", seq [lit "finally", .field "body" "statement_block"])]

/-- Groups of expressions, objects, arrays and patterns. -/
def expressions : List (String × Body) := [
  ("parenthesized_expression", seq [lit "(", "_expressions", lit ")"]),
  ("_expressions", choice ["expression", "sequence_expression"]),
  ("expression",
    choice [
      "primary_expression", "_jsx_element", "assignment_expression",
      "augmented_assignment_expression", "await_expression", "unary_expression",
      "binary_expression", "ternary_expression", "update_expression", "new_expression",
      "yield_expression"]),
  ("primary_expression",
    choice [
      "subscript_expression", "member_expression", "parenthesized_expression", "_identifier",
      as "identifier" "_reserved_identifier", "this", "super", "number", "string",
      "template_string", "regex", "true", "false", "null", "object", "array",
      "function_expression", "arrow_function", "generator_function", "class", "meta_property",
      "call_expression"]),
  ("yield_expression",
    rightward plain (seq [
      lit "yield", choice [seq [lit "*", "expression"], maybe "expression"]])),
  ("object",
    ranked "object" (seq [
      openBrace,
      commaSep (maybe (choice [
        "pair", "spread_element", "method_definition",
        as "shorthand_property_identifier" (choice ["identifier", "_reserved_identifier"])])),
      closeBrace])),
  ("object_pattern",
    ranked "object" (seq [
      openBrace,
      commaSep (maybe (choice [
        "pair_pattern", "rest_pattern", "object_assignment_pattern",
        as "shorthand_property_identifier_pattern" (choice [
          "identifier", "_reserved_identifier"])])),
      closeBrace])),
  ("assignment_pattern", seq [.field "left" "pattern", lit "=", .field "right" "expression"]),
  ("object_assignment_pattern",
    seq [
      .field "left" (choice [
        as "shorthand_property_identifier_pattern" (choice [
          "_reserved_identifier", "identifier"]),
        "_destructuring_pattern"]),
      lit "=", .field "right" "expression"]),
  ("array",
    seq [lit "[", commaSep (maybe (choice ["expression", "spread_element"])), lit "]"]),
  ("array_pattern",
    seq [lit "[", commaSep (maybe (choice ["pattern", "assignment_pattern"])), lit "]"])]

/-- Markup elements inside expressions. -/
def elements : List (String × Body) := [
  ("_jsx_element", choice ["jsx_element", "jsx_self_closing_element"]),
  ("jsx_element",
    seq [
      .field "open_tag" "jsx_opening_element", repeat0 "_jsx_child",
      .field "close_tag" "jsx_closing_element"]),
  ("html_character_reference", token Lexeme.htmlCharacterReference),
  ("jsx_expression",
    seq [
      openBrace, maybe (choice ["expression", "sequence_expression", "spread_element"]),
      closeBrace]),
  ("_jsx_child",
    choice ["jsx_text", "html_character_reference", "_jsx_element", "jsx_expression"]),
  ("jsx_opening_element",
    .dynamic (-1) (seq [
      lit "<",
      maybe (seq [
        .field "name" "_jsx_element_name", repeat0 (.field "attribute" "_jsx_attribute")]),
      lit ">"])),
  ("jsx_identifier", token Lexeme.jsxIdentifier),
  ("_jsx_identifier", choice [as "identifier" "jsx_identifier", "identifier"]),
  ("nested_identifier",
    ranked "member" (seq [
      .field "object" (choice ["identifier", as "member_expression" "nested_identifier"]),
      lit ".", .field "property" (as "property_identifier" "identifier")])),
  ("jsx_namespace_name", seq ["_jsx_identifier", lit ":", "_jsx_identifier"]),
  ("_jsx_element_name",
    choice ["_jsx_identifier", as "member_expression" "nested_identifier", "jsx_namespace_name"]),
  ("jsx_closing_element",
    seq [lit "</", maybe (.field "name" "_jsx_element_name"), lit ">"]),
  ("jsx_self_closing_element",
    seq [
      lit "<", .field "name" "_jsx_element_name", repeat0 (.field "attribute" "_jsx_attribute"),
      lit "/>"]),
  ("_jsx_attribute", choice ["jsx_attribute", "jsx_expression"]),
  ("_jsx_attribute_name",
    choice [as "property_identifier" "_jsx_identifier", "jsx_namespace_name"]),
  ("jsx_attribute",
    seq ["_jsx_attribute_name", maybe (seq [lit "=", "_jsx_attribute_value"])]),
  ("_jsx_string",
    choice [
      seq [
        lit "\"",
        repeat0 (choice [
          as "string_fragment" "unescaped_double_jsx_string_fragment",
          "html_character_reference"]),
        lit "\""],
      seq [
        lit "'",
        repeat0 (choice [
          as "string_fragment" "unescaped_single_jsx_string_fragment",
          "html_character_reference"]),
        lit "'"]]),
  ("unescaped_double_jsx_string_fragment", token Lexeme.unescapedDoubleJsxStringFragment),
  ("unescaped_single_jsx_string_fragment", token Lexeme.unescapedSingleJsxStringFragment),
  ("_jsx_attribute_value",
    choice [as "string" "_jsx_string", "jsx_expression", "_jsx_element"])]

/-- The binary operators and the ranks of their readings. -/
def operators : List (String × String) := [
  ("&&", "logical_and"), ("||", "logical_or"), (">>", "binary_shift"), (">>>", "binary_shift"),
  ("<<", "binary_shift"), ("&", "bitwise_and"), ("^", "bitwise_xor"), ("|", "bitwise_or"),
  ("+", "binary_plus"), ("-", "binary_plus"), ("*", "binary_times"), ("/", "binary_times"),
  ("%", "binary_times"), ("**", "binary_exp"), ("<", "binary_relation"),
  ("<=", "binary_relation"), ("==", "binary_equality"), ("===", "binary_equality"),
  ("!=", "binary_equality"), ("!==", "binary_equality"), (">=", "binary_relation"),
  (">", "binary_relation"), ("??", "ternary"), ("instanceof", "binary_relation"),
  ("in", "binary_relation")]

/-- One binary operator. Only powers group to the right, and only `in` may have a
private name on its left. -/
def binaryReading (op : String × String) : Body :=
  let body := seq [
    .field "left"
      (if op.1 = "in" then choice ["expression", "private_property_identifier"] else "expression"),
    .field "operator" (lit op.1), .field "right" "expression"]
  if op.1 = "**" then rightward (.named op.2) body else leftward (.named op.2) body

/-- Classes, functions, calls and operators. -/
def functions : List (String × Body) := [
  ("class",
    ranked "literal" (seq [
      repeat0 (.field "decorator" "decorator"), lit "class",
      .field "name" (maybe "identifier"), maybe "class_heritage",
      .field "body" "class_body"])),
  ("class_declaration",
    ranked "declare" (seq [
      repeat0 (.field "decorator" "decorator"), lit "class", .field "name" "identifier",
      maybe "class_heritage", .field "body" "class_body", maybe "_automatic_semicolon"])),
  ("class_heritage", seq [lit "extends", "expression"]),
  ("function_expression",
    ranked "literal" (seq [
      maybe (lit "async"), lit "function", .field "name" (maybe "identifier"),
      "_call_signature", .field "body" "statement_block"])),
  ("function_declaration",
    rightward "declare" (seq [
      maybe (lit "async"), lit "function", .field "name" "identifier", "_call_signature",
      .field "body" "statement_block", maybe "_automatic_semicolon"])),
  ("generator_function",
    ranked "literal" (seq [
      maybe (lit "async"), lit "function", lit "*", .field "name" (maybe "identifier"),
      "_call_signature", .field "body" "statement_block"])),
  ("generator_function_declaration",
    rightward "declare" (seq [
      maybe (lit "async"), lit "function", lit "*", .field "name" "identifier",
      "_call_signature", .field "body" "statement_block", maybe "_automatic_semicolon"])),
  ("arrow_function",
    seq [
      maybe (lit "async"),
      choice [
        .field "parameter" (choice [as "identifier" "_reserved_identifier", "identifier"]),
        "_call_signature"],
      lit "=>", .field "body" (choice ["expression", "statement_block"])]),
  ("_call_signature", .field "parameters" "formal_parameters"),
  ("_formal_parameter", choice ["pattern", "assignment_pattern"]),
  ("optional_chain", lit "?."),
  ("call_expression",
    choice [
      ranked "call" (seq [
        .field "function" (choice ["expression", "import"]), .field "arguments" "arguments"]),
      ranked "template_call" (seq [
        .field "function" (choice ["primary_expression", "new_expression"]),
        .field "arguments" "template_string"]),
      ranked "member" (seq [
        .field "function" "primary_expression", .field "optional_chain" "optional_chain",
        .field "arguments" "arguments"])]),
  ("new_expression",
    rightward "new" (seq [
      lit "new", .field "constructor" (choice ["primary_expression", "new_expression"]),
      .field "arguments" (maybe (.dynamic 1 "arguments"))])),
  ("await_expression", ranked "unary_void" (seq [lit "await", "expression"])),
  ("member_expression",
    ranked "member" (seq [
      .field "object" (choice ["expression", "primary_expression", "import"]),
      choice [lit ".", .field "optional_chain" "optional_chain"],
      .field "property" (choice [
        "private_property_identifier", as "property_identifier" "identifier"])])),
  ("subscript_expression",
    rightward "member" (seq [
      .field "object" (choice ["expression", "primary_expression"]),
      maybe (.field "optional_chain" "optional_chain"), lit "[",
      .field "index" "_expressions", lit "]"])),
  ("_lhs_expression",
    choice [
      "member_expression", "subscript_expression", "_identifier",
      as "identifier" "_reserved_identifier", "_destructuring_pattern"]),
  ("assignment_expression",
    rightward "assign" (seq [
      .field "left" (choice ["parenthesized_expression", "_lhs_expression"]), lit "=",
      .field "right" "expression"])),
  ("_augmented_assignment_lhs",
    choice [
      "member_expression", "subscript_expression", as "identifier" "_reserved_identifier",
      "identifier", "parenthesized_expression"]),
  ("augmented_assignment_expression",
    rightward "assign" (seq [
      .field "left" "_augmented_assignment_lhs",
      .field "operator" (anyOf [
        "+=", "-=", "*=", "/=", "%=", "^=", "&=", "|=", ">>=", ">>>=", "<<=", "**=", "&&=",
        "||=", "??="]),
      .field "right" "expression"])),
  ("_initializer", seq [lit "=", .field "value" "expression"]),
  ("_destructuring_pattern", choice ["object_pattern", "array_pattern"]),
  ("spread_element", seq [lit "...", "expression"]),
  ("ternary_expression",
    rightward "ternary" (seq [
      .field "condition" "expression", asText "?" "_ternary_qmark",
      .field "consequence" "expression", lit ":", .field "alternative" "expression"])),
  ("binary_expression", choice (operators.map binaryReading)),
  ("unary_expression",
    leftward "unary_void" (seq [
      .field "operator" (anyOf ["!", "~", "-", "+", "typeof", "void", "delete"]),
      .field "argument" "expression"])),
  ("update_expression",
    leftward plain (choice [
      seq [.field "argument" "expression", .field "operator" (anyOf ["++", "--"])],
      seq [.field "operator" (anyOf ["++", "--"]), .field "argument" "expression"]])),
  ("sequence_expression", rightward plain (commaSep1 "expression"))]

/-- Strings, comments, templates, numbers and names. -/
def literals : List (String × Body) := [
  ("string",
    choice [
      seq [
        lit "\"",
        repeat0 (choice [
          as "string_fragment" "unescaped_double_string_fragment", "escape_sequence"]),
        lit "\""],
      seq [
        lit "'",
        repeat0 (choice [
          as "string_fragment" "unescaped_single_string_fragment", "escape_sequence"]),
        lit "'"]]),
  ("unescaped_double_string_fragment", token Lexeme.unescapedDoubleStringFragment),
  ("unescaped_single_string_fragment", token Lexeme.unescapedSingleStringFragment),
  ("escape_sequence", token Lexeme.escapeSequence),
  ("comment", token Lexeme.comment),
  ("template_string",
    seq [
      lit "`",
      repeat0 (choice [
        as "string_fragment" "_template_chars", "escape_sequence", "template_substitution"]),
      lit "`"]),
  ("template_substitution", seq [lit "$\x7b", "_expressions", closeBrace]),
  ("regex",
    seq [
      lit "/", .field "pattern" "regex_pattern", token Lexeme.regexEnd,
      maybe (.field "flags" "regex_flags")]),
  ("regex_pattern", token Lexeme.regexPattern),
  ("regex_flags", token Lexeme.regexFlags),
  ("number", token Lexeme.number),
  ("_identifier", choice ["undefined", "identifier"]),
  ("identifier", token Lexeme.identifier),
  ("private_property_identifier", token Lexeme.privatePropertyIdentifier),
  ("meta_property",
    choice [seq [lit "new", lit ".", lit "target"], seq [lit "import", lit ".", lit "meta"]]),
  ("this", lit "this"),
  ("super", lit "super"),
  ("true", lit "true"),
  ("false", lit "false"),
  ("null", lit "null"),
  ("undefined", lit "undefined")]

/-- Arguments, decorators and the members of classes and objects. -/
def members : List (String × Body) := [
  ("arguments",
    seq [lit "(", commaSep (maybe (choice ["expression", "spread_element"])), lit ")"]),
  ("decorator",
    seq [
      lit "@",
      choice [
        "identifier", as "member_expression" "decorator_member_expression",
        as "call_expression" "decorator_call_expression"]]),
  ("decorator_member_expression",
    ranked "member" (seq [
      .field "object" (choice [
        "identifier", as "member_expression" "decorator_member_expression"]),
      lit ".", .field "property" (as "property_identifier" "identifier")])),
  ("decorator_call_expression",
    ranked "call" (seq [
      .field "function" (choice [
        "identifier", as "member_expression" "decorator_member_expression"]),
      .field "arguments" "arguments"])),
  ("class_body",
    seq [
      openBrace,
      repeat0 (choice [
        seq [.field "member" "method_definition", maybe (lit ";")],
        seq [.field "member" "field_definition", "_semicolon"],
        .field "member" "class_static_block", lit ";"]),
      closeBrace]),
  ("field_definition",
    seq [
      repeat0 (.field "decorator" "decorator"),
      maybe (choice [lit "static", asText "static get" (token Lexeme.staticGet)]),
      .field "property" "_property_name", maybe "_initializer"]),
  ("formal_parameters",
    seq [lit "(", maybe (seq [commaSep1 "_formal_parameter", maybe (lit ",")]), lit ")"]),
  ("class_static_block",
    seq [lit "static", maybe "_automatic_semicolon", .field "body" "statement_block"]),
  ("pattern", .dynamic (-1) (choice ["_lhs_expression", "rest_pattern"])),
  ("rest_pattern", rightward plain (seq [lit "...", "_lhs_expression"])),
  ("method_definition",
    seq [
      repeat0 (.field "decorator" "decorator"),
      maybe (choice [lit "static", asText "static get" (token Lexeme.staticGet)]),
      maybe (lit "async"), maybe (anyOf ["get", "set", "*"]),
      .field "name" "_property_name", .field "parameters" "formal_parameters",
      .field "body" "statement_block"]),
  ("pair", seq [.field "key" "_property_name", lit ":", .field "value" "expression"]),
  ("pair_pattern",
    seq [
      .field "key" "_property_name", lit ":",
      .field "value" (choice ["pattern", "assignment_pattern"])]),
  ("_property_name",
    choice [
      as "property_identifier" (choice ["identifier", "_reserved_identifier"]),
      "private_property_identifier", "string", "number", "computed_property_name"]),
  ("computed_property_name", seq [lit "[", "expression", lit "]"]),
  ("_reserved_identifier", anyOf ["get", "set", "async", "static", "export", "let"]),
  ("_semicolon", choice ["_automatic_semicolon", lit ";"])]

/-- Readings from the strongest to the weakest. -/
def precedences : List (List Rank) := [
  [.level "member", .level "template_call", .level "call", .rule "update_expression",
   .level "unary_void", .level "binary_exp", .level "binary_times", .level "binary_plus",
   .level "binary_shift", .level "binary_compare", .level "binary_relation",
   .level "binary_equality", .level "bitwise_and", .level "bitwise_xor", .level "bitwise_or",
   .level "logical_and", .level "logical_or", .level "ternary", .rule "sequence_expression",
   .rule "arrow_function"],
  [.level "assign", .rule "primary_expression"],
  [.level "member", .level "template_call", .level "new", .level "call", .rule "expression"],
  [.level "declare", .level "literal"],
  [.rule "primary_expression", .rule "statement_block", .level "object"],
  [.rule "meta_property", .rule "import"],
  [.rule "import_statement", .rule "import"],
  [.rule "export_statement", .rule "primary_expression"],
  [.rule "lexical_declaration", .rule "primary_expression"]]

/-- The grammar. -/
def grammar : Grammar where
  rules := modules ++ statements ++ expressions ++ elements ++ functions ++ literals ++ members
  externals := [.only "_automatic_semicolon", .only "_template_chars", .only "_ternary_qmark",
    .only "html_comment", .text "||", .rule "escape_sequence", .rule "regex_pattern",
    .only "jsx_text"]
  extras := ["comment", "html_comment"]
  supertypes := ["statement", "declaration", "expression", "primary_expression", "pattern"]
  inlined := ["_call_signature", "_formal_parameter", "_expressions", "_semicolon", "_identifier",
    "_reserved_identifier", "_jsx_attribute", "_jsx_element_name", "_jsx_child", "_jsx_element",
    "_jsx_attribute_name", "_jsx_attribute_value", "_jsx_identifier", "_lhs_expression"]
  precedences := precedences
  word := "identifier"

end Grammar.JavaScript

end CallAtlas
