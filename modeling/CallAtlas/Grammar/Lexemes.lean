import CallAtlas.Grammar.Rule

/-!
# The tokens of the grammars

The tokens that are not fixed texts: names, numbers, the parts of strings and
regular expressions, and comments.
-/

namespace CallAtlas

namespace Body

/-- The opening brace. -/
def openBrace : Body := lit "\x7b"

/-- The closing brace. -/
def closeBrace : Body := lit "\x7d"

end Body

namespace Lexeme

open Pattern

/-- One character of a set. -/
private def one (s : CharSet) : Pattern := .one s

/-- One character outside the given ones. -/
private def oneExcept (s : CharSet) : Pattern := .one (.except s)

/-- One of the characters of a text. -/
private def oneIn (s : String) : Pattern := .one (.ofString s)

/-- A first line that names an interpreter. -/
def hashBangLine : Lexeme :=
  .ofPattern "hash_bang_line" (chain [text "#!", many (oneExcept (.single '\n'))])

/-- A character given by name or by number in markup. -/
def htmlCharacterReference : Lexeme :=
  .ofPattern "html_character_reference" (chain [
    text "&",
    oneOf [
      chain [text "#", oneOf [
        cat (oneIn "xX") (between (one .hexDigit) 1 6),
        between (one .digit) 1 5]],
      between (one .letter) 1 30],
    opt (text ";")])

/-- A name in markup that holds a hyphen. -/
def jsxIdentifier : Lexeme :=
  let start := CharSet.union .letter (.ofString "_$")
  let part := start.union .digit
  .ofPattern "jsx_identifier" (chain [one start, many (one part), text "-",
    many (one (part.union (.single '-')))])

/-- Characters of an attribute's string up to its quote or a character reference. -/
private def attributeText (quote : Char) : Pattern :=
  many1 (oneOf [
    oneExcept (.union (.single quote) (.single '&')),
    cat (text "&") (oneExcept (.union (.single '#') .letter))])

/-- Text of a double-quoted attribute. -/
def unescapedDoubleJsxStringFragment : Lexeme :=
  (Lexeme.ofPattern "unescaped_double_jsx_string_fragment" (attributeText '"')).immediately 1

/-- Text of a single-quoted attribute. -/
def unescapedSingleJsxStringFragment : Lexeme :=
  (Lexeme.ofPattern "unescaped_single_jsx_string_fragment" (attributeText '\'')).immediately 1

/-- Characters of a string up to its quote, an escape or the end of the line. -/
private def stringText (quote : Char) : Pattern :=
  many1 (oneExcept (.unions [.single quote, .ofString "\\\r\n"]))

/-- Text of a double-quoted string. -/
def unescapedDoubleStringFragment : Lexeme :=
  (Lexeme.ofPattern "unescaped_double_string_fragment" (stringText '"')).immediately 1

/-- Text of a single-quoted string. -/
def unescapedSingleStringFragment : Lexeme :=
  (Lexeme.ofPattern "unescaped_single_string_fragment" (stringText '\'')).immediately 1

/-- A backslash and what it escapes. -/
def escapeSequence : Lexeme :=
  (Lexeme.ofPattern "escape_sequence" (chain [
    text "\\",
    oneOf [
      oneExcept (.union (.ofString "xu") .octalDigit),
      between (one .octalDigit) 1 3,
      cat (text "x") (times (one .hexDigit) 2),
      cat (text "u") (times (one .hexDigit) 4),
      chain [text "u\x7b", many1 (one .hexDigit), text "\x7d"],
      cat (oneIn "\r?") (one (.union (.single '\n') .lineSeparator))]])).immediately 0

/-- A comment to the end of the line, or between its marks. -/
def comment : Lexeme :=
  .ofPattern "comment" (oneOf [
    cat (text "//") (many (oneExcept .lineEnd)),
    chain [
      text "/*", many (oneExcept (.single '*')), many1 (text "*"),
      many (chain [oneExcept (.ofString "/*"), many (oneExcept (.single '*')),
        many1 (text "*")]),
      text "/"]])

/-- A backslash and any character of the line. -/
private def escaped : Pattern := cat (text "\\") (oneExcept (.single '\n'))

/-- The inside of a regular expression literal. -/
def regexPattern : Lexeme :=
  (Lexeme.ofPattern "regex_pattern" (many1 (oneOf [
    chain [text "[", many (oneOf [escaped, oneExcept (.ofString "]\n\\")]), text "]"],
    escaped,
    oneExcept (.ofString "/\\[\n")]))).immediately (-1)

/-- The slash that ends a regular expression literal. -/
def regexEnd : Lexeme := (Lexeme.literal "/").immediately 1

/-- The flags after a regular expression literal. -/
def regexFlags : Lexeme :=
  (Lexeme.ofPattern "regex_flags" (many1 (one (.range 'a' 'z')))).immediately 0

/-- Items of a class, with single underscores allowed between them. -/
private def underscored (s : CharSet) : Pattern :=
  cat (one s) (many (cat (opt (text "_")) (one s)))

/-- Numbers: decimal with fraction and exponent, hexadecimal, binary, octal, and
integers of any size. -/
def number : Lexeme :=
  let hex := cat (oneOf [text "0x", text "0X"]) (underscored .hexDigit)
  let decimalDigits := underscored .digit
  let binary := cat (oneOf [text "0b", text "0B"]) (underscored (.range '0' '1'))
  let octal := cat (oneOf [text "0o", text "0O"]) (underscored .octalDigit)
  let exponent := chain [oneIn "eE", opt (oneIn "-+"), decimalDigits]
  let bigInteger := cat (oneOf [hex, binary, octal, decimalDigits]) (text "n")
  let decimalInteger := oneOf [
    text "0",
    chain [opt (text "0"), one (.range '1' '9'), opt (cat (opt (text "_")) decimalDigits)]]
  let decimal := oneOf [
    chain [decimalInteger, text ".", opt decimalDigits, opt exponent],
    chain [text ".", decimalDigits, opt exponent],
    cat decimalInteger exponent,
    decimalDigits]
  .ofPattern "number" (oneOf [hex, decimal, binary, octal, bigInteger])

/-- What no name can hold: controls, separators and the marks of the language. -/
private def notInNames : CharSet :=
  .unions [.codes 0 0x1F, .separator, .ofString ":;`\"'@#.,|^&<=>+-*/\\%?!~()[]\x7b\x7d"]

/-- A character written by its number inside a name. -/
private def escapedCode : Pattern :=
  oneOf [
    cat (text "\\u") (times (one .hexDigit) 4),
    chain [text "\\u\x7b", many1 (one .hexDigit), text "\x7d"]]

/-- A name. -/
private def namePattern : Pattern :=
  cat (oneOf [oneExcept (notInNames.union .digit), escapedCode])
    (many (oneOf [oneExcept notInNames, escapedCode]))

/-- Names of variables, functions and types. -/
def identifier : Lexeme := .ofPattern "identifier" namePattern

/-- Names of private members. -/
def privatePropertyIdentifier : Lexeme :=
  .ofPattern "private_property_identifier" (cat (text "#") namePattern)

/-- The words `static get` at the end of a line, where `get` begins no accessor. -/
def staticGet : Lexeme :=
  .ofPattern "static get" (chain [
    text "static", many1 (one .asciiBlank), text "get", many (one .asciiBlank), text "\n"])

end Lexeme

end CallAtlas
