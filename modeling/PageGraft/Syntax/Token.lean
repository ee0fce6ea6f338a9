/-!
# Tokens

A script is read token by token. Words and marks have one text each; the texts of names, numbers and
the like vary; and a few tokens stand for what only the layout of the source shows, such as a line
that ends a statement without a semicolon.
-/

namespace PageGraft.Syntax

/-- Tokens whose text varies or is empty. -/
inductive Lexeme where
  | ending
  | identifier
  | hashBangLine
  | characterReference
  | markupName
  | doubleQuotedAttribute
  | singleQuotedAttribute
  | doubleQuotedText
  | singleQuotedText
  | escapeSequence
  | comment
  | regexClose
  | regexPattern
  | regexFlags
  | number
  | privateName
  | automaticSemicolon
  | templateText
  | conditionalMark
  | markupComment
  | markupText
  | signatureSemicolon
deriving DecidableEq, Repr

namespace Lexeme

/-- The type of the nodes that stand for a lexeme. -/
def type : Lexeme → String
  | ending => "end"
  | identifier => "identifier"
  | hashBangLine => "hash_bang_line"
  | characterReference => "html_character_reference"
  | markupName => "jsx_identifier"
  | doubleQuotedAttribute => "unescaped_double_jsx_string_fragment"
  | singleQuotedAttribute => "unescaped_single_jsx_string_fragment"
  | doubleQuotedText => "unescaped_double_string_fragment"
  | singleQuotedText => "unescaped_single_string_fragment"
  | escapeSequence => "escape_sequence"
  | comment => "comment"
  | regexClose => "/"
  | regexPattern => "regex_pattern"
  | regexFlags => "regex_flags"
  | number => "number"
  | privateName => "private_property_identifier"
  | automaticSemicolon => "_automatic_semicolon"
  | templateText => "_template_chars"
  | conditionalMark => "_ternary_qmark"
  | markupComment => "html_comment"
  | markupText => "jsx_text"
  | signatureSemicolon => "_function_signature_automatic_semicolon"

/-- Lexemes that have no node of their own. -/
def isHidden : Lexeme → Bool
  | ending | automaticSemicolon | templateText | conditionalMark | signatureSemicolon => true
  | _ => false

end Lexeme

/-- A token of the grammar. -/
inductive Token where
  | lexeme (kind : Lexeme)
  | word (text : String)
deriving DecidableEq, Repr

namespace Token

/-- The words that are nodes in their own right and not part of the spelling of their parent. -/
def namedWords : List String :=
  ["this", "super", "true", "false", "null", "undefined"]

def type : Token → String
  | lexeme kind => kind.type
  | word text => text

def isNamed : Token → Bool
  | lexeme .regexClose => false
  | lexeme _ => true
  | word text => namedWords.contains text

def isHidden : Token → Bool
  | lexeme kind => kind.isHidden
  | word _ => false

end Token

open Token in
/-- The words and marks of the grammar that come before another lexeme, in the order of first use. -/
def tokens : List Token :=
  [lexeme .ending, lexeme .identifier, lexeme .hashBangLine] ++
  ["export", "*", "default", "type", "=", "as", "namespace", "\x7b", ",", "\x7d", "typeof", "import",
    "from", "with", "var", "let", "const", "!", "else", "if", "switch", "for", "(", ";", ")", "await",
    "in", "of", "while", "do", "try", "break", "continue", "debugger", "return", "throw", ":", "case",
    "catch", "finally", "yield", "[", "]"].map word ++
  [lexeme .characterReference, word ">", lexeme .markupName] ++
  [".", "</", "/>", "\"", "'"].map word ++
  [lexeme .doubleQuotedAttribute, lexeme .singleQuotedAttribute] ++
  ["class", "async", "function", "=>", "?.", "new", "using", "+=", "-=", "*=", "/=", "%=", "^=", "&=",
    "|=", ">>=", ">>>=", "<<=", "**=", "&&=", "||=", "??=", "...", "&&", "||", ">>", ">>>", "<<", "&",
    "^", "|", "+", "-", "/", "%", "**", "<", "<=", "==", "===", "!=", "!==", ">=", "??", "instanceof",
    "~", "void", "delete", "++", "--"].map word ++
  [lexeme .doubleQuotedText, lexeme .singleQuotedText, lexeme .escapeSequence, lexeme .comment,
    word "`", word "$\x7b", lexeme .regexClose, lexeme .regexPattern, lexeme .regexFlags,
    lexeme .number, lexeme .privateName] ++
  ["target", "meta", "this", "super", "true", "false", "null", "undefined", "@", "static", "readonly",
    "get", "set", "?", "declare", "public", "private", "protected", "override", "module", "any",
    "number", "boolean", "string", "symbol", "object", "abstract", "accessor", "satisfies", "require",
    "extends", "implements", "global", "interface", "enum", "-?:", "+?:", "?:", "asserts", "infer",
    "is", "keyof", "unique", "unknown", "never", "\x7b|", "|\x7d"].map word ++
  [lexeme .automaticSemicolon, lexeme .templateText, lexeme .conditionalMark,
    lexeme .markupComment, lexeme .markupText, lexeme .signatureSemicolon]

/-- The number of a token among all tokens. -/
def Token.index (token : Token) : Nat :=
  tokens.idxOf token

/-- A set of tokens, as a number with the bit of each of its tokens set. -/
abbrev TokenSet := Nat

namespace TokenSet

def single (index : Nat) : TokenSet :=
  1 <<< index

def contains (set : TokenSet) (index : Nat) : Bool :=
  set.testBit index

def ofTokens (tokens : List Token) : TokenSet :=
  tokens.foldl (fun set token => set ||| single token.index) 0

end TokenSet

end PageGraft.Syntax
