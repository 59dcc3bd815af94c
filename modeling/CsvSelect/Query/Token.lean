import CsvSelect.Text.Quoted

/-!
# Tokens

A token is a classified piece of a query. Its value is any text, so tokens can also be made by
hand; only a token whose value is spelled exactly like a reserved word, a symbol or an operator
counts as that word, symbol or operator.

A token has the position at which it begins. Lines and columns count from one. Passing a line feed
begins a new line; passing any other character moves one column on.
-/

namespace CsvSelect.Query

open Text

/-! ### Positions -/

/-- A position by its line and column. -/
structure Location where
  line : Nat := 1
  column : Nat := 1
deriving DecidableEq

namespace Location

/-- The position after a character that stands here. -/
def after (location : Location) (character : Char) : Location :=
  if character = '\n' then { line := location.line + 1 }
  else { location with column := location.column + 1 }

/-- The position after a text that begins here. -/
def afterText (location : Location) (text : List Char) : Location :=
  text.foldl after location

/-- The position as `line:column`. -/
def render (location : Location) : String :=
  s!"{location.line}:{location.column}"

@[simp] theorem afterText_nil (location : Location) : location.afterText [] = location := rfl

@[simp] theorem afterText_append (location : Location) (text more : List Char) :
    location.afterText (text ++ more) = (location.afterText text).afterText more := by
  simp [afterText]

end Location

/-! ### Pieces of a query -/

/-- The classes of pieces of a query. -/
inductive TokenKind where
  | keyword
  | symbol
  | identifier
  | string
  | numeric
  | operation
deriving DecidableEq

/-- The reserved words. -/
inductive Keyword where
  | SELECT
  | WHERE
  | FROM
  | AND
  | OR
deriving DecidableEq

/-- All reserved words. -/
def Keyword.all : List Keyword := [.SELECT, .WHERE, .FROM, .AND, .OR]

/-- The word in lower case, as it stands in a token. -/
def Keyword.text : Keyword → String
  | .SELECT => "select"
  | .WHERE => "where"
  | .FROM => "from"
  | .AND => "and"
  | .OR => "or"

/-- The marks of punctuation. -/
inductive Symbol where
  | comma
  | semicolon
  | asterisk
deriving DecidableEq

/-- All marks. -/
def Symbol.all : List Symbol := [.comma, .semicolon, .asterisk]

/-- The mark as it is written. -/
def Symbol.text : Symbol → String
  | .comma => ","
  | .semicolon => ";"
  | .asterisk => "*"

/-- The comparisons. -/
inductive Operator where
  | equal
  | notEqual
  | greater
  | less
  | greaterOrEqual
  | lessOrEqual
deriving DecidableEq

/-- All comparisons. -/
def Operator.all : List Operator :=
  [.equal, .notEqual, .greater, .less, .greaterOrEqual, .lessOrEqual]

/-- The comparison as it is written. -/
def Operator.text : Operator → String
  | .equal => "="
  | .notEqual => "!="
  | .greater => ">"
  | .less => "<"
  | .greaterOrEqual => ">="
  | .lessOrEqual => "<="

/-- The comparison holds of a left side that stands in this order to the right side. -/
def Operator.holds : Operator → Ordering → Bool
  | .equal, order => order == .eq
  | .notEqual, order => order != .eq
  | .greater, order => order == .gt
  | .less, order => order == .lt
  | .greaterOrEqual, order => order != .lt
  | .lessOrEqual, order => order != .gt

/-- A classified piece of a query and the position where it begins. -/
structure Token where
  kind : TokenKind
  value : String
  location : Location := {}
deriving DecidableEq

namespace Token

/-- The reserved word that the token is, if it is one. -/
def keyword? (token : Token) : Option Keyword :=
  if token.kind = .keyword then Keyword.all.find? (·.text == token.value) else none

/-- The mark that the token is, if it is one. -/
def symbol? (token : Token) : Option Symbol :=
  if token.kind = .symbol then Symbol.all.find? (·.text == token.value) else none

/-- The comparison that the token is, if it is one. -/
def operator? (token : Token) : Option Operator :=
  if token.kind = .operation then Operator.all.find? (·.text == token.value) else none

/-- The token is this reserved word. -/
def isKeyword (token : Token) (keyword : Keyword) : Bool :=
  token.keyword? == some keyword

/-- The token is this mark. -/
def isSymbol (token : Token) (symbol : Symbol) : Bool :=
  token.symbol? == some symbol

/-- The token may be an item of a projection: a name, a number or a text. -/
def isExpression (token : Token) : Bool :=
  token.kind == .identifier || token.kind == .numeric || token.kind == .string

end Token

/-- The character may stand in a word after the first letter. -/
def isWordCharacter (character : Char) : Bool :=
  character.isAlphanum || character == '$' || character == '_'

/--
The name can be written without quotes: a lowercase letter, then characters of a lowercase word.
-/
def isPlainName (name : String) : Bool :=
  match name.toList with
  | [] => false
  | first :: others =>
      first.isLower && others.all fun character => isWordCharacter character && !character.isUpper

/-- The token as it is written in a query. -/
def Token.render (token : Token) : String :=
  match token.kind with
  | .string => String.ofList (Quoted.enclose '\'' token.value.toList)
  | .identifier =>
      if isPlainName token.value then token.value
      else String.ofList (Quoted.enclose '"' token.value.toList)
  | _ => token.value

end CsvSelect.Query
