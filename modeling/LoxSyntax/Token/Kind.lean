/-!
# Token kinds

Sixteen reserved words, the operators and punctuation, the three classes of free spelling, the
kind of blanks and comments, which no token stream contains, and the end marker.
-/
namespace LoxSyntax

/-- The reserved words. -/
inductive Keyword
  | andWord | classWord | elseWord | falseWord | forWord | funWord | ifWord | nilWord
  | orWord | printWord | returnWord | superWord | thisWord | trueWord | varWord | whileWord
  deriving DecidableEq, Repr

namespace Keyword

def spelling : Keyword → String
  | andWord => "and"
  | classWord => "class"
  | elseWord => "else"
  | falseWord => "false"
  | forWord => "for"
  | funWord => "fun"
  | ifWord => "if"
  | nilWord => "nil"
  | orWord => "or"
  | printWord => "print"
  | returnWord => "return"
  | superWord => "super"
  | thisWord => "this"
  | trueWord => "true"
  | varWord => "var"
  | whileWord => "while"

/-- All reserved words, sorted by spelling. -/
def all : List Keyword :=
  [andWord, classWord, elseWord, falseWord, forWord, funWord, ifWord, nilWord,
    orWord, printWord, returnWord, superWord, thisWord, trueWord, varWord, whileWord]

theorem mem_all (w : Keyword) : w ∈ all := by cases w <;> decide

/-- The sixteen reserved words as they are spelled. -/
theorem map_spelling_all : all.map spelling =
    ["and", "class", "else", "false", "for", "fun", "if", "nil", "or", "print", "return", "super",
      "this", "true", "var", "while"] := rfl

/-- The reserved word spelled exactly so. -/
def ofSpelling? (text : String) : Option Keyword := all.find? (·.spelling == text)

theorem ofSpelling?_spelling (w : Keyword) : ofSpelling? w.spelling = some w := by
  cases w <;> rfl

theorem spelling_of_ofSpelling? {text : String} {w : Keyword} (h : ofSpelling? text = some w) :
    w.spelling = text := by
  simpa using List.find?_some h

/-- Words that open a declaration or statement. -/
def startsStatement : Keyword → Bool
  | classWord | funWord | varWord | forWord | ifWord | whileWord | printWord | returnWord => true
  | _ => false

/-- The eight words that open a declaration or statement. -/
theorem startsStatement_iff (w : Keyword) :
    w.startsStatement = true ↔
      w.spelling ∈ ["class", "fun", "var", "for", "if", "while", "print", "return"] := by
  cases w <;> decide

end Keyword

inductive TokenKind
  | leftParen | rightParen | leftBrace | rightBrace | comma | dot | minus | plus | semicolon
  | slash | star | bang | bangEqual | equal | equalEqual | greater | greaterEqual | less | lessEqual
  | identifier | string | number
  | keyword (word : Keyword)
  | trivia
  | endOfFile
  deriving DecidableEq, Repr

namespace TokenKind

/-- The name shown in token listings and the name written in serialized trees. -/
def names : TokenKind → String × String
  | leftParen => ("LEFT_PAREN", "LeftParen")
  | rightParen => ("RIGHT_PAREN", "RightParen")
  | leftBrace => ("LEFT_BRACE", "LeftBrace")
  | rightBrace => ("RIGHT_BRACE", "RightBrace")
  | comma => ("COMMA", "Comma")
  | dot => ("DOT", "Dot")
  | minus => ("MINUS", "Minus")
  | plus => ("PLUS", "Plus")
  | semicolon => ("SEMICOLON", "Semicolon")
  | slash => ("SLASH", "Slash")
  | star => ("STAR", "Star")
  | bang => ("BANG", "Bang")
  | bangEqual => ("BANG_EQUAL", "BangEqual")
  | equal => ("EQUAL", "Equal")
  | equalEqual => ("EQUAL_EQUAL", "EqualEqual")
  | greater => ("GREATER", "Greater")
  | greaterEqual => ("GREATER_EQUAL", "GreaterEqual")
  | less => ("LESS", "Less")
  | lessEqual => ("LESS_EQUAL", "LessEqual")
  | identifier => ("IDENTIFIER", "Identifier")
  | string => ("STRING", "String")
  | number => ("NUMBER", "Number")
  | keyword .andWord => ("AND", "And")
  | keyword .classWord => ("CLASS", "Class")
  | keyword .elseWord => ("ELSE", "Else")
  | keyword .falseWord => ("FALSE", "False")
  | keyword .forWord => ("FOR", "For")
  | keyword .funWord => ("FUN", "Fun")
  | keyword .ifWord => ("IF", "If")
  | keyword .nilWord => ("NIL", "Nil")
  | keyword .orWord => ("OR", "Or")
  | keyword .printWord => ("PRINT", "Print")
  | keyword .returnWord => ("RETURN", "Return")
  | keyword .superWord => ("SUPER", "Super")
  | keyword .thisWord => ("THIS", "This")
  | keyword .trueWord => ("TRUE", "True")
  | keyword .varWord => ("VAR", "Var")
  | keyword .whileWord => ("WHILE", "While")
  | trivia => ("TRIVIA", "Trivia")
  | endOfFile => ("EOF", "Eof")

/-- Upper snake-case name, as in token listings. -/
def name (k : TokenKind) : String := k.names.1

/-- Camel-case name, as in serialized trees. -/
def label (k : TokenKind) : String := k.names.2

def all : List TokenKind :=
  [leftParen, rightParen, leftBrace, rightBrace, comma, dot, minus, plus, semicolon, slash, star,
    bang, bangEqual, equal, equalEqual, greater, greaterEqual, less, lessEqual, identifier, string,
    number] ++ Keyword.all.map keyword ++ [trivia, endOfFile]

theorem mem_all (k : TokenKind) : k ∈ all := by
  cases k <;> simp [all, Keyword.mem_all]

def ofName? (text : String) : Option TokenKind := all.find? (·.name == text)

/-- The kind of an identifier-shaped text: its reserved word, else an identifier. -/
def ofIdentifier (text : String) : TokenKind :=
  match Keyword.ofSpelling? text with
  | some word => keyword word
  | none => identifier

theorem ofIdentifier_eq_keyword_iff (text : String) (w : Keyword) :
    ofIdentifier text = keyword w ↔ text = w.spelling := by
  unfold ofIdentifier
  constructor
  · intro h
    cases hs : Keyword.ofSpelling? text with
    | none => simp [hs] at h
    | some v =>
      obtain rfl : v = w := by simpa [hs] using h
      exact (Keyword.spelling_of_ofSpelling? hs).symm
  · rintro rfl
    simp [Keyword.ofSpelling?_spelling]

/-- Kinds in front of which recovery from a syntax error stops. -/
def startsStatement : TokenKind → Bool
  | keyword word => word.startsStatement
  | _ => false

end TokenKind

end LoxSyntax
