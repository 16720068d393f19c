import MonkeyScan.Text.Basic

/-!
# `MonkeyScan.Token.Kind`: the vocabulary of Monkey

Seven words are reserved and nineteen symbols exist. Every other token is an
identifier, an integer, a string, a character that belongs to no token, or
the end of the input. Kinds are listed in one fixed order, which numbers
them from one.
-/

set_option autoImplicit false

namespace MonkeyScan

/-- The reserved words. -/
inductive Keyword where
  | fnWord | letWord | ifWord | elseWord | returnWord | trueWord | falseWord
  deriving DecidableEq, Repr

namespace Keyword

/-- All reserved words, in order. -/
def all : List Keyword :=
  [fnWord, letWord, ifWord, elseWord, returnWord, trueWord, falseWord]

/-- How a reserved word is written. -/
def spelling : Keyword → Text
  | fnWord => ['f', 'n']
  | letWord => ['l', 'e', 't']
  | ifWord => ['i', 'f']
  | elseWord => ['e', 'l', 's', 'e']
  | returnWord => ['r', 'e', 't', 'u', 'r', 'n']
  | trueWord => ['t', 'r', 'u', 'e']
  | falseWord => ['f', 'a', 'l', 's', 'e']

/-- The name of a reserved word in listings. -/
def name : Keyword → String
  | fnWord => "FUNCTION"
  | letWord => "LET"
  | ifWord => "IF"
  | elseWord => "ELSE"
  | returnWord => "RETURN"
  | trueWord => "TRUE"
  | falseWord => "FALSE"

/-- The reserved word that is written `t`. -/
def ofSpelling? (t : Text) : Option Keyword :=
  all.find? fun k => k.spelling == t

end Keyword

/-- Operators and punctuation. -/
inductive Symbol where
  | assign | plus | minus | slash | asterisk | bang | lt | gt | eq | notEq
  | comma | semicolon | colon
  | lparen | rparen | lbrace | rbrace | lbracket | rbracket
  deriving DecidableEq, Repr

namespace Symbol

/-- All symbols, in order. -/
def all : List Symbol :=
  [assign, plus, minus, slash, asterisk, bang, lt, gt, eq, notEq,
    comma, semicolon, colon, lparen, rparen, lbrace, rbrace, lbracket, rbracket]

/-- How a symbol is written. -/
def spelling : Symbol → Text
  | assign => ['=']
  | plus => ['+']
  | minus => ['-']
  | slash => ['/']
  | asterisk => ['*']
  | bang => ['!']
  | lt => ['<']
  | gt => ['>']
  | eq => ['=', '=']
  | notEq => ['!', '=']
  | comma => [',']
  | semicolon => [';']
  | colon => [':']
  | lparen => ['(']
  | rparen => [')']
  | lbrace => ['{']
  | rbrace => ['}']
  | lbracket => ['[']
  | rbracket => [']']

/-- The name of a symbol in listings. -/
def name : Symbol → String
  | assign => "ASSIGN"
  | plus => "PLUS"
  | minus => "MINUS"
  | slash => "SLASH"
  | asterisk => "ASTERISK"
  | bang => "BANG"
  | lt => "LT"
  | gt => "GT"
  | eq => "EQ"
  | notEq => "NOT_EQ"
  | comma => "COMMA"
  | semicolon => "SEMICOLON"
  | colon => "COLON"
  | lparen => "LPAREN"
  | rparen => "RPAREN"
  | lbrace => "LBRACE"
  | rbrace => "RBRACE"
  | lbracket => "LBRACKET"
  | rbracket => "RBRACKET"

/-- The symbols of one character with which no longer symbol starts. -/
def standalone : List Symbol :=
  [plus, minus, slash, asterisk, lt, gt, comma, semicolon, colon,
    lparen, rparen, lbrace, rbrace, lbracket, rbracket]

/-- The standalone symbol that is written with the one character `c`. -/
def standalone? (c : Char) : Option Symbol :=
  standalone.find? fun s => s.spelling == [c]

end Symbol

/-- The kinds of token. -/
inductive Kind where
  | identifier
  | integer
  | string
  | keyword (k : Keyword)
  | symbol (s : Symbol)
  /-- A character that starts no token. -/
  | illegal
  | endOfInput
  deriving DecidableEq, Repr

namespace Kind

/-- All kinds, in order. -/
def all : List Kind :=
  [identifier, integer, string] ++ Keyword.all.map keyword ++ Symbol.all.map symbol
    ++ [illegal, endOfInput]

/-- The name of a kind in listings. -/
def name : Kind → String
  | identifier => "IDENTIFIER"
  | integer => "INTEGER"
  | string => "STRING"
  | keyword k => k.name
  | symbol s => s.name
  | illegal => "ILLEGAL"
  | endOfInput => "EOF"

/-- The kind that is listed under a name. -/
def ofName? (name : String) : Option Kind :=
  all.find? fun k => k.name == name

/-- The place of a kind in the order, from one. -/
def number (k : Kind) : Nat :=
  all.idxOf k + 1

/-- The kind of a word: a keyword if it is reserved, else an identifier. -/
def ofWord (t : Text) : Kind :=
  match Keyword.ofSpelling? t with
  | some k => keyword k
  | none => identifier

end Kind

end MonkeyScan
