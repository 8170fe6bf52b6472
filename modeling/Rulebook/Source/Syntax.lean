import Rulebook.Number.Shortest
import Rulebook.Source.Position
import Rulebook.Text.Quoted

/-! # Tokens, expressions and programs of the rule language -/

namespace Rulebook

/-! ## Numerals -/

/-- A number as it is written: digits, digits after a point, and an exponent with its sign. -/
structure Numeral where
  whole : List Char
  frac : List Char
  exp : Option (Option Char × List Char)
  deriving DecidableEq, Repr, Inhabited

namespace Numeral

/-- The whole number that decimal digits write. -/
def natOf (digits : List Char) : Nat := digits.foldl (fun n c => n * 10 + (c.toNat - 48)) 0

def exponent (n : Numeral) : Int :=
  match n.exp with
  | none => 0
  | some (some '-', ds) => -(natOf ds : Int)
  | some (_, ds) => natOf ds

/-- The nearest number; one too large is infinite. -/
def value (n : Numeral) : Binary64 :=
  Binary64.ofDecimal false (natOf (n.whole ++ n.frac)) (n.exponent - n.frac.length)

def chars (n : Numeral) : List Char :=
  n.whole ++ (if n.frac.isEmpty then [] else '.' :: n.frac) ++
    match n.exp with
    | none => []
    | some (sign, ds) => 'e' :: sign.toList ++ ds

end Numeral

/-! ## Tokens -/

inductive TokenKind where
  | number (n : Numeral)
  | string (s : String)
  | regex (pattern flags : String)
  | ident (name : String)
  | letWord | trueWord | falseWord | nullWord
  | lparen | rparen | lbracket | rbracket | lbrace | rbrace
  | comma | colon | semi | dot | arrow | eq | minus
  deriving DecidableEq, Repr, Inhabited

structure Token where
  kind : TokenKind
  /-- Where its first character stands. -/
  pos : Position
  /-- The place after its last character. -/
  stop : Position
  deriving DecidableEq, Repr, Inhabited

/-- A whole text as tokens, with the place where the text ends. -/
structure Tokens where
  list : List Token
  stop : Position
  deriving DecidableEq, Repr, Inhabited

namespace TokenKind

/-- How a token is named in messages. -/
def describe : TokenKind → String
  | number n => "number " ++ n.value.plain
  | string s => "string " ++ quoted s
  | regex pattern _ => "regex /" ++ pattern ++ "/"
  | ident name => "identifier '" ++ name ++ "'"
  | letWord => "'let'"
  | trueWord => "'true'"
  | falseWord => "'false'"
  | nullWord => "'null'"
  | lparen => "'('"
  | rparen => "')'"
  | lbracket => "'['"
  | rbracket => "']'"
  | lbrace => "'\x7b'"
  | rbrace => "'\x7d'"
  | comma => "','"
  | colon => "':'"
  | semi => "';'"
  | dot => "'.'"
  | arrow => "'=>'"
  | eq => "'='"
  | minus => "'-'"

/-- A word is a keyword or an identifier. -/
def ofWord (word : List Char) : TokenKind :=
  match String.ofList word with
  | "let" => letWord
  | "true" => trueWord
  | "false" => falseWord
  | "null" => nullWord
  | name => ident name

end TokenKind

/-- How the next token, or the end of the text, is named in messages. -/
def describeFound : Option TokenKind → String
  | some k => k.describe
  | none => "end of input"

/-! ## Expressions and programs -/

inductive Expr where
  | null (pos : Position)
  | bool (pos : Position) (b : Bool)
  | number (pos : Position) (n : Numeral)
  | string (pos : Position) (s : String)
  | regex (pos : Position) (pattern flags : String)
  | ident (pos : Position) (name : String)
  | array (pos : Position) (items : List Expr)
  /-- Keys in the order they are written, repeated ones included. -/
  | object (pos : Position) (entries : List (String × Expr))
  | lambda (pos : Position) (param : Option String) (body : Expr)
  | call (pos : Position) (callee : Expr) (args : List Expr)
  | member (pos : Position) (object : Expr) (name : String)
  | index (pos : Position) (object : Expr) (subscript : Expr)
  | neg (pos : Position) (operand : Expr)
  deriving Inhabited

def Expr.pos : Expr → Position
  | null p | bool p _ | number p _ | string p _ | regex p _ _ | ident p _ | array p _ | object p _
  | lambda p _ _ | call p _ _ | member p _ _ | index p _ _ | neg p _ => p

inductive Stmt where
  | bind (pos : Position) (name : String) (value : Expr)
  | expr (e : Expr)
  deriving Inhabited

abbrev Program := List Stmt

end Rulebook
