import Rulebook.Source.Syntax

/-! # Why a text is not a program -/

namespace Rulebook

/-- The construct that a missing token belongs to. -/
inductive Place where
  | afterLet | letBinding | argumentList | afterDot | index | array | parenthesis
  | lambdaParameter | lambda | objectKey | object
  deriving DecidableEq, Repr

def Place.text : Place → String
  | afterLet => "after 'let'"
  | letBinding => "in let binding"
  | argumentList => "to close argument list"
  | afterDot => "after '.'"
  | index => "to close index"
  | array => "to close array"
  | parenthesis => "to close parenthesis"
  | lambdaParameter => "after lambda parameter"
  | lambda => "in lambda"
  | objectKey => "after object key"
  | object => "to close object"

inductive SyntaxFault where
  | unexpectedChar (c : Char)
  | openComment
  | openString
  | openRegex
  | unknownEscape (c : Char)
  | hexDigits
  | codePoint (hex : List Char)
  | exponentDigits
  | regexFlag (c : Char)
  | expected (kind : TokenKind) (place : Place) (found : Option TokenKind)
  | expectedIdent (place : Place) (found : Option TokenKind)
  | expectedKey (found : Option TokenKind)
  | unexpected (found : Option TokenKind)
  | tooDeep
  deriving DecidableEq, Repr

def SyntaxFault.message : SyntaxFault → String
  | unexpectedChar c => "Unexpected character '" ++ c.toString ++ "'"
  | openComment => "Unterminated block comment"
  | openString => "Unterminated string"
  | openRegex => "Unterminated regex literal"
  | unknownEscape c => "Unknown escape '\\" ++ c.toString ++ "'"
  | hexDigits => "Expected four hex digits after \\u"
  | codePoint hex => "Invalid code point \\u" ++ String.ofList hex
  | exponentDigits => "Exponent requires digits"
  | regexFlag c => "Unsupported regex flag '" ++ c.toString ++ "'"
  | expected kind place found =>
    "Expected " ++ kind.describe ++ " " ++ place.text ++ ", found " ++ describeFound found
  | expectedIdent place found =>
    "Expected identifier " ++ place.text ++ ", found " ++ describeFound found
  | expectedKey found => "Expected object key, found " ++ describeFound found
  | unexpected found => "Unexpected " ++ describeFound found
  | tooDeep => "Expression nested too deeply"

structure SyntaxError where
  fault : SyntaxFault
  pos : Position
  deriving DecidableEq, Repr

end Rulebook
