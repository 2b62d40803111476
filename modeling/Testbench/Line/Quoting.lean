import Testbench.Line.Token

/-!
# Writing tokens so that they read back

A token without gaps, quotes, semicolons, backslashes or a leading colon is written as it is. Any
other is written as adjacent quoted spans, each with a quote that does not occur in it, and every
backslash is written twice outside the spans.

* `Line.quoteToken` : one token, quoted where necessary.
* `Line.joinTokens` : a line of tokens.
-/

namespace Testbench.Line

/-- The quote that can hold the most of `s`: the one that is not the first quote of `s`. -/
def spanQuote (s : List Char) : Char :=
  match s.find? isQuote with
  | some c => if c = '\"' then '\'' else '\"'
  | none => '\''

/-- The quoted spans of the rest of a token, after a span opened by `quote`, if one is open. -/
def spans : (quote : Option Char) → List Char → List Char
  | quote, [] => quote.toList
  | quote, c :: rest =>
    if c = '\\' then quote.toList ++ '\\' :: '\\' :: spans none rest
    else match quote with
      | some q =>
        if q = c then q :: spanQuote (c :: rest) :: c :: spans (some (spanQuote (c :: rest))) rest
        else c :: spans (some q) rest
      | none => spanQuote (c :: rest) :: c :: spans (some (spanQuote (c :: rest))) rest

/-- The characters that cannot stand in a token without quotes. -/
def needsQuoting (c : Char) : Bool := isGap c || isEscapable c

/-- Whether a token reads back as it is. -/
def isPlain (token : List Char) : Bool :=
  match token with
  | [] => false
  | c :: _ => c != ':' && !token.any needsQuoting

/-- A token as it is written in a line. -/
def quoteToken (token : List Char) : List Char :=
  if token.isEmpty then ['\'', '\'']
  else if isPlain token then token
  else spans none token

/-- The tokens as one line, a space between each and the next. -/
def joinTokens (tokens : List (List Char)) : List Char :=
  [' '].intercalate (tokens.map quoteToken)

/-- `quoteToken` on strings. -/
def quoteString (token : String) : String := String.ofList (quoteToken token.toList)

/-- `joinTokens` on strings. -/
def joinStrings (tokens : List String) : String :=
  String.ofList (joinTokens (tokens.map String.toList))

end Testbench.Line
