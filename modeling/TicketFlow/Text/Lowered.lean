/-!
# Searching without regard to case

Keywords are ASCII words in lower case. A text is searched in a lower-cased form
that is exact for that purpose: the ASCII letters are lowered, and so are the
two other characters whose lower case has an ASCII letter, the dotted capital I
and the Kelvin sign. Every other character is left alone, because neither it nor
its lower case can take part in a match.
-/

namespace TicketFlow.Text

/-- The lower case of a character, as far as ASCII letters are concerned. -/
def loweredChar (c : Char) : List Char :=
  if c = '\u0130' then ['i', '\u0307']
  else if c = '\u212a' then ['k']
  else [c.toLower]

/-- The lower case of a text, as far as ASCII letters are concerned. -/
def lowered (text : String) : List Char :=
  text.toList.flatMap loweredChar

/-- Whether a list of characters has another one as a contiguous part. -/
def hasInfix (needle : List Char) : List Char → Bool
  | [] => needle.isEmpty
  | c :: rest => needle.isPrefixOf (c :: rest) || hasInfix needle rest

/-- Whether a keyword occurs in a text, without regard to case. -/
def mentions (text keyword : String) : Bool :=
  hasInfix keyword.toList (lowered text)

end TicketFlow.Text
