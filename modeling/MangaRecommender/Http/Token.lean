/-!
# The characters of a request's head

The method and the names of headers are tokens, as are the names in a media type. The value of a
header may be any text without control characters; a tab is none.
-/

namespace MangaRecommender.Http

def isTokenCharacter (character : Char) : Bool :=
  character.isAlphanum || "!#$%&'*+-.^_|~".toList.contains character || character == '\x60'

def isToken (text : String) : Bool := !text.isEmpty && text.toList.all isTokenCharacter

def isHeaderValue (text : String) : Bool :=
  text.toList.all fun character =>
    character == '\t' || (0x20 ≤ character.toNat && character.toNat != 0x7f)

end MangaRecommender.Http
