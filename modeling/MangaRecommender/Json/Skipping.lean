import MangaRecommender.Json.Reader

/-!
# Skipping a JSON value

A value that nobody asked for is checked for its grammar alone: its numbers may have any size and
its strings any escapes. Brackets may nest to any depth, so the open ones are kept in a list.
-/

namespace MangaRecommender.Json

inductive Bracket
  | array
  | object

/-- Where the skipping stands: before a value, behind an opening bracket, or behind a value. -/
inductive Position
  | value
  | opened
  | closed

def skipStringRest : List Char → Except Fault (List Char)
  | [] => .error .malformed
  | '"' :: rest => .ok rest
  | '\\' :: 'u' :: a :: b :: c :: d :: rest =>
    if (hexCode? a b c d).isSome then skipStringRest rest else .error .malformed
  | '\\' :: letter :: rest =>
    if (unescaped? letter).isSome then skipStringRest rest else .error .malformed
  | character :: rest =>
    if character.toNat < 0x20 then .error .malformed else skipStringRest rest

def skipScalar : List Char → Except Fault (List Char)
  | 'n' :: rest => skipWord ['u', 'l', 'l'] rest
  | 't' :: rest => skipWord ['r', 'u', 'e'] rest
  | 'f' :: rest => skipWord ['a', 'l', 's', 'e'] rest
  | '"' :: rest => skipStringRest rest
  | text => (takeNumber text).map Prod.snd

def skipColon (text : List Char) : Except Fault (List Char) :=
  match skipBlanks text with
  | ':' :: rest => .ok rest
  | _ => .error .malformed

/-- Skips a name and the colon behind it. -/
def skipName (text : List Char) : Except Fault (List Char) :=
  match skipBlanks text with
  | '"' :: rest => do skipColon (← skipStringRest rest)
  | _ => .error .malformed

/-- Skips up to the end of the outermost value; every second step takes a character. -/
def skipFrom : Nat → Position → List Bracket → List Char → Except Fault (List Char)
  | 0, _, _, _ => .error .malformed
  | fuel + 1, .value, stack, text =>
    match skipBlanks text with
    | '[' :: rest => skipFrom fuel .opened (.array :: stack) rest
    | '\x7b' :: rest => skipFrom fuel .opened (.object :: stack) rest
    | other => do skipFrom fuel .closed stack (← skipScalar other)
  | _ + 1, .closed, [], text => .ok text
  | _ + 1, .opened, [], _ => .error .malformed
  | fuel + 1, .opened, .array :: stack, text =>
    match skipBlanks text with
    | ']' :: rest => skipFrom fuel .closed stack rest
    | other => skipFrom fuel .value (.array :: stack) other
  | fuel + 1, .opened, .object :: stack, text =>
    match skipBlanks text with
    | '\x7d' :: rest => skipFrom fuel .closed stack rest
    | other => do skipFrom fuel .value (.object :: stack) (← skipName other)
  | fuel + 1, .closed, .array :: stack, text =>
    match skipBlanks text with
    | ']' :: rest => skipFrom fuel .closed stack rest
    | ',' :: rest => skipFrom fuel .value (.array :: stack) rest
    | _ => .error .malformed
  | fuel + 1, .closed, .object :: stack, text =>
    match skipBlanks text with
    | '\x7d' :: rest => skipFrom fuel .closed stack rest
    | ',' :: rest => do skipFrom fuel .value (.object :: stack) (← skipName rest)
    | _ => .error .malformed

def skipValue (text : List Char) : Except Fault (List Char) :=
  skipFrom (2 * text.length + 2) .value [] text

end MangaRecommender.Json
