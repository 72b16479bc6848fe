/-!
# Words of a command

`words` splits a command into words by the rules of the POSIX shell: blanks separate words, single
quotes keep everything, a backslash keeps the next character, and inside double quotes a backslash
keeps only a double quote or a backslash. Nothing is expanded and nothing starts a comment.
-/

namespace Firewall.Text

/-- Why a command has no words. -/
inductive WordsFault where
  | openQuote
  | danglingEscape
  deriving DecidableEq, Repr

def WordsFault.message : WordsFault → String
  | .openQuote => "No closing quotation"
  | .danglingEscape => "No escaped character"

/-- The quoting in force at a place in a command. -/
inductive Quoting where
  | bare
  | single
  | double
  | escaped
  | doubleEscaped
  deriving DecidableEq, Repr

def isWordBreak (c : Char) : Bool := c == ' ' || c == '\t' || c == '\r' || c == '\n'

/-- The word gathered so far, put in front of the words that follow it. -/
def closeWord (word : Option (List Char)) (rest : List String) : List String :=
  match word with
  | some cs => String.ofList cs.reverse :: rest
  | none => rest

/-- Appends a character to the word gathered so far; the word is kept in reverse. -/
def pushChar (word : Option (List Char)) (c : Char) : Option (List Char) :=
  some (c :: word.getD [])

/-- Splits the rest of a command, given the quoting in force and the word gathered so far. A word
has begun as soon as a quote opens, so that `''` is an empty word. -/
def wordsFrom (q : Quoting) (word : Option (List Char)) :
    List Char → Except WordsFault (List String)
  | [] =>
    match q with
    | .bare => .ok (closeWord word [])
    | .single | .double => .error .openQuote
    | .escaped | .doubleEscaped => .error .danglingEscape
  | c :: rest =>
    match q with
    | .bare =>
      if isWordBreak c then (wordsFrom .bare none rest).map (closeWord word)
      else if c = '\\' then wordsFrom .escaped word rest
      else if c = '\'' then wordsFrom .single (some (word.getD [])) rest
      else if c = '"' then wordsFrom .double (some (word.getD [])) rest
      else wordsFrom .bare (pushChar word c) rest
    | .single =>
      if c = '\'' then wordsFrom .bare word rest
      else wordsFrom .single (pushChar word c) rest
    | .double =>
      if c = '"' then wordsFrom .bare word rest
      else if c = '\\' then wordsFrom .doubleEscaped word rest
      else wordsFrom .double (pushChar word c) rest
    | .escaped => wordsFrom .bare (pushChar word c) rest
    | .doubleEscaped =>
      if c = '"' ∨ c = '\\' then wordsFrom .double (pushChar word c) rest
      else wordsFrom .double (pushChar (pushChar word '\\') c) rest

/-- The words of a command. -/
def words (command : String) : Except WordsFault (List String) :=
  wordsFrom .bare none command.toList

end Firewall.Text
