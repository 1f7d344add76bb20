import ClientSynthesis.Text.Alphanumeric
import ClientSynthesis.Text.CaseMapping
import ClientSynthesis.Text.LetterCase
import ClientSynthesis.Text.Split

/-!
# Words of a name

A name is read as a list of words, whatever case it is written in. Every character that is neither
letter nor number separates words. Inside a run of letters and numbers a word ends

* between a character and an upper case one, when the last cased character so far is lower case;
* before the last capital of a run of capitals that a lower case letter follows, so that `HTTPCode`
  is `HTTP`, `Code`.

Numbers and letters without case leave the rhythm as it is.
-/

namespace ClientSynthesis.Naming

open Text

/-- The case of the last cased character of the word being read. -/
inductive Rhythm where
  | none
  | lower
  | upper
  deriving DecidableEq, Repr

/-- The rhythm once a character has been read. -/
def Rhythm.after (r : Rhythm) (c : Char) : Rhythm :=
  if isLowercase c then .lower else if isUppercase c then .upper else r

/-- The words of a run of letters and numbers, of which the first continues the word being read.
An empty first word says that the word being read has ended before this run. -/
def runWords : Rhythm → List Char → List (List Char)
  | _, [] => []
  | _, [c] => [[c]]
  | r, c :: next :: rest =>
    if r.after c = .lower ∧ isUppercase next then
      [c] :: runWords .none (next :: rest)
    else if r = .upper ∧ isUppercase c ∧ isLowercase next then
      [] :: pushFirst c (runWords .none (next :: rest))
    else
      pushFirst c (runWords (r.after c) (next :: rest))

/-- The words of a name. -/
def words (name : List Char) : List (List Char) :=
  (splitWhere (!isAlphanumeric ·) name).flatMap (runWords .none)

/-! ### Spelling the words -/

/-- A word in lower case. A capital sigma at its end becomes `ς`. -/
def lowerWord : List Char → List Char
  | [] => []
  | ['Σ'] => ['ς']
  | c :: rest => lowerChar c ++ lowerWord rest

/-- A word with its first character in upper case and the others in lower case. -/
def capitalWord : List Char → List Char
  | [] => []
  | c :: rest => upperChar c ++ lowerWord rest

/-- The words in lower case with underscores between them. -/
def snakeCase (name : List Char) : List Char := joinWith '_' ((words name).map lowerWord)

/-- The capitalised words without anything between them. -/
def camelCase (name : List Char) : List Char := ((words name).map capitalWord).flatten

end ClientSynthesis.Naming
