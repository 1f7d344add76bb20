import ClientSynthesis.Pattern.WellFormed
import ClientSynthesis.Report.Filter
import ClientSynthesis.Text.Blank
import ClientSynthesis.Text.Split

/-!
# Log settings

A setting is a filter in writing: its rules with commas in between, such as `info,apigen_codegen=off`.
A rule is a threshold, or a channel, or a channel with the sign `=` and its threshold. Behind the
channel, or in place of it, may stand brackets with the name of a span and, in braces, a datum, which
may have a pattern or a number for its value. A threshold that is left out or left empty lets
everything pass.

A rule about spans, or about the value of a datum, covers no event, because no event of this program
happens inside a span. It has to make sense all the same: a setting with a rule that does not is
*malformed* as a whole.

White space around a rule is passed over when its parts are looked for. A part is then taken from the
rule as it stands, at the distance from its beginning, in bytes, at which the part was found. White
space in front of a rule therefore moves all of its parts to the front: a channel begins with white
space, and a threshold with what is in front of it. Where a part so moved would begin or end inside a
character, the setting is *torn*.
-/

namespace ClientSynthesis.Report

open Text (isAlphanumeric isBlank isUnsignedDecimal split trimEnd)

/-- Why a setting is of no use. -/
inductive SettingFault where
  /-- A rule makes no sense. -/
  | malformed
  /-- A part of a rule begins or ends inside a character. -/
  | torn
  deriving DecidableEq, Repr

/-! ### Parts of a rule -/

/-- The number of bytes that a text takes. -/
def byteLength (cs : List Char) : Nat := (String.ofList cs).utf8ByteSize

/-- A text from its first bytes up to a number of them, and the text behind. -/
def splitBytes : (count : Nat) → List Char → Except SettingFault (List Char × List Char)
  | 0, cs => .ok ([], cs)
  | _ + 1, [] => .ok ([], [])
  | count + 1, c :: rest =>
    if c.utf8Size ≤ count + 1 then
      (splitBytes (count + 1 - c.utf8Size) rest).map fun (front, back) => (c :: front, back)
    else .error .torn

/-- The part of a text that begins and ends at a distance in bytes. -/
def slice (text : List Char) (start stop : Nat) : Except SettingFault (List Char) := do
  let (_, back) ← splitBytes start text
  let (part, _) ← splitBytes (stop - start) back
  return part

/-- What a rule is about. -/
structure Subject where
  channel : Option (List Char)
  span : Option (List Char)
  datum : Option (List Char)
  deriving DecidableEq, Repr

/-- The rule on a subject, if there is any event that it can cover. -/
def Subject.rule? (subject : Subject) (threshold : Threshold) : Option Rule :=
  if subject.span.isSome || subject.datum.any (·.contains '=') then none
  else some ⟨subject.channel.map String.ofList, subject.datum.map String.ofList, threshold⟩

/-- Whether a text may be the value of a datum: a pattern, or a number with a plus sign. Without one
a number is a pattern as well. -/
def isDatumValue : List Char → Bool
  | '+' :: rest => isUnsignedDecimal rest
  | text => Pattern.isWellFormed text

/-- Whether a text may be a datum: a name, alone or with the sign `=` and a value. What stands behind
a second such sign is of no account. -/
def isDatum (text : List Char) : Bool :=
  match split '=' text with
  | _ :: value :: _ => isDatumValue value
  | _ => !text.isEmpty

/-! ### Rules -/

/-- The rule on a subject whose threshold stands at a distance from the beginning of a text. `rest`
is what was found there. -/
def readThreshold (text : List Char) (subject : Subject) (start : Nat) (rest : List Char) :
    Except SettingFault (Option Rule) := do
  match rest with
  | [] => return subject.rule? .all
  | '=' :: _ =>
    let (_, word) ← splitBytes (start + 1) text
    if word.isEmpty then return subject.rule? .all
    match Threshold.parse? word with
    | some threshold => return subject.rule? threshold
    | none => throw .malformed
  | _ => throw .malformed

/-- The rule whose brackets have been opened, at a distance from the beginning of a text. -/
def readBrackets (text : List Char) (channel : Option (List Char)) (start : Nat)
    (rest : List Char) : Except SettingFault (Option Rule) := do
  let inSpan (c : Char) : Bool := c != ']' && c != '\x7b'
  let stop := start + byteLength (rest.takeWhile inSpan)
  match rest.dropWhile inSpan with
  | ']' :: rest =>
    let span ← slice text start stop
    readThreshold text ⟨channel, some span, none⟩ (stop + 1) rest
  | '\x7b' :: rest =>
    let span ← slice text start stop
    let last := stop + 1 + byteLength (rest.takeWhile (· != '\x7d'))
    match rest.dropWhile (· != '\x7d') with
    | '\x7d' :: rest =>
      let datum ← slice text (stop + 1) last
      match isDatum datum, rest with
      | true, ']' :: rest =>
        let span := if span.isEmpty then none else some span
        readThreshold text ⟨channel, span, some datum⟩ (last + 2) rest
      | _, _ => throw .malformed
    | _ => throw .malformed
  | _ => throw .malformed

/-- Whether a character may be the first of a rule that does not begin with brackets. -/
def isFirst (c : Char) : Bool := isAlphanumeric c || c == '-' || c == ':' || c == '_'

/-- The rule that a text says, if there is any event that it can cover. A single word is a threshold
if it can be, and a channel otherwise. -/
def readRule (text : List Char) : Except SettingFault (Option Rule) := do
  let inChannel (c : Char) : Bool := c != '=' && c != '['
  let trimmed := trimEnd (text.dropWhile isBlank)
  match trimmed with
  | [] => throw .malformed
  | '[' :: rest => readBrackets text none 1 rest
  | c :: _ =>
    if !isFirst c then throw .malformed
    let stop := byteLength (trimmed.takeWhile inChannel)
    match trimmed.dropWhile inChannel with
    | [] =>
      match Threshold.parse? text with
      | some threshold => return some ⟨none, none, threshold⟩
      | none => return some ⟨some (String.ofList text), none, .all⟩
    | '[' :: rest =>
      let channel ← slice text 0 stop
      readBrackets text (some channel) (stop + 1) rest
    | rest =>
      let channel ← slice text 0 stop
      readThreshold text ⟨some channel, none, none⟩ stop rest

/-- The filter that a setting says. The first rule that is of no use decides what is wrong. -/
def Filter.ofSetting (setting : String) : Except SettingFault Filter := do
  let pieces := (split ',' setting.toList).filter (!·.isEmpty)
  let rules ← pieces.mapM readRule
  return ⟨rules.filterMap id⟩

/-! ### Examples -/

example : Filter.ofSetting "off,info" matches
    .ok ⟨[⟨none, none, ⟨0⟩⟩, ⟨none, none, ⟨3⟩⟩]⟩ := by decide +kernel

example : Filter.ofSetting "info,apigen_codegen=off" matches
    .ok ⟨[⟨none, none, ⟨3⟩⟩, ⟨some "apigen_codegen", none, ⟨0⟩⟩]⟩ := by decide +kernel

example : Filter.ofSetting "=" matches .error .malformed := by decide +kernel

example : Filter.ofSetting "info,[\x7bpath=(\x7d]=debug" matches .error .malformed := by
  decide +kernel

example : Filter.ofSetting "\u00a0a=info" matches .error .torn := by decide +kernel

end ClientSynthesis.Report
