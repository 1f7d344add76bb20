import ClientSynthesis.Report.LogLine
import ClientSynthesis.Text.ByteOrder
import ClientSynthesis.Text.Digit

/-!
# Log filters

A filter says which events are logged. It is a list of rules, each with a threshold. A rule may be
limited to channels that begin in a certain way, and to events that carry a certain datum. Of the
rules that cover an event the most specific one decides alone: first the one with the longer
channel, then one that asks for a datum, and of two equal ones the later. An event that no rule
covers is not logged.
-/

namespace ClientSynthesis.Report

open Text (Before natural?)

/-! ### Thresholds -/

/-- The gravest severity that is not logged lies just below the threshold's rank. -/
structure Threshold where
  rank : Nat
  deriving DecidableEq, Repr

namespace Threshold

/-- Log a severity and everything graver. -/
def upTo (level : Level) : Threshold := ⟨level.rank⟩

/-- Log nothing. -/
def off : Threshold := ⟨0⟩

/-- Log everything. -/
def all : Threshold := upTo .trace

/-- The threshold for a number of requests for more detail. -/
def ofVerbosity : Nat → Threshold
  | 0 => upTo .warn
  | 1 => upTo .info
  | 2 => upTo .debug
  | _ => all

/-- The thresholds that have a name. -/
def named : List (String × Threshold) :=
  [("off", off), ("error", upTo .error), ("warn", upTo .warn), ("info", upTo .info),
   ("debug", upTo .debug), ("trace", all)]

/-- The threshold that a text names, in whatever case it is written, or gives as a rank. -/
def parse? (text : List Char) : Option Threshold :=
  match natural? text with
  | some n => if n ≤ all.rank then some ⟨n⟩ else none
  | none => named.lookup (String.ofList (text.map Char.toLower))

end Threshold

/-! ### Rules -/

/-- A rule of a filter. -/
structure Rule where
  /-- What the channel of an event has to begin with. -/
  channel : Option String
  /-- What an event has to carry. -/
  datum : Option String
  threshold : Threshold
  deriving DecidableEq, Repr

namespace Rule

/-- Whether an event falls under a rule. -/
def covers (rule : Rule) (event : Event) : Bool :=
  rule.channel.all (fun start => start.toList.isPrefixOf event.channel.toList) &&
    rule.datum.all event.carried.contains

/-- How much of a channel a rule fixes; one without a channel fixes least. -/
def reach (rule : Rule) : Nat := (rule.channel.map (·.length + 1)).getD 0

/-- Whether one of two rules for the same event is the more specific one. -/
def Outranks (a b : Rule) : Prop :=
  b.reach < a.reach ∨ a.reach = b.reach ∧
    match a.datum, b.datum with
    | some x, some y => Before y x
    | some _, none => True
    | none, _ => False

instance (a b : Rule) : Decidable (a.Outranks b) := by
  unfold Outranks
  cases a.datum <;> cases b.datum <;> infer_instance

end Rule

/-! ### Filters -/

/-- The rules that say which events are logged, the later before the earlier of two equal ones. -/
structure Filter where
  rules : List Rule
  deriving DecidableEq, Repr

namespace Filter

/-- The filter for a number of requests for more detail. -/
def ofVerbosity (n : Nat) : Filter := ⟨[⟨none, none, .ofVerbosity n⟩]⟩

/-- The rule that decides on an event. -/
def decisive? (filter : Filter) (event : Event) : Option Rule :=
  (filter.rules.filter (·.covers event)).foldl
    (fun best rule => match best with
      | some best => if best.Outranks rule then some best else some rule
      | none => some rule)
    none

/-- Whether an event is logged. -/
def admits (filter : Filter) (event : Event) : Bool :=
  match filter.decisive? event with
  | some rule => decide (event.level.rank ≤ rule.threshold.rank)
  | none => false

end Filter

end ClientSynthesis.Report
