import Karel.Log.Event
import Karel.Text.Alphanumeric
import Karel.Text.Blank
import Karel.Text.Numeral

/-!
# Log filters

A filter is a list of directives, separated by commas. A directive names a level, the start of
component paths, or both with an equals sign between them. After the start of a path, brackets can
hold the name of a span or, in braces, the name of a field that events must have. Of the directives
that apply to an event the one with the longest start counts, then one that asks for a field, and of
equal ones the later. An event passes if it is as grave as the level says; where no directive
applies, nothing passes.
-/

namespace Karel.Log

/-- The least grave level that passes; `none` lets nothing pass. -/
abbrev Threshold := Option Level

/-- The level that applies to the components whose path has a start, or to those of their events
that have a field. -/
structure Directive where
  start : String
  field : Option String
  threshold : Threshold
deriving DecidableEq

/-- A list of directives, the later ones counting more. -/
abbrev Filter := List Directive

/-- The level of a number. -/
def numberedThreshold? : Nat → Option Threshold
  | 0 => some none
  | 1 => some (some .error)
  | 2 => some (some .warn)
  | 3 => some (some .info)
  | 4 => some (some .debug)
  | 5 => some (some .trace)
  | _ => none

/-- Reads a level by its number, or by its name in any capitalisation. -/
def threshold? (text : List Char) : Option Threshold :=
  (Text.Numeral.unsigned? text).bind numberedThreshold? <|>
    match String.ofList (text.map Char.toLower) with
    | "error" => some (some .error)
    | "warn" => some (some .warn)
    | "info" => some (some .info)
    | "debug" => some (some .debug)
    | "trace" => some (some .trace)
    | "off" => some none
    | _ => none

/-- Whether a directive without brackets can start with a character. -/
def startsDirective (character : Char) : Bool :=
  Text.isAlphanumeric character || character == '-' || character == ':' || character == '_'

/-- What a directive asks for in brackets. -/
inductive Condition
  /-- There are no brackets. -/
  | always
  /-- An event must have a field of this name. -/
  | field (name : String)
  /-- Something must hold that never does: there are no spans, and no field is compared with a
  value. -/
  | never
deriving DecidableEq

/-- Reads what stands behind an opening bracket, and gives what follows the closing one. -/
def readCondition (text : List Char) : Option (Condition × List Char) :=
  let isEnd (character : Char) : Bool := character == ']' || character == '\x7b'
  let span := text.takeWhile fun character => !isEnd character
  match text.dropWhile fun character => !isEnd character with
  | ']' :: rest => some (.never, rest)
  | _ :: inner =>
    let field := inner.takeWhile (· != '\x7d')
    match field, inner.dropWhile (· != '\x7d') with
    | _ :: _, '\x7d' :: ']' :: rest =>
      if span.isEmpty && !field.contains '=' then some (.field (String.ofList field), rest)
      else some (.never, rest)
    | _, _ => none
  | [] => none

/-- A directive taken apart: the start of paths, its brackets, and what follows, which is nothing or
an equals sign with a level. -/
structure DirectiveParts where
  start : List Char
  condition : Condition
  level : List Char

/-- Takes a directive apart that has no blanks in front of it. Blanks behind brackets do not
count. -/
def DirectiveParts.split (text : List Char) : Option DirectiveParts :=
  let isEnd (character : Char) : Bool := character == '=' || character == '['
  let start := text.takeWhile fun character => !isEnd character
  match text.dropWhile fun character => !isEnd character with
  | '[' :: inner =>
    (readCondition inner).map fun (condition, rest) =>
      ⟨start, condition, if rest.all Text.isBlank then [] else rest⟩
  | level => some ⟨start, .always, level⟩

/-- The directive for a start of paths, unless its condition never holds. -/
def Condition.directive? (condition : Condition) (start : List Char) (threshold : Threshold) :
    Option Directive :=
  match condition with
  | .always => some ⟨String.ofList start, none, threshold⟩
  | .field name => some ⟨String.ofList start, some name, threshold⟩
  | .never => none

/-- Reads the parts of a directive. Without a level everything passes. A name alone is that of a
level, if there is one. A directive that never applies is left out. -/
def DirectiveParts.read (parts : DirectiveParts) : Option (Option Directive) :=
  let directive := parts.condition.directive? parts.start
  match parts.level with
  | [] =>
    match parts.condition, threshold? parts.start with
    | .always, some threshold => some (some ⟨"", none, threshold⟩)
    | _, _ => some (directive (some .trace))
  | ['='] => some (directive (some .trace))
  | '=' :: level => (threshold? level).map directive
  | _ => none

namespace Filter

/-- The filter for errors only. -/
def errorsOnly : Filter := [⟨"", none, some .error⟩]

/-- The filter for everything this program tells down to a level. -/
def ownEvents (level : Level) : Filter := [⟨"karel_robot", none, some level⟩]

/-- Reads a directive. With blanks in front of it, it must not give a level, and then it never
applies, because no path starts with a blank. -/
def readDirective (text : List Char) : Option (Option Directive) :=
  match text.dropWhile Text.isBlank with
  | [] => none
  | first :: rest =>
    if first != '[' && !startsDirective first then none
    else
      match DirectiveParts.split (first :: rest) with
      | none => none
      | some parts =>
        if text.head? = some first then parts.read
        else if parts.level.isEmpty then some none
        else none

/-- Reads a filter. Without any part only errors pass. -/
def read (text : String) : Option Filter := do
  let parts := (text.toList.splitOn ',').filter fun part => !part.isEmpty
  if parts.isEmpty then return errorsOnly
  let directives ← parts.mapM readDirective
  return directives.filterMap id

/-- Whether a directive applies to an event. -/
def applies (event : Event) (directive : Directive) : Bool :=
  directive.start.toList.isPrefixOf event.component.path.toList &&
    directive.field.all fun field => event.fieldNames.contains field

/-- Whether the second of two directives that apply to an event counts no less than the first. -/
def yields (first second : Directive) : Bool :=
  decide (first.start.length < second.start.length) ||
    first.start.length == second.start.length &&
      decide (first.field.getD "" ≤ second.field.getD "")

/-- The directive that counts for an event. -/
def find? (filter : Filter) (event : Event) : Option Directive :=
  (filter.filter (applies event)).foldl
    (fun best directive =>
      match best with
      | none => some directive
      | some best => if yields best directive then some directive else some best)
    none

/-- Whether an event passes. -/
def passes (filter : Filter) (event : Event) : Bool :=
  match (filter.find? event).bind Directive.threshold with
  | some level => decide (level.rank ≤ event.level.rank)
  | none => false

end Filter

end Karel.Log
