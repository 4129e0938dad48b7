/-!
# Names of options

How the user names the options: by a letter, and mostly by a word too. No two options share a
letter or a word, so both can be read back.
-/

namespace Karel.CommandLine

/-- The options, as the user names them. -/
inductive Name
  | columns
  | rows
  | endlessColumns
  | endlessRows
  | direction
  | position
  | beepers
  | speed
  | quiet
  | verbose
  | logFile
  | lookahead
  | output
  | tableMap
  | map
  | program
  | stepLevel
  | help
  | version
deriving DecidableEq

namespace Name

/-- All options, in the order in which they are explained. -/
def all : List Name :=
  [columns, rows, endlessColumns, endlessRows, direction, position, beepers, speed, quiet, verbose,
    logFile, lookahead, output, tableMap, map, program, stepLevel, help, version]

/-- The letter of an option. -/
def letter : Name → Char
  | columns => 'x'
  | rows => 'y'
  | endlessColumns => 'X'
  | endlessRows => 'Y'
  | direction => 'd'
  | position => 'k'
  | beepers => 'b'
  | speed => 's'
  | quiet => 'q'
  | verbose => 'v'
  | logFile => 'l'
  | lookahead => 'L'
  | output => 'o'
  | tableMap => 'n'
  | map => 'm'
  | program => 'p'
  | stepLevel => 'W'
  | help => 'h'
  | version => 'V'

/-- The word of an option, if it has one. -/
def word? : Name → Option String
  | columns => some "cols"
  | rows => some "rows"
  | endlessColumns => some "infinite-x"
  | endlessRows => some "infinite-y"
  | direction => some "kareldir"
  | position => some "karelpos"
  | beepers => some "beepers"
  | speed => some "speed"
  | quiet => some "quiet"
  | verbose => some "verbose"
  | logFile => some "logfile"
  | lookahead => some "lookahead"
  | output => some "output"
  | tableMap => some "new-style-map"
  | map => some "karelmap"
  | program => some "program"
  | stepLevel => none
  | help => some "help"
  | version => some "version"

/-- The option of a letter. -/
def ofLetter? (letter : Char) : Option Name := all.find? fun name => name.letter == letter

/-- The option of a word. -/
def ofWord? (word : String) : Option Name := all.find? fun name => name.word? == some word

theorem ofLetter?_letter (name : Name) : ofLetter? name.letter = some name := by
  cases name <;> decide

theorem ofWord?_eq_some_iff {word : String} {name : Name} :
    ofWord? word = some name ↔ name.word? = some word := by
  constructor
  · intro found
    simpa using List.find?_some found
  · intro named
    cases name <;> simp only [word?, Option.some.injEq, reduceCtorEq] at named <;> subst named <;>
      decide

/-- What the values of an option are called. An option takes as many as there are names. -/
def values : Name → List String
  | columns => ["X"]
  | rows => ["Y"]
  | direction => [">"]
  | position => ["X", "Y"]
  | beepers => ["B"]
  | speed => ["S"]
  | logFile => ["FILE.log"]
  | lookahead => ["L"]
  | output => ["OUT.km2"]
  | map => ["MAP.km2"]
  | program => ["PROGRAM.ks"]
  | endlessColumns | endlessRows | quiet | verbose | tableMap | stepLevel | help | version => []

/-- The number of values an option takes. -/
def valueCount (name : Name) : Nat := name.values.length

/-- Whether an option can be given more than once. -/
def isRepeatable : Name → Bool
  | position | stepLevel => true
  | _ => false

/-- What an option is for. -/
def meaning : Name → String
  | columns => "The width of the real map (default infinite)"
  | rows => "The height of the real map (default infinite)"
  | endlessColumns => "Force infinite map in the x-dimension"
  | endlessRows => "Force infinite map in the y-dimension"
  | direction => "The direction Karel starts with (one of > ^ < v)"
  | position => "Sets the position Karel starts on"
  | beepers => "Sets the number of beepers Karel starts with (default unlimited)"
  | speed => "Sets the number of ticks per second, 0 is no limit [default: 3]"
  | quiet => "Hides the status line"
  | verbose => "Shows the status line with more info"
  | logFile => "Writes logging information to the file"
  | lookahead => "Set the number of fields visible ahead of Karel [default: 1]"
  | output => "Set the output file, saved with 'w' (map must be finite)"
  | tableMap => "Map starts with 'KAREL X Y > B' and has spaces between tiles"
  | map => "Text file with a map of Karel's world"
  | program => "Parse and run a recursive Karel program"
  | stepLevel => "Step through --program: -W waits for a key, -WW only shows each step, " ++
      "-WWW only logs it"
  | help => "Print help"
  | version => "Print version"

/-- How an option is written, with its values. -/
def form (name : Name) : String :=
  let word := match name.word? with
    | some word => s!", --{word}"
    | none => ""
  let values := name.values.map fun value => s!" <{value}>"
  s!"  -{name.letter}{word}" ++ String.join values

end Name

/-- The explanation of all options. -/
def helpPage : String :=
  let lines := Name.all.map fun name =>
    name.form.pushn ' ' (30 - name.form.length) ++ name.meaning ++ "\n"
  "Karel the Robot in your terminal.\n\nUsage: karel [OPTIONS]\n\nOptions:\n" ++ String.join lines

end Karel.CommandLine
