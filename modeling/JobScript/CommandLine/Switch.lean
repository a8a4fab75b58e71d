/-! # Switches of a command line

A switch has long names, maybe a letter, and takes a value or none. A value may follow as the next
word or be attached; letters may share one word.
-/

namespace JobScript.CommandLine

/-- What a switch is about. -/
inductive Topic
  | help
  | version
  | verbose
  | quiet
  | debug
  | config
  | language
  | output
  | json
deriving DecidableEq, Repr

structure Switch where
  topic : Topic
  long : List String
  letter : Option Char
  takesValue : Bool
deriving DecidableEq, Repr

/-- Why a command line leads to no command: it is wrong, names a path that no system can follow, or asks
about the program itself. -/
inductive Stop
  | usage
  | zeroInPath
  | help
  | version
deriving DecidableEq, Repr

/-- A switch that was given, with its value or an empty text. -/
abbrev Given := Topic × String

namespace Switch

/-- The switches of one word of letters, and the one that waits for the next word. -/
def letters (switches : List Switch) : List Char → Except Stop (List Given × Option Topic)
  | [] => .ok ([], none)
  | c :: rest =>
    match switches.find? (·.letter == some c) with
    | none => .error .usage
    | some s =>
      if s.takesValue then
        .ok (if rest.isEmpty then ([], some s.topic) else ([(s.topic, String.ofList rest)], none))
      else do
        let (more, waiting) ← letters switches rest
        return ((s.topic, "") :: more, waiting)

/-- A word that names a switch, before an equals sign if there is one. -/
def long? (switches : List Switch) (word : List Char) : Option (Switch × Option (List Char)) :=
  let name := word.takeWhile (· ≠ '=')
  let attached := match word.dropWhile (· ≠ '=') with
    | _ :: value => some value
    | [] => none
  (switches.find? (·.long.contains (String.ofList name))).map fun s => (s, attached)

/-- A word that starts with a hyphen. -/
def word (switches : List Switch) (cs : List Char) : Except Stop (List Given × Option Topic) :=
  match long? switches cs with
  | some (s, none) => .ok (if s.takesValue then ([], some s.topic) else ([(s.topic, "")], none))
  | some (s, some value) =>
    if s.takesValue then .ok ([(s.topic, String.ofList value)], none) else .error .usage
  | none => if cs.take 2 = ['-', '-'] then .error .usage else letters switches (cs.drop 1)

def isSwitch (word : String) : Bool := word.toList.head? == some '-' && 1 < word.length

/-- The switches and the other words. Unless words may be mixed, everything from the first other word
on belongs to those; a double hyphen ends the switches. -/
def parse (switches : List Switch) (mixed : Bool) : List String → Except Stop (List Given × List String)
  | [] => .ok ([], [])
  | "--" :: rest => .ok ([], rest)
  | w :: rest =>
    if isSwitch w then
      match word switches w.toList with
      | .error reason => .error reason
      | .ok (given, none) =>
        (parse switches mixed rest).map fun (more, words) => (given ++ more, words)
      | .ok (given, some topic) =>
        match rest with
        | value :: rest =>
          (parse switches mixed rest).map fun (more, words) => (given ++ (topic, value) :: more, words)
        | [] => .error .usage
    else if mixed then (parse switches mixed rest).map fun (more, words) => (more, w :: words)
    else .ok ([], w :: rest)

/-- The value that was given last. -/
def value? (given : List Given) (topic : Topic) : Option String := given.reverse.lookup topic

def has (given : List Given) (topic : Topic) : Bool := (value? given topic).isSome

end Switch

end JobScript.CommandLine
