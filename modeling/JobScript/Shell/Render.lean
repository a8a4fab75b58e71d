import JobScript.Shell.Colour
import JobScript.Shell.Directive
import JobScript.Shell.Word
import JobScript.Text.Line

/-! # Shell lines of a directive

The policies of a command nest: a fold around the timing, the timing around the retries, these around
the status, and the assertion after the timing. Texts go in as they are; only the words that the
policies themselves need are quoted.
-/

namespace JobScript.Shell

/-- The variable with the status of the last command. -/
def statusVariable : String := "build_result"

/-- How often a command that is tried again runs at most. -/
def retryAttempts : Nat := 3

def foldBegin (name : String) : String := "build_fold begin " ++ Word.quote name

def foldEnd (name : String) : String := "build_fold end " ++ Word.quote name

/-- Shows a command before it runs. -/
def prompt (command : String) : String :=
  "printf '" ++ Colour.yellow.paint "$" ++ " %s\\n' " ++ Word.quote command

/-- The lines of a text, but one line for a text without any. -/
def linesOr (filler text : String) : List String :=
  let lines := Text.lines text
  if lines.isEmpty then [filler] else lines

namespace Options

/-- The name of the fold, unless it is empty. -/
def foldName (options : Options) : Option String := options.fold.filter (· ≠ "")

end Options

def attempt (command : String) (options : Options) : List String :=
  if options.retry then ["build_retry " ++ Word.quote command] else linesOr ":" command

def timed (timer : Int) (options : Options) (lines : List String) : List String :=
  if options.timing then
    ["build_time_start " ++ toString timer] ++ lines ++ ["build_time_finish"]
  else lines

def assertion (command : String) (options : Options) : List String :=
  if options.assert then ["build_assert " ++ Word.quote command] else []

def folded (options : Options) (lines : List String) : List String :=
  match options.foldName with
  | some name => [foldBegin name] ++ lines ++ [foldEnd name]
  | none => lines

/-- The command up to its assertion, with its status in `statusVariable`. -/
def guarded (command : String) (options : Options) (timer : Int) : List String :=
  timed timer options (attempt command options ++ [statusVariable ++ "=$?"]) ++
    assertion command options

def wrap (command : String) (options : Options) (timer : Int) : List String :=
  folded options (guarded command options timer)

/-- The prompt stands inside the fold. -/
def renderCommand (command : String) (options : Options) (timer : Int) : List String :=
  folded options ((if options.echo then [prompt command] else []) ++ guarded command options timer)

/-- The prompt goes before all other lines, or after the one that begins the fold. -/
theorem renderCommand_eq_insertIdx (command : String) (options : Options) (timer : Int) :
    renderCommand command options timer =
      if options.echo then
        (wrap command options timer).insertIdx (if options.foldName.isSome then 1 else 0) (prompt command)
      else wrap command options timer := by
  unfold renderCommand wrap folded
  cases options.foldName <;> cases options.echo <;> simp

def renderExport (name : Option String) (value : String) (echo : Bool) : List String :=
  match name.filter (· ≠ "") with
  | none => []
  | some name =>
    let line := "export " ++ name ++ "=" ++ value
    if echo then [prompt line, line] else [line]

def renderEcho (message : String) (colour : Option String) : List String :=
  let text := match colour.bind Colour.ofName? with
    | some colour => colour.paint "%s"
    | none => "%s"
  ["printf '" ++ text ++ "\\n' \"" ++ message ++ "\""]

def Directive.render (timer : Int) : Directive → List String
  | .command text options => renderCommand text options timer
  | .export name value shown => renderExport name value shown
  | .echo message colour => renderEcho message colour
  | .raw text => linesOr "" text

end JobScript.Shell
