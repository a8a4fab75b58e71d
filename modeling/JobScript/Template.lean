import JobScript.Template.Layout
import JobScript.Text.Quoted

/-! # Templates

A template is text with placeholders in braces; a brace that is meant as text is doubled. A
placeholder names a field, may pick a character of it, convert it to quoted form, and lay it out.
The layout may hold placeholders itself, but these no further ones.
-/

namespace JobScript.Template

open Text

inductive TemplateError
  | loneBrace (brace : Char)
  | braceInName
  | unclosed
  | noConversion
  | noColon
  | unclosedLayout
  | unknownConversion (c : Char)
  | tooDeep
  | unknownField (name : String)
  | noPosition (n : Nat)
  | tooManyDigits
  | afterBracket
  | unclosedBracket
  | emptyStep
  | outOfText
  | textAsIndex
  | attribute (name : String)
  | layout (e : LayoutError)
deriving DecidableEq, Repr

/-- A character in a message; those outside printable ASCII by their number. -/
def displayChar (c : Char) (last : Nat) : String :=
  if 32 < c.toNat ∧ c.toNat < last then c.toString
  else "\\x" ++ String.ofList (Nat.toDigits 16 (Text.codeOf c))

def LayoutError.message : LayoutError → String
  | .tooManyDigits => "Too many decimal digits in format string"
  | .bothSeparators => "Cannot specify both ',' and '_'."
  | .separator mark kind => s!"Cannot specify '{mark}' with '{displayChar kind 128}'."
  | .noPrecision => "Format specifier missing precision"
  | .malformed layout =>
    s!"Invalid format specifier '{String.ofList layout}' for object of type 'str'"
  | .unknownKind kind => s!"Unknown format code '{displayChar kind 128}' for object of type 'str'"
  | .sign mark => if mark = ' ' then "Space not allowed in string format specifier"
    else "Sign not allowed in string format specifier"
  | .zeroCoercion => "Negative zero coercion (z) not allowed in string format specifier"
  | .alternateForm => "Alternate form (#) not allowed in string format specifier"
  | .signAlignment => "'=' alignment not allowed in string format specifier"

def TemplateError.message : TemplateError → String
  | .loneBrace brace => s!"Single '{brace}' encountered in format string"
  | .braceInName => "unexpected '\x7b' in field name"
  | .unclosed => "expected '\x7d' before end of string"
  | .noConversion => "end of string while looking for conversion specifier"
  | .noColon => "expected ':' after conversion specifier"
  | .unclosedLayout => "unmatched '\x7b' in format spec"
  | .unknownConversion c => s!"Unknown conversion specifier {displayChar c 127}"
  | .tooDeep => "Max string recursion exceeded"
  | .unknownField name => quoted name
  | .noPosition n => s!"Replacement index {n} out of range for positional args tuple"
  | .tooManyDigits => "Too many decimal digits in format string"
  | .afterBracket => "Only '.' or '[' may follow ']' in format field specifier"
  | .unclosedBracket => "Missing ']' in format string"
  | .emptyStep => "Empty attribute in format string"
  | .outOfText => "string index out of range"
  | .textAsIndex => "string indices must be integers, not 'str'"
  | .attribute name => s!"'str' object has no attribute {quoted name}"
  | .layout e => e.message

/-- A stretch of text, a placeholder, or the fault at which reading stops. -/
inductive Segment
  | text (cs : List Char)
  | placeholder (name : List Char) (conversion : Option Char) (layout : List Char)
  | fault (e : TemplateError)
deriving DecidableEq, Repr

mutual

/-- Text up to the next brace that is not doubled; `sofar` is held back to front. -/
def segments (sofar : List Char) : List Char → List Segment
  | [] => [.text sofar.reverse]
  | '\x7b' :: '\x7b' :: rest => segments ('\x7b' :: sofar) rest
  | '\x7d' :: '\x7d' :: rest => segments ('\x7d' :: sofar) rest
  | ['\x7b'] => [.fault (.loneBrace '\x7b')]
  | '\x7d' :: _ => [.fault (.loneBrace '\x7d')]
  | '\x7b' :: rest => .text sofar.reverse :: fieldName [] rest
  | c :: rest => segments (c :: sofar) rest
termination_by structural cs => cs

def fieldName (name : List Char) : List Char → List Segment
  | [] => [.fault .unclosed]
  | '\x7b' :: _ => [.fault .braceInName]
  | '\x7d' :: rest => .placeholder name.reverse none [] :: segments [] rest
  | ':' :: rest => layoutText name.reverse none [] 1 rest
  | ['!'] => [.fault .noConversion]
  | '!' :: c :: rest => afterConversion name.reverse (if c = '\x00' then none else some c) rest
  | '[' :: rest => bracketed ('[' :: name) rest
  | c :: rest => fieldName (c :: name) rest
termination_by structural cs => cs

/-- Between brackets a name may hold any mark. -/
def bracketed (name : List Char) : List Char → List Segment
  | [] => [.fault .unclosed]
  | ']' :: rest => fieldName (']' :: name) rest
  | c :: rest => bracketed (c :: name) rest
termination_by structural cs => cs

def afterConversion (name : List Char) (conversion : Option Char) : List Char → List Segment
  | [] => [.fault .unclosedLayout]
  | '\x7d' :: rest => .placeholder name conversion [] :: segments [] rest
  | ':' :: rest => layoutText name conversion [] 1 rest
  | _ :: _ => [.fault .noColon]
termination_by structural cs => cs

/-- A layout ends at the brace that closes the placeholder; `depth` counts the open braces. -/
def layoutText (name : List Char) (conversion : Option Char) (layout : List Char) (depth : Nat) :
    List Char → List Segment
  | [] => [.fault .unclosedLayout]
  | '\x7d' :: rest =>
    if depth ≤ 1 then .placeholder name conversion layout.reverse :: segments [] rest
    else layoutText name conversion ('\x7d' :: layout) (depth - 1) rest
  | '\x7b' :: rest => layoutText name conversion ('\x7b' :: layout) (depth + 1) rest
  | c :: rest => layoutText name conversion (c :: layout) depth rest
termination_by structural cs => cs

end

/-- The number that a whole name stands for, if it does. -/
def indexOf? (name : List Char) : Except TemplateError (Option Nat) :=
  match takeNumber name none with
  | none => .error .tooManyDigits
  | some (index, []) => .ok index
  | some _ => .ok none

abbrev Fields := List (String × String)

def fieldOf (fields : Fields) (name : List Char) : Except TemplateError (List Char) := do
  match ← indexOf? name with
  | some n => .error (.noPosition n)
  | none =>
    if name.isEmpty then .error (.noPosition 0)
    else match fields.lookup (String.ofList name) with
      | some text => .ok text.toList
      | none => .error (.unknownField (String.ofList name))

def isStep (c : Char) : Bool := c == '.' || c == '['

def pick (text index : List Char) : Except TemplateError (List Char) := do
  let found ← indexOf? index
  if index.isEmpty then .error .emptyStep
  else match found with
    | none => .error .textAsIndex
    | some n => match text[n]? with
      | some c => .ok [c]
      | none => .error .outOfText

/-- The steps after the field's name. `index` is what a bracket holds so far, back to front. A step to an
attribute is a fault whatever its name: the attributes that texts have elsewhere, such as their class, are
left out. -/
def follow (text : List Char) (index : Option (List Char)) : List Char → Except TemplateError (List Char)
  | [] => if index.isSome then .error .unclosedBracket else .ok text
  | c :: rest =>
    match index with
    | some index =>
      if c = ']' then do follow (← pick text index.reverse) none rest
      else follow text (some (c :: index)) rest
    | none =>
      if c = '[' then follow text (some []) rest
      else if c = '.' then
        let name := rest.takeWhile (!isStep ·)
        .error (if name.isEmpty then .emptyStep else .attribute (String.ofList name))
      else .error .afterBracket

def lookUp (fields : Fields) (name : List Char) : Except TemplateError (List Char) := do
  let text ← fieldOf fields (name.takeWhile (!isStep ·))
  follow text none (name.dropWhile (!isStep ·))

def convert (text : List Char) : Option Char → Except TemplateError (List Char)
  | none => .ok text
  | some 's' => .ok text
  | some 'r' => .ok (quoted (String.ofList text)).toList
  | some 'a' => .ok (quotedAscii (String.ofList text)).toList
  | some c => .error (.unknownConversion c)

/-- How deep placeholders may stand in layouts. -/
def maxDepth : Nat := 2

/-- Fills in the placeholders from left to right; the first fault wins. -/
def fill (fields : Fields) : Nat → List Char → Except TemplateError (List Char)
  | 0, _ => .error .tooDeep
  | depth + 1, cs => do
    let parts ← (segments [] cs).mapM fun segment => match segment with
      | .text cs => .ok cs
      | .fault e => .error e
      | .placeholder name conversion layout => do
        let text ← convert (← lookUp fields name) conversion
        let layout ← if '\x7b' ∈ layout then fill fields depth layout else .ok layout
        (layOut layout text).mapError .layout
    return parts.flatten

def format (fields : Fields) (template : String) : Except TemplateError String :=
  (fill fields maxDepth template.toList).map String.ofList

end JobScript.Template
