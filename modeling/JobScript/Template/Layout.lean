import JobScript.Text.Digit

/-! # Layout of a value in a template

After the colon of a placeholder stand fill and alignment, sign, width, grouping, precision and kind,
each of them optional. A text can be aligned and cut; everything that makes sense for numbers alone
is refused.
-/

namespace JobScript.Template

inductive LayoutError
  | tooManyDigits
  | bothSeparators
  | separator (mark kind : Char)
  | noPrecision
  | malformed (layout : List Char)
  | unknownKind (kind : Char)
  | sign (mark : Char)
  | zeroCoercion
  | alternateForm
  | signAlignment
deriving DecidableEq, Repr

inductive Alignment
  | left
  | right
  | centre
  | afterSign
deriving DecidableEq, Repr

/-- What is asked for; the grouping mark is gone once it is known to fit the kind. -/
structure Layout where
  fill : Char
  alignment : Alignment
  sign : Option Char
  zeroCoercion : Bool
  alternate : Bool
  width : Nat
  precision : Option Nat
  kind : Char
deriving DecidableEq, Repr

/-- Numbers in a template stay below this bound. -/
def bound : Nat := Nat.pow 2 63

def alignmentOf? : Char → Option Alignment
  | '<' => some .left
  | '>' => some .right
  | '^' => some .centre
  | '=' => some .afterSign
  | _ => none

/-- The number in front, if there is one, and what follows it. -/
def takeNumber : List Char → Option Nat → Option (Option Nat × List Char)
  | [], sofar => some (sofar, [])
  | c :: rest, sofar =>
    match Text.decimalValue? c with
    | none => some (sofar, c :: rest)
    | some digit =>
      let total := sofar.getD 0 * 10 + digit
      if bound ≤ total then none else takeNumber rest (some total)

def takeChar (allowed : Char → Bool) : List Char → Option Char × List Char
  | [] => (none, [])
  | c :: rest => if allowed c then (some c, rest) else (none, c :: rest)

/-- A fill character counts only in front of an alignment mark. -/
def takeAlignment : List Char → Option Char × Option Alignment × List Char
  | a :: b :: rest =>
    match alignmentOf? b, alignmentOf? a with
    | some alignment, _ => (some a, some alignment, rest)
    | none, some alignment => (none, some alignment, b :: rest)
    | none, none => (none, none, a :: b :: rest)
  | [a] => match alignmentOf? a with
    | some alignment => (none, some alignment, [])
    | none => (none, none, [a])
  | [] => (none, none, [])

/-- At most one of the two grouping marks may be given. -/
def takeSeparator (cs : List Char) : Except LayoutError (Option Char × List Char) :=
  let (comma, cs) := takeChar (· == ',') cs
  let (line, cs) := takeChar (· == '_') cs
  match comma, line, cs with
  | some _, some _, _ => .error .bothSeparators
  | none, some _, ',' :: _ => .error .bothSeparators
  | comma, line, cs => .ok (comma <|> line, cs)

def takePrecision : List Char → Except LayoutError (Option Nat × List Char)
  | '.' :: rest =>
    match takeNumber rest none with
    | none => .error .tooManyDigits
    | some (none, _) => .error .noPrecision
    | some (precision, rest) => .ok (precision, rest)
  | cs => .ok (none, cs)

/-- One character at most is left to name the kind; a text has kind `s`. -/
def takeKind (layout : List Char) : List Char → Except LayoutError Char
  | [] => .ok 's'
  | [kind] => .ok kind
  | _ => .error (.malformed layout)

/-- Grouping is for numbers: decimal ones, or with the low line in other bases too. -/
def allowsSeparator (mark kind : Char) : Bool :=
  "defgEG%F\x00".toList.contains kind || (mark == '_' && "boxX".toList.contains kind)

def Layout.read (layout : List Char) : Except LayoutError Layout := do
  let (fill, alignment, cs) := takeAlignment layout
  let (sign, cs) := takeChar (fun c => c == ' ' || c == '+' || c == '-') cs
  let (zeroCoercion, cs) := takeChar (· == 'z') cs
  let (alternate, cs) := takeChar (· == '#') cs
  let (zeros, cs) := if fill.isSome then (none, cs) else takeChar (· == '0') cs
  let (width, cs) ← match takeNumber cs none with
    | some found => .ok found
    | none => .error .tooManyDigits
  let (separator, cs) ← takeSeparator cs
  let (precision, cs) ← takePrecision cs
  let kind ← takeKind layout cs
  match separator.filter (!allowsSeparator · kind) with
  | some mark => .error (.separator mark kind)
  | none =>
    .ok ⟨(fill <|> zeros).getD ' ', alignment.getD .left, sign, zeroCoercion.isSome,
      alternate.isSome, width.getD 0, precision, kind⟩

/-- The blanks before a text of the given length; the rest of the width comes after it. -/
def Layout.indent (layout : Layout) (length : Nat) : Nat :=
  match layout.alignment with
  | .right => layout.width - length
  | .centre => (layout.width - length) / 2
  | _ => 0

def Layout.pad (layout : Layout) (text : List Char) : List Char :=
  let before := layout.indent text.length
  List.replicate before layout.fill ++ text ++
    List.replicate (layout.width - text.length - before) layout.fill

def Layout.apply (layout : Layout) (text : List Char) : Except LayoutError (List Char) :=
  if layout.kind ≠ 's' then .error (.unknownKind layout.kind)
  else if let some mark := layout.sign then .error (.sign mark)
  else if layout.zeroCoercion then .error .zeroCoercion
  else if layout.alternate then .error .alternateForm
  else if layout.alignment = .afterSign then .error .signAlignment
  else .ok (layout.pad (text.take (layout.precision.getD text.length)))

/-- A text under a layout as written in a template; no layout leaves it alone. -/
def layOut (layout text : List Char) : Except LayoutError (List Char) :=
  if layout.isEmpty then .ok text
  else (Layout.read layout).bind fun layout => layout.apply text

end JobScript.Template
