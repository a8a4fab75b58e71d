import JobScript.Field

/-! # Command options

The policy under which one command runs: shown before it runs, its failure fatal, tried again, timed,
grouped under a name.
-/

namespace JobScript.Shell

structure Options where
  echo : Bool
  assert : Bool
  retry : Bool
  timing : Bool
  fold : Option String
deriving DecidableEq, Repr

namespace Options

/-- Shown, fatal and timed, but neither tried again nor grouped. -/
def standard : Options := ⟨true, true, false, true, none⟩

def truthAt (name : String) (standard : Bool) (entries : Value.Entries) : Checked Bool :=
  match entries.get? name with
  | some v => Checked.placed [.name name] v.asTruth
  | none => .ok standard

/-- The assertion goes by two names, of which the first one wins. -/
def assertionOf (entries : Value.Entries) : Checked Bool :=
  if (entries.get? "assert").isSome then truthAt "assert" standard.assert entries
  else truthAt "assert_" standard.assert entries

def foldOf (entries : Value.Entries) : Checked (Option String) :=
  match entries.get? "fold" with
  | some v => Checked.placed [.name "fold"] v.asOptionalText
  | none => .ok standard.fold

def ofEntries (entries : Value.Entries) : Checked Options :=
  let echo := truthAt "echo" standard.echo entries
  let assert := assertionOf entries
  let retry := truthAt "retry" standard.retry entries
  let timing := truthAt "timing" standard.timing entries
  let fold := foldOf entries
  match echo, assert, retry, timing, fold with
  | .ok echo, .ok assert, .ok retry, .ok timing, .ok fold => .ok ⟨echo, assert, retry, timing, fold⟩
  | _, _, _, _, _ =>
    .error (echo.faults ++ assert.faults ++ retry.faults ++ timing.faults ++ fold.faults)

/-- Options are given as a mapping; names that mean nothing are ignored. -/
def ofValue : Value → Checked Options
  | .map entries => ofEntries entries
  | _ => .error [⟨.noRecord, []⟩]

end Options

end JobScript.Shell
