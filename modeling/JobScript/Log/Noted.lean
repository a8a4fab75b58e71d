import JobScript.Log.Record

/-! # Actions that leave notes -/

namespace JobScript.Log

/-- An outcome together with the records noted on the way, in order, whether it fails or not. -/
abbrev Noted (ε α : Type) := ExceptT ε (StateM (List Record)) α

namespace Noted

def note {ε : Type} (record : Record) : Noted ε Unit := modify (· ++ [record])

def noteAll {ε : Type} (records : List Record) : Noted ε Unit := modify (· ++ records)

/-- An action that was carried out already, with its records. -/
def ofResult {ε α : Type} (result : Except ε α) (records : List Record) : Noted ε α := do
  noteAll records
  liftExcept result
where
  liftExcept : Except ε α → Noted ε α
    | .ok a => pure a
    | .error e => throw e

def execute {ε α : Type} (action : Noted ε α) : Except ε α × List Record := action.run.run []

end Noted

end JobScript.Log
