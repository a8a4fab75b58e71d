import JobScript.Log.Record
import JobScript.Text.Case

/-! # Log levels -/

namespace JobScript.Log

def levelNames : List (String × Int) :=
  [("CRITICAL", 50), ("ERROR", 40), ("WARNING", warningLevel), ("INFO", infoLevel),
   ("DEBUG", debugLevel), ("NOTSET", 0)]

/-- Other words for levels. -/
def levelSynonyms : List (String × Int) := [("FATAL", 50), ("WARN", warningLevel)]

/-- A level by its name, in any case; unknown names mean warnings. -/
def levelOf (name : Option String) : Int :=
  ((levelNames ++ levelSynonyms).lookup (Text.toUpper (name.getD ""))).getD warningLevel

def levelName (level : Int) : String :=
  ((levelNames.find? fun entry => entry.2 == level).map Prod.fst).getD s!"Level {level}"

end JobScript.Log
