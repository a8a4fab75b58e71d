/-! # Log records -/

namespace JobScript.Log

structure Record where
  logger : String
  level : Int
  message : String
deriving DecidableEq, Repr

def debugLevel : Int := 10
def infoLevel : Int := 20
def warningLevel : Int := 30

def debug (logger message : String) : Record := ⟨logger, debugLevel, message⟩
def info (logger message : String) : Record := ⟨logger, infoLevel, message⟩
def warning (logger message : String) : Record := ⟨logger, warningLevel, message⟩

end JobScript.Log
