/-
**Why a file cannot be read or written.**
-/

namespace PageAttributes

/-- Why a file cannot be read or written. -/
inductive FileFault where
  | notFound
  | notDirectory
  | isDirectory
  | notText
  /-- Anything else, as the system words it, with its code. -/
  | other (details : String) (code : UInt32)
deriving DecidableEq, Repr

/-- The wording of a fault. -/
def FileFault.message : FileFault → String
  | .notFound => "No such file or directory (os error 2)"
  | .notDirectory => "Not a directory (os error 20)"
  | .isDirectory => "Is a directory (os error 21)"
  | .notText => "stream did not contain valid UTF-8"
  | .other details code => details ++ " (os error " ++ toString code ++ ")"

end PageAttributes
