/-!
# Notes

Compiling and scanning leave notes on what they do.
-/

namespace LexGen

inductive Level
  | trace
  | debug
  | warn
deriving DecidableEq, Repr

structure Note where
  level : Level
  text : String
deriving DecidableEq, Repr

end LexGen
