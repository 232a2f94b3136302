/-! The languages of findings, and what is said in them. -/
namespace Scrutiny

inductive Language where
  | english
  | russian
  deriving DecidableEq, Repr

/-- The findings that are said in words. -/
inductive Message where
  | noReadme (file : String)
  | styleFaults (amount : Nat)
  | rename (names : List String)
  | forExample (names : List String)
  | tooBroad (exception : String)
  deriving DecidableEq, Repr

namespace Message

/-- The words before and after the thing that a message names. -/
def frame : Language → Message → String × String
  | .english, noReadme _ => ("there is no ", "")
  | .english, styleFaults _ => ("", " PEP8 violations")
  | .english, rename _ => ("for example, rename the following: ", "")
  | .english, forExample _ => ("for example, ", "")
  | .english, tooBroad _ => ("", " class is too broad; use a more specific exception type")
  | .russian, noReadme _ => ("нет ", "")
  | .russian, styleFaults _ => ("", " нарушений")
  | .russian, rename _ => ("переименуй, например, ", "")
  | .russian, forExample _ => ("например, ", "")
  | .russian, tooBroad _ =>
    ("", " – слишком широкий тип исключений; укажи подробнее, какую ошибку ты ловишь")

/-- What a message names. -/
def subject : Message → String
  | noReadme file => file
  | styleFaults amount => toString amount
  | rename names => ", ".intercalate names
  | forExample names => ", ".intercalate names
  | tooBroad exception => exception

def render (language : Language) (m : Message) : String :=
  (m.frame language).1 ++ m.subject ++ (m.frame language).2

end Message
end Scrutiny
