import Scrutiny.Text.Search

/-! Collections of words as a user gives them.

Usually a list. A single text is taken too: it has every text that stands in it, and going
through it yields its characters one by one. -/
namespace Scrutiny

inductive Words where
  | list (items : List String)
  | text (content : String)
  deriving DecidableEq, Repr

namespace Words

def has (name : String) : Words → Bool
  | list items => items.contains name
  | text content => Text.hasText name content

def items : Words → List String
  | list items => items
  | text content => content.toList.map fun c => String.ofList [c]

def isEmpty (words : Words) : Bool :=
  words.items.isEmpty

/-- Whether some word stands in a text. -/
def anyIn (words : Words) (whole : String) : Bool :=
  words.items.any fun part => Text.hasText part whole

end Words
end Scrutiny
