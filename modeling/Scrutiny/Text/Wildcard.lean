/-! Wildcard patterns.

In a pattern `?` stands for one character, `*` for any run of characters, and a set in brackets for one of its
members, or for one of all others when it starts with `!` or `^`. Members are characters, ranges, and named
classes such as `[:digit:]`; a backslash takes away the meaning of what follows it. Under the rules for folders none of
these stands for a slash, apart from a run of two stars or more that is a component of its own.

A pattern is parsed character by character; a malformed one matches nothing. -/
namespace Scrutiny.Text

/-- How a pattern is matched. -/
structure WildcardRules where
  ignoreCase : Bool
  /-- Whether a slash is only matched by a slash. -/
  byFolder : Bool
  deriving DecidableEq, Repr

/-- A member of a set. -/
inductive Member where
  | one (c : Char)
  | between (low high : Char)
  deriving DecidableEq, Repr

inductive Wildcard where
  | char (c : Char)
  | any
  | set (negated : Bool) (members : List Member)
  /-- A run of characters. -/
  | run (overSlashes : Bool)
  /-- Any number of components, and the slash after them if there are any. A slash follows in the pattern. -/
  | components
  deriving DecidableEq, Repr

/-- The characters that mean more than themselves. -/
def isWild (c : Char) : Bool :=
  c = '*' || c = '?' || c = '[' || c = '\\'

namespace Member

/-- The members of the named classes, all of them ASCII. -/
def classes : List (String × List Member) :=
  let digits := between '0' '9'
  let upper := between 'A' 'Z'
  let lower := between 'a' 'z'
  [("alnum", [digits, upper, lower]), ("alpha", [upper, lower]), ("blank", [one ' ', one '\t']),
   ("cntrl", [between '\x00' '\x1f', one '\x7f']), ("digit", [digits]), ("graph", [between '!' '~']),
   ("lower", [lower]), ("print", [between ' ' '~']),
   ("punct", [between '!' '/', between ':' '@', between '[' '\x60', between '\x7b' '~']),
   ("space", [one ' ', one '\t', one '\n', one '\r']), ("upper", [upper]),
   ("xdigit", [digits, between 'A' 'F', between 'a' 'f'])]

/-- Whether a character is a member. Where case does not count the character comes in lower case, and ranges
are tried with both cases. -/
def has (rules : WildcardRules) (c : Char) : Member → Bool
  | one d => c = d
  | between low high =>
    (low ≤ c && c ≤ high) || (rules.ignoreCase && low ≤ c.toUpper && c.toUpper ≤ high)

end Member

namespace Wildcard

def fold (rules : WildcardRules) (c : Char) : Char :=
  if rules.ignoreCase then c.toLower else c

/-! ### Parsing -/

/-- A set that is being read. -/
structure Draft where
  negated : Bool := false
  members : List Member := []

def Draft.add (d : Draft) (more : List Member) : Draft :=
  { d with members := d.members ++ more }

/-- Where in a pattern parsing stands. -/
inductive Spot where
  | outside (before : Option Char) (afterStar : Bool)
  | escaped
  /-- After the bracket that opens a set. -/
  | opened
  /-- In a set; a range may start with the last member. -/
  | inside (draft : Draft) (last : Option Char) (isFirst : Bool)
  | escapedInside (draft : Draft)
  /-- After the dash of a range. -/
  | range (draft : Draft) (low : Char)
  | escapedRange (draft : Draft) (low : Char)
  /-- In the name of a class. -/
  | named (draft : Draft)

/-- What a run of stars means, by what stands before and after it. -/
def ofStars (rules : WildcardRules) (before : Option Char) (isSeveral : Bool) (after : List Char) : Wildcard :=
  if !rules.byFolder then .run true
  else if isSeveral && before.all (· = '/') then
    match after with
    | [] => .run true
    | '/' :: _ => .components
    | '\\' :: '/' :: _ => .run true
    | _ => .run false
  else .run false

/-- Reads one character of a set; `ahead` is what follows it. -/
def readMember (draft : Draft) (last : Option Char) (isFirst : Bool) (c : Char) (ahead : List Char) :
    Option (Spot × List Wildcard) :=
  let plain := (Spot.inside (draft.add [.one c]) (some c) false, [])
  let name := (ahead.drop 1).takeWhile (· ≠ ']')
  if c = ']' && !isFirst then some (.outside (some c) false, [.set draft.negated draft.members])
  else if c = '\\' then some (.escapedInside draft, [])
  else if c = '-' then
    match last, ahead with
    | some low, next :: _ => some (if next = ']' then plain else (.range draft low, []))
    | _, _ => some plain
  else if c = '[' && ahead.head? = some ':' && name.getLast? = some ':' then do
    return (.named (draft.add (← Member.classes.lookup (String.ofList name.dropLast))), [])
  else some plain

/-- Reads one character of a pattern; `ahead` is what follows it. No result for a malformed pattern. -/
def read (rules : WildcardRules) (c : Char) (ahead : List Char) : Spot → Option (Spot × List Wildcard)
  | .outside before afterStar =>
    if c = '*' then
      let stars := ofStars rules before (ahead.head? = some '*') (ahead.dropWhile (· = '*'))
      some (.outside before true, if afterStar then [] else [stars])
    else if c = '?' then some (.outside (some c) false, [.any])
    else if c = '[' then some (.opened, [])
    else if c = '\\' then some (.escaped, [])
    else some (.outside (some c) false, [.char (fold rules c)])
  | .escaped => some (.outside (some c) false, [.char c])
  | .opened =>
    if c = '!' || c = '^' then some (.inside { negated := true } none true, [])
    else readMember {} none true c ahead
  | .inside draft last isFirst => readMember draft last isFirst c ahead
  | .escapedInside draft => some (.inside (draft.add [.one c]) (some c) false, [])
  | .range draft low =>
    if c = '\\' then some (.escapedRange draft low, [])
    else some (.inside (draft.add [.between low c]) none false, [])
  | .escapedRange draft low => some (.inside (draft.add [.between low c]) none false, [])
  | .named draft => some (if c = ']' then .inside draft none false else .named draft, [])

/-- Parses a pattern from a spot on. -/
def parseFrom (rules : WildcardRules) (spot : Spot) : List Char → Option (List Wildcard)
  | [] => match spot with
    | .outside .. => some []
    | _ => none
  | c :: ahead => do
    let (spot, found) ← read rules c ahead spot
    return found ++ (← parseFrom rules spot ahead)

def parse (rules : WildcardRules) (pattern : List Char) : Option (List Wildcard) :=
  parseFrom rules (.outside none false) pattern

/-! ### Matching -/

/-- Whether a character is one that a wildcard stands for. -/
def accepts (rules : WildcardRules) (c : Char) : Wildcard → Bool
  | char d => fold rules c = d
  | any => !(rules.byFolder && c = '/')
  | set negated members =>
    members.any (·.has rules (fold rules c)) ≠ negated && !(rules.byFolder && c = '/')
  | _ => true

/-- What may be left of a text after a run. -/
def afterRun (overSlashes : Bool) : List Char → List (List Char)
  | [] => [[]]
  | c :: rest => (c :: rest) :: if overSlashes || c ≠ '/' then afterRun overSlashes rest else []

/-- Whether wildcards match a whole text. -/
def isMatch (rules : WildcardRules) : List Wildcard → List Char → Bool
  | [], text => text.isEmpty
  | .run overSlashes :: more, text => (afterRun overSlashes text).any (isMatch rules more)
  | .components :: slash :: more, text =>
    isMatch rules more text || (afterRun true text).any (isMatch rules (slash :: more))
  | _ :: _, [] => false
  | w :: more, c :: text => w.accepts rules c && isMatch rules more text

end Wildcard

/-- Whether a pattern matches a whole text. -/
def isWildcardMatch (rules : WildcardRules) (pattern text : List Char) : Bool :=
  (Wildcard.parse rules pattern).any fun ws => Wildcard.isMatch rules ws text

end Scrutiny.Text
