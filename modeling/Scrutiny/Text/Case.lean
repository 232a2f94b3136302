import Scrutiny.Text.CaseTable
import Scrutiny.Text.Space

/-! Lower and upper case of a text, by the full mapping of Unicode.

One character may become several (`upper "ß"` is `"SS"`). Only one character looks around itself: a
capital sigma becomes the final form when a cased letter stands before it and none after it,
case-ignorable characters passed over on both sides. -/
namespace Scrutiny.Text

/-- The distance by which a table moves a code point. -/
def CaseRun.distance? (code : Nat) : List CaseRun → Option Int
  | [] => none
  | r :: rest =>
    if r.first ≤ code && code ≤ r.last && (code - r.first) % r.step == 0 then some r.distance
    else distance? code rest

/-- The form of a character under a table of runs and a table of longer forms. -/
def caseForm (runs : List CaseRun) (long : List (Nat × List Nat)) (c : Char) : List Char :=
  match long.lookup c.toNat with
  | some codes => codes.map Char.ofNat
  | none =>
    match CaseRun.distance? c.toNat runs with
    | some d => [Char.ofNat (c.toNat + d).toNat]
    | none => [c]

def isCased (c : Char) : Bool :=
  inRanges casedRanges c.toNat

def isCaseIgnorable (c : Char) : Bool :=
  inRanges ignorableRanges c.toNat

/-- Whether the nearest character that is not case-ignorable is a cased letter. -/
def facesCased (text : List Char) : Bool :=
  match text.dropWhile isCaseIgnorable with
  | [] => false
  | c :: _ => isCased c

def capitalSigma : Char := 'Σ'

/-- Lower case of a text whose earlier part, nearest character first, is `before`. -/
def lowerFrom (before : List Char) : List Char → List Char
  | [] => []
  | c :: rest =>
    let form :=
      if c = capitalSigma then
        if facesCased before && !facesCased rest then ['ς'] else ['σ']
      else caseForm lowerRuns lowerLong c
    form ++ lowerFrom (c :: before) rest

def lower (text : String) : String :=
  String.ofList (lowerFrom [] text.toList)

def upper (text : String) : String :=
  String.ofList (text.toList.flatMap (caseForm upperRuns upperLong))

end Scrutiny.Text
