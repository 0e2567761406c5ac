import TypedRoutes.Text.CaseTable
import TypedRoutes.Text.Ranges

/-!
Lower-casing of texts by the full Unicode mapping. One letter depends on its surroundings: a
capital sigma at the end of a word becomes a final sigma.
-/

set_option autoImplicit false
set_option relaxedAutoImplicit false

namespace TypedRoutes.Text

/-- Whether a character has letter case, the ones that `isCaseIgnorable` passes over left aside. -/
def isCased (c : Char) : Bool := inRanges casedRanges c.toNat

/-- Whether a character is passed over when the neighbours of a sigma are looked for. -/
def isCaseIgnorable (c : Char) : Bool := inRanges caseIgnorableRanges c.toNat

def CaseRun.covers (run : CaseRun) (n : Nat) : Bool :=
  run.first ≤ n && n ≤ run.last && (n - run.first) % run.step == 0

/-- The lower-case form of a character by itself; only the dotted capital I has two characters. -/
def lowercaseChar (c : Char) : List Char :=
  if c.toNat = 0x130 then ['i', Char.ofNat 0x307]
  else match lowercaseRuns.find? (·.covers c.toNat) with
    | none => [c]
    | some run => [Char.ofNat (c.toNat + run.shift).toNat]

/-- Whether the first character that is not passed over is a letter with case. -/
def startsCased (text : List Char) : Bool :=
  match text.dropWhile isCaseIgnorable with
  | [] => false
  | c :: _ => isCased c

def capitalSigma : Char := Char.ofNat 0x3A3

def finalSigma : Char := Char.ofNat 0x3C2

def smallSigma : Char := Char.ofNat 0x3C3

/-- Lower-cases a text whose preceding characters are given, the nearest first. -/
def lowercaseAfter (before : List Char) : List Char → List Char
  | [] => []
  | c :: rest =>
    let here :=
      if c = capitalSigma then
        [if startsCased before && !startsCased rest then finalSigma else smallSigma]
      else lowercaseChar c
    here ++ lowercaseAfter (c :: before) rest

def lowercase (text : String) : String := String.ofList (lowercaseAfter [] text.toList)

end TypedRoutes.Text
