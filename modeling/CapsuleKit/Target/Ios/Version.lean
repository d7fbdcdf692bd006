import CapsuleKit.Compile.Emission
import CapsuleKit.Number.Reading
import CapsuleKit.Text.Basic
import CapsuleKit.Text.Digit

/-!
# Versions

A version is a text of parts divided by points. `Version.parts` gives their numbers: a part of
digits counts by its value and any other part as zero. Some digits, superscripts among them, are not
decimal; a part that holds one cannot be read. Versions are compared part by part.
-/

namespace CapsuleKit

namespace Version

/-- Why a version has no parts. -/
inductive Fault where
  | notDecimal (part : String)
  | tooManyDigits (count : Nat)
  deriving DecidableEq

def Fault.message : Fault → String
  | .notDecimal part => Number.notWhole 10 part
  | .tooManyDigits n => Number.tooManyDigits n

/-- The value of decimal digits of any script. -/
def decimalNumber (cs : List Char) : Nat :=
  cs.foldl (fun acc c => 10 * acc + (Text.decimalValue? c).getD 0) 0

/-- The number of a part. -/
def part (cs : List Char) : Except Fault Nat :=
  if cs.isEmpty || !cs.all Text.isDigit then .ok 0
  else
    let digits := cs.takeWhile fun c => (Text.decimalValue? c).isSome
    if Number.digitLimit < digits.length then .error (.tooManyDigits digits.length)
    else if digits.length < cs.length then .error (.notDecimal (String.ofList cs))
    else .ok (decimalNumber cs)

/-- The numbers of all parts. -/
def parts (s : String) : Except Fault (List Nat) :=
  (List.splitOnP (· == '.') s.toList).mapM part

/-- The text of the first part. -/
def firstPart (s : String) : String :=
  String.ofList (s.toList.takeWhile (· != '.'))

/-- The later of two versions, the first one if they are equal. -/
def later (target v : String) : Except Fault String := do
  let a ← parts v
  let b ← parts target
  return if b < a then v else target

end Version

/-- The minimum versions that the templates in use ask for. -/
def Job.minVersions (j : Job) : List String :=
  (j.components.filterMap (·.2.minVersion)).filter (!·.isEmpty)

/-- The latest of a configured minimum version and those of the templates in use. -/
def Job.deploymentTarget (j : Job) (configured : String) : Except Version.Fault String :=
  j.minVersions.foldlM Version.later configured

end CapsuleKit
