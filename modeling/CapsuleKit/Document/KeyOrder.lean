import CapsuleKit.Document.Value

/-!
# The order of keys

Keys of a map are sorted where a format wants them in order: texts by code point, numbers by value.
Keys of different kinds have no order; `sortKeys` then says which two could not be compared. Which
comparison fails first depends on the way of sorting, so that is fixed: runs that are in order are
found, short ones are filled up by putting further keys into their places by halving, and
neighbouring runs are merged in the order that the powers of the borders between them give.
-/

namespace CapsuleKit

/-- Why two keys could not be compared. -/
inductive KeyClash where
  | kinds (left right : String)
  | dateAndStamp
  | offsets

/-- The message for keys that have no order. -/
def KeyClash.message : KeyClash → String
  | .kinds l r => "'<' not supported between instances of '" ++ l ++ "' and '" ++ r ++ "'"
  | .dateAndStamp => "can't compare datetime.datetime to datetime.date"
  | .offsets => "can't compare offset-naive and offset-aware datetimes"

namespace Scalar

/-- The full word for the kind of a key in messages. -/
def keyKind : Scalar → String
  | .null => "NoneType"
  | .bool _ => "bool"
  | .int _ => "int"
  | .float _ => "float"
  | .text _ => "str"
  | .moment (.date _) => "datetime.date"
  | .moment (.time _) => "datetime.time"
  | .moment (.stamp ..) => "datetime.datetime"
  | .bytes _ => "bytes"

/-- A number as a signed ratio, the infinities with a denominator of zero. -/
def ratio? : Scalar → Option (Int × Nat)
  | .bool b => some (if b then 1 else 0, 1)
  | .int n => some (n, 1)
  | .float x =>
    match x.parts with
    | .nan => none
    | .infinite s => some (if s then -1 else 1, 0)
    | .finite .. =>
      match x.toRatio? with
      | some (s, num, den) => some (Binary64.signed s num, den)
      | none => none
  | _ => none

/-- Whether one ratio is below another. -/
def ratioLess (a b : Int × Nat) : Bool :=
  match a.2, b.2 with
  | 0, 0 => a.1 < b.1
  | 0, _ => a.1 < 0
  | _, 0 => 0 < b.1
  | d, e => a.1 * e < b.1 * d

def isNumber : Scalar → Bool
  | .bool _ | .int _ | .float _ => true
  | _ => false

/-- Whether one key comes before another. -/
def keyLess (a b : Scalar) : Except KeyClash Bool :=
  match a, b with
  | .text s, .text t => .ok (s < t)
  | .moment (.date d), .moment (.date e) => .ok (d.ordinal < e.ordinal)
  | .moment (.date _), .moment (.stamp ..) => .error .dateAndStamp
  | .moment (.stamp ..), .moment (.date _) => .error .dateAndStamp
  | .moment (.stamp d t o), .moment (.stamp e u p) =>
    if o.isSome = p.isSome then
      .ok (Moment.instant d t (o.getD 0) < Moment.instant e u (p.getD 0))
    else .error .offsets
  | .bytes s, .bytes t => .ok (s < t)
  | _, _ =>
    if a.isNumber && b.isNumber then
      match a.ratio?, b.ratio? with
      | some x, some y => .ok (ratioLess x y)
      | _, _ => .ok false
    else .error (.kinds a.keyKind b.keyKind)

end Scalar

/-- The length of the descending or ascending run that goes on behind `last`. -/
def runLength {α : Type} (descending : Bool) (last : Scalar) :
    List (Scalar × α) → Except KeyClash Nat
  | [] => .ok 0
  | x :: xs => do
    if (← x.1.keyLess last) = descending then return (← runLength descending x.1 xs) + 1
    else return 0

/-- The run at the front of a list, in ascending order, and what follows it. -/
def frontRun {α : Type} : List (Scalar × α) →
    Except KeyClash (List (Scalar × α) × List (Scalar × α))
  | [] => .ok ([], [])
  | [x] => .ok ([x], [])
  | x :: y :: rest => do
    let descending ← y.1.keyLess x.1
    let n ← runLength descending y.1 rest
    let run := x :: y :: rest.take n
    return (if descending then run.reverse else run, rest.drop n)

/-- The place of a key in a sorted list, found by halving between two bounds. -/
def placeOf {α : Type} (sorted : List (Scalar × α)) (key : Scalar) : Nat → Nat → Nat →
    Except KeyClash Nat
  | 0, low, _ => .ok low
  | fuel + 1, low, high =>
    if low < high then do
      let middle := low + (high - low) / 2
      match sorted[middle]? with
      | none => return low
      | some x =>
        if ← key.keyLess x.1 then placeOf sorted key fuel low middle
        else placeOf sorted key fuel (middle + 1) high
    else .ok low

def insertKeys {α : Type} (sorted : List (Scalar × α)) : List (Scalar × α) →
    Except KeyClash (List (Scalar × α))
  | [] => .ok sorted
  | x :: xs => do
    let n ← placeOf sorted x.1 sorted.length 0 sorted.length
    insertKeys (sorted.take n ++ x :: sorted.drop n) xs

/-- Two sorted lists in one; of equal keys those of the first come first. -/
def mergeRuns {α : Type} : Nat → List (Scalar × α) → List (Scalar × α) →
    Except KeyClash (List (Scalar × α))
  | 0, xs, ys => .ok (xs ++ ys)
  | _ + 1, [], ys => .ok ys
  | _ + 1, xs, [] => .ok xs
  | fuel + 1, x :: xs, y :: ys => do
    if ← y.1.keyLess x.1 then return y :: (← mergeRuns fuel (x :: xs) ys)
    else return x :: (← mergeRuns fuel xs (y :: ys))

/-- A sorted part of a list: its first position, its entries, and the power of the border to the run
behind it. -/
structure KeyRun (α : Type) where
  first : Nat
  entries : List (Scalar × α)
  power : Nat := 0

namespace KeyRun

variable {α : Type}

/-- How long a run has to be in a list of `n` entries. -/
def minimum : Nat → Nat → Nat → Nat
  | 0, n, _ => n
  | fuel + 1, n, odd => if n < 64 then n + odd else minimum fuel (n / 2) (max odd (n % 2))

/-- The place of the first binary digit in which two fractions `a / n` and `b / n` differ. -/
def firstDifference : Nat → Nat → Nat → Nat → Nat
  | 0, _, _, _ => 0
  | fuel + 1, n, a, b =>
    if n ≤ a then firstDifference fuel n (2 * (a - n)) (2 * (b - n)) + 1
    else if n ≤ b then 1
    else firstDifference fuel n (2 * a) (2 * b) + 1

/-- The power of the border between a run and one behind it: where the fractions of their middles in
a list of `n` entries differ. -/
def border (n : Nat) (r : KeyRun α) (size : Nat) : Nat :=
  let a := 2 * r.first + r.entries.length
  firstDifference (n + 2) n a (a + r.entries.length + size)

/-- Two neighbouring runs as one. -/
def join (r q : KeyRun α) : Except KeyClash (KeyRun α) := do
  return ⟨r.first, ← mergeRuns (r.entries.length + q.entries.length) r.entries q.entries, q.power⟩

/-- Joins the runs at the top of a stack as long as the border below has a higher power. -/
def settle (power : Nat) : Nat → List (KeyRun α) → Except KeyClash (List (KeyRun α))
  | 0, stack => .ok stack
  | fuel + 1, top :: below :: rest =>
    if power < below.power then do settle power fuel ((← below.join top) :: rest)
    else .ok (top :: below :: rest)
  | _ + 1, stack => .ok stack

/-- Puts a run on a stack, after joining what comes before it. -/
def push (n : Nat) (run : KeyRun α) (stack : List (KeyRun α)) :
    Except KeyClash (List (KeyRun α)) :=
  match stack with
  | [] => .ok [run]
  | top :: _ => do
    let power := top.border n run.entries.length
    match ← settle power stack.length stack with
    | [] => return [run]
    | top :: rest => return run :: { top with power } :: rest

/-- Joins all runs of a stack, from the top down; a run that is shorter than the one two places
above it is joined first. -/
def collapse : Nat → List (KeyRun α) → Except KeyClash (List (Scalar × α))
  | 0, stack => .ok (stack.reverse.flatMap (·.entries))
  | _ + 1, [] => .ok []
  | _ + 1, [run] => .ok run.entries
  | fuel + 1, [top, below] => do collapse fuel [← below.join top]
  | fuel + 1, top :: middle :: below :: rest =>
    if below.entries.length < top.entries.length then do
      collapse fuel (top :: (← below.join middle) :: rest)
    else do collapse fuel ((← middle.join top) :: below :: rest)

/-- Cuts entries into runs of a least size and puts them on a stack. -/
def gather (n least : Nat) : Nat → Nat → List (KeyRun α) → List (Scalar × α) →
    Except KeyClash (List (KeyRun α))
  | 0, _, stack, _ => .ok stack
  | _ + 1, _, stack, [] => .ok stack
  | fuel + 1, first, stack, entries => do
    let (run, rest) ← frontRun entries
    let more := least - run.length
    let run ← insertKeys run (rest.take more)
    gather n least fuel (first + run.length) (← push n ⟨first, run, 0⟩ stack) (rest.drop more)

end KeyRun

/-- Entries in the order of their keys, or the two keys that have none. -/
def sortKeys {α : Type} (entries : List (Scalar × α)) : Except KeyClash (List (Scalar × α)) := do
  let n := entries.length
  let stack ← KeyRun.gather n (KeyRun.minimum n n 0) (n + 1) 0 [] entries
  KeyRun.collapse (stack.length + 1) stack

end CapsuleKit
