import CapsuleKit.Json.Writer
import CapsuleKit.Proofs.Numerals
import CapsuleKit.Target.Web.Jsx
import Mathlib.Tactic.SplitIfs

/-!
# Expressions in braces

The value of an attribute may be an expression in braces, and a reader has to find the brace that
ends it. `Scan` counts braces and knows double-quoted literals; marks behind which code may go on in
another way, such as the start of a comment, it refuses. A scan that comes to a text with
`Scan.Stays` leaves it in the state it came in. All that is written in braces is of this kind,
whatever the values are: `isAttributeValue_of_eq_some`, with `IsExpression.compact` for lists and maps.
-/

namespace CapsuleKit.Jsx

/-- Where a scan stands, with the number of braces that are open: in code, in a literal, or behind a
backslash in one. -/
inductive Scan where
  | code (depth : Nat)
  | literal (depth : Nat)
  | escaped (depth : Nat)
  deriving DecidableEq

/-- Single quotes, backquotes, slashes and angle brackets may start what is no plain code. -/
def isForeign (c : Char) : Bool :=
  c == '\'' || c == '\x60' || c == '/' || c == '<'

namespace Scan

def step : Scan → Char → Option Scan
  | .code n, c =>
    if c = '"' then some (.literal n)
    else if c = '\x7b' then some (.code (n + 1))
    else if c = '\x7d' then
      if n = 0 then none else some (.code (n - 1))
    else if isForeign c then none
    else some (.code n)
  | .literal n, c =>
    if c = '"' then some (.code n)
    else if c = '\\' then some (.escaped n)
    else if c = '\n' ∨ c = '\r' then none
    else some (.literal n)
  | .escaped n, _ => some (.literal n)

def run (s : Scan) (cs : List Char) : Option Scan :=
  cs.foldlM step s

theorem run_append (s : Scan) (as bs : List Char) : s.run (as ++ bs) = (s.run as).bind (·.run bs) :=
  List.foldlM_append

theorem run_cons (s : Scan) (c : Char) (cs : List Char) :
    s.run (c :: cs) = (s.step c).bind (·.run cs) :=
  List.foldlM_cons

/-- Whether a text leaves a scan as it was, in code or in a literal, at any depth. -/
def Stays (place : Nat → Scan) (cs : List Char) : Prop :=
  ∀ n, (place n).run cs = some (place n)

section Stays

variable {place : Nat → Scan} {as bs cs : List Char} {c : Char}

theorem Stays.nil : Stays place [] := fun _ => rfl

theorem Stays.append (ha : Stays place as) (hb : Stays place bs) : Stays place (as ++ bs) := by
  intro n
  rw [run_append, ha n]
  exact hb n

theorem Stays.flatMap {α : Type} {f : α → List Char} {l : List α}
    (h : ∀ a ∈ l, Stays place (f a)) : Stays place (l.flatMap f) := by
  induction l with
  | nil => exact .nil
  | cons a l ih =>
    rw [List.flatMap_cons]
    exact (h a (.head _)).append (ih fun b hb => h b (.tail _ hb))

theorem Stays.ite {p : Prop} [Decidable p] (ha : Stays place as) (hb : ¬ p → Stays place bs) :
    Stays place (if p then as else bs) := by
  split
  · exact ha
  · exact hb ‹_›

/-- Whether a character is plain code. -/
def isNeutral (c : Char) : Bool :=
  c != '"' && c != '\x7b' && c != '\x7d' && !isForeign c

theorem stays_neutral (h : cs.all isNeutral = true) : Stays code cs := by
  intro n
  induction cs with
  | nil => rfl
  | cons c cs ih =>
    obtain ⟨hc, hcs⟩ := Bool.and_eq_true_iff.1 h
    simp only [isNeutral, Bool.and_eq_true, bne_iff_ne, Bool.not_eq_true'] at hc
    obtain ⟨⟨⟨hquote, hopen⟩, hclose⟩, hforeign⟩ := hc
    rw [run_cons, step, if_neg hquote, if_neg hopen, if_neg hclose, hforeign]
    exact ih hcs

theorem Stays.braced (h : Stays code cs) : Stays code ('\x7b' :: cs ++ ['\x7d']) := by
  intro n
  rw [List.cons_append, run_cons]
  show (code (n + 1)).run (cs ++ ['\x7d']) = _
  rw [run_append, h (n + 1)]
  rfl

theorem Stays.quoted (h : Stays literal cs) : Stays code ('"' :: cs ++ ['"']) := by
  intro n
  rw [List.cons_append, run_cons]
  show (literal n).run (cs ++ ['"']) = _
  rw [run_append, h n]
  rfl

/-- A character of a literal that needs no escape. -/
def IsLiteral (c : Char) : Prop :=
  c ≠ '"' ∧ c ≠ '\\' ∧ c ≠ '\n' ∧ c ≠ '\r'

theorem stays_literal_cons (hc : IsLiteral c) (h : Stays literal cs) : Stays literal (c :: cs) := by
  obtain ⟨hquote, hback, hfeed, hreturn⟩ := hc
  intro n
  rw [run_cons, step, if_neg hquote, if_neg hback, if_neg (by simp [hfeed, hreturn])]
  exact h n

theorem stays_literal_escape (c : Char) (h : Stays literal cs) : Stays literal ('\\' :: c :: cs) := by
  intro n
  rw [run_cons]
  show (escaped n).run (c :: cs) = _
  rw [run_cons]
  exact h n

end Stays

/-! ### Literals -/

theorem stays_escapeChar (c : Char) : Stays literal (Text.escapeChar c) := by
  have hescape (d : Char) : Stays literal ['\\', d] := stays_literal_escape d .nil
  refine .ite (hescape _) fun hback => .ite (hescape _) fun hquote => .ite (hescape _) fun hfeed =>
    .ite (hescape _) fun hreturn => .ite (hescape _) fun _ => ?_
  exact stays_literal_cons ⟨hquote, hback, hfeed, hreturn⟩ .nil

theorem isLiteral_hexChar : ∀ d < 16, IsLiteral (Text.hexChar d) := by
  unfold IsLiteral
  decide

theorem stays_hexDigits (k n : Nat) : Stays literal (Text.hexDigits k n) := by
  induction k generalizing n with
  | zero => exact .nil
  | succ k ih =>
    have hdigit := isLiteral_hexChar (n % 16) (Nat.mod_lt _ (by decide))
    exact (ih (n / 16)).append (stays_literal_cons hdigit .nil)

theorem stays_unitEscape (n : Nat) : Stays literal (Json.unitEscape n) :=
  stays_literal_escape _ (stays_hexDigits 4 n)

theorem stays_stringChar (c : Char) : Stays literal (Json.stringChar c) := by
  have hescape (d : Char) : Stays literal ['\\', d] := stays_literal_escape d .nil
  refine .ite (hescape _) fun hquote => .ite (hescape _) fun hback => .ite (hescape _) fun hfeed =>
    .ite (hescape _) fun hreturn => .ite (hescape _) fun _ => .ite (hescape _) fun _ =>
    .ite (hescape _) fun _ => .ite ?_ fun _ => .ite (stays_unitEscape _) fun _ => ?_
  · exact stays_literal_cons ⟨hquote, hback, hfeed, hreturn⟩ .nil
  · exact (stays_unitEscape _).append (stays_unitEscape _)

/-! ### Numbers -/

theorem isNeutral_of_isNumeralChar {c : Char} (h : isNumeralChar c = true) : isNeutral c = true := by
  simp only [isNeutral, isForeign, Bool.and_eq_true, bne_iff_ne, Bool.not_eq_true',
    Bool.or_eq_false_iff, beq_eq_false_iff_ne]
  refine ⟨⟨⟨?_, ?_⟩, ?_⟩, ⟨⟨?_, ?_⟩, ?_⟩, ?_⟩ <;> rintro rfl <;> exact absurd h (by decide)

end Scan

/-! ### Expressions -/

/-- A text that may stand in braces as the value of an attribute. -/
structure IsExpression (s : String) : Prop where
  ne_nil : s.toList ≠ []
  stays : Scan.Stays .code s.toList

namespace IsExpression

open Scan

theorem of_neutral {s : String} (cs : List Char) (hs : s = String.ofList cs) (hne : cs ≠ [])
    (h : cs.all isNeutral = true) : IsExpression s := by
  have hchars : s.toList = cs := by rw [hs, String.toList_ofList]
  exact ⟨by rwa [hchars], by rw [hchars]; exact stays_neutral h⟩

theorem of_literal {s : String} {cs : List Char} (hs : s = "\"" ++ String.ofList cs ++ "\"")
    (h : Stays literal cs) : IsExpression s := by
  have hchars : s.toList = '"' :: cs ++ ['"'] := by simp [hs, String.toList_append]
  exact ⟨by rw [hchars]; exact List.cons_ne_nil _ _, by rw [hchars]; exact h.quoted⟩

theorem quoted (s : String) : IsExpression (Text.quoted s) :=
  of_literal rfl (.flatMap fun c _ => stays_escapeChar c)

theorem string (s : String) : IsExpression (Json.string s) :=
  of_literal rfl (.flatMap fun c _ => stays_stringChar c)

theorem of_numeral {s : String} (h : IsNumeral s) : IsExpression s where
  ne_nil := h.ne_nil
  stays := stays_neutral (List.all_eq_true.2 fun c hc => isNeutral_of_isNumeralChar (h.chars c hc))

theorem floatText (x : Binary64) : IsExpression (Json.floatText x) := by
  unfold Json.floatText
  cases x.parts with
  | nan => exact of_neutral ['N', 'a', 'N'] rfl (List.cons_ne_nil _ _) rfl
  | infinite s =>
    cases s
    · exact of_neutral "Infinity".toList rfl (by decide) rfl
    · exact of_neutral "-Infinity".toList rfl (by decide) rfl
  | finite s m e => exact of_numeral (.float x)

theorem scalarText (s : Scalar) : IsExpression (Json.scalarText s) := by
  cases s with
  | null => exact of_neutral "null".toList rfl (by decide) rfl
  | bool b =>
    cases b
    · exact of_neutral "false".toList rfl (by decide) rfl
    · exact of_neutral "true".toList rfl (by decide) rfl
  | int n => exact of_numeral (.int n)
  | float x => exact floatText x
  | text s => exact string s
  | moment m => exact string m.iso
  | bytes data => exact string _

theorem keyText (s : Scalar) : IsExpression (Json.keyText s) := by
  cases s <;> exact string _

theorem stays_intercalate {ss : List String} (h : ∀ s ∈ ss, Stays code s.toList) :
    Stays code (String.intercalate ", " ss).toList := by
  induction ss with
  | nil => exact .nil
  | cons s ss ih =>
    obtain ⟨hs, hss⟩ := List.forall_mem_cons.1 h
    cases ss with
    | nil => simpa using hs
    | cons t ts =>
      rw [String.intercalate_cons_cons, String.toList_append, String.toList_append]
      exact (hs.append (stays_neutral rfl)).append (ih hss)

theorem bracketed {ss : List String} (h : ∀ s ∈ ss, Stays code s.toList) :
    IsExpression ("[" ++ String.intercalate ", " ss ++ "]") where
  ne_nil := by simp [String.toList_append]
  stays := by
    rw [String.toList_append, String.toList_append]
    exact ((stays_neutral rfl).append (stays_intercalate h)).append
      (stays_neutral rfl)

mutual

theorem compact : ∀ v : Value, IsExpression (Json.compact v)
  | .scalar s => scalarText s
  | .list items => by
    rw [Json.compact]
    exact bracketed fun s hs => (compactItems items s hs).stays
  | .map entries => by
    have hparts : ∀ s ∈ (((Json.compactEntries entries).mergeSort Json.keyBefore).map
        fun e => Json.keyText e.1 ++ ": " ++ e.2), Stays code s.toList := by
      simp only [List.forall_mem_map, List.mem_mergeSort]
      intro e he
      rw [String.toList_append, String.toList_append]
      exact ((keyText e.1).stays.append (stays_neutral rfl)).append
        (compactEntries entries e he).stays
    have hstays := (stays_intercalate hparts).braced
    rw [Json.compact]
    exact ⟨by simp [String.toList_append], by simpa [String.toList_append] using hstays⟩
  | .set members => by
    rw [Json.compact]
    exact bracketed (List.forall_mem_map.2 fun s _ => (scalarText s).stays)
  | .again v => by
    rw [Json.compact]
    exact compact v

theorem compactItems : ∀ vs : List Value, ∀ s ∈ Json.compactItems vs, IsExpression s
  | [] => fun _ hs => absurd hs List.not_mem_nil
  | v :: vs => List.forall_mem_cons.2 ⟨compact v, compactItems vs⟩

theorem compactEntries : ∀ es : List (Scalar × Value), ∀ e ∈ Json.compactEntries es,
    IsExpression e.2
  | [] => fun _ he => absurd he List.not_mem_nil
  | (_, v) :: es => List.forall_mem_cons.2 ⟨compact v, compactEntries es⟩

end

theorem action : IsExpression "() => \x7b\x7d" where
  ne_nil := by decide
  stays := (stays_neutral (rfl : "() => ".toList.all isNeutral = true)).append Stays.nil.braced

end IsExpression

/-- The two forms of the right-hand side of an attribute. -/
inductive IsAttributeValue : String → Prop where
  | text {s : String} (h : isPlainAttribute s = true) : IsAttributeValue ("\"" ++ s ++ "\"")
  | code {s : String} (h : IsExpression s) : IsAttributeValue (braced s)

theorem isAttributeValue_of_eq_some {type : Option String} {v : Value} {s : String}
    (h : attributeValue? type v = some s) : IsAttributeValue s := by
  unfold attributeValue? at h
  split at h
  · obtain rfl := Option.some.inj h
    exact .code .action
  · split at h <;> simp only [reduceCtorEq, Option.some.injEq] at h <;> subst h
    · exact .code (IsExpression.of_neutral "false".toList rfl (by decide) rfl)
    · exact .code (.of_numeral (.int _))
    · exact .code (.of_numeral (.float _))
    · split_ifs with hplain
      · exact .text hplain
      · exact .code (.quoted _)
    · exact .code (.compact _)

end CapsuleKit.Jsx
