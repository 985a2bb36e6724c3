import MalwareScan.Json.Reading
import MalwareScan.Json.Value

/-!
# The grammar of JSON

Which texts spell a value, without saying how they are read: `Spells value cs`. A value can be
spelled in many ways, since white space may stand around every token and most characters of a
string can be escaped. All that the grammar admits is a value here: a string may hold surrogates
that are no characters, and a number may be as large as it likes.
-/

namespace MalwareScan.Json

/-! ## White space and digits -/

/-- There is only white space. -/
def AreSpaces (cs : List Char) : Prop :=
  ∀ c ∈ cs, isSpace c = true

instance (cs : List Char) : Decidable (AreSpaces cs) :=
  List.decidableBAll (fun c => isSpace c = true) cs

/-- There need not be any. -/
theorem areSpaces_nil : AreSpaces [] := by
  intro c hc
  cases hc

/-- There is at least one digit, and nothing else. -/
def AreDigits (cs : List Char) : Prop :=
  cs ≠ [] ∧ ∀ c ∈ cs, c.isDigit = true

/-! ## Numbers -/

/-- The text of the digits behind a point, if there are any. -/
inductive SpellsFraction : Option (List Char) → List Char → Prop where
  | none : SpellsFraction none []
  | digits {digits : List Char} (h : AreDigits digits) :
      SpellsFraction (some digits) ('.' :: digits)

/-- The text of the sign of an exponent, and whether it is a minus sign. -/
inductive SpellsSign : Bool → List Char → Prop where
  | none : SpellsSign false []
  | plus : SpellsSign false ['+']
  | minus : SpellsSign true ['-']

/-- The text of an exponent, if there is one. -/
inductive SpellsExponent : Option Int → List Char → Prop where
  | none : SpellsExponent none []
  | digits {mark : Char} {negative : Bool} {sign digits : List Char}
      (hmark : mark = 'e' ∨ mark = 'E')
      (hsign : SpellsSign negative sign) (hdigits : AreDigits digits) :
      SpellsExponent
        (some (if negative then -(Text.digitsValue digits : Int) else Text.digitsValue digits))
        (mark :: (sign ++ digits))

/-- The text of a number. No zero stands before another digit of its integer part. -/
inductive SpellsNumber : Number → List Char → Prop where
  | parts {negative : Bool} {whole : List Char} {fraction : Option (List Char)}
      {exponent : Option Int}
      {point power : List Char} (hwhole : AreDigits whole)
      (hzero : whole.head? = some '0' → whole = ['0']) (hfraction : SpellsFraction fraction point)
      (hexponent : SpellsExponent exponent power) :
      SpellsNumber (.ofParts negative whole fraction exponent)
        ((if negative then ['-'] else []) ++ (whole ++ (point ++ power)))

/-! ## Strings -/

/-- The text of one part of a string: a character that needs no escape, one behind a backslash, or
the four digits of a unit. -/
inductive SpellsPiece : Piece → List Char → Prop where
  | char {c : Char} (hquote : c ≠ '"') (hbackslash : c ≠ '\\') (hcontrol : ¬ c.toNat < 32) :
      SpellsPiece (.char c) [c]
  | escape {e c : Char} (h : simpleEscape? e = some c) : SpellsPiece (.char c) ['\\', e]
  | unit {a b c d : Char} {n : Nat} (h : hexUnit? a b c d = some n) :
      SpellsPiece (.unit n) ['\\', 'u', a, b, c, d]

/-- The text of the parts of a string. -/
inductive SpellsPieces : List Piece → List Char → Prop where
  | nil : SpellsPieces [] []
  | cons {piece : Piece} {pieces : List Piece} {front back : List Char}
      (hpiece : SpellsPiece piece front) (hpieces : SpellsPieces pieces back) :
      SpellsPieces (piece :: pieces) (front ++ back)

/-- The text of a string, between its quotes. What it stands for is no text if a surrogate has no
other one beside it to make a pair. -/
inductive SpellsString : Except Breach String → List Char → Prop where
  | pieces {pieces : List Piece} {cs : List Char} (h : SpellsPieces pieces cs) :
      SpellsString (joinPieces pieces none) ('"' :: (cs ++ ['"']))

/-- The text of a member's name, with white space around it. -/
inductive SpellsName : Except Breach String → List Char → Prop where
  | spaced {name : Except Breach String} {before cs after : List Char} (hbefore : AreSpaces before)
      (hname : SpellsString name cs) (hafter : AreSpaces after) :
      SpellsName name (before ++ (cs ++ after))

/-- There need not be any white space. -/
theorem SpellsString.spellsName {name : Except Breach String} {cs : List Char}
    (h : SpellsString name cs) : SpellsName name cs := by
  have hname := SpellsName.spaced areSpaces_nil h areSpaces_nil
  rwa [List.nil_append, List.append_nil] at hname

/-! ## Values -/

/-- An item of an array and its text. -/
structure SpelledItem where
  value : Reading
  chars : List Char

/-- A member of an object and its text: that of the name and that of the value. -/
structure SpelledMember where
  name : Except Breach String
  nameChars : List Char
  value : Reading
  valueChars : List Char

/-- The text of a member. -/
def SpelledMember.chars (member : SpelledMember) : List Char :=
  member.nameChars ++ ':' :: member.valueChars

/-- The text is one that spells the value. -/
inductive Spells : Reading → List Char → Prop where
  | null : Spells .null ['n', 'u', 'l', 'l']
  | boolean (b : Bool) : Spells (.boolean b) (booleanChars b)
  | number {n : Number} {cs : List Char} (h : SpellsNumber n cs) : Spells (.number n) cs
  | string {text : Except Breach String} {cs : List Char} (h : SpellsString text cs) :
      Spells (.string text) cs
  | emptyArray {cs : List Char} (h : AreSpaces cs) : Spells (.array [] none) ('[' :: (cs ++ [']']))
  | array {items : List SpelledItem} (hne : items ≠ [])
      (h : ∀ item ∈ items, Spells item.value item.chars) :
      Spells (.array (items.map SpelledItem.value) none)
        ('[' :: ([','].intercalate (items.map SpelledItem.chars) ++ [']']))
  | emptyObject {cs : List Char} (h : AreSpaces cs) :
      Spells (.object [] none) ('\x7b' :: (cs ++ ['\x7d']))
  | object {members : List SpelledMember} (hne : members ≠ [])
      (hnames : ∀ member ∈ members, SpellsName member.name member.nameChars)
      (h : ∀ member ∈ members, Spells member.value member.valueChars) :
      Spells (.object (members.map fun member => (member.name, member.value)) none)
        ('\x7b' :: ([','].intercalate (members.map SpelledMember.chars) ++ ['\x7d']))
  | spaced {value : Reading} {before cs after : List Char} (hbefore : AreSpaces before)
      (h : Spells value cs) (hafter : AreSpaces after) : Spells value (before ++ (cs ++ after))

/-- A text that spells a value is not cut. -/
theorem Spells.cut?_eq_none {value : Reading} {cs : List Char} (h : Spells value cs) :
    value.cut? = none := by
  induction h with
  | spaced _ _ _ ih => exact ih
  | _ => rfl

end MalwareScan.Json
