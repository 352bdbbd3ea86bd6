import Sightline.Json.Literal
import Sightline.Json.Number

/-! JSON as its grammar has it, apart from any reader: with numbers of any form, strings with any escapes,
objects with any members, and any blanks between the tokens.

A tree keeps how its strings and numbers are spelled. What a string says is a question of its own, since
the grammar also allows halves of surrogate pairs, which say nothing (`Spelling.text?`). -/

set_option autoImplicit false

namespace Sightline.Json

/-! ### Strings -/

structure HexDigit where
  value : Fin 16
  capital : Bool := false

def HexDigit.char (digit : HexDigit) : Char :=
  if digit.capital then (Uuid.hexDigit digit.value).toUpper else Uuid.hexDigit digit.value

def HexDigit.byte (digit : HexDigit) : UInt8 := UInt8.ofNat digit.char.toNat

structure HexUnit where
  first : HexDigit
  second : HexDigit
  third : HexDigit
  fourth : HexDigit

namespace HexUnit

def number (unit : HexUnit) : Nat :=
  4096 * unit.first.value + 256 * unit.second.value + 16 * unit.third.value + unit.fourth.value

def bytes (unit : HexUnit) : Bytes :=
  [unit.first.byte, unit.second.byte, unit.third.byte, unit.fourth.byte]

end HexUnit

inductive Escape where
  | quote
  | backslash
  | slash
  | backspace
  | formFeed
  | lineFeed
  | carriageReturn
  | tab

namespace Escape

def letter : Escape → UInt8
  | .quote => 34
  | .backslash => 92
  | .slash => 47
  | .backspace => 98
  | .formFeed => 102
  | .lineFeed => 110
  | .carriageReturn => 114
  | .tab => 116

def char : Escape → Char
  | .quote => '"'
  | .backslash => '\\'
  | .slash => '/'
  | .backspace => '\x08'
  | .formFeed => '\x0c'
  | .lineFeed => '\n'
  | .carriageReturn => '\r'
  | .tab => '\t'

end Escape

inductive Piece where
  /-- A character that stands for itself. -/
  | plain (c : Char) (printed : c ≠ '"' ∧ c ≠ '\\' ∧ 32 ≤ c.toNat)
  /-- An escape of one letter. -/
  | short (escape : Escape)
  /-- An escape by number. -/
  | long (unit : HexUnit)

def Piece.bytes : Piece → Bytes
  | .plain c _ => String.utf8EncodeChar c
  | .short escape => [escapeMark, escape.letter]
  | .long unit => escapeMark :: unitMark :: unit.bytes

/-- What stands between the quotes of a string. -/
abbrev Spelling := List Piece

namespace Spelling

def bytes (spelling : Spelling) : Bytes := spelling.flatMap Piece.bytes

def token (spelling : Spelling) : Bytes := quoteMark :: (bytes spelling ++ [quoteMark])

def paired (leading trailing : Nat) : Char :=
  Char.ofNat ((leading - 0xd800) * 1024 + (trailing - 0xdc00) + 0x10000)

def chars? : Spelling → Option (List Char)
  | [] => some []
  | .plain c _ :: more => (chars? more).map (c :: ·)
  | .short escape :: more => (chars? more).map (escape.char :: ·)
  | .long unit :: more =>
    if isTrailing unit.number then none
    else if isLeading unit.number then
      match more with
      | .long second :: more =>
        if isTrailing second.number then
          (chars? more).map (paired unit.number second.number :: ·)
        else none
      | _ => none
    else (chars? more).map (Char.ofNat unit.number :: ·)

/-- The text that a string says, none if a half of a surrogate pair stands alone. -/
def text? (spelling : Spelling) : Option String := (chars? spelling).map String.ofList

def plainly (s : String) : Spelling :=
  s.toList.filterMap fun c =>
    if printed : c ≠ '"' ∧ c ≠ '\\' ∧ 32 ≤ c.toNat then some (.plain c printed) else none

end Spelling

/-! ### Numbers -/

def Digits (text : Bytes) : Prop := text ≠ [] ∧ ∀ b ∈ text, isDigit b = true

/-- The parts of a number: whole ones have no zero in front, a fraction begins with a point, and a power
with its mark. -/
structure Numeral where
  sign : Bytes := []
  whole : Bytes
  fraction : Bytes := []
  power : Bytes := []
  signed : sign = [] ∨ sign = [minus]
  counted : whole = [48] ∨ Digits whole ∧ whole.head? ≠ some 48
  divided : fraction = [] ∨ ∃ digits, fraction = 46 :: digits ∧ Digits digits
  scaled : power = [] ∨ ∃ mark direction digits, power = mark :: (direction ++ digits) ∧
    isExponentMark mark = true ∧ (direction = [] ∨ direction = [43] ∨ direction = [minus]) ∧
    Digits digits

def Numeral.token (numeral : Numeral) : Bytes :=
  numeral.sign ++ (numeral.whole ++ (numeral.fraction ++ numeral.power))

/-! ### Values -/

inductive Tree where
  | null
  | bool (value : Bool)
  | number (numeral : Numeral)
  | string (spelling : Spelling)
  | list (items : List Tree)
  | object (members : List (Spelling × Tree))

namespace Tree

mutual

def tokens : Tree → List Bytes
  | .null => [[110, 117, 108, 108]]
  | .bool value => [if value then [116, 114, 117, 101] else [102, 97, 108, 115, 101]]
  | .number numeral => [numeral.token]
  | .string spelling => [spelling.token]
  | .list items => [openList] :: itemTokens true items
  | .object members => [openObject] :: memberTokens true members

def itemTokens (first : Bool) : List Tree → List Bytes
  | [] => [[closeList]]
  | item :: more =>
    (if first then [] else [[comma]]) ++ (item.tokens ++ itemTokens false more)

def memberTokens (first : Bool) : List (Spelling × Tree) → List Bytes
  | [] => [[closeObject]]
  | (name, value) :: more =>
    (if first then [] else [[comma]]) ++
      (name.token :: [colon] :: (value.tokens ++ memberTokens false more))

end

theorem tokens_list (items : List Tree) (after : List Bytes) :
    (list items).tokens ++ after = [openList] :: (itemTokens true items ++ after) := rfl

theorem tokens_object (members : List (Spelling × Tree)) (after : List Bytes) :
    (object members).tokens ++ after = [openObject] :: (memberTokens true members ++ after) := rfl

theorem itemTokens_first (item : Tree) (more : List Tree) (after : List Bytes) :
    itemTokens true (item :: more) ++ after = item.tokens ++ (itemTokens false more ++ after) := by
  simp [itemTokens]

theorem itemTokens_next (item : Tree) (more : List Tree) (after : List Bytes) :
    itemTokens false (item :: more) ++ after
      = [comma] :: (item.tokens ++ (itemTokens false more ++ after)) := by
  simp [itemTokens]

theorem memberTokens_first (name : Spelling) (value : Tree) (more : List (Spelling × Tree))
    (after : List Bytes) :
    memberTokens true ((name, value) :: more) ++ after
      = name.token :: [colon] :: (value.tokens ++ (memberTokens false more ++ after)) := by
  simp [memberTokens]

theorem memberTokens_next (name : Spelling) (value : Tree) (more : List (Spelling × Tree))
    (after : List Bytes) :
    memberTokens false ((name, value) :: more) ++ after
      = [comma] :: name.token :: [colon] :: (value.tokens ++ (memberTokens false more ++ after)) := by
  simp [memberTokens]

def text? : Tree → Option String
  | .string spelling => spelling.text?
  | _ => none

def lookup (members : List (Spelling × Tree)) (name : String) : Option Tree :=
  (members.find? (·.1.text? = some name)).map (·.2)

def member? (name : String) : Tree → Option Tree
  | .object members => lookup members name
  | _ => none

/-- The names of the members of every object are texts, and no object has two members of one name. -/
inductive Proper : Tree → Prop
  | null : Proper .null
  | bool (value : Bool) : Proper (.bool value)
  | number (numeral : Numeral) : Proper (.number numeral)
  | string (spelling : Spelling) : Proper (.string spelling)
  | list {items : List Tree} (every : ∀ item ∈ items, Proper item) : Proper (.list items)
  | object {members : List (Spelling × Tree)} (named : ∀ member ∈ members, member.1.text?.isSome)
      (distinct : (members.map (·.1.text?)).Nodup) (every : ∀ member ∈ members, Proper member.2) :
      Proper (.object members)

/-! Whether a value is proper can be computed. -/

mutual

def Proper.decide : (tree : Tree) → Decidable tree.Proper
  | .null => isTrue .null
  | .bool value => isTrue (.bool value)
  | .number numeral => isTrue (.number numeral)
  | .string spelling => isTrue (.string spelling)
  | .list items =>
    have := Proper.decideItems items
    decidable_of_iff (∀ item ∈ items, item.Proper) ⟨.list, fun | .list every => every⟩
  | .object members =>
    have := Proper.decideMembers members
    decidable_of_iff ((∀ member ∈ members, member.1.text?.isSome) ∧
        (members.map (·.1.text?)).Nodup ∧ ∀ member ∈ members, member.2.Proper)
      ⟨fun ⟨named, distinct, every⟩ => .object named distinct every,
        fun | .object named distinct every => ⟨named, distinct, every⟩⟩

def Proper.decideItems : (items : List Tree) → Decidable (∀ item ∈ items, item.Proper)
  | [] => isTrue nofun
  | item :: more =>
    have := Proper.decide item
    have := Proper.decideItems more
    decidable_of_iff (item.Proper ∧ ∀ other ∈ more, other.Proper) List.forall_mem_cons.symm

def Proper.decideMembers :
    (members : List (Spelling × Tree)) → Decidable (∀ member ∈ members, member.2.Proper)
  | [] => isTrue nofun
  | (name, value) :: more =>
    have := Proper.decide value
    have := Proper.decideMembers more
    decidable_of_iff (value.Proper ∧ ∀ other ∈ more, other.2.Proper)
      (List.forall_mem_cons (p := fun member => member.2.Proper) (a := (name, value))).symm

end

instance (tree : Tree) : Decidable tree.Proper := Proper.decide tree

end Tree

/-! ### Texts -/

/-- The text consists of the tokens in their order, with blanks before, between and behind them. -/
def Spaced : List Bytes → Bytes → Prop
  | [], text => skipBlank text = []
  | token :: more, text => ∃ rest, skipBlank text = token ++ rest ∧ Spaced more rest

instance Spaced.decide : (tokens : List Bytes) → (text : Bytes) → Decidable (Spaced tokens text)
  | [], text => inferInstanceAs (Decidable (skipBlank text = []))
  | token :: more, text =>
    have := Spaced.decide more ((skipBlank text).drop token.length)
    decidable_of_iff
      (token <+: skipBlank text ∧ Spaced more ((skipBlank text).drop token.length))
      ⟨fun ⟨⟨rest, same⟩, tail⟩ => ⟨rest, same.symm, by simpa [← same] using tail⟩,
        fun ⟨rest, same, tail⟩ => ⟨⟨rest, same.symm⟩, by simpa [same] using tail⟩⟩

/-- The text is the value in JSON. -/
def Tree.Written (tree : Tree) (text : Bytes) : Prop := Spaced tree.tokens text

instance (tree : Tree) (text : Bytes) : Decidable (tree.Written text) :=
  inferInstanceAs (Decidable (Spaced tree.tokens text))

end Sightline.Json
