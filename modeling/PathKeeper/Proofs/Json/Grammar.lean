import Mathlib.Data.List.Forall2
import PathKeeper.Json.Number
import PathKeeper.Json.Writer

/-!
# The grammar of JSON

Which texts are values, without regard to what they mean, and which texts a string literal stands
for. Blanks may stand around every token, and values may be nested to any depth.
-/

namespace PathKeeper.Json

set_option autoImplicit false

open Text (hexDigit? joined spelled?)

/-! ## Blanks -/

def AllBlank (s : List Char) : Prop := ∀ c ∈ s, isBlank c = true

instance : DecidablePred AllBlank := fun s =>
  decidable_of_iff (s.all isBlank = true) List.all_eq_true

theorem allBlank_nil : AllBlank [] := List.forall_mem_nil _

/-- A text with blanks around it. -/
structure Spaced where
  front : List Char
  text : List Char
  back : List Char
  front_blank : AllBlank front := by decide
  back_blank : AllBlank back := by decide

def Spaced.write (x : Spaced) : List Char := x.front ++ (x.text ++ x.back)

/-- A key and a value, with a colon between them. -/
structure Member where
  key : Spaced
  value : Spaced

def Member.write (m : Member) : List Char := m.key.write ++ ':' :: m.value.write

/-- An object with the given members. -/
def objectText (members : List Member) : List Char :=
  '\x7b' :: (joined [','] (members.map Member.write) ++ ['\x7d'])

/-! ## Strings -/

/-- A character that stands for itself. -/
def IsPlain (c : Char) : Prop := 0x20 ≤ c.toNat ∧ c ≠ '"' ∧ c ≠ '\\'

/-- The letters that follow a backslash, and what they stand for. -/
def shortEscapes : List (Char × Char) :=
  [('"', '"'), ('\\', '\\'), ('/', '/'), ('b', '\x08'), ('f', '\x0c'), ('n', '\n'), ('r', '\r'),
    ('t', '\t')]

/-- Four hexadecimal digits and the number that they spell. -/
def IsQuad (quad : List Char) (n : Nat) : Prop :=
  quad.length = 4 ∧ spelled? hexDigit? 16 0 quad = some n

/-- What may stand between the quotes of a string. Hexadecimal escapes need not be characters. -/
inductive IsBody : List Char → Prop where
  | nil : IsBody []
  | plain {c : Char} {s : List Char} (hc : IsPlain c) (h : IsBody s) : IsBody (c :: s)
  | short {letter c : Char} {s : List Char} (hletter : (letter, c) ∈ shortEscapes) (h : IsBody s) :
      IsBody ('\\' :: letter :: s)
  | quad {quad s : List Char} {n : Nat} (hquad : IsQuad quad n) (h : IsBody s) :
      IsBody ('\\' :: 'u' :: (quad ++ s))

/-- How a character may stand between the quotes. One that needs more than four digits is escaped by
two surrogates. -/
inductive SpellsChar : List Char → Char → Prop where
  | plain {c : Char} (hc : IsPlain c) : SpellsChar [c] c
  | short {letter c : Char} (hletter : (letter, c) ∈ shortEscapes) : SpellsChar ['\\', letter] c
  | quad {quad : List Char} {n : Nat} (hquad : IsQuad quad n) (hn : n < 0xD800 ∨ 0xDFFF < n) :
      SpellsChar ('\\' :: 'u' :: quad) (Char.ofNat n)
  | pair {high low : List Char} {n m : Nat} (hhigh : IsQuad high n) (hlow : IsQuad low m)
      (hn : 0xD800 ≤ n ∧ n ≤ 0xDBFF) (hm : 0xDC00 ≤ m ∧ m ≤ 0xDFFF) :
      SpellsChar ('\\' :: 'u' :: (high ++ '\\' :: 'u' :: low))
        (Char.ofNat (0x10000 + (n - 0xD800) * 0x400 + (m - 0xDC00)))

inductive Spells : List Char → List Char → Prop where
  | nil : Spells [] []
  | cons {s t text : List Char} {c : Char} (hc : SpellsChar s c) (h : Spells t text) :
      Spells (s ++ t) (c :: text)

def literal (body : List Char) : List Char := '"' :: (body ++ ['"'])

/-- A string, whatever it stands for. -/
def IsString (s : List Char) : Prop := ∃ body, s = literal body ∧ IsBody body

/-- A string literal for the text. -/
def IsLiteral (s : List Char) (text : String) : Prop :=
  ∃ body, s = literal body ∧ Spells body text.toList

/-- A list of string literals for the texts, with any blanks between the tokens. -/
inductive IsStringList : List Char → List String → Prop where
  | empty {blanks : List Char} (h : AllBlank blanks) : IsStringList ('[' :: (blanks ++ [']'])) []
  | items {items : List Spaced} {texts : List String} (hne : items ≠ [])
      (h : List.Forall₂ (fun x text => IsLiteral x.text text) items texts) :
      IsStringList (writeList (items.map Spaced.write)) texts

/-! ## Numbers -/

def IsDigits (s : List Char) : Prop := s ≠ [] ∧ ∀ c ∈ s, isDigit c = true

/-- Digits without zeros in front. -/
inductive IsWhole : List Char → Prop where
  | zero : IsWhole ['0']
  | digits {c : Char} {s : List Char} (hzero : c ≠ '0') (h : IsDigits (c :: s)) : IsWhole (c :: s)

inductive IsPlaces : List Char → Prop where
  | absent : IsPlaces []
  | present {s : List Char} (h : IsDigits s) : IsPlaces ('.' :: s)

inductive IsExponent : List Char → Prop where
  | absent : IsExponent []
  | present {mark : Char} {sign s : List Char} (hmark : mark = 'e' ∨ mark = 'E')
      (hsign : sign = [] ∨ sign = ['+'] ∨ sign = ['-']) (h : IsDigits s) :
      IsExponent (mark :: (sign ++ s))

inductive IsNumber : List Char → Prop where
  | mk {sign whole places exponent : List Char} (hsign : sign = [] ∨ sign = ['-'])
      (hwhole : IsWhole whole) (hplaces : IsPlaces places) (hexponent : IsExponent exponent) :
      IsNumber (sign ++ (whole ++ (places ++ exponent)))

/-! ## Values -/

def words : List (List Char) :=
  [['n', 'u', 'l', 'l'], ['t', 'r', 'u', 'e'], ['f', 'a', 'l', 's', 'e']]

/-- A value. Lists and objects hold values in turn. -/
inductive IsValue : List Char → Prop where
  | word {s : List Char} (h : s ∈ words) : IsValue s
  | number {s : List Char} (h : IsNumber s) : IsValue s
  | string {s : List Char} (h : IsString s) : IsValue s
  | emptyList {blanks : List Char} (h : AllBlank blanks) : IsValue ('[' :: (blanks ++ [']']))
  | list {items : List Spaced} (hne : items ≠ []) (h : ∀ x ∈ items, IsValue x.text) :
      IsValue (writeList (items.map Spaced.write))
  | emptyObject {blanks : List Char} (h : AllBlank blanks) :
      IsValue ('\x7b' :: (blanks ++ ['\x7d']))
  | object {members : List Member} (hne : members ≠ [])
      (hkeys : ∀ m ∈ members, IsString m.key.text)
      (h : ∀ m ∈ members, IsValue m.value.text) : IsValue (objectText members)

end PathKeeper.Json
