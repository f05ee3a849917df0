import Mathlib.Data.List.Basic

/-!
# The text of a JSON array

An array as it is spelled: its items, the string literals among them, and the white space
between the tokens.
-/

namespace Hyperliquid.Base.JsonText

/-- White space between two tokens. -/
structure Blank where
  chars : List Char
  insignificant : ∀ c ∈ chars, c ∈ [' ', '\t', '\n', '\r']

def Blank.none : Blank := ⟨[], nofun⟩

def isHexDigit (c : Char) : Bool :=
  c.isDigit || ('a' ≤ c && c ≤ 'f') || ('A' ≤ c && c ≤ 'F')

/-- Whether a text can stand between the quotes of a string literal. -/
def isContent : List Char → Bool
  | [] => true
  | '\\' :: 'u' :: a :: b :: c :: d :: chars => [a, b, c, d].all isHexDigit && isContent chars
  | '\\' :: c :: chars => ['"', '\\', '/', 'b', 'f', 'n', 'r', 't'].elem c && isContent chars
  | c :: chars => c ≠ '"' && c ≠ '\\' && ' ' ≤ c && isContent chars

/-- A string literal. -/
structure Literal where
  content : List Char
  isContent : isContent content = true

def Literal.chars (literal : Literal) : List Char := '"' :: literal.content ++ ['"']

/-- What a string literal stands for. Only the empty literal is the empty text. -/
structure Unescape where
  text : Literal → String
  text_eq_empty_iff : ∀ literal, text literal = "" ↔ literal.content = []

/-- An item of an array between its blanks. -/
structure Item (τ : Type) where
  before : Blank
  token : τ
  after : Blank

/-- The text of an array. -/
inductive ArrayText (τ : Type) where
  | empty (blank : Blank)
  | items (first : Item τ) (rest : List (Item τ))

variable {τ : Type} (spell : τ → List Char)

def Item.chars (item : Item τ) : List Char :=
  item.before.chars ++ spell item.token ++ item.after.chars

namespace ArrayText

def tokens : ArrayText τ → List τ
  | empty _ => []
  | items first rest => first.token :: rest.map Item.token

def chars : ArrayText τ → List Char
  | empty blank => '[' :: blank.chars ++ [']']
  | items first rest =>
    '[' :: (first.chars spell ++ rest.flatMap fun item ↦ ',' :: item.chars spell) ++ [']']

/-- An array is never spelled with no characters. -/
theorem chars_ne_nil (array : ArrayText τ) : array.chars spell ≠ [] := by
  cases array with
  | empty blank => exact List.cons_ne_nil _ _
  | items first rest => exact List.cons_ne_nil _ _

/-- Every character of a token is a character of the array. -/
theorem mem_chars {array : ArrayText τ} {token : τ} {c : Char} (htoken : token ∈ array.tokens)
    (hc : c ∈ spell token) : c ∈ array.chars spell := by
  cases array with
  | empty blank => exact absurd htoken List.not_mem_nil
  | items first rest =>
    rw [tokens, List.mem_cons, List.mem_map] at htoken
    simp only [chars, List.cons_append, List.mem_cons, List.mem_append]
    rcases htoken with rfl | ⟨item, hitem, rfl⟩
    · have hfirst : c ∈ first.chars spell := by simp [Item.chars, hc]
      exact Or.inr (Or.inl (Or.inl hfirst))
    · have hrest : c ∈ rest.flatMap fun item ↦ ',' :: item.chars spell := by
        rw [List.mem_flatMap]
        exact ⟨item, hitem, by simp [Item.chars, hc]⟩
      exact Or.inr (Or.inl (Or.inr hrest))

end ArrayText

end Hyperliquid.Base.JsonText
