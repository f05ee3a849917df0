import Hyperliquid.Base.Numerals
import Mathlib.Data.List.Forall2
import Mathlib.Tactic.Common

/-!
# JSON documents

A reader of JSON texts, and texts that are put together so that it reads them back. Numbers
are integers; fractions, exponents and escaped surrogates are not read.
-/

namespace Hyperliquid.Base.JsonDocument

/-- What a JSON text stands for. -/
inductive Tree where
  | null
  | boolean (value : Bool)
  | integer (value : Int)
  | string (text : String)
  | array (items : List Tree)
  | object (members : List (String × Tree))
  deriving Repr

/-- Takes a value off the front of a text, or fails. -/
abbrev TextReader (α : Type) := List Char → Option (α × List Char)

/-! ## The reader -/

def isBlank (c : Char) : Bool := [' ', '\t', '\n', '\r'].elem c

/-- Leaves out white space. -/
def skip (chars : List Char) : List Char := chars.dropWhile isBlank

def hexDigit? (c : Char) : Option Nat :=
  if c.isDigit then some (c.toNat - '0'.toNat)
  else if 'a' ≤ c ∧ c ≤ 'f' then some (c.toNat - 'a'.toNat + 10)
  else if 'A' ≤ c ∧ c ≤ 'F' then some (c.toNat - 'A'.toNat + 10)
  else none

/-- The character of an escape with four digits. -/
def unicode? (a b c d : Char) : Option Char := do
  let a ← hexDigit? a
  let b ← hexDigit? b
  let c ← hexDigit? c
  let d ← hexDigit? d
  let code := ((a * 16 + b) * 16 + c) * 16 + d
  if code.isValidChar then some (Char.ofNat code) else none

/-- The character of an escape with one letter. -/
def escaped? : Char → Option Char
  | '"' => some '"'
  | '\\' => some '\\'
  | '/' => some '/'
  | 'b' => some (Char.ofNat 8)
  | 'f' => some (Char.ofNat 12)
  | 'n' => some '\n'
  | 'r' => some '\r'
  | 't' => some '\t'
  | _ => none

/-- The rest of a string literal, up to its closing quote. -/
def content : TextReader (List Char)
  | [] => none
  | '"' :: rest => some ([], rest)
  | '\\' :: 'u' :: a :: b :: c :: d :: rest => do
    let char ← unicode? a b c d
    let (chars, rest) ← content rest
    some (char :: chars, rest)
  | '\\' :: letter :: rest => do
    let char ← escaped? letter
    let (chars, rest) ← content rest
    some (char :: chars, rest)
  | char :: rest =>
    if char < ' ' then none
    else do
      let (chars, rest) ← content rest
      some (char :: chars, rest)

/-- The characters of keywords and numbers. -/
def isWord (c : Char) : Bool := c.isAlphanum || ['-', '+', '.'].elem c

/-- A number without a sign. -/
def natural? (digits : List Char) : Option Nat :=
  if digits = [] ∨ (digits.head? = some '0' ∧ digits ≠ ['0']) then none
  else if digits.all Char.isDigit then some (Nat.ofDigitChars 10 digits 0)
  else none

def integer? : List Char → Option Int
  | '-' :: digits => (natural? digits).map fun n ↦ -n
  | digits => (natural? digits).map fun n ↦ n

/-- A keyword or a number. -/
def word? (word : List Char) : Option Tree :=
  if word = ['n', 'u', 'l', 'l'] then some .null
  else if word = ['t', 'r', 'u', 'e'] then some (.boolean true)
  else if word = ['f', 'a', 'l', 's', 'e'] then some (.boolean false)
  else (integer? word).map .integer

/-- Values between commas, up to a closing character. -/
def sequence {α : Type} (read : TextReader α) (close : Char) : Nat → TextReader (List α)
  | 0, _ => none
  | fuel + 1, chars => do
    let (value, rest) ← read chars
    match skip rest with
    | [] => none
    | c :: rest =>
      if c = close then some ([value], rest)
      else if c = ',' then do
        let (values, rest) ← sequence read close fuel rest
        some (value :: values, rest)
      else none

/-- What follows an opening bracket. -/
def collection {α : Type} (read : TextReader α) (close : Char) : TextReader (List α) :=
  fun chars ↦
    match skip chars with
    | [] => none
    | c :: rest => if c = close then some ([], rest) else sequence read close chars.length chars

/-- A member of an object. -/
def member (read : TextReader Tree) : TextReader (String × Tree) := fun chars ↦
  match skip chars with
  | '"' :: rest => do
    let (name, rest) ← content rest
    match skip rest with
    | ':' :: rest => do
      let (value, rest) ← read rest
      some ((String.ofList name, value), rest)
    | _ => none
  | _ => none

/-- A value of at most some depth. -/
def value : Nat → TextReader Tree
  | 0, _ => none
  | depth + 1, chars =>
    match skip chars with
    | '"' :: rest => do
      let (chars, rest) ← content rest
      some (.string (String.ofList chars), rest)
    | '[' :: rest => do
      let (items, rest) ← collection (value depth) ']' rest
      some (.array items, rest)
    | '\x7b' :: rest => do
      let (members, rest) ← collection (member (value depth)) '\x7d' rest
      some (.object members, rest)
    | chars => do
      let tree ← word? (chars.takeWhile isWord)
      some (tree, chars.dropWhile isWord)

/-- A whole text. -/
def parse (text : List Char) : Option Tree := do
  let (tree, rest) ← value (text.length + 1) text
  if skip rest = [] then some tree else none

/-! ## Texts that are put together -/

def quoted (chars : List Char) : List Char := '"' :: chars ++ ['"']

def memberText (name text : List Char) : List Char := quoted name ++ ':' :: text

def arrayText (items : List (List Char)) : List Char :=
  '[' :: List.intercalate [','] items ++ [']']

def objectText (members : List (List Char)) : List Char :=
  '\x7b' :: List.intercalate [','] members ++ ['\x7d']

/-- No keyword or number goes on in what follows. -/
def Ends (rest : List Char) : Prop := ∀ c ∈ rest.head?, isWord c = false

private theorem ends_cons {c : Char} (h : isWord c = false) (rest : List Char) :
    Ends (c :: rest) := by
  intro c' hc'
  cases hc'
  exact h

/-- The reader takes the value off this text and leaves what follows it. -/
def Reads {α : Type} (read : TextReader α) (text : List Char) (a : α) : Prop :=
  ∀ rest, Ends rest → read (text ++ rest) = some (a, rest)

/-- A text stands for a tree. -/
def Spells (text : List Char) (tree : Tree) : Prop :=
  ∀ depth, text.length < depth → Reads (value depth) text tree

/-- A text stands for a member of an object. -/
def SpellsMember (text : List Char) (entry : String × Tree) : Prop :=
  ∀ depth, text.length < depth → Reads (member (value depth)) text entry

/-- What stands between the quotes of a string literal. -/
def SpellsContent (text chars : List Char) : Prop :=
  ∀ rest, content (text ++ '"' :: rest) = some (chars, rest)

/-- A text that spells a tree is parsed as it. -/
theorem parse_of_spells {text : List Char} {tree : Tree} (h : Spells text tree) :
    parse text = some tree := by
  have hvalue := h (text.length + 1) (Nat.lt_succ_self _) [] nofun
  rw [List.append_nil] at hvalue
  rw [parse, hvalue]
  rfl

/-- A text stands for one tree at most. -/
theorem Spells.unique {text : List Char} {tree tree' : Tree} (h : Spells text tree)
    (h' : Spells text tree') : tree = tree' :=
  Option.some.inj ((parse_of_spells h).symm.trans (parse_of_spells h'))

/-! ### Sequences -/

private theorem length_le_intercalate (texts : List (List Char)) :
    texts.length ≤ (List.intercalate [','] texts).length + 1 ∧
      ∀ text ∈ texts, text.length ≤ (List.intercalate [','] texts).length := by
  induction texts with
  | nil => simp
  | cons text texts ih =>
    cases texts with
    | nil => simp
    | cons next texts =>
      obtain ⟨hlength, hmem⟩ := ih
      rw [List.intercalate_cons_cons]
      constructor
      · simp only [List.length_cons, List.length_append] at hlength ⊢
        omega
      · intro other hother
        rcases List.mem_cons.mp hother with rfl | hother
        · simp only [List.length_append]
          omega
        · have := hmem other hother
          simp only [List.length_append]
          omega

variable {α : Type} {read : TextReader α} {close : Char}

/-- A closing character can follow a value. -/
structure Closes (close : Char) : Prop where
  word : isWord close = false
  blank : isBlank close = false
  comma : close ≠ ','

private theorem sequence_of_reads (hclose : Closes close) {texts : List (List Char)}
    {values : List α}
    (h : List.Forall₂ (Reads read) texts values) (hne : texts ≠ []) {fuel : Nat}
    (hfuel : texts.length ≤ fuel) (rest : List Char) :
    sequence read close fuel (List.intercalate [','] texts ++ close :: rest) =
      some (values, rest) := by
  induction h generalizing fuel with
  | nil => exact absurd rfl hne
  | @cons text value texts values htext htexts ih =>
    obtain ⟨fuel, rfl⟩ : ∃ n, fuel = n + 1 := Nat.exists_eq_succ_of_ne_zero (by
      rw [List.length_cons] at hfuel
      omega)
    cases htexts with
    | nil =>
      have hread := htext (close :: rest) (ends_cons hclose.word rest)
      simp [sequence, hread, skip, hclose.blank]
    | @cons next value' texts values hnext htexts =>
      have hseq := ih (List.cons_ne_nil _ _) (Nat.le_of_succ_le_succ hfuel)
      have hread := htext (',' :: (List.intercalate [','] (next :: texts) ++ close :: rest))
        (ends_cons rfl _)
      rw [List.intercalate_cons_cons, List.append_assoc, List.append_assoc, sequence]
      simp only [List.cons_append, List.nil_append, hread]
      have hcomma : ∀ rest, skip (',' :: rest) = ',' :: rest := fun _ ↦ rfl
      simp [hcomma, hclose.comma.symm, hseq]

/-- A reader that takes a value finds some other character than the closing one. -/
def Starts (read : TextReader α) (close : Char) : Prop :=
  ∀ chars, (read chars).isSome → ∃ c rest, skip chars = c :: rest ∧ c ≠ close

/-- Behind the first of some texts there is a comma or the closing character. -/
theorem exists_intercalate_cons (hclose : Closes close) (text : List Char)
    (texts : List (List Char)) (rest : List Char) :
    ∃ more, Ends more ∧
      List.intercalate [','] (text :: texts) ++ close :: rest = text ++ more := by
  cases texts with
  | nil => exact ⟨close :: rest, ends_cons hclose.word rest, by simp⟩
  | cons next texts =>
    refine ⟨',' :: (List.intercalate [','] (next :: texts) ++ close :: rest),
      ends_cons rfl _, ?_⟩
    rw [List.intercalate_cons_cons, List.append_assoc, List.append_assoc]
    rfl

private theorem collection_of_reads (hclose : Closes close) (hstarts : Starts read close)
    {texts : List (List Char)} {values : List α} (h : List.Forall₂ (Reads read) texts values)
    (rest : List Char) :
    collection read close (List.intercalate [','] texts ++ close :: rest) =
      some (values, rest) := by
  cases h with
  | nil => simp [collection, skip, hclose.blank]
  | @cons text value texts values htext htexts =>
    obtain ⟨more, hends, hmore⟩ := exists_intercalate_cons hclose text texts rest
    have hread : (read (List.intercalate [','] (text :: texts) ++ close :: rest)).isSome := by
      rw [hmore, htext more hends]
      rfl
    have hfuel : (text :: texts).length ≤
        (List.intercalate [','] (text :: texts) ++ close :: rest).length := by
      have := (length_le_intercalate (text :: texts)).1
      simp only [List.length_append, List.length_cons] at this ⊢
      omega
    have hseq := sequence_of_reads hclose (.cons htext htexts) (List.cons_ne_nil _ _) hfuel rest
    obtain ⟨c, chars, hskip, hne⟩ := hstarts _ hread
    rw [collection, hskip]
    show (if c = close then _ else _) = _
    rw [if_neg hne, hseq]

private theorem starts_value (depth : Nat) : Starts (value depth) ']' := by
  intro chars h
  cases depth with
  | zero => cases h
  | succ depth =>
    cases hskip : skip chars with
    | nil =>
      rw [value, hskip] at h
      cases h
    | cons c rest =>
      refine ⟨c, rest, rfl, ?_⟩
      rintro rfl
      rw [value, hskip] at h
      cases h

private theorem starts_member (depth : Nat) : Starts (member (value depth)) '\x7d' := by
  intro chars h
  cases hskip : skip chars with
  | nil =>
    rw [member, hskip] at h
    cases h
  | cons c rest =>
    refine ⟨c, rest, rfl, ?_⟩
    rintro rfl
    rw [member, hskip] at h
    cases h

/-! ### Values -/

/-- Texts inside brackets can be read with one level less. -/
theorem reads_inside {P : List Char → α → Prop} {texts : List (List Char)} {values : List α}
    {depth : Nat} (h : List.Forall₂ P texts values)
    (hread : ∀ text value, P text value → text.length < depth → Reads read text value)
    (hdepth : (List.intercalate [','] texts).length < depth) :
    List.Forall₂ (Reads read) texts values := by
  have hshort : ∀ text ∈ texts, text.length < depth := by
    intro text htext
    exact Nat.lt_of_le_of_lt ((length_le_intercalate texts).2 text htext) hdepth
  exact ((List.forall₂_and_left texts values).mpr ⟨hshort, h⟩).imp
    fun text value hboth ↦ hread text value hboth.2 hboth.1

/-- The text of an array, from the texts of its items. -/
theorem spells_array {texts : List (List Char)} {items : List Tree}
    (h : List.Forall₂ Spells texts items) : Spells (arrayText texts) (.array items) := by
  intro depth hdepth rest _
  obtain ⟨depth, rfl⟩ := Nat.exists_eq_succ_of_ne_zero (Nat.ne_zero_of_lt hdepth)
  have hreads : List.Forall₂ (Reads (value depth)) texts items := by
    apply reads_inside h fun text tree htext ↦ htext depth
    simp only [arrayText, List.length_append, List.length_cons, List.length_nil] at hdepth
    omega
  have hcollection := collection_of_reads ⟨rfl, rfl, by decide⟩ (starts_value depth) hreads rest
  have htext : arrayText texts ++ rest =
      '[' :: (List.intercalate [','] texts ++ ']' :: rest) := by
    simp [arrayText]
  have hskip : ∀ rest, skip ('[' :: rest) = '[' :: rest := fun _ ↦ rfl
  rw [htext, value, hskip]
  simp [hcollection]

/-- The text of an object, from the texts of its members. -/
theorem spells_object {texts : List (List Char)} {members : List (String × Tree)}
    (h : List.Forall₂ SpellsMember texts members) :
    Spells (objectText texts) (.object members) := by
  intro depth hdepth rest _
  obtain ⟨depth, rfl⟩ := Nat.exists_eq_succ_of_ne_zero (Nat.ne_zero_of_lt hdepth)
  have hreads : List.Forall₂ (Reads (member (value depth))) texts members := by
    apply reads_inside h fun text entry htext ↦ htext depth
    simp only [objectText, List.length_append, List.length_cons, List.length_nil] at hdepth
    omega
  have hcollection :=
    collection_of_reads ⟨rfl, rfl, by decide⟩ (starts_member depth) hreads rest
  have htext : objectText texts ++ rest =
      '\x7b' :: (List.intercalate [','] texts ++ '\x7d' :: rest) := by
    simp [objectText]
  have hskip : ∀ rest, skip ('\x7b' :: rest) = '\x7b' :: rest := fun _ ↦ rfl
  rw [htext, value, hskip]
  simp [hcollection]

/-- Quoted content spells a string. -/
theorem spells_string {text chars : List Char} (h : SpellsContent text chars) :
    Spells (quoted text) (.string (String.ofList chars)) := by
  intro depth hdepth rest _
  obtain ⟨depth, rfl⟩ := Nat.exists_eq_succ_of_ne_zero (Nat.ne_zero_of_lt hdepth)
  have htext : quoted text ++ rest = '"' :: (text ++ '"' :: rest) := by simp [quoted]
  have hskip : ∀ rest, skip ('"' :: rest) = '"' :: rest := fun _ ↦ rfl
  rw [htext, value, hskip]
  simp [h rest]

/-- A quoted name, a colon and a value spell a member. -/
theorem spells_member {name chars text : List Char} {tree : Tree} (hname : SpellsContent name chars)
    (h : Spells text tree) : SpellsMember (memberText name text) (String.ofList chars, tree) := by
  intro depth hdepth rest hrest
  have htext : memberText name text ++ rest = '"' :: (name ++ '"' :: ':' :: (text ++ rest)) := by
    simp [memberText, quoted]
  have hskip : ∀ rest, skip ('"' :: rest) = '"' :: rest := fun _ ↦ rfl
  have hcolon : ∀ rest, skip (':' :: rest) = ':' :: rest := fun _ ↦ rfl
  have hshort : text.length < depth := by
    simp only [memberText, quoted, List.length_append, List.length_cons] at hdepth
    omega
  rw [htext, member, hskip]
  simp [hname (':' :: (text ++ rest)), hcolon, h depth hshort rest hrest]

private theorem takeWhile_of_ends {rest : List Char} (h : Ends rest) :
    rest.takeWhile isWord = [] ∧ rest.dropWhile isWord = rest := by
  cases rest with
  | nil => exact ⟨rfl, rfl⟩
  | cons c rest =>
    have hc : isWord c = false := h c rfl
    exact ⟨List.takeWhile_cons_of_neg (by simp [hc]), List.dropWhile_cons_of_neg (by simp [hc])⟩

private theorem not_isBlank_of_isWord {c : Char} (h : isWord c = true) : isBlank c = false := by
  cases hblank : isBlank c with
  | false => rfl
  | true =>
    have hmem : c ∈ [' ', '\t', '\n', '\r'] := List.elem_iff.mp hblank
    simp only [List.mem_cons, List.not_mem_nil, or_false] at hmem
    rcases hmem with rfl | rfl | rfl | rfl <;> cases h

/-- A keyword or a number. -/
theorem spells_word {word : List Char} {tree : Tree} (hall : word.all isWord = true)
    (h : word? word = some tree) : Spells word tree := by
  have hword : ∀ c ∈ word, isWord c = true := List.all_eq_true.mp hall
  intro depth hdepth rest hrest
  obtain ⟨depth, rfl⟩ := Nat.exists_eq_succ_of_ne_zero (Nat.ne_zero_of_lt hdepth)
  have htake : (word ++ rest).takeWhile isWord = word := by
    rw [List.takeWhile_append_of_pos hword, (takeWhile_of_ends hrest).1, List.append_nil]
  have hdrop : (word ++ rest).dropWhile isWord = rest := by
    rw [List.dropWhile_append_of_pos hword, (takeWhile_of_ends hrest).2]
  cases word with
  | nil => cases h
  | cons c word =>
    have hc : isWord c = true := hword c (List.mem_cons_self ..)
    have hskip : skip (c :: word ++ rest) = c :: word ++ rest :=
      List.dropWhile_cons_of_neg (by simp [not_isBlank_of_isWord hc])
    rw [value, hskip]
    split
    · next heq => cases heq; cases hc
    · next heq => cases heq; cases hc
    · next heq => cases heq; cases hc
    · rw [htake, hdrop, h]
      rfl

/-- The word of the null value. -/
theorem spells_null : Spells "null".toList .null := spells_word rfl rfl

/-- The words of the truth values. -/
theorem spells_boolean (value : Bool) : Spells (toString value).toList (.boolean value) := by
  cases value with
  | true => exact spells_word rfl rfl
  | false => exact spells_word rfl rfl

private theorem natural?_toDigits (n : Nat) : natural? (Nat.toDigits 10 n) = some n := by
  have hdigits : (Nat.toDigits 10 n).all Char.isDigit = true :=
    List.all_eq_true.mpr (Numerals.isDigit_of_mem_toDigits n)
  have hcanonical : ¬ (Nat.toDigits 10 n = [] ∨
      ((Nat.toDigits 10 n).head? = some '0' ∧ Nat.toDigits 10 n ≠ ['0'])) := by
    rintro (hnil | ⟨hhead, hne⟩)
    · exact Nat.toDigits_ne_nil hnil
    · have hn : n ≠ 0 := by
        rintro rfl
        exact hne (Nat.toDigits_zero 10)
      have := Numerals.head_toDigits hn
      rw [hhead] at this
      cases this
  rw [natural?, if_neg hcanonical, if_pos hdigits,
    Nat.ofDigitChars_toDigits (by decide) (by decide)]

/-- An integer is printed with a sign if it is negative. -/
theorem toList_toString_int (n : Int) :
    (toString n).toList =
      if n < 0 then '-' :: Nat.toDigits 10 n.natAbs else Nat.toDigits 10 n.natAbs := by
  cases n with
  | ofNat n =>
    show (Nat.repr n).toList = _
    simp [Nat.repr]
  | negSucc n =>
    show ("-" ++ Nat.repr (n + 1)).toList = _
    simp [Nat.repr]

private theorem isWord_of_isDigit {c : Char} (h : c.isDigit = true) : isWord c = true := by
  simp [isWord, Char.isAlphanum, h]

/-- An integer is read back from its digits. -/
theorem integer?_toString (n : Int) : integer? (toString n).toList = some n := by
  rw [toList_toString_int]
  split
  · next hneg =>
    rw [integer?, natural?_toDigits]
    show some (-(n.natAbs : Int)) = some n
    congr 1
    omega
  · next hneg =>
    unfold integer?
    split
    · next digits heq =>
      have hmem : '-' ∈ Nat.toDigits 10 n.natAbs := by
        rw [heq]
        exact List.mem_cons_self ..
      cases Numerals.isDigit_of_mem_toDigits _ _ hmem
    · rw [natural?_toDigits]
      show some (n.natAbs : Int) = some n
      congr 1
      omega

/-- The digits of an integer spell it. -/
theorem spells_integer (n : Int) : Spells (toString n).toList (.integer n) := by
  have hinteger := integer?_toString n
  have hword : (toString n).toList.all isWord = true := by
    rw [List.all_eq_true, toList_toString_int]
    intro c hc
    split at hc
    · rcases List.mem_cons.mp hc with rfl | hc
      · rfl
      · exact isWord_of_isDigit (Numerals.isDigit_of_mem_toDigits _ c hc)
    · exact isWord_of_isDigit (Numerals.isDigit_of_mem_toDigits _ c hc)
  apply spells_word hword
  -- no number is a keyword
  have hkeyword : ∀ word : List Char, integer? word = none → (toString n).toList ≠ word := by
    rintro word hnone rfl
    rw [hinteger] at hnone
    cases hnone
  rw [word?, if_neg (hkeyword _ rfl), if_neg (hkeyword _ rfl), if_neg (hkeyword _ rfl), hinteger]
  rfl

/-- The digits of a natural number spell it. -/
theorem spells_natural (n : Nat) : Spells (toString n).toList (.integer n) := spells_integer n

/-! ### The contents of string literals -/

/-- A character that stands for itself. -/
def isPlain (c : Char) : Bool := c ≠ '"' && c ≠ '\\' && ' ' ≤ c

/-- Nothing spells no character. -/
theorem spellsContent_nil : SpellsContent [] [] := fun _ ↦ rfl

/-- A plain character spells itself. -/
theorem SpellsContent.cons_plain {c : Char} (hc : isPlain c = true) {text chars : List Char}
    (h : SpellsContent text chars) : SpellsContent (c :: text) (c :: chars) := by
  intro rest
  simp only [isPlain, Bool.and_eq_true, decide_eq_true_eq] at hc
  obtain ⟨⟨hquote, hbackslash⟩, hspace⟩ := hc
  have hle : ¬ c < ' ' := Char.not_lt.mpr hspace
  rw [List.cons_append, content.eq_def]
  split
  · next heq => cases heq
  · next heq => exact absurd (List.cons.inj heq).1 hquote
  · next heq => exact absurd (List.cons.inj heq).1 hbackslash
  · next heq => exact absurd (List.cons.inj heq).1 hbackslash
  · next heq =>
    obtain ⟨rfl, rfl⟩ := List.cons.inj heq
    rw [if_neg hle, h rest]
    rfl

/-- A text of plain characters stands for itself. -/
theorem spellsContent_plain {text : List Char} (h : text.all isPlain = true) :
    SpellsContent text text := by
  induction text with
  | nil => exact spellsContent_nil
  | cons c text ih =>
    rw [List.all_cons, Bool.and_eq_true] at h
    exact (ih h.2).cons_plain h.1

end Hyperliquid.Base.JsonDocument
