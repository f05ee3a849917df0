import Hyperliquid.Base.BigEndian
import Mathlib.Data.List.Basic

/-!
# Readers of byte strings

A reader takes a value off the front of a byte string and leaves the rest. `Reads` says that
a reader takes a value off exactly some bytes, whatever follows them: these bytes delimit
themselves.
-/

namespace Hyperliquid.Base

/-- Takes a value off the front of a byte string, or fails. -/
abbrev Reader (α : Type) := StateT (List UInt8) Option α

namespace Reader

/-- The next bytes. -/
def take (n : Nat) : Reader (List UInt8) := fun bytes ↦
  if n ≤ bytes.length then some (bytes.take n, bytes.drop n) else none

/-- The next byte. -/
def byte : Reader UInt8
  | [] => none
  | b :: rest => some (b, rest)

/-- A big-endian word. -/
def word (w : Nat) : Reader Nat := do
  let bytes ← take w
  pure (BigEndian.toNat bytes)

variable {α β : Type}

/-- Two values in a row. -/
def pair (first : Reader α) (second : Reader β) : Reader (α × β) := do
  let a ← first
  let b ← second
  pure (a, b)

/-- A number of values in a row. -/
def many (read : Reader α) : Nat → Reader (List α)
  | 0 => pure []
  | n + 1 => do
    let a ← read
    let as ← many read n
    pure (a :: as)

/-- The reader takes the value off these bytes and leaves what follows them. -/
def Reads (read : Reader α) (bytes : List UInt8) (a : α) : Prop :=
  ∀ rest, read (bytes ++ rest) = some (a, rest)

/-- A value is read from nothing. -/
theorem reads_pure (a : α) : Reads (pure a) [] a := fun _ ↦ rfl

/-- Bytes are read as they are. -/
theorem reads_take (bytes : List UInt8) : Reads (take bytes.length) bytes bytes := by
  intro rest
  have hle : bytes.length ≤ (bytes ++ rest).length := by simp
  rw [take, if_pos hle, List.take_left, List.drop_left]

/-- As many bytes are taken as are asked for. -/
theorem length_of_take {n : Nat} {bytes taken rest : List UInt8}
    (h : take n bytes = some (taken, rest)) : taken.length = n := by
  unfold take at h
  split at h
  · next hle =>
    cases h
    exact List.length_take_of_le hle
  · cases h

/-- A byte is read as it is. -/
theorem reads_byte (b : UInt8) : Reads byte [b] b := fun _ ↦ rfl

/-- A sequence that has read something: its first part has, and its second part from there. -/
theorem bind_eq_some {x : Reader α} {f : α → Reader β} {bytes rest : List UInt8} {b : β}
    (h : (x >>= f) bytes = some (b, rest)) :
    ∃ a middle, x bytes = some (a, middle) ∧ f a middle = some (b, rest) := by
  obtain ⟨⟨a, middle⟩, hx, hf⟩ := Option.bind_eq_some_iff.mp h
  exact ⟨a, middle, hx, hf⟩

/-- A sequence in which the first part is known. -/
theorem bind_of_reads {x : Reader α} {bytes : List UInt8} {a : α} (h : Reads x bytes a)
    (f : α → Reader β) (rest : List UInt8) : (x >>= f) (bytes ++ rest) = f a rest := by
  show (x (bytes ++ rest)).bind _ = _
  rw [h rest]
  rfl

/-- One reader after the other reads one text after the other. -/
theorem Reads.bind {x : Reader α} {f : α → Reader β} {bytes bytes' : List UInt8} {a : α} {b : β}
    (hx : Reads x bytes a) (hf : Reads (f a) bytes' b) : Reads (x >>= f) (bytes ++ bytes') b := by
  intro rest
  rw [List.append_assoc, bind_of_reads hx]
  exact hf rest

/-- What is read may be changed afterwards. -/
theorem Reads.map {x : Reader α} {bytes : List UInt8} {a : α} (hx : Reads x bytes a)
    (f : α → β) : Reads (do let a ← x; pure (f a)) bytes (f a) := by
  have hbind : Reads (x >>= fun a ↦ pure (f a)) (bytes ++ []) (f a) :=
    hx.bind (reads_pure (f a))
  rwa [List.append_nil] at hbind

/-- Two readers read a pair. -/
theorem Reads.pair {first : Reader α} {second : Reader β} {bytes bytes' : List UInt8} {a : α}
    {b : β} (hfirst : Reads first bytes a) (hsecond : Reads second bytes' b) :
    Reads (pair first second) (bytes ++ bytes') (a, b) :=
  hfirst.bind (hsecond.map (Prod.mk a))

/-- A word is read modulo its width. -/
theorem reads_word (w n : Nat) : Reads (word w) (BigEndian.ofWord w n) (n % 256 ^ w) := by
  have htake := reads_take (BigEndian.ofWord w n)
  rw [BigEndian.length_ofWord] at htake
  have hword := htake.map BigEndian.toNat
  rwa [BigEndian.toNat_ofWord] at hword

/-- Encodings that delimit themselves can be read one after the other. -/
theorem reads_many {γ : Type} {read : Reader α} {encode : γ → List UInt8} {value : γ → α}
    {items : List γ} (h : ∀ item ∈ items, Reads read (encode item) (value item)) :
    Reads (many read items.length) (items.flatMap encode) (items.map value) := by
  induction items with
  | nil => exact reads_pure []
  | cons item items ih =>
    rw [List.forall_mem_cons] at h
    exact h.1.bind ((ih h.2).map (List.cons (value item)))

/-- As many values are read as are asked for. -/
theorem length_of_many {read : Reader α} {n : Nat} {bytes rest : List UInt8} {as : List α}
    (h : many read n bytes = some (as, rest)) : as.length = n := by
  induction n generalizing bytes as with
  | zero =>
    cases h
    rfl
  | succ n ih =>
    obtain ⟨a, middle, _, htail⟩ := bind_eq_some h
    obtain ⟨as', rest', has, hpure⟩ := bind_eq_some htail
    cases hpure
    rw [List.length_cons, ih has]

/-- Where each value that is read off its encoding has a property under which the encoding
delimits itself, all values read in a row have it. -/
theorem forall_of_many {γ : Type} {read : Reader α} {encode : γ → List UInt8} {value : γ → α}
    {P : γ → Prop} {items : List γ}
    (hreads : ∀ item ∈ items, P item → Reads read (encode item) (value item))
    (hread : ∀ item ∈ items, ∀ rest rest',
      read (encode item ++ rest) = some (value item, rest') → P item)
    {rest rest' : List UInt8}
    (h : many read items.length (items.flatMap encode ++ rest) = some (items.map value, rest')) :
    ∀ item ∈ items, P item := by
  induction items with
  | nil => exact nofun
  | cons item items ih =>
    rw [List.forall_mem_cons] at hreads hread ⊢
    rw [List.flatMap_cons, List.append_assoc] at h
    obtain ⟨a, middle, hitem, htail⟩ := bind_eq_some h
    obtain ⟨as, _, htail, hpure⟩ := bind_eq_some htail
    cases hpure
    have hP : P item := hread.1 _ _ hitem
    rw [hreads.1 hP] at hitem
    cases hitem
    exact ⟨hP, ih hreads.2 hread.2 htail⟩

/-- Equal strings that start with bytes which one reader takes values off have the same
value in front, and the same rest. -/
theorem Reads.unique {read : Reader α} {bytes bytes' rest rest' : List UInt8} {a a' : α}
    (h : Reads read bytes a) (h' : Reads read bytes' a') (heq : bytes ++ rest = bytes' ++ rest') :
    a = a' ∧ rest = rest' := by
  have hsome : some (a, rest) = some (a', rest') := by rw [← h rest, heq, h' rest']
  exact Prod.mk.inj (Option.some.inj hsome)

end Reader
end Hyperliquid.Base
