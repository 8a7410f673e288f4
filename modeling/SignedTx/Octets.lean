/-!
# Octet strings of a fixed length

Wire data are lists of octets. `Octets n` is a list that holds exactly `n` of them, so an id, an
address, a hash word and a signature cannot be confused with a shorter or longer string. Numbers
are written big-endian: `beBytes w v` is `v` modulo `256 ^ w` in `w` octets, and `beNat` reads any
list of octets as a number.
-/

set_option autoImplicit false

namespace SignedTx

/-- A list of octets read as a big-endian number. -/
def beNat (bytes : List UInt8) : Nat :=
  bytes.foldl (fun value byte => 256 * value + byte.toNat) 0

/-- The low `width` octets of a number, the most significant first. -/
def beBytes : (width value : Nat) → List UInt8
  | 0, _ => []
  | width + 1, value => beBytes width (value / 256) ++ [UInt8.ofNat value]

@[simp] theorem length_beBytes (width value : Nat) : (beBytes width value).length = width := by
  induction width generalizing value with
  | zero => rfl
  | succ width ih => simp [beBytes, ih]

@[simp] theorem beNat_nil : beNat [] = 0 := rfl

theorem beNat_append_singleton (bytes : List UInt8) (byte : UInt8) :
    beNat (bytes ++ [byte]) = 256 * beNat bytes + byte.toNat := by
  simp [beNat]

structure Octets (n : Nat) where
  toList : List UInt8
  length_toList : toList.length = n
deriving DecidableEq

namespace Octets

attribute [simp] Octets.length_toList

@[ext] theorem ext {n : Nat} {left right : Octets n} (h : left.toList = right.toList) :
    left = right := by
  cases left
  cases right
  simp_all

/-- Octets that come first in one list are known from it, and so is what follows them. -/
theorem eq_of_prefix {n : Nat} {left right : Octets n} {rest others : List UInt8}
    (same : left.toList ++ rest = right.toList ++ others) : left = right ∧ rest = others := by
  have lengths : left.toList.length = right.toList.length := by
    rw [left.length_toList, right.length_toList]
  obtain ⟨octets, later⟩ := List.append_inj same lengths
  exact ⟨ext octets, later⟩

theorem eq_of_suffix {n : Nat} {front otherFront : List UInt8} {left right : Octets n}
    (same : front ++ left.toList = otherFront ++ right.toList) : left = right := by
  have lengths : left.toList.length = right.toList.length := by
    rw [left.length_toList, right.length_toList]
  exact ext (List.append_inj' same lengths).2

def ofList? (n : Nat) (bytes : List UInt8) : Option (Octets n) :=
  if h : bytes.length = n then some ⟨bytes, h⟩ else none

@[simp] theorem ofList?_toList {n : Nat} (value : Octets n) :
    ofList? n value.toList = some value := by
  simp [ofList?]

theorem ofList?_eq_some_iff {n : Nat} {bytes : List UInt8} {value : Octets n} :
    ofList? n bytes = some value ↔ value.toList = bytes := by
  constructor
  · intro taken
    unfold ofList? at taken
    split at taken
    · cases taken
      rfl
    · cases taken
  · intro same
    rw [← same, ofList?_toList]

def zero (n : Nat) : Octets n := ⟨List.replicate n 0, by simp⟩

/-- A number modulo `256 ^ n`, big-endian. -/
def ofNat (n value : Nat) : Octets n := ⟨beBytes n value, length_beBytes n value⟩

def toNat {n : Nat} (value : Octets n) : Nat := beNat value.toList

def append {m n : Nat} (left : Octets m) (right : Octets n) : Octets (m + n) :=
  ⟨left.toList ++ right.toList, by simp⟩

@[simp] theorem toList_append {m n : Nat} (left : Octets m) (right : Octets n) :
    (left.append right).toList = left.toList ++ right.toList := rfl

def dropFirst {n : Nat} (m : Nat) (value : Octets (m + n)) : Octets n :=
  ⟨value.toList.drop m, by simp⟩

def takeFirst {n : Nat} (m : Nat) (value : Octets (m + n)) : Octets m :=
  ⟨value.toList.take m, by simp⟩

/-- The first `n` octets of a list, with zeros after its end. -/
def padRight (n : Nat) (bytes : List UInt8) : Octets n :=
  ⟨bytes.take n ++ List.replicate (n - bytes.length) 0, by simp; omega⟩

instance {n : Nat} : Inhabited (Octets n) := ⟨zero n⟩

/-- Octets are ordered from the left. -/
instance {n : Nat} : Ord (Octets n) := ⟨fun left right => compare left.toList right.toList⟩

end Octets
end SignedTx
