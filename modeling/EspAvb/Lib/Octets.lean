import Mathlib.Data.List.GetD
import Mathlib.Tactic

/-!
# Octet strings of a fixed width

Wire fields are octet strings. An `Octets n` has exactly `n` of them; `toNat` reads them as one
big-endian number, `ofNat` writes one, and `read` takes a field off the front of a buffer.
-/

@[ext]
structure Octets (n : Nat) where
  bytes : List UInt8
  length_eq : bytes.length = n
  deriving DecidableEq, Repr

namespace Octets

variable {n : Nat}

/-- The big-endian value of a list of octets. -/
def value (bytes : List UInt8) : Nat := bytes.foldl (fun acc b => acc * 256 + b.toNat) 0

def toNat (a : Octets n) : Nat := value a.bytes

/-- The `n` octets of `k`, most significant first; what does not fit is dropped. -/
def digits : Nat → Nat → List UInt8
  | 0, _ => []
  | n + 1, k => digits n (k / 256) ++ [UInt8.ofNat (k % 256)]

@[simp]
theorem length_digits (n k : Nat) : (digits n k).length = n := by
  induction n generalizing k with
  | zero => rfl
  | succ n ih => simp [digits, ih]

def ofNat (n k : Nat) : Octets n := ⟨digits n k, length_digits n k⟩

def zero (n : Nat) : Octets n := ⟨List.replicate n 0, List.length_replicate⟩

/-- The first `n` octets of a buffer. A buffer that is too short reads as zero past its end. -/
def read (n : Nat) (buf : List UInt8) : Octets n :=
  ⟨(buf ++ List.replicate n 0).take n, by simp⟩

@[simp]
theorem read_append (a : Octets n) (rest : List UInt8) : read n (a.bytes ++ rest) = a := by
  ext1
  simp [read, List.take_left' a.length_eq]

@[simp]
theorem drop_append (a : Octets n) (rest : List UInt8) : (a.bytes ++ rest).drop n = rest :=
  List.drop_left' a.length_eq

/-- Past a field, the buffer behind it is read. -/
theorem drop_append_of_le (a : Octets n) (rest : List UInt8) {k : Nat} (h : n ≤ k) :
    (a.bytes ++ rest).drop k = rest.drop (k - n) := by
  rw [List.drop_append, a.length_eq, List.drop_eq_nil_of_le (by rw [a.length_eq]; exact h),
    List.nil_append]

theorem getD_append_of_le (a : Octets n) (rest : List UInt8) {k : Nat} (h : n ≤ k) (d : UInt8) :
    (a.bytes ++ rest).getD k d = rest.getD (k - n) d := by
  rw [List.getD_append_right a.bytes rest d k (by rw [a.length_eq]; exact h), a.length_eq]

theorem value_append (xs ys : List UInt8) :
    value (xs ++ ys) = value xs * 256 ^ ys.length + value ys := by
  induction ys using List.reverseRecOn with
  | nil => simp [value]
  | append_singleton ys y ih =>
      rw [← List.append_assoc]
      simp only [value, List.foldl_append, List.foldl_cons, List.foldl_nil, List.length_append,
        List.length_cons, List.length_nil] at ih ⊢
      rw [ih]
      ring

@[simp]
theorem value_singleton (b : UInt8) : value [b] = b.toNat := by simp [value]

@[simp]
theorem value_nil : value [] = 0 := rfl

theorem value_lt (bytes : List UInt8) : value bytes < 256 ^ bytes.length := by
  induction bytes using List.reverseRecOn with
  | nil => simp
  | append_singleton bytes b ih =>
      rw [value_append, value_singleton]
      have hb := b.toNat_lt
      simp only [List.length_append, List.length_cons, List.length_nil, pow_succ] at ih ⊢
      omega

theorem toNat_lt (a : Octets n) : a.toNat < 256 ^ n := by
  have h := value_lt a.bytes
  rwa [a.length_eq] at h

theorem value_digits (n k : Nat) : value (digits n k) = k % 256 ^ n := by
  induction n generalizing k with
  | zero => simp [digits, Nat.mod_one]
  | succ n ih =>
      have hlt : k % 256 < 256 := Nat.mod_lt _ (by norm_num)
      have hb : (UInt8.ofNat (k % 256)).toNat = k % 256 := by
        simp
      rw [digits, value_append, ih, value_singleton, hb, pow_succ', Nat.mod_mul]
      simp
      ring

@[simp]
theorem toNat_ofNat (n k : Nat) : (ofNat n k).toNat = k % 256 ^ n := value_digits n k

theorem value_injective :
    ∀ {xs ys : List UInt8}, xs.length = ys.length → value xs = value ys → xs = ys := by
  intro xs
  induction xs using List.reverseRecOn with
  | nil =>
      intro ys hlen _
      exact (List.length_eq_zero_iff.mp hlen.symm).symm
  | append_singleton xs x ih =>
      intro ys hlen hval
      obtain rfl | ⟨ys, y, rfl⟩ := List.eq_nil_or_concat' ys
      · simp at hlen
      · rw [value_append, value_append] at hval
        have hx := x.toNat_lt
        have hy := y.toNat_lt
        simp only [List.length_append, List.length_cons, List.length_nil, value_singleton] at hlen hval
        have hxy : x.toNat = y.toNat := by omega
        have hxs : xs = ys := ih (by omega) (by omega)
        rw [hxs, UInt8.toNat_inj.mp hxy]

theorem toNat_injective : Function.Injective (toNat : Octets n → Nat) := by
  intro a b h
  ext1
  exact value_injective (a.length_eq.trans b.length_eq.symm) h

@[simp]
theorem ofNat_toNat (a : Octets n) : ofNat n a.toNat = a := by
  apply toNat_injective
  rw [toNat_ofNat, Nat.mod_eq_of_lt a.toNat_lt]

end Octets
