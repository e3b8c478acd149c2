/-
# Fixed-size byte buffers and little-endian numbers

A byte array `char buf[n]` that is filled with `memcpy` and read back in slices.
The size is carried by the type, so a copy can never change it: `write` drops
whatever would land behind the end, and every fact about what can be read back
states the bound under which the copy fits.

The facts collected here are the ones a packet codec needs:

* `read_write` : a slice that was just written reads back as what was written;
* `write_write_append` : two adjacent copies are one copy of the concatenation;
* `read_zero_write` : the start of a buffer behind a copy.

Numbers are stored as their little-endian bytes; `leValue_leBytes` and
`leBytes_leValue` are the two directions of the round trip.
-/
import Mathlib

/-! ## Little-endian numbers -/

/-- The `k` little-endian bytes of `v`, least significant first. -/
def leBytes : ℕ → ℕ → List UInt8
  | 0, _ => []
  | k + 1, v => UInt8.ofNat v :: leBytes k (v / 256)

/-- The number that a little-endian byte string spells. -/
def leValue : List UInt8 → ℕ
  | [] => 0
  | b :: bs => b.toNat + 256 * leValue bs

@[simp] theorem length_leBytes (k v : ℕ) : (leBytes k v).length = k := by
  induction k generalizing v with
  | zero => rfl
  | succ k ih => rw [leBytes, List.length_cons, ih]

/-- Reading back the little-endian bytes of `v` gives `v`, reduced to the width. -/
theorem leValue_leBytes (k v : ℕ) : leValue (leBytes k v) = v % 256 ^ k := by
  induction k generalizing v with
  | zero => rw [leBytes, leValue, pow_zero, Nat.mod_one]
  | succ k ih =>
      have hhead : (UInt8.ofNat v).toNat = v % 256 := UInt8.toNat_ofNat'
      rw [leBytes, leValue, ih, hhead, Nat.pow_succ, Nat.mul_comm (256 ^ k) 256, Nat.mod_mul]

theorem leValue_leBytes_of_lt {k v : ℕ} (h : v < 256 ^ k) : leValue (leBytes k v) = v := by
  rw [leValue_leBytes, Nat.mod_eq_of_lt h]

/-- A byte string is spelled by the bytes of its own value. -/
theorem leBytes_leValue (bs : List UInt8) : leBytes bs.length (leValue bs) = bs := by
  induction bs with
  | nil => rfl
  | cons b bs ih =>
      have hb : b.toNat < 256 := b.toNat_lt
      have hhead : UInt8.ofNat (b.toNat + 256 * leValue bs) = b := by
        apply UInt8.toNat_inj.mp
        rw [UInt8.toNat_ofNat']
        omega
      have htail : (b.toNat + 256 * leValue bs) / 256 = leValue bs := by omega
      rw [List.length_cons, leValue, leBytes, hhead, htail, ih]

/-! ## Buffers -/

/-- A byte array of fixed size `n`. -/
def Buffer (n : ℕ) : Type := { bytes : List UInt8 // bytes.length = n }

namespace Buffer

variable {n : ℕ}

instance : DecidableEq (Buffer n) := 
  inferInstanceAs (DecidableEq { l : List UInt8 // l.length = n })

/-- The buffer filled with zero bytes (`memset(buf, 0, n)`). -/
def zero (n : ℕ) : Buffer n := ⟨List.replicate n 0, List.length_replicate⟩

instance : Inhabited (Buffer n) := ⟨zero n⟩

/-- The `len` bytes starting at offset `off` (fewer at the end of the buffer). -/
def read (b : Buffer n) (off len : ℕ) : List UInt8 := (b.1.drop off).take len

/-- `memcpy(&b[off], src, src.length)`; bytes behind the end are dropped. -/
def write (b : Buffer n) (off : ℕ) (src : List UInt8) : Buffer n :=
  ⟨(b.1.take off ++ src ++ b.1.drop (off + src.length)).take n, by
    have hb := b.2
    simp only [List.length_take, List.length_append, List.length_drop]
    omega⟩

@[simp] theorem length_bytes (b : Buffer n) : b.1.length = n := b.2

theorem length_read (b : Buffer n) (off len : ℕ) (h : off + len ≤ n) :
    (b.read off len).length = len := by
  unfold read
  rw [List.length_take, List.length_drop, length_bytes]
  omega

/-- The front part of a slice. -/
theorem take_read (b : Buffer n) (off k len : ℕ) (h : k ≤ len) :
    (b.read off len).take k = b.read off k := by
  rw [read, read, List.take_take, Nat.min_eq_left h]

/-- The rest of a slice. -/
theorem drop_read (b : Buffer n) (off k len : ℕ) :
    (b.read off len).drop k = b.read (off + k) (len - k) := by
  rw [read, read, List.drop_take, List.drop_drop]

/-- A copy that fits leaves the bytes in front of it, then the copied bytes,
then the old bytes behind them. -/
theorem bytes_write (b : Buffer n) (off : ℕ) (src : List UInt8) (h : off + src.length ≤ n) :
    (b.write off src).1 = b.1.take off ++ src ++ b.1.drop (off + src.length) := by
  have hlen : (b.1.take off ++ src ++ b.1.drop (off + src.length)).length = n := by
    simp only [List.length_append, List.length_take, List.length_drop, length_bytes]
    omega
  exact List.take_of_length_le hlen.le

/-- A slice that was just written reads back as what was written. -/
theorem read_write (b : Buffer n) (off : ℕ) (src : List UInt8) (h : off + src.length ≤ n) :
    (b.write off src).read off src.length = src := by
  have hoff : (b.1.take off).length = off := by
    rw [List.length_take, length_bytes]; omega
  rw [read, bytes_write b off src h, List.append_assoc, List.drop_append_of_le_length hoff.ge,
    List.drop_of_length_le hoff.le, List.nil_append, List.take_left]

/-- The first bytes of a copy to the start of the buffer. -/
theorem read_write_zero (b : Buffer n) (src : List UInt8) (len : ℕ)
    (hlen : len = src.length) (h : src.length ≤ n) :
    (b.write 0 src).read 0 len = src := by
  subst hlen
  exact read_write b 0 src (by omega)

/-- A slice of a copy to the start of the buffer. -/
theorem read_write_slice (b : Buffer n) (src : List UInt8) (off len : ℕ)
    (hlen : off + len ≤ src.length) (h : src.length ≤ n) :
    (b.write 0 src).read off len = (src.drop off).take len := by
  have hwhole := b.read_write_zero src src.length rfl h
  have hslice := (b.write 0 src).drop_read 0 off src.length
  rw [hwhole, Nat.zero_add] at hslice
  rw [hslice, take_read _ _ _ _ (by omega)]

/-- Copying the start of another buffer makes that much of the two buffers the same. -/
theorem read_write_start (a b : Buffer n) {k off len : ℕ} (h : off + len ≤ k) :
    (a.write 0 (b.read 0 k)).read off len = b.read off len := by
  by_cases hk : k ≤ n
  · have hlen : (b.read 0 k).length = k := b.length_read 0 k (by omega)
    rw [read_write_slice a _ off len (by omega) (by omega), drop_read, take_read _ _ _ _ (by omega),
      Nat.zero_add]
  · -- the whole buffer is copied
    have hall : b.read 0 k = b.1 := by
      rw [read, List.drop_zero, List.take_of_length_le (by rw [length_bytes]; omega)]
    have hcopy : a.write 0 b.1 = b := by
      apply Subtype.ext
      rw [bytes_write a 0 b.1 (by rw [length_bytes]; omega), List.take_zero, List.nil_append,
        List.drop_of_length_le (by rw [length_bytes, length_bytes]; omega), List.append_nil]
    rw [hall, hcopy]

/-- A slice behind a copy to the start of the buffer. -/
theorem read_write_behind (b : Buffer n) {src : List UInt8} {off : ℕ} (len : ℕ)
    (hoff : src.length ≤ off) (h : src.length ≤ n) :
    (b.write 0 src).read off len = b.read off len := by
  rw [read, read, bytes_write b 0 src (by omega), List.take_zero, List.nil_append, Nat.zero_add,
    List.drop_append, List.drop_of_length_le hoff, List.nil_append, List.drop_drop,
    Nat.add_sub_cancel' hoff]

/-- The start of a buffer behind a copy, in terms of its start before. -/
theorem read_zero_write (b : Buffer n) (off k : ℕ) (src : List UInt8) (h : off + src.length ≤ n) :
    (b.write off src).read 0 k =
      (b.read 0 k).take off ++ src.take (k - off) ++ (b.read 0 k).drop (off + src.length) := by
  have hoff : (b.1.take off).length = off := by
    rw [List.length_take, length_bytes]
    omega
  have hfront : (b.1.take off ++ src).length = off + src.length := by
    rw [List.length_append, hoff]
  rw [read, read, List.drop_zero, List.drop_zero, bytes_write b off src h, List.take_append,
    List.take_append, hoff, hfront, List.take_take, List.take_take, Nat.min_comm, List.drop_take]

/-- The same copy to buffers with the same start. -/
theorem read_zero_write_congr {a b : Buffer n} {k : ℕ} (off : ℕ) (src : List UInt8)
    (h : off + src.length ≤ n) (hstart : a.read 0 k = b.read 0 k) :
    (a.write off src).read 0 k = (b.write off src).read 0 k := by
  rw [read_zero_write a off k src h, read_zero_write b off k src h, hstart]

/-- Two adjacent copies are one copy of the concatenation. -/
theorem write_write_append (b : Buffer n) (xs ys : List UInt8)
    (h : xs.length + ys.length ≤ n) :
    (b.write 0 xs).write xs.length ys = b.write 0 (xs ++ ys) := by
  apply Subtype.ext
  rw [bytes_write _ _ _ h, bytes_write b 0 xs (by omega),
    bytes_write b 0 (xs ++ ys) (by rw [List.length_append]; omega)]
  simp only [List.take_zero, List.nil_append, Nat.zero_add, List.take_left, List.length_append]
  rw [List.append_assoc, List.drop_append, List.drop_of_length_le (by omega), List.drop_drop,
    List.nil_append]
  rw [show xs.length + (xs.length + ys.length - xs.length) = xs.length + ys.length by omega,
    List.append_assoc]

end Buffer
