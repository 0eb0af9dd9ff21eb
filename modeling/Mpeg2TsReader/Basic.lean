import Mathlib.Data.List.Basic

/-!
# Panics, checked byte access and transport stream packets

`demultiplex.rs` reads packets and PSI sections through Rust slices. Indexing a slice, slicing
it, splitting it, storing into a `Vec`, unwrapping an `Option` and unsigned subtraction all
panic when out of range.
This file models each of them as a function into `Except Panic`, so that every place where the
code can panic is explicit and "returns normally" is the statement `∃ r, f x = .ok r`.

The crate's `packet` module is not part of this development. `Packet`, `Packet::is_sync_byte`
and `Packet::pid` are modelled from the packet layout of the specification (§6).

* `readU16`: the big-endian bit field shared by every PSI accessor of the module, with
  `u16Field_toNat` computing its value.
-/

namespace Mpeg2TsReader

/-- The panics of the modelled code, each with the values its message prints. -/
inductive Panic where
  /-- `&s[start..stop]` with `stop < start`. -/
  | sliceIndexOrder (start stop : Nat)
  /-- `&s[start..stop]` with `stop` past the end of the slice. -/
  | sliceEndIndexLen (stop len : Nat)
  /-- `&s[start..]` with `start` past the end of the slice. -/
  | sliceStartIndexLen (start len : Nat)
  /-- `s[index]`, or the store `v[index] = x`, past the end. -/
  | indexOutOfBounds (index len : Nat)
  /-- `s.split_at(mid)` with `mid` past the end of the slice. -/
  | splitAtOutOfBounds (mid len : Nat)
  /-- `usize` subtraction below zero, "attempt to subtract with overflow". -/
  | subtractOverflow
  /-- `Option::unwrap` on `None`. -/
  | unwrapNone
  /-- A failed `debug_assert!`. -/
  | debugAssertion
  /-- `FixedBitSet::insert` at a bit past the set's length. -/
  | fixedBitSetInsert (bit length : Nat)
  /-- `FixedBitSet::set` at a bit past the set's length. -/
  | fixedBitSetSet (bit length : Nat)
  /-- The explicit panic of `PmtSection::streams`, "program_info_length=.. extends beyond end
  of PMT section (section_length=..)". -/
  | programInfoLengthOverrun (programInfoLength : UInt16) (sectionLength : Nat)
  deriving DecidableEq, Repr

variable {α β : Type}

@[simp]
theorem ok_bind (a : α) (f : α → Except Panic β) : (Except.ok a >>= f) = f a := rfl

@[simp]
theorem error_bind (e : Panic) (f : α → Except Panic β) :
    (Except.error e >>= f) = Except.error e := rfl

@[simp]
theorem pure_eq_ok (a : α) : (pure a : Except Panic α) = Except.ok a := rfl

/-- A computation that returns normally returns from each of its binds. -/
theorem bind_eq_ok {x : Except Panic α} {f : α → Except Panic β} {b : β} :
    (x >>= f) = .ok b ↔ ∃ a, x = .ok a ∧ f a = .ok b := by
  cases x <;> simp

/-- A loop that appends `f x` for each `x` in turn collects `xs.map f`. -/
theorem foldlM_append_ok (f : α → β) (xs : List α) (acc : List β) :
    xs.foldlM (fun acc x => (.ok (acc ++ [f x]) : Except Panic (List β))) acc =
      .ok (acc ++ xs.map f) := by
  induction xs generalizing acc with
  | nil => rw [List.foldlM_nil, List.map_nil, List.append_nil]; rfl
  | cons x xs ih => rw [List.foldlM_cons, ok_bind, ih, List.map_cons, List.append_assoc]; rfl

/-- `&s[start..stop]`. -/
def slice (s : List UInt8) (start stop : Nat) : Except Panic (List UInt8) :=
  if stop < start then .error (.sliceIndexOrder start stop)
  else if s.length < stop then .error (.sliceEndIndexLen stop s.length)
  else .ok ((s.take stop).drop start)

/-- `&s[start..]`. -/
def sliceFrom (s : List UInt8) (start : Nat) : Except Panic (List UInt8) :=
  if s.length < start then .error (.sliceStartIndexLen start s.length) else .ok (s.drop start)

/-- `s[i]`. -/
def index (s : List UInt8) (i : Nat) : Except Panic UInt8 :=
  match s[i]? with
  | some b => .ok b
  | none => .error (.indexOutOfBounds i s.length)

/-- `s.split_at(mid)`. -/
def splitAt (s : List UInt8) (mid : Nat) : Except Panic (List UInt8 × List UInt8) :=
  if s.length < mid then .error (.splitAtOutOfBounds mid s.length)
  else .ok (s.take mid, s.drop mid)

/-- `a - b` on `usize`, which panics below zero. -/
def usizeSub (a b : Nat) : Except Panic Nat :=
  if a < b then .error .subtractOverflow else .ok (a - b)

/-- `v[i] = x` on a `Vec`, which panics past the end. -/
def store (v : List α) (i : Nat) (x : α) : Except Panic (List α) :=
  if i < v.length then .ok (v.set i x) else .error (.indexOutOfBounds i v.length)

/-- `Option::unwrap`. -/
def unwrap : Option α → Except Panic α
  | some a => .ok a
  | none => .error .unwrapNone

theorem slice_of_le {s : List UInt8} {start stop : Nat} (h : start ≤ stop)
    (h' : stop ≤ s.length) : slice s start stop = .ok ((s.take stop).drop start) := by
  simp [slice, Nat.not_lt.2 h, Nat.not_lt.2 h']

theorem sliceFrom_of_le {s : List UInt8} {start : Nat} (h : start ≤ s.length) :
    sliceFrom s start = .ok (s.drop start) := by
  simp [sliceFrom, Nat.not_lt.2 h]

theorem index_of_lt {s : List UInt8} {i : Nat} (h : i < s.length) : index s i = .ok s[i] := by
  simp [index, List.getElem?_eq_getElem h]

theorem index_of_le {s : List UInt8} {i : Nat} (h : s.length ≤ i) :
    index s i = .error (.indexOutOfBounds i s.length) := by
  simp [index, List.getElem?_eq_none h]

theorem splitAt_of_le {s : List UInt8} {mid : Nat} (h : mid ≤ s.length) :
    splitAt s mid = .ok (s.take mid, s.drop mid) := by
  simp [splitAt, Nat.not_lt.2 h]

theorem store_of_lt {v : List α} {i : Nat} (x : α) (h : i < v.length) :
    store v i x = .ok (v.set i x) :=
  if_pos h

theorem usizeSub_of_le {a b : Nat} (h : b ≤ a) : usizeSub a b = .ok (a - b) := by
  simp [usizeSub, Nat.not_lt.2 h]

/-! ## Big-endian bit fields -/

/-- The value `u16::from(h & mask) << 8 | u16::from(l)` of a big-endian field. -/
def u16Field (h l mask : UInt8) : UInt16 := ((h &&& mask).toUInt16 <<< 8) ||| l.toUInt16

/-- The field `u16::from(data[hi] & mask) << 8 | u16::from(data[lo])`. Every PSI accessor of
`demultiplex.rs` is this with its own byte positions and mask. -/
def readU16 (data : List UInt8) (hi lo : Nat) (mask : UInt8) : Except Panic UInt16 := do
  let h ← index data hi
  let l ← index data lo
  .ok (u16Field h l mask)

theorem readU16_of_lt {data : List UInt8} {hi lo : Nat} (mask : UInt8) (hh : hi < data.length)
    (hl : lo < data.length) : readU16 data hi lo mask = .ok (u16Field data[hi] data[lo] mask) := by
  simp [readU16, index_of_lt hh, index_of_lt hl]

private theorem UInt16.toNat_or' (a b : UInt16) : (a ||| b).toNat = a.toNat ||| b.toNat := by
  show (a.toBitVec ||| b.toBitVec).toNat = _
  simp [UInt16.toNat]

private theorem UInt16.toNat_shiftLeft_eight (a : UInt16) :
    (a <<< 8).toNat = a.toNat * 256 % 65536 := by
  show (a.toBitVec <<< (UInt16.mod 8 16).toBitVec).toNat = _
  simp [UInt16.toNat, Nat.shiftLeft_eq]
  rfl

@[simp]
theorem UInt8.toNat_toUInt16' (b : UInt8) : b.toUInt16.toNat = b.toNat := by
  simp [UInt8.toUInt16, UInt16.toNat, UInt8.toNat]

/-- The value of a big-endian field: the masked high byte times 256 plus the low byte. -/
theorem u16Field_toNat (h l mask : UInt8) :
    (u16Field h l mask).toNat = (h &&& mask).toNat * 256 + l.toNat := by
  have hh := (h &&& mask).toNat_lt_size
  have hl := l.toNat_lt_size
  simp only [UInt8.size] at hh hl
  rw [u16Field, UInt16.toNat_or', UInt16.toNat_shiftLeft_eight, UInt8.toNat_toUInt16',
    UInt8.toNat_toUInt16', Nat.mod_eq_of_lt (by omega), Nat.mul_comm,
    ← Nat.mul_add_lt_is_or (i := 8) (by omega)]

/-- A field under the mask `0x1f` is a 13-bit PID. -/
theorem u16Field_toNat_lt (h l : UInt8) : (u16Field h l 0x1f).toNat < 0x2000 := by
  have hl := l.toNat_lt_size
  have hm : (h &&& 0x1f).toNat < 32 := by
    rw [UInt8.and_toNat]
    exact Nat.lt_of_le_of_lt Nat.and_le_right (by decide)
  simp only [UInt8.size] at hl
  rw [u16Field_toNat]
  omega

/-! ## Packets -/

/-- Modelled from the spec: `packet::PACKET_SIZE`, the fixed size of a transport stream packet
(§6). -/
def packetSize : Nat := 188

/-- Modelled from the spec: `packet::Packet`, a view of the bytes of one packet. -/
structure Packet where
  /-- The packet's bytes. -/
  buf : List UInt8
  deriving DecidableEq, Repr

namespace Packet

/-- Modelled from the spec: `Packet::is_sync_byte`, the packet's first byte is `0x47` (§6). -/
def isSyncByte (b : UInt8) : Bool := b == 0x47

/-- Modelled from the spec: `Packet::new`. -/
def new (buf : List UInt8) : Packet := ⟨buf⟩

/-- Modelled from the spec: `Packet::pid`, the 13-bit PID in the low five bits of byte 1 and
all of byte 2 (§6). -/
def pid (pk : Packet) : UInt16 :=
  ((pk.buf.getD 1 0 &&& 0x1f).toUInt16 <<< 8) ||| (pk.buf.getD 2 0).toUInt16

@[simp]
theorem new_buf (pk : Packet) : Packet.new pk.buf = pk := rfl

/-- A packet's first byte, read with `pk_buf[0]`. -/
theorem index_zero {pk : Packet} (h : pk.buf.length = packetSize) :
    index pk.buf 0 = .ok (pk.buf.getD 0 0) := by
  rw [index_of_lt (by rw [h]; decide), List.getD_eq_getElem?_getD,
    List.getElem?_eq_getElem (by rw [h]; decide), Option.getD_some]

end Packet

end Mpeg2TsReader
